import Oai5g.Upf.PfcpParse

/-!
# PFCP messages whose load goes on for ever

* `FqdnLeadsBack`: a Node ID whose FQDN `dotted_to_string` never gets to the end of; `run_endless_iff`: no
  other reader goes on for ever.
* `Astray`: the load comes to such a Node ID.
* `newPfcpIe_eq_of_ends`: the load is the same with every bound that is enough.
* **`loadMsg_endless_iff`**: the load goes on for ever exactly when it comes to such a Node ID.
-/

namespace Oai5g.Upf.Pfcp

/-! ## The property -/

section

variable (uninit : ℕ → ℕ → UInt8)

/-- A Node ID with an FQDN whose labels lead to an octet twice. -/
structure FqdnLeadsBack (is : List UInt8) : Prop where
  nodeId : ieKind (loadTlv is).1 = some (.plain nodeIdIe)
  length : 2 ≤ (loadTlv is).2
  fqdn : ((is.drop 4).headD (uninit (is.drop 4).length 0)).toNat % 16 = 2
  leadsBack : LeadsBack (readChars (fun i => uninit (is.drop 4).length (i + 1)) ((loadTlv is).2 - 1)
    (is.drop 4).tail)

/-- IEs are read while something remains of a length, and they come to such a Node ID. -/
inductive AstrayIn : ℤ → List UInt8 → Prop
  | here {remainingSize : ℤ} {is : List UInt8} :
      0 < remainingSize → FqdnLeadsBack uninit is → AstrayIn remainingSize is
  | inside {remainingSize : ℤ} {is : List UInt8} :
      0 < remainingSize → (loadTlv is).2 ≠ 0 → ieKind (loadTlv is).1 = some .grouped →
      AstrayIn (loadTlv is).2 (is.drop 4) → AstrayIn remainingSize is
  | behind {remainingSize : ℤ} {is rest : List UInt8} {fuel : ℕ} {ie : Ie} :
      0 < remainingSize → newPfcpIe uninit fuel is = .ok (some ie, rest) →
      AstrayIn (remainingSize - ie.size) rest → AstrayIn remainingSize is

/-- **In a message**, IEs are read while their sizes, added up in 16 bits, are below the length. -/
inductive AstrayIes (checkMsgLength : ℕ) : ℕ → List UInt8 → Prop
  | first {iesLength : ℕ} {is : List UInt8} : AstrayIn uninit 1 is → AstrayIes checkMsgLength iesLength is
  | behind {iesLength : ℕ} {is rest : List UInt8} {fuel : ℕ} {ie : Ie} :
      newPfcpIe uninit fuel is = .ok (some ie, rest) → (iesLength + ie.size) % 2 ^ 16 < checkMsgLength →
      AstrayIes checkMsgLength ((iesLength + ie.size) % 2 ^ 16) rest → AstrayIes checkMsgLength iesLength is

/-- The load comes to a Node ID whose FQDN leads back. -/
def Astray (is : List UInt8) : Prop :=
  0 < checkMsgLength is ∧ AstrayIes uninit (checkMsgLength is) 0 (behindHeader is)

end

variable {uninit : ℕ → ℕ → UInt8}

/-! ## The readers -/

theorem nodeIdReads_endless_iff {len : ℕ} {uninit : ℕ → UInt8} {is : List UInt8} :
    nodeIdReads len uninit is = .error .endless ↔ (is.headD (uninit 0)).toNat % 16 = 2 ∧ len - 1 ≠ 0 ∧
      LeadsBack (readChars (fun i => uninit (i + 1)) (len - 1) is.tail) := by
  unfold nodeIdReads
  split
  · next htype =>
    rw [htype]
    split_ifs <;> exact iff_of_false nofun fun h => nomatch h.1
  · next htype =>
    rw [htype]
    split_ifs <;> exact iff_of_false nofun fun h => nomatch h.1
  · next htype =>
    rw [← dottedToString_endless_iff]
    split_ifs with hlen
    · exact iff_of_false nofun fun h => h.2.1 hlen
    · split
      · next halt hhalt =>
        rw [hhalt]
        rw [Except.error.injEq, Except.error.injEq]
        exact ⟨fun h => ⟨htype, hlen, h⟩, fun h => h.2.2⟩
      · next noDot hok =>
        rw [hok]
        exact iff_of_false nofun fun h => nomatch h.2.2
  · next h0 h1 h2 => exact iff_of_false nofun fun h => h2 h.1

/-- **Only a Node ID makes its reader go on for ever.** -/
theorem run_endless_iff {is : List UInt8} {loadFrom : LoadFrom}
    (hkind : ieKind (loadTlv is).1 = some (.plain loadFrom)) :
    loadFrom.run (loadTlv is).2 (uninit (is.drop 4).length) (is.drop 4) = .error .endless ↔
      FqdnLeadsBack uninit is := by
  cases loadFrom with
  | simple reads =>
    refine iff_of_false ?_ fun h => ?_
    · rw [LoadFrom.run]
      cases reads (loadTlv is).2 (uninit (is.drop 4).length) (is.drop 4) <;> nofun
    · have hnode := h.nodeId
      rw [hkind] at hnode
      cases hnode
  | nodeId =>
    rw [LoadFrom.run, nodeIdReads_endless_iff]
    constructor
    · rintro ⟨hfqdn, hlen, hback⟩
      exact ⟨hkind, by omega, hfqdn, hback⟩
    · rintro ⟨-, hlen, hfqdn, hback⟩
      exact ⟨hfqdn, by omega, hback⟩

/-! ## From a load that goes on for ever -/

theorem astrayIn_one_iff {is : List UInt8} : AstrayIn uninit 1 is ↔
    FqdnLeadsBack uninit is ∨
      (loadTlv is).2 ≠ 0 ∧ ieKind (loadTlv is).1 = some .grouped ∧
        AstrayIn uninit (loadTlv is).2 (is.drop 4) := by
  have hover : ∀ {remainingSize : ℤ} {is : List UInt8}, AstrayIn uninit remainingSize is →
      0 < remainingSize := by
    intro remainingSize is h
    cases h <;> assumption
  constructor
  · intro h
    cases h with
    | here _ h => exact .inl h
    | inside _ hlength hkind h => exact .inr ⟨hlength, hkind, h⟩
    | behind _ _ h =>
      have := hover h
      unfold Ie.size at this
      omega
  · rintro (h | ⟨hlength, hkind, h⟩)
    · exact .here Int.one_pos h
    · exact .inside Int.one_pos hlength hkind h

theorem AstrayIn.of_one {remainingSize : ℤ} {is : List UInt8} (hpos : 0 < remainingSize)
    (h : AstrayIn uninit 1 is) : AstrayIn uninit remainingSize is := by
  rcases astrayIn_one_iff.mp h with h | ⟨hlength, hkind, h⟩
  · exact .here hpos h
  · exact .inside hpos hlength hkind h

theorem newPfcpIe_astray {fuel : ℕ} {is : List UInt8}
    (hgrouped : ∀ remainingSize is, loadGrouped uninit fuel remainingSize is = .error (.halted .endless) →
      AstrayIn uninit remainingSize is)
    (h : newPfcpIe uninit (fuel + 1) is = .error (.halted .endless)) : AstrayIn uninit 1 is := by
  rw [newPfcpIe] at h
  split at h
  · cases h
  · next hlength =>
    split at h
    · cases h
    · next hkind =>
      split at h
      · next halt hhalt =>
        cases h
        exact .here Int.one_pos ((run_endless_iff hkind).mp hhalt)
      · cases h
    · next hkind =>
      split at h
      · next e he =>
        cases h
        exact .inside Int.one_pos hlength hkind (hgrouped _ _ he)
      · cases h

theorem load_astray (uninit : ℕ → ℕ → UInt8) (fuel : ℕ) :
    (∀ is, newPfcpIe uninit fuel is = .error (.halted .endless) → AstrayIn uninit 1 is) ∧
      ∀ remainingSize is, loadGrouped uninit fuel remainingSize is = .error (.halted .endless) →
        AstrayIn uninit remainingSize is := by
  induction fuel with
  | zero =>
    constructor
    · intro is h
      rw [newPfcpIe] at h
      cases h
    · intro remainingSize is h
      rw [loadGrouped] at h
      cases h
  | succ fuel ih =>
    refine ⟨fun is => newPfcpIe_astray ih.2, fun remainingSize is h => ?_⟩
    rw [loadGrouped] at h
    split at h
    · cases h
    · next hgoes =>
      have hpos : 0 < remainingSize := by omega
      split at h
      · next e he =>
        cases h
        exact (ih.1 is he).of_one hpos
      · cases h
      · next ie rest hie =>
        split at h
        · next e he =>
          cases h
          exact .behind hpos hie (ih.2 _ _ he)
        · cases h

theorem loadIes_astray {checkMsgLength fuel iesLength : ℕ} {is : List UInt8}
    (h : loadIes uninit checkMsgLength fuel iesLength is = .error (.halted .endless)) :
    AstrayIes uninit checkMsgLength iesLength is := by
  induction fuel generalizing iesLength is with
  | zero =>
    rw [loadIes] at h
    cases h
  | succ fuel ih =>
    rw [loadIes] at h
    split at h
    · next e he =>
      cases h
      exact .first ((load_astray uninit fuel).1 is he)
    · cases h
    · next ie rest hie =>
      dsimp only at h
      split at h
      · next hgoes =>
        split at h
        · next e he =>
          cases h
          exact .behind hie hgoes (ih he)
        · cases h
      · cases h

/-! ## To a load that goes on for ever -/

theorem load_succ (uninit : ℕ → ℕ → UInt8) (fuel : ℕ) :
    (∀ is, newPfcpIe uninit fuel is ≠ .error .outOfFuel →
      newPfcpIe uninit (fuel + 1) is = newPfcpIe uninit fuel is) ∧
      ∀ remainingSize is, loadGrouped uninit fuel remainingSize is ≠ .error .outOfFuel →
        loadGrouped uninit (fuel + 1) remainingSize is = loadGrouped uninit fuel remainingSize is := by
  induction fuel with
  | zero =>
    constructor
    · intro is h
      exact absurd (by rw [newPfcpIe]) h
    · intro remainingSize is h
      exact absurd (by rw [loadGrouped]) h
  | succ fuel ih =>
    constructor
    · intro is h
      rw [newPfcpIe] at h
      rw [newPfcpIe, newPfcpIe]
      split
      · rfl
      · next hlength =>
        rw [if_neg hlength] at h
        split
        · rfl
        · rfl
        · next hkind =>
          rw [hkind] at h
          rw [ih.2 (loadTlv is).2 (is.drop 4) fun he => h (by simp only [he])]
    · intro remainingSize is h
      rw [loadGrouped] at h
      rw [loadGrouped.eq_2, loadGrouped.eq_2]
      split
      · rfl
      · next hgoes =>
        rw [if_neg hgoes] at h
        rw [ih.1 is fun he => h (by simp only [he])]
        split
        · rfl
        · rfl
        · next ie rest hie =>
          rw [hie] at h
          rw [ih.2 (remainingSize - ie.size) rest fun he => h (by simp only [he])]

theorem newPfcpIe_eq_of_le {fuel fuel' : ℕ} {is : List UInt8} (hle : fuel ≤ fuel')
    (h : newPfcpIe uninit fuel is ≠ .error .outOfFuel) :
    newPfcpIe uninit fuel' is = newPfcpIe uninit fuel is := by
  induction fuel', hle using Nat.le_induction with
  | base => rfl
  | succ n _ ih => rw [(load_succ uninit n).1 is (by rwa [ih]), ih]

/-- **The load of an IE is the same with every bound that is enough.** -/
theorem newPfcpIe_eq_of_ends {fuel fuel' : ℕ} {is : List UInt8}
    (h : newPfcpIe uninit fuel is ≠ .error .outOfFuel) (h' : newPfcpIe uninit fuel' is ≠ .error .outOfFuel) :
    newPfcpIe uninit fuel is = newPfcpIe uninit fuel' is := by
  rw [← newPfcpIe_eq_of_le (le_max_left fuel fuel') h, newPfcpIe_eq_of_le (le_max_right fuel fuel') h']

theorem newPfcpIe_of_ok {fuel fuel' : ℕ} {is rest : List UInt8} {ie : Ie}
    (h : newPfcpIe uninit fuel is = .ok (some ie, rest)) (hfuel : is.length + 1 ≤ fuel') :
    newPfcpIe uninit fuel' is = .ok (some ie, rest) := by
  rw [← h]
  refine newPfcpIe_eq_of_ends ((load_ends uninit fuel').1 is hfuel) ?_
  rw [h]
  nofun

theorem newPfcpIe_fqdnLeadsBack {fuel : ℕ} {is : List UInt8} (h : FqdnLeadsBack uninit is) :
    newPfcpIe uninit (fuel + 1) is = .error (.halted .endless) := by
  have hlength : (loadTlv is).2 ≠ 0 := by
    have := h.length
    omega
  have hrun := (run_endless_iff h.nodeId).mpr h
  simp only [newPfcpIe, if_neg hlength, h.nodeId, hrun]

theorem newPfcpIe_inside {fuel : ℕ} {is : List UInt8} (hlength : (loadTlv is).2 ≠ 0)
    (hkind : ieKind (loadTlv is).1 = some .grouped)
    (h : loadGrouped uninit fuel (loadTlv is).2 (is.drop 4) = .error (.halted .endless)) :
    newPfcpIe uninit (fuel + 1) is = .error (.halted .endless) := by
  simp only [newPfcpIe, if_neg hlength, hkind, h]

theorem loadGrouped_of_astray {remainingSize : ℤ} {is : List UInt8} (h : AstrayIn uninit remainingSize is)
    {fuel : ℕ} (hfuel : is.length + 2 ≤ fuel) :
    loadGrouped uninit fuel remainingSize is = .error (.halted .endless) := by
  induction h generalizing fuel with
  | here hpos h =>
    obtain ⟨fuel, rfl⟩ : ∃ n, fuel = n + 2 := ⟨fuel - 2, by omega⟩
    rw [loadGrouped, if_neg (by omega), newPfcpIe_fqdnLeadsBack h]
  | inside hpos hlength hkind _ ih =>
    have hthree := three_le_of_length_ne_zero hlength
    obtain ⟨fuel, rfl⟩ : ∃ n, fuel = n + 2 := ⟨fuel - 2, by omega⟩
    rw [loadGrouped, if_neg (by omega), newPfcpIe_inside hlength hkind (ih (by omega))]
  | behind hpos hie _ ih =>
    have hthree := (load_takes uninit _).1 _ _ _ hie
    obtain ⟨fuel, rfl⟩ : ∃ n, fuel = n + 1 := ⟨fuel - 1, by omega⟩
    simp only [loadGrouped, if_neg (not_le.mpr hpos), newPfcpIe_of_ok hie (show _ ≤ fuel by omega),
      ih (show _ ≤ fuel by omega)]

theorem newPfcpIe_of_astray {is : List UInt8} (h : AstrayIn uninit 1 is) {fuel : ℕ}
    (hfuel : is.length + 1 ≤ fuel) : newPfcpIe uninit fuel is = .error (.halted .endless) := by
  obtain ⟨fuel, rfl⟩ : ∃ n, fuel = n + 1 := ⟨fuel - 1, by omega⟩
  rcases astrayIn_one_iff.mp h with h | ⟨hlength, hkind, h⟩
  · exact newPfcpIe_fqdnLeadsBack h
  · have hthree := three_le_of_length_ne_zero hlength
    exact newPfcpIe_inside hlength hkind (loadGrouped_of_astray h (by omega))

theorem loadIes_of_astray {checkMsgLength iesLength : ℕ} {is : List UInt8}
    (h : AstrayIes uninit checkMsgLength iesLength is) {fuel : ℕ} (hfuel : is.length + 2 ≤ fuel) :
    loadIes uninit checkMsgLength fuel iesLength is = .error (.halted .endless) := by
  induction h generalizing fuel with
  | first h =>
    obtain ⟨fuel, rfl⟩ : ∃ n, fuel = n + 1 := ⟨fuel - 1, by omega⟩
    simp only [loadIes, newPfcpIe_of_astray h (show _ ≤ fuel by omega)]
  | behind hie hgoes _ ih =>
    have hthree := (load_takes uninit _).1 _ _ _ hie
    obtain ⟨fuel, rfl⟩ : ∃ n, fuel = n + 1 := ⟨fuel - 1, by omega⟩
    simp only [loadIes, newPfcpIe_of_ok hie (show _ ≤ fuel by omega), if_pos hgoes,
      ih (show _ ≤ fuel by omega)]

/-! ## The result -/

/-- **The load of a message goes on for ever exactly when it comes to a Node ID whose FQDN leads back.** -/
theorem loadMsg_endless_iff {is : List UInt8} {fuel : ℕ} (hfuel : is.length + 2 ≤ fuel) :
    loadMsg uninit fuel is = .error (.halted .endless) ↔ Astray uninit is := by
  have hlength : (behindHeader is).length ≤ is.length := by
    rw [behindHeader, List.length_drop]
    exact Nat.sub_le _ _
  unfold loadMsg loadChecked
  constructor
  · intro h
    split at h
    · next e he =>
      cases h
      split at he
      · next hpos => exact ⟨hpos, loadIes_astray he⟩
      · cases he
    · split at h <;> cases h
  · rintro ⟨hpos, h⟩
    rw [if_pos hpos, loadIes_of_astray h (by omega)]

end Oai5g.Upf.Pfcp
