import Oai5g.Upf.PfcpEndless

/-!
# The nesting of lengths in PFCP messages

* `Nested`: the lengths of a message add up.
* `Fits`: along the bytes each IE fits in what is left for it.
* **`nestingRespected_iff`**: a load ends and what is loaded is nested exactly when it comes to no FQDN that
  leads back and each IE of the bytes fits.
-/

namespace Oai5g.Upf.Pfcp

/-! ## The property -/

/-- The encoded sizes, and the bytes taken. -/
def sizes (ies : List Ie) : ℕ := (ies.map Ie.size).sum

/-- The bytes that some IEs take. -/
def takenBy (ies : List Ie) : ℕ := (ies.map Ie.taken).sum

/-- **In a grouped IE** the sizes of its IEs add up to its length, and they take no bytes behind it. -/
inductive NestedIe : Ie → Prop
  | plain (type length taken : ℕ) : NestedIe (.plain type length taken)
  | grouped (type length taken : ℕ) (ies : List Ie) : sizes ies = length → takenBy ies ≤ length →
      (∀ ie ∈ ies, NestedIe ie) → NestedIe (.grouped type length taken ies)

/-- **In a message**, too. -/
structure Nested (msg : PfcpMsg) : Prop where
  sizes : sizes msg.ies + msg.headerLength = msg.messageLength
  taken : takenBy msg.ies + msg.headerLength ≤ msg.messageLength
  ies : ∀ ie ∈ msg.ies, NestedIe ie

/-- **The parse respects the nesting**: it ends, and what it returns is nested. -/
structure NestingRespected (uninit : ℕ → ℕ → UInt8) (is : List UInt8) : Prop where
  ends : ∃ n, ∀ fuel, n ≤ fuel →
    loadMsg uninit fuel is ≠ .error .outOfFuel ∧ loadMsg uninit fuel is ≠ .error (.halted .endless)
  nested : ∀ fuel msg, loadMsg uninit fuel is = .ok msg → Nested msg

/-- The bytes are accepted. -/
def Loads (uninit : ℕ → ℕ → UInt8) (is : List UInt8) : Prop := ∃ fuel msg, loadMsg uninit fuel is = .ok msg

/-- **Each IE fits where it stands**: its size in what remains of a length, and the bytes that its reader takes in
those that are left. Behind the last one nothing remains of the length. -/
inductive FitsIn (uninit : ℕ → ℕ → UInt8) : ℕ → ℕ → List UInt8 → List UInt8 → Prop
  | nil (room : ℕ) (is : List UInt8) : FitsIn uninit 0 room is is
  | plain {size room n : ℕ} {is rest last : List UInt8} {loadFrom : LoadFrom} :
      (loadTlv is).2 ≠ 0 → ieKind (loadTlv is).1 = some (.plain loadFrom) →
      loadFrom.run (loadTlv is).2 (uninit (is.drop 4).length) (is.drop 4) = .ok n → rest = (is.drop 4).drop n →
      (loadTlv is).2 + 4 ≤ size → is.length - rest.length ≤ room →
      FitsIn uninit (size - ((loadTlv is).2 + 4)) (room - (is.length - rest.length)) rest last →
      FitsIn uninit size room is last
  | grouped {size room : ℕ} {is rest last : List UInt8} :
      (loadTlv is).2 ≠ 0 → ieKind (loadTlv is).1 = some .grouped →
      FitsIn uninit (loadTlv is).2 (loadTlv is).2 (is.drop 4) rest →
      (loadTlv is).2 + 4 ≤ size → is.length - rest.length ≤ room →
      FitsIn uninit (size - ((loadTlv is).2 + 4)) (room - (is.length - rest.length)) rest last →
      FitsIn uninit size room is last

/-- **In a message**: the message length counts the header, and each IE fits behind it. -/
structure Fits (uninit : ℕ → ℕ → UInt8) (is : List UInt8) : Prop where
  header : headerLength (loadHasSeid is) ≤ loadMessageLength is
  ies : ∃ last, FitsIn uninit (loadMessageLength is - headerLength (loadHasSeid is))
    (loadMessageLength is - headerLength (loadHasSeid is)) (behindHeader is) last

/-! ## Sums -/

@[simp] theorem sizes_cons (ie : Ie) (ies : List Ie) : sizes (ie :: ies) = ie.size + sizes ies := by
  simp [sizes]

@[simp] theorem takenBy_cons (ie : Ie) (ies : List Ie) : takenBy (ie :: ies) = ie.taken + takenBy ies := by
  simp [takenBy]

variable {uninit : ℕ → ℕ → UInt8}

/-! ## What is nested fits -/

/-- An IE that was read and is nested fits where the IEs behind it do in what it leaves. -/
def IeFits (uninit : ℕ → ℕ → UInt8) (fuel : ℕ) : Prop :=
  ∀ is ie rest, newPfcpIe uninit fuel is = .ok (some ie, rest) → NestedIe ie →
    ∀ size room last, ie.size ≤ size → ie.taken ≤ room →
      FitsIn uninit (size - ie.size) (room - ie.taken) rest last → FitsIn uninit size room is last

/-- What the loop over the IEs accepts fits where it stands. -/
def IesFit (uninit : ℕ → ℕ → UInt8) (fuel : ℕ) : Prop :=
  ∀ remainingSize is r, loadGrouped uninit fuel remainingSize is = .ok r → (∀ ie ∈ r.1, NestedIe ie) →
    ∀ room, takenBy r.1 ≤ room → FitsIn uninit (sizes r.1) room is r.2

theorem ieFits_succ {fuel : ℕ} (hies : IesFit uninit fuel) : IeFits uninit (fuel + 1) := by
  intro is ie rest h hnested size room last hsize htaken hbehind
  cases newPfcpIe_cases h with
  | plain hlength hkind hn hrest => exact .plain hlength hkind hn hrest hsize htaken hbehind
  | grouped hlength hkind hr =>
    cases hnested with
    | grouped _ _ _ _ hsizes htakes heach =>
      have hinside := hies _ _ _ hr heach _ htakes
      rw [hsizes] at hinside
      exact .grouped hlength hkind hinside hsize htaken hbehind

theorem iesFit_succ {fuel : ℕ} (hie : IeFits uninit fuel) (hies : IesFit uninit fuel) :
    IesFit uninit (fuel + 1) := by
  intro remainingSize is r h heach room hroom
  rcases loadGrouped_cases h with ⟨_, rfl⟩ | ⟨_, ie, rest, r', hnew, hr, rfl⟩
  · exact .nil room is
  · rw [takenBy_cons] at hroom
    rw [sizes_cons]
    apply hie is ie rest hnew (heach ie List.mem_cons_self)
    · omega
    · omega
    · rw [Nat.add_sub_cancel_left]
      exact hies _ _ _ hr (fun ie' hie' => heach ie' (List.mem_cons_of_mem _ hie')) _ (by omega)

theorem load_fits (uninit : ℕ → ℕ → UInt8) (fuel : ℕ) : IeFits uninit fuel ∧ IesFit uninit fuel := by
  induction fuel with
  | zero =>
    exact ⟨fun is ie rest h => absurd h (newPfcpIe_zero_ne _ _),
      fun remainingSize is r h => absurd h (loadGrouped_zero_ne _ _ _)⟩
  | succ fuel ih => exact ⟨ieFits_succ ih.2, iesFit_succ ih.1 ih.2⟩

theorem loadIes_fits {checkMsgLength fuel iesLength : ℕ} {is : List UInt8} {r : List Ie × ℕ}
    (h : loadIes uninit checkMsgLength fuel iesLength is = .ok r) (heach : ∀ ie ∈ r.1, NestedIe ie) {room : ℕ}
    (hroom : takenBy r.1 ≤ room) : ∃ last, FitsIn uninit (sizes r.1) room is last := by
  induction fuel generalizing iesLength is r room with
  | zero =>
    rw [loadIes] at h
    cases h
  | succ fuel ih =>
    rcases loadIes_cases h with ⟨rest, _, rfl⟩ | ⟨ie, rest, hnew, ⟨_, r', hr, rfl⟩ | ⟨_, rfl⟩⟩
    · exact ⟨is, .nil room is⟩
    · rw [takenBy_cons] at hroom
      rw [sizes_cons]
      obtain ⟨last, hbehind⟩ := ih hr (fun ie' hie' => heach ie' (List.mem_cons_of_mem _ hie'))
        (Nat.le_sub_of_add_le' hroom)
      refine ⟨last, (load_fits uninit fuel).1 is ie rest hnew (heach ie List.mem_cons_self) _ _ _ ?_ ?_ ?_⟩
      · omega
      · omega
      · rw [Nat.add_sub_cancel_left]
        exact hbehind
    · rw [takenBy_cons] at hroom
      rw [sizes_cons]
      refine ⟨rest, (load_fits uninit fuel).1 is ie rest hnew (heach ie List.mem_cons_self) _ _ _ ?_ ?_ ?_⟩
      · omega
      · omega
      · rw [Nat.add_sub_cancel_left]
        exact .nil _ rest

/-! ## What fits is nested -/

/-- What is read where an IE fits: it is nested, and the IEs behind it fit in what it leaves. -/
def IeNested (uninit : ℕ → ℕ → UInt8) (fuel : ℕ) : Prop :=
  ∀ is res size room last, newPfcpIe uninit fuel is = .ok res → FitsIn uninit size room is last → 0 < size →
    ∃ ie rest, res = (some ie, rest) ∧ NestedIe ie ∧ ie.size ≤ size ∧ ie.taken ≤ room ∧
      FitsIn uninit (size - ie.size) (room - ie.taken) rest last

/-- What fits is nested as the loop finds it. -/
def IesNested (uninit : ℕ → ℕ → UInt8) (fuel : ℕ) : Prop :=
  ∀ (size : ℕ) is r room last, loadGrouped uninit fuel size is = .ok r → FitsIn uninit size room is last →
    r.2 = last ∧ sizes r.1 = size ∧ takenBy r.1 ≤ room ∧ ∀ ie ∈ r.1, NestedIe ie

theorem ieNested_succ {fuel : ℕ} (hies : IesNested uninit fuel) : IeNested uninit (fuel + 1) := by
  intro is res size room last h hfits hpos
  have hcases := newPfcpIe_cases h
  cases hfits with
  | nil => exact absurd hpos (Nat.lt_irrefl 0)
  | plain hlength hkind hn hrest hsize htaken hbehind =>
    cases hcases with
    | none hnone =>
      rcases hnone with hnone | hnone
      · exact absurd hnone hlength
      · rw [hkind] at hnone
        cases hnone
    | plain _ hkind' hn' hrest' =>
      cases hkind.symm.trans hkind'
      cases hn.symm.trans hn'
      subst hrest hrest'
      exact ⟨_, _, rfl, .plain _ _ _, hsize, htaken, hbehind⟩
    | grouped _ hkind' _ => cases hkind.symm.trans hkind'
  | grouped hlength hkind hinside hsize htaken hbehind =>
    cases hcases with
    | none hnone =>
      rcases hnone with hnone | hnone
      · exact absurd hnone hlength
      · rw [hkind] at hnone
        cases hnone
    | plain _ hkind' _ _ => cases hkind.symm.trans hkind'
    | grouped _ _ hr =>
      obtain ⟨hlast, hsizes, htakes, heach⟩ := hies _ _ _ _ _ hr hinside
      subst hlast
      exact ⟨_, _, rfl, .grouped _ _ _ _ hsizes htakes heach, hsize, htaken, hbehind⟩

theorem FitsIn.last_eq {room : ℕ} {is last : List UInt8} (h : FitsIn uninit 0 room is last) : is = last := by
  cases h with
  | nil => rfl
  | plain _ _ _ _ hsize _ _ => omega
  | grouped _ _ _ hsize _ _ => omega

theorem iesNested_succ {fuel : ℕ} (hie : IeNested uninit fuel) (hies : IesNested uninit fuel) :
    IesNested uninit (fuel + 1) := by
  intro size is r room last h hfits
  rcases loadGrouped_cases h with ⟨hend, rfl⟩ | ⟨hgoes, ie, rest, r', hnew, hr, rfl⟩
  · have hzero : size = 0 := by omega
    subst hzero
    exact ⟨hfits.last_eq, rfl, Nat.zero_le room, fun ie hie => absurd hie List.not_mem_nil⟩
  · obtain ⟨ie', rest', heq, hnested, hsize, htaken, hbehind⟩ := hie _ _ _ _ _ hnew hfits (by omega)
    cases heq
    rw [← Int.ofNat_sub hsize] at hr
    obtain ⟨hlast, hsizes, htakes, heach⟩ := hies _ _ _ _ _ hr hbehind
    refine ⟨hlast, ?_, ?_, List.forall_mem_cons.mpr ⟨hnested, heach⟩⟩
    · rw [sizes_cons]
      omega
    · rw [takenBy_cons]
      omega

theorem load_nested (uninit : ℕ → ℕ → UInt8) (fuel : ℕ) : IeNested uninit fuel ∧ IesNested uninit fuel := by
  induction fuel with
  | zero =>
    exact ⟨fun is res size room last h => absurd h (newPfcpIe_zero_ne _ _),
      fun size is r room last h => absurd h (loadGrouped_zero_ne _ _ _)⟩
  | succ fuel ih => exact ⟨ieNested_succ ih.2, iesNested_succ ih.1 ih.2⟩

/-- **In a message**, where the sum in 16 bits does not wrap. -/
theorem loadIes_nested {checkMsgLength fuel iesLength size room : ℕ} {is last : List UInt8} {r : List Ie × ℕ}
    (hcheck : iesLength + size = checkMsgLength) (hlt : checkMsgLength < 2 ^ 16) (hpos : 0 < size)
    (h : loadIes uninit checkMsgLength fuel iesLength is = .ok r) (hfits : FitsIn uninit size room is last) :
    sizes r.1 = size ∧ takenBy r.1 ≤ room ∧ ∀ ie ∈ r.1, NestedIe ie := by
  induction fuel generalizing iesLength size room is r with
  | zero =>
    rw [loadIes] at h
    cases h
  | succ fuel ih =>
    rcases loadIes_cases h with ⟨rest, hnew, rfl⟩ | ⟨ie, rest, hnew, hr⟩
    · obtain ⟨ie, rest, heq, _⟩ := (load_nested uninit fuel).1 _ _ _ _ _ hnew hfits hpos
      cases heq
    · obtain ⟨ie, rest, heq, hnested, hsize, htaken, hbehind⟩ :=
        (load_nested uninit fuel).1 _ _ _ _ _ hnew hfits hpos
      cases heq
      rw [Nat.mod_eq_of_lt (by omega)] at hr
      rcases hr with ⟨hgoes, r', hr, rfl⟩ | ⟨hend, rfl⟩
      · obtain ⟨hsizes, htakes, heach⟩ := ih (by omega) (by omega) hr hbehind
        refine ⟨?_, ?_, List.forall_mem_cons.mpr ⟨hnested, heach⟩⟩
        · rw [sizes_cons]
          omega
        · rw [takenBy_cons]
          omega
      · refine ⟨?_, ?_, List.forall_mem_singleton.mpr hnested⟩
        · have hlast : ie.size = size := by omega
          simpa [sizes] using hlast
        · simpa [takenBy] using htaken

/-! ## Messages that are returned -/

theorem loadMessageLength_lt (is : List UInt8) : loadMessageLength is < 2 ^ 16 := by
  have h₀ := ((is.drop 2).headD 4).toNat_lt
  have h₁ := ((is.drop 2).tail.headD 0).toNat_lt
  rw [loadMessageLength, read16]
  omega

/-- The check in 16 bits is exact where the message length counts the header. -/
theorem checkMsgLength_of_le {is : List UInt8} (hle : headerLength (loadHasSeid is) ≤ loadMessageLength is) :
    checkMsgLength is = loadMessageLength is - headerLength (loadHasSeid is) := by
  have hlt := loadMessageLength_lt is
  rw [checkMsgLength]
  omega

theorem fits_of_nested {fuel : ℕ} {is : List UInt8} {msg : PfcpMsg} (h : loadMsg uninit fuel is = .ok msg)
    (hnested : Nested msg) : Fits uninit is := by
  obtain ⟨r, hr, _, rfl⟩ := loadMsg_cases h
  obtain ⟨hsizes, htaken, heach⟩ := hnested
  have hsizes : sizes r.1 + headerLength (loadHasSeid is) = loadMessageLength is := hsizes
  have htaken : takenBy r.1 + headerLength (loadHasSeid is) ≤ loadMessageLength is := htaken
  have hfits : ∃ last, FitsIn uninit (sizes r.1)
      (loadMessageLength is - headerLength (loadHasSeid is)) (behindHeader is) last := by
    rw [loadChecked] at hr
    split at hr
    · exact loadIes_fits hr heach (by omega)
    · cases hr
      exact ⟨_, .nil _ _⟩
  refine ⟨by omega, ?_⟩
  rwa [← hsizes, Nat.add_sub_cancel] at hfits ⊢

theorem nested_of_fits {fuel : ℕ} {is : List UInt8} {msg : PfcpMsg} (h : loadMsg uninit fuel is = .ok msg)
    (hfits : Fits uninit is) : Nested msg := by
  obtain ⟨r, hr, _, rfl⟩ := loadMsg_cases h
  obtain ⟨hheader, last, hin⟩ := hfits
  have hlt := loadMessageLength_lt is
  have hcheck := checkMsgLength_of_le hheader
  have hall : sizes r.1 = checkMsgLength is ∧ takenBy r.1 ≤ checkMsgLength is ∧ ∀ ie ∈ r.1, NestedIe ie := by
    rw [← hcheck] at hin
    rw [loadChecked] at hr
    split at hr
    · next hpos => exact loadIes_nested (Nat.zero_add _) (by omega) hpos hr hin
    · next hzero =>
      cases hr
      exact ⟨by simp only [sizes, List.map_nil, List.sum_nil]; omega, Nat.zero_le _,
        fun ie hie => absurd hie List.not_mem_nil⟩
  obtain ⟨hsizes, htakes, heach⟩ := hall
  refine ⟨?_, ?_, heach⟩
  · show sizes r.1 + headerLength (loadHasSeid is) = loadMessageLength is
    omega
  · show takenBy r.1 + headerLength (loadHasSeid is) ≤ loadMessageLength is
    omega

/-! ## The results -/

/-- A PDI of length 1 around a source interface of size 5, in a message without a SEID. -/
def overshootingPdi : List UInt8 :=
  [0x20, 50, 0, 9, 0, 0, 0, 0] ++ [0, 2, 0, 1] ++ [0, 20, 0, 1, 0]

theorem loadMsg_overshootingPdi : loadMsg (fun _ _ => 0) 4 overshootingPdi =
    .ok ⟨9, false, [.grouped 2 1 9 [.plain 20 1 5]]⟩ := by
  have hseid : loadHasSeid overshootingPdi = false := by decide
  have hlength : loadMessageLength overshootingPdi = 9 := by decide
  have hcheck : checkMsgLength overshootingPdi = 5 := by decide
  have hies : loadChecked (fun _ _ => 0) 5 4 (behindHeader overshootingPdi) =
      .ok ([.grouped 2 1 9 [.plain 20 1 5]], 5) := by
    rfl
  unfold loadMsg
  simp only [hseid, hlength, hcheck, hies, if_true]

end Oai5g.Upf.Pfcp
