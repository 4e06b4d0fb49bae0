import Oai5g.Upf.PfcpIes

/-!
# PFCP messages from a stream

* `newPfcpIe`, `loadGrouped`, `loadIes`, `loadMsg`: `pfcp_ie::new_pfcp_ie_from_stream` and the loops of
  `pfcp_grouped_ie::load_from` and `pfcp_msg::load_from`, with a bound on the depth of calls.
* `NewPfcpIe`, `loadGrouped_cases`, `loadIes_cases`: what they return.
* **`loadMsg_ends`**: the bound that is enough, but for a reader that goes on for ever.
-/

namespace Oai5g.Upf.Pfcp

/-! ## Messages -/

/-- An IE that was read: its type, the length of its TLV, and how many bytes it took from the stream. -/
inductive Ie
  | plain (type length taken : ℕ)
  | grouped (type length taken : ℕ) (ies : List Ie)

namespace Ie

/-- The length that an IE states. -/
def length : Ie → ℕ
  | plain _ length _ => length
  | grouped _ length _ _ => length

/-- The bytes that the reader of an IE takes. -/
def taken : Ie → ℕ
  | plain _ _ taken => taken
  | grouped _ _ taken _ => taken

/-- The encoded size. -/
def size (ie : Ie) : ℕ := ie.length + 4

end Ie

/-- `pfcp_msg`: the length in its header, whether it has a SEID, and its IEs. -/
structure PfcpMsg where
  messageLength : ℕ
  hasSeid : Bool
  ies : List Ie

/-- What the message length counts of a header, with a SEID or without. -/
def headerLength (hasSeid : Bool) : ℕ := if hasSeid then 12 else 4

/-- The bytes of the header of a message. -/
def PfcpMsg.headerLength (msg : PfcpMsg) : ℕ := Pfcp.headerLength msg.hasSeid

/-- How a load is left without a result: at the bound, or as a reader leaves it. -/
inductive Stop
  | outOfFuel
  | halted (halt : Halt)
  deriving DecidableEq

/-! ## The source -/

/-- `pfcp_tlv::load_from`: type and length. -/
def loadTlv (is : List UInt8) : ℕ × ℕ := (read16 0 0 is, read16 0 0 (is.drop 2))

mutual

/-- `pfcp_ie::new_pfcp_ie_from_stream`, with what is left of the stream. -/
def newPfcpIe (uninit : ℕ → ℕ → UInt8) : ℕ → List UInt8 → Except Stop (Option Ie × List UInt8)
  | 0, _ => .error .outOfFuel
  | fuel + 1, is =>
    let tlv := loadTlv is
    let rest := is.drop 4
    if tlv.2 = 0 then .ok (none, rest)
    else
      match ieKind tlv.1 with
      | none => .ok (none, rest)
      | some (.plain loadFrom) =>
        match loadFrom.run tlv.2 (uninit rest.length) rest with
        | .error halt => .error (.halted halt)
        | .ok n => .ok (some (.plain tlv.1 tlv.2 (is.length - (rest.drop n).length)), rest.drop n)
      | some .grouped =>
        match loadGrouped uninit fuel tlv.2 rest with
        | .error e => .error e
        | .ok r => .ok (some (.grouped tlv.1 tlv.2 (is.length - r.2.length) r.1), r.2)

/-- `pfcp_grouped_ie::load_from`, from what remains of the length. -/
def loadGrouped (uninit : ℕ → ℕ → UInt8) : ℕ → ℤ → List UInt8 → Except Stop (List Ie × List UInt8)
  | 0, _, _ => .error .outOfFuel
  | fuel + 1, remainingSize, is =>
    if remainingSize ≤ 0 then .ok ([], is)
    else
      match newPfcpIe uninit fuel is with
      | .error e => .error e
      | .ok (none, _) => .error (.halted .thrown)
      | .ok (some ie, rest) =>
        match loadGrouped uninit fuel (remainingSize - ie.size) rest with
        | .error e => .error e
        | .ok r => .ok (ie :: r.1, r.2)

end

/-- The loop of `pfcp_msg::load_from` where there is something to check: the IEs, and the 16 bits in which their
sizes are added up. It ends at an IE that is none. -/
def loadIes (uninit : ℕ → ℕ → UInt8) (checkMsgLength : ℕ) : ℕ → ℕ → List UInt8 → Except Stop (List Ie × ℕ)
  | 0, _, _ => .error .outOfFuel
  | fuel + 1, iesLength, is =>
    match newPfcpIe uninit fuel is with
    | .error e => .error e
    | .ok (none, _) => .ok ([], iesLength)
    | .ok (some ie, rest) =>
      let iesLength := (iesLength + ie.size) % 2 ^ 16
      if iesLength < checkMsgLength then
        match loadIes uninit checkMsgLength fuel iesLength rest with
        | .error e => .error e
        | .ok r => .ok (ie :: r.1, r.2)
      else .ok ([ie], iesLength)

/-- `pfcp_msg_header::load_from`: the flag of the SEID. -/
def loadHasSeid (is : List UInt8) : Bool := (is.headD 0x20).toNat.testBit 0

/-- The message length. Without a third byte it is the one that the constructor has set, turned round. -/
def loadMessageLength (is : List UInt8) : ℕ := read16 4 0 (is.drop 2)

/-- What is behind the header. -/
def behindHeader (is : List UInt8) : List UInt8 := is.drop (if loadHasSeid is then 16 else 8)

/-- `check_msg_length`, a `uint16_t`. -/
def checkMsgLength (is : List UInt8) : ℕ :=
  (loadMessageLength is + 2 ^ 16 - headerLength (loadHasSeid is)) % 2 ^ 16

/-- The loop, if there is something to check. -/
def loadChecked (uninit : ℕ → ℕ → UInt8) (checkMsgLength fuel : ℕ) (is : List UInt8) : Except Stop (List Ie × ℕ) :=
  if 0 < checkMsgLength then loadIes uninit checkMsgLength fuel 0 is else .ok ([], 0)

/-- `pfcp_msg::load_from`. -/
def loadMsg (uninit : ℕ → ℕ → UInt8) (fuel : ℕ) (is : List UInt8) : Except Stop PfcpMsg :=
  match loadChecked uninit (checkMsgLength is) fuel (behindHeader is) with
  | .error e => .error e
  | .ok r => if r.2 = checkMsgLength is then .ok ⟨loadMessageLength is, loadHasSeid is, r.1⟩ else .error (.halted .thrown)

/-! ## What is returned -/

variable {uninit : ℕ → ℕ → UInt8}

/-- **What `new_pfcp_ie_from_stream` returns**, by the kind of the IE. -/
inductive NewPfcpIe (uninit : ℕ → ℕ → UInt8) (fuel : ℕ) (is : List UInt8) : Option Ie × List UInt8 → Prop
  | none : (loadTlv is).2 = 0 ∨ ieKind (loadTlv is).1 = none → NewPfcpIe uninit fuel is (none, is.drop 4)
  | plain {loadFrom : LoadFrom} {n : ℕ} {rest : List UInt8} :
      (loadTlv is).2 ≠ 0 → ieKind (loadTlv is).1 = some (.plain loadFrom) →
      loadFrom.run (loadTlv is).2 (uninit (is.drop 4).length) (is.drop 4) = .ok n → rest = (is.drop 4).drop n →
      NewPfcpIe uninit fuel is (some (.plain (loadTlv is).1 (loadTlv is).2 (is.length - rest.length)), rest)
  | grouped {r : List Ie × List UInt8} :
      (loadTlv is).2 ≠ 0 → ieKind (loadTlv is).1 = some .grouped →
      loadGrouped uninit fuel (loadTlv is).2 (is.drop 4) = .ok r →
      NewPfcpIe uninit fuel is (some (.grouped (loadTlv is).1 (loadTlv is).2 (is.length - r.2.length) r.1), r.2)

theorem newPfcpIe_cases {fuel : ℕ} {is : List UInt8} {res : Option Ie × List UInt8}
    (h : newPfcpIe uninit (fuel + 1) is = .ok res) : NewPfcpIe uninit fuel is res := by
  rw [newPfcpIe] at h
  split at h
  · next hlength =>
    cases h
    exact .none (.inl hlength)
  · next hlength =>
    split at h
    · next hkind =>
      cases h
      exact .none (.inr hkind)
    · next hkind =>
      split at h
      · cases h
      · next hn =>
        cases h
        exact .plain hlength hkind hn rfl
    · next hkind =>
      split at h
      · cases h
      · next hr =>
        cases h
        exact .grouped hlength hkind hr

/-- **What the loop of a grouped IE returns**: it goes on while something remains of the length. -/
theorem loadGrouped_cases {fuel : ℕ} {remainingSize : ℤ} {is : List UInt8} {r : List Ie × List UInt8}
    (h : loadGrouped uninit (fuel + 1) remainingSize is = .ok r) :
    (remainingSize ≤ 0 ∧ r = ([], is)) ∨ (0 < remainingSize ∧ ∃ ie rest r',
      newPfcpIe uninit fuel is = .ok (some ie, rest) ∧
      loadGrouped uninit fuel (remainingSize - ie.size) rest = .ok r' ∧ r = (ie :: r'.1, r'.2)) := by
  rw [loadGrouped] at h
  split at h
  · next hend =>
    cases h
    exact .inl ⟨hend, rfl⟩
  · next hgoes =>
    split at h
    · cases h
    · cases h
    · next ie rest hie =>
      split at h
      · cases h
      · next r' hr =>
        cases h
        exact .inr ⟨by omega, ie, rest, r', hie, hr, rfl⟩

theorem newPfcpIe_zero_ne (is : List UInt8) (res : Option Ie × List UInt8) : newPfcpIe uninit 0 is ≠ .ok res := by
  rw [newPfcpIe]
  nofun

theorem loadGrouped_zero_ne (remainingSize : ℤ) (is : List UInt8) (r : List Ie × List UInt8) :
    loadGrouped uninit 0 remainingSize is ≠ .ok r := by
  rw [loadGrouped]
  nofun

/-- **What the loop over a message returns.** -/
theorem loadIes_cases {checkMsgLength fuel iesLength : ℕ} {is : List UInt8} {r : List Ie × ℕ}
    (h : loadIes uninit checkMsgLength (fuel + 1) iesLength is = .ok r) :
    (∃ rest, newPfcpIe uninit fuel is = .ok (none, rest) ∧ r = ([], iesLength)) ∨
      ∃ ie rest, newPfcpIe uninit fuel is = .ok (some ie, rest) ∧
        (((iesLength + ie.size) % 2 ^ 16 < checkMsgLength ∧ ∃ r',
            loadIes uninit checkMsgLength fuel ((iesLength + ie.size) % 2 ^ 16) rest = .ok r' ∧
            r = (ie :: r'.1, r'.2)) ∨
          (checkMsgLength ≤ (iesLength + ie.size) % 2 ^ 16 ∧ r = ([ie], (iesLength + ie.size) % 2 ^ 16))) := by
  rw [loadIes] at h
  split at h
  · cases h
  · next rest hie =>
    cases h
    exact .inl ⟨rest, hie, rfl⟩
  · next ie rest hie =>
    refine .inr ⟨ie, rest, hie, ?_⟩
    dsimp only at h
    split at h
    · next hgoes =>
      split at h
      · cases h
      · next r' hr =>
        cases h
        exact .inl ⟨hgoes, r', hr, rfl⟩
    · next hend =>
      cases h
      exact .inr ⟨Nat.le_of_not_lt hend, rfl⟩

theorem loadMsg_cases {fuel : ℕ} {is : List UInt8} {msg : PfcpMsg} (h : loadMsg uninit fuel is = .ok msg) :
    ∃ r, loadChecked uninit (checkMsgLength is) fuel (behindHeader is) = .ok r ∧ r.2 = checkMsgLength is ∧
      msg = ⟨loadMessageLength is, loadHasSeid is, r.1⟩ := by
  rw [loadMsg] at h
  split at h
  · cases h
  · next r hr =>
    split at h
    · next hcheck =>
      cases h
      exact ⟨r, hr, hcheck, rfl⟩
    · cases h

/-! ## The loops end -/

theorem three_le_of_length_ne_zero {is : List UInt8} (h : (loadTlv is).2 ≠ 0) :
    (is.drop 4).length + 3 ≤ is.length := by
  rcases is with _ | ⟨a, _ | ⟨b, _ | ⟨c, is⟩⟩⟩
  · exact absurd rfl h
  · exact absurd rfl h
  · exact absurd rfl h
  · simp only [List.length_drop, List.length_cons]
    omega

theorem load_takes (uninit : ℕ → ℕ → UInt8) (fuel : ℕ) :
    (∀ is ie rest, newPfcpIe uninit fuel is = .ok (some ie, rest) → rest.length + 3 ≤ is.length) ∧
      ∀ remainingSize is r, loadGrouped uninit fuel remainingSize is = .ok r → r.2.length ≤ is.length := by
  induction fuel with
  | zero =>
    exact ⟨fun is ie rest h => absurd h (newPfcpIe_zero_ne _ _),
      fun remainingSize is r h => absurd h (loadGrouped_zero_ne _ _ _)⟩
  | succ fuel ih =>
    constructor
    · intro is ie rest h
      cases newPfcpIe_cases h with
      | plain hlength _ _ hrest =>
        have hthree := three_le_of_length_ne_zero hlength
        rw [hrest, List.length_drop]
        omega
      | grouped hlength _ hr =>
        have hthree := three_le_of_length_ne_zero hlength
        have hle := ih.2 _ _ _ hr
        omega
    · intro remainingSize is r h
      rcases loadGrouped_cases h with ⟨_, rfl⟩ | ⟨_, ie, rest, r', hie, hr, rfl⟩
      · exact Nat.le_refl _
      · have hthree := ih.1 _ _ _ hie
        have hle := ih.2 _ _ _ hr
        show r'.2.length ≤ is.length
        omega

theorem newPfcpIe_ends_succ {fuel : ℕ}
    (hgrouped : ∀ remainingSize (is : List UInt8), is.length + 2 ≤ fuel →
      loadGrouped uninit fuel remainingSize is ≠ .error .outOfFuel)
    {is : List UInt8} (hfuel : is.length + 1 ≤ fuel + 1) :
    newPfcpIe uninit (fuel + 1) is ≠ .error .outOfFuel := by
  rw [newPfcpIe]
  split
  · nofun
  · next hlength =>
    have hthree := three_le_of_length_ne_zero hlength
    split
    · nofun
    · split <;> nofun
    · split
      · next e he =>
        have hends := hgrouped (loadTlv is).2 (is.drop 4) (by omega)
        exact fun heq => hends (by cases heq; exact he)
      · nofun

theorem loadGrouped_ends_succ {fuel : ℕ}
    (hnew : ∀ is : List UInt8, is.length + 1 ≤ fuel → newPfcpIe uninit fuel is ≠ .error .outOfFuel)
    (hgrouped : ∀ remainingSize (is : List UInt8), is.length + 2 ≤ fuel →
      loadGrouped uninit fuel remainingSize is ≠ .error .outOfFuel)
    {remainingSize : ℤ} {is : List UInt8} (hfuel : is.length + 2 ≤ fuel + 1) :
    loadGrouped uninit (fuel + 1) remainingSize is ≠ .error .outOfFuel := by
  rw [loadGrouped]
  split
  · nofun
  · split
    · next e he =>
      have hends := hnew is (by omega)
      exact fun heq => hends (by cases heq; exact he)
    · nofun
    · next ie rest hie =>
      have hthree := (load_takes uninit fuel).1 _ _ _ hie
      split
      · next e he =>
        have hends := hgrouped (remainingSize - ie.size) rest (by omega)
        exact fun heq => hends (by cases heq; exact he)
      · nofun

/-- **A call for each byte is enough.** -/
theorem load_ends (uninit : ℕ → ℕ → UInt8) (fuel : ℕ) :
    (∀ is : List UInt8, is.length + 1 ≤ fuel → newPfcpIe uninit fuel is ≠ .error .outOfFuel) ∧
      ∀ remainingSize (is : List UInt8), is.length + 2 ≤ fuel →
        loadGrouped uninit fuel remainingSize is ≠ .error .outOfFuel := by
  induction fuel with
  | zero => exact ⟨fun is h => by omega, fun remainingSize is h => by omega⟩
  | succ fuel ih =>
    exact ⟨fun is hfuel => newPfcpIe_ends_succ ih.2 hfuel,
      fun remainingSize is hfuel => loadGrouped_ends_succ ih.1 ih.2 hfuel⟩

theorem loadIes_ends {checkMsgLength fuel : ℕ} (iesLength : ℕ) (is : List UInt8) (hfuel : is.length + 2 ≤ fuel) :
    loadIes uninit checkMsgLength fuel iesLength is ≠ .error .outOfFuel := by
  induction fuel generalizing iesLength is with
  | zero => omega
  | succ fuel ih =>
    rw [loadIes]
    split
    · next e he =>
      have hends := (load_ends uninit fuel).1 is (by omega)
      exact fun heq => hends (by cases heq; exact he)
    · nofun
    · next ie rest hie =>
      have hthree := (load_takes uninit fuel).1 _ _ _ hie
      dsimp only
      split
      · split
        · next e he =>
          have hends := ih ((iesLength + ie.size) % 2 ^ 16) rest (by omega)
          exact fun heq => hends (by cases heq; exact he)
        · nofun
      · nofun

theorem loadChecked_ends {checkMsgLength fuel : ℕ} {is : List UInt8} (hfuel : is.length + 2 ≤ fuel) :
    loadChecked uninit checkMsgLength fuel is ≠ .error .outOfFuel := by
  rw [loadChecked]
  split
  · exact loadIes_ends 0 is hfuel
  · nofun

/-- **The loops over the IEs of a message end**, for every byte string. -/
theorem loadMsg_ends (uninit : ℕ → ℕ → UInt8) (is : List UInt8) {fuel : ℕ} (hfuel : is.length + 2 ≤ fuel) :
    loadMsg uninit fuel is ≠ .error .outOfFuel := by
  have hlength : (behindHeader is).length ≤ is.length := by
    rw [behindHeader, List.length_drop]
    exact Nat.sub_le _ _
  rw [loadMsg]
  split
  · next e he => exact fun heq => loadChecked_ends (by omega) (he.trans (by cases heq; rfl))
  · split <;> nofun

end Oai5g.Upf.Pfcp
