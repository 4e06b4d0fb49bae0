import Oai5g.Lib.Numeral

/-!
# Octets as hexadecimal strings

`conv::uint8_to_hex_string` and `conv::hex_str_to_uint8`, which AUSF and UDM share.

* `IsHexOf`: the digits of a string, in either case, are those of some octets.
* **`hexStrToUint8_of_isHexOf`**: such a string is read back.
-/

namespace Oai5g

/-- `conv::uint8_to_hex_string` -/
def uint8ToHexString (v : List UInt8) : Str := v.flatMap fun b => Numeral.hex 2 b.toNat

/-- The value of a digit. -/
def hexValue (c : Char) : Option ℕ :=
  if '0' ≤ c ∧ c ≤ '9' then some (c.toNat - '0'.toNat)
  else if 'A' ≤ c ∧ c ≤ 'F' then some (10 + (c.toNat - 'A'.toNat))
  else if 'a' ≤ c ∧ c ≤ 'f' then some (10 + (c.toNat - 'a'.toNat))
  else none

/-- The loop of `hex_str_to_uint8`: it stops at the first character that is no digit. -/
def hexLoop : Str → ℕ → List UInt8 → List UInt8
  | [], _, des => des
  | c :: string, index, des =>
    match hexValue c with
    | none => des
    | some value =>
      hexLoop string (index + 1)
        (des.modify (index / 2) fun b => b + UInt8.ofNat (value <<< ((index + 1) % 2 * 4)))

/-- What a `char*` sees of a string. -/
def cStr (string : Str) : Str := string.takeWhile (· ≠ '\x00')

/-- `conv::hex_str_to_uint8` on an array of this length; `none` when it writes beyond the array. -/
def hexStrToUint8 (string : Str) (des : List UInt8) : Option (List UInt8) :=
  let string := cStr string
  if string.length % 2 ≠ 0 then some des
  else if des.length < string.length / 2 then none
  else some (hexLoop string 0 (List.replicate (string.length / 2) 0 ++ des.drop (string.length / 2)))

/-! ## Strings of digits -/

/-- The two digits of each octet. -/
def halves (v : List UInt8) : List ℕ := v.flatMap fun b => [b.toNat / 16, b.toNat % 16]

/-- The characters are the digits of the octets. -/
def IsHexOf (string : Str) (v : List UInt8) : Prop := string.map hexValue = (halves v).map some

instance (string : Str) (v : List UInt8) : Decidable (IsHexOf string v) := by
  unfold IsHexOf
  infer_instance

@[simp]
theorem length_halves (v : List UInt8) : (halves v).length = 2 * v.length := by
  induction v with
  | nil => rfl
  | cons b v ih =>
    simp only [halves, List.flatMap_cons, List.length_append, List.length_cons, List.length_nil] at ih ⊢
    omega

theorem IsHexOf.length_eq {string : Str} {v : List UInt8} (h : IsHexOf string v) :
    string.length = 2 * v.length := by
  simpa using congrArg List.length h

theorem hexValue_digitChar : ∀ n : Fin 16, hexValue (Nat.digitChar n.val) = some n.val := by decide

theorem hex_octet (b : UInt8) :
    Numeral.hex 2 b.toNat = [Nat.digitChar (b.toNat / 16), Nat.digitChar (b.toNat % 16)] := by
  have hb := b.toNat_lt
  rw [Numeral.hex_eq_fixed (by decide) (by omega)]
  simp only [Numeral.fixed, List.nil_append, List.cons_append]
  rw [Nat.mod_eq_of_lt (by omega : b.toNat / 16 < 16)]

theorem isHexOf_uint8ToHexString (v : List UInt8) : IsHexOf (uint8ToHexString v) v := by
  induction v with
  | nil => rfl
  | cons b v ih =>
    have hb := b.toNat_lt
    have hhi := hexValue_digitChar ⟨b.toNat / 16, by omega⟩
    have hlo := hexValue_digitChar ⟨b.toNat % 16, by omega⟩
    simp only at hhi hlo
    simp only [IsHexOf, uint8ToHexString, halves, List.flatMap_cons, hex_octet, List.map_append, List.map_cons,
      List.map_nil, hhi, hlo] at ih ⊢
    rw [ih]

theorem cStr_of_isHexOf {string : Str} {v : List UInt8} (h : IsHexOf string v) : cStr string = string := by
  have hdigit : ∀ c ∈ string, hexValue c ≠ none := by
    intro c hc hnone
    have hmem : hexValue c ∈ string.map hexValue := List.mem_map_of_mem hc
    rw [h, hnone] at hmem
    simp at hmem
  refine List.takeWhile_eq_self_iff.mpr fun c hc => ?_
  have hne : c ≠ '\x00' := by
    rintro rfl
    exact hdigit _ hc (by decide)
  simpa using hne

theorem octet_of_halves (b : UInt8) :
    (0 : UInt8) + UInt8.ofNat ((b.toNat / 16) <<< 4) + UInt8.ofNat ((b.toNat % 16) <<< 0) = b := by
  have hb := b.toNat_lt
  apply UInt8.toNat_inj.mp
  simp only [UInt8.toNat_add, UInt8.toNat_ofNat', UInt8.toNat_zero, Nat.shiftLeft_eq]
  omega

theorem modify_length {α : Type*} (l₁ l₂ : List α) (a : α) (f : α → α) :
    (l₁ ++ a :: l₂).modify l₁.length f = l₁ ++ f a :: l₂ := by
  induction l₁ with
  | nil => rfl
  | cons b l₁ ih => simp [ih]

/-- The loop behind octets that are done, in front of octets that are zero. -/
theorem hexLoop_of_isHexOf {string : Str} {v : List UInt8} (h : IsHexOf string v) (done rest : List UInt8) :
    hexLoop string (2 * done.length) (done ++ (List.replicate v.length 0 ++ rest)) = done ++ (v ++ rest) := by
  induction v generalizing string done with
  | nil =>
    obtain rfl : string = [] := List.length_eq_zero_iff.mp h.length_eq
    rfl
  | cons b v ih =>
    match string, h with
    | [], h => cases h
    | [c], h => exact absurd h.length_eq (by simp; omega)
    | c :: d :: string, h =>
      simp only [IsHexOf, halves, List.flatMap_cons, List.map_cons, List.cons_append, List.nil_append,
        List.cons.injEq] at h
      obtain ⟨hc, hd, hrest⟩ := h
      have hnext := ih hrest (done ++ [b])
      have hidx : (2 * done.length + 1) / 2 = done.length := by omega
      have hidx' : 2 * done.length / 2 = done.length := by omega
      have hodd : (2 * done.length + 1) % 2 * 4 = 4 := by omega
      have heven : (2 * done.length + 1 + 1) % 2 * 4 = 0 := by omega
      have hlen : 2 * (done ++ [b]).length = 2 * done.length + 1 + 1 := by simp; omega
      simp only [hexLoop, hc, hd, hidx, hidx', hodd, heven, List.length_cons, List.replicate_succ, List.cons_append,
        modify_length, octet_of_halves]
      rw [hlen] at hnext
      simpa using hnext

theorem hexStrToUint8_of_isHexOf {string : Str} {v des : List UInt8} (h : IsHexOf string v)
    (hlen : des.length = v.length) : hexStrToUint8 string des = some v := by
  have heven : string.length % 2 = 0 := by have := h.length_eq; omega
  have hhalf : string.length / 2 = v.length := by have := h.length_eq; omega
  have hloop := hexLoop_of_isHexOf h [] []
  simp only [hexStrToUint8, cStr_of_isHexOf h, heven, hhalf, hlen]
  simpa [← hlen] using hloop

@[simp]
theorem hexStrToUint8_uint8ToHexString {v des : List UInt8} (hlen : des.length = v.length) :
    hexStrToUint8 (uint8ToHexString v) des = some v :=
  hexStrToUint8_of_isHexOf (isHexOf_uint8ToHexString v) hlen

theorem halves_injective {v w : List UInt8} (h : halves v = halves w) : v = w := by
  induction v generalizing w with
  | nil =>
    have hlen := congrArg List.length h
    simp only [length_halves] at hlen
    exact (List.length_eq_zero_iff.mp (by simpa using hlen.symm)).symm
  | cons b v ih =>
    cases w with
    | nil => cases h
    | cons c w =>
      simp only [halves, List.flatMap_cons, List.cons_append, List.nil_append, List.cons.injEq] at h
      obtain ⟨hhi, hlo, hrest⟩ := h
      have hbc : b = c := UInt8.toNat_inj.mp (by omega)
      rw [hbc, ih hrest]

theorem IsHexOf.unique {string : Str} {v w : List UInt8} (hv : IsHexOf string v) (hw : IsHexOf string w) : v = w :=
  halves_injective (List.map_injective_iff.mpr (Option.some_injective ℕ) (hv.symm.trans hw))

end Oai5g
