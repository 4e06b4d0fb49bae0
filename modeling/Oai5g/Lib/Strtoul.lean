import Oai5g.Lib.Numeral

/-!
# Reading numerals

`std::stoi` and `std::stoul` with a base of at most 36: white space, a sign, for base 16 a prefix `0x`, and
as many digits as there are.

* `stoi_dec`, `stoul_dec`: decimal numerals are read back.
-/

namespace Oai5g.Numeral

/-- `isspace` of the C locale. -/
def isspace (c : Char) : Bool := c = ' ' || (9 ≤ c.toNat && c.toNat ≤ 13)

/-- The value of a digit; 36 for what is none. -/
def digitValue (c : Char) : ℕ :=
  if c.isDigit then c.toNat - 48
  else if 'a' ≤ c ∧ c ≤ 'z' then c.toNat - 87
  else if 'A' ≤ c ∧ c ≤ 'Z' then c.toNat - 55
  else 36

/-- A prefix `0x` counts where a digit follows. -/
def dropPrefix (b : ℕ) : Str → Str
  | '0' :: x :: d :: s =>
    if b = 16 ∧ (x = 'x' ∨ x = 'X') ∧ digitValue d < 16 then d :: s else '0' :: x :: d :: s
  | s => s

/-- The value of the digits at the head; `none` where there is no digit. -/
def magnitude (b : ℕ) (s : Str) : Option ℕ :=
  match (dropPrefix b s).takeWhile (digitValue · < b) with
  | [] => none
  | ds => some (ds.foldl (fun n c => b * n + digitValue c) 0)

/-- Whether there is a minus sign, and the value behind the sign. -/
def signed (b : ℕ) (s : Str) : Option (Bool × ℕ) :=
  match s.dropWhile isspace with
  | '-' :: t => (magnitude b t).map fun m => (true, m)
  | '+' :: t => (magnitude b t).map fun m => (false, m)
  | t => (magnitude b t).map fun m => (false, m)

/-- `std::stoul`: `none` where it throws. -/
def stoul (b : ℕ) (s : Str) : Option ℕ :=
  (signed b s).bind fun (minus, m) =>
    if m < 2 ^ 64 then some (if minus then (2 ^ 64 - m) % 2 ^ 64 else m) else none

/-- `std::stoi`: `none` where it throws. -/
def stoi (s : Str) : Option ℤ :=
  (signed 10 s).bind fun (minus, m) =>
    let v : ℤ := if minus then -m else m
    if -2147483648 ≤ v ∧ v ≤ 2147483647 then some v else none

/-! ## Decimal numerals -/

variable {n : ℕ} {c : Char}

theorem isDigit_of_mem_dec (h : c ∈ dec n) : c.isDigit = true :=
  Nat.isDigit_of_mem_toDigits (by decide) (by decide) h

theorem dec_ne_nil (n : ℕ) : dec n ≠ [] := Nat.toDigits_ne_nil

theorem dec_injective : Function.Injective dec := fun m n h => by
  rw [← ofDec_dec m, h, ofDec_dec]

theorem toNat_of_isDigit (h : c.isDigit = true) : 48 ≤ c.toNat ∧ c.toNat ≤ 57 := by
  simp only [Char.isDigit, Bool.and_eq_true, decide_eq_true_eq] at h
  exact ⟨UInt32.le_iff_toNat_le.mp h.1, UInt32.le_iff_toNat_le.mp h.2⟩

theorem digitValue_of_isDigit (h : c.isDigit = true) : digitValue c = c.toNat - 48 := if_pos h

theorem digitValue_lt_ten (h : c.isDigit = true) : digitValue c < 10 := by
  have hc := toNat_of_isDigit h
  rw [digitValue_of_isDigit h]
  omega

theorem not_isspace_of_isDigit (h : c.isDigit = true) : isspace c = false := by
  have hc := toNat_of_isDigit h
  have hne : c ≠ ' ' := fun he => by rw [he] at hc; revert hc; decide
  have hlt : ¬ c.toNat ≤ 13 := by omega
  simp [isspace, hne, hlt]

theorem dropPrefix_ten (s : Str) : dropPrefix 10 s = s := by
  unfold dropPrefix
  split
  · simp
  · rfl

theorem magnitude_digits {ds rest : Str} (hne : ds ≠ []) (hds : ∀ c ∈ ds, c.isDigit = true)
    (hrest : ∀ c ∈ rest.head?, ¬ digitValue c < 10) : magnitude 10 (ds ++ rest) = some (ofDec ds) := by
  have htake : (ds ++ rest).takeWhile (digitValue · < 10) = ds := by
    rw [List.takeWhile_append_of_pos fun c hc => decide_eq_true (digitValue_lt_ten (hds c hc))]
    cases rest with
    | nil => simp
    | cons c rest =>
      rw [List.takeWhile_cons_of_neg (by simpa using hrest c rfl), List.append_nil]
  have hvalue : ds.foldl (fun n c => 10 * n + digitValue c) 0 = ofDec ds :=
    List.foldl_ext _ _ _ fun a c hc => by
      rw [digitValue_of_isDigit (hds c hc)]
      rfl
  rw [magnitude, dropPrefix_ten, htake]
  split
  · exact absurd rfl hne
  · rw [hvalue]

theorem signed_digits {ds rest : Str} (hne : ds ≠ []) (hds : ∀ c ∈ ds, c.isDigit = true)
    (hrest : ∀ c ∈ rest.head?, ¬ digitValue c < 10) : signed 10 (ds ++ rest) = some (false, ofDec ds) := by
  have hmagnitude := magnitude_digits hne hds hrest
  obtain ⟨c, s, rfl⟩ := List.exists_cons_of_ne_nil hne
  have hc : c.isDigit = true := hds c List.mem_cons_self
  have hdrop : ((c :: s) ++ rest).dropWhile isspace = (c :: s) ++ rest := by
    rw [List.cons_append, List.dropWhile_cons_of_neg (by rw [not_isspace_of_isDigit hc]; decide)]
  rw [signed, hdrop]
  split
  · next h => cases h; exact absurd hc (by decide)
  · next h => cases h; exact absurd hc (by decide)
  · rw [hmagnitude]; rfl

theorem signed_dec (n : ℕ) : signed 10 (dec n) = some (false, n) := by
  have h : signed 10 (dec n ++ []) = some (false, ofDec (dec n)) :=
    signed_digits (dec_ne_nil n) (fun c hc => isDigit_of_mem_dec hc) (by simp)
  rwa [List.append_nil, ofDec_dec] at h

theorem stoi_digits {ds rest : Str} (hne : ds ≠ []) (hds : ∀ c ∈ ds, c.isDigit = true)
    (hrest : ∀ c ∈ rest.head?, ¬ digitValue c < 10) (hlt : ofDec ds ≤ 2147483647) :
    stoi (ds ++ rest) = some (ofDec ds : ℤ) := by
  have hlow : (-2147483648 : ℤ) ≤ ofDec ds := by omega
  have hhigh : (ofDec ds : ℤ) ≤ 2147483647 := by omega
  simp only [stoi, signed_digits hne hds hrest, Option.bind_some, Bool.false_eq_true, if_false, hlow, hhigh,
    and_self, if_true]

theorem stoi_range {s : Str} {v : ℤ} (h : stoi s = some v) : -2147483648 ≤ v ∧ v ≤ 2147483647 := by
  obtain ⟨⟨minus, m⟩, -, hv⟩ := Option.bind_eq_some_iff.mp h
  obtain ⟨hrange, hvalue⟩ := Option.ite_none_right_eq_some.mp hv
  cases hvalue
  exact hrange

theorem stoul_dec (h : n < 2 ^ 64) : stoul 10 (dec n) = some n := by
  simp only [stoul, signed_dec, Option.bind_some, Bool.false_eq_true, if_false]
  exact if_pos h

theorem stoi_dec (h : n ≤ 2147483647) : stoi (dec n) = some (n : ℤ) := by
  have hstoi : stoi (dec n ++ []) = some (ofDec (dec n) : ℤ) :=
    stoi_digits (dec_ne_nil n) (fun c hc => isDigit_of_mem_dec hc) (by simp) (by rwa [ofDec_dec])
  rwa [List.append_nil, ofDec_dec] at hstoi

end Oai5g.Numeral
