import Mathlib

/-!
# Numerals

Numbers printed in decimal and in padded hexadecimal, as `std::to_string` and
`std::setfill('0') << std::setw(w) << std::hex` print them.

* `dec`: decimal without leading zeros; `dec_of_lt_ten`, `dec_of_lt_hundred`, `dec_of_lt_thousand`,
  `ofDigits_dec`.
* `hex w`: hexadecimal of width at least `w`; `hex_eq_fixed`: below `16 ^ w` these are exactly the `w`
  digits `fixed 16 w`, which split (`fixed_add`) and determine the number (`fixed_injective`).
-/

namespace Oai5g

/-- A `std::string`. -/
abbrev Str : Type := List Char

namespace Numeral

open Nat (digitChar toDigits)

-- named, as the numerals of digits and nibbles carry them
instance neZero_ten : NeZero 10 := ⟨by decide⟩
instance neZero_sixteen : NeZero 16 := ⟨by decide⟩

/-- `std::to_string`. -/
def dec (n : ℕ) : Str := toDigits 10 n

/-- `std::setfill('0') << std::setw(w) << std::hex << n`. -/
def hex (w n : ℕ) : Str := (toDigits 16 n).leftpad w '0'

/-- The last `w` digits of `n` to the base `b`. -/
def fixed (b : ℕ) : ℕ → ℕ → Str
  | 0, _ => []
  | w + 1, n => fixed b w (n / b) ++ [digitChar (n % b)]

theorem digitChar_inj {a b : ℕ} (ha : a < 16) (hb : b < 16) : digitChar a = digitChar b ↔ a = b := by
  have h : ∀ x y : Fin 16, digitChar x.val = digitChar y.val ↔ x.val = y.val := by decide
  exact h ⟨a, ha⟩ ⟨b, hb⟩

/-! ## Decimal -/

theorem dec_of_lt_ten {n : ℕ} (h : n < 10) : dec n = [digitChar n] := Nat.toDigits_of_lt_base h

theorem dec_of_lt_hundred {n : ℕ} (h₁ : 10 ≤ n) (h₂ : n < 100) :
    dec n = [digitChar (n / 10), digitChar (n % 10)] := by
  unfold dec
  rw [Nat.toDigits_of_base_le (by omega) h₁, Nat.toDigits_of_lt_base (by omega)]
  rfl

theorem dec_of_lt_thousand {n : ℕ} (h₁ : 100 ≤ n) (h₂ : n < 1000) :
    dec n = [digitChar (n / 100), digitChar (n / 10 % 10), digitChar (n % 10)] := by
  unfold dec
  rw [Nat.toDigits_of_base_le (by omega) (by omega), Nat.toDigits_of_base_le (by omega) (by omega),
    Nat.toDigits_of_lt_base (by omega), Nat.div_div_eq_div_mul]
  rfl

/-- The value of a decimal numeral. -/
def ofDec (s : Str) : ℕ := Nat.ofDigitChars 10 s 0

/-- **Decimal numerals are read back**, also behind leading zeros. -/
theorem ofDec_replicate_append (k n : ℕ) : ofDec (List.replicate k '0' ++ dec n) = n := by
  simp [ofDec, dec, Nat.ofDigitChars_append]

theorem ofDec_dec (n : ℕ) : ofDec (dec n) = n := by simpa using ofDec_replicate_append 0 n

/-! ## Fixed width -/

@[simp] theorem length_fixed (b w n : ℕ) : (fixed b w n).length = w := by
  induction w generalizing n with
  | zero => rfl
  | succ w ih => simp [fixed, ih]

theorem fixed_add (b v w n : ℕ) : fixed b (v + w) n = fixed b v (n / b ^ w) ++ fixed b w n := by
  induction w generalizing n with
  | zero => simp [fixed]
  | succ w ih => rw [← Nat.add_assoc, fixed, fixed, ih, Nat.div_div_eq_div_mul, ← Nat.pow_succ',
      List.append_assoc]

theorem fixed_mul_add {b : ℕ} (hb : 0 < b) (w q r : ℕ) : fixed b w (q * b ^ w + r) = fixed b w r := by
  induction w generalizing r with
  | zero => rfl
  | succ w ih =>
    rw [fixed, fixed, Nat.pow_succ, ← Nat.mul_assoc, Nat.mul_add_mod', Nat.add_comm,
      Nat.add_mul_div_right _ _ hb, Nat.add_comm, ih]

theorem fixed_zero (b w : ℕ) : fixed b w 0 = List.replicate w '0' := by
  induction w with
  | zero => rfl
  | succ w ih =>
    rw [fixed, Nat.zero_div, Nat.zero_mod, ih, List.replicate_succ']
    rfl

/-- **Below `b ^ w` the padded numeral is the `w` digits.** -/
theorem leftpad_toDigits {b w n : ℕ} (hb : 1 < b) (hw : 0 < w) (h : n < b ^ w) :
    (toDigits b n).leftpad w '0' = fixed b w n := by
  induction w generalizing n with
  | zero => omega
  | succ w ih =>
    rw [fixed]
    by_cases hn : n < b
    · rw [Nat.toDigits_of_lt_base hn, Nat.div_eq_of_lt hn, Nat.mod_eq_of_lt hn, fixed_zero]
      simp [List.leftpad]
    · have hlt : n / b < b ^ w := Nat.div_lt_of_lt_mul (by rwa [Nat.pow_succ'] at h)
      have hpos : 0 < n / b := Nat.div_pos (by omega) (by omega)
      have hw' : 0 < w := by
        rcases w with _ | w
        · simp at hlt; omega
        · omega
      rw [Nat.toDigits_of_base_le hb (by omega), ← ih hw' hlt]
      simp [List.leftpad]

theorem hex_eq_fixed {w n : ℕ} (hw : 0 < w) (h : n < 16 ^ w) : hex w n = fixed 16 w n :=
  leftpad_toDigits (by decide) hw h

/-- **The digits determine the number.** -/
theorem fixed_injective {w m n : ℕ} (hm : m < 16 ^ w) (hn : n < 16 ^ w)
    (h : fixed 16 w m = fixed 16 w n) : m = n := by
  induction w generalizing m n with
  | zero => simp at hm hn; omega
  | succ w ih =>
    rw [fixed, fixed] at h
    obtain ⟨h₁, h₂⟩ := List.append_inj h (by simp)
    have hd : m % 16 = n % 16 := (digitChar_inj (Nat.mod_lt _ (by decide))
      (Nat.mod_lt _ (by decide))).mp (by simpa using h₂)
    have hq : m / 16 = n / 16 := ih (Nat.div_lt_of_lt_mul (by rwa [Nat.pow_succ'] at hm))
      (Nat.div_lt_of_lt_mul (by rwa [Nat.pow_succ'] at hn)) h₁
    omega

end Numeral

end Oai5g
