import Mathlib

/-!
# Results of operations that may not return

* `Returns total P o`: the result of `o` meets `P`, and there is one if `total` holds. One rule for each way
  to compose operations: `Returns.bind`, `Returns.map`, `Returns.foldlM`.
-/

namespace Oai5g

variable {α β : Type*} {total : Prop} {P : α → Prop} {Q : β → Prop}

/-- What the operation returns meets `P`; when `total` holds it returns. -/
structure Returns (total : Prop) (P : α → Prop) (o : Option α) : Prop where
  returns : total → o ≠ none
  post : ∀ a, o = some a → P a

namespace Returns

theorem some {a : α} (h : P a) : Returns total P (some a) where
  returns _ := Option.some_ne_none a
  post b hb := by
    cases hb
    exact h

theorem bind {o : Option α} {f : α → Option β} (h : Returns total P o)
    (hf : ∀ a, P a → Returns total Q (f a)) : Returns total Q (o.bind f) := by
  cases o with
  | none => exact ⟨fun ht => absurd rfl (h.returns ht), fun b hb => nomatch hb⟩
  | some a => exact hf a (h.post a rfl)

theorem map {o : Option α} {f : α → β} (h : Returns total P o) (hf : ∀ a, P a → Q (f a)) :
    Returns total Q (o.map f) := by
  cases o with
  | none => exact ⟨fun ht => absurd rfl (h.returns ht), fun b hb => nomatch hb⟩
  | some a => exact .some (hf a (h.post a rfl))

/-- **What each turn of a loop keeps, the loop keeps.** -/
theorem foldlM {f : α → β → Option α} {bs : List β} {a : α} (ha : P a)
    (hf : ∀ a b, b ∈ bs → P a → Returns total P (f a b)) : Returns total P (bs.foldlM f a) := by
  induction bs generalizing a with
  | nil => exact .some ha
  | cons b bs ih =>
    rw [List.foldlM_cons]
    exact (hf a b List.mem_cons_self ha).bind fun a ha => ih ha fun a b hb =>
      hf a b (List.mem_cons_of_mem _ hb)

theorem exists_of_total {o : Option α} (h : Returns total P o) (ht : total) : ∃ a, o = Option.some a ∧ P a := by
  obtain ⟨a, ha⟩ := Option.ne_none_iff_exists'.mp (h.returns ht)
  exact ⟨a, ha, h.post a ha⟩

end Returns

end Oai5g
