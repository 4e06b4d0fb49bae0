import Mathlib

/-!
# Walks

* `walk next a n`: where a walk from `a` is after `n` turns, if it has not ended before.
* `ComesTwice next a`: the walk comes to some place twice.
* **`comesTwice_iff`**: among finitely many places, a walk that comes to one twice is a walk that never ends,
  and one that has as many turns as there are places.
-/

namespace Oai5g

section

variable {α : Type*} (next : α → Option α)

/-- Where the walk from `a` is after a number of turns. -/
def walk (a : α) : ℕ → Option α
  | 0 => some a
  | n + 1 => (walk a n).bind next

/-- The walk from `a` comes to some place twice. -/
def ComesTwice (a : α) : Prop := ∃ i j p, i < j ∧ walk next a i = some p ∧ walk next a j = some p

variable {next} {a p : α} {i j n : ℕ}

theorem walk_add (h : walk next a i = some p) : walk next a (i + n) = walk next p n := by
  induction n with
  | zero => exact h
  | succ n ih => rw [← add_assoc, walk, walk, ih]

theorem walk_succ (n : ℕ) : walk next a (n + 1) = (next a).bind fun b => walk next b n := by
  cases h : next a with
  | none =>
    have hnone : ∀ n, walk next a (n + 1) = none := by
      intro n
      induction n with
      | zero => simp only [walk, Option.bind_some, h]
      | succ n ih => rw [walk, ih, Option.bind_none]
    exact hnone n
  | some b =>
    have hone : walk next a 1 = some b := by simp only [walk, Option.bind_some, h]
    rw [add_comm, walk_add hone, Option.bind_some]

theorem isSome_walk_of_le (h : (walk next a j).isSome) (hij : i ≤ j) : (walk next a i).isSome := by
  induction j, hij using Nat.le_induction with
  | base => exact h
  | succ j _ ih =>
    refine ih ?_
    rw [walk] at h
    cases hj : walk next a j with
    | none =>
      rw [hj] at h
      cases h
    | some b => rfl

theorem ComesTwice.isSome_walk (h : ComesTwice next a) (n : ℕ) : (walk next a n).isSome := by
  obtain ⟨i, j, p, hij, hi, hj⟩ := h
  induction n using Nat.strong_induction_on with
  | _ n ih =>
    by_cases hn : n ≤ j
    · exact isSome_walk_of_le (by rw [hj]; rfl) hn
    · -- behind the second time it goes as behind the first
      have hback := ih (i + (n - j)) (by omega)
      rw [walk_add hi] at hback
      rwa [← Nat.add_sub_cancel' (Nat.le_of_not_le hn), walk_add hj]

/-- **Among finitely many places**, a walk with as many turns as places comes to one of them twice. -/
theorem comesTwice_of_isSome {places : Finset α} (ha : a ∈ places)
    (hnext : ∀ b ∈ places, ∀ c, next b = some c → c ∈ places) (h : (walk next a places.card).isSome) :
    ComesTwice next a := by
  classical
  have hplace : ∀ i p, walk next a i = some p → p ∈ places := by
    intro i
    induction i with
    | zero =>
      intro p hp
      cases hp
      exact ha
    | succ i ih =>
      intro p hp
      obtain ⟨b, hb, hbp⟩ := Option.bind_eq_some_iff.mp hp
      exact hnext b (ih b hb) p hbp
  have hsome : ∀ i ∈ Finset.range (places.card + 1), (walk next a i).getD a ∈ places := by
    intro i hi
    obtain ⟨p, hp⟩ := Option.isSome_iff_exists.mp
      (isSome_walk_of_le h (Nat.le_of_lt_succ (Finset.mem_range.mp hi)))
    rw [hp]
    exact hplace i p hp
  have hcard : places.card < (Finset.range (places.card + 1)).card := by
    rw [Finset.card_range]
    exact Nat.lt_succ_self _
  obtain ⟨i, hi, j, hj, hne, heq⟩ := Finset.exists_ne_map_eq_of_card_lt_of_maps_to hcard hsome
  obtain ⟨p, hp⟩ := Option.isSome_iff_exists.mp
    (isSome_walk_of_le h (Nat.le_of_lt_succ (Finset.mem_range.mp hi)))
  obtain ⟨q, hq⟩ := Option.isSome_iff_exists.mp
    (isSome_walk_of_le h (Nat.le_of_lt_succ (Finset.mem_range.mp hj)))
  rw [hp, hq] at heq
  obtain rfl : p = q := heq
  rcases Nat.lt_or_gt_of_ne hne with hlt | hlt
  · exact ⟨i, j, p, hlt, hp, hq⟩
  · exact ⟨j, i, p, hlt, hq, hp⟩

theorem comesTwice_iff {places : Finset α} (ha : a ∈ places)
    (hnext : ∀ b ∈ places, ∀ c, next b = some c → c ∈ places) :
    ComesTwice next a ↔ (walk next a places.card).isSome :=
  ⟨fun h => h.isSome_walk _, comesTwice_of_isSome ha hnext⟩

/-- A walk among finitely many places that comes to none of them twice ends at one. -/
theorem exists_end_of_not_comesTwice {places : Finset α} (ha : a ∈ places)
    (hnext : ∀ b ∈ places, ∀ c, next b = some c → c ∈ places) (h : ¬ ComesTwice next a) :
    ∃ n p, walk next a n = some p ∧ next p = none := by
  by_contra hnever
  push Not at hnever
  refine h (comesTwice_of_isSome ha hnext ?_)
  generalize places.card = n
  induction n with
  | zero => rfl
  | succ n ih =>
    obtain ⟨p, hp⟩ := Option.isSome_iff_exists.mp ih
    rw [walk, hp]
    exact Option.isSome_iff_ne_none.mpr (hnever n p hp)

end

end Oai5g
