import Mathlib

/-!
# Lists of rows with a key

`firstRow key t k`: the first row of a list that has this key. What an append, an update of all rows or of the first
one, and a removal of all rows or of the first one leave as first rows. `insertRow`: a row whose key is there already
is not put in.
-/

namespace Oai5g

section

variable {ρ κ : Type*} [DecidableEq κ] {key : ρ → κ}

variable (key) in
/-- The first row with a key. -/
def firstRow (t : List ρ) (k : κ) : Option ρ := t.find? fun x => key x = k

theorem firstRow_nil (k : κ) : firstRow key [] k = none := rfl

theorem firstRow_cons (x : ρ) (t : List ρ) (k : κ) :
    firstRow key (x :: t) k = if key x = k then some x else firstRow key t k := by
  rw [firstRow, List.find?_cons]
  by_cases h : key x = k <;> simp [h, firstRow]

theorem firstRow_append_singleton (t : List ρ) (x : ρ) (k : κ) :
    firstRow key (t ++ [x]) k = (firstRow key t k).or (if key x = k then some x else none) := by
  rw [firstRow, List.find?_append]
  congr 1
  exact firstRow_cons x [] k

theorem firstRow_append_of_none {t : List ρ} {x : ρ} (h : firstRow key t (key x) = none) (k : κ) :
    firstRow key (t ++ [x]) k = if k = key x then some x else firstRow key t k := by
  rw [firstRow_append_singleton]
  by_cases hk : k = key x
  · rw [hk, h, if_pos rfl]
    rfl
  · rw [if_neg hk, if_neg (Ne.symm hk), Option.or_none]

theorem firstRow_eq_none_iff {t : List ρ} {k : κ} : firstRow key t k = none ↔ k ∉ t.map key := by
  simp [firstRow]

theorem firstRow_map {f : ρ → ρ} (hf : ∀ x, key (f x) = key x) (t : List ρ) (k : κ) :
    firstRow key (t.map f) k = (firstRow key t k).map f := by
  induction t with
  | nil => rfl
  | cons x t ih =>
    rw [List.map_cons, firstRow_cons, firstRow_cons, ih, hf]
    by_cases h : key x = k
    · rw [if_pos h, if_pos h]
      rfl
    · rw [if_neg h, if_neg h]

theorem key_of_firstRow {t : List ρ} {k : κ} {x : ρ} (h : firstRow key t k = some x) : key x = k := by
  simpa using List.find?_some h

theorem firstRow_filter_ne (t : List ρ) (k k' : κ) :
    firstRow key (t.filter fun x => key x ≠ k) k' = if k' = k then none else firstRow key t k' := by
  induction t with
  | nil => simp [firstRow_nil]
  | cons x t ih =>
    rw [List.filter_cons, firstRow_cons]
    by_cases hx : key x = k
    · rw [if_neg (by simpa using hx), ih]
      by_cases hk : k' = k
      · rw [if_pos hk, if_pos hk]
      · rw [if_neg hk, if_neg hk, if_neg fun h => hk (h.symm.trans hx)]
    · rw [if_pos (by simpa using hx), firstRow_cons, ih]
      by_cases hk : k' = k
      · rw [if_pos hk, if_pos hk, if_neg fun h => hx (h.trans hk)]
      · rw [if_neg hk, if_neg hk]

/-- The first row that meets `p` is changed. -/
def modifyFirst (p : ρ → Bool) (f : ρ → ρ) : List ρ → List ρ
  | [] => []
  | x :: t => if p x then f x :: t else x :: modifyFirst p f t

omit [DecidableEq κ] in
theorem map_modifyFirst {p : ρ → Bool} {f : ρ → ρ} (hf : ∀ x, key (f x) = key x) (t : List ρ) :
    (modifyFirst p f t).map key = t.map key := by
  induction t with
  | nil => rfl
  | cons x t ih =>
    rw [modifyFirst]
    split
    · rw [List.map_cons, hf, List.map_cons]
    · rw [List.map_cons, ih, List.map_cons]

theorem firstRow_modifyFirst {f : ρ → ρ} (hf : ∀ x, key (f x) = key x) (t : List ρ) (k k' : κ) :
    firstRow key (modifyFirst (fun x => key x = k) f t) k' =
      if k' = k then (firstRow key t k).map f else firstRow key t k' := by
  induction t with
  | nil => simp [modifyFirst, firstRow_nil]
  | cons x t ih =>
    rw [modifyFirst, firstRow_cons, firstRow_cons]
    by_cases hx : key x = k
    · rw [if_pos (by simpa using hx), firstRow_cons, hf, hx, if_pos rfl]
      by_cases hk : k' = k
      · rw [if_pos hk.symm, if_pos hk]
        rfl
      · rw [if_neg (Ne.symm hk), if_neg hk, if_neg (Ne.symm hk)]
    · rw [if_neg (by simpa using hx), firstRow_cons, ih, if_neg hx]
      by_cases hk : k' = k
      · rw [if_pos hk, if_pos hk, if_neg fun h => hx (h.trans hk)]
      · rw [if_neg hk, if_neg hk]

theorem firstRow_eraseP {t : List ρ} (h : (t.map key).Nodup) (k k' : κ) :
    firstRow key (t.eraseP fun x => key x = k) k' = if k' = k then none else firstRow key t k' := by
  induction t with
  | nil => simp [firstRow_nil]
  | cons x t ih =>
    rw [List.map_cons, List.nodup_cons] at h
    rw [firstRow_cons]
    by_cases hx : key x = k
    · rw [List.eraseP_cons_of_pos (by simpa using hx)]
      by_cases hk : k' = k
      · rw [if_pos hk, firstRow_eq_none_iff, hk, ← hx]
        exact h.1
      · rw [if_neg hk, if_neg fun h => hk (h.symm.trans hx)]
    · rw [List.eraseP_cons_of_neg (by simpa using hx), firstRow_cons, ih h.2]
      by_cases hk : k' = k
      · rw [if_pos hk, if_pos hk, if_neg fun h => hx (h.trans hk)]
      · rw [if_neg hk, if_neg hk]

/-! ## Rows of distinct keys -/

variable (key) in
/-- A row is put in unless its key is there. -/
def insertRow (t : List ρ) (x : ρ) : List ρ := if (firstRow key t (key x)).isSome then t else t ++ [x]

theorem firstRow_insertRow (t : List ρ) (x : ρ) (k : κ) :
    firstRow key (insertRow key t x) k = (firstRow key t k).or (if key x = k then some x else none) := by
  unfold insertRow
  split_ifs with hsome hk
  · rw [hk] at hsome
    obtain ⟨y, hy⟩ := Option.isSome_iff_exists.mp hsome
    rw [hy]
    rfl
  · rw [Option.or_none]
  · rw [firstRow_append_singleton, if_pos ‹_›]
  · rw [firstRow_append_singleton, if_neg ‹_›]

theorem mem_insertRow {t : List ρ} {x y : ρ} (h : y ∈ insertRow key t x) : y ∈ t ∨ y = x := by
  unfold insertRow at h
  split_ifs at h
  · exact .inl h
  · simpa using h

theorem nodup_insertRow {t : List ρ} (h : (t.map key).Nodup) (x : ρ) :
    ((insertRow key t x).map key).Nodup := by
  unfold insertRow
  split_ifs with hsome
  · exact h
  · have hnone : firstRow key t (key x) = none := by simpa using hsome
    rw [List.map_append, List.map_singleton, List.nodup_append]
    refine ⟨h, List.nodup_singleton _, fun a ha b hb => ?_⟩
    rw [List.mem_singleton.mp hb]
    exact fun heq => firstRow_eq_none_iff.mp hnone (heq ▸ ha)

end

end Oai5g
