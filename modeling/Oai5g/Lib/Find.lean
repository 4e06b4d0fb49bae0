import Mathlib

/-!
# Searching a text

* `first p t`: the place of the first occurrence of a pattern; `first_eq_some_iff`, `first_eq_none_iff`.
* `first_append`: a search goes past a beginning in which no occurrence starts; `first_append_of_head_notMem`,
  `first_append_separator`.
* **`first_append_line`**: a pattern that is a whole end of a line, with its line break, is found in one line or in
  the lines after it, never across a line break.
-/

namespace Oai5g

variable {α : Type*} [DecidableEq α]

/-- The place of the first occurrence of a pattern. -/
def first (p : List α) : List α → Option ℕ
  | [] => if p = [] then some 0 else none
  | a :: t => if p.isPrefixOf (a :: t) then some 0 else (first p t).map (· + 1)

variable {p t a b : List α} {n : ℕ}

theorem first_cons (c : α) : first p (c :: t) = if p <+: c :: t then some 0 else (first p t).map (· + 1) := by
  simp only [first, List.isPrefixOf_iff_prefix]

theorem first_eq_some_iff : first p t = some n ↔ p <+: t.drop n ∧ ∀ m < n, ¬ p <+: t.drop m := by
  induction t generalizing n with
  | nil =>
    simp only [first, List.drop_nil, List.prefix_nil]
    split_ifs with hp
    · constructor
      · rintro ⟨⟩
        exact ⟨hp, fun m hm => absurd hm (Nat.not_lt_zero m)⟩
      · rintro ⟨-, hn⟩
        rcases Nat.eq_zero_or_pos n with rfl | hpos
        · rfl
        · exact absurd hp (hn 0 hpos)
    · simp [hp]
  | cons c t ih =>
    rw [first_cons]
    split_ifs with hp
    · constructor
      · rintro ⟨⟩
        exact ⟨hp, fun m hm => absurd hm (Nat.not_lt_zero m)⟩
      · rintro ⟨-, hn⟩
        rcases Nat.eq_zero_or_pos n with rfl | hpos
        · rfl
        · exact absurd hp (hn 0 hpos)
    · rw [Option.map_eq_some_iff]
      constructor
      · rintro ⟨k, hk, rfl⟩
        obtain ⟨hat, hbefore⟩ := ih.mp hk
        refine ⟨hat, fun m hm => ?_⟩
        cases m with
        | zero => exact hp
        | succ m => exact hbefore m (by omega)
      · rintro ⟨hat, hbefore⟩
        cases n with
        | zero => exact absurd hat hp
        | succ n => exact ⟨n, ih.mpr ⟨hat, fun m hm => hbefore (m + 1) (by omega)⟩, rfl⟩

theorem first_eq_none_iff : first p t = none ↔ ¬ p <:+: t := by
  induction t with
  | nil => simp [first]
  | cons c t ih =>
    rw [first_cons, List.infix_cons_iff]
    split_ifs with hp
    · simp [hp]
    · simp [hp, ih]

theorem first_le_length (h : first p t = some n) (hp : p ≠ []) : n + p.length ≤ t.length := by
  obtain ⟨hat, -⟩ := first_eq_some_iff.mp h
  have hlength := hat.length_le
  have hpos := List.length_pos_iff.mpr hp
  rw [List.length_drop] at hlength
  omega

theorem first_eq_zero (h : p <+: t) : first p t = some 0 :=
  first_eq_some_iff.mpr ⟨h, fun m hm => absurd hm (Nat.not_lt_zero m)⟩

theorem first_append (h : ∀ m < a.length, ¬ p <+: a.drop m ++ b) :
    first p (a ++ b) = (first p b).map (a.length + ·) := by
  induction a with
  | nil => simp
  | cons c a ih =>
    have hp : ¬ p <+: c :: (a ++ b) := h 0 (by simp)
    rw [List.cons_append, first_cons, if_neg hp,
      ih fun m hm => h (m + 1) (by simpa using hm), Option.map_map]
    congr 1
    funext k
    simp only [Function.comp_apply, List.length_cons]
    omega

theorem first_append_of_head_notMem {c : α} {q : List α} (hc : c ∉ a) :
    first (c :: q) (a ++ b) = (first (c :: q) b).map (a.length + ·) := by
  refine first_append fun m hm hstarts => hc ?_
  rw [List.drop_eq_getElem_cons hm, List.cons_append, List.cons_prefix_cons] at hstarts
  rw [hstarts.1]
  exact List.getElem_mem hm

omit [DecidableEq α] in
theorem mem_of_starts_append {r : α} (h : p <+: a ++ r :: b) (ha : ¬ p <+: a) : r ∈ p := by
  obtain ⟨c, hc⟩ := h
  have hlt : a.length < p.length := by
    by_contra hle
    push Not at hle
    exact ha (List.prefix_of_prefix_length_le ⟨c, hc⟩ (List.prefix_append _ _) hle)
  have hat : (p ++ c)[a.length]? = some r := by simp [hc]
  rw [List.getElem?_append_left hlt] at hat
  exact List.mem_of_getElem? hat

theorem first_append_separator {r : α} (hr : r ∉ p) (h : ¬ p <:+: a) :
    first p (a ++ r :: b) = (first p b).map (a.length + 1 + ·) := by
  have hsplit : a ++ r :: b = (a ++ [r]) ++ b := by simp
  rw [hsplit, first_append fun m hm hstarts => ?_]
  · simp
  · simp only [List.length_append, List.length_cons, List.length_nil] at hm
    rw [List.drop_append_of_le_length (by omega), List.append_assoc] at hstarts
    refine hr (mem_of_starts_append hstarts fun hin => ?_)
    exact h (hin.isInfix.trans (List.drop_suffix m a).isInfix)

/-! ## Lines -/

variable {x : List α} {r l : α}

omit [DecidableEq α] in
theorem length_le_of_prefix_line (hx : r ∉ x) (h : x ++ [r, l] <+: a ++ [r, l] ++ b) : x.length ≤ a.length := by
  by_contra hlt
  push Not at hlt
  have hstarts : x <+: a ++ r :: ([l] ++ b) := by
    have hx := (List.prefix_append x [r, l]).trans h
    simpa using hx
  exact hx (mem_of_starts_append hstarts fun ha => absurd ha.length_le (by omega))

omit [DecidableEq α] in
theorem not_prefix_drop_line (hx : r ∉ x) (hhead : x.head? ≠ some l) (hnil : x ≠ [])
    (h : ¬ x ++ [r, l] <:+: a ++ [r, l]) {m : ℕ} (hm : m < (a ++ [r, l]).length) :
    ¬ x ++ [r, l] <+: (a ++ [r, l]).drop m ++ b := by
  intro hstarts
  simp only [List.length_append, List.length_cons, List.length_nil] at hm
  rcases Nat.lt_or_ge a.length m with hbreak | hline
  · -- only the second octet of the line break is left
    obtain ⟨c, x, rfl⟩ := List.exists_cons_of_ne_nil hnil
    have hm' : m = a.length + 1 := by omega
    subst hm'
    rw [List.drop_append, List.drop_of_length_le (Nat.le_succ _), Nat.add_sub_cancel_left, List.nil_append] at hstarts
    exact hhead (congrArg some (List.cons_prefix_cons.mp hstarts).1)
  · rw [List.drop_append_of_le_length hline] at hstarts
    have hle := length_le_of_prefix_line hx hstarts
    have hshort : x ++ [r, l] <+: a.drop m ++ [r, l] :=
      List.prefix_of_prefix_length_le hstarts (List.prefix_append _ _) (by simpa using hle)
    have hdrop : a.drop m ++ [r, l] <:+ a ++ [r, l] := by
      rw [← List.drop_append_of_le_length hline]
      exact List.drop_suffix _ _
    exact h (hshort.isInfix.trans hdrop.isInfix)

/-- **A pattern that ends a line is found in a line or in the lines after it.** -/
theorem first_append_line (hx : r ∉ x) (hhead : x.head? ≠ some l) (hnil : x ≠ [])
    (h : ¬ x ++ [r, l] <:+: a ++ [r, l]) :
    first (x ++ [r, l]) (a ++ [r, l] ++ b) = (first (x ++ [r, l]) b).map (a.length + 2 + ·) := by
  rw [first_append fun m hm => not_prefix_drop_line hx hhead hnil h hm]
  simp

omit [DecidableEq α] in
theorem suffix_of_infix_line (ha : r ∉ a) (hrl : l ≠ r) (h : x ++ [r, l] <:+: a ++ [r, l]) : x <:+ a := by
  classical
  obtain ⟨s, t, hst⟩ := h
  have hcount : (s ++ x).count r + (l :: t).count r = 0 := by
    have hboth := congrArg (List.count r) hst
    have ha0 := List.count_eq_zero.mpr ha
    simp only [List.count_append, List.count_cons, List.count_nil, beq_self_eq_true, if_true,
      beq_eq_false_iff_ne.mpr hrl, Bool.false_eq_true, if_false] at hboth ⊢
    omega
  have hsx : r ∉ s ++ x := List.count_eq_zero.mp (by omega)
  have hlt : r ∉ l :: t := List.count_eq_zero.mp (by omega)
  have hsplit : (s ++ x) ++ r :: (l :: t) = a ++ r :: [l] := by simpa using hst
  exact ⟨s, ((List.append_cons_inj_of_notMem hsx hlt).mp hsplit).1⟩

end Oai5g
