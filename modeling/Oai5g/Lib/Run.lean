import Mathlib

/-!
# Runs of a state machine, tables and shared objects

* `run step s es`: the state after the events `es`; `Along step C s es`: every event of the run meets
  `C` in the state it finds. `Along.invariant` is the induction rule over a run, and
  `Along.iff_forall_prefix` the one for a condition that is exact.
* `update_some_eq_some`, `update_none_eq_some`: the entries of a table, a function to `Option`, after
  one key was set or removed.
* `Heap`: the objects behind shared pointers. A pointer is the index of a cell; `alloc` makes a new
  object, `modify` changes one in place.
-/

namespace Oai5g

/-! ## Runs -/

section

variable {σ ε : Type*} (step : σ → ε → σ)

/-- The state after a list of events. -/
def run (s : σ) (es : List ε) : σ := es.foldl step s

@[simp] theorem run_nil (s : σ) : run step s [] = s := rfl

@[simp] theorem run_cons (s : σ) (e : ε) (es : List ε) :
    run step s (e :: es) = run step (step s e) es := rfl

theorem run_append (s : σ) (es fs : List ε) :
    run step s (es ++ fs) = run step (run step s es) fs := List.foldl_append

/-- Every event of the run meets `C` in the state it finds. -/
def Along (C : σ → ε → Prop) : σ → List ε → Prop
  | _, [] => True
  | s, e :: es => C s e ∧ Along C (step s e) es

variable {step}

theorem Along.mono {C D : σ → ε → Prop} (h : ∀ s e, C s e → D s e) {s : σ} {es : List ε}
    (hs : Along step C s es) : Along step D s es := by
  induction es generalizing s with
  | nil => trivial
  | cons e es ih => exact ⟨h s e hs.1, ih hs.2⟩

theorem Along.append {C : σ → ε → Prop} {s : σ} {es fs : List ε} :
    Along step C s (es ++ fs) ↔ Along step C s es ∧ Along step C (run step s es) fs := by
  induction es generalizing s with
  | nil => simp [Along]
  | cons e es ih => simp [Along, ih, and_assoc]

/-- **What a step preserves under `C`, a run preserves whose steps all meet `C`.** -/
theorem Along.invariant {C : σ → ε → Prop} {I : σ → Prop}
    (hstep : ∀ s e, I s → C s e → I (step s e)) {s : σ} {es : List ε} (hs : I s)
    (hC : Along step C s es) : I (run step s es) := by
  induction es generalizing s with
  | nil => exact hs
  | cons e es ih => exact ih (hstep s e hs hC.1) hC.2

theorem Along.mono_of_invariant {C D : σ → ε → Prop} {I : σ → Prop}
    (hstep : ∀ s e, I s → C s e → I (step s e)) (h : ∀ s e, I s → C s e → D s e) {s : σ}
    {es : List ε} (hs : I s) (hC : Along step C s es) : Along step D s es := by
  induction es generalizing s with
  | nil => trivial
  | cons e es ih => exact ⟨h s e hs hC.1, ih (hstep s e hs hC.1) hC.2⟩

theorem Along.iff_of_invariant {C D : σ → ε → Prop} {I : σ → Prop}
    (hstep : ∀ s e, I s → C s e → I (step s e)) (hiff : ∀ s e, I s → (C s e ↔ D s e)) {s : σ}
    {es : List ε} (hs : I s) : Along step C s es ↔ Along step D s es := by
  constructor
  · exact Along.mono_of_invariant hstep (fun s e hI => (hiff s e hI).mp) hs
  · refine Along.mono_of_invariant (fun s e hI hD => ?_) (fun s e hI => (hiff s e hI).mpr) hs
    exact hstep s e hI ((hiff s e hI).mpr hD)

theorem Along.iff_forall_prefix_under {C D : σ → ε → Prop} {I J : σ → Prop} (hI : ∀ s, I s → J s)
    (hstep : ∀ s e, I s → D s e → C s e → I (step s e))
    (hexact : ∀ s e, I s → D s e → ¬ C s e → ¬ J (step s e)) {s : σ} {es : List ε} (hs : I s)
    (hD : Along step D s es) :
    (∀ pre, pre <+: es → J (run step s pre)) ↔ Along step C s es := by
  induction es generalizing s with
  | nil =>
    refine ⟨fun _ => trivial, fun _ pre hpre => ?_⟩
    rw [List.prefix_nil.mp hpre]
    exact hI s hs
  | cons e es ih =>
    constructor
    · intro h
      have hC : C s e := by
        by_contra hC
        exact hexact s e hs hD.1 hC (h [e] (List.prefix_append [e] es))
      refine ⟨hC, (ih (hstep s e hs hD.1 hC) hD.2).mp fun pre hpre => ?_⟩
      exact h (e :: pre) (List.cons_prefix_cons.mpr ⟨rfl, hpre⟩)
    · rintro ⟨hC, hes⟩ pre hpre
      rcases List.prefix_cons_iff.mp hpre with rfl | ⟨rest, rfl, hrest⟩
      · exact hI s hs
      · exact (ih (hstep s e hs hD.1 hC) hD.2).mpr hes rest hrest

theorem Along.always (s : σ) (es : List ε) : Along step (fun _ _ => True) s es := by
  induction es generalizing s with
  | nil => exact True.intro
  | cons e es ih => exact ⟨True.intro, ih (step s e)⟩

/-- **The exact condition for a run**: under the invariant `I`, a step that does not meet `C` leaves `J`. -/
theorem Along.iff_forall_prefix {C : σ → ε → Prop} {I J : σ → Prop} (hI : ∀ s, I s → J s)
    (hstep : ∀ s e, I s → C s e → I (step s e)) (hexact : ∀ s e, I s → ¬ C s e → ¬ J (step s e))
    {s : σ} {es : List ε} (hs : I s) :
    (∀ pre, pre <+: es → J (run step s pre)) ↔ Along step C s es :=
  Along.iff_forall_prefix_under hI (fun s e hs _ => hstep s e hs) (fun s e hs _ => hexact s e hs) hs
    (Along.always s es)

end

/-! ## Tables -/

section

variable {κ : Type*} {α : Type*} [DecidableEq κ] {m : κ → Option α} {k k' : κ} {a b : α}

theorem update_some_eq_some :
    Function.update m k (some a) k' = some b ↔ k' = k ∧ a = b ∨ k' ≠ k ∧ m k' = some b := by
  by_cases hk : k' = k
  · subst hk
    simp
  · simp [hk]

theorem update_none_eq_some : Function.update m k none k' = some a ↔ m k' = some a ∧ k' ≠ k := by
  by_cases hk : k' = k
  · subst hk
    simp
  · simp [hk]

theorem update_none_of_none (h : m k = none) : Function.update m k none = m := by
  rw [← h, Function.update_eq_self]

end

/-! ## Shared objects -/

/-- The objects behind shared pointers. -/
@[ext] structure Heap (α : Type*) where
  /-- The object behind a pointer. -/
  cell : ℕ → α
  /-- The first pointer not handed out yet. -/
  next : ℕ

namespace Heap

variable {α : Type*} (h : Heap α) (r : ℕ) (f : α → α)

/-- `std::make_shared`. -/
def alloc (a : α) : Heap α × ℕ :=
  ({ cell := Function.update h.cell h.next a, next := h.next + 1 }, h.next)

/-- The object behind `r` is changed in place. -/
def modify : Heap α := { h with cell := Function.update h.cell r (f (h.cell r)) }

@[simp] theorem modify_next : (h.modify r f).next = h.next := rfl

@[simp] theorem modify_cell_self : (h.modify r f).cell r = f (h.cell r) := by
  simp [modify]

theorem modify_cell_of_ne {q : ℕ} (hq : q ≠ r) : (h.modify r f).cell q = h.cell q := by
  simp [modify, hq]

theorem modify_cell_proj {β : Type*} (g : α → β) (hf : g (f (h.cell r)) = g (h.cell r)) (q : ℕ) :
    g ((h.modify r f).cell q) = g (h.cell q) := by
  by_cases hq : q = r
  · subst hq
    rw [modify_cell_self, hf]
  · rw [modify_cell_of_ne h r f hq]

@[simp] theorem alloc_snd (a : α) : (h.alloc a).2 = h.next := rfl

@[simp] theorem alloc_next (a : α) : (h.alloc a).1.next = h.next + 1 := rfl

@[simp] theorem alloc_cell_next (a : α) : (h.alloc a).1.cell h.next = a := by
  simp [alloc]

theorem alloc_cell_of_ne (a : α) {q : ℕ} (hq : q ≠ h.next) : (h.alloc a).1.cell q = h.cell q := by
  simp [alloc, hq]

theorem modify_id_of_eq (hf : f (h.cell r) = h.cell r) : h.modify r f = h := by
  cases h
  simp only [modify, hf, Function.update_eq_self]

end Heap

end Oai5g
