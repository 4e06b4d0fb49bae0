import Oai5g.Lib.Run

/-!
# Runs with outputs

The steps of a machine that gives outputs, and that may not come back from an event.

* `trace step s es`: the state after the events `es` and all the outputs of the run, where every step
  came back.
* **`trace_induction`**: what holds at the start and is kept by every step holds of the events, the state
  and the outputs of a run.
* `trace_eq_none_iff`: the first event that a run does not come back from.
* `TraceAlong step C s es`: every event of the run meets `C` in the state it finds; `TraceAlong.snoc`.
-/

namespace Oai5g

variable {σ ε ω : Type*} (step : σ → ε → Option (σ × List ω))

/-- The state after a run and its outputs. -/
def trace : σ → List ε → Option (σ × List ω)
  | s, [] => some (s, [])
  | s, e :: es => (step s e).bind fun x => (trace x.1 es).map fun y => (y.1, x.2 ++ y.2)

variable {step} {s s' : σ} {es fs : List ε} {e : ε} {out : List ω}

theorem trace_nil_eq_some : trace step s [] = some (s', out) ↔ s' = s ∧ out = [] := by
  simp [trace, eq_comm]

theorem trace_cons_eq_some : trace step s (e :: es) = some (s', out) ↔
    ∃ s₁ o₁ o₂, step s e = some (s₁, o₁) ∧ trace step s₁ es = some (s', o₂) ∧ out = o₁ ++ o₂ := by
  simp only [trace, Option.bind_eq_some_iff, Option.map_eq_some_iff, Prod.exists, Prod.mk.injEq]
  constructor
  · rintro ⟨s₁, o₁, hstep, t, o₂, htrace, rfl, rfl⟩
    exact ⟨s₁, o₁, o₂, hstep, htrace, rfl⟩
  · rintro ⟨s₁, o₁, o₂, hstep, htrace, rfl⟩
    exact ⟨s₁, o₁, hstep, s', o₂, htrace, rfl, rfl⟩

theorem trace_append_eq_some : trace step s (es ++ fs) = some (s', out) ↔
    ∃ s₁ o₁ o₂, trace step s es = some (s₁, o₁) ∧ trace step s₁ fs = some (s', o₂) ∧ out = o₁ ++ o₂ := by
  induction es generalizing s out with
  | nil =>
    simp only [List.nil_append, trace_nil_eq_some]
    constructor
    · exact fun h => ⟨s, [], out, ⟨rfl, rfl⟩, h, rfl⟩
    · rintro ⟨s₁, o₁, o₂, ⟨rfl, rfl⟩, h, rfl⟩
      exact h
  | cons e es ih =>
    simp only [List.cons_append, trace_cons_eq_some, ih]
    constructor
    · rintro ⟨s₁, o₁, o₂, hstep, ⟨s₂, o₃, o₄, hes, hfs, rfl⟩, rfl⟩
      exact ⟨s₂, o₁ ++ o₃, o₄, ⟨s₁, o₁, o₃, hstep, hes, rfl⟩, hfs, (List.append_assoc ..).symm⟩
    · rintro ⟨s₂, o₁, o₄, ⟨s₁, o₂, o₃, hstep, hes, rfl⟩, hfs, rfl⟩
      exact ⟨s₁, o₂, o₃ ++ o₄, hstep, ⟨s₂, o₃, o₄, hes, hfs, rfl⟩, List.append_assoc ..⟩

theorem trace_snoc_eq_some : trace step s (es ++ [e]) = some (s', out) ↔
    ∃ s₁ o₁ o₂, trace step s es = some (s₁, o₁) ∧ step s₁ e = some (s', o₂) ∧ out = o₁ ++ o₂ := by
  rw [trace_append_eq_some]
  simp only [trace_cons_eq_some, trace_nil_eq_some]
  constructor
  · rintro ⟨s₁, o₁, o₂, hes, ⟨s₂, o₃, o₄, hstep, ⟨rfl, rfl⟩, rfl⟩, rfl⟩
    exact ⟨s₁, o₁, o₃, hes, hstep, by rw [List.append_nil]⟩
  · rintro ⟨s₁, o₁, o₂, hes, hstep, rfl⟩
    exact ⟨s₁, o₁, o₂, hes, ⟨s', o₂, [], hstep, ⟨rfl, rfl⟩, (List.append_nil _).symm⟩, rfl⟩

/-- **Induction over a run**: what holds at the start and is kept by every step. -/
theorem trace_induction {I : List ε → σ → List ω → Prop} (hs : I [] s [])
    (hstep : ∀ es s₁ o₁ e s₂ o₂, trace step s es = some (s₁, o₁) → I es s₁ o₁ →
      step s₁ e = some (s₂, o₂) → I (es ++ [e]) s₂ (o₁ ++ o₂))
    (h : trace step s es = some (s', out)) : I es s' out := by
  induction es using List.reverseRecOn generalizing s' out with
  | nil =>
    obtain ⟨rfl, rfl⟩ := trace_nil_eq_some.mp h
    exact hs
  | append_singleton es e ih =>
    obtain ⟨s₁, o₁, o₂, hes, he, rfl⟩ := trace_snoc_eq_some.mp h
    exact hstep es s₁ o₁ e s' o₂ hes (ih hes) he

/-- A run does not come back exactly when one of its events does not, in the state it finds. -/
theorem trace_eq_none_iff : trace step s es = none ↔
    ∃ pre e post s₁ o₁, es = pre ++ e :: post ∧ trace step s pre = some (s₁, o₁) ∧ step s₁ e = none := by
  induction es generalizing s with
  | nil => simp [trace]
  | cons e es ih =>
    cases he : step s e with
    | none =>
      refine iff_of_true (by simp [trace, he]) ⟨[], e, es, s, [], rfl, rfl, he⟩
    | some x =>
      have hcons : trace step s (e :: es) = none ↔ trace step x.1 es = none := by
        simp [trace, he]
      rw [hcons, ih]
      constructor
      · rintro ⟨pre, f, post, s₁, o₁, rfl, hpre, hf⟩
        exact ⟨e :: pre, f, post, s₁, x.2 ++ o₁, rfl,
          trace_cons_eq_some.mpr ⟨x.1, x.2, o₁, he, hpre, rfl⟩, hf⟩
      · rintro ⟨pre, f, post, s₁, o₁, hes, hpre, hf⟩
        cases pre with
        | nil =>
          obtain ⟨rfl, rfl⟩ := trace_nil_eq_some.mp hpre
          obtain ⟨rfl, -⟩ := List.cons.inj hes
          rw [he] at hf
          cases hf
        | cons g pre =>
          obtain ⟨rfl, rfl⟩ := List.cons.inj hes
          obtain ⟨s₂, o₂, o₃, hg, hrest, rfl⟩ := trace_cons_eq_some.mp hpre
          rw [he] at hg
          obtain rfl := Option.some.inj hg
          exact ⟨pre, f, post, s₁, o₃, rfl, hrest, hf⟩

/-! ## Every event of a run -/

/-- Every event of the run meets `C` in the state it finds. -/
def TraceAlong (step : σ → ε → Option (σ × List ω)) (C : σ → ε → Prop) (s : σ) (es : List ε) : Prop :=
  ∀ pre e post s₁ o₁, es = pre ++ e :: post → trace step s pre = some (s₁, o₁) → C s₁ e

variable {C : σ → ε → Prop}

theorem TraceAlong.nil : TraceAlong step C s [] := by
  intro pre e post s₁ o₁ h
  simp at h

theorem TraceAlong.snoc (h : TraceAlong step C s es) (hrun : trace step s es = some (s', out))
    (he : C s' e) : TraceAlong step C s (es ++ [e]) := by
  intro pre f post s₁ o₁ heq hpre
  rcases List.eq_nil_or_concat' post with rfl | ⟨post, g, rfl⟩
  · obtain ⟨rfl, hf⟩ := List.append_inj' heq rfl
    obtain rfl := List.singleton_inj.mp hf
    rw [hrun] at hpre
    cases hpre
    exact he
  · rw [← List.cons_append, ← List.append_assoc] at heq
    exact h pre f post s₁ o₁ (List.append_inj' heq rfl).1 hpre

end Oai5g
