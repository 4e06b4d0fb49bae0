import Oai5g.Lib.Walk

/-!
# Loops over a stack

* `ahead`, `GoesRound`: the way from a visited node to the first one behind it that is unvisited or has nodes behind
  it, and on; it comes back to one of its nodes.
* `StackLoop`: a loop that pops a node, marks it as visited and pushes those behind it, of which one is unvisited; an
  entry of the stack that is no node is dropped.
* **`StackLoop.terminates_iff`**: the loop ends exactly when in no turn the way from the node on top goes round.
-/

namespace Oai5g

theorem exists_first_not {α : Type*} {l : List α} {p : α → Prop} (h : ∃ b ∈ l, ¬ p b) :
    ∃ before a rest, l = before ++ a :: rest ∧ (∀ b ∈ before, p b) ∧ ¬ p a := by
  induction l with
  | nil =>
    obtain ⟨b, hb, -⟩ := h
    cases hb
  | cons c l ih =>
    by_cases hc : p c
    · obtain ⟨b, hb, hp⟩ := h
      obtain ⟨before, a, rest, rfl, hbefore, ha⟩ := ih ⟨b, (List.mem_cons.mp hb).resolve_left
        (fun heq => hp (heq ▸ hc)), hp⟩
      exact ⟨c :: before, a, rest, rfl, List.forall_mem_cons.mpr ⟨hc, hbefore⟩, ha⟩
    · exact ⟨[], c, l, rfl, (fun b hb => nomatch hb), hc⟩

/-! ## The way ahead -/

section

variable {α : Type*} [DecidableEq α] (next : Finset α → α → List α)

/-- A node is unvisited, or has others behind it. -/
def Alive (visited : Finset α) (a : α) : Prop := a ∉ visited ∨ next visited a ≠ []

instance (visited : Finset α) (a : α) : Decidable (Alive next visited a) := inferInstanceAs (Decidable (_ ∨ _))

/-- **The way ahead** from a visited node: the first live one behind it. -/
def ahead (visited : Finset α) (a : α) : Option α :=
  if a ∈ visited then (next visited a).find? (Alive next visited ·) else none

/-- **The way ahead goes round.** -/
def GoesRound (visited : Finset α) (a : α) : Prop := ComesTwice (ahead next visited) a

variable {next} {visited : Finset α} {a b : α}

theorem ahead_eq_some (h : ahead next visited a = some b) :
    a ∈ visited ∧ b ∈ next visited a ∧ Alive next visited b := by
  unfold ahead at h
  split_ifs at h with ha
  exact ⟨ha, List.mem_of_find?_eq_some h, by simpa using List.find?_some h⟩

theorem exists_ahead (h : ∀ n, (walk (ahead next visited) a n).isSome) :
    ∃ b, ahead next visited a = some b ∧ ∀ n, (walk (ahead next visited) b n).isSome := by
  obtain ⟨b, hb⟩ := Option.isSome_iff_exists.mp (h 1)
  have hahead : ahead next visited a = some b := hb
  refine ⟨b, hahead, fun n => ?_⟩
  have hn := h (n + 1)
  rwa [walk_succ, hahead] at hn

end

/-! ## Loops -/

/-- A loop over a stack. An entry that is no node is dropped. -/
structure StackLoop (σ α : Type*) [DecidableEq α] where
  step : σ → σ
  stack : σ → List (Option α)
  visited : σ → Finset α
  /-- The nodes behind a node, by what is visited. -/
  next : Finset α → α → List α
  nodes : Finset α
  step_nil : ∀ s, stack s = [] → step s = s
  step_none : ∀ s rest, stack s = none :: rest → stack (step s) = rest ∧ visited (step s) = visited s
  step_some : ∀ s a rest, stack s = some a :: rest → visited (step s) = insert a (visited s) ∧
    ∃ pushed, stack (step s) = pushed ++ rest ∧ pushed.reduceOption = next (insert a (visited s)) a
  next_nodes : ∀ visited a, ∀ b ∈ next visited a, b ∈ nodes
  next_unvisited : ∀ visited a, next visited a ≠ [] → ∃ b ∈ next visited a, b ∉ visited

namespace StackLoop

variable {σ α : Type*} [DecidableEq α] (loop : StackLoop σ α)

/-- The entry comes off the stack, and nothing else happens. -/
def Dead (visited : Finset α) (entry : Option α) : Prop := ∀ a, entry = some a → ¬ Alive loop.next visited a

variable {loop} {s : σ} {visited : Finset α} {a b : α} {entry : Option α} {skip rest : List (Option α)} {n : ℕ}

/-! ## One turn -/

theorem dead_none : loop.Dead visited none := fun _ h => nomatch h

theorem step_dead (hs : loop.stack s = entry :: rest) (hdead : loop.Dead (loop.visited s) entry) :
    loop.visited (loop.step s) = loop.visited s ∧
      ∃ nothing, loop.stack (loop.step s) = nothing ++ rest ∧ ∀ o ∈ nothing, o = none := by
  cases entry with
  | none =>
    obtain ⟨hstack, hvisited⟩ := loop.step_none s rest hs
    exact ⟨hvisited, [], hstack, fun o ho => nomatch ho⟩
  | some a =>
    have hnot := hdead a rfl
    unfold Alive at hnot
    push Not at hnot
    obtain ⟨hvisited, pushed, hstack, hnext⟩ := loop.step_some s a rest hs
    rw [Finset.insert_eq_of_mem hnot.1] at hvisited hnext
    rw [hnot.2] at hnext
    refine ⟨hvisited, pushed, hstack, fun o ho => ?_⟩
    by_contra hsome
    obtain ⟨b, rfl⟩ := Option.ne_none_iff_exists'.mp hsome
    have hb := List.reduceOption_mem_iff.mpr ho
    rw [hnext] at hb
    cases hb

theorem iterate_none {nothing : List (Option α)} (hs : loop.stack s = nothing ++ rest)
    (hnone : ∀ o ∈ nothing, o = none) : loop.stack (loop.step^[nothing.length] s) = rest ∧
      loop.visited (loop.step^[nothing.length] s) = loop.visited s := by
  induction nothing generalizing s with
  | nil => exact ⟨hs, rfl⟩
  | cons o nothing ih =>
    obtain ⟨rfl, hrest⟩ := List.forall_mem_cons.mp hnone
    obtain ⟨hstack, hvisited⟩ := loop.step_none s _ hs
    have hrest := ih hstack hrest
    rw [hvisited] at hrest
    exact hrest

/-- **Dead entries come off the stack.** -/
theorem exists_iterate_skip (hs : loop.stack s = skip ++ rest)
    (hdead : ∀ o ∈ skip, loop.Dead (loop.visited s) o) :
    ∃ k, loop.stack (loop.step^[k] s) = rest ∧ loop.visited (loop.step^[k] s) = loop.visited s := by
  induction skip generalizing s with
  | nil => exact ⟨0, hs, rfl⟩
  | cons o skip ih =>
    obtain ⟨ho, hskip⟩ := List.forall_mem_cons.mp hdead
    obtain ⟨hvisited, nothing, hstack, hnone⟩ := step_dead hs ho
    obtain ⟨hstack', hvisited'⟩ := iterate_none hstack hnone
    rw [hvisited] at hvisited'
    obtain ⟨k, hk⟩ := ih hstack' (by rwa [hvisited'])
    rw [hvisited', ← Function.iterate_succ_apply, ← Function.iterate_add_apply] at hk
    exact ⟨_, hk⟩

theorem exists_first_live {l : List (Option α)} (h : ∃ o ∈ l, ¬ loop.Dead visited o) :
    ∃ skip a rest, l = skip ++ some a :: rest ∧ (∀ o ∈ skip, loop.Dead visited o) ∧ Alive loop.next visited a := by
  obtain ⟨skip, o, rest, rfl, hskip, ho⟩ := exists_first_not h
  unfold Dead at ho
  push Not at ho
  obtain ⟨a, rfl, ha⟩ := ho
  exact ⟨skip, a, rest, rfl, hskip, ha⟩

/-- **Where the way leads ahead**, the node there comes on top of the stack, but for dead entries. -/
theorem step_ahead (hs : loop.stack s = some a :: rest)
    (hahead : ahead loop.next (insert a (loop.visited s)) a = some b) :
    loop.visited (loop.step s) = insert a (loop.visited s) ∧ ∃ skip more,
      loop.stack (loop.step s) = skip ++ some b :: more ∧
        ∀ o ∈ skip, loop.Dead (insert a (loop.visited s)) o := by
  obtain ⟨hvisited, pushed, hstack, hnext⟩ := loop.step_some s a rest hs
  obtain ⟨-, hb, hlive⟩ := ahead_eq_some hahead
  have hlivePushed : ∃ o ∈ pushed, ¬ loop.Dead (insert a (loop.visited s)) o :=
    ⟨some b, List.reduceOption_mem_iff.mp (hnext ▸ hb), fun hdead => hdead b rfl hlive⟩
  obtain ⟨skip, c, post, rfl, hskip, hc⟩ := exists_first_live hlivePushed
  have hdead : ∀ x ∈ skip.reduceOption, Alive loop.next (insert a (loop.visited s)) x = False := fun x hx =>
    eq_false (hskip _ (List.reduceOption_mem_iff.mp hx) x rfl)
  have hfirst : ahead loop.next (insert a (loop.visited s)) a = some c := by
    unfold ahead
    rw [if_pos (Finset.mem_insert_self a _), ← hnext, List.reduceOption_append, List.reduceOption_cons_of_some,
      List.find?_append, List.find?_eq_none.mpr fun x hx => by simp [hdead x hx], Option.none_or, List.find?_cons]
    simp [hc]
  obtain rfl := Option.some.inj (hfirst.symm.trans hahead)
  refine ⟨hvisited, skip, post ++ rest, ?_, hskip⟩
  rw [hstack, List.append_assoc]
  rfl

/-! ## Going round -/

/-- Behind dead entries there is a node from which the way never ends. -/
structure Rounds (loop : StackLoop σ α) (visited : Finset α) (s : σ) : Prop where
  marked : loop.visited s = visited
  stack : ∃ skip a rest, loop.stack s = skip ++ some a :: rest ∧ (∀ o ∈ skip, loop.Dead visited o) ∧
    ∀ n, (walk (ahead loop.next visited) a n).isSome

theorem rounds_of_top (hs : loop.stack s = some a :: rest)
    (h : ∀ n, (walk (ahead loop.next (insert a (loop.visited s))) a n).isSome) :
    loop.Rounds (insert a (loop.visited s)) (loop.step s) := by
  obtain ⟨b, hahead, hb⟩ := exists_ahead h
  obtain ⟨hvisited, skip, more, hstack, hskip⟩ := step_ahead hs hahead
  exact ⟨hvisited, skip, b, more, hstack, hskip, hb⟩

theorem Rounds.step (h : loop.Rounds visited s) : loop.Rounds visited (loop.step s) := by
  obtain ⟨rfl, skip, a, rest, hs, hskip, ha⟩ := h
  cases skip with
  | nil =>
    obtain ⟨b, hahead, -⟩ := exists_ahead ha
    have hround := rounds_of_top hs (by rwa [Finset.insert_eq_of_mem (ahead_eq_some hahead).1])
    rwa [Finset.insert_eq_of_mem (ahead_eq_some hahead).1] at hround
  | cons o skip =>
    obtain ⟨ho, hskip⟩ := List.forall_mem_cons.mp hskip
    obtain ⟨hvisited, nothing, hstack, hnone⟩ := step_dead hs ho
    refine ⟨hvisited, nothing ++ skip, a, rest, hstack.trans (List.append_assoc ..).symm, fun o' ho' => ?_, ha⟩
    rcases List.mem_append.mp ho' with ho' | ho'
    · rw [hnone o' ho']
      exact dead_none
    · exact hskip o' ho'

/-- **A loop that goes round never ends.** -/
theorem Rounds.stack_ne_nil (h : loop.Rounds visited s) (k : ℕ) : loop.stack (loop.step^[k] s) ≠ [] := by
  have hround : loop.Rounds visited (loop.step^[k] s) := by
    induction k with
    | zero => exact h
    | succ k ih =>
      rw [Function.iterate_succ_apply']
      exact ih.step
  obtain ⟨-, skip, a, rest, hs, -⟩ := hround
  rw [hs]
  exact List.append_ne_nil_of_right_ne_nil _ (List.cons_ne_nil _ _)

/-! ## Coming to an unvisited node -/

/-- **A way that does not go round** leads from a live node to an unvisited one. -/
theorem exists_unvisited (ha : a ∈ loop.nodes) (hlive : Alive loop.next visited a) (h : ¬ GoesRound loop.next visited a) :
    ∃ n b, walk (ahead loop.next visited) a n = some b ∧ b ∉ visited := by
  obtain ⟨n, b, hb, hend⟩ := exists_end_of_not_comesTwice ha
    (fun c _ d hd => loop.next_nodes visited c d (ahead_eq_some hd).2.1) h
  refine ⟨n, b, hb, fun hmem => ?_⟩
  have hliveb : Alive loop.next visited b := by
    cases n with
    | zero =>
      cases hb
      exact hlive
    | succ n =>
      obtain ⟨c, -, hc⟩ := Option.bind_eq_some_iff.mp hb
      exact (ahead_eq_some hc).2.2
  obtain ⟨c, hc, hunvisited⟩ := loop.next_unvisited visited b (hliveb.resolve_left (not_not.mpr hmem))
  unfold ahead at hend
  rw [if_pos hmem, List.find?_eq_none] at hend
  exact hend c hc (decide_eq_true (.inl hunvisited))

/-- **The loop comes to the unvisited node.** -/
theorem exists_iterate_visited (hs : loop.stack s = skip ++ some a :: rest)
    (hskip : ∀ o ∈ skip, loop.Dead (loop.visited s) o) (ha : a ∈ loop.nodes)
    (hwalk : walk (ahead loop.next (loop.visited s)) a n = some b) (hb : b ∉ loop.visited s) :
    b ∈ loop.nodes ∧ ∃ k, loop.visited (loop.step^[k] s) = insert b (loop.visited s) := by
  induction n generalizing s a skip rest with
  | zero =>
    cases hwalk
    obtain ⟨k, hstack, hvisited⟩ := exists_iterate_skip hs hskip
    refine ⟨ha, k + 1, ?_⟩
    rw [Function.iterate_succ_apply', (loop.step_some _ _ _ hstack).1, hvisited]
  | succ n ih =>
    obtain ⟨m, hstack, hvisited⟩ := exists_iterate_skip hs hskip
    rw [walk_succ] at hwalk
    obtain ⟨c, hc, hwalk⟩ := Option.bind_eq_some_iff.mp hwalk
    obtain ⟨hmem, hnext, -⟩ := ahead_eq_some hc
    -- the state in which the node is on top
    generalize hs' : loop.step^[m] s = s' at hstack hvisited
    rw [← hvisited] at hc hmem hwalk hb hnext
    obtain ⟨hstep, skip', more, htop, hdead⟩ := step_ahead (b := c) hstack (by rwa [Finset.insert_eq_of_mem hmem])
    rw [Finset.insert_eq_of_mem hmem] at hstep hdead
    rw [← hstep] at hdead hwalk hb
    obtain ⟨hnode, k, hk⟩ := ih htop hdead (loop.next_nodes _ _ _ hnext) hwalk hb
    refine ⟨hnode, k + (m + 1), ?_⟩
    rw [Function.iterate_add_apply, Function.iterate_succ_apply', hs', hk, hstep, hvisited]

/-! ## Termination -/

theorem stack_nodes_step (hnodes : ∀ b, some b ∈ loop.stack s → b ∈ loop.nodes) :
    ∀ b, some b ∈ loop.stack (loop.step s) → b ∈ loop.nodes := by
  intro b hb
  cases hs : loop.stack s with
  | nil =>
    rw [loop.step_nil s hs] at hb
    exact hnodes b hb
  | cons o rest =>
    rw [hs] at hnodes
    cases o with
    | none =>
      rw [(loop.step_none s rest hs).1] at hb
      exact hnodes b (List.mem_cons_of_mem _ hb)
    | some a =>
      obtain ⟨-, pushed, hstack, hnext⟩ := loop.step_some s a rest hs
      rw [hstack] at hb
      rcases List.mem_append.mp hb with hb | hb
      · exact loop.next_nodes _ _ b (hnext ▸ List.reduceOption_mem_iff.mpr hb)
      · exact hnodes b (List.mem_cons_of_mem _ hb)

theorem stack_nodes_iterate (hnodes : ∀ b, some b ∈ loop.stack s → b ∈ loop.nodes) (k : ℕ) :
    ∀ b, some b ∈ loop.stack (loop.step^[k] s) → b ∈ loop.nodes := by
  induction k with
  | zero => exact hnodes
  | succ k ih =>
    rw [Function.iterate_succ_apply']
    exact stack_nodes_step ih

/-- In no turn the way from the node on top goes round. -/
def NeverGoesRound (loop : StackLoop σ α) (s : σ) : Prop :=
  ∀ k a rest, loop.stack (loop.step^[k] s) = some a :: rest →
    ¬ GoesRound loop.next (insert a (loop.visited (loop.step^[k] s))) a

theorem NeverGoesRound.iterate (h : loop.NeverGoesRound s) (n : ℕ) : loop.NeverGoesRound (loop.step^[n] s) := by
  intro k a rest hs
  rw [← Function.iterate_add_apply] at hs ⊢
  exact h (k + n) a rest hs

/-- Where the stack is not finished with what is visited, the loop visits another node. -/
theorem NeverGoesRound.visits (h : loop.NeverGoesRound s) (hnodes : ∀ b, some b ∈ loop.stack s → b ∈ loop.nodes)
    (hlive : ∃ o ∈ loop.stack s, ¬ loop.Dead (loop.visited s) o) :
    ∃ b ∈ loop.nodes, b ∉ loop.visited s ∧ ∃ k, loop.visited (loop.step^[k] s) = insert b (loop.visited s) := by
  obtain ⟨skip, a, rest, hs, hskip, ha⟩ := exists_first_live hlive
  have hnode : a ∈ loop.nodes := hnodes a (by
    rw [hs]
    exact List.mem_append_right _ List.mem_cons_self)
  obtain ⟨m, hstack, hvisited⟩ := exists_iterate_skip hs hskip
  have hround := h m a rest hstack
  rw [hvisited] at hround
  obtain ⟨n, b, hwalk, hb⟩ : ∃ n b, walk (ahead loop.next (loop.visited s)) a n = some b ∧ b ∉ loop.visited s := by
    by_cases hmem : a ∈ loop.visited s
    · rw [Finset.insert_eq_of_mem hmem] at hround
      exact exists_unvisited hnode ha hround
    · exact ⟨0, a, rfl, hmem⟩
  obtain ⟨hbnode, hk⟩ := exists_iterate_visited hs hskip hnode hwalk hb
  exact ⟨b, hbnode, hb, hk⟩

theorem NeverGoesRound.terminates (h : loop.NeverGoesRound s)
    (hnodes : ∀ b, some b ∈ loop.stack s → b ∈ loop.nodes) : ∃ k, loop.stack (loop.step^[k] s) = [] := by
  -- each time there is one unvisited node less
  induction hcard : (loop.nodes \ loop.visited s).card using Nat.strong_induction_on generalizing s with
  | _ m ih =>
    by_cases hlive : ∃ o ∈ loop.stack s, ¬ loop.Dead (loop.visited s) o
    · obtain ⟨b, hb, hunvisited, k, hk⟩ := h.visits hnodes hlive
      have hless : (loop.nodes \ loop.visited (loop.step^[k] s)).card < m := by
        rw [← hcard, hk]
        refine Finset.card_lt_card ((Finset.ssubset_iff_of_subset
          (Finset.sdiff_subset_sdiff (Finset.Subset.refl _) (Finset.subset_insert _ _))).mpr ⟨b, ?_, by simp⟩)
        exact Finset.mem_sdiff.mpr ⟨hb, hunvisited⟩
      obtain ⟨n, hn⟩ := ih _ hless (h.iterate k) (stack_nodes_iterate hnodes k) rfl
      rw [← Function.iterate_add_apply] at hn
      exact ⟨n + k, hn⟩
    · push Not at hlive
      obtain ⟨k, hk, -⟩ := exists_iterate_skip (List.append_nil _).symm hlive
      exact ⟨k, hk⟩

/-- **The loop ends exactly when in no turn the way from the node on top goes round.** -/
theorem terminates_iff (hnodes : ∀ b, some b ∈ loop.stack s → b ∈ loop.nodes) :
    (∃ k, loop.stack (loop.step^[k] s) = []) ↔ loop.NeverGoesRound s := by
  refine ⟨?_, fun h => h.terminates hnodes⟩
  rintro ⟨n, hn⟩ k a rest hs hround
  refine (rounds_of_top hs hround.isSome_walk).stack_ne_nil n ?_
  -- after the end nothing changes
  have hstay : loop.step^[n] (loop.step (loop.step^[k] s)) = loop.step^[n] s := by
    rw [← Function.iterate_succ_apply' loop.step, ← Function.iterate_add_apply, add_comm, Function.iterate_add_apply]
    exact Function.iterate_fixed (loop.step_nil _ hn) _
  rw [hstay]
  exact hn

end StackLoop

end Oai5g
