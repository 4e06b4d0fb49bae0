import Mathlib.Combinatorics.SimpleGraph.Acyclic
import Mathlib.Data.Finset.Basic

/-!
# Depth-first visits that postpone

* `isAcyclic_of_parent`: edges between parents and children form no cycle.
* `Postponing`: nodes with those behind each of them, and those that each waits for.
* `Postponing.turn`: a turn pops an entry of the stack; a node that waits for an unvisited one is dropped, another one
  is visited, and the unvisited nodes behind it are pushed.
* `VisitsAll`: every node that can be reached is visited once, after those that it waits for.
* `Orderly`: what the graph must be for this, by its nodes and edges only.
* **`visitsAll_iff`**: where the edges form a tree, the visit goes right from every order of the starts exactly when
  the graph is orderly.
-/

namespace Oai5g

theorem isAcyclic_of_parent {α : Type*} {G : SimpleGraph α} (parent : α → Option α) (depth : α → ℕ)
    (h : ∀ a b, G.Adj a b → (parent a = some b ∧ depth b < depth a) ∨ (parent b = some a ∧ depth a < depth b)) :
    G.IsAcyclic := by
  classical
  intro v c hc
  -- both neighbours of the deepest node are its parent
  obtain ⟨u, hu, hmax⟩ := c.support.toFinset.exists_max_image depth ⟨v, by simp⟩
  rw [List.mem_toFinset] at hu
  have hcu : (c.rotate u hu).IsCycle := hc.rotate hu
  have hnil : ¬ (c.rotate u hu).Nil := hcu.not_nil
  have hparent : ∀ b ∈ (c.rotate u hu).support, G.Adj u b → parent u = some b := by
    intro b hb hadj
    rcases h u b hadj with ⟨hp, -⟩ | ⟨-, hdepth⟩
    · exact hp
    · have hmem := (c.mem_support_rotate_iff u hu).mp hb
      exact absurd (hmax b (List.mem_toFinset.mpr hmem)) (not_le.mpr hdepth)
  have hsnd := hparent _ (List.mem_of_mem_tail (SimpleGraph.Walk.snd_mem_tail_support hnil))
    ((c.rotate u hu).adj_snd hnil)
  have hpenultimate := hparent _ (List.mem_of_mem_dropLast (SimpleGraph.Walk.penultimate_mem_dropLast_support hnil))
    ((c.rotate u hu).adj_penultimate hnil).symm
  exact hcu.snd_ne_penultimate (Option.some.inj (hsnd.symm.trans hpenultimate))

/-- A graph of which some nodes wait for others. -/
structure Postponing (α : Type*) where
  nodes : Finset α
  /-- The nodes at the ends of the edges of a node, in their order. -/
  behind : α → List α
  waitsFor : α → List α

/-- A visit: what is to be handled, and what was visited so far. -/
structure Visit (α : Type*) where
  stack : List α
  visited : List α

namespace Postponing

variable {α : Type*} (g : Postponing α)

/-! ## The tree -/

/-- The edges without their directions. -/
def links : SimpleGraph α := SimpleGraph.fromRel fun a b => b ∈ g.behind a

/-- The edges lead from one node to the other without a third one. -/
def Joined (without a b : α) : Prop := ∃ p : g.links.Walk a b, without ∉ p.support

variable {g} {a b c u : α}

theorem links_adj_of_mem (h : b ∈ g.behind a) (hne : a ≠ b) : g.links.Adj a b := ⟨hne, .inl h⟩

theorem Joined.refl (h : a ≠ u) : g.Joined u a a := ⟨.nil, by simpa using h.symm⟩

theorem Joined.ne (h : g.Joined u a b) : b ≠ u := by
  obtain ⟨p, hp⟩ := h
  rintro rfl
  exact hp p.end_mem_support

theorem Joined.adj (h : g.Joined u a b) (hbc : g.links.Adj b c) (hc : c ≠ u) : g.Joined u a c := by
  obtain ⟨p, hp⟩ := h
  refine ⟨p.concat hbc, ?_⟩
  rw [SimpleGraph.Walk.support_concat, List.mem_append, List.mem_singleton]
  exact fun hu => hu.elim hp fun hu => hc hu.symm

theorem Joined.eq_of_adj [DecidableEq α] (hg : g.links.IsAcyclic) (h : g.Joined u a b) (ha : g.links.Adj a u)
    (hb : g.links.Adj b u) : a = b := by
  by_contra hne
  obtain ⟨p, hp⟩ := h
  have hpath : (SimpleGraph.Walk.cons ha (.cons hb.symm .nil)).IsPath := by
    simp [ha.ne, hb.ne.symm, hne]
  have heq : p.toPath = ⟨_, hpath⟩ := (hg.subsingleton_path a b).elim _ _
  have hmem : u ∈ (p.toPath : g.links.Walk a b).support := by
    rw [heq]
    simp
  exact hp (p.support_toPath_subset_support hmem)

/-! ## The visit -/

variable (g)

/-- A node that can be visited. -/
def Ready (visited : List α) (a : α) : Prop := a ∈ g.nodes ∧ ∀ b ∈ g.waitsFor a, b ∈ visited

/-- A node that can be reached. -/
def Reached (starts : Finset α) (a : α) : Prop :=
  ∃ s ∈ starts, Relation.ReflTransGen (fun a b => b ∈ g.behind a) s a

/-- A node of a set that can be reached by way of nodes of the set, each of which only waits for such nodes. -/
inductive Supplied (starts among : Finset α) : α → Prop
  | start {a : α} : a ∈ among → a ∈ starts → (∀ b ∈ g.waitsFor a, Supplied starts among b) →
    Supplied starts among a
  | behind {a b : α} : a ∈ among → Supplied starts among b → a ∈ g.behind b →
    (∀ c ∈ g.waitsFor a, Supplied starts among c) → Supplied starts among a

variable [DecidableEq α]

instance (visited : List α) (a : α) : Decidable (g.Ready visited a) := inferInstanceAs (Decidable (_ ∧ _))

/-- What a visited node pushes. -/
def pushed (visited : List α) (a : α) : List α := ((g.behind a).filter (· ∉ visited ++ [a])).reverse

/-- One turn. -/
def turn (s : Visit α) : Visit α :=
  match s.stack with
  | [] => s
  | a :: rest =>
    if g.Ready s.visited a then ⟨g.pushed s.visited a ++ rest, s.visited ++ [a]⟩ else ⟨rest, s.visited⟩

/-- The visit after some turns. -/
def visit (stack : List α) (k : ℕ) : Visit α := g.turn^[k] ⟨stack, []⟩

/-- **Every node that can be reached is visited once**, after those that it waits for. -/
structure VisitsAll (starts : Finset α) (stack : List α) : Prop where
  ends : ∃ k, (g.visit stack k).stack = []
  once : ∀ k, (g.visit stack k).visited.Nodup
  all : ∀ k, (g.visit stack k).stack = [] → ∀ a, a ∈ (g.visit stack k).visited ↔ g.Reached starts a
  order : ∀ k before a after, (g.visit stack k).visited = before ++ a :: after → ∀ b ∈ g.waitsFor a, b ∈ before

/-- A node that is waited for leads back. -/
def LeadsBack (starts : Finset α) : Prop := ∀ a, g.Reached starts a → ∀ b ∈ g.waitsFor a, a ∈ g.behind b

/-- **What a visit needs**: what can be reached is supplied; a node that is waited for leads back; what comes before
a start does not lead to it; and only a node that waits for others is at the ends of two edges of one that comes
before it. -/
structure Orderly (starts : Finset α) : Prop where
  supplied : ∀ a, g.Reached starts a → g.Supplied starts g.nodes a
  back : g.LeadsBack starts
  start : ∀ a ∈ starts, ∀ b, g.Supplied starts (g.nodes.erase a) b → a ∉ g.behind b
  parallel : ∀ a b, g.Supplied starts (g.nodes.erase a) b → 1 < (g.behind b).count a →
    g.waitsFor a ≠ [] ∧ b ∉ g.waitsFor a

variable {g} {starts among : Finset α} {above below stack visited : List α} {s : Visit α} {w : α}

/-! ## One turn -/

theorem mem_pushed : b ∈ g.pushed visited a ↔ b ∈ g.behind a ∧ b ∉ visited ∧ b ≠ a := by
  simp [pushed]

/-- **All that a turn does.** -/
theorem turn_cases (g : Postponing α) (s : Visit α) :
    (s.stack = [] ∧ g.turn s = s) ∨ ∃ a rest, s.stack = a :: rest ∧
      (¬ g.Ready s.visited a ∧ g.turn s = ⟨rest, s.visited⟩ ∨
        g.Ready s.visited a ∧ g.turn s = ⟨g.pushed s.visited a ++ rest, s.visited ++ [a]⟩) := by
  unfold turn
  cases hstack : s.stack with
  | nil => exact .inl ⟨rfl, rfl⟩
  | cons a rest =>
    refine .inr ⟨a, rest, rfl, ?_⟩
    dsimp only
    by_cases hready : g.Ready s.visited a
    · rw [if_pos hready]
      exact .inr ⟨hready, rfl⟩
    · rw [if_neg hready]
      exact .inl ⟨hready, rfl⟩

theorem visit_succ (stack : List α) (k : ℕ) : g.visit stack (k + 1) = g.turn (g.visit stack k) :=
  Function.iterate_succ_apply' ..

/-- **The invariant of a visit.** -/
structure Inv (g : Postponing α) (starts : Finset α) (s : Visit α) : Prop where
  nodes : ∀ a ∈ s.visited, a ∈ g.nodes
  pushed : ∀ a ∈ s.stack, a ∈ starts ∨ ∃ b ∈ s.visited, a ∈ g.behind b
  reached : ∀ a ∈ s.visited, g.Reached starts a
  supplied : ∀ among : Finset α, (∀ a ∈ s.visited, a ∈ among) → ∀ a ∈ s.visited, g.Supplied starts among a
  order : ∀ before a after, s.visited = before ++ a :: after → ∀ b ∈ g.waitsFor a, b ∈ before

omit [DecidableEq α] in
theorem inv_start (h : ∀ a ∈ stack, a ∈ starts) : g.Inv starts ⟨stack, []⟩ where
  nodes a ha := by cases ha
  pushed a ha := .inl (h a ha)
  reached a ha := by cases ha
  supplied among _ a ha := by cases ha
  order before a after heq := by cases before <;> cases heq

omit [DecidableEq α] in
theorem Inv.reached_of_known (h : g.Inv starts s) (ha : a ∈ starts ∨ ∃ b ∈ s.visited, a ∈ g.behind b) :
    g.Reached starts a := by
  rcases ha with hstart | ⟨b, hb, hab⟩
  · exact ⟨a, hstart, .refl⟩
  · obtain ⟨s, hs, hpath⟩ := h.reached b hb
    exact ⟨s, hs, hpath.tail hab⟩

omit [DecidableEq α] in
/-- **What is visited next is supplied** by what was visited before. -/
theorem Inv.supplied_of_ready (h : g.Inv starts s) (hstack : a ∈ s.stack) (hready : g.Ready s.visited a)
    (hamong : ∀ b ∈ s.visited, b ∈ among) (ha : a ∈ among) : g.Supplied starts among a := by
  have hwaits : ∀ b ∈ g.waitsFor a, g.Supplied starts among b := fun b hb =>
    h.supplied among hamong b (hready.2 b hb)
  rcases h.pushed a hstack with hstart | ⟨b, hb, hab⟩
  · exact .start ha hstart hwaits
  · exact .behind ha (h.supplied among hamong b hb) hab hwaits

theorem Inv.turn (h : g.Inv starts s) : g.Inv starts (g.turn s) := by
  rcases turn_cases g s with ⟨-, heq⟩ | ⟨a, rest, hstack, ⟨-, heq⟩ | ⟨hready, heq⟩⟩
  · rwa [heq]
  · rw [heq]
    refine { h with pushed := fun b hb => h.pushed b ?_ }
    rw [hstack]
    exact List.mem_cons_of_mem _ hb
  · rw [heq]
    have hmem : a ∈ s.stack := hstack ▸ List.mem_cons_self
    refine ⟨fun b hb => ?_, fun b hb => ?_, fun b hb => ?_, fun among hamong b hb => ?_,
      fun before b after hsplit c hc => ?_⟩
    · rcases List.mem_append.mp hb with hb | hb
      · exact h.nodes b hb
      · exact List.mem_singleton.mp hb ▸ hready.1
    · rcases List.mem_append.mp hb with hb | hb
      · exact .inr ⟨a, List.mem_append_right _ (List.mem_singleton_self a), (mem_pushed.mp hb).1⟩
      · refine (h.pushed b ?_).imp_right fun ⟨c, hc, hbc⟩ => ⟨c, List.mem_append_left _ hc, hbc⟩
        rw [hstack]
        exact List.mem_cons_of_mem _ hb
    · rcases List.mem_append.mp hb with hb | hb
      · exact h.reached b hb
      · exact List.mem_singleton.mp hb ▸ h.reached_of_known (h.pushed a hmem)
    · have hbefore : ∀ c ∈ s.visited, c ∈ among := fun c hc => hamong c (List.mem_append_left _ hc)
      rcases List.mem_append.mp hb with hb | hb
      · exact h.supplied among hbefore b hb
      · rw [List.mem_singleton.mp hb]
        exact h.supplied_of_ready hmem hready hbefore
          (hamong a (List.mem_append_right _ (List.mem_singleton_self a)))
    · rcases List.eq_nil_or_concat after with rfl | ⟨after, last, rfl⟩
      · obtain ⟨rfl, hlast⟩ := List.append_inj' hsplit rfl
        cases hlast
        exact hready.2 c hc
      · have hassoc : before ++ b :: (after.concat last) = (before ++ b :: after) ++ [last] := by simp
        rw [hassoc] at hsplit
        exact h.order before b after (List.append_inj' hsplit rfl).1 c hc

theorem inv_visit (h : ∀ a ∈ stack, a ∈ starts) (k : ℕ) : g.Inv starts (g.visit stack k) := by
  induction k with
  | zero => exact inv_start h
  | succ k ih =>
    rw [visit_succ]
    exact ih.turn

/-! ## What is known -/

/-- **What is known** (starts, and nodes behind visited ones) is visited, above on the stack, or waits. -/
def Known (g : Postponing α) (among start : α → Prop) (above visited : List α) : Prop :=
  ∀ a, among a → (start a ∨ ∃ b ∈ visited, a ∈ g.behind b) →
    a ∈ visited ∨ a ∈ above ∨ ∃ b ∈ g.waitsFor a, b ∉ visited

variable {p start : α → Prop}

omit [DecidableEq α] in
theorem Known.drop (h : g.Known p start (a :: above) visited) (hp : ∀ b, p b → b ∈ g.nodes)
    (ha : ¬ g.Ready visited a) : g.Known p start above visited := by
  intro b hb hknown
  rcases h b hb hknown with hv | hst | hwait
  · exact .inl hv
  · rcases List.mem_cons.mp hst with rfl | hst
    · refine .inr (.inr ?_)
      by_contra hno
      push Not at hno
      exact ha ⟨hp b hb, hno⟩
    · exact .inr (.inl hst)
  · exact .inr (.inr hwait)

theorem Known.visit (h : g.Known p start (a :: above) visited)
    (hback : ∀ b, (start b ∨ ∃ c ∈ visited, b ∈ g.behind c) → a ∈ g.waitsFor b → b ∈ g.behind a) :
    g.Known p start (g.pushed visited a ++ above) (visited ++ [a]) := by
  intro b hb hknown
  by_cases hvisited : b ∈ visited ++ [a]
  · exact .inl hvisited
  have hnot : b ∉ visited ∧ b ≠ a := by simpa using hvisited
  have hpushed : b ∈ g.behind a → b ∈ g.pushed visited a ++ above := fun hab =>
    List.mem_append_left _ (mem_pushed.mpr ⟨hab, hnot⟩)
  have hold : (start b ∨ ∃ c ∈ visited, b ∈ g.behind c) ∨ b ∈ g.behind a := by
    rcases hknown with hstart | ⟨c, hc, hbc⟩
    · exact .inl (.inl hstart)
    · rcases List.mem_append.mp hc with hc | hc
      · exact .inl (.inr ⟨c, hc, hbc⟩)
      · exact .inr (List.mem_singleton.mp hc ▸ hbc)
  rcases hold with hold | hab
  · rcases h b hb hold with hv | hst | ⟨c, hc, hcv⟩
    · exact absurd hv hnot.1
    · exact .inr (.inl (List.mem_append_right _ ((List.mem_cons.mp hst).resolve_left hnot.2)))
    · by_cases hca : c = a
      · -- what it waited for is there: it comes again
        exact .inr (.inl (hpushed (hback b hold (hca ▸ hc))))
      · exact .inr (.inr ⟨c, hc, by simpa [hcv] using hca⟩)
  · exact .inr (.inl (hpushed hab))

omit [DecidableEq α] in
theorem Supplied.mem (h : g.Supplied starts among a) : a ∈ among := by
  cases h with
  | start hmem => exact hmem
  | behind hmem => exact hmem

omit [DecidableEq α] in
theorem Supplied.waits (h : g.Supplied starts among a) : ∀ b ∈ g.waitsFor a, g.Supplied starts among b := by
  cases h with
  | start _ _ hwaits => exact hwaits
  | behind _ _ _ hwaits => exact hwaits

omit [DecidableEq α] in
/-- **With nothing above, what is supplied was visited**, within a part of the graph that others come into by no
edge. -/
theorem Known.visited_of_supplied (h : g.Known p start [] visited) (ha : g.Supplied starts among a)
    (inside : α → Prop) (hp : ∀ b ∈ among, inside b → p b) (hstart : ∀ b ∈ starts, b ∈ among → inside b → start b)
    (hinside : ∀ b c, b ∈ among → c ∈ among → inside b → b ∈ g.behind c ∨ c ∈ g.waitsFor b → inside c)
    (hin : inside a) : a ∈ visited := by
  have hdone : ∀ b ∈ among, inside b → (start b ∨ ∃ c ∈ visited, b ∈ g.behind c) →
      (∀ c ∈ g.waitsFor b, c ∈ visited) → b ∈ visited := by
    intro b hb hb' hknown hall
    rcases h b (hp b hb hb') hknown with hv | hst | ⟨c, hc, hcv⟩
    · exact hv
    · cases hst
    · exact absurd (hall c hc) hcv
  induction ha with
  | start hb hst hwait ih =>
    exact hdone _ hb hin (.inl (hstart _ hst hb hin)) fun c hc =>
      ih c hc (hinside _ c hb (hwait c hc).mem hin (.inr hc))
  | behind hb hpred hbc hwait ihpred ih =>
    exact hdone _ hb hin (.inr ⟨_, ihpred (hinside _ _ hb hpred.mem hin (.inl hbc)), hbc⟩) fun c hc =>
      ih c hc (hinside _ c hb (hwait c hc).mem hin (.inr hc))

/-! ## Runs -/

/-- **A run that ends comes down to every part of its stack**, and an invariant of what is above comes down with it. -/
theorem exists_stack_eq {J : List α → Visit α → Prop}
    (hstep : ∀ a above s, s.stack = a :: above ++ below → J (a :: above) s →
      ∃ above', (g.turn s).stack = above' ++ below ∧ J above' (g.turn s)) {n : ℕ}
    (hends : (g.turn^[n] s).stack = []) (hs : s.stack = above ++ below) (hJ : J above s) :
    ∃ k, (g.turn^[k] s).stack = below ∧ J [] (g.turn^[k] s) := by
  induction n generalizing s above with
  | zero =>
    have hnil : above ++ below = [] := hs.symm.trans hends
    obtain ⟨rfl, rfl⟩ := List.append_eq_nil_iff.mp hnil
    exact ⟨0, hs, hJ⟩
  | succ n ih =>
    cases above with
    | nil => exact ⟨0, hs, hJ⟩
    | cons a above =>
      obtain ⟨above', hs', hJ'⟩ := hstep a above s hs hJ
      obtain ⟨k, hk, hJk⟩ := ih hends hs' hJ'
      exact ⟨k + 1, hk, hJk⟩

/-- A node that can be visited stands on the stack or among the visited ones twice. -/
def Twice (g : Postponing α) (u : α) (s : Visit α) : Prop :=
  g.Ready s.visited u ∧ 2 ≤ s.stack.count u + s.visited.count u

theorem Twice.turn (h : g.Twice u s) : g.Twice u (g.turn s) := by
  obtain ⟨hready, hcount⟩ := h
  rcases turn_cases g s with ⟨-, heq⟩ | ⟨a, rest, hstack, ⟨hno, heq⟩ | ⟨-, heq⟩⟩
  · rw [heq]
    exact ⟨hready, hcount⟩
  · have hne : a ≠ u := fun hau => hno (hau ▸ hready)
    rw [heq]
    rw [hstack, List.count_cons_of_ne hne] at hcount
    exact ⟨hready, hcount⟩
  · rw [heq]
    refine ⟨⟨hready.1, fun b hb => List.mem_append_left _ (hready.2 b hb)⟩, ?_⟩
    rw [hstack, List.count_cons] at hcount
    simp only [List.count_append, List.count_singleton]
    omega

theorem Twice.visit {k : ℕ} (h : g.Twice u (g.visit stack k)) (m : ℕ) : g.Twice u (g.visit stack (k + m)) := by
  induction m with
  | zero => exact h
  | succ m ih =>
    rw [← Nat.add_assoc, visit_succ]
    exact ih.turn

theorem visit_stack_eq_nil {n : ℕ} (hn : (g.visit stack n).stack = []) (m : ℕ) :
    (g.visit stack (n + m)).stack = [] := by
  induction m with
  | zero => exact hn
  | succ m ih =>
    rw [← Nat.add_assoc, visit_succ]
    rcases turn_cases g (g.visit stack (n + m)) with ⟨-, heq⟩ | ⟨a, rest, hcons, -⟩
    · rwa [heq]
    · rw [ih] at hcons
      cases hcons

/-- **Such a node is visited twice.** -/
theorem Twice.not_visitsAll {k : ℕ} (h : g.Twice u (g.visit stack k)) : ¬ g.VisitsAll starts stack := by
  intro hall
  obtain ⟨n, hn⟩ := hall.ends
  have htwice := (h.visit n).2
  have honce := List.nodup_iff_count_le_one.mp (hall.once (k + n)) u
  rw [Nat.add_comm k n] at htwice honce
  rw [visit_stack_eq_nil hn k, List.count_nil] at htwice
  omega

theorem supplied_erase_of_waits (hu : g.Supplied starts g.nodes u) :
    ∀ b ∈ g.waitsFor u, g.Supplied starts (g.nodes.erase u) b := by
  have hcases : ∀ a, g.Supplied starts g.nodes a → g.Supplied starts (g.nodes.erase u) a ∨
      ∀ b ∈ g.waitsFor u, g.Supplied starts (g.nodes.erase u) b := by
    intro a ha
    by_contra hno
    push Not at hno
    obtain ⟨hnot, b, hb, hbnot⟩ := hno
    have hnever : ¬ ∀ b ∈ g.waitsFor u, g.Supplied starts (g.nodes.erase u) b := fun h => hbnot (h b hb)
    refine hnot ?_
    clear hnot
    induction ha with
    | @start a hmem hst _ ih =>
      have hne : a ≠ u := fun hau => hnever (hau ▸ ih)
      exact .start (Finset.mem_erase.mpr ⟨hne, hmem⟩) hst ih
    | @behind a b hmem _ hab _ ihpred ih =>
      have hne : a ≠ u := fun hau => hnever (hau ▸ ih)
      exact .behind (Finset.mem_erase.mpr ⟨hne, hmem⟩) ihpred hab ih
  rcases hcases u hu with hself | hwaits
  · exact absurd rfl (Finset.mem_erase.mp hself.mem).1
  · exact hwaits

/-- Every order of the starts goes right. -/
def AlwaysVisitsAll (g : Postponing α) (starts : Finset α) : Prop :=
  ∀ stack : List α, stack.Nodup → (∀ a, a ∈ stack ↔ a ∈ starts) → g.VisitsAll starts stack

/-! ## What is needed -/

section Needed

theorem turn_above (hs : s.stack = a :: above ++ below) :
    ¬ g.Ready s.visited a ∧ g.turn s = ⟨above ++ below, s.visited⟩ ∨
      g.Ready s.visited a ∧ g.turn s = ⟨g.pushed s.visited a ++ above ++ below, s.visited ++ [a]⟩ := by
  rcases turn_cases g s with ⟨hnil, -⟩ | ⟨b, rest, hstack, hturn⟩
  · rw [hs] at hnil
    cases hnil
  · rw [hs] at hstack
    cases hstack
    rwa [List.append_assoc]

theorem AlwaysVisitsAll.supplied (h : g.AlwaysVisitsAll starts) (ha : g.Reached starts a) :
    g.Supplied starts g.nodes a := by
  have hall := h starts.toList starts.nodup_toList fun _ => Finset.mem_toList
  obtain ⟨k, hk⟩ := hall.ends
  have hinv : g.Inv starts (g.visit starts.toList k) := inv_visit (fun _ => Finset.mem_toList.mp) k
  exact hinv.supplied g.nodes hinv.nodes a ((hall.all k hk a).mpr ha)

theorem AlwaysVisitsAll.split (h : g.AlwaysVisitsAll starts) {p q : α → Prop} [DecidablePred p] [DecidablePred q]
    (hq : ∀ a, q a ↔ ¬ p a) :
    g.VisitsAll starts ((starts.filter p).toList ++ (starts.filter q).toList) := by
  refine h _ ?_ fun a => ?_
  · refine List.nodup_append.mpr ⟨Finset.nodup_toList _, Finset.nodup_toList _, fun a ha b hb hab => ?_⟩
    rw [Finset.mem_toList, Finset.mem_filter] at ha hb
    exact (hq b).mp hb.2 (hab ▸ ha.2)
  · rw [List.mem_append, Finset.mem_toList, Finset.mem_toList, Finset.mem_filter, Finset.mem_filter, ← and_or_left,
      hq]
    exact and_iff_left (em _)

omit [DecidableEq α] in
theorem joined_of_behind (h : g.Joined u w b) (hba : b ∈ g.behind a) (hne : a ≠ b) (ha : a ≠ u) :
    g.Joined u w a :=
  h.adj (links_adj_of_mem hba hne).symm ha

/-- The branch of a node is untouched, and so is the one before it. -/
structure Untouched (g : Postponing α) (starts : Finset α) (u w : α) (above : List α) (s : Visit α) : Prop where
  inv : g.Inv starts s
  topmost : ∀ a ∈ above, ¬ g.Joined u w a
  visited : ∀ a ∈ s.visited, ¬ g.Joined u w a
  unvisited : u ∉ s.visited
  known : g.LeadsBack starts → g.Known (fun a => a ∈ g.nodes ∧ ¬ g.Joined u w a)
    (fun a => a ∈ starts ∧ ¬ g.Joined u w a) above s.visited

theorem Untouched.turn (h : g.Untouched starts u w (a :: above) s) (hw : w ∈ g.waitsFor u) (hne : w ≠ u)
    (hs : s.stack = a :: above ++ below) :
    ∃ above', (g.turn s).stack = above' ++ below ∧ g.Untouched starts u w above' (g.turn s) := by
  have hna : ¬ g.Joined u w a := h.topmost a List.mem_cons_self
  have habove : ∀ b ∈ above, ¬ g.Joined u w b := fun b hb => h.topmost b (List.mem_cons_of_mem _ hb)
  have hinv := h.inv.turn
  rcases turn_above hs with ⟨hno, heq⟩ | ⟨hready, heq⟩
  · rw [heq] at hinv ⊢
    exact ⟨above, rfl, hinv, habove, h.visited, h.unvisited,
      fun hback => (h.known hback).drop (fun _ hb => hb.1) hno⟩
  · -- the node that waits is not the one that is visited
    have hau : a ≠ u := fun hau => h.visited w (hready.2 w (hau ▸ hw)) (.refl hne)
    rw [heq] at hinv ⊢
    refine ⟨g.pushed s.visited a ++ above, rfl, hinv, fun b hb => ?_, fun b hb => ?_, ?_, fun hback => ?_⟩
    · rcases List.mem_append.mp hb with hb | hb
      · obtain ⟨hab, -, hba⟩ := mem_pushed.mp hb
        exact fun hj => hna (joined_of_behind hj hab hba.symm hau)
      · exact habove b hb
    · rcases List.mem_append.mp hb with hb | hb
      · exact h.visited b hb
      · exact List.mem_singleton.mp hb ▸ hna
    · rw [List.mem_append, List.mem_singleton]
      exact fun hmem => hmem.elim h.unvisited hau.symm
    · exact (h.known hback).visit fun b hb => hback b (h.inv.reached_of_known (hb.imp_left And.left)) a

open Classical in
/-- **The branch of a node that is waited for can be kept to the end.** -/
theorem AlwaysVisitsAll.exists_untouched (h : g.AlwaysVisitsAll starts) (hw : w ∈ g.waitsFor u) (hne : w ≠ u) :
    ∃ stack k, g.VisitsAll starts stack ∧ g.Untouched starts u w [] (g.visit stack k) ∧
      ∀ a ∈ (g.visit stack k).stack, g.Joined u w a := by
  have hall := h.split (p := fun a => ¬ g.Joined u w a) (q := g.Joined u w) fun _ => not_not.symm
  obtain ⟨n, hn⟩ := hall.ends
  have huntouched : g.Untouched starts u w (starts.filter fun a => ¬ g.Joined u w a).toList
      ⟨(starts.filter fun a => ¬ g.Joined u w a).toList ++ (starts.filter (g.Joined u w)).toList, []⟩ := by
    refine ⟨inv_start fun a ha => ?_, fun a ha => ?_, fun a ha => ?_, List.not_mem_nil, fun _ a _ hknown => ?_⟩
    · rcases List.mem_append.mp ha with ha | ha
      · exact (Finset.mem_filter.mp (Finset.mem_toList.mp ha)).1
      · exact (Finset.mem_filter.mp (Finset.mem_toList.mp ha)).1
    · exact (Finset.mem_filter.mp (Finset.mem_toList.mp ha)).2
    · cases ha
    · rcases hknown with hst | ⟨b, hb, -⟩
      · exact .inr (.inl (Finset.mem_toList.mpr (Finset.mem_filter.mpr hst)))
      · cases hb
  obtain ⟨k, hk, hafter⟩ := exists_stack_eq (fun a above s hs hj => hj.turn hw hne hs) hn rfl huntouched
  refine ⟨_, k, hall, hafter, fun a ha => ?_⟩
  have hmem : a ∈ (starts.filter (g.Joined u w)).toList := hk ▸ ha
  exact (Finset.mem_filter.mp (Finset.mem_toList.mp hmem)).2

variable (hg : g.links.IsAcyclic) (hwaits : ∀ a, ∀ b ∈ g.waitsFor a, b ∈ g.behind a)

include hg hwaits

/-- **A node that is waited for leads back**: else the one that waits never comes again, when the other branch is
kept to the end. -/
theorem AlwaysVisitsAll.leadsBack (h : g.AlwaysVisitsAll starts) : g.LeadsBack starts := by
  intro u hu w hw
  by_contra hno
  have hne : w ≠ u := by
    rintro rfl
    exact absurd (hwaits w w hw) hno
  obtain ⟨stack, k, hall, huntouched, hbelow⟩ := h.exists_untouched hw hne
  have hrun : ∀ m, (∀ a ∈ (g.visit stack (k + m)).stack, g.Joined u w a) ∧ u ∉ (g.visit stack (k + m)).visited := by
    intro m
    induction m with
    | zero => exact ⟨hbelow, huntouched.unvisited⟩
    | succ m ih =>
      obtain ⟨hjoined, hunvisited⟩ := ih
      rw [← Nat.add_assoc, visit_succ]
      rcases turn_cases g (g.visit stack (k + m)) with ⟨-, heq⟩ | ⟨a, rest, hs, ⟨-, heq⟩ | ⟨-, heq⟩⟩
      · rw [heq]
        exact ⟨hjoined, hunvisited⟩
      · rw [heq]
        exact ⟨fun b hb => hjoined b (hs ▸ List.mem_cons_of_mem _ hb), hunvisited⟩
      · rw [heq]
        have ha : g.Joined u w a := hjoined a (hs ▸ List.mem_cons_self)
        refine ⟨fun b hb => ?_, fun hmem => ?_⟩
        · rcases List.mem_append.mp hb with hb | hb
          · obtain ⟨hab, -, hba⟩ := mem_pushed.mp hb
            refine ha.adj (links_adj_of_mem hab hba.symm) fun hbu => hno ?_
            rw [hbu] at hab
            rwa [ha.eq_of_adj hg (links_adj_of_mem (hwaits u w hw) hne.symm).symm (links_adj_of_mem hab ha.ne)]
          · exact hjoined b (hs ▸ List.mem_cons_of_mem _ hb)
        · rcases List.mem_append.mp hmem with hmem | hmem
          · exact hunvisited hmem
          · exact ha.ne (List.mem_singleton.mp hmem).symm
  obtain ⟨n, hn⟩ := hall.ends
  have hend : (g.visit stack (k + n)).stack = [] := by
    rw [Nat.add_comm]
    exact visit_stack_eq_nil hn k
  exact (hrun n).2 ((hall.all _ hend u).mpr hu)

omit hwaits

omit hg in
theorem count_pushed (hua : u ≠ a) (hu : u ∉ visited) : (g.pushed visited a).count u = (g.behind a).count u := by
  rw [pushed, List.count_reverse, List.count_filter]
  simpa using ⟨hu, hua⟩

/-- A node at the ends of two edges is pushed twice when the one before it is visited. -/
structure Doubling (g : Postponing α) (u w : α) (above : List α) (s : Visit α) : Prop where
  waits : ∀ b ∈ g.waitsFor u, b = w ∨ b ∈ s.visited
  twice : w ∈ s.visited → g.Twice u s
  topmost : w ∉ s.visited → ∀ a ∈ above, g.Joined u w a
  unvisited : w ∉ s.visited → u ∉ s.visited

omit hg in
theorem Doubling.drop (h : g.Doubling u w (a :: above) s) (heq : g.turn s = ⟨above ++ below, s.visited⟩) :
    g.Doubling u w above (g.turn s) := by
  have hvisited : (g.turn s).visited = s.visited := by rw [heq]
  refine ⟨?_, fun hw => (h.twice (hvisited ▸ hw)).turn, fun hw a ha => ?_, ?_⟩
  · rw [hvisited]
    exact h.waits
  · exact h.topmost (hvisited ▸ hw) a (List.mem_cons_of_mem _ ha)
  · rw [hvisited]
    exact h.unvisited

theorem Doubling.visit (h : g.Doubling u w (a :: above) s) (hu : u ∈ g.nodes) (hne : w ≠ u)
    (hcount : 1 < (g.behind w).count u)
    (heq : g.turn s = ⟨g.pushed s.visited a ++ above ++ below, s.visited ++ [a]⟩) :
    g.Doubling u w (g.pushed s.visited a ++ above) (g.turn s) := by
  have hvisited : ∀ b, b ∈ (g.turn s).visited ↔ b ∈ s.visited ∨ b = a := by
    intro b
    rw [heq, List.mem_append, List.mem_singleton]
  have hedge : u ∈ g.behind w := List.count_pos_iff.mp (Nat.zero_lt_one.trans hcount)
  have hwaits : ∀ b ∈ g.waitsFor u, b = w ∨ b ∈ (g.turn s).visited := fun b hb =>
    (h.waits b hb).imp_right fun hb => (hvisited b).mpr (.inl hb)
  by_cases hw : w ∈ s.visited
  · have hw' : w ∈ (g.turn s).visited := (hvisited w).mpr (.inl hw)
    exact ⟨hwaits, fun _ => (h.twice hw).turn, fun hno => absurd hw' hno, fun hno => absurd hw' hno⟩
  by_cases haw : a = w
  · have hw' : w ∈ (g.turn s).visited := (hvisited w).mpr (.inr haw.symm)
    refine ⟨hwaits, fun _ => ⟨⟨hu, fun b hb => (hwaits b hb).elim (fun hbw => hbw ▸ hw') id⟩, ?_⟩,
      fun hno => absurd hw' hno, fun hno => absurd hw' hno⟩
    rw [heq, haw, List.append_assoc, List.count_append, count_pushed hne.symm (h.unvisited hw)]
    omega
  · have ha : g.Joined u w a := h.topmost hw a List.mem_cons_self
    have hw' : w ∉ (g.turn s).visited := fun hmem => ((hvisited w).mp hmem).elim hw fun hwa => haw hwa.symm
    refine ⟨hwaits, fun hmem => absurd hmem hw', fun _ b hb => ?_, fun _ hmem => ?_⟩
    · rcases List.mem_append.mp hb with hb | hb
      · obtain ⟨hab, -, hba⟩ := mem_pushed.mp hb
        refine ha.adj (links_adj_of_mem hab hba.symm) fun hbu => haw ?_
        rw [hbu] at hab
        exact (ha.eq_of_adj hg (links_adj_of_mem hedge hne) (links_adj_of_mem hab ha.ne)).symm
      · exact h.topmost hw b (List.mem_cons_of_mem _ hb)
    · exact ((hvisited u).mp hmem).elim (h.unvisited hw) ha.ne.symm

include hwaits

/-- **A start has no edge from what comes before it**: else it is pushed above its own entry. -/
theorem AlwaysVisitsAll.notMem_behind (h : g.AlwaysVisitsAll starts) (ha : a ∈ starts)
    (hb : g.Supplied starts (g.nodes.erase a) b) : a ∉ g.behind b := by
  intro hab
  have hback := h.leadsBack hg hwaits
  have hstack : ∀ c, c ∈ (starts.erase a).toList ++ [a] ↔ c ∈ starts := by
    intro c
    rw [List.mem_append, Finset.mem_toList, Finset.mem_erase, List.mem_singleton]
    by_cases hca : c = a
    · simp [hca, ha]
    · simp [hca]
  have hall := h ((starts.erase a).toList ++ [a]) (by
    refine List.nodup_append.mpr ⟨Finset.nodup_toList _, List.nodup_singleton a, fun c hc d hd hcd => ?_⟩
    rw [List.mem_singleton.mp hd] at hcd
    exact (Finset.mem_erase.mp (Finset.mem_toList.mp hc)).1 hcd) hstack
  obtain ⟨n, hn⟩ := hall.ends
  have hknown : g.Known (· ∈ g.nodes) (· ∈ starts.erase a) (starts.erase a).toList [] := by
    intro c _ hc
    rcases hc with hc | ⟨d, hd, -⟩
    · exact .inr (.inl (Finset.mem_toList.mpr hc))
    · cases hd
  obtain ⟨k, hk, hinv, hafter⟩ := exists_stack_eq (g := g) (s := ⟨(starts.erase a).toList ++ [a], []⟩)
    (J := fun above s => g.Inv starts s ∧ g.Known (· ∈ g.nodes) (· ∈ starts.erase a) above s.visited)
    (fun c above t hs hj => by
      obtain ⟨hinv, hj⟩ := hj
      have hinv' := hinv.turn
      rcases turn_above hs with ⟨hno, heq⟩ | ⟨-, heq⟩
      · rw [heq] at hinv' ⊢
        exact ⟨above, rfl, hinv', hj.drop (fun _ hb => hb) hno⟩
      · rw [heq] at hinv' ⊢
        exact ⟨_, rfl, hinv', hj.visit fun d hd => hback d
          (hinv.reached_of_known (hd.imp_left Finset.mem_of_mem_erase)) c⟩)
    hn rfl ⟨inv_start fun c hc => (hstack c).mp hc, hknown⟩
  have hbv : b ∈ (g.visit ((starts.erase a).toList ++ [a]) k).visited :=
    hafter.visited_of_supplied hb (fun _ => True) (fun c hc _ => (Finset.mem_erase.mp hc).2)
      (fun c hc hc' _ => Finset.mem_erase.mpr ⟨(Finset.mem_erase.mp hc').1, hc⟩) (fun _ _ _ _ _ _ => trivial) trivial
  have hreached : g.Reached starts a := ⟨a, ha, .refl⟩
  by_cases hav : a ∈ (g.visit ((starts.erase a).toList ++ [a]) k).visited
  · obtain ⟨before, after, hsplit⟩ := List.append_of_mem hav
    refine Twice.not_visitsAll (k := k) (u := a) ⟨⟨hinv.nodes a hav, fun c hc => ?_⟩, ?_⟩ hall
    · rw [hsplit]
      exact List.mem_append_left _ (hinv.order before a after hsplit c hc)
    · have hstack' : (g.visit ((starts.erase a).toList ++ [a]) k).stack = [a] := hk
      have hpos := List.count_pos_iff.mpr hav
      rw [hstack', List.count_singleton_self]
      omega
  · have hstack' : (g.visit ((starts.erase a).toList ++ [a]) k).stack = [] ++ [a] := hk
    have hmem : a ∈ g.nodes := (h.supplied hreached).mem
    have hnot : ¬ g.Ready (g.visit ((starts.erase a).toList ++ [a]) k).visited a := by
      intro hready
      rcases hafter a hmem (.inr ⟨b, hbv, hab⟩) with hv | hst | ⟨c, hc, hcv⟩
      · exact hav hv
      · cases hst
      · exact hcv (hready.2 c hc)
    have hend : g.visit ((starts.erase a).toList ++ [a]) (k + 1) =
        ⟨[], (g.visit ((starts.erase a).toList ++ [a]) k).visited⟩ := by
      rw [visit_succ]
      rcases turn_cases g (g.visit ((starts.erase a).toList ++ [a]) k) with ⟨hnil, -⟩ | ⟨c, rest, hs, hturn⟩
      · rw [hstack'] at hnil
        cases hnil
      · rw [hstack'] at hs
        cases hs
        rcases hturn with ⟨-, heq⟩ | ⟨hready, -⟩
        · exact heq
        · exact absurd hready hnot
    refine hav ?_
    have hlast := (hall.all (k + 1) (by rw [hend]) a).mpr hreached
    rwa [hend] at hlast

omit hg hwaits [DecidableEq α] in
theorem Supplied.reached (h : g.Supplied starts among a) : g.Reached starts a := by
  induction h with
  | start _ hst => exact ⟨_, hst, .refl⟩
  | behind _ _ hab _ ih =>
    obtain ⟨s, hs, hpath⟩ := ih
    exact ⟨s, hs, hpath.tail hab⟩

omit hg in
theorem joined_of_supplied (hb : b ∈ g.nodes.erase u) (hc : c ∈ g.nodes.erase u)
    (hbc : b ∈ g.behind c ∨ c ∈ g.waitsFor b) : g.Joined u w b ↔ g.Joined u w c := by
  by_cases hne : b = c
  · rw [hne]
  have hadj : g.links.Adj b c := by
    rcases hbc with hbc | hbc
    · exact (links_adj_of_mem hbc (Ne.symm hne)).symm
    · exact links_adj_of_mem (hwaits b c hbc) hne
  exact ⟨fun h => h.adj hadj (Finset.mem_erase.mp hc).1, fun h => h.adj hadj.symm (Finset.mem_erase.mp hb).1⟩

open Classical in
/-- Two edges to a node that waits for none: the branch of the node before it comes first. -/
theorem AlwaysVisitsAll.waitsFor_ne_nil (h : g.AlwaysVisitsAll starts) (hu : u ∈ g.nodes)
    (hw : g.Supplied starts (g.nodes.erase u) w) (hcount : 1 < (g.behind w).count u) : g.waitsFor u ≠ [] := by
  intro hnil
  have hback := h.leadsBack hg hwaits
  have hne : w ≠ u := (Finset.mem_erase.mp hw.mem).1
  have hall := h.split (p := g.Joined u w) (q := fun a => ¬ g.Joined u w a) fun _ => Iff.rfl
  obtain ⟨n, hn⟩ := hall.ends
  generalize htop : (starts.filter (g.Joined u w)).toList = top at hall hn
  have hmem : ∀ a, a ∈ top ↔ a ∈ starts ∧ g.Joined u w a := by
    intro a
    rw [← htop, Finset.mem_toList, Finset.mem_filter]
  have hinv : g.Inv starts ⟨top ++ (starts.filter fun a => ¬ g.Joined u w a).toList, []⟩ := by
    refine inv_start fun a ha => ?_
    rcases List.mem_append.mp ha with ha | ha
    · exact ((hmem a).mp ha).1
    · exact (Finset.mem_filter.mp (Finset.mem_toList.mp ha)).1
  have hknown : g.Known (fun a => a ∈ g.nodes ∧ g.Joined u w a) (fun a => a ∈ starts ∧ g.Joined u w a) top [] := by
    rintro a - (hst | ⟨b, hb, -⟩)
    · exact .inr (.inl ((hmem a).mpr hst))
    · cases hb
  have hdouble : g.Doubling u w top ⟨top ++ (starts.filter fun a => ¬ g.Joined u w a).toList, []⟩ := by
    refine ⟨fun b hb => ?_, fun hw => ?_, fun _ a ha => ((hmem a).mp ha).2, fun _ => List.not_mem_nil⟩
    · rw [hnil] at hb
      cases hb
    · cases hw
  obtain ⟨k, hk, -, hafter, hdone⟩ := exists_stack_eq (g := g)
    (J := fun above s => g.Inv starts s ∧ g.Known (fun a => a ∈ g.nodes ∧ g.Joined u w a)
      (fun a => a ∈ starts ∧ g.Joined u w a) above s.visited ∧ g.Doubling u w above s)
    (fun a above t hs hj => by
      obtain ⟨hinv, hknown, hdouble⟩ := hj
      rcases turn_above hs with ⟨hnot, heq⟩ | ⟨-, heq⟩
      · refine ⟨above, by rw [heq], hinv.turn, ?_, hdouble.drop heq⟩
        rw [heq]
        exact hknown.drop (fun _ hb => hb.1) hnot
      · refine ⟨g.pushed t.visited a ++ above, by rw [heq], hinv.turn, ?_, hdouble.visit hg hu hne hcount heq⟩
        rw [heq]
        exact hknown.visit fun b hb => hback b (hinv.reached_of_known (hb.imp_left And.left)) a)
    hn rfl ⟨hinv, hknown, hdouble⟩
  have hvisited : w ∈ (g.visit (top ++ (starts.filter fun a => ¬ g.Joined u w a).toList) k).visited :=
    hafter.visited_of_supplied hw (g.Joined u w) (fun b hb hj => ⟨(Finset.mem_erase.mp hb).2, hj⟩)
      (fun b hb _ hj => ⟨hb, hj⟩) (fun b c hb hc hj hbc => (joined_of_supplied hwaits hb hc hbc).mp hj) (.refl hne)
  exact Twice.not_visitsAll (hdone.twice hvisited) hall

/-- Two edges to a node that waits for the one before it: the branch of this one comes last. -/
theorem AlwaysVisitsAll.notMem_waitsFor (h : g.AlwaysVisitsAll starts) (hu : g.Supplied starts g.nodes u)
    (hw : g.Supplied starts (g.nodes.erase u) w) (hcount : 1 < (g.behind w).count u) : w ∉ g.waitsFor u := by
  intro hwait
  have hne : w ≠ u := (Finset.mem_erase.mp hw.mem).1
  have hadj : g.links.Adj w u := links_adj_of_mem (List.count_pos_iff.mp (Nat.zero_lt_one.trans hcount)) hne
  obtain ⟨stack, k, hall, huntouched, hbelow⟩ := h.exists_untouched hwait hne
  have hready : ∀ b ∈ g.waitsFor u, b = w ∨ b ∈ (g.visit stack k).visited := by
    intro b hb
    by_cases hbw : b = w
    · exact .inl hbw
    have hbu := supplied_erase_of_waits hu b hb
    have hne' : b ≠ u := (Finset.mem_erase.mp hbu.mem).1
    refine .inr ((huntouched.known (h.leadsBack hg hwaits)).visited_of_supplied hbu
      (fun a => ¬ g.Joined u w a) (fun c hc hj => ⟨(Finset.mem_erase.mp hc).2, hj⟩)
      (fun c hc _ hj => ⟨hc, hj⟩) (fun c d hc hd hj hcd => (joined_of_supplied hwaits hc hd hcd).not.mp hj)
      fun hj => hbw ?_)
    exact (hj.eq_of_adj hg hadj (links_adj_of_mem (hwaits u b hb) hne'.symm).symm).symm
  have hdouble : g.Doubling u w (g.visit stack k).stack (g.visit stack k) :=
    ⟨hready, fun hwv => absurd (.refl hne) (huntouched.visited w hwv), fun _ => hbelow,
      fun _ => huntouched.unvisited⟩
  obtain ⟨n, hn⟩ := hall.ends
  have hend : (g.turn^[n] (g.visit stack k)).stack = [] := by
    have hlast := visit_stack_eq_nil hn k
    unfold visit at hlast ⊢
    rwa [Function.iterate_add_apply] at hlast
  obtain ⟨m, hm, hdone⟩ := exists_stack_eq (fun a above t hs hj => by
    rcases turn_above hs with ⟨-, heq⟩ | ⟨-, heq⟩
    · exact ⟨above, by rw [heq], hj.drop heq⟩
    · exact ⟨g.pushed t.visited a ++ above, by rw [heq], hj.visit hg hu.mem hne hcount heq⟩)
    hend (List.append_nil _).symm hdouble
  have hvisit : g.turn^[m] (g.visit stack k) = g.visit stack (m + k) := by
    unfold visit
    rw [Function.iterate_add_apply]
  rw [hvisit] at hm hdone
  exact (hdone.twice ((hall.all _ hm w).mpr hw.reached)).not_visitsAll hall

/-- **What is needed.** -/
theorem AlwaysVisitsAll.orderly (h : g.AlwaysVisitsAll starts) : g.Orderly starts where
  supplied _ ha := h.supplied ha
  back := h.leadsBack hg hwaits
  start _ ha _ hb := h.notMem_behind hg hwaits ha hb
  parallel u w hw hcount := by
    have hu : g.Supplied starts g.nodes u := by
      obtain ⟨s, hs, hpath⟩ := hw.reached
      exact h.supplied ⟨s, hs, hpath.tail (List.count_pos_iff.mp (Nat.zero_lt_one.trans hcount))⟩
    exact ⟨h.waitsFor_ne_nil hg hwaits hu.mem hw hcount, h.notMem_waitsFor hg hwaits hu hw hcount⟩

end Needed

/-! ## It is enough -/

section Enough

/-- **The invariant of a visit of an orderly tree**: what is on the stack is unvisited; an entry of a start stands
there alone, and what is above another entry is in other branches; what stands there twice waits. -/
structure Fresh (g : Postponing α) (starts : Finset α) (s : Visit α) : Prop where
  inv : g.Inv starts s
  known : g.Known (· ∈ g.nodes) (· ∈ starts) s.stack s.visited
  unvisited : ∀ a ∈ s.stack, a ∉ s.visited
  entered : ∀ above a below, s.stack = above ++ a :: below → (a ∈ starts ∧ ∀ b ∈ s.visited, a ∉ g.behind b) ∨
    ∃ b ∈ s.visited, a ∈ g.behind b ∧ ∀ c ∈ above, c ≠ a → g.Joined a b c
  twice : ∀ a, 2 ≤ s.stack.count a → ∃ b ∈ g.waitsFor a, b ∉ s.visited

variable {rest : List α}

theorem Inv.supplied_erase (h : g.Inv starts s) (hs : a ∈ s.stack) (hready : g.Ready s.visited a)
    (hb : b ∉ s.visited) (hne : a ≠ b) : g.Supplied starts (g.nodes.erase b) a :=
  h.supplied_of_ready hs hready (fun c hc => Finset.mem_erase.mpr ⟨fun hcb => hb (hcb ▸ hc), h.nodes c hc⟩)
    (Finset.mem_erase.mpr ⟨hne, hready.1⟩)

/-- **A visited node pushes nothing that is on the stack already.** -/
theorem Fresh.notMem_rest (h : g.Fresh starts s) (hg : g.links.IsAcyclic) (ho : g.Orderly starts)
    (hs : s.stack = a :: rest) (hready : g.Ready s.visited a) (hba : b ∈ g.behind a) (hne : b ≠ a)
    (hb : b ∉ s.visited) : b ∉ rest := by
  intro hmem
  obtain ⟨above, below, rfl⟩ := List.append_of_mem hmem
  have ha : a ∈ s.stack := hs ▸ List.mem_cons_self
  rcases h.entered (a :: above) b below hs with ⟨hst, -⟩ | ⟨c, hc, hbc, hjoined⟩
  · exact ho.start b hst a (h.inv.supplied_erase ha hready hb hne.symm) hba
  · have hcb : c ≠ b := fun hcb => hb (hcb ▸ hc)
    have hca : c = a := (hjoined a List.mem_cons_self hne.symm).eq_of_adj hg (links_adj_of_mem hbc hcb)
      (links_adj_of_mem hba hne.symm)
    exact h.unvisited a ha (hca ▸ hc)

theorem Fresh.drop (h : g.Fresh starts s) (hs : s.stack = a :: rest) (hno : ¬ g.Ready s.visited a)
    (heq : g.turn s = ⟨rest, s.visited⟩) : g.Fresh starts (g.turn s) := by
  have hinv := h.inv.turn
  have hknown := h.known
  rw [hs] at hknown
  rw [heq] at hinv ⊢
  refine ⟨hinv, hknown.drop (fun _ hb => hb) hno, fun b hb => h.unvisited b (hs ▸ List.mem_cons_of_mem _ hb),
    fun above b below hsplit => ?_, fun b hb => h.twice b ?_⟩
  · refine (h.entered (a :: above) b below (by rw [hs]; exact congrArg (a :: ·) hsplit)).imp_right ?_
    rintro ⟨c, hc, hbc, hjoined⟩
    exact ⟨c, hc, hbc, fun d hd => hjoined d (List.mem_cons_of_mem _ hd)⟩
  · rw [hs]
    exact hb.trans List.count_le_count_cons

theorem Fresh.visit (h : g.Fresh starts s) (hg : g.links.IsAcyclic) (ho : g.Orderly starts)
    (hs : s.stack = a :: rest) (hready : g.Ready s.visited a)
    (heq : g.turn s = ⟨g.pushed s.visited a ++ rest, s.visited ++ [a]⟩) : g.Fresh starts (g.turn s) := by
  have hinv := h.inv.turn
  have hknown := h.known
  rw [hs] at hknown
  have ha : a ∈ s.stack := hs ▸ List.mem_cons_self
  have hmem : ∀ b ∈ rest, b ∈ s.stack := fun b hb => hs ▸ List.mem_cons_of_mem _ hb
  -- the other entries are of other nodes
  have hother : ∀ b ∈ rest, b ≠ a := by
    rintro b hb rfl
    obtain ⟨c, hc, hcv⟩ := h.twice b (by
      rw [hs, List.count_cons_self]
      exact Nat.succ_le_succ (List.count_pos_iff.mpr hb))
    exact hcv (hready.2 c hc)
  have hpushes : ∀ b ∈ rest, b ∉ g.behind a := fun b hb hba =>
    h.notMem_rest hg ho hs hready hba (hother b hb) (h.unvisited b (hmem b hb)) hb
  have hvisited : ∀ b, b ∈ s.visited ++ [a] ↔ b ∈ s.visited ∨ b = a := by simp
  rw [heq] at hinv ⊢
  refine ⟨hinv, hknown.visit fun b hb => ho.back b (h.inv.reached_of_known hb) a, fun b hb => ?_,
    fun above b below hsplit => ?_, fun b hb => ?_⟩
  · rw [hvisited]
    rcases List.mem_append.mp hb with hb | hb
    · exact not_or.mpr (mem_pushed.mp hb).2
    · exact not_or.mpr ⟨h.unvisited b (hmem b hb), hother b hb⟩
  · -- an entry that was there before
    have hold : ∀ old, rest = old ++ b :: below → above = g.pushed s.visited a ++ old →
        (b ∈ starts ∧ ∀ c ∈ s.visited ++ [a], b ∉ g.behind c) ∨ ∃ c ∈ s.visited ++ [a], b ∈ g.behind c ∧
          ∀ d ∈ above, d ≠ b → g.Joined b c d := by
      rintro old rfl rfl
      have hb : b ∈ old ++ b :: below := List.mem_append_right _ List.mem_cons_self
      rcases h.entered (a :: old) b below hs with ⟨hst, hno⟩ | ⟨c, hc, hbc, hjoined⟩
      · refine .inl ⟨hst, fun c hc => ((hvisited c).mp hc).elim (hno c) ?_⟩
        rintro rfl
        exact hpushes b hb
      · refine .inr ⟨c, (hvisited c).mpr (.inl hc), hbc, fun d hd hne => ?_⟩
        rcases List.mem_append.mp hd with hd | hd
        · obtain ⟨had, -, hda⟩ := mem_pushed.mp hd
          exact (hjoined a List.mem_cons_self (hother b hb).symm).adj (links_adj_of_mem had hda.symm) hne
        · exact hjoined d (List.mem_cons_of_mem _ hd) hne
    rcases List.append_eq_append_iff.mp hsplit with ⟨old, habove, hrest⟩ | ⟨old, hpushed, hrest⟩
    · exact hold old hrest habove
    · cases old with
      | nil => exact hold [] hrest.symm (by rw [hpushed, List.append_nil, List.append_nil])
      | cons d old =>
        cases hrest
        have hpush : ∀ c ∈ above ++ b :: old, c ∈ g.behind a ∧ c ≠ a := fun c hc =>
          (mem_pushed.mp (hpushed ▸ hc)).imp_right And.right
        obtain ⟨hba, hne⟩ := hpush b (List.mem_append_right _ List.mem_cons_self)
        refine .inr ⟨a, (hvisited a).mpr (.inr rfl), hba, fun c hc hcb => ?_⟩
        obtain ⟨hca, hca'⟩ := hpush c (List.mem_append_left _ hc)
        exact (Joined.refl hne.symm).adj (links_adj_of_mem hca hca'.symm) hcb
  · rw [List.count_append] at hb
    by_cases hrest : b ∈ rest
    · have hnone : (g.pushed s.visited a).count b = 0 :=
        List.count_eq_zero_of_not_mem fun hp => hpushes b hrest (mem_pushed.mp hp).1
      obtain ⟨c, hc, hcv⟩ := h.twice b (by
        rw [hs]
        exact (by omega : 2 ≤ rest.count b).trans List.count_le_count_cons)
      refine ⟨c, hc, fun hmem' => ((hvisited c).mp hmem').elim hcv ?_⟩
      rintro rfl
      exact hpushes b hrest (ho.back b (h.inv.reached_of_known (h.inv.pushed b (hmem b hrest))) c hc)
    · have hcount : 2 ≤ (g.pushed s.visited a).count b := by
        rwa [List.count_eq_zero_of_not_mem hrest, Nat.add_zero] at hb
      obtain ⟨hba, hbv, hne⟩ := mem_pushed.mp (List.count_pos_iff.mp (Nat.zero_lt_two.trans_le hcount))
      rw [count_pushed hne hbv] at hcount
      obtain ⟨hnil, hawait⟩ := ho.parallel b a (h.inv.supplied_erase ha hready hbv hne.symm) hcount
      have hreached : g.Reached starts b :=
        hinv.reached_of_known (.inr ⟨a, List.mem_append_right _ (List.mem_singleton_self a), hba⟩)
      by_contra hall
      push Not at hall
      have hwaits : ∀ c ∈ g.waitsFor b, c ∈ s.visited := fun c hc =>
        ((hvisited c).mp (hall c hc)).resolve_right fun hca => hawait (hca ▸ hc)
      -- what it waited for has pushed it
      obtain ⟨c, hc⟩ := List.exists_mem_of_ne_nil _ hnil
      rcases h.known b (ho.supplied b hreached).mem (.inr ⟨c, hwaits c hc, ho.back b hreached c hc⟩) with
        hv | hst | ⟨d, hd, hdv⟩
      · exact hbv hv
      · rw [hs] at hst
        exact (List.mem_cons.mp hst).elim hne hrest
      · exact hdv (hwaits d hd)

theorem fresh_start (hnodup : stack.Nodup) (hstack : ∀ a, a ∈ stack ↔ a ∈ starts) : g.Fresh starts ⟨stack, []⟩ where
  inv := inv_start fun a ha => (hstack a).mp ha
  known a _ ha := by
    rcases ha with ha | ⟨b, hb, -⟩
    · exact .inr (.inl ((hstack a).mpr ha))
    · cases hb
  unvisited a _ := List.not_mem_nil
  entered above a below hsplit := by
    have heq : stack = above ++ a :: below := hsplit
    refine .inl ⟨(hstack a).mp ?_, fun b hb => by cases hb⟩
    rw [heq]
    exact List.mem_append_right _ List.mem_cons_self
  twice a ha := absurd (ha.trans (List.nodup_iff_count_le_one.mp hnodup a)) (by omega)

theorem fresh_visit (hg : g.links.IsAcyclic) (ho : g.Orderly starts) (hnodup : stack.Nodup)
    (hstack : ∀ a, a ∈ stack ↔ a ∈ starts) (k : ℕ) : g.Fresh starts (g.visit stack k) := by
  induction k with
  | zero => exact fresh_start hnodup hstack
  | succ k ih =>
    rw [visit_succ]
    rcases turn_cases g (g.visit stack k) with ⟨-, heq⟩ | ⟨a, rest, hs, ⟨hno, heq⟩ | ⟨hready, heq⟩⟩
    · rwa [heq]
    · exact ih.drop hs hno heq
    · exact ih.visit hg ho hs hready heq

/-- A visit with no visited node on its stack ends: a turn makes the stack smaller or visits a new node. -/
theorem exists_stack_nil (h : ∀ k, ∀ a ∈ (g.turn^[k] s).stack, a ∉ (g.turn^[k] s).visited) :
    ∃ k, (g.turn^[k] s).stack = [] := by
  induction hn : (g.nodes \ s.visited.toFinset).card using Nat.strong_induction_on generalizing s with
  | _ n ihn =>
    induction hm : s.stack.length generalizing s with
    | zero => exact ⟨0, List.length_eq_zero_iff.mp hm⟩
    | succ m ihm =>
      have hnext : ∀ k, ∀ a ∈ (g.turn^[k] (g.turn s)).stack, a ∉ (g.turn^[k] (g.turn s)).visited := fun k => h (k + 1)
      suffices hends : ∃ k, (g.turn^[k] (g.turn s)).stack = [] by
        obtain ⟨k, hk⟩ := hends
        exact ⟨k + 1, hk⟩
      rcases turn_cases g s with ⟨hnil, -⟩ | ⟨a, rest, hs, ⟨-, heq⟩ | ⟨hready, heq⟩⟩
      · rw [hnil] at hm
        cases hm
      · refine ihm hnext ?_ ?_
        · rw [heq]
          exact hn
        · rw [heq]
          rw [hs, List.length_cons] at hm
          exact Nat.succ.inj hm
      · refine ihn _ ?_ hnext rfl
        rw [← hn, heq]
        have hnot : a ∉ s.visited := h 0 a (hs ▸ List.mem_cons_self)
        refine Finset.card_lt_card ((Finset.ssubset_iff_of_subset fun b hb => ?_).mpr ⟨a, ?_, ?_⟩)
        · simp only [List.toFinset_append, Finset.mem_sdiff, Finset.mem_union, not_or, List.mem_toFinset] at hb ⊢
          exact ⟨hb.1, hb.2.1⟩
        · simpa using ⟨hready.1, hnot⟩
        · simp

/-- **An orderly tree is visited from every order of its starts.** -/
theorem Orderly.alwaysVisitsAll (ho : g.Orderly starts) (hg : g.links.IsAcyclic) : g.AlwaysVisitsAll starts := by
  intro stack hnodup hstack
  have hfresh := fresh_visit hg ho hnodup hstack
  refine ⟨exists_stack_nil fun k => (hfresh k).unvisited, fun k => ?_, fun k hk a => ?_, fun k => (hfresh k).inv.order⟩
  · induction k with
    | zero => exact List.nodup_nil
    | succ k ih =>
      rw [visit_succ]
      rcases turn_cases g (g.visit stack k) with ⟨-, heq⟩ | ⟨a, rest, hs, ⟨-, heq⟩ | ⟨-, heq⟩⟩
      · rwa [heq]
      · rwa [heq]
      · rw [heq]
        refine List.nodup_append.mpr ⟨ih, List.nodup_singleton a, fun b hb c hc hbc => ?_⟩
        rw [List.mem_singleton.mp hc] at hbc
        exact (hfresh k).unvisited a (hs ▸ List.mem_cons_self) (hbc ▸ hb)
  · have hknown := (hfresh k).known
    rw [hk] at hknown
    exact ⟨(hfresh k).inv.reached a, fun ha => hknown.visited_of_supplied (ho.supplied a ha)
      (fun _ => True) (fun _ hb _ => hb) (fun _ hb _ _ => hb) (fun _ _ _ _ _ _ => trivial) trivial⟩

end Enough

/-- **The visit of a tree goes right from every order of the starts exactly when the graph is orderly.** -/
theorem visitsAll_iff (hg : g.links.IsAcyclic) (hwaits : ∀ a, ∀ b ∈ g.waitsFor a, b ∈ g.behind a) :
    g.AlwaysVisitsAll starts ↔ g.Orderly starts :=
  ⟨fun h => h.orderly hg hwaits, fun h => h.alwaysVisitsAll hg⟩

end Postponing

end Oai5g
