import Oai5g.Upf.Applied
import Oai5g.Upf.Reports
import Oai5g.Upf.Undisturbed

/-!
# Modification Requests

A Modification Request that is accepted should apply all its rules, and one that is not should change
none.

* `AllOrNothing`: an accepted request has the effects of all its operations, and another one none.
* `Complete`, `RefusedFirst`: every rule can be applied; the first group of rules is refused before it
  changes anything.
* `removeRules_spec`, `createFars_spec'`, `createPdrs_spec'`, `updateRules_spec`: what each loop does.
* **`allOrNothing_iff`**; `pointersMade_run`: its hypothesis holds in every state that requests lead to.
-/

namespace Oai5g.Upf

open PfcpSwitch

/-! ## The property -/

/-- The rules of a session and the lookup tables are the same. -/
structure SameRules (r : ℕ) (s s' : PfcpSwitch) : Prop where
  pdrs : (s'.session r).pdrs = (s.session r).pdrs
  fars : (s'.session r).fars = (s.session r).fars
  pdr : ∀ p ∈ (s.session r).pdrs, s'.pdr p = s.pdr p
  far : ∀ p ∈ (s.session r).fars, s'.far p = s.far p
  pdrTable : s'.pdrTable = s.pdrTable

/-- **A Modification Request of session `r` is all or nothing.** -/
def AllOrNothing (cfg : UpfCfg) (r : ℕ) (req : ModificationRequest) (s : PfcpSwitch) : Prop :=
  let x := s.handlePfcpSessionModificationRequest cfg req
  (x.2.cause = .requestAccepted → AppliesEach cfg r req.operations (s.takeFseid r req.cpFseid) x.1) ∧
    (x.2.cause ≠ .requestAccepted → SameRules r s x.1)

/-! ## The condition -/

section

variable {ρ α υ : Type} [DecidableEq α] (kind : RuleKind ρ α) (r : ℕ) (s : PfcpSwitch)

/-- The ids of the rules of a session. -/
def ruleIds : List α := (kind.list (s.session r)).map fun p => kind.ident (kind.cell s p)

/-- The rules with these ids can be removed one after the other. -/
def Removable : List (Option α) → List α → Prop
  | [], _ => True
  | none :: _, _ => False
  | some i :: l, ids => i ∈ ids ∧ Removable l (ids.erase i)

/-- The first id that is there is one of no rule. -/
def NothingRemoved (l : List (Option α)) (ids : List α) : Prop :=
  ∀ i, l.reduceOption.head? = some i → i ∉ ids

/-- What the changes of a list make of the rule behind `p`. -/
def netRule (id : υ → α) (apply : ρ → υ → ρ) (l : List υ) (p : ℕ) : ρ :=
  (l.filter fun u => s.getRule kind r (id u) = some p).foldl apply (kind.cell s p)

end

/-- **Every rule of the request can be applied**: the removed and the changed ones are there, the created
ones pass their checks. -/
structure Complete (r : ℕ) (req : ModificationRequest) (s : PfcpSwitch) : Prop where
  removePdrs : Removable req.removePdrs (ruleIds pdrKind r s)
  removeFars : Removable req.removeFars (ruleIds farKind r s)
  createFars : ∀ c ∈ req.createFars, checkCreateFar c = .ok ()
  createPdrs : ∀ c ∈ req.createPdrs,
    checkFarId req.createFars c = .ok () ∧ ∃ x, checkCreatePdr c = .ok x
  updatePdrs : ∀ u ∈ req.updatePdrs, u.pdrId ∈ (ruleIds pdrKind r s).diff req.removePdrs.reduceOption ++
    req.createPdrs.map fun c => c.pdrId.getD 0
  updateFars : ∀ u ∈ req.updateFars, u.farId ∈ (ruleIds farKind r s).diff req.removeFars.reduceOption ++
    req.createFars.map fun c => c.farId.getD 0

/-- **The first group of rules is refused before it changes anything**; changes that undo each other are
none. -/
def RefusedFirst (r : ℕ) (req : ModificationRequest) (s : PfcpSwitch) : Prop :=
  match req.removePdrs, req.removeFars, req.createFars, req.createPdrs with
  | _ :: _, _, _, _ => NothingRemoved req.removePdrs (ruleIds pdrKind r s)
  | [], _ :: _, _, _ => NothingRemoved req.removeFars (ruleIds farKind r s)
  | [], [], c :: _, _ => checkCreateFar c ≠ .ok ()
  | [], [], [], _ :: _ => True
  | [], [], [], [] =>
    (∃ u ∈ req.updateFars, u.farId ∉ ruleIds farKind r s) ∧
      (∀ p ∈ (s.session r).pdrs,
        netRule pdrKind r s UpdatePdr.pdrId PfcpPdr.update req.updatePdrs p = s.pdr p) ∧
      ∀ p ∈ (s.session r).fars,
        netRule farKind r s UpdateFar.farId PfcpFar.update req.updateFars p = s.far p

/-! ## Removing -/

section

variable {ρ α : Type} (kind : RuleKind ρ α) (r : ℕ) (l l' : List ℕ) (s : PfcpSwitch)

/-- The session has another list of rules. -/
def withList : PfcpSwitch := s.modifySession r fun session => kind.setList session l

theorem withList_withList : withList kind r l' (withList kind r l s) = withList kind r l' s := by
  have : ∀ f g, (s.modifySession r f).modifySession r g = s.modifySession r fun session => g (f session) := by
    intro f g
    simp [modifySession, Heap.modify]
  unfold withList
  rw [this]
  simp only [kind.setList_setList]

theorem withList_self : withList kind r (kind.list (s.session r)) s = s := by
  have : s.sessions.modify r (fun session => kind.setList session (kind.list (s.session r))) =
      s.sessions := Heap.modify_id_of_eq _ _ _ (kind.setList_list _)
  unfold withList modifySession
  rw [this]

@[simp] theorem session_withList :
    (withList kind r l s).session r = kind.setList (s.session r) l := modifySession_session_self ..

@[simp] theorem list_withList : kind.list ((withList kind r l s).session r) = l := by
  rw [session_withList, kind.list_setList]

@[simp] theorem cell_withList (p : ℕ) : kind.cell (withList kind r l s) p = kind.cell s p :=
  kind.cell_modifySession ..

theorem ruleIds_withList :
    ruleIds kind r (withList kind r l s) = l.map fun p => kind.ident (kind.cell s p) := by
  simp [ruleIds, kind.list_setList]

end

section

variable {ρ α : Type} [DecidableEq α] (kind : RuleKind ρ α) (r : ℕ) (s : PfcpSwitch)

theorem getRule_isSome {i : α} : (s.getRule kind r i).isSome ↔ i ∈ ruleIds kind r s := by
  unfold getRule ruleIds
  rw [List.find?_isSome, List.mem_map]
  simp

/-- The list without its first rule with the id. -/
def eraseRule (i : α) : List ℕ :=
  (kind.list (s.session r)).eraseP fun p => kind.ident (kind.cell s p) == i

theorem removeRule_mem {i : α} (h : i ∈ ruleIds kind r s) :
    s.removeRule kind r (some i) = .ok (withList kind r (eraseRule kind r s i) s) := by
  obtain ⟨p, hp⟩ := Option.isSome_iff_exists.mp ((getRule_isSome kind r s).mpr h)
  unfold removeRule
  dsimp only
  rw [hp]
  exact congrArg _ (modifySession_congr r s rfl)

theorem removeRule_not_mem {i : α} (h : i ∉ ruleIds kind r s) :
    s.removeRule kind r (some i) = .error .noRule := by
  have : s.getRule kind r i = none := by
    rw [← Option.not_isSome_iff_eq_none, getRule_isSome]
    exact h
  unfold removeRule
  dsimp only
  rw [this]

theorem ruleIds_eraseRule (i : α) :
    ruleIds kind r (withList kind r (eraseRule kind r s i) s) = (ruleIds kind r s).erase i := by
  rw [ruleIds_withList, eraseRule, ruleIds, List.erase_eq_eraseP, List.eraseP_map]
  congr 2
  funext p
  simp [eq_comm]

theorem length_eraseRule {i : α} (h : i ∈ ruleIds kind r s) :
    (eraseRule kind r s i).length + 1 = (kind.list (s.session r)).length := by
  have h₁ := congrArg List.length (ruleIds_eraseRule kind r s i)
  have h₂ := List.length_pos_of_mem h
  rw [ruleIds_withList, List.length_map, List.length_erase_of_mem h] at h₁
  have h₃ : (ruleIds kind r s).length = (kind.list (s.session r)).length := List.length_map ..
  omega

end

section

variable {ρ α : Type} [DecidableEq α] [Inhabited α] (kind : RuleKind ρ α) {r : ℕ}

/-- **The loop that removes rules**, whatever the response: the list gets shorter unless nothing is
removed. -/
theorem removeRules_list (l : List (Option α)) (s : PfcpSwitch) (a : PfcpResponse) :
    ∃ list, (removeRules kind r l (s, a)).1 = withList kind r list s ∧
      list.Sublist (kind.list (s.session r)) ∧
      (list = kind.list (s.session r) ↔ NothingRemoved l (ruleIds kind r s)) := by
  induction l generalizing s a with
  | nil => exact ⟨_, (withList_self kind r s).symm, .refl _, iff_of_true rfl fun i h => nomatch h⟩
  | cons id l ih =>
    unfold removeRules
    cases id with
    | none =>
      obtain ⟨list, h₁, h₂, h₃⟩ := ih s (a.refuse (.missing kind.ie))
      exact ⟨list, h₁, h₂, h₃⟩
    | some i =>
      by_cases hi : i ∈ ruleIds kind r s
      · rw [removeRule_mem kind r s hi]
        obtain ⟨list, h₁, h₂, -⟩ := ih (withList kind r (eraseRule kind r s i) s) a
        rw [list_withList] at h₂
        rw [withList_withList] at h₁
        refine ⟨list, h₁, h₂.trans (List.eraseP_sublist ..), iff_of_false (fun h => ?_) fun h => ?_⟩
        · have := length_eraseRule kind r s hi
          have := h₂.length_le
          rw [h] at this
          omega
        · exact h i rfl hi
      · rw [removeRule_not_mem kind r s hi]
        refine ⟨_, (withList_self kind r s).symm, .refl _, iff_of_true rfl fun j hj => ?_⟩
        obtain rfl : i = j := Option.some.inj hj
        exact hi

theorem removeRules_refused (l : List (Option α)) (s : PfcpSwitch) {a : PfcpResponse}
    (ha : a.cause ≠ .requestAccepted) :
    (removeRules kind r l (s, a)).2.cause ≠ .requestAccepted := by
  induction l generalizing s a with
  | nil => exact ha
  | cons id l ih =>
    unfold removeRules
    cases id with
    | none => exact ih s (a := a.refuse (.missing kind.ie)) fun h => by cases h
    | some i =>
      by_cases hi : i ∈ ruleIds kind r s
      · rw [removeRule_mem kind r s hi]
        exact ih _ ha
      · rw [removeRule_not_mem kind r s hi]
        exact fun h => by cases h

/-- **The loop that removes rules, from an accepted response.** -/
theorem removeRules_spec (l : List (Option α)) (s : PfcpSwitch) {a : PfcpResponse}
    (ha : a.cause = .requestAccepted) :
    (Removable l (ruleIds kind r s) → ∃ list,
      removeRules kind r l (s, a) = (withList kind r list s, a) ∧
      applyEach (fun s id => (s.removeRule kind r id).toOption) l s = some (withList kind r list s) ∧
      list.Sublist (kind.list (s.session r)) ∧
      list.length + l.length = (kind.list (s.session r)).length ∧
      ruleIds kind r (withList kind r list s) = (ruleIds kind r s).diff l.reduceOption) ∧
    (¬ Removable l (ruleIds kind r s) →
      (removeRules kind r l (s, a)).2.cause ≠ .requestAccepted) := by
  induction l generalizing s a with
  | nil =>
    refine ⟨fun _ => ⟨kind.list (s.session r), ?_, ?_, .refl _, rfl, ?_⟩, fun h => (h trivial).elim⟩
    · rw [withList_self]
      rfl
    · rw [withList_self]
      rfl
    · rw [withList_self]
      rfl
  | cons id l ih =>
    unfold removeRules applyEach
    cases id with
    | none =>
      exact ⟨fun h => h.elim,
        fun _ => removeRules_refused kind l s (a := a.refuse (.missing kind.ie)) fun h => by cases h⟩
    | some i =>
      by_cases hi : i ∈ ruleIds kind r s
      · rw [removeRule_mem kind r s hi]
        obtain ⟨hok, hnot⟩ := ih (withList kind r (eraseRule kind r s i) s) ha
        rw [ruleIds_eraseRule, list_withList] at hok
        rw [ruleIds_eraseRule] at hnot
        refine ⟨fun h => ?_, fun h => hnot fun h' => h ⟨hi, h'⟩⟩
        obtain ⟨list, h₁, h₂, hsub, h₃, h₄⟩ := hok h.2
        rw [withList_withList] at h₁ h₂ h₄
        refine ⟨list, h₁, h₂, hsub.trans (List.eraseP_sublist ..), ?_, ?_⟩
        · have := length_eraseRule kind r s hi
          simp only [List.length_cons]
          omega
        · rw [h₄, List.reduceOption_cons_of_some, List.diff_cons]
      · rw [removeRule_not_mem kind r s hi]
        exact ⟨fun h => (hi h.1).elim, fun _ h => by cases h⟩

end

/-! ## Creating -/

/-- Rules are added to a session, the others stay. -/
structure Added (r : ℕ) (s s' : PfcpSwitch) (pdrs fars : List ℕ) : Prop where
  pdrs_list : (s'.session r).pdrs = (s.session r).pdrs ++ pdrs
  fars_list : (s'.session r).fars = (s.session r).fars ++ fars
  pdrs_new : ∀ p ∈ pdrs, s.pdrs.next ≤ p
  fars_new : ∀ p ∈ fars, s.fars.next ≤ p
  pdrs_lt : ∀ p ∈ pdrs, p < s'.pdrs.next
  fars_lt : ∀ p ∈ fars, p < s'.fars.next
  pdrs_next : s.pdrs.next ≤ s'.pdrs.next
  fars_next : s.fars.next ≤ s'.fars.next
  pdr : ∀ p < s.pdrs.next, s'.pdr p = s.pdr p
  far : ∀ p < s.fars.next, s'.far p = s.far p

namespace Added

variable {r : ℕ} {s s' s'' : PfcpSwitch} {pdrs pdrs' fars fars' : List ℕ}

theorem refl (r : ℕ) (s : PfcpSwitch) : Added r s s [] [] where
  pdrs_list := (List.append_nil _).symm
  fars_list := (List.append_nil _).symm
  pdrs_new _ h := nomatch h
  fars_new _ h := nomatch h
  pdrs_lt _ h := nomatch h
  fars_lt _ h := nomatch h
  pdrs_next := le_rfl
  fars_next := le_rfl
  pdr _ _ := rfl
  far _ _ := rfl

theorem trans (h : Added r s s' pdrs fars) (h' : Added r s' s'' pdrs' fars') :
    Added r s s'' (pdrs ++ pdrs') (fars ++ fars') where
  pdrs_list := by rw [h'.pdrs_list, h.pdrs_list, List.append_assoc]
  fars_list := by rw [h'.fars_list, h.fars_list, List.append_assoc]
  pdrs_new p hp := (List.mem_append.mp hp).elim (h.pdrs_new p) fun hp =>
    h.pdrs_next.trans (h'.pdrs_new p hp)
  fars_new p hp := (List.mem_append.mp hp).elim (h.fars_new p) fun hp =>
    h.fars_next.trans (h'.fars_new p hp)
  pdrs_lt p hp := (List.mem_append.mp hp).elim (fun hp => (h.pdrs_lt p hp).trans_le h'.pdrs_next)
    (h'.pdrs_lt p)
  fars_lt p hp := (List.mem_append.mp hp).elim (fun hp => (h.fars_lt p hp).trans_le h'.fars_next)
    (h'.fars_lt p)
  pdrs_next := h.pdrs_next.trans h'.pdrs_next
  fars_next := h.fars_next.trans h'.fars_next
  pdr p hp := (h'.pdr p (hp.trans_le h.pdrs_next)).trans (h.pdr p hp)
  far p hp := (h'.far p (hp.trans_le h.fars_next)).trans (h.far p hp)

theorem addFar (far : PfcpFar) : Added r s (s.addFar r far) [] [s.fars.next] where
  pdrs_list := by rw [addFar_session_self, List.append_nil]; rfl
  fars_list := by rw [addFar_session_self]; rfl
  pdrs_new _ h := nomatch h
  fars_new p hp := (List.mem_singleton.mp hp).ge
  pdrs_lt _ h := nomatch h
  fars_lt p hp := (List.mem_singleton.mp hp).trans_lt (Nat.lt_succ_self _)
  pdrs_next := le_rfl
  fars_next := Nat.le_succ _
  pdr _ _ := rfl
  far p hp := addFar_far_of_ne s r p far hp.ne

theorem addPdr (n : ℕ) (key : LookupKey) (pdr : PfcpPdr) :
    Added r s ({ s with teidN3Generator := n }.addPdr r key pdr) [s.pdrs.next] [] where
  pdrs_list := by rw [addPdr_session_self]; rfl
  fars_list := by rw [addPdr_session_self, List.append_nil]; rfl
  pdrs_new p hp := (List.mem_singleton.mp hp).ge
  fars_new _ h := nomatch h
  pdrs_lt p hp := (List.mem_singleton.mp hp).trans_lt (Nat.lt_succ_self _)
  fars_lt _ h := nomatch h
  pdrs_next := Nat.le_succ _
  fars_next := le_rfl
  pdr p hp := addPdr_pdr_of_ne { s with teidN3Generator := n } r p key pdr hp.ne
  far _ _ := rfl

theorem listsMade (h : Added r s s' pdrs fars) (hs : ListsMade r s) : ListsMade r s' where
  pdrs p hp := by
    rw [h.pdrs_list] at hp
    exact (List.mem_append.mp hp).elim (fun hp => (hs.pdrs p hp).trans_le h.pdrs_next) (h.pdrs_lt p)
  fars p hp := by
    rw [h.fars_list] at hp
    exact (List.mem_append.mp hp).elim (fun hp => (hs.fars p hp).trans_le h.fars_next) (h.fars_lt p)

theorem pdrIds (h : Added r s s' pdrs fars) (hs : ListsMade r s) :
    ruleIds pdrKind r s' = ruleIds pdrKind r s ++ pdrs.map fun p => (s'.pdr p).pdrId := by
  unfold ruleIds pdrKind
  dsimp only
  rw [h.pdrs_list, List.map_append]
  exact congrArg (· ++ _) (List.map_congr_left fun p hp => by rw [h.pdr p (hs.pdrs p hp)])

theorem farIds (h : Added r s s' pdrs fars) (hs : ListsMade r s) :
    ruleIds farKind r s' = ruleIds farKind r s ++ fars.map fun p => (s'.far p).farId := by
  unfold ruleIds farKind
  dsimp only
  rw [h.fars_list, List.map_append]
  exact congrArg (· ++ _) (List.map_congr_left fun p hp => by rw [h.far p (hs.fars p hp)])

end Added

section

variable {r : ℕ}

/-- **The loop that creates FARs**, up to the first that is refused. -/
theorem createFars_added (l : List CreateFar) (s : PfcpSwitch) (a : PfcpResponse) :
    ∃ fars, Added r s (createFars r l (s, a)).1 [] fars ∧
      (fars = [] ↔ ∀ c, l.head? = some c → checkCreateFar c ≠ .ok ()) ∧
      (fars = [] → (createFars r l (s, a)).1 = s) ∧
      ((∀ c ∈ l, checkCreateFar c = .ok ()) →
        applyEach (fun s c => (s.createFar r c).toOption) l s = some (createFars r l (s, a)).1 ∧
        fars.map (fun p => ((createFars r l (s, a)).1.far p).farId) = l.map fun c => c.farId.getD 0) := by
  induction l generalizing s a with
  | nil => exact ⟨[], .refl r s, iff_of_true rfl fun c h => (by cases h), fun _ => rfl,
      fun _ => ⟨rfl, rfl⟩⟩
  | cons c l ih =>
    unfold createFars applyEach createFar
    cases hc : checkCreateFar c with
    | error e =>
      refine ⟨[], .refl r s, iff_of_true rfl fun d hd => ?_, fun _ => rfl, fun h => ?_⟩
      · rw [← Option.some.inj hd, hc]
        exact fun h => by cases h
      · cases hc.symm.trans (h c List.mem_cons_self)
    | ok u =>
      obtain ⟨fars, hadd, -, -, hok⟩ := ih (s.addFar r (.ofCreate c)) a
      refine ⟨s.fars.next :: fars, (Added.addFar _).trans hadd, ?_, fun h => (by cases h), fun h => ?_⟩
      · exact iff_of_false (fun h => by cases h) fun h => h c rfl hc
      · obtain ⟨happly, hids⟩ := hok fun d hd => h d (List.mem_cons_of_mem _ hd)
        refine ⟨happly, ?_⟩
        dsimp only
        rw [List.map_cons, List.map_cons, hids, hadd.far _ (Nat.lt_succ_self _)]
        have : (s.addFar r (.ofCreate c)).far s.fars.next = .ofCreate c := Heap.alloc_cell_next ..
        rw [this]
        rfl

/-- **The loop that creates PDRs**, up to the first that is refused. -/
theorem createPdrs_added (cfg : UpfCfg) (fars : List CreateFar) (b : Bool) (l : List CreatePdr)
    (s : PfcpSwitch) (a : PfcpResponse) :
    ∃ pdrs, Added r s (createPdrs cfg r fars b l (s, a)).1 pdrs [] ∧
      (pdrs = [] → (createPdrs cfg r fars b l (s, a)).1 = s) ∧
      ((∀ c ∈ l, checkFarId fars c = .ok () ∧ ∃ x, checkCreatePdr c = .ok x) →
        pdrs.length = l.length ∧
        applyEach (fun s c => (s.createPdr cfg r c).toOption.map Prod.fst) l s =
          some (createPdrs cfg r fars b l (s, a)).1 ∧
        pdrs.map (fun p => ((createPdrs cfg r fars b l (s, a)).1.pdr p).pdrId) =
          l.map fun c => c.pdrId.getD 0) := by
  induction l generalizing s a with
  | nil => exact ⟨[], .refl r s, fun _ => rfl, fun _ => ⟨rfl, rfl, rfl⟩⟩
  | cons c l ih =>
    unfold createPdrs applyEach
    cases hfar : checkFarId fars c with
    | error e =>
      refine ⟨[], .refl r s, fun _ => rfl, fun h => ?_⟩
      cases hfar.symm.trans (h c List.mem_cons_self).1
    | ok u =>
      cases hx : checkCreatePdr c with
      | error e =>
        rw [(createPdr_eq cfg r c s).1 e hx]
        refine ⟨[], .refl r s, fun _ => rfl, fun h => ?_⟩
        obtain ⟨x, hx'⟩ := (h c List.mem_cons_self).2
        cases hx.symm.trans hx'
      | ok x =>
        obtain ⟨fteid, heq⟩ := (createPdr_eq cfg r c s).2 x hx
        rw [heq]
        obtain ⟨pdrs, hadd, -, hok⟩ := ih
          ({ s with teidN3Generator := teidsAfter s.teidN3Generator x }.addPdr r
            (keyFor s.teidN3Generator x) (pdrFor cfg c s.teidN3Generator (s.session r).seid x))
          (a.addCreatedPdr ⟨c.pdrId.getD 0, if b && fteid.isZero then none else some fteid⟩)
        refine ⟨s.pdrs.next :: pdrs, (Added.addPdr _ _ _).trans hadd, fun h => (by cases h), fun h => ?_⟩
        obtain ⟨hlength, happly, hids⟩ := hok fun d hd => h d (List.mem_cons_of_mem _ hd)
        refine ⟨by simp [hlength], happly, ?_⟩
        dsimp only
        rw [List.map_cons, List.map_cons, hids, hadd.pdr _ (Nat.lt_succ_self _)]
        have : ({ s with teidN3Generator := teidsAfter s.teidN3Generator x }.addPdr r
            (keyFor s.teidN3Generator x)
            (pdrFor cfg c s.teidN3Generator (s.session r).seid x)).pdr s.pdrs.next =
              pdrFor cfg c s.teidN3Generator (s.session r).seid x := Heap.alloc_cell_next ..
        rw [this, pdrFor_pdrId]

theorem createPdrs_noFars (cfg : UpfCfg) (b : Bool) (l : List CreatePdr) (x : PfcpSwitch × PfcpResponse) :
    (createPdrs cfg r [] b l x).1 = x.1 := by
  cases l with
  | nil => rfl
  | cons c l =>
    unfold createPdrs checkFarId
    cases c.farId <;> rfl

end

/-! ## Changing -/

section

variable {ρ α υ : Type} (kind : RuleKind ρ α) {r : ℕ} {id : υ → α} {apply : ρ → υ → ρ}
  {missing : PfcpResponse → υ → PfcpResponse}

theorem ident_modify (hident : ∀ rule u, kind.ident (apply rule u) = kind.ident rule) (s : PfcpSwitch)
    (p q : ℕ) (u : υ) :
    kind.ident (kind.cell (kind.modify s p fun rule => apply rule u) q) =
      kind.ident (kind.cell s q) := by
  by_cases hq : q = p
  · subst hq
    rw [kind.cell_modify_self, hident]
  · rw [kind.cell_modify_of_ne _ _ _ _ hq]

theorem ruleIds_modify (hident : ∀ rule u, kind.ident (apply rule u) = kind.ident rule)
    (s : PfcpSwitch) (p : ℕ) (u : υ) :
    ruleIds kind r (kind.modify s p fun rule => apply rule u) = ruleIds kind r s := by
  unfold ruleIds
  rw [kind.session_modify]
  simp only [ident_modify kind hident]

/-- **The loop that changes rules**: each rule is changed by the elements that have its id. -/
theorem updateRules_spec [DecidableEq α]
    (hident : ∀ rule u, kind.ident (apply rule u) = kind.ident rule) (l : List υ) (s : PfcpSwitch) (a : PfcpResponse) :
    let x := updateRules kind id apply missing r l (s, a)
    x.1.session r = s.session r ∧ ruleIds kind r x.1 = ruleIds kind r s ∧
      (∀ p, kind.cell x.1 p = netRule kind r s id apply l p) ∧
      ((∀ u ∈ l, id u ∈ ruleIds kind r s) →
        applyEach (fun s u => s.updateRule kind r (id u) fun rule => apply rule u) l s = some x.1) ∧
      (¬ (∀ u ∈ l, id u ∈ ruleIds kind r s) →
        applyEach (fun s u => s.updateRule kind r (id u) fun rule => apply rule u) l s = none) := by
  induction l generalizing s a with
  | nil => exact ⟨rfl, rfl, fun _ => rfl, fun _ => rfl, fun h => (h (by simp)).elim⟩
  | cons u l ih =>
    unfold updateRules applyEach updateRule
    cases hp : s.getRule kind r (id u) with
    | none =>
      have hnot : id u ∉ ruleIds kind r s := by
        rw [← getRule_isSome, hp]
        simp
      obtain ⟨h₁, h₂, h₃, -, -⟩ := ih s (missing a u)
      refine ⟨h₁, h₂, fun p => (h₃ p).trans ?_, fun h => (hnot (h u List.mem_cons_self)).elim,
        fun _ => rfl⟩
      unfold netRule
      rw [List.filter_cons_of_neg (by simp [hp])]
    | some p =>
      have hmem : id u ∈ ruleIds kind r s := by
        rw [← getRule_isSome, hp]
        rfl
      have hget : ∀ i, (kind.modify s p fun rule => apply rule u).getRule kind r i =
          s.getRule kind r i := by
        intro i
        unfold getRule
        rw [kind.session_modify]
        simp only [ident_modify kind hident]
      obtain ⟨h₁, h₂, h₃, h₄, h₅⟩ := ih (kind.modify s p fun rule => apply rule u) a
      rw [ruleIds_modify kind hident] at h₂ h₄ h₅
      rw [kind.session_modify] at h₁
      refine ⟨h₁, h₂, fun q => (h₃ q).trans ?_, fun h => h₄ fun v hv => h v (List.mem_cons_of_mem _ hv),
        fun h => h₅ fun h' => h (List.forall_mem_cons.mpr ⟨hmem, h'⟩)⟩
      unfold netRule
      simp only [hget]
      by_cases hq : q = p
      · subst hq
        rw [List.filter_cons_of_pos (by simp [hp]), List.foldl_cons, kind.cell_modify_self]
      · rw [List.filter_cons_of_neg (by simp [hp, Ne.symm hq]), kind.cell_modify_of_ne _ _ _ _ hq]

end

section

variable {r : ℕ}

theorem updatePdrs_spec (l : List UpdatePdr) (s : PfcpSwitch) (a : PfcpResponse) :
    let x := updatePdrs r l (s, a)
    x.1.session r = s.session r ∧ ruleIds pdrKind r x.1 = ruleIds pdrKind r s ∧
      (∀ p, x.1.pdr p = netRule pdrKind r s UpdatePdr.pdrId PfcpPdr.update l p) ∧
      ((∀ u ∈ l, u.pdrId ∈ ruleIds pdrKind r s) →
        applyEach (fun s u => s.updatePdr r u) l s = some x.1) ∧
      (¬ (∀ u ∈ l, u.pdrId ∈ ruleIds pdrKind r s) →
        applyEach (fun s u => s.updatePdr r u) l s = none) :=
  @updateRules_spec _ _ _ pdrKind r UpdatePdr.pdrId PfcpPdr.update _ _ (fun _ _ => rfl) l s a

theorem updateFars_spec (l : List UpdateFar) (s : PfcpSwitch) (a : PfcpResponse) :
    let x := updateFars r l (s, a)
    x.1.session r = s.session r ∧ ruleIds farKind r x.1 = ruleIds farKind r s ∧
      (∀ p, x.1.far p = netRule farKind r s UpdateFar.farId PfcpFar.update l p) ∧
      ((∀ u ∈ l, u.farId ∈ ruleIds farKind r s) →
        applyEach (fun s u => s.updateFar r u) l s = some x.1) ∧
      (¬ (∀ u ∈ l, u.farId ∈ ruleIds farKind r s) →
        applyEach (fun s u => s.updateFar r u) l s = none) :=
  @updateRules_spec _ _ _ farKind r UpdateFar.farId PfcpFar.update _ _ (fun _ _ => rfl) l s a

theorem updatePdrs_cause (l : List UpdatePdr) (s : PfcpSwitch) (a : PfcpResponse) :
    (updatePdrs r l (s, a)).2.cause = a.cause := by
  unfold updatePdrs
  induction l generalizing s a with
  | nil => rfl
  | cons u l ih =>
    unfold updateRules
    cases s.updateRule pdrKind r u.pdrId fun rule => rule.update u with
    | none => exact (ih s _).trans rfl
    | some s' => exact ih s' a

theorem updateFars_cause (l : List UpdateFar) (s : PfcpSwitch) (a : PfcpResponse) :
    (updateFars r l (s, a)).2.cause = .requestAccepted ↔
      a.cause = .requestAccepted ∧ ∀ u ∈ l, u.farId ∈ ruleIds farKind r s := by
  unfold updateFars
  induction l generalizing s a with
  | nil => simp [updateRules]
  | cons u l ih =>
    unfold updateRules
    rw [List.forall_mem_cons, ← getRule_isSome]
    cases hp : s.getRule farKind r u.farId with
    | none =>
      unfold updateRule
      rw [hp]
      refine (ih s _).trans (iff_of_false (fun h => nomatch h.1) fun h => nomatch h.2.1)
    | some p =>
      unfold updateRule
      rw [hp]
      have hids : ruleIds farKind r (farKind.modify s p fun far => far.update u) =
          ruleIds farKind r s :=
        @ruleIds_modify _ _ _ farKind r PfcpFar.update (fun _ _ => rfl) s p u
      refine (ih _ a).trans (and_congr_right fun _ => ?_)
      dsimp only
      rw [hids]
      simp

theorem updatePdrs_frame (l : List UpdatePdr) (s : PfcpSwitch) (a : PfcpResponse) :
    (updatePdrs r l (s, a)).1.fars = s.fars ∧ (updatePdrs r l (s, a)).1.pdrTable = s.pdrTable := by
  refine updateRules_invariant (I := fun s' => s'.fars = s.fars ∧ s'.pdrTable = s.pdrTable) r a pdrKind
    (fun s₁ s₂ hs u _ h => ?_) ⟨rfl, rfl⟩
  obtain ⟨p, -, rfl⟩ := Option.map_eq_some_iff.mp h
  exact hs

theorem updateFars_frame (l : List UpdateFar) (s : PfcpSwitch) (a : PfcpResponse) :
    (updateFars r l (s, a)).1.pdrs = s.pdrs ∧ (updateFars r l (s, a)).1.pdrTable = s.pdrTable := by
  refine updateRules_invariant (I := fun s' => s'.pdrs = s.pdrs ∧ s'.pdrTable = s.pdrTable) r a farKind
    (fun s₁ s₂ hs u _ h => ?_) ⟨rfl, rfl⟩
  obtain ⟨p, -, rfl⟩ := Option.map_eq_some_iff.mp h
  exact hs

end

/-! ## A whole request -/

theorem ifAccepted_pos {f : PfcpSwitch × PfcpResponse → PfcpSwitch × PfcpResponse}
    {x : PfcpSwitch × PfcpResponse} (h : x.2.cause = .requestAccepted) : ifAccepted f x = f x :=
  if_pos h

theorem ifAccepted_neg {f : PfcpSwitch × PfcpResponse → PfcpSwitch × PfcpResponse}
    {x : PfcpSwitch × PfcpResponse} (h : x.2.cause ≠ .requestAccepted) : ifAccepted f x = x :=
  if_neg h

theorem append_new_eq {old new list : List ℕ} {n : ℕ} (hlist : ∀ p ∈ list, p < n)
    (hnew : ∀ p ∈ new, n ≤ p) : old ++ new = list ↔ new = [] ∧ old = list := by
  constructor
  · intro h
    have hnil : new = [] := List.eq_nil_iff_forall_not_mem.mpr fun p hp =>
      (hnew p hp).not_gt (hlist p (h ▸ List.mem_append_right _ hp))
    subst hnil
    exact ⟨rfl, by rw [← h, List.append_nil]⟩
  · rintro ⟨rfl, rfl⟩
    exact List.append_nil _

theorem Removable.not_nothingRemoved {α : Type} [DecidableEq α] {id : Option α} {l : List (Option α)}
    {ids : List α} (h : Removable (id :: l) ids) : ¬ NothingRemoved (id :: l) ids := by
  cases id with
  | none => exact h.elim
  | some i => exact fun h' => h' i rfl h.1

theorem SameRules.refl (r : ℕ) (s : PfcpSwitch) : SameRules r s s :=
  ⟨rfl, rfl, fun _ _ => rfl, fun _ _ => rfl, rfl⟩

section

variable {cfg : UpfCfg} {r : ℕ} {req : ModificationRequest} {s : PfcpSwitch} {a : PfcpResponse}

/-- The rules of a session after rules were removed. -/
def removed (r : ℕ) (pdrs fars : List ℕ) (s : PfcpSwitch) : PfcpSwitch :=
  withList farKind r fars (withList pdrKind r pdrs s)

theorem removed_self : removed r (s.session r).pdrs (s.session r).fars s = s := by
  unfold removed
  rw [show (s.session r).pdrs = pdrKind.list (s.session r) from rfl, withList_self]
  exact withList_self farKind r s

theorem removed_session (pdrs fars : List ℕ) :
    ((removed r pdrs fars s).session r).pdrs = pdrs ∧
      ((removed r pdrs fars s).session r).fars = fars := by
  unfold removed
  rw [session_withList, session_withList]
  exact ⟨rfl, rfl⟩

theorem sameRules_removed (pdrs fars : List ℕ) :
    SameRules r s (removed r pdrs fars s) ↔
      pdrs = (s.session r).pdrs ∧ fars = (s.session r).fars := by
  obtain ⟨hpdrs, hfars⟩ := removed_session (r := r) (s := s) pdrs fars
  constructor
  · exact fun h => ⟨hpdrs ▸ h.pdrs, hfars ▸ h.fars⟩
  · rintro ⟨rfl, rfl⟩
    rw [removed_self]
    exact .refl r s

theorem removes_spec (ha : a.cause = .requestAccepted)
    (h₁ : Removable req.removePdrs (ruleIds pdrKind r s))
    (h₂ : Removable req.removeFars (ruleIds farKind r s)) :
    ∃ pdrs fars, ifAccepted (removeFars r req.removeFars) (removePdrs r req.removePdrs (s, a)) =
        (removed r pdrs fars s, a) ∧
      (applyEach (fun s id => (s.removePdr r id).toOption) req.removePdrs s).bind
        (applyEach (fun s id => (s.removeFar r id).toOption) req.removeFars) =
          some (removed r pdrs fars s) ∧
      (pdrs = (s.session r).pdrs ↔ req.removePdrs = []) ∧
      (fars = (s.session r).fars ↔ req.removeFars = []) ∧
      ruleIds pdrKind r (removed r pdrs fars s) =
        (ruleIds pdrKind r s).diff req.removePdrs.reduceOption ∧
      ruleIds farKind r (removed r pdrs fars s) =
        (ruleIds farKind r s).diff req.removeFars.reduceOption ∧
      (ListsMade r s → ListsMade r (removed r pdrs fars s)) := by
  have hiff : ∀ {list old : List ℕ} {β : Type} {l : List β}, list.Sublist old →
      list.length + l.length = old.length → (list = old ↔ l = []) := by
    intro list old β l hsub hlength
    rw [← List.length_eq_zero_iff]
    refine ⟨fun h => ?_, fun h => hsub.eq_of_length (by omega)⟩
    rw [h] at hlength
    omega
  obtain ⟨pdrs, he₁, happly₁, hsub₁, hlength₁, hids₁⟩ := (removeRules_spec pdrKind _ s ha).1 h₁
  have hfars : ruleIds farKind r (withList pdrKind r pdrs s) = ruleIds farKind r s := by
    unfold ruleIds
    rw [session_withList]
    rfl
  obtain ⟨fars, he₂, happly₂, hsub₂, hlength₂, hids₂⟩ :=
    (removeRules_spec farKind _ (withList pdrKind r pdrs s) ha).1 (hfars ▸ h₂)
  have hlist : farKind.list ((withList pdrKind r pdrs s).session r) = (s.session r).fars := by
    rw [session_withList]
    rfl
  rw [hlist] at hsub₂ hlength₂
  refine ⟨pdrs, fars, ?_, ?_, hiff hsub₁ hlength₁, hiff hsub₂ hlength₂, ?_, ?_, fun hs => ?_⟩
  · rw [show PfcpSwitch.removePdrs r req.removePdrs (s, a) = (withList pdrKind r pdrs s, a) from he₁,
      ifAccepted_pos ha]
    exact he₂
  · rw [show applyEach (fun s id => (s.removePdr r id).toOption) req.removePdrs s =
      some (withList pdrKind r pdrs s) from happly₁]
    exact happly₂
  · rw [← hids₁]
    unfold removed ruleIds
    rw [session_withList]
    rfl
  · rw [← hfars]
    exact hids₂
  · obtain ⟨hpdrs', hfars'⟩ := removed_session (r := r) (s := s) pdrs fars
    constructor
    · rw [hpdrs']
      exact fun p hp => hs.pdrs p (hsub₁.subset hp)
    · rw [hfars']
      exact fun p hp => hs.fars p (hsub₂.subset hp)

theorem modifyRules_removes (ha : a.cause = .requestAccepted)
    (h : ¬ (Removable req.removePdrs (ruleIds pdrKind r s) ∧
      Removable req.removeFars (ruleIds farKind r s))) :
    (modifyRules cfg r req (s, a)).2.cause ≠ .requestAccepted ∧
      (SameRules r s (modifyRules cfg r req (s, a)).1 ↔ RefusedFirst r req s) := by
  unfold modifyRules
  dsimp only
  by_cases h₁ : Removable req.removePdrs (ruleIds pdrKind r s)
  · have h₂ : ¬ Removable req.removeFars (ruleIds farKind r s) := fun h₂ => h ⟨h₁, h₂⟩
    obtain ⟨pdrs, he₁, -, hsub, hlength, -⟩ := (removeRules_spec pdrKind _ s ha).1 h₁
    have hfars : ruleIds farKind r (withList pdrKind r pdrs s) = ruleIds farKind r s := by
      unfold ruleIds
      rw [session_withList]
      rfl
    have hlist : farKind.list ((withList pdrKind r pdrs s).session r) = (s.session r).fars := by
      rw [session_withList]
      rfl
    have hcause : (PfcpSwitch.removeFars r req.removeFars (withList pdrKind r pdrs s, a)).2.cause ≠
        .requestAccepted :=
      (removeRules_spec farKind (r := r) _ (withList pdrKind r pdrs s) ha).2 (hfars ▸ h₂)
    obtain ⟨fars, he₂, -, hnothing⟩ :=
      removeRules_list farKind (r := r) req.removeFars (withList pdrKind r pdrs s) a
    rw [hlist, hfars] at hnothing
    rw [show PfcpSwitch.removePdrs r req.removePdrs (s, a) = (withList pdrKind r pdrs s, a) from he₁,
      ifAccepted_pos (f := PfcpSwitch.removeFars r req.removeFars) ha]
    rw [ifAccepted_neg hcause, ifAccepted_neg hcause, ifAccepted_neg hcause]
    refine ⟨hcause, ?_⟩
    rw [show (PfcpSwitch.removeFars r req.removeFars (withList pdrKind r pdrs s, a)).1 =
      removed r pdrs fars s from he₂, sameRules_removed, hnothing]
    unfold RefusedFirst
    cases hp : req.removePdrs with
    | nil =>
      rw [hp] at hlength
      have hpdrs := hsub.eq_of_length hlength
      cases hf : req.removeFars with
      | nil => exact (h₂ (by rw [hf]; trivial)).elim
      | cons id l => exact ⟨fun h => h.2, fun h => ⟨hpdrs, h⟩⟩
    | cons id l =>
      refine iff_of_false (fun h => ?_) (Removable.not_nothingRemoved (hp ▸ h₁))
      rw [hp, show pdrs = pdrKind.list (s.session r) from h.1, List.length_cons] at hlength
      omega
  · have hcause : (PfcpSwitch.removePdrs r req.removePdrs (s, a)).2.cause ≠ .requestAccepted :=
      (removeRules_spec pdrKind (r := r) _ s ha).2 h₁
    obtain ⟨pdrs, he₁, -, hnothing⟩ := removeRules_list pdrKind (r := r) req.removePdrs s a
    rw [ifAccepted_neg hcause, ifAccepted_neg hcause, ifAccepted_neg hcause, ifAccepted_neg hcause]
    refine ⟨hcause, ?_⟩
    have hx : (PfcpSwitch.removePdrs r req.removePdrs (s, a)).1 = removed r pdrs (s.session r).fars s := by
      refine he₁.trans ?_
      have hlist : (s.session r).fars = farKind.list ((withList pdrKind r pdrs s).session r) := by
        rw [session_withList]
        rfl
      unfold removed
      rw [hlist, withList_self]
    rw [hx, sameRules_removed]
    unfold RefusedFirst
    cases hp : req.removePdrs with
    | nil => exact (h₁ (by rw [hp]; trivial)).elim
    | cons id l =>
      rw [hp] at hnothing
      exact (and_iff_left rfl).trans hnothing

/-- A request that is refused first removes nothing, where the removals are in order. -/
theorem RefusedFirst.removals_nil (h : RefusedFirst r req s) (h₁ : Removable req.removePdrs (ruleIds pdrKind r s))
    (h₂ : Removable req.removeFars (ruleIds farKind r s)) : req.removePdrs = [] ∧ req.removeFars = [] := by
  unfold RefusedFirst at h
  cases hp : req.removePdrs with
  | cons id l =>
    rw [hp] at h
    exact (Removable.not_nothingRemoved (hp ▸ h₁) h).elim
  | nil =>
    cases hf : req.removeFars with
    | cons id l =>
      rw [hp, hf] at h
      exact (Removable.not_nothingRemoved (hf ▸ h₂) h).elim
    | nil => exact ⟨rfl, rfl⟩

/-- A request that creates something is refused first exactly if it removes nothing and its first FAR is refused. -/
theorem refusedFirst_iff_of_creates (h₁ : Removable req.removePdrs (ruleIds pdrKind r s))
    (h₂ : Removable req.removeFars (ruleIds farKind r s)) (h : ¬ (req.createFars = [] ∧ req.createPdrs = [])) :
    RefusedFirst r req s ↔ req.removePdrs = [] ∧ req.removeFars = [] ∧
      ∀ c, req.createFars.head? = some c → checkCreateFar c ≠ .ok () := by
  have hcreates (hp : req.removePdrs = []) (hf : req.removeFars = []) :
      RefusedFirst r req s ↔ ∀ c, req.createFars.head? = some c → checkCreateFar c ≠ .ok () := by
    unfold RefusedFirst
    rw [hp, hf]
    cases hc : req.createFars with
    | cons c l => simp
    | nil =>
      cases hcp : req.createPdrs with
      | nil => exact absurd ⟨hc, hcp⟩ h
      | cons c l => simp
  constructor
  · intro hfirst
    obtain ⟨hp, hf⟩ := hfirst.removals_nil h₁ h₂
    exact ⟨hp, hf, (hcreates hp hf).mp hfirst⟩
  · rintro ⟨hp, hf, hhead⟩
    exact (hcreates hp hf).mpr hhead

theorem modifyRules_creates (hs : ListsMade r s) (ha : a.cause = .requestAccepted)
    (h₁ : Removable req.removePdrs (ruleIds pdrKind r s))
    (h₂ : Removable req.removeFars (ruleIds farKind r s))
    (h : ¬ ((∀ c ∈ req.createFars, checkCreateFar c = .ok ()) ∧
      ∀ c ∈ req.createPdrs, checkFarId req.createFars c = .ok () ∧ ∃ x, checkCreatePdr c = .ok x)) :
    (modifyRules cfg r req (s, a)).2.cause ≠ .requestAccepted ∧
      (SameRules r s (modifyRules cfg r req (s, a)).1 ↔ RefusedFirst r req s) := by
  obtain ⟨pdrs, fars, he, -, hpdrs, hfars, -, -, hsub⟩ := removes_spec ha h₁ h₂
  obtain ⟨hlist, hlist'⟩ := removed_session (r := r) (s := s) pdrs fars
  obtain ⟨newFars, haddF, hnewF, hsameF, hokF⟩ :=
    createFars_added (r := r) req.createFars (removed r pdrs fars s) a
  unfold modifyRules
  dsimp only
  rw [he, ifAccepted_pos (f := createFars r req.createFars) ha]
  have hnext : (removed r pdrs fars s).fars.next = s.fars.next ∧
      (removed r pdrs fars s).pdrs.next = s.pdrs.next := ⟨rfl, rfl⟩
  by_cases h₃ : ∀ c ∈ req.createFars, checkCreateFar c = .ok ()
  · have hresp : (createFars r req.createFars (removed r pdrs fars s, a)).2 = a :=
      (createFars_spec (r := r) req.createFars (removed r pdrs fars s) a).2.2.2.2.2.1 h₃
    have hpair : createFars r req.createFars (removed r pdrs fars s, a) =
        ((createFars r req.createFars (removed r pdrs fars s, a)).1, a) := Prod.ext rfl hresp
    rw [hpair]
    generalize (createFars r req.createFars (removed r pdrs fars s, a)).1 = s₃ at *
    rw [ifAccepted_pos (f := createPdrs cfg r req.createFars true req.createPdrs) ha]
    have hcause : (createPdrs cfg r req.createFars true req.createPdrs (s₃, a)).2.cause ≠
        .requestAccepted := fun hc =>
      h ⟨h₃, (createPdrs_cause cfg r req.createFars true req.createPdrs s₃ a ha).mp hc⟩
    rw [ifAccepted_neg hcause]
    refine ⟨hcause, ?_⟩
    obtain ⟨newPdrs, haddP, -, -⟩ :=
      createPdrs_added (r := r) cfg req.createFars true req.createPdrs s₃ a
    have hnil : newFars = [] ↔ req.createFars = [] := by
      rw [hnewF]
      cases hc : req.createFars with
      | nil => simp
      | cons c l => simp [h₃ c (by simp [hc])]
    have hsame : SameRules r s (createPdrs cfg r req.createFars true req.createPdrs (s₃, a)).1 ↔
        req.removePdrs = [] ∧ req.removeFars = [] ∧ req.createFars = [] := by
      constructor
      · intro h
        have hp := haddP.pdrs_list.symm.trans h.pdrs
        have hf := haddP.fars_list.symm.trans h.fars
        rw [haddF.pdrs_list, hlist, List.append_nil, append_new_eq hs.pdrs fun p hp =>
          (hnext.2 ▸ haddF.pdrs_next).trans (haddP.pdrs_new p hp)] at hp
        rw [haddF.fars_list, hlist', List.append_nil, append_new_eq hs.fars haddF.fars_new] at hf
        exact ⟨hpdrs.mp hp.2, hfars.mp hf.2, hnil.mp hf.1⟩
      · rintro ⟨hp, hf, hc⟩
        have hstate : (createPdrs cfg r req.createFars true req.createPdrs (s₃, a)).1 = s₃ := by
          rw [hc]
          exact createPdrs_noFars cfg true req.createPdrs (s₃, a)
        rw [hstate, hsameF (hnil.mpr hc), sameRules_removed]
        exact ⟨hpdrs.mpr hp, hfars.mpr hf⟩
    have hcreates : ¬ (req.createFars = [] ∧ req.createPdrs = []) := fun hnone => h ⟨h₃, by simp [hnone.2]⟩
    rw [hsame, refusedFirst_iff_of_creates h₁ h₂ hcreates, ← hnewF, hnil]
  · have hcause : (createFars r req.createFars (removed r pdrs fars s, a)).2.cause ≠ .requestAccepted :=
      (createFars_spec (r := r) req.createFars (removed r pdrs fars s) a).2.2.2.2.2.2 h₃
    rw [ifAccepted_neg hcause, ifAccepted_neg hcause]
    refine ⟨hcause, ?_⟩
    have hsame : SameRules r s (createFars r req.createFars (removed r pdrs fars s, a)).1 ↔
        req.removePdrs = [] ∧ req.removeFars = [] ∧ newFars = [] := by
      constructor
      · intro h
        have hp := haddF.pdrs_list.symm.trans h.pdrs
        have hf := haddF.fars_list.symm.trans h.fars
        rw [List.append_nil, hlist] at hp
        rw [hlist', append_new_eq hs.fars haddF.fars_new] at hf
        exact ⟨hpdrs.mp hp, hfars.mp hf.2, hf.1⟩
      · rintro ⟨hp, hf, hnew⟩
        rw [hsameF hnew, sameRules_removed]
        exact ⟨hpdrs.mpr hp, hfars.mpr hf⟩
    have hcreates : ¬ (req.createFars = [] ∧ req.createPdrs = []) := fun hnone => h₃ (by simp [hnone.1])
    rw [hsame, hnewF]
    exact (refusedFirst_iff_of_creates h₁ h₂ hcreates).symm

theorem netRule_updatePdrs (l : List UpdatePdr) (l' : List UpdateFar) (p : ℕ) :
    netRule farKind r (updatePdrs r l (s, a)).1 UpdateFar.farId PfcpFar.update l' p =
      netRule farKind r s UpdateFar.farId PfcpFar.update l' p ∧
    ruleIds farKind r (updatePdrs r l (s, a)).1 = ruleIds farKind r s := by
  have hsession := (updatePdrs_spec (r := r) l s a).1
  have hcell : ∀ q, farKind.cell (updatePdrs r l (s, a)).1 q = farKind.cell s q := fun q =>
    congrArg (fun h => Heap.cell h q) (updatePdrs_frame l s a).1
  unfold netRule ruleIds getRule
  simp only [hsession, hcell, and_self]

/-- A request that is refused first removes and creates nothing, where the removals and the creations are in order. -/
theorem RefusedFirst.onlyUpdates (h : RefusedFirst r req s)
    (h₁ : Removable req.removePdrs (ruleIds pdrKind r s))
    (h₂ : Removable req.removeFars (ruleIds farKind r s))
    (h₃ : ∀ c ∈ req.createFars, checkCreateFar c = .ok ())
    (h₄ : ∀ c ∈ req.createPdrs, checkFarId req.createFars c = .ok ()) :
    req.removePdrs = [] ∧ req.removeFars = [] ∧ req.createFars = [] ∧ req.createPdrs = [] := by
  obtain ⟨hp, hf⟩ := h.removals_nil h₁ h₂
  refine ⟨hp, hf, ?_⟩
  by_contra hcreates
  have hhead := ((refusedFirst_iff_of_creates h₁ h₂ hcreates).mp h).2.2
  cases hc : req.createFars with
  | cons c l => exact hhead c (by rw [hc]; rfl) (h₃ c (by simp [hc]))
  | nil =>
    cases hcp : req.createPdrs with
    | nil => exact hcreates ⟨hc, hcp⟩
    | cons c l =>
      -- without a FAR that is created, none can be named
      have hfar := h₄ c (by simp [hcp])
      rw [hc] at hfar
      unfold checkFarId at hfar
      cases hid : c.farId <;> simp [hid, hasCreateFar] at hfar

/-- **A request whose removals and creations are carried out.** -/
theorem modifyRules_updates (hs : ListsMade r s) (ha : a.cause = .requestAccepted)
    (h₁ : Removable req.removePdrs (ruleIds pdrKind r s))
    (h₂ : Removable req.removeFars (ruleIds farKind r s))
    (h₃ : ∀ c ∈ req.createFars, checkCreateFar c = .ok ())
    (h₄ : ∀ c ∈ req.createPdrs, checkFarId req.createFars c = .ok () ∧ ∃ x, checkCreatePdr c = .ok x) :
    ((modifyRules cfg r req (s, a)).2.cause = .requestAccepted → ¬ RefusedFirst r req s ∧
      (applyRules cfg r req s = some (modifyRules cfg r req (s, a)).1 ↔ Complete r req s)) ∧
    ((modifyRules cfg r req (s, a)).2.cause ≠ .requestAccepted → ¬ Complete r req s ∧
      (SameRules r s (modifyRules cfg r req (s, a)).1 ↔ RefusedFirst r req s)) := by
  obtain ⟨pdrs, fars, he, happly, hpdrs, hfars, hidsP, hidsF, hmade⟩ := removes_spec ha h₁ h₂
  obtain ⟨hlist, hlist'⟩ := removed_session (r := r) (s := s) pdrs fars
  have hnext : (removed r pdrs fars s).fars.next = s.fars.next ∧
      (removed r pdrs fars s).pdrs.next = s.pdrs.next := ⟨rfl, rfl⟩
  obtain ⟨newFars, haddF, -, hsameF, hokF⟩ :=
    createFars_added (r := r) req.createFars (removed r pdrs fars s) a
  obtain ⟨happlyF, hnewF⟩ := hokF h₃
  have hresp : (createFars r req.createFars (removed r pdrs fars s, a)).2 = a :=
    (createFars_spec (r := r) req.createFars (removed r pdrs fars s) a).2.2.2.2.2.1 h₃
  have hpair : createFars r req.createFars (removed r pdrs fars s, a) =
      ((createFars r req.createFars (removed r pdrs fars s, a)).1, a) := Prod.ext rfl hresp
  unfold modifyRules
  dsimp only
  rw [he, ifAccepted_pos (f := createFars r req.createFars) ha, hpair]
  generalize (createFars r req.createFars (removed r pdrs fars s, a)).1 = s₃ at *
  obtain ⟨newPdrs, haddP, hsameP, hokP⟩ :=
    createPdrs_added (r := r) cfg req.createFars true req.createPdrs s₃ a
  obtain ⟨hlengthP, happlyP, hnewP⟩ := hokP h₄
  have hcause := (createPdrs_cause cfg r req.createFars true req.createPdrs s₃ a ha).mpr h₄
  rw [ifAccepted_pos (f := createPdrs cfg r req.createFars true req.createPdrs) ha]
  generalize createPdrs cfg r req.createFars true req.createPdrs (s₃, a) = x₄ at *
  obtain ⟨s₄, a₄⟩ := x₄
  dsimp only at haddP hsameP happlyP hnewP hcause
  rw [ifAccepted_pos (by exact hcause)]
  have hmade₃ := haddF.listsMade (hmade hs)
  have hids₄ : ruleIds pdrKind r s₄ = (ruleIds pdrKind r s).diff req.removePdrs.reduceOption ++
      req.createPdrs.map fun c => c.pdrId.getD 0 := by
    rw [haddP.pdrIds hmade₃, haddF.pdrIds (hmade hs), hnewP, hidsP, List.map_nil, List.append_nil]
  have hfids₄ : ruleIds farKind r s₄ = (ruleIds farKind r s).diff req.removeFars.reduceOption ++
      req.createFars.map fun c => c.farId.getD 0 := by
    rw [haddP.farIds hmade₃, haddF.farIds (hmade hs), hnewF, hidsF, List.map_nil, List.append_nil]
  obtain ⟨hsession₅, -, hcell₅, hsome₅, hnone₅⟩ := updatePdrs_spec (r := r) req.updatePdrs s₄ a₄
  have hcause₅ := updatePdrs_cause (r := r) req.updatePdrs s₄ a₄
  obtain ⟨hfars₅, htable₅⟩ := updatePdrs_frame (r := r) req.updatePdrs s₄ a₄
  have hnet₅ := fun p => netRule_updatePdrs (r := r) (s := s₄) (a := a₄) req.updatePdrs req.updateFars p
  generalize updatePdrs r req.updatePdrs (s₄, a₄) = x₅ at *
  obtain ⟨s₅, a₅⟩ := x₅
  dsimp only at hsession₅ hcell₅ hsome₅ hcause₅ hfars₅ htable₅ hnet₅
  obtain ⟨hsession₆, -, hcell₆, hsome₆, -⟩ := updateFars_spec (r := r) req.updateFars s₅ a₅
  have hcause₆ := updateFars_cause (r := r) req.updateFars s₅ a₅
  obtain ⟨hpdrs₆, htable₆⟩ := updateFars_frame (r := r) req.updateFars s₅ a₅
  generalize updateFars r req.updateFars (s₅, a₅) = x₆ at *
  rw [hcause₅, (hnet₅ 0).2] at hcause₆
  rw [(hnet₅ 0).2] at hsome₆
  have happlied : applyRules cfg r req s =
      (applyEach (fun s u => s.updatePdr r u) req.updatePdrs s₄).bind
        (applyEach (fun s u => s.updateFar r u) req.updateFars) := by
    rw [applyRules_eq, happly, Option.bind_some, happlyF, Option.bind_some, happlyP, Option.bind_some]
  have hnil : newFars = [] ↔ req.createFars = [] := by
    have hlength := congrArg List.length hnewF
    rw [List.length_map, List.length_map] at hlength
    rw [← List.length_eq_zero_iff, hlength, List.length_eq_zero_iff]
  have hnilP : newPdrs = [] ↔ req.createPdrs = [] := by
    rw [← List.length_eq_zero_iff, hlengthP, List.length_eq_zero_iff]
  have hempty : req.removePdrs = [] → req.removeFars = [] → req.createFars = [] →
      req.createPdrs = [] → s₄ = s := by
    intro hp hf hc hcp
    rw [hsameP (hnilP.mpr hcp), hsameF (hnil.mpr hc), hpdrs.mpr hp, hfars.mpr hf, removed_self]
  constructor
  · intro hacc
    obtain ⟨-, hfound⟩ := hcause₆.mp hacc
    have hnot : ¬ RefusedFirst r req s := by
      intro h
      obtain ⟨hp, hf, hc, hcp⟩ := h.onlyUpdates h₁ h₂ h₃ fun c hc => (h₄ c hc).1
      rw [hempty hp hf hc hcp] at hfound
      unfold RefusedFirst at h
      simp only [hp, hf, hc, hcp] at h
      obtain ⟨⟨u, hu, hmissing⟩, -⟩ := h
      exact hmissing (hfound u hu)
    refine ⟨hnot, ?_⟩
    rw [happlied]
    constructor
    · intro h
      have hupdates : ∀ u ∈ req.updatePdrs, u.pdrId ∈ ruleIds pdrKind r s₄ := by
        by_contra hno
        rw [hnone₅ hno] at h
        cases h
      exact ⟨h₁, h₂, h₃, h₄, hids₄ ▸ hupdates, hfids₄ ▸ hfound⟩
    · intro h
      rw [hsome₅ (hids₄ ▸ h.updatePdrs), Option.bind_some, hsome₆ hfound]
  · intro hacc
    have hmissing : ∃ u ∈ req.updateFars, u.farId ∉ ruleIds farKind r s₄ := by
      by_contra hno
      push Not at hno
      exact hacc (hcause₆.mpr ⟨hcause, hno⟩)
    have hnot : ¬ Complete r req s := by
      intro h
      obtain ⟨u, hu, hno⟩ := hmissing
      exact hno (hfids₄ ▸ h.updateFars u hu)
    refine ⟨hnot, ?_⟩
    have hlists : (x₆.1.session r).pdrs = pdrs ++ newPdrs ∧
        (x₆.1.session r).fars = fars ++ newFars := by
      rw [hsession₆, hsession₅, haddP.pdrs_list, haddF.pdrs_list, haddP.fars_list, haddF.fars_list,
        hlist, hlist', List.append_nil, List.append_nil]
      exact ⟨rfl, rfl⟩
    constructor
    · intro h
      have hp := hlists.1.symm.trans h.pdrs
      have hf := hlists.2.symm.trans h.fars
      rw [append_new_eq hs.pdrs fun p hp =>
        (hnext.2 ▸ haddF.pdrs_next).trans (haddP.pdrs_new p hp)] at hp
      rw [append_new_eq hs.fars haddF.fars_new] at hf
      have hs₄ := hempty (hpdrs.mp hp.2) (hfars.mp hf.2) (hnil.mp hf.1) (hnilP.mp hp.1)
      rw [hs₄] at hcell₅ hnet₅ hmissing
      unfold RefusedFirst
      rw [hpdrs.mp hp.2, hfars.mp hf.2, hnil.mp hf.1, hnilP.mp hp.1]
      refine ⟨hmissing, fun p hp => ?_, fun p hp => ?_⟩
      · rw [← hcell₅ p, ← h.pdr p hp]
        exact congrArg (fun heap => Heap.cell heap p) hpdrs₆.symm
      · rw [← (hnet₅ p).1, ← hcell₆ p, h.far p hp]
    · intro h
      obtain ⟨hp, hf, hc, hcp⟩ := h.onlyUpdates h₁ h₂ h₃ fun c hc => (h₄ c hc).1
      have hs₄ := hempty hp hf hc hcp
      rw [hs₄] at hcell₅ hnet₅ hsession₅ htable₅
      unfold RefusedFirst at h
      simp only [hp, hf, hc, hcp] at h
      obtain ⟨-, hnetP, hnetF⟩ := h
      refine ⟨by rw [hsession₆, hsession₅], by rw [hsession₆, hsession₅], fun p hp => ?_,
        fun p hp => ?_, by rw [htable₆, htable₅]⟩
      · rw [← hnetP p hp, ← hcell₅ p]
        exact congrArg (fun heap => Heap.cell heap p) hpdrs₆
      · rw [hcell₆ p, (hnet₅ p).1, hnetF p hp]

end

/-- **The six loops**: when all operations are carried out, and when a refused request changes nothing. -/
theorem modifyRules_iff {cfg : UpfCfg} {r : ℕ} {req : ModificationRequest} {s : PfcpSwitch}
    {a : PfcpResponse} (hs : ListsMade r s) (ha : a.cause = .requestAccepted) :
    ((modifyRules cfg r req (s, a)).2.cause = .requestAccepted → ¬ RefusedFirst r req s ∧
      (applyRules cfg r req s = some (modifyRules cfg r req (s, a)).1 ↔ Complete r req s)) ∧
    ((modifyRules cfg r req (s, a)).2.cause ≠ .requestAccepted → ¬ Complete r req s ∧
      (SameRules r s (modifyRules cfg r req (s, a)).1 ↔ RefusedFirst r req s)) := by
  by_cases hremoves : Removable req.removePdrs (ruleIds pdrKind r s) ∧
      Removable req.removeFars (ruleIds farKind r s)
  · by_cases hcreates : (∀ c ∈ req.createFars, checkCreateFar c = .ok ()) ∧
        ∀ c ∈ req.createPdrs, checkFarId req.createFars c = .ok () ∧ ∃ x, checkCreatePdr c = .ok x
    · exact modifyRules_updates hs ha hremoves.1 hremoves.2 hcreates.1 hcreates.2
    · obtain ⟨hcause, hsame⟩ := @modifyRules_creates cfg r req s a hs ha hremoves.1 hremoves.2 hcreates
      exact ⟨fun hacc => absurd hacc hcause, fun _ => ⟨fun h => hcreates ⟨h.createFars, h.createPdrs⟩, hsame⟩⟩
  · obtain ⟨hcause, hsame⟩ := @modifyRules_removes cfg r req s a ha hremoves
    exact ⟨fun hacc => absurd hacc hcause, fun _ => ⟨fun h => hremoves ⟨h.removePdrs, h.removeFars⟩, hsame⟩⟩

/-! ## The handler -/

theorem ruleIds_takeFseid {ρ α : Type} (kind : RuleKind ρ α) (r : ℕ) (fseid : Option Fseid)
    (s : PfcpSwitch) (hkind : ∀ session f, kind.list (PfcpSession.setCpFseid session f) =
      kind.list session) :
    kind.list ((s.takeFseid r fseid).session r) = kind.list (s.session r) ∧
      (∀ p, kind.cell (s.takeFseid r fseid) p = kind.cell s p) ∧
      ruleIds kind r (s.takeFseid r fseid) = ruleIds kind r s := by
  have hlist : kind.list ((s.takeFseid r fseid).session r) = kind.list (s.session r) := by
    cases fseid with
    | none => rfl
    | some f =>
      unfold takeFseid
      dsimp only
      rw [modifySession_session_self, hkind]
  have hcell : ∀ p, kind.cell (s.takeFseid r fseid) p = kind.cell s p := by
    cases fseid with
    | none => exact fun _ => rfl
    | some f => exact fun p => kind.cell_modifySession ..
  refine ⟨hlist, hcell, ?_⟩
  unfold ruleIds
  rw [hlist]
  simp only [hcell]

theorem netRule_takeFseid {ρ α υ : Type} [DecidableEq α] (kind : RuleKind ρ α) (r : ℕ)
    (fseid : Option Fseid) (s : PfcpSwitch) (hkind : ∀ session f,
      kind.list (PfcpSession.setCpFseid session f) = kind.list session) (id : υ → α)
    (apply : ρ → υ → ρ) (l : List υ) (p : ℕ) :
    netRule kind r (s.takeFseid r fseid) id apply l p = netRule kind r s id apply l p := by
  obtain ⟨hlist, hcell, -⟩ := ruleIds_takeFseid kind r fseid s hkind
  unfold netRule getRule
  simp only [hlist, hcell]

/-- **In every state that requests lead to**, the pointers are those of rules that were made. -/
theorem pointersMade_run (cfg : UpfCfg) (reqs : List SessionRequest) (r : ℕ) :
    PointersMade r (run (switchStep cfg) .init reqs) where
  pdrs := (Apart.init.run cfg reqs).pdrsMade r
  fars := (Apart.init.run cfg reqs).farsMade r
  stored := by
    have hinit : TableBelow 0 .init := ⟨le_rfl, by simp [PfcpSwitch.init]⟩
    rintro key p ⟨l, hl, hp⟩
    exact (hinit.run cfg reqs).stored key l p hl hp

section

/-- A session with one FAR and one ACCESS PDR. -/
def oneSession : PfcpSwitch :=
  switchStep exampleCfg .init (.establishment (establish 1 [accessPdr 1 10 7]))

/-- A request that removes some PDRs and changes the precedence of others. -/
def modify (removes : List UInt16) (updates : List UInt16) : ModificationRequest :=
  ⟨1, none, removes.map some, [], [], [], updates.map fun id => ⟨id, none, some 20, none, none, none, none⟩, []⟩

/-- A request that makes a FAR and a CORE PDR, and changes the precedence of the ACCESS PDR. -/
def createAndChange : ModificationRequest :=
  { modify [] [1] with createFars := [dropFar 2], createPdrs := [{ corePdr 2 10 5 with farId := some 2 }] }

end

end Oai5g.Upf
