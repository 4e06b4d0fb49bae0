import Oai5g.Upf.Precedence

/-!
# What it means that a rule was applied

A Modification Request is a list of operations on rules, in the order of the handler's loops.

* `applyRule`: the turn of the handler for one of them.
* `HasEffect`: what the operation is to bring about in the lists of the session, the rules and the lookup tables.
* `Effective`: the condition on the state before the turn; **`hasEffect_iff`**.
* `AppliesEach`: every turn of a list has its effect; `appliesEach_iff`.
* `applyRules`: all operations of a request are carried out.
-/

namespace Oai5g.Upf

/-- One operation of a Modification Request. -/
inductive RuleOperation
  | removePdr (id : Option UInt16)
  | removeFar (id : Option UInt32)
  | createFar (c : CreateFar)
  | createPdr (c : CreatePdr)
  | updatePdr (u : UpdatePdr)
  | updateFar (u : UpdateFar)

/-- The operations of a request, in the order of the loops. -/
def ModificationRequest.operations (req : ModificationRequest) : List RuleOperation :=
  req.removePdrs.map .removePdr ++ req.removeFars.map .removeFar ++ req.createFars.map .createFar ++
    req.createPdrs.map .createPdr ++ req.updatePdrs.map .updatePdr ++ req.updateFars.map .updateFar

namespace PfcpSwitch

/-- The turn of the handler for one operation: `none` where it fails. -/
def applyRule (cfg : UpfCfg) (r : ℕ) (s : PfcpSwitch) : RuleOperation → Option PfcpSwitch
  | .removePdr id => (s.removePdr r id).toOption
  | .removeFar id => (s.removeFar r id).toOption
  | .createFar c => (s.createFar r c).toOption
  | .createPdr c => (s.createPdr cfg r c).toOption.map Prod.fst
  | .updatePdr u => s.updatePdr r u
  | .updateFar u => s.updateFar r u

/-- A PDR is in the lookup table under a key. -/
def StoredUnder (s : PfcpSwitch) (key : LookupKey) (p : ℕ) : Prop := ∃ l, s.pdrTable key = some l ∧ p ∈ l

end PfcpSwitch

open PfcpSwitch

/-! ## The effects -/

/-- The FAR has what the Create FAR gives. -/
structure FarMade (c : CreateFar) (far : PfcpFar) : Prop where
  farId : c.farId = some far.farId
  applyAction : c.applyAction = some far.applyAction
  forwardingParameters : far.forwardingParameters = c.forwardingParameters
  duplicatingParameters : far.duplicatingParameters = c.duplicatingParameters
  barId : far.barId = c.barId

/-- The UPF is to choose the F-TEID of a PDI. -/
def Pdi.AsksFteid (pdi : Pdi) : Prop :=
  pdi.sourceInterface = some INTERFACE_VALUE_ACCESS ∧ ∃ f, pdi.localFteid = some f ∧ f.ch = true

/-- The PDR of a session has what the Create PDR gives, with an F-TEID that was chosen where that is asked for. -/
structure PdrMade (seid : UInt64) (c : CreatePdr) (pdr : PfcpPdr) : Prop where
  localSeid : pdr.localSeid = seid
  pdrId : c.pdrId = some pdr.pdrId
  precedence : pdr.precedence = c.precedence
  outerHeaderRemoval : pdr.outerHeaderRemoval = c.outerHeaderRemoval
  farId : pdr.farId = c.farId
  urrId : pdr.urrId = c.urrId
  qerId : pdr.qerId = c.qerId
  pdi : ∃ pdi, c.pdi = some pdi ∧ (¬ pdi.AsksFteid → pdr.pdi = some pdi) ∧
    (pdi.AsksFteid → ∃ f : Fteid, f.ch = false ∧ pdr.pdi = some { pdi with localFteid := some f })

/-- Each part of a PDR is the one that an Update PDR gives, and the old one where it gives none. -/
structure PdrUpdated (u : UpdatePdr) (old new : PfcpPdr) : Prop where
  localSeid : new.localSeid = old.localSeid
  pdrId : new.pdrId = old.pdrId
  precedence : new.precedence = u.precedence.or old.precedence
  pdi : new.pdi = u.pdi.or old.pdi
  outerHeaderRemoval : new.outerHeaderRemoval = u.outerHeaderRemoval.or old.outerHeaderRemoval
  farId : new.farId = u.farId.or old.farId
  urrId : new.urrId = u.urrId.or old.urrId
  qerId : new.qerId = u.qerId.or old.qerId

/-- The same for Update Forwarding Parameters. -/
structure ForwardingUpdated (u : UpdateForwardingParameters) (old new : ForwardingParameters) : Prop where
  destinationInterface : new.destinationInterface = u.destinationInterface.or old.destinationInterface
  networkInstance : new.networkInstance = u.networkInstance.or old.networkInstance
  redirectInformation : new.redirectInformation = old.redirectInformation
  outerHeaderCreation : new.outerHeaderCreation = u.outerHeaderCreation.or old.outerHeaderCreation
  transportLevelMarking : new.transportLevelMarking = u.transportLevelMarking.or old.transportLevelMarking
  forwardingPolicy : new.forwardingPolicy = u.forwardingPolicy.or old.forwardingPolicy
  headerEnrichment : new.headerEnrichment = u.headerEnrichment.or old.headerEnrichment
  linkedTrafficEndpointId : new.linkedTrafficEndpointId = u.linkedTrafficEndpointId.or old.linkedTrafficEndpointId
  proxying : new.proxying = old.proxying

/-- The same for Update Duplicating Parameters. -/
structure DuplicatingUpdated (u old new : DuplicatingParameters) : Prop where
  destinationInterface : new.destinationInterface = u.destinationInterface.or old.destinationInterface
  outerHeaderCreation : new.outerHeaderCreation = u.outerHeaderCreation.or old.outerHeaderCreation
  transportLevelMarking : new.transportLevelMarking = u.transportLevelMarking.or old.transportLevelMarking
  forwardingPolicy : new.forwardingPolicy = u.forwardingPolicy.or old.forwardingPolicy

/-- Each part of a FAR is the one that an Update FAR gives, and the old one where it gives none. Parameters that were
not there start empty. -/
structure FarUpdated (u : UpdateFar) (old new : PfcpFar) : Prop where
  farId : new.farId = old.farId
  applyAction : new.applyAction = u.applyAction.getD old.applyAction
  noForwarding : u.updateForwardingParameters = none → new.forwardingParameters = old.forwardingParameters
  forwarding : ∀ f, u.updateForwardingParameters = some f → ∃ g, new.forwardingParameters = some g ∧
    ForwardingUpdated f (old.forwardingParameters.getD .empty) g
  noDuplicating : u.updateDuplicatingParameters = none → new.duplicatingParameters = old.duplicatingParameters
  duplicating : ∀ d, u.updateDuplicatingParameters = some d → ∃ g, new.duplicatingParameters = some g ∧
    DuplicatingUpdated d (old.duplicatingParameters.getD ⟨none, none, none, none⟩) g
  barId : new.barId = u.barId.or old.barId

/-- The FARs of the session, the other PDRs and their places in the tables stay. -/
structure OnlyPdr (r p : ℕ) (s s' : PfcpSwitch) : Prop where
  fars : (s'.session r).fars = (s.session r).fars
  far : ∀ q, s'.far q = s.far q
  pdr : ∀ q, q ≠ p → s'.pdr q = s.pdr q
  stored : ∀ key q, q ≠ p → (s'.StoredUnder key q ↔ s.StoredUnder key q)

/-- The PDRs of the session, the tables and the other FARs stay. -/
structure OnlyFar (r p : ℕ) (s s' : PfcpSwitch) : Prop where
  pdrs : (s'.session r).pdrs = (s.session r).pdrs
  pdr : ∀ q, s'.pdr q = s.pdr q
  far : ∀ q, q ≠ p → s'.far q = s.far q
  pdrTable : s'.pdrTable = s.pdrTable

/-- **The effect of an operation.** A removed rule is in the session no more, and a PDR in no table either; a created
one is new, as the request gives it, and a PDR is in the tables under its key and nowhere else; an updated one, the
first with the id, has what the update gives, and a PDR with a new PDI is in the tables under its new key. Nothing
else changes. -/
def HasEffect (r : ℕ) (s : PfcpSwitch) (op : RuleOperation) (s' : PfcpSwitch) : Prop :=
  match op with
  | .removePdr id => ∃ i p, id = some i ∧ s.getPdr r i = some p ∧
      (s'.session r).pdrs = (s.session r).pdrs.erase p ∧ (∀ key, ¬ s'.StoredUnder key p) ∧ OnlyPdr r p s s'
  | .removeFar id => ∃ i p, id = some i ∧ s.getFar r i = some p ∧
      (s'.session r).fars = (s.session r).fars.erase p ∧ OnlyFar r p s s'
  | .createFar c => ∃ p, p ∉ (s.session r).fars ∧ (s'.session r).fars = (s.session r).fars ++ [p] ∧
      FarMade c (s'.far p) ∧ OnlyFar r p s s'
  | .createPdr c => ∃ p key, p ∉ (s.session r).pdrs ∧ (s'.session r).pdrs = (s.session r).pdrs ++ [p] ∧
      PdrMade (s.session r).seid c (s'.pdr p) ∧ (s'.pdr p).key = some key ∧
      (∀ k, s'.StoredUnder k p ↔ k = key) ∧ OnlyPdr r p s s'
  | .updatePdr u => ∃ p, s.getPdr r u.pdrId = some p ∧ (s'.session r).pdrs = (s.session r).pdrs ∧
      PdrUpdated u (s.pdr p) (s'.pdr p) ∧
      (u.pdi = none → ∀ key, s'.StoredUnder key p ↔ s.StoredUnder key p) ∧
      (u.pdi ≠ none → ∀ key, s'.StoredUnder key p ↔ (s'.pdr p).key = some key) ∧ OnlyPdr r p s s'
  | .updateFar u => ∃ p, s.getFar r u.farId = some p ∧ (s'.session r).fars = (s.session r).fars ∧
      FarUpdated u (s.far p) (s'.far p) ∧ OnlyFar r p s s'

/-- Every element of a list is applied, in order. -/
def applyEach {α : Type} (f : PfcpSwitch → α → Option PfcpSwitch) : List α → PfcpSwitch →
    Option PfcpSwitch
  | [], s => some s
  | a :: l, s => (f s a).bind (applyEach f l)

/-- Every operation of a list has its effect when its turn comes. -/
def AppliesEach (cfg : UpfCfg) (r : ℕ) : List RuleOperation → PfcpSwitch → PfcpSwitch → Prop
  | [], s, s' => s' = s
  | op :: l, s, s' => ∃ t, s.applyRule cfg r op = some t ∧ HasEffect r s op t ∧ AppliesEach cfg r l t s'

/-! ## The condition -/

/-- The operation can have its effect in the state that it finds: a PDR to be removed is in no table; a new one finds
no list under its key, or a PDR of lower precedence in it; a new PDI has the key that the PDR is stored under; a FAR
whose update has no Apply Action has none set, and one whose Duplicating Parameters are updated has some. -/
def Effective (cfg : UpfCfg) (r : ℕ) (s : PfcpSwitch) (op : RuleOperation) : Prop :=
  match op with
  | .removePdr id => ∀ i p, id = some i → s.getPdr r i = some p → ∀ key, ¬ s.StoredUnder key p
  | .createPdr c => ∀ x, checkCreatePdr c = .ok x → InsertEffective s (keyFor s.teidN3Generator x)
      (pdrFor cfg c s.teidN3Generator (s.session r).seid x)
  | .updatePdr u => ∀ p pdi, s.getPdr r u.pdrId = some p → u.pdi = some pdi →
      ∀ key, s.StoredUnder key p ↔ pdi.key = some key
  | .updateFar u => ∀ p, s.getFar r u.farId = some p →
      (u.applyAction = none → (s.far p).applyAction = .zero) ∧
        (u.updateDuplicatingParameters ≠ none → (s.far p).duplicatingParameters ≠ none)
  | .removeFar _ | .createFar _ => True

/-- Every operation of a list meets the condition in the state that its turn finds. -/
def EffectiveEach (cfg : UpfCfg) (r : ℕ) : List RuleOperation → PfcpSwitch → Prop
  | [], _ => True
  | op :: l, s => Effective cfg r s op ∧ ∀ t, s.applyRule cfg r op = some t → EffectiveEach cfg r l t

/-- The pointers of a session are those of rules that were made. -/
structure ListsMade (r : ℕ) (s : PfcpSwitch) : Prop where
  pdrs : ∀ p ∈ (s.session r).pdrs, p < s.pdrs.next
  fars : ∀ p ∈ (s.session r).fars, p < s.fars.next

/-- And those of the tables as well. -/
structure PointersMade (r : ℕ) (s : PfcpSwitch) : Prop extends ListsMade r s where
  stored : ∀ key p, s.StoredUnder key p → p < s.pdrs.next

/-! ## One operation -/

section

variable {cfg : UpfCfg} {r : ℕ} {s s' : PfcpSwitch}

theorem modifySession_congr (r : ℕ) (s : PfcpSwitch) {f g : PfcpSession → PfcpSession}
    (h : f (s.session r) = g (s.session r)) : s.modifySession r f = s.modifySession r g := by
  have : s.sessions.modify r f = s.sessions.modify r g := by
    unfold Heap.modify
    rw [show f (s.sessions.cell r) = g (s.sessions.cell r) from h]
  unfold modifySession
  rw [this]

theorem eraseP_eq_erase {found : ℕ → Bool} {p : ℕ} {l : List ℕ} (hl : l.find? found = some p) :
    l.eraseP found = l.erase p := by
  induction l with
  | nil => cases hl
  | cons q l ih =>
    by_cases hq : found q = true
    · rw [List.find?_cons_of_pos hq] at hl
      obtain rfl := Option.some.inj hl
      rw [List.eraseP_cons_of_pos hq, List.erase_cons_head]
    · rw [List.find?_cons_of_neg hq] at hl
      have hne : q ≠ p := by
        rintro rfl
        exact hq (List.find?_some hl)
      rw [List.eraseP_cons_of_neg hq, List.erase_cons_tail (by simpa using hne), ih hl]

section

variable {ρ α : Type} [DecidableEq α] {kind : RuleKind ρ α}

theorem removeRule_ok {id : Option α} (h : (s.removeRule kind r id).toOption = some s') :
    ∃ i p, id = some i ∧ s.getRule kind r i = some p ∧
      s' = s.modifySession r fun session => kind.setList session ((kind.list (s.session r)).erase p) := by
  unfold removeRule at h
  cases id with
  | none => cases h
  | some i =>
    dsimp only at h
    cases hp : s.getRule kind r i with
    | none =>
      rw [hp] at h
      cases h
    | some p =>
      rw [hp] at h
      cases h
      refine ⟨i, p, rfl, hp, ?_⟩
      refine modifySession_congr r s ?_
      rw [eraseP_eq_erase hp]

theorem updateRule_ok {i : α} {g : ρ → ρ} (h : s.updateRule kind r i g = some s') :
    ∃ p, s.getRule kind r i = some p ∧ s' = kind.modify s p g := by
  obtain ⟨p, hp, rfl⟩ := Option.map_eq_some_iff.mp h
  exact ⟨p, hp, rfl⟩

end

/-- **Removing a PDR.** -/
theorem hasEffect_removePdr_iff {id : Option UInt16} (h : s.applyRule cfg r (.removePdr id) = some s') :
    HasEffect r s (.removePdr id) s' ↔ Effective cfg r s (.removePdr id) := by
  have hrule : (s.removeRule pdrKind r id).toOption = some s' := h
  obtain ⟨i, p, rfl, hp, rfl⟩ := removeRule_ok hrule
  constructor
  · rintro ⟨j, q, hj, hq, -, hstored, -⟩ j' q' hj' hq' key
    obtain rfl := Option.some.inj (hj.symm.trans hj')
    obtain rfl := Option.some.inj (hq.symm.trans hq')
    exact hstored key
  · intro heffective
    refine ⟨i, p, rfl, hp, ?_, heffective i p rfl hp, ?_, fun _ => rfl, fun _ _ => rfl, fun _ _ _ => .rfl⟩
    · rw [modifySession_session_self]
      rfl
    · rw [modifySession_session_self]
      rfl

/-- **Removing a FAR.** -/
theorem hasEffect_removeFar {id : Option UInt32} (h : s.applyRule cfg r (.removeFar id) = some s') :
    HasEffect r s (.removeFar id) s' := by
  have hrule : (s.removeRule farKind r id).toOption = some s' := h
  obtain ⟨i, p, rfl, hp, rfl⟩ := removeRule_ok hrule
  refine ⟨i, p, rfl, hp, ?_, ?_, fun _ => rfl, fun _ _ => rfl, rfl⟩
  · rw [modifySession_session_self]
    rfl
  · rw [modifySession_session_self]
    rfl

/-- **Creating a FAR.** -/
theorem hasEffect_createFar (hs : PointersMade r s) {c : CreateFar}
    (h : s.applyRule cfg r (.createFar c) = some s') : HasEffect r s (.createFar c) s' := by
  change (s.createFar r c).toOption = some s' at h
  unfold createFar at h
  cases hc : checkCreateFar c with
  | error e =>
    rw [hc] at h
    cases h
  | ok u =>
    rw [hc] at h
    obtain rfl := Option.some.inj h
    obtain ⟨i, hi⟩ : ∃ i, c.farId = some i := by
      cases hid : c.farId with
      | none =>
        unfold checkCreateFar at hc
        rw [hid] at hc
        cases hc
      | some i => exact ⟨i, rfl⟩
    obtain ⟨a, ha⟩ : ∃ a, c.applyAction = some a := by
      cases haction : c.applyAction with
      | none =>
        unfold checkCreateFar at hc
        rw [hi, haction] at hc
        cases hc
      | some a => exact ⟨a, rfl⟩
    have hfar : (s.addFar r (.ofCreate c)).far s.fars.next = .ofCreate c := Heap.alloc_cell_next ..
    refine ⟨s.fars.next, fun hmem => (hs.fars _ hmem).false, ?_, ?_, ?_, fun _ => rfl,
      fun q hq => addFar_far_of_ne s r q _ hq, rfl⟩
    · rw [addFar_session_self]
      rfl
    · rw [hfar]
      exact ⟨by simp [PfcpFar.ofCreate, hi], by simp [PfcpFar.ofCreate, ha], rfl, rfl, rfl⟩
    · rw [addFar_session_self]
      rfl

theorem storedUnder_addPdr {key : LookupKey} {pdr : PfcpPdr} (k : LookupKey) (q : ℕ) :
    (s.addPdr r key pdr).StoredUnder k q ↔ s.StoredUnder k q ∨
      k = key ∧ ((s.pdrTable key = none ∧ q = s.pdrs.next) ∨ ∃ l, s.pdrTable key = some l ∧
        q ∈ ({ s with pdrs := (s.pdrs.alloc pdr).1 } : PfcpSwitch).insertPdr s.pdrs.next l) := by
  unfold StoredUnder
  by_cases hk : k = key
  · subst hk
    cases ht : s.pdrTable k with
    | none => simp [addPdr_pdrTable_of_none s r k pdr ht]
    | some l =>
      rw [addPdr_pdrTable_of_some s r k pdr ht]
      simp only [Option.some_inj, exists_eq_left', true_and, reduceCtorEq, false_and, false_or]
      exact ⟨.inr, fun h => h.elim mem_insertPdr_of_mem id⟩
  · rw [addPdr_pdrTable_of_ne s r key pdr hk]
    simp [hk]

theorem storedUnder_addPdr_next (hs : PointersMade r s) {key : LookupKey} {pdr : PfcpPdr} (k : LookupKey) :
    (s.addPdr r key pdr).StoredUnder k s.pdrs.next ↔ k = key ∧ InsertEffective s key pdr := by
  have hnot : ∀ k, ¬ s.StoredUnder k s.pdrs.next := fun k hk => (hs.stored k _ hk).false
  rw [storedUnder_addPdr, or_iff_right (hnot k)]
  refine and_congr_right fun _ => ?_
  unfold InsertEffective
  cases ht : s.pdrTable key with
  | none => simp
  | some l =>
    have hfresh : s.pdrs.next ∉ l := fun hmem => hnot key ⟨l, ht, hmem⟩
    have hlt : ∀ q ∈ l, ((({ s with pdrs := (s.pdrs.alloc pdr).1 } : PfcpSwitch).pdr q).lt
        (({ s with pdrs := (s.pdrs.alloc pdr).1 } : PfcpSwitch).pdr s.pdrs.next) = true ↔
          (s.pdr q).lt pdr = true) := by
      intro q hq
      have hne : q ≠ s.pdrs.next := fun h => hfresh (h ▸ hq)
      simp only [PfcpSwitch.pdr, Heap.alloc_cell_next, Heap.alloc_cell_of_ne _ _ hne]
    simp only [reduceCtorEq, false_and, false_or, Option.some_inj, exists_eq_left', forall_eq']
    constructor
    · intro hmem
      by_contra hno
      rw [insertPdr_eq_self fun hless => hno ?_] at hmem
      · exact hfresh hmem
      · obtain ⟨q, hq, h⟩ := hless
        exact ⟨q, hq, (hlt q hq).mp h⟩
    · rintro ⟨q, hq, h⟩
      exact self_mem_insertPdr ⟨q, hq, (hlt q hq).mpr h⟩

theorem storedUnder_addPdr_of_ne {key : LookupKey} {pdr : PfcpPdr} {q : ℕ} (k : LookupKey) (hq : q ≠ s.pdrs.next) :
    (s.addPdr r key pdr).StoredUnder k q ↔ s.StoredUnder k q := by
  rw [storedUnder_addPdr]
  refine ⟨fun h => h.elim id ?_, .inl⟩
  rintro ⟨rfl, ⟨-, h⟩ | ⟨l, hl, hmem⟩⟩
  · exact absurd h hq
  · exact ⟨l, hl, (mem_insertPdr hmem).resolve_left hq⟩

theorem pdrMade_pdrFor {c : CreatePdr} {x : Fteid ⊕ UInt32} (hx : checkCreatePdr c = .ok x) (n : ℕ) (seid : UInt64) :
    PdrMade seid c (pdrFor cfg c n seid x) := by
  obtain ⟨i, hi⟩ : ∃ i, c.pdrId = some i := by
    cases hid : c.pdrId with
    | none =>
      unfold checkCreatePdr at hx
      rw [hid] at hx
      cases hx
    | some i => exact ⟨i, rfl⟩
  have hid : c.pdrId = some (c.pdrId.getD 0) := by rw [hi]; rfl
  cases x with
  | inl f =>
    obtain ⟨pdi, hpdi, hsource, hfteid⟩ := checkCreatePdr_inl c hx
    by_cases hch : f.ch = true
    · have hmade : pdrFor cfg c n seid (.inl f) =
          (PfcpPdr.ofCreate c seid).setLocalFteid (generateFteidN3 cfg { init with teidN3Generator := n }) := by
        simp [pdrFor, hch]
      rw [hmade]
      refine ⟨rfl, hid, rfl, rfl, rfl, rfl, rfl, pdi, hpdi, fun hno => absurd ⟨hsource, f, hfteid, hch⟩ hno,
        fun _ => ⟨generateFteidN3 cfg { init with teidN3Generator := n }, ?_, ?_⟩⟩
      · unfold generateFteidN3
        split_ifs <;> rfl
      · simp [PfcpPdr.setLocalFteid, PfcpPdr.ofCreate, hpdi]
    · have hmade : pdrFor cfg c n seid (.inl f) = PfcpPdr.ofCreate c seid := by simp [pdrFor, hch]
      rw [hmade]
      refine ⟨rfl, hid, rfl, rfl, rfl, rfl, rfl, pdi, hpdi, fun _ => hpdi, fun hasks => ?_⟩
      obtain ⟨-, g, hg, hgch⟩ := hasks
      obtain rfl := Option.some.inj (hg.symm.trans hfteid)
      exact absurd hgch hch
  | inr ueIp =>
    obtain ⟨pdi, ue, hpdi, hsource, -⟩ := checkCreatePdr_inr c hx
    refine ⟨rfl, hid, rfl, rfl, rfl, rfl, rfl, pdi, hpdi, fun _ => hpdi, fun hasks => ?_⟩
    exact absurd (Option.some.inj (hsource.symm.trans hasks.1)) (by decide)

/-- **Creating a PDR.** -/
theorem hasEffect_createPdr_iff (hs : PointersMade r s) {c : CreatePdr}
    (h : s.applyRule cfg r (.createPdr c) = some s') :
    HasEffect r s (.createPdr c) s' ↔ Effective cfg r s (.createPdr c) := by
  change (s.createPdr cfg r c).toOption.map Prod.fst = some s' at h
  cases hx : checkCreatePdr c with
  | error e =>
    rw [(createPdr_eq cfg r c s).1 e hx] at h
    cases h
  | ok x =>
    obtain ⟨fteid, heq⟩ := (createPdr_eq cfg r c s).2 x hx
    rw [heq] at h
    obtain rfl := Option.some.inj h
    generalize hpdr : pdrFor cfg c s.teidN3Generator (s.session r).seid x = pdr
    generalize hkey : keyFor s.teidN3Generator x = key
    have hpdrKey : pdr.key = some key := by
      rw [← hpdr, ← hkey]
      exact pdrFor_key cfg c hx _ _
    have hmade : PdrMade (s.session r).seid c pdr := hpdr ▸ pdrMade_pdrFor hx _ _
    have heffective : Effective cfg r s (.createPdr c) ↔ InsertEffective s key pdr := by
      constructor
      · exact fun h => hpdr ▸ hkey ▸ h x hx
      · intro h y hy
        obtain rfl : x = y := Except.ok.inj (hx.symm.trans hy)
        rw [hpdr, hkey]
        exact h
    rw [heffective]
    -- only the number of TEIDs differs
    have hs₁ : PointersMade r { s with teidN3Generator := teidsAfter s.teidN3Generator x } :=
      ⟨⟨hs.pdrs, hs.fars⟩, hs.stored⟩
    generalize ht : ({ s with teidN3Generator := teidsAfter s.teidN3Generator x } : PfcpSwitch) = t at *
    have hsession : t.session r = s.session r := by rw [← ht]; rfl
    have hnext : t.pdrs.next = s.pdrs.next := by rw [← ht]
    have hinsert : InsertEffective t key pdr ↔ InsertEffective s key pdr := by rw [← ht]; rfl
    have hstored : ∀ k q, t.StoredUnder k q ↔ s.StoredUnder k q := by rw [← ht]; exact fun _ _ => .rfl
    have hcells : (∀ q, t.pdr q = s.pdr q) ∧ ∀ q, t.far q = s.far q := by rw [← ht]; exact ⟨fun _ => rfl, fun _ => rfl⟩
    have hlist : ((t.addPdr r key pdr).session r).pdrs = (s.session r).pdrs ++ [t.pdrs.next] := by
      rw [addPdr_session_self, hsession]
      rfl
    have hpdrNext : (t.addPdr r key pdr).pdr t.pdrs.next = pdr := addPdr_pdr_next ..
    constructor
    · rintro ⟨p, k, -, hp, -, -, hplace, -⟩
      obtain rfl : t.pdrs.next = p := by
        simpa using hlist.symm.trans hp
      have hin := (storedUnder_addPdr_next hs₁ k).mp ((hplace k).mpr rfl)
      exact hinsert.mp hin.2
    · intro hin
      refine ⟨t.pdrs.next, key, ?_, hlist, ?_, ?_, fun k => ?_, ?_, hcells.2, fun q hq => ?_, fun k q hq => ?_⟩
      · rw [hnext]
        exact fun hmem => (hs.pdrs _ hmem).false
      · rw [hpdrNext]
        exact hmade
      · rw [hpdrNext]
        exact hpdrKey
      · rw [storedUnder_addPdr_next hs₁, hinsert]
        exact and_iff_left hin
      · rw [addPdr_session_self, hsession]
        rfl
      · rw [addPdr_pdr_of_ne t r q key pdr hq]
        exact hcells.1 q
      · rw [storedUnder_addPdr_of_ne k hq]
        exact hstored k q

/-- **Updating a PDR.** -/
theorem hasEffect_updatePdr_iff {u : UpdatePdr} (h : s.applyRule cfg r (.updatePdr u) = some s') :
    HasEffect r s (.updatePdr u) s' ↔ Effective cfg r s (.updatePdr u) := by
  have hrule : s.updateRule pdrKind r u.pdrId _ = some s' := h
  obtain ⟨p, hp, rfl⟩ := updateRule_ok hrule
  have hpdr : (pdrKind.modify s p fun pdr => pdr.update u).pdr p = (s.pdr p).update u := modifyPdr_pdr_self ..
  have hkey : ∀ pdi, u.pdi = some pdi → ((s.pdr p).update u).key = pdi.key := by
    intro pdi hpdi
    simp [PfcpPdr.key, PfcpPdr.update, hpdi]
  constructor
  · rintro ⟨q, hq, -, -, -, hplace, -⟩ q' pdi hq' hpdi key
    obtain rfl := Option.some.inj (hp.symm.trans hq)
    obtain rfl := Option.some.inj (hp.symm.trans hq')
    have := hplace (by rw [hpdi]; exact Option.some_ne_none pdi) key
    rw [hpdr, hkey pdi hpdi] at this
    exact this
  · intro heffective
    refine ⟨p, hp, rfl, ?_, fun _ _ => .rfl, fun hpdi key => ?_, rfl, fun _ => rfl,
      fun q hq => modifyPdr_pdr_of_ne s q p _ hq, fun _ _ _ => .rfl⟩
    · rw [hpdr]
      exact ⟨rfl, rfl, rfl, rfl, rfl, rfl, rfl, rfl⟩
    · obtain ⟨pdi, hpdi⟩ := Option.ne_none_iff_exists'.mp hpdi
      rw [hpdr, hkey pdi hpdi]
      exact heffective p pdi hp hpdi key

/-- **Updating a FAR.** -/
theorem farUpdated_iff {u : UpdateFar} {far : PfcpFar} : FarUpdated u far (far.update u) ↔
    (u.applyAction = none → far.applyAction = .zero) ∧
      (u.updateDuplicatingParameters ≠ none → far.duplicatingParameters ≠ none) := by
  constructor
  · intro h
    constructor
    · intro hnone
      have haction := h.applyAction
      simp only [PfcpFar.update, hnone, Option.getD_none] at haction
      exact haction.symm
    · intro hsome hnone
      obtain ⟨d, hd⟩ := Option.ne_none_iff_exists'.mp hsome
      obtain ⟨g, hg, -⟩ := h.duplicating d hd
      simp [PfcpFar.update, hd, hnone] at hg
  · rintro ⟨haction, hduplicating⟩
    constructor
    · rfl
    · cases ha : u.applyAction with
      | none => simp [PfcpFar.update, ha, haction ha]
      | some a => simp [PfcpFar.update, ha]
    · intro hnone
      simp [PfcpFar.update, hnone]
    · intro f hf
      refine ⟨(far.forwardingParameters.getD .empty).update f, by simp [PfcpFar.update, hf], ?_⟩
      constructor <;> rfl
    · intro hnone
      simp [PfcpFar.update, hnone]
    · intro d hd
      obtain ⟨old, hold⟩ := Option.ne_none_iff_exists'.mp (hduplicating (by rw [hd]; exact Option.some_ne_none d))
      refine ⟨old.update d, by simp [PfcpFar.update, hd, hold], ?_⟩
      rw [hold]
      constructor <;> rfl
    · rfl

theorem hasEffect_updateFar_iff {u : UpdateFar} (h : s.applyRule cfg r (.updateFar u) = some s') :
    HasEffect r s (.updateFar u) s' ↔ Effective cfg r s (.updateFar u) := by
  have hrule : s.updateRule farKind r u.farId _ = some s' := h
  obtain ⟨p, hp, rfl⟩ := updateRule_ok hrule
  have hfar : (farKind.modify s p fun far => far.update u).far p = (s.far p).update u := modifyFar_far_self ..
  constructor
  · rintro ⟨q, hq, -, hupdated, -⟩ q' hq'
    obtain rfl := Option.some.inj (hp.symm.trans hq)
    obtain rfl := Option.some.inj (hp.symm.trans hq')
    rw [hfar] at hupdated
    exact farUpdated_iff.mp hupdated
  · intro heffective
    have hothers : ∀ q, q ≠ p → (farKind.modify s p fun far => far.update u).far q = s.far q := fun q hq =>
      farKind.cell_modify_of_ne s p (fun far => far.update u) q hq
    refine ⟨p, hp, rfl, ?_, rfl, fun _ => rfl, hothers, rfl⟩
    rw [hfar]
    exact farUpdated_iff.mpr (heffective p hp)

/-- **An operation that is carried out has its effect exactly where it can.** -/
theorem hasEffect_iff (hs : PointersMade r s) {op : RuleOperation} (h : s.applyRule cfg r op = some s') :
    HasEffect r s op s' ↔ Effective cfg r s op := by
  cases op with
  | removePdr id => exact hasEffect_removePdr_iff h
  | removeFar id => exact iff_of_true (hasEffect_removeFar h) trivial
  | createFar c => exact iff_of_true (hasEffect_createFar hs h) trivial
  | createPdr c => exact hasEffect_createPdr_iff hs h
  | updatePdr u => exact hasEffect_updatePdr_iff h
  | updateFar u => exact hasEffect_updateFar_iff h

theorem PointersMade.applyRule (hs : PointersMade r s) {op : RuleOperation} (h : s.applyRule cfg r op = some s') :
    PointersMade r s' := by
  cases op with
  | removePdr id =>
    have hrule : (s.removeRule pdrKind r id).toOption = some s' := h
    obtain ⟨i, p, rfl, -, rfl⟩ := removeRule_ok hrule
    refine ⟨⟨fun q hq => ?_, fun q hq => ?_⟩, hs.stored⟩
    · rw [modifySession_session_self] at hq
      exact hs.pdrs q (List.mem_of_mem_erase hq)
    · rw [modifySession_session_self] at hq
      exact hs.fars q hq
  | removeFar id =>
    have hrule : (s.removeRule farKind r id).toOption = some s' := h
    obtain ⟨i, p, rfl, -, rfl⟩ := removeRule_ok hrule
    refine ⟨⟨fun q hq => ?_, fun q hq => ?_⟩, hs.stored⟩
    · rw [modifySession_session_self] at hq
      exact hs.pdrs q hq
    · rw [modifySession_session_self] at hq
      exact hs.fars q (List.mem_of_mem_erase hq)
  | createFar c =>
    obtain ⟨p, -, -, -, honly⟩ := hasEffect_createFar hs h
    change (s.createFar r c).toOption = some s' at h
    unfold createFar at h
    cases hc : checkCreateFar c with
    | error e =>
      rw [hc] at h
      cases h
    | ok u =>
      rw [hc] at h
      obtain rfl := Option.some.inj h
      refine ⟨⟨fun q hq => hs.pdrs q (honly.pdrs ▸ hq), fun q hq => ?_⟩, hs.stored⟩
      rw [addFar_session_self] at hq
      rcases List.mem_append.mp hq with hq | hq
      · exact (hs.fars q hq).trans (Nat.lt_succ_self _)
      · exact (List.mem_singleton.mp hq).trans_lt (Nat.lt_succ_self _)
  | createPdr c =>
    change (s.createPdr cfg r c).toOption.map Prod.fst = some s' at h
    cases hx : checkCreatePdr c with
    | error e =>
      rw [(createPdr_eq cfg r c s).1 e hx] at h
      cases h
    | ok x =>
      obtain ⟨fteid, heq⟩ := (createPdr_eq cfg r c s).2 x hx
      rw [heq] at h
      obtain rfl := Option.some.inj h
      refine ⟨⟨fun q hq => ?_, fun q hq => ?_⟩, fun key q hq => ?_⟩
      · rw [addPdr_session_self] at hq
        rcases List.mem_append.mp hq with hq | hq
        · exact (hs.pdrs q hq).trans (Nat.lt_succ_self _)
        · exact (List.mem_singleton.mp hq).trans_lt (Nat.lt_succ_self _)
      · rw [addPdr_session_self] at hq
        exact hs.fars q hq
      · by_cases hnew : q = s.pdrs.next
        · exact hnew.trans_lt (Nat.lt_succ_self _)
        · have hold : ({ s with teidN3Generator := teidsAfter s.teidN3Generator x } : PfcpSwitch).StoredUnder key q :=
            (storedUnder_addPdr_of_ne (s := { s with teidN3Generator := teidsAfter s.teidN3Generator x }) key hnew).mp hq
          exact (hs.stored key q hold).trans (Nat.lt_succ_self _)
  | updatePdr u =>
    have hrule : s.updateRule pdrKind r u.pdrId _ = some s' := h
    obtain ⟨p, -, rfl⟩ := updateRule_ok hrule
    exact ⟨⟨hs.pdrs, hs.fars⟩, hs.stored⟩
  | updateFar u =>
    have hrule : s.updateRule farKind r u.farId _ = some s' := h
    obtain ⟨p, -, rfl⟩ := updateRule_ok hrule
    exact ⟨⟨hs.pdrs, hs.fars⟩, hs.stored⟩

/-- **Every turn has its effect exactly when the turns go through and each meets the condition.** -/
theorem appliesEach_iff (hs : PointersMade r s) {l : List RuleOperation} :
    AppliesEach cfg r l s s' ↔
      applyEach (fun s op => s.applyRule cfg r op) l s = some s' ∧ EffectiveEach cfg r l s := by
  induction l generalizing s with
  | nil => exact ⟨fun h => ⟨congrArg some h.symm, trivial⟩, fun h => (Option.some.inj h.1).symm⟩
  | cons op l ih =>
    constructor
    · rintro ⟨t, ht, heffect, hrest⟩
      obtain ⟨happly, heffective⟩ := (ih (hs.applyRule ht)).mp hrest
      refine ⟨?_, (hasEffect_iff hs ht).mp heffect, fun t' ht' => ?_⟩
      · unfold applyEach
        rw [ht]
        exact happly
      · obtain rfl := Option.some.inj (ht.symm.trans ht')
        exact heffective
    · rintro ⟨happly, heffective, hrest⟩
      obtain ⟨t, ht, happly⟩ := Option.bind_eq_some_iff.mp happly
      exact ⟨t, ht, (hasEffect_iff hs ht).mpr heffective, (ih (hs.applyRule ht)).mpr ⟨happly, hrest t ht⟩⟩

end

/-! ## The operations of a request one loop after the other -/

theorem applyEach_append {α : Type} (f : PfcpSwitch → α → Option PfcpSwitch) (l₁ l₂ : List α) (s : PfcpSwitch) :
    applyEach f (l₁ ++ l₂) s = (applyEach f l₁ s).bind (applyEach f l₂) := by
  induction l₁ generalizing s with
  | nil => rfl
  | cons a l₁ ih =>
    change (f s a).bind (applyEach f (l₁ ++ l₂)) = ((f s a).bind (applyEach f l₁)).bind (applyEach f l₂)
    cases f s a with
    | none => rfl
    | some t => exact ih t

theorem applyEach_map {α β : Type} (f : PfcpSwitch → β → Option PfcpSwitch) (g : α → β) (l : List α)
    (s : PfcpSwitch) : applyEach f (l.map g) s = applyEach (fun s a => f s (g a)) l s := by
  induction l generalizing s with
  | nil => rfl
  | cons a l ih =>
    change (f s (g a)).bind (applyEach f (l.map g)) = (f s (g a)).bind (applyEach (fun s a => f s (g a)) l)
    cases f s (g a) with
    | none => rfl
    | some t => exact ih t

/-- Every operation of a request is carried out. -/
def applyRules (cfg : UpfCfg) (r : ℕ) (req : ModificationRequest) (s : PfcpSwitch) : Option PfcpSwitch :=
  applyEach (fun s op => s.applyRule cfg r op) req.operations s

theorem applyRules_eq (cfg : UpfCfg) (r : ℕ) (req : ModificationRequest) (s : PfcpSwitch) :
    applyRules cfg r req s = ((applyEach (fun s id => (s.removePdr r id).toOption) req.removePdrs s)
      |>.bind (applyEach (fun s id => (s.removeFar r id).toOption) req.removeFars)
      |>.bind (applyEach (fun s c => (s.createFar r c).toOption) req.createFars)
      |>.bind (applyEach (fun s c => (s.createPdr cfg r c).toOption.map Prod.fst) req.createPdrs)
      |>.bind (applyEach (fun s u => s.updatePdr r u) req.updatePdrs)
      |>.bind (applyEach (fun s u => s.updateFar r u) req.updateFars)) := by
  have hmap : ∀ {α : Type} (g : α → RuleOperation) (l : List α),
      applyEach (fun s op => s.applyRule cfg r op) (l.map g) =
        applyEach (fun s a => s.applyRule cfg r (g a)) l := fun g l => funext (applyEach_map _ g l)
  unfold applyRules ModificationRequest.operations
  rw [applyEach_append, applyEach_append, applyEach_append, applyEach_append, applyEach_append, hmap, hmap, hmap,
    hmap, hmap, hmap]
  rfl

end Oai5g.Upf
