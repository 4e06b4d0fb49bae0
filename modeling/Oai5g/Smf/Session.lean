import Oai5g.Lib.Run

/-!
# The rules of a PDU session

* `UintGenerator`: `util::uint_generator`; `getUid_spec`.
* `PduSession`: the QoS flow edges of the UPF graph of a session and the generators of its rule ids.
* `N4Work`: a session with the PFCP message that is being built; `createRule`, `updateRule`, `removeRule`.
* `RuleIdsUnique`: an id is on one edge, and its generator knows it; `WorkInv`: what any part of a procedure
  keeps.
-/

namespace Oai5g.Smf

/-! ## Generators -/

/-- `util::uint_generator` of an unsigned type with `bits` bits. -/
structure UintGenerator where
  uidGenerator : ℕ
  uidGenerated : Finset ℕ

namespace UintGenerator

/-- No id is taken. -/
def empty : UintGenerator := ⟨0, ∅⟩

/-- The loop of `get_uid`. After `2 ^ bits` turns all numbers were tried, and it never ends. -/
def search (bits : ℕ) (uidGenerated : Finset ℕ) : ℕ → ℕ → Option ℕ
  | 0, _ => none
  | n + 1, uid =>
    if uid ∈ uidGenerated then search bits uidGenerated n ((uid + 1) % 2 ^ bits) else some uid

/-- `get_uid` -/
def getUid (bits : ℕ) (g : UintGenerator) : Option (UintGenerator × ℕ) :=
  (search bits g.uidGenerated (2 ^ bits) ((g.uidGenerator + 1) % 2 ^ bits)).map fun uid =>
    (⟨uid, insert uid g.uidGenerated⟩, uid)

/-- `free_uid` -/
def freeUid (g : UintGenerator) (uid : ℕ) : UintGenerator := { g with uidGenerated := g.uidGenerated.erase uid }

variable {bits : ℕ} {g g' : UintGenerator} {uid : ℕ}

theorem search_notMem {s : Finset ℕ} {n start : ℕ} (h : search bits s n start = some uid) : uid ∉ s := by
  induction n generalizing start with
  | zero => cases h
  | succ n ih =>
    unfold search at h
    split at h
    · exact ih h
    · cases h
      assumption

/-- **A new id was not in use, and it is now.** -/
theorem getUid_spec (h : g.getUid bits = some (g', uid)) :
    uid ∉ g.uidGenerated ∧ g' = ⟨uid, insert uid g.uidGenerated⟩ := by
  unfold getUid at h
  obtain ⟨found, hfound, heq⟩ := Option.map_eq_some_iff.mp h
  cases heq
  exact ⟨search_notMem hfound, rfl⟩

end UintGenerator

/-! ## Sessions -/

/-- `UPInterfaceType` -/
inductive UPInterfaceType
  | n3 | n6 | n9 | other
  deriving DecidableEq

/-- `fteid_t` -/
structure Fteid where
  chid : Bool := false
  ch : Bool := false
  v6 : Bool := false
  v4 : Bool := false
  teid : UInt32 := 0
  ipv4Address : UInt32 := 0
  ipv6Address : BitVec 128 := 0
  chooseId : UInt8 := 0
  deriving DecidableEq

/-- The rules with ids: `pdr_id`, `far_id` and `urr_id` of an edge. -/
inductive Rule
  | pdr | far | urr
  deriving DecidableEq

/-- The width of the ids. -/
def Rule.bits : Rule → ℕ
  | .pdr => 16
  | .far => 32
  | .urr => 32

/-- `qos_upf_edge`. The id `0` is no id. -/
structure QosUpfEdge where
  precedence : UInt32 := 0
  type : UPInterfaceType
  ruleId : Rule → ℕ := fun _ => 0
  uplink : Bool
  qfi : UInt8
  nextHopFteid : Fteid := {}

/-- `clear_session` -/
def QosUpfEdge.clearSession (x : QosUpfEdge) : QosUpfEdge :=
  { x with ruleId := fun _ => 0, nextHopFteid := {} }

/-- The edges behind the shared pointers of the graph, and the generators of the `session_handler`. -/
structure PduSession where
  edge : ℕ → QosUpfEdge
  generator : Rule → UintGenerator

namespace PduSession

variable (s : PduSession)

/-- A write to the edge of a pointer. -/
def modifyEdge (e : ℕ) (f : QosUpfEdge → QosUpfEdge) : PduSession :=
  { s with edge := Function.update s.edge e (f (s.edge e)) }

/-- The edge takes an id that the generator gave. -/
def giveId (r : Rule) (e : ℕ) (given : UintGenerator × ℕ) : PduSession where
  edge := Function.update s.edge e
    { s.edge e with ruleId := Function.update (s.edge e).ruleId r given.2 }
  generator := Function.update s.generator r given.1

/-- `generate_pdr_id`, `generate_far_id` and `generate_urr_id`, for an edge without the id. -/
def ensureId (r : Rule) (e : ℕ) : Option PduSession :=
  if (s.edge e).ruleId r = 0 then ((s.generator r).getUid r.bits).map (s.giveId r e) else some s

/-- **An id that is not `0` is on one edge, and in use for its generator.** -/
structure RuleIdsUnique : Prop where
  inUse : ∀ r e, (s.edge e).ruleId r ≠ 0 → (s.edge e).ruleId r ∈ (s.generator r).uidGenerated
  unique : ∀ r e f, (s.edge e).ruleId r = (s.edge f).ruleId r → (s.edge e).ruleId r ≠ 0 → e = f

variable {s} {s' : PduSession} {r : Rule} {e f : ℕ}

@[simp] theorem modifyEdge_edge_self (g : QosUpfEdge → QosUpfEdge) :
    (s.modifyEdge e g).edge e = g (s.edge e) := by
  simp [modifyEdge]

theorem modifyEdge_edge_of_ne (g : QosUpfEdge → QosUpfEdge) (h : f ≠ e) :
    (s.modifyEdge e g).edge f = s.edge f := by
  simp [modifyEdge, h]

@[simp] theorem modifyEdge_generator (g : QosUpfEdge → QosUpfEdge) :
    (s.modifyEdge e g).generator = s.generator := rfl

@[simp] theorem giveId_ruleId_self (given : UintGenerator × ℕ) :
    ((s.giveId r e given).edge e).ruleId r = given.2 := by
  simp [giveId]

theorem giveId_ruleId_of_ne (given : UintGenerator × ℕ) {r' : Rule} (h : ¬ (f = e ∧ r' = r)) :
    ((s.giveId r e given).edge f).ruleId r' = (s.edge f).ruleId r' := by
  by_cases hf : f = e
  · subst hf
    have hr : r' ≠ r := fun hr => h ⟨rfl, hr⟩
    simp [giveId, hr]
  · simp [giveId, hf]

theorem giveId_edge_of_ne (given : UintGenerator × ℕ) (h : f ≠ e) :
    (s.giveId r e given).edge f = s.edge f := by
  simp [giveId, h]

@[simp] theorem giveId_generator_self (given : UintGenerator × ℕ) :
    (s.giveId r e given).generator r = given.1 := by
  simp [giveId]

theorem giveId_generator_of_ne (given : UintGenerator × ℕ) {r' : Rule} (h : r' ≠ r) :
    (s.giveId r e given).generator r' = s.generator r' := by
  simp [giveId, h]

/-- **All that `ensureId` does**: nothing, or a number that was not in use is now the id of the edge. -/
theorem ensureId_cases (h : s.ensureId r e = some s') :
    ((s.edge e).ruleId r ≠ 0 ∧ s' = s) ∨
    (s.edge e).ruleId r = 0 ∧ ∃ g uid, (s.generator r).getUid r.bits = some (g, uid) ∧
      uid ∉ (s.generator r).uidGenerated ∧ g = ⟨uid, insert uid (s.generator r).uidGenerated⟩ ∧
      s' = s.giveId r e (g, uid) := by
  unfold ensureId at h
  by_cases hid : (s.edge e).ruleId r = 0
  · rw [if_pos hid] at h
    obtain ⟨⟨g, uid⟩, hget, heq⟩ := Option.map_eq_some_iff.mp h
    obtain ⟨hfresh, hg⟩ := UintGenerator.getUid_spec hget
    exact .inr ⟨hid, g, uid, hget, hfresh, hg, heq.symm⟩
  · rw [if_neg hid] at h
    exact .inl ⟨hid, (Option.some.inj h).symm⟩

end PduSession

/-! ## PFCP messages -/

/-- What is done with a rule. -/
inductive RuleAction
  | create | update | remove
  deriving DecidableEq

/-- A rule IE of a PFCP message, by the rule it names. -/
structure RuleIe where
  action : RuleAction
  rule : Rule
  id : ℕ
  deriving DecidableEq

/-- A session with `n4_triggered->pfcp_ies`. -/
structure N4Work where
  session : PduSession
  ies : List RuleIe

namespace N4Work

variable (w : N4Work)

/-- `pfcp_ies.set` of an IE with the id of an edge. -/
def set (action : RuleAction) (r : Rule) (e : ℕ) : N4Work :=
  { w with ies := w.ies ++ [⟨action, r, (w.session.edge e).ruleId r⟩] }

/-- `pfcp_create_pdr`, `pfcp_create_far` and `pfcp_create_urr`, with the `set` of the IE they return. -/
def createRule (r : Rule) (e : ℕ) : Option N4Work :=
  (w.session.ensureId r e).map fun s => { w with session := s }.set .create r e

/-- `pfcp_update_pdr` and `pfcp_update_far`. -/
def updateRule (r : Rule) (e : ℕ) : N4Work := w.set .update r e

/-- `pfcp_remove_pdr` and `pfcp_remove_far`, of a rule that is there. -/
def removeRule (r : Rule) (e : ℕ) : N4Work :=
  if (w.session.edge e).ruleId r = 0 then w else w.set .remove r e

/-- A write to the edge of a pointer. -/
def modifyEdge (e : ℕ) (f : QosUpfEdge → QosUpfEdge) : N4Work := { w with session := w.session.modifyEdge e f }

/-- The ids of one kind of rule in the message. -/
def ids (r : Rule) : List ℕ := (w.ies.filter (·.rule = r)).map (·.id)

variable {w} {w' : N4Work} {r r' : Rule} {e f : ℕ} {action : RuleAction}

@[simp] theorem set_session : (w.set action r e).session = w.session := rfl

@[simp] theorem modifyEdge_session (g : QosUpfEdge → QosUpfEdge) :
    (w.modifyEdge e g).session = w.session.modifyEdge e g := rfl

@[simp] theorem modifyEdge_ids (g : QosUpfEdge → QosUpfEdge) : (w.modifyEdge e g).ids = w.ids := rfl

@[simp] theorem set_ids_self : (w.set action r e).ids r = w.ids r ++ [(w.session.edge e).ruleId r] := by
  simp [set, ids]

theorem set_ids_of_ne (h : r' ≠ r) : (w.set action r e).ids r' = w.ids r' := by
  simp [set, ids, h.symm]

end N4Work

/-! ## What the parts of a procedure keep -/

/-- **The invariant of a procedure** that may change the edges of `sel`, and has put an IE for each edge of
`done r` at most: nothing else has changed, and no id is in the message twice. -/
structure WorkInv (s₀ : PduSession) (sel : ℕ → Prop) (done : Rule → ℕ → Prop) (w : N4Work) : Prop where
  frame : ∀ e, ¬ sel e → w.session.edge e = s₀.edge e
  unique : w.session.RuleIdsUnique
  nodup : ∀ r, (w.ids r).Nodup
  known : ∀ r id, id ∈ w.ids r → id ∈ (w.session.generator r).uidGenerated
  used : ∀ r id, id ∈ w.ids r → ∀ e, ¬ done r e → (w.session.edge e).ruleId r = id → id = 0

namespace WorkInv

variable {s₀ : PduSession} {sel : ℕ → Prop} {done done' : Rule → ℕ → Prop} {w w' : N4Work} {r : Rule} {e : ℕ}

theorem init (h : s₀.RuleIdsUnique) : WorkInv s₀ sel done ⟨s₀, []⟩ where
  frame _ _ := rfl
  unique := h
  nodup _ := List.nodup_nil
  known _ _ h := nomatch h
  used _ _ h := nomatch h

theorem mono (h : WorkInv s₀ sel done w) (hdone : ∀ r e, done r e → done' r e) : WorkInv s₀ sel done' w :=
  { h with used := fun r id hid e he => h.used r id hid e fun hd => he (hdone r e hd) }

theorem frame_modifyEdge (h : WorkInv s₀ sel done w) (he : sel e) (f : QosUpfEdge → QosUpfEdge) (q : ℕ)
    (hq : ¬ sel q) : (w.modifyEdge e f).session.edge q = s₀.edge q := by
  have hne : q ≠ e := fun heq => hq (heq ▸ he)
  rw [N4Work.modifyEdge_session, PduSession.modifyEdge_edge_of_ne _ hne]
  exact h.frame q hq

theorem modifyEdge (h : WorkInv s₀ sel done w) (he : sel e) (f : QosUpfEdge → QosUpfEdge)
    (hf : (f (w.session.edge e)).ruleId = (w.session.edge e).ruleId) :
    WorkInv s₀ sel done (w.modifyEdge e f) := by
  have hids : ∀ q, ((w.modifyEdge e f).session.edge q).ruleId = (w.session.edge q).ruleId := by
    intro q
    by_cases hq : q = e
    · subst hq
      rw [N4Work.modifyEdge_session, PduSession.modifyEdge_edge_self, hf]
    · rw [N4Work.modifyEdge_session, PduSession.modifyEdge_edge_of_ne _ hq]
  refine { h with frame := h.frame_modifyEdge he _, unique := ⟨?_, ?_⟩, used := ?_ }
  · intro r q
    rw [hids]
    exact h.unique.inUse r q
  · intro r q p
    rw [hids, hids]
    exact h.unique.unique r q p
  · intro r id hid q
    rw [hids]
    exact h.used r id hid q

theorem clearSession (h : WorkInv s₀ sel done w) (he : sel e) :
    WorkInv s₀ sel done (w.modifyEdge e QosUpfEdge.clearSession) := by
  have hids : ∀ q r, ((w.modifyEdge e QosUpfEdge.clearSession).session.edge q).ruleId r =
      if q = e then 0 else (w.session.edge q).ruleId r := by
    intro q r
    by_cases hq : q = e
    · subst hq
      rw [if_pos rfl, N4Work.modifyEdge_session, PduSession.modifyEdge_edge_self]
      rfl
    · rw [if_neg hq, N4Work.modifyEdge_session, PduSession.modifyEdge_edge_of_ne _ hq]
  refine { h with frame := h.frame_modifyEdge he _, unique := ⟨?_, ?_⟩, used := ?_ }
  · intro r q
    rw [hids]
    split
    · exact fun hne => absurd rfl hne
    · exact h.unique.inUse r q
  · intro r q p
    rw [hids, hids]
    split
    · exact fun _ hne => absurd rfl hne
    · split
      · exact fun hz hne => absurd hz hne
      · exact h.unique.unique r q p
  · intro r id hid q hq
    rw [hids]
    split
    · exact fun hz => hz.symm
    · exact h.used r id hid q hq

theorem set (h : WorkInv s₀ sel done w) (hnew : (w.session.edge e).ruleId r ∉ w.ids r)
    (hknown : (w.session.edge e).ruleId r ∈ (w.session.generator r).uidGenerated)
    (action : RuleAction) :
    WorkInv s₀ sel (fun r' f => done r' f ∨ r' = r ∧ f = e) (w.set action r e) := by
  refine { h with nodup := fun r' => ?_, known := fun r' id hid => ?_, used := fun r' id hid f hf heq => ?_ }
  · by_cases hr : r' = r
    · subst hr
      rw [N4Work.set_ids_self]
      exact List.nodup_append.mpr ⟨h.nodup _, List.nodup_singleton _, by
        rintro a ha b hb rfl
        rw [List.mem_singleton] at hb
        exact hnew (hb ▸ ha)⟩
    · rw [N4Work.set_ids_of_ne hr]
      exact h.nodup r'
  · by_cases hr : r' = r
    · subst hr
      rw [N4Work.set_ids_self, List.mem_append, List.mem_singleton] at hid
      rcases hid with hid | rfl
      · exact h.known _ _ hid
      · exact hknown
    · rw [N4Work.set_ids_of_ne hr] at hid
      exact h.known _ _ hid
  · rw [not_or, not_and] at hf
    by_cases hr : r' = r
    · subst hr
      rw [N4Work.set_ids_self, List.mem_append, List.mem_singleton] at hid
      rcases hid with hid | rfl
      · exact h.used _ _ hid f hf.1 heq
      · by_contra hne
        exact hf.2 rfl (h.unique.unique r' f e heq (heq ▸ hne))
    · rw [N4Work.set_ids_of_ne hr] at hid
      exact h.used _ _ hid f hf.1 heq

theorem setOld (h : WorkInv s₀ sel done w) (hdone : ¬ done r e) (hid : (w.session.edge e).ruleId r ≠ 0)
    (action : RuleAction) :
    WorkInv s₀ sel (fun r' f => done r' f ∨ r' = r ∧ f = e) (w.set action r e) :=
  h.set (fun hmem => hid (h.used r _ hmem e hdone rfl)) (h.unique.inUse r e hid) action

theorem newId (h : WorkInv s₀ sel done w) (he : sel e) {uid : ℕ}
    (hfresh : uid ∉ (w.session.generator r).uidGenerated) :
    WorkInv s₀ sel done { w with
      session := w.session.giveId r e (⟨uid, insert uid (w.session.generator r).uidGenerated⟩, uid) } := by
  have hgen : ∀ r' id, id ∈ (w.session.generator r').uidGenerated →
      id ∈ ((w.session.giveId r e (⟨uid, insert uid (w.session.generator r).uidGenerated⟩,
        uid)).generator r').uidGenerated := by
    intro r' id hid
    by_cases hr : r' = r
    · subst hr
      rw [PduSession.giveId_generator_self]
      exact Finset.mem_insert_of_mem hid
    · rwa [PduSession.giveId_generator_of_ne _ hr]
  have hnot : ∀ q, (w.session.edge q).ruleId r = uid → uid = 0 := by
    intro q hq
    by_contra hne
    exact hfresh (hq ▸ h.unique.inUse r q (hq ▸ hne))
  refine { h with frame := fun q hq => ?_, unique := ⟨?_, ?_⟩, known := ?_, used := ?_ }
  · have hne : q ≠ e := fun heq => hq (heq ▸ he)
    exact (PduSession.giveId_edge_of_ne _ hne).trans (h.frame q hq)
  · intro r' q hq
    by_cases hqe : q = e ∧ r' = r
    · obtain ⟨rfl, rfl⟩ := hqe
      rw [PduSession.giveId_ruleId_self, PduSession.giveId_generator_self]
      exact Finset.mem_insert_self _ _
    · rw [PduSession.giveId_ruleId_of_ne _ hqe] at hq ⊢
      exact hgen r' _ (h.unique.inUse r' q hq)
  · intro r' q p heq hne
    by_cases hq : q = e ∧ r' = r
    · by_cases hp : p = e ∧ r' = r
      · rw [hq.1, hp.1]
      · obtain ⟨rfl, rfl⟩ := hq
        rw [PduSession.giveId_ruleId_self] at heq hne
        rw [PduSession.giveId_ruleId_of_ne _ hp] at heq
        exact absurd (hnot p heq.symm) hne
    · rw [PduSession.giveId_ruleId_of_ne _ hq] at heq hne
      by_cases hp : p = e ∧ r' = r
      · obtain ⟨rfl, rfl⟩ := hp
        rw [PduSession.giveId_ruleId_self] at heq
        exact absurd (heq.trans (hnot q heq)) hne
      · rw [PduSession.giveId_ruleId_of_ne _ hp] at heq
        exact h.unique.unique r' q p heq hne
  · intro r' id hid
    exact hgen r' id (h.known r' id hid)
  · intro r' id hid q hq heq
    by_cases hqe : q = e ∧ r' = r
    · obtain ⟨rfl, rfl⟩ := hqe
      rw [PduSession.giveId_ruleId_self] at heq
      exact absurd (h.known _ _ hid) (heq ▸ hfresh)
    · rw [PduSession.giveId_ruleId_of_ne _ hqe] at heq
      exact h.used r' id hid q hq heq

theorem createRule (h : WorkInv s₀ sel done w) (he : sel e) (hdone : ¬ done r e)
    (hw : w.createRule r e = some w') :
    WorkInv s₀ sel (fun r' f => done r' f ∨ r' = r ∧ f = e) w' := by
  obtain ⟨session, hsession, rfl⟩ := Option.map_eq_some_iff.mp hw
  rcases PduSession.ensureId_cases hsession with ⟨hid, rfl⟩ | ⟨-, g, uid, -, hfresh, rfl, rfl⟩
  · exact h.setOld hdone hid .create
  · refine (h.newId he hfresh).set ?_ ?_ .create
    · dsimp only
      rw [PduSession.giveId_ruleId_self]
      exact fun hmem => hfresh (h.known r uid hmem)
    · dsimp only
      rw [PduSession.giveId_ruleId_self, PduSession.giveId_generator_self]
      exact Finset.mem_insert_self _ _

theorem removeRule (h : WorkInv s₀ sel done w) (hdone : ¬ done r e) :
    WorkInv s₀ sel (fun r' f => done r' f ∨ r' = r ∧ f = e) (w.removeRule r e) := by
  unfold N4Work.removeRule
  by_cases hid : (w.session.edge e).ruleId r = 0
  · rw [if_pos hid]
    exact h.mono fun r' f => .inl
  · rw [if_neg hid]
    exact h.setOld hdone hid .remove

end WorkInv

end Oai5g.Smf
