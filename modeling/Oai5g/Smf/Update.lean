import Oai5g.Lib.Returns
import Oai5g.Smf.Session

/-!
# Updates of an SM context

* `isQfiServedInEdges`: the edges that an update works on.
* `updateSmContext`: `session_update_sm_context_procedure::run`, from the first UPF on.
* `SessionStep`: the procedures of a session; a session that is `Reached` has `RuleIdsUnique`.
* **`updateTouchesNamed_iff`**: an update touches only the QoS flows it names exactly when there is one.
-/

namespace Oai5g.Smf

/-- The procedures that `run` distinguishes. -/
inductive SessionProcedureType
  | pduSessionEstablishmentUeRequested
  | pduSessionModificationSmfRequested
  | pduSessionModificationAnRequested
  | pduSessionModificationUeInitiatedStep2
  | hoPathSwitchReq
  | n2HoPreparationPhaseStep2
  | serviceRequestUeTriggeredStep2
  | serviceRequestUeTriggeredStep1
  | pduSessionReleaseAnInitiated
  | unknown
  deriving DecidableEq

/-- The edges of one UPF in the graph. `add_upf_graph_edge` adds none twice. -/
structure UpfEdges where
  edges : List ℕ
  nodup : edges.Nodup

/-- A request to update: the QFIs it names and the F-TEID of the gNB. -/
structure UpdateRequest where
  procedureType : SessionProcedureType
  qfis : List UInt8
  gnbFteid : Fteid

namespace PduSession

variable (s : PduSession) (upf : UpfEdges)

/-- The edges that `dfs_next_upf` returns for a UPF. -/
def dlEdges : List ℕ := upf.edges.filter fun e => !(s.edge e).uplink

/-- The uplink edges of a UPF. -/
def ulEdges : List ℕ := upf.edges.filter fun e => (s.edge e).uplink

/-- The loop over the QFIs. -/
def servedLoop (edges : List ℕ) : List UInt8 → List ℕ → Bool × List ℕ
  | [], served => (true, served)
  | qfi :: qfis, served =>
    -- the edge is pushed whatever its QFI
    if edges.any fun e => (s.edge e).qfi = qfi then servedLoop edges qfis (served ++ edges)
    else (false, served ++ edges)

/-- `is_qfi_served_in_edges` -/
def isQfiServedInEdges (qfis : List UInt8) (edges : List ℕ) : Bool × List ℕ :=
  if qfis.isEmpty then (false, []) else s.servedLoop edges qfis []

end PduSession

namespace N4Work

/-- A rule for each of the edges. -/
def createRules (r : Rule) (es : List ℕ) (w : N4Work) : Option N4Work :=
  es.foldlM (fun w e => createRule w r e) w

/-- `send_n4_session_modification_request` for the current UPF. -/
def sendModification (s : PduSession) (upf : UpfEdges) (qfis : List UInt8) : Option N4Work :=
  if (s.dlEdges upf).isEmpty || (s.ulEdges upf).isEmpty then some ⟨s, []⟩
  else
    let dl := if qfis.isEmpty then s.dlEdges upf else (s.isQfiServedInEdges qfis (s.dlEdges upf)).2
    let ul := if qfis.isEmpty then s.ulEdges upf else (s.isQfiServedInEdges qfis (s.ulEdges upf)).2
    (createRules .far dl ⟨s, []⟩).bind (createRules .pdr ul)

/-- `send_n4_session_establishment_request` for the current UPF. -/
def sendEstablishment (s : PduSession) (upf : UpfEdges) (usageReporting dlPdr : Bool) : Option N4Work :=
  match s.dlEdges upf, s.ulEdges upf with
  | e :: dl, f :: ul =>
    (if usageReporting then (⟨s, []⟩ : N4Work).createRule .urr e else some ⟨s, []⟩).bind fun w =>
    (createRules .far (f :: ul) w).bind fun w =>
    (createRules .pdr (e :: dl) w).bind fun w =>
    if dlPdr then (createRules .far (e :: dl) w).bind (createRules .far (f :: ul)) else some w
  | _, _ => some ⟨s, []⟩

variable (gnbFteid : Fteid)

/-- The F-TEID of the gNB becomes the next hop of an edge. -/
def setNextHopFteid (w : N4Work) (e : ℕ) : N4Work :=
  w.modifyEdge e fun x => { x with nextHopFteid := gnbFteid }

/-- The downlink edges in a handover. It is over at an edge that has the F-TEID already. -/
def handoverDl : List ℕ → N4Work → Option (N4Work × Bool)
  | [], w => some (w, true)
  | e :: es, w =>
    if gnbFteid = (w.session.edge e).nextHopFteid then some (w, false)
    else if (w.session.edge e).ruleId .far ≠ 0 then
      handoverDl es ((w.setNextHopFteid gnbFteid e).updateRule .far e)
    else ((w.setNextHopFteid gnbFteid e).createRule .far e).bind (handoverDl es)

/-- An uplink edge in a handover. -/
def handoverUl (w : N4Work) (e : ℕ) : Option N4Work :=
  if (w.session.edge e).ruleId .pdr ≠ 0 then some (w.updateRule .pdr e) else w.createRule .pdr e

/-- An edge in the first step of a service request. -/
def serviceRequest (r : Rule) (w : N4Work) (e : ℕ) : Option N4Work :=
  (w.modifyEdge e fun x => { x with precedence := x.precedence + 1 }).createRule r e

/-- `remove_pdrs_and_fars`, for one edge. -/
def removePdrAndFar (w : N4Work) (e : ℕ) : N4Work :=
  ((w.removeRule .pdr e).removeRule .far e).modifyEdge e QosUpfEdge.clearSession

/-- `session_update_sm_context_procedure::run`, for the UPF that `get_next_upf` gives. -/
def updateSmContext (s : PduSession) (upf : UpfEdges) (usageReporting : Bool) (req : UpdateRequest) :
    Option N4Work :=
  if (s.dlEdges upf).isEmpty || (s.ulEdges upf).isEmpty then some ⟨s, []⟩
  else
    let dl := s.isQfiServedInEdges req.qfis (s.dlEdges upf)
    let ul := s.isQfiServedInEdges req.qfis (s.ulEdges upf)
    if !dl.1 || !ul.1 then some ⟨s, []⟩
    else match req.procedureType with
      | .pduSessionEstablishmentUeRequested | .pduSessionModificationSmfRequested
      | .pduSessionModificationAnRequested | .pduSessionModificationUeInitiatedStep2 =>
        sendModification (dl.2.foldl (setNextHopFteid req.gnbFteid) ⟨s, []⟩).session upf req.qfis
      | .hoPathSwitchReq | .n2HoPreparationPhaseStep2 =>
        (handoverDl req.gnbFteid dl.2 ⟨s, []⟩).bind fun (w, more) =>
          if more then ul.2.foldlM handoverUl w else some w
      | .serviceRequestUeTriggeredStep2 =>
        -- all edges, whatever the QFIs
        sendModification ((s.dlEdges upf).foldl (setNextHopFteid req.gnbFteid) ⟨s, []⟩).session upf []
      | .serviceRequestUeTriggeredStep1 =>
        (ul.2.foldlM (serviceRequest .far) ⟨s, []⟩).bind fun w =>
        (dl.2.foldlM (serviceRequest .pdr) w).bind fun w =>
          match usageReporting, dl.2 with
          | true, e :: _ => w.createRule .urr e
          | _, _ => some w
      | .pduSessionReleaseAnInitiated =>
        some (dl.2.foldl removePdrAndFar (ul.2.foldl removePdrAndFar ⟨s, []⟩))
      | .unknown => some ⟨s, []⟩

end N4Work

/-! ## The edges of an update -/

namespace PduSession

variable {s : PduSession} {upf : UpfEdges} {qfis : List UInt8} {edges : List ℕ}

theorem mem_dlEdges {e : ℕ} : e ∈ s.dlEdges upf ↔ e ∈ upf.edges ∧ (s.edge e).uplink = false := by
  simp [dlEdges]

theorem mem_ulEdges {e : ℕ} : e ∈ s.ulEdges upf ↔ e ∈ upf.edges ∧ (s.edge e).uplink = true := by
  simp [ulEdges]

theorem mem_servedLoop {served : List ℕ} {e : ℕ} (h : e ∈ (s.servedLoop edges qfis served).2) :
    e ∈ served ∨ e ∈ edges := by
  induction qfis generalizing served with
  | nil => exact .inl h
  | cons q qfis ih =>
    unfold servedLoop at h
    split at h
    · rcases ih h with h | h
      · exact List.mem_append.mp h
      · exact .inr h
    · exact List.mem_append.mp h

theorem mem_of_isQfiServedInEdges {e : ℕ} (h : e ∈ (s.isQfiServedInEdges qfis edges).2) : e ∈ edges := by
  unfold isQfiServedInEdges at h
  split at h
  · cases h
  · exact (mem_servedLoop h).resolve_left List.not_mem_nil

theorem mem_edges_of_dlServed {e : ℕ} (h : e ∈ (s.isQfiServedInEdges qfis (s.dlEdges upf)).2) :
    e ∈ upf.edges := (mem_dlEdges.mp (mem_of_isQfiServedInEdges h)).1

theorem mem_edges_of_ulServed {e : ℕ} (h : e ∈ (s.isQfiServedInEdges qfis (s.ulEdges upf)).2) :
    e ∈ upf.edges := (mem_ulEdges.mp (mem_of_isQfiServedInEdges h)).1

end PduSession

/-! ## What holds of every session -/

/-- New ids on the edges of `sel`, and changes of the other fields of an edge, keep `I`. -/
structure Preserved (total : Prop) (sel : ℕ → Prop) (I : PduSession → Prop) : Prop where
  ensureId : ∀ s r e, sel e → I s → Returns total I (s.ensureId r e)
  modifyEdge : ∀ s e f, (f (s.edge e)).ruleId = (s.edge e).ruleId → I s → I (s.modifyEdge e f)

namespace Preserved

open N4Work

variable {total : Prop} {sel : ℕ → Prop} {I : PduSession → Prop} (hI : Preserved total sel I)
  {w : N4Work} {s : PduSession} {upf : UpfEdges}
include hI

/-- A work whose session meets `I`. -/
abbrev Keeps (total : Prop) (I : PduSession → Prop) (o : Option N4Work) : Prop :=
  Returns total (fun w => I w.session) o

theorem createRule (r : Rule) {e : ℕ} (he : sel e) (h : I w.session) : Keeps total I (w.createRule r e) :=
  (hI.ensureId w.session r e he h).map fun _ hs => hs

theorem createRules (r : Rule) {es : List ℕ} (hes : ∀ e ∈ es, sel e) (h : I w.session) :
    Keeps total I (w.createRules r es) :=
  Returns.foldlM h fun _ e he h => hI.createRule r (hes e he) h

theorem sendModification (hupf : ∀ e ∈ upf.edges, sel e) (qfis : List UInt8) (h : I s) :
    Keeps total I (N4Work.sendModification s upf qfis) := by
  unfold N4Work.sendModification
  split
  · exact .some h
  refine Returns.bind (hI.createRules .far (fun e he => hupf e ?_) (w := ⟨s, []⟩) h) fun w hw =>
    hI.createRules .pdr (fun e he => hupf e ?_) hw
  · split at he
    · exact (PduSession.mem_dlEdges.mp he).1
    · exact PduSession.mem_edges_of_dlServed he
  · split at he
    · exact (PduSession.mem_ulEdges.mp he).1
    · exact PduSession.mem_edges_of_ulServed he

theorem sendEstablishment (hupf : ∀ e ∈ upf.edges, sel e) (usageReporting dlPdr : Bool) (h : I s) :
    Keeps total I (N4Work.sendEstablishment s upf usageReporting dlPdr) := by
  have hdl : ∀ e ∈ s.dlEdges upf, sel e := fun e he => hupf e (PduSession.mem_dlEdges.mp he).1
  have hul : ∀ e ∈ s.ulEdges upf, sel e := fun e he => hupf e (PduSession.mem_ulEdges.mp he).1
  unfold N4Work.sendEstablishment
  split
  · rename_i e dl f ul hdown hup
    rw [hdown] at hdl
    rw [hup] at hul
    refine Returns.bind (P := fun w : N4Work => I w.session) ?_ fun w hw =>
      (hI.createRules .far hul hw).bind fun w hw => (hI.createRules .pdr hdl hw).bind fun w hw => ?_
    · split
      · exact hI.createRule .urr (hdl e List.mem_cons_self) (w := ⟨s, []⟩) h
      · exact .some h
    · split
      · exact (hI.createRules .far hdl hw).bind fun w hw => hI.createRules .far hul hw
      · exact .some hw
  · exact .some h

theorem setNextHopFteid (gnbFteid : Fteid) (es : List ℕ) (h : I w.session) :
    I (es.foldl (N4Work.setNextHopFteid gnbFteid) w).session := by
  induction es generalizing w with
  | nil => exact h
  | cons e es ih =>
    exact ih (w := w.setNextHopFteid gnbFteid e)
      (hI.modifyEdge _ _ (fun x => { x with nextHopFteid := gnbFteid }) rfl h)

theorem handoverDl {gnbFteid : Fteid} {es : List ℕ} (hes : ∀ e ∈ es, sel e) (h : I w.session) :
    Returns total (fun x => I x.1.session) (N4Work.handoverDl gnbFteid es w) := by
  induction es generalizing w with
  | nil => exact .some h
  | cons e es ih =>
    have htail : ∀ e ∈ es, sel e := fun e he => hes e (List.mem_cons_of_mem _ he)
    have hset := hI.setNextHopFteid gnbFteid [e] h
    unfold N4Work.handoverDl
    split
    · exact .some h
    split
    · exact ih htail (w := (w.setNextHopFteid gnbFteid e).updateRule .far e) hset
    · exact (hI.createRule .far (hes e List.mem_cons_self) hset).bind fun w hw => ih htail hw

theorem handoverUl {e : ℕ} (he : sel e) (h : I w.session) : Keeps total I (w.handoverUl e) := by
  unfold N4Work.handoverUl
  split
  · exact .some h
  · exact hI.createRule .pdr he h

theorem serviceRequest (r : Rule) {e : ℕ} (he : sel e) (h : I w.session) :
    Keeps total I (w.serviceRequest r e) :=
  hI.createRule r he (hI.modifyEdge _ _ (fun x => { x with precedence := x.precedence + 1 }) rfl h)

/-- **An update keeps what its parts keep.** For an AN release these are the cleared edges. -/
theorem updateSmContext (hupf : ∀ e ∈ upf.edges, sel e) {usageReporting : Bool} {req : UpdateRequest}
    (h : I s) (hrelease : req.procedureType = .pduSessionReleaseAnInitiated →
      Keeps total I (N4Work.updateSmContext s upf usageReporting req)) :
    Keeps total I (N4Work.updateSmContext s upf usageReporting req) := by
  have hdl : ∀ e ∈ (s.isQfiServedInEdges req.qfis (s.dlEdges upf)).2, sel e := fun e he =>
    hupf e (PduSession.mem_edges_of_dlServed he)
  have hul : ∀ e ∈ (s.isQfiServedInEdges req.qfis (s.ulEdges upf)).2, sel e := fun e he =>
    hupf e (PduSession.mem_edges_of_ulServed he)
  by_cases htype : req.procedureType = .pduSessionReleaseAnInitiated
  · exact hrelease htype
  unfold N4Work.updateSmContext
  dsimp only
  split
  · exact .some h
  split
  · exact .some h
  split
  iterate 4 exact hI.sendModification hupf _ (hI.setNextHopFteid _ _ (w := ⟨s, []⟩) h)
  iterate 2
    refine (hI.handoverDl hdl (w := ⟨s, []⟩) h).bind fun x hx => ?_
    obtain ⟨w, more⟩ := x
    dsimp only
    split
    · exact Returns.foldlM hx fun w e he hw => hI.handoverUl (hul e he) hw
    · exact .some hx
  · exact hI.sendModification hupf _ (hI.setNextHopFteid _ _ (w := ⟨s, []⟩) h)
  · refine Returns.bind (P := fun w : N4Work => I w.session)
      (Returns.foldlM h fun w e he hw => hI.serviceRequest .far (hul e he) hw) fun w hw =>
      Returns.bind (P := fun w : N4Work => I w.session)
        (Returns.foldlM hw fun w e he hw => hI.serviceRequest .pdr (hdl e he) hw) fun w hw => ?_
    split
    · rename_i e _ hdown
      exact hI.createRule .urr (hdl e (by
        rw [hdown]
        exact List.mem_cons_self)) hw
    · exact .some hw
  · exact absurd ‹_› htype
  · exact .some h

end Preserved

/-- The edges of an AN release: those that are selected, if the request is not rejected. -/
def releasedEdges (s : PduSession) (upf : UpfEdges) (qfis : List UInt8) : List ℕ :=
  let dl := s.isQfiServedInEdges qfis (s.dlEdges upf)
  let ul := s.isQfiServedInEdges qfis (s.ulEdges upf)
  if (s.dlEdges upf).isEmpty || (s.ulEdges upf).isEmpty || !dl.1 || !ul.1 then [] else ul.2 ++ dl.2

theorem updateSmContext_release (s : PduSession) (upf : UpfEdges) (usageReporting : Bool)
    {req : UpdateRequest} (h : req.procedureType = .pduSessionReleaseAnInitiated) :
    N4Work.updateSmContext s upf usageReporting req =
      some ((releasedEdges s upf req.qfis).foldl N4Work.removePdrAndFar ⟨s, []⟩) := by
  unfold N4Work.updateSmContext releasedEdges
  rw [h]
  dsimp only
  cases (s.dlEdges upf).isEmpty || (s.ulEdges upf).isEmpty with
  | true => simp
  | false =>
    cases (s.isQfiServedInEdges req.qfis (s.dlEdges upf)).1 <;>
      cases (s.isQfiServedInEdges req.qfis (s.ulEdges upf)).1 <;>
      simp

theorem removeRule_session (w : N4Work) (r : Rule) (e : ℕ) : (w.removeRule r e).session = w.session := by
  unfold N4Work.removeRule
  split <;> rfl

theorem removePdrAndFar_session (w : N4Work) (e : ℕ) :
    (w.removePdrAndFar e).session = w.session.modifyEdge e QosUpfEdge.clearSession := by
  unfold N4Work.removePdrAndFar
  rw [N4Work.modifyEdge_session, removeRule_session, removeRule_session]

theorem foldl_removePdrAndFar {I : PduSession → Prop} {es : List ℕ}
    (hI : ∀ s e, e ∈ es → I s → I (s.modifyEdge e QosUpfEdge.clearSession)) {w : N4Work}
    (h : I w.session) : I (es.foldl N4Work.removePdrAndFar w).session := by
  induction es generalizing w with
  | nil => exact h
  | cons e es ih =>
    refine ih (fun s e he => hI s e (List.mem_cons_of_mem _ he)) ?_
    rw [removePdrAndFar_session]
    exact hI _ e List.mem_cons_self h

theorem workInv_init {s : PduSession} (h : s.RuleIdsUnique) :
    WorkInv s (fun _ => True) (fun _ _ => False) ⟨s, []⟩ := WorkInv.init h

/-- **New ids are new, and clearing an edge only takes ids away.** -/
theorem preserved_ruleIdsUnique (sel : ℕ → Prop) : Preserved False sel PduSession.RuleIdsUnique where
  ensureId s r e _ h := by
    refine ⟨False.elim, fun s' hs => ?_⟩
    have hw : (⟨s, []⟩ : N4Work).createRule r e = some (N4Work.set ⟨s', []⟩ .create r e) := by
      unfold N4Work.createRule
      rw [hs]
      rfl
    exact ((workInv_init h).createRule trivial id hw).unique
  modifyEdge s e f hf h := ((workInv_init h).modifyEdge trivial f hf).unique

/-! ## Sessions that are reached -/

/-- The procedures of a session: each names the UPF it is at. `nextHopFteid` is what
`update_next_hop_fteid` does when an F-TEID becomes known. -/
inductive SessionProcedure
  | establish (upf : UpfEdges) (usageReporting dlPdr : Bool)
  | update (upf : UpfEdges) (usageReporting : Bool) (req : UpdateRequest)
  | updateNext (upf : UpfEdges) (qfis : List UInt8)
  | nextHopFteid (e : ℕ) (fteid : Fteid)

/-- A procedure that returns. -/
def sessionStep (s : PduSession) : SessionProcedure → Option PduSession
  | .establish upf usageReporting dlPdr => (N4Work.sendEstablishment s upf usageReporting dlPdr).map (·.session)
  | .update upf usageReporting req => (N4Work.updateSmContext s upf usageReporting req).map (·.session)
  | .updateNext upf qfis => (N4Work.sendModification s upf qfis).map (·.session)
  | .nextHopFteid e fteid => some (s.modifyEdge e fun x => { x with nextHopFteid := fteid })

/-- A new session: a graph without ids, and new generators. -/
def PduSession.Fresh (s : PduSession) : Prop :=
  (∀ e r, (s.edge e).ruleId r = 0) ∧ ∀ r, s.generator r = UintGenerator.empty

/-- A session that procedures lead to from a fresh one. -/
inductive PduSession.Reached : PduSession → Prop
  | fresh (s : PduSession) : s.Fresh → s.Reached
  | step (s s' : PduSession) (p : SessionProcedure) : s.Reached → sessionStep s p = some s' → s'.Reached

/-- The edges that a procedure is about. -/
def SessionProcedure.edges : SessionProcedure → List ℕ
  | .establish upf _ _ | .update upf _ _ | .updateNext upf _ => upf.edges
  | .nextHopFteid e _ => [e]

/-- The edges that a procedure clears. -/
def clearedEdges (s : PduSession) : SessionProcedure → List ℕ
  | .update upf _ ⟨.pduSessionReleaseAnInitiated, qfis, _⟩ => releasedEdges s upf qfis
  | _ => []

theorem Preserved.sessionStep {total : Prop} {sel : ℕ → Prop} {I : PduSession → Prop}
    (hI : Preserved total sel I) {s : PduSession} {p : SessionProcedure} (hp : ∀ e ∈ p.edges, sel e) (h : I s)
    (hrelease : I ((clearedEdges s p).foldl N4Work.removePdrAndFar ⟨s, []⟩).session) :
    Returns total I (sessionStep s p) := by
  cases p with
  | establish upf usageReporting dlPdr => exact (hI.sendEstablishment hp _ _ h).map fun _ hw => hw
  | update upf usageReporting req =>
    refine (hI.updateSmContext hp h fun htype => ?_).map fun _ hw => hw
    rw [updateSmContext_release s upf usageReporting htype]
    obtain ⟨t, qfis, gnbFteid⟩ := req
    dsimp only at htype
    subst htype
    exact .some hrelease
  | updateNext upf qfis => exact (hI.sendModification hp qfis h).map fun _ hw => hw
  | nextHopFteid e fteid => exact .some (hI.modifyEdge _ _ _ rfl h)

/-- **The ids of a session are unique.** -/
theorem PduSession.Reached.ruleIdsUnique {s : PduSession} (h : s.Reached) : s.RuleIdsUnique := by
  induction h with
  | fresh s hs => exact ⟨fun r e hne => absurd (hs.1 e r) hne, fun r e _ _ hne => absurd (hs.1 e r) hne⟩
  | step s s' p _ hs ih =>
    refine ((preserved_ruleIdsUnique fun _ => True).sessionStep (fun _ _ => trivial) ih ?_).post _ hs
    refine foldl_removePdrAndFar (I := PduSession.RuleIdsUnique) (w := ⟨s, []⟩) (fun s e _ h => ?_) ih
    exact ((workInv_init h).clearSession trivial).unique

/-! ## The edges an update works on -/

/-- The edges are those of the QFIs that the request names, each once. -/
def PduSession.SelectsNamed (s : PduSession) (qfis : List UInt8) (edges : List ℕ) : Prop :=
  (s.isQfiServedInEdges qfis edges).2.Nodup ∧
    ∀ e, e ∈ (s.isQfiServedInEdges qfis edges).2 ↔ e ∈ edges ∧ (s.edge e).qfi ∈ qfis

/-- **An update touches only the QoS flows it names**: these edges are selected, only they change, and no
rule id is in the message twice. -/
structure UpdateTouchesNamed (s : PduSession) (upf : UpfEdges) (usageReporting : Bool) (qfis : List UInt8)
    (gnbFteid : Fteid) : Prop where
  dl : s.SelectsNamed qfis (s.dlEdges upf)
  ul : s.SelectsNamed qfis (s.ulEdges upf)
  frame : ∀ t w, N4Work.updateSmContext s upf usageReporting ⟨t, qfis, gnbFteid⟩ = some w →
    ∀ e, ¬(e ∈ upf.edges ∧ (s.edge e).qfi ∈ qfis) → w.session.edge e = s.edge e
  once : ∀ t w, N4Work.updateSmContext s upf usageReporting ⟨t, qfis, gnbFteid⟩ = some w →
    ∀ r, (w.ids r).Nodup

namespace PduSession

variable {s : PduSession} {upf : UpfEdges} {qfis : List UInt8} {edges : List ℕ}

theorem isQfiServedInEdges_singleton (qfi : UInt8) : (s.isQfiServedInEdges [qfi] edges).2 = edges := by
  simp only [isQfiServedInEdges, List.isEmpty_cons, Bool.false_eq_true, if_false, servedLoop]
  split <;> rfl

theorem not_nodup_servedLoop {qfi : UInt8} {served : List ℕ} (hedges : edges ≠ [])
    (h : edges ⊆ served) : ¬ (s.servedLoop edges (qfi :: qfis) served).2.Nodup := by
  have hprefix : ∀ (qfis : List UInt8) (served : List ℕ),
      served <+: (s.servedLoop edges qfis served).2 := by
    intro qfis
    induction qfis with
    | nil => exact fun served => List.prefix_rfl
    | cons q qfis ih =>
      intro served
      unfold servedLoop
      split
      · exact (List.prefix_append served edges).trans (ih _)
      · exact List.prefix_append served edges
  have hdouble : served ++ edges <+: (s.servedLoop edges (qfi :: qfis) served).2 := by
    unfold servedLoop
    split
    · exact hprefix qfis _
    · exact List.prefix_rfl
  obtain ⟨e, he⟩ := List.exists_mem_of_ne_nil _ hedges
  intro hnodup
  have := hnodup.sublist hdouble.sublist
  exact (List.nodup_append.mp this).2.2 e (h he) e he rfl

theorem not_selectsNamed {q q' : UInt8} (h : ∃ e ∈ edges, (s.edge e).qfi = q) :
    ¬ s.SelectsNamed (q :: q' :: qfis) edges := by
  rintro ⟨hnodup, -⟩
  obtain ⟨e, he, hq⟩ := h
  have hany : (edges.any fun e => (s.edge e).qfi = q) = true :=
    List.any_eq_true.mpr ⟨e, he, decide_eq_true hq⟩
  have hloop : (s.isQfiServedInEdges (q :: q' :: qfis) edges).2 =
      (s.servedLoop edges (q' :: qfis) edges).2 := by
    simp only [isQfiServedInEdges, List.isEmpty_cons, Bool.false_eq_true, if_false]
    rw [servedLoop, if_pos hany, List.nil_append]
  rw [hloop] at hnodup
  exact not_nodup_servedLoop (List.ne_nil_of_mem he) (List.Subset.refl _) hnodup

end PduSession

/-! ## An update for one QFI -/

namespace WorkInv

open N4Work

variable {s₀ : PduSession} {sel : ℕ → Prop} {done : Rule → ℕ → Prop} {w w' : N4Work} {r : Rule} {es : List ℕ}

theorem restart {done' : Rule → ℕ → Prop} (h : WorkInv s₀ sel done w) :
    WorkInv s₀ sel done' ⟨w.session, []⟩ where
  frame := h.frame
  unique := h.unique
  nodup _ := List.nodup_nil
  known _ _ hid := nomatch hid
  used _ _ hid := nomatch hid

theorem foldlM {f : N4Work → ℕ → Option N4Work} {R : Rule → Prop}
    (hf : ∀ w e w' (done : Rule → ℕ → Prop), sel e → (∀ r, R r → ¬ done r e) → WorkInv s₀ sel done w →
      f w e = some w' → WorkInv s₀ sel (fun r' q => done r' q ∨ R r' ∧ q = e) w')
    (hsel : ∀ e ∈ es, sel e) (hnodup : es.Nodup) (hdone : ∀ e ∈ es, ∀ r, R r → ¬ done r e)
    (h : WorkInv s₀ sel done w) (hw : es.foldlM f w = some w') :
    WorkInv s₀ sel (fun r' q => done r' q ∨ R r' ∧ q ∈ es) w' := by
  induction es generalizing w done with
  | nil =>
    cases hw
    exact h.mono fun r' q => .inl
  | cons e es ih =>
    rw [List.foldlM_cons] at hw
    obtain ⟨u, hu, hw⟩ := Option.bind_eq_some_iff.mp hw
    have hstep := hf w e u done (hsel e List.mem_cons_self) (hdone e List.mem_cons_self) h hu
    obtain ⟨hnot, htail⟩ := List.nodup_cons.mp hnodup
    refine (ih (fun e he => hsel e (List.mem_cons_of_mem _ he)) htail ?_ hstep hw).mono ?_
    · rintro q hq r hr (hd | ⟨-, rfl⟩)
      · exact hdone q (List.mem_cons_of_mem _ hq) r hr hd
      · exact hnot hq
    · rintro r' q ((hd | ⟨hr, rfl⟩) | ⟨hr, hq⟩)
      · exact .inl hd
      · exact .inr ⟨hr, List.mem_cons_self⟩
      · exact .inr ⟨hr, List.mem_cons_of_mem _ hq⟩

theorem createRules (h : WorkInv s₀ sel done w) (hsel : ∀ e ∈ es, sel e) (hnodup : es.Nodup)
    (hdone : ∀ e ∈ es, ¬ done r e) (hw : w.createRules r es = some w') :
    WorkInv s₀ sel (fun r' q => done r' q ∨ r' = r ∧ q ∈ es) w' := by
  refine foldlM (R := (· = r)) (fun w e w' done he hd hinv hw => ?_) hsel hnodup ?_ h hw
  · exact hinv.createRule he (hd r rfl) hw
  · rintro e he r' rfl
    exact hdone e he

theorem setNextHopFteid (h : WorkInv s₀ sel done w) (hsel : ∀ e ∈ es, sel e) (gnbFteid : Fteid) :
    WorkInv s₀ sel done (es.foldl (N4Work.setNextHopFteid gnbFteid) w) := by
  induction es generalizing w with
  | nil => exact h
  | cons e es ih =>
    exact ih (h.modifyEdge (hsel e List.mem_cons_self) (fun x => { x with nextHopFteid := gnbFteid })
      rfl) fun e he => hsel e (List.mem_cons_of_mem _ he)

theorem handoverDl {gnbFteid : Fteid} {more : Bool} (h : WorkInv s₀ sel done w) (hsel : ∀ e ∈ es, sel e)
    (hnodup : es.Nodup) (hdone : ∀ e ∈ es, ¬ done .far e)
    (hw : N4Work.handoverDl gnbFteid es w = some (w', more)) :
    WorkInv s₀ sel (fun r' q => done r' q ∨ r' = .far ∧ q ∈ es) w' := by
  induction es generalizing w done with
  | nil =>
    cases hw
    exact h.mono fun r' q => .inl
  | cons e es ih =>
    obtain ⟨hnot, htail⟩ := List.nodup_cons.mp hnodup
    have he := hsel e List.mem_cons_self
    have hset := h.modifyEdge he (fun x => { x with nextHopFteid := gnbFteid }) rfl
    have hrest : ∀ {u}, WorkInv s₀ sel (fun r' q => done r' q ∨ r' = .far ∧ q = e) u →
        N4Work.handoverDl gnbFteid es u = some (w', more) →
        WorkInv s₀ sel (fun r' q => done r' q ∨ r' = .far ∧ q ∈ e :: es) w' := by
      intro u hu hw
      refine (ih hu (fun e he => hsel e (List.mem_cons_of_mem _ he)) htail ?_ hw).mono ?_
      · rintro q hq (hd | ⟨-, rfl⟩)
        · exact hdone q (List.mem_cons_of_mem _ hq) hd
        · exact hnot hq
      · rintro r' q ((hd | ⟨hr, rfl⟩) | ⟨hr, hq⟩)
        · exact .inl hd
        · exact .inr ⟨hr, List.mem_cons_self⟩
        · exact .inr ⟨hr, List.mem_cons_of_mem _ hq⟩
    unfold N4Work.handoverDl at hw
    split at hw
    · cases hw
      exact h.mono fun r' q => .inl
    split at hw
    · rename_i hid
      refine hrest (hset.setOld (hdone e List.mem_cons_self) ?_ .update) hw
      rw [N4Work.modifyEdge_session, PduSession.modifyEdge_edge_self]
      exact hid
    · obtain ⟨u, hu, hw⟩ := Option.bind_eq_some_iff.mp hw
      exact hrest (hset.createRule he (hdone e List.mem_cons_self) hu) hw

theorem handoverUl {e : ℕ} (h : WorkInv s₀ sel done w) (he : sel e) (hdone : ¬ done .pdr e)
    (hw : w.handoverUl e = some w') :
    WorkInv s₀ sel (fun r' q => done r' q ∨ r' = .pdr ∧ q = e) w' := by
  unfold N4Work.handoverUl at hw
  split at hw
  · rename_i hid
    cases hw
    exact h.setOld hdone hid .update
  · exact h.createRule he hdone hw

theorem serviceRequest {e : ℕ} (h : WorkInv s₀ sel done w) (he : sel e) (hdone : ¬ done r e)
    (hw : w.serviceRequest r e = some w') :
    WorkInv s₀ sel (fun r' q => done r' q ∨ r' = r ∧ q = e) w' :=
  (h.modifyEdge he (fun x => { x with precedence := x.precedence + 1 }) rfl).createRule he hdone hw

theorem removePdrAndFar {e : ℕ} (h : WorkInv s₀ sel done w) (he : sel e)
    (hdone : ∀ r, r = .pdr ∨ r = .far → ¬ done r e) :
    WorkInv s₀ sel (fun r' q => done r' q ∨ (r' = .pdr ∨ r' = .far) ∧ q = e) (w.removePdrAndFar e) := by
  have hpdr := h.removeRule (hdone .pdr (.inl rfl))
  have hfar := hpdr.removeRule (r := .far) (e := e) (by
    rintro (hd | ⟨hr, -⟩)
    · exact hdone .far (.inr rfl) hd
    · cases hr)
  refine (hfar.clearSession he).mono ?_
  rintro r' q ((hd | ⟨hr, hq⟩) | ⟨hr, hq⟩)
  · exact .inl hd
  · exact .inr ⟨.inl hr, hq⟩
  · exact .inr ⟨.inr hr, hq⟩

theorem removePdrsAndFars (h : WorkInv s₀ sel done w) (hsel : ∀ e ∈ es, sel e) (hnodup : es.Nodup)
    (hdone : ∀ e ∈ es, ∀ r, r = .pdr ∨ r = .far → ¬ done r e) :
    WorkInv s₀ sel (fun r' q => done r' q ∨ (r' = .pdr ∨ r' = .far) ∧ q ∈ es)
      (es.foldl N4Work.removePdrAndFar w) := by
  refine foldlM (f := fun w e => some (w.removePdrAndFar e)) (R := fun r => r = .pdr ∨ r = .far)
    (fun w e w' done he hd hinv hw => ?_) hsel hnodup hdone h List.foldlM_pure
  cases hw
  exact hinv.removePdrAndFar he hd

end WorkInv

section OneQfi

variable {s s' : PduSession} {upf : UpfEdges} {w w' : N4Work}

theorem dlEdges_nodup : (s.dlEdges upf).Nodup := upf.nodup.filter _

theorem ulEdges_nodup : (s.ulEdges upf).Nodup := upf.nodup.filter _

theorem mem_edges_of_dlEdges : ∀ e ∈ s.dlEdges upf, e ∈ upf.edges := fun _ => List.mem_of_mem_filter

theorem mem_edges_of_ulEdges : ∀ e ∈ s.ulEdges upf, e ∈ upf.edges := fun _ => List.mem_of_mem_filter

theorem sendModification_workInv {qfis : List UInt8} (hqfis : qfis.length ≤ 1)
    (h : WorkInv s (· ∈ upf.edges) (fun _ _ => False) ⟨s', []⟩)
    (hw : N4Work.sendModification s' upf qfis = some w') :
    ∃ done, WorkInv s (· ∈ upf.edges) done w' := by
  have hserved : ∀ edges, (if qfis.isEmpty then edges else (s'.isQfiServedInEdges qfis edges).2) = edges := by
    intro edges
    match qfis, hqfis with
    | [], _ => rfl
    | [q], _ => exact PduSession.isQfiServedInEdges_singleton q
  unfold N4Work.sendModification at hw
  dsimp only at hw
  rw [hserved, hserved] at hw
  split at hw
  · cases hw
    exact ⟨_, h⟩
  · obtain ⟨u, hdl, hul⟩ := Option.bind_eq_some_iff.mp hw
    have hu := h.createRules mem_edges_of_dlEdges dlEdges_nodup (fun e _ hd => hd) hdl
    refine ⟨_, hu.createRules mem_edges_of_ulEdges ulEdges_nodup (fun e _ hd => ?_) hul⟩
    rcases hd with hd | ⟨hr, -⟩
    · exact hd
    · cases hr

/-- **An update for one QFI** changes no edge of another UPF, and names no rule twice. -/
theorem updateSmContext_workInv {usageReporting : Bool} {t : SessionProcedureType} {qfi : UInt8}
    {gnbFteid : Fteid} (h : s.RuleIdsUnique)
    (hw : N4Work.updateSmContext s upf usageReporting ⟨t, [qfi], gnbFteid⟩ = some w') :
    ∃ done, WorkInv s (· ∈ upf.edges) done w' := by
  have hinit : WorkInv s (· ∈ upf.edges) (fun _ _ => False) ⟨s, []⟩ := WorkInv.init h
  unfold N4Work.updateSmContext at hw
  dsimp only at hw
  rw [PduSession.isQfiServedInEdges_singleton, PduSession.isQfiServedInEdges_singleton] at hw
  split at hw
  · cases hw
    exact ⟨_, hinit⟩
  split at hw
  · cases hw
    exact ⟨_, hinit⟩
  have hset : WorkInv s (· ∈ upf.edges) (fun _ _ => False)
      ⟨((s.dlEdges upf).foldl (N4Work.setNextHopFteid gnbFteid) ⟨s, []⟩).session, []⟩ :=
    (hinit.setNextHopFteid mem_edges_of_dlEdges gnbFteid).restart
  split at hw
  iterate 4 exact sendModification_workInv (by simp) hset hw
  iterate 2
    obtain ⟨⟨u, more⟩, hdl, hw⟩ := Option.bind_eq_some_iff.mp hw
    have hu := hinit.handoverDl mem_edges_of_dlEdges dlEdges_nodup (fun e _ hd => hd) hdl
    dsimp only at hw
    split at hw
    · refine ⟨_, WorkInv.foldlM (R := (· = .pdr)) (fun w e w' done he hd hinv hw => ?_)
        mem_edges_of_ulEdges ulEdges_nodup ?_ hu hw⟩
      · exact hinv.handoverUl he (hd .pdr rfl) hw
      · rintro e - r rfl (hd | ⟨hr, -⟩)
        · exact hd
        · cases hr
    · cases hw
      exact ⟨_, hu⟩
  · exact sendModification_workInv (by simp) hset hw
  · obtain ⟨u, hul, hw⟩ := Option.bind_eq_some_iff.mp hw
    obtain ⟨v, hdl, hw⟩ := Option.bind_eq_some_iff.mp hw
    have hu := WorkInv.foldlM (R := (· = .far)) (fun w e w' done he hd hinv hw =>
      hinv.serviceRequest he (hd .far rfl) hw) mem_edges_of_ulEdges ulEdges_nodup (fun e _ r _ hd => hd)
      hinit hul
    have hv := WorkInv.foldlM (R := (· = .pdr)) (fun w e w' done he hd hinv hw =>
      hinv.serviceRequest he (hd .pdr rfl) hw) mem_edges_of_dlEdges dlEdges_nodup (by
        rintro e - r rfl (hd | ⟨hr, -⟩)
        · exact hd
        · cases hr) hu hdl
    split at hw
    · rename_i e _ hdown _ _
      have he : e ∈ upf.edges := mem_edges_of_dlEdges (s := s) e (by
        rw [hdown]
        exact List.mem_cons_self)
      refine ⟨_, hv.createRule he ?_ hw⟩
      rintro ((hd | ⟨hr, -⟩) | ⟨hr, -⟩)
      · exact hd
      · cases hr
      · cases hr
    · cases hw
      exact ⟨_, hv⟩
  · cases hw
    have hul := hinit.removePdrsAndFars (mem_edges_of_ulEdges (s := s)) ulEdges_nodup (fun e _ r _ hd => hd)
    refine ⟨_, hul.removePdrsAndFars mem_edges_of_dlEdges dlEdges_nodup ?_⟩
    rintro e he r - (hd | ⟨-, hmem⟩)
    · exact hd
    · have hdown := (PduSession.mem_dlEdges.mp he).2
      rw [(PduSession.mem_ulEdges.mp hmem).2] at hdown
      cases hdown
  · cases hw
    exact ⟨_, hinit⟩

/-- **An update touches only the QoS flows it names exactly when it names one QFI, which all edges have.** -/
theorem updateTouchesNamed_iff (hs : s.Reached) (upf : UpfEdges) (usageReporting : Bool)
    (qfis : List UInt8) (gnbFteid : Fteid) (hqfis : qfis ≠ [])
    (hexist : ∀ q ∈ qfis, ∃ e ∈ upf.edges, (s.edge e).qfi = q) :
    UpdateTouchesNamed s upf usageReporting qfis gnbFteid ↔
      qfis.length = 1 ∧ ∀ e ∈ upf.edges, (s.edge e).qfi ∈ qfis := by
  have hsplit : ∀ {e}, e ∈ upf.edges → e ∈ s.dlEdges upf ∨ e ∈ s.ulEdges upf := by
    intro e he
    cases hup : (s.edge e).uplink with
    | false => exact .inl (PduSession.mem_dlEdges.mpr ⟨he, hup⟩)
    | true => exact .inr (PduSession.mem_ulEdges.mpr ⟨he, hup⟩)
  constructor
  · intro h
    have hone : ∃ q, qfis = [q] := by
      match qfis, hqfis with
      | [q], _ => exact ⟨q, rfl⟩
      | q :: q' :: rest, _ =>
        obtain ⟨e, he, hq⟩ := hexist q List.mem_cons_self
        rcases hsplit he with hd | hu
        · exact absurd h.dl (PduSession.not_selectsNamed ⟨e, hd, hq⟩)
        · exact absurd h.ul (PduSession.not_selectsNamed ⟨e, hu, hq⟩)
    obtain ⟨q, rfl⟩ := hone
    refine ⟨rfl, fun e he => ?_⟩
    rcases hsplit he with hd | hu
    · refine ((h.dl.2 e).mp ?_).2
      rwa [PduSession.isQfiServedInEdges_singleton]
    · refine ((h.ul.2 e).mp ?_).2
      rwa [PduSession.isQfiServedInEdges_singleton]
  · rintro ⟨hlength, hall⟩
    obtain ⟨q, rfl⟩ := List.length_eq_one_iff.mp hlength
    have hselects : ∀ edges : List ℕ, edges.Nodup → (∀ e ∈ edges, e ∈ upf.edges) →
        s.SelectsNamed [q] edges := by
      intro edges hnodup hsub
      unfold PduSession.SelectsNamed
      rw [PduSession.isQfiServedInEdges_singleton]
      exact ⟨hnodup, fun e => ⟨fun he => ⟨he, hall e (hsub e he)⟩, fun he => he.1⟩⟩
    refine ⟨hselects _ dlEdges_nodup mem_edges_of_dlEdges, hselects _ ulEdges_nodup mem_edges_of_ulEdges,
      fun t w hw e he => ?_, fun t w hw => ?_⟩
    · obtain ⟨done, hinv⟩ := updateSmContext_workInv hs.ruleIdsUnique hw
      exact hinv.frame e fun hmem => he ⟨hmem, hall e hmem⟩
    · obtain ⟨done, hinv⟩ := updateSmContext_workInv hs.ruleIdsUnique hw
      exact hinv.nodup

end OneQfi

/-- A new session: the even edges are downlink N3, the odd ones uplink N6; the first two have QFI 5. -/
def twoFlows : PduSession where
  edge e :=
    { type := if e % 2 = 0 then .n3 else .n6, uplink := e % 2 == 1, qfi := if e < 2 then 5 else 6 }
  generator _ := .empty

theorem twoFlows_reached : twoFlows.Reached := .fresh _ ⟨fun _ _ => rfl, fun _ => rfl⟩

theorem updateTouchesNamed_one :
    twoFlows.Reached ∧ UpdateTouchesNamed twoFlows ⟨[0, 1], by decide⟩ true [5] {} :=
  ⟨twoFlows_reached, (updateTouchesNamed_iff twoFlows_reached ⟨[0, 1], by decide⟩ true [5] {} (by decide)
    (by simp [twoFlows])).mpr ⟨rfl, by simp [twoFlows]⟩⟩

/-- With two QoS flows an update for one selects the edges of both. -/
theorem not_updateTouchesNamed_two :
    twoFlows.Reached ∧ (∀ q ∈ [(5 : UInt8)], ∃ e ∈ [0, 1, 2, 3], (twoFlows.edge e).qfi = q) ∧
      ¬ UpdateTouchesNamed twoFlows ⟨[0, 1, 2, 3], by decide⟩ true [5] {} := by
  refine ⟨twoFlows_reached, by simp [twoFlows], fun h => ?_⟩
  have hselected := (h.dl.2 2).mp (by
    rw [PduSession.isQfiServedInEdges_singleton, PduSession.mem_dlEdges]
    exact ⟨by decide, rfl⟩)
  exact absurd hselected.2 (by simp [twoFlows])

end Oai5g.Smf
