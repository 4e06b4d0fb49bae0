import Oai5g.Upf.Rules

/-!
# The requests `pfcp_switch` handles

`pfcp_session::create`, `remove`, `update` and `cleanup`, and the handlers of the Session Establishment,
Modification and Deletion Requests. The datapath in the kernel (`enable_bpf_datapath`) is off.
-/

namespace Oai5g.Upf

/-! ## Causes -/

/-- `CAUSE_VALUE_*`. -/
inductive Cause
  | requestAccepted
  | requestRejected
  | sessionContextNotFound
  | mandatoryIeMissing
  | conditionalIeMissing
  | ruleCreationModificationFailure
  deriving DecidableEq, Repr

/-- IE type: PDI. -/
def PFCP_IE_PDI : UInt16 := 2

/-- IE type: Create FAR. -/
def PFCP_IE_CREATE_FAR : UInt16 := 3

/-- IE type: Forwarding Parameters. -/
def PFCP_IE_FORWARDING_PARAMETERS : UInt16 := 4

/-- IE type: Duplicating Parameters. -/
def PFCP_IE_DUPLICATING_PARAMETERS : UInt16 := 5

/-- IE type: Source Interface. -/
def PFCP_IE_SOURCE_INTERFACE : UInt16 := 20

/-- IE type: F-TEID. -/
def PFCP_IE_F_TEID : UInt16 := 21

/-- IE type: Precedence. -/
def PFCP_IE_PRECEDENCE : UInt16 := 29

/-- IE type: Apply Action. -/
def PFCP_IE_APPLY_ACTION : UInt16 := 44

/-- IE type: PDR ID. -/
def PFCP_IE_PACKET_DETECTION_RULE_ID : UInt16 := 56

/-- IE type: F-SEID. -/
def PFCP_IE_F_SEID : UInt16 := 57

/-- IE type: FAR ID. -/
def PFCP_IE_FAR_ID : UInt16 := 108

/-- Why a rule is refused: `cause` and, where it is set, `offending_ie`. -/
structure Refusal where
  cause : Cause
  offendingIe : Option UInt16
  deriving DecidableEq, Repr

/-- A mandatory IE is missing. -/
def Refusal.missing (ie : UInt16) : Refusal := ⟨.mandatoryIeMissing, some ie⟩

/-- The request is rejected. -/
def Refusal.rejected : Refusal := ⟨.requestRejected, none⟩

/-- A rule cannot be created or changed. -/
def Refusal.noRule : Refusal := ⟨.ruleCreationModificationFailure, none⟩

/-- The part of `upf_cfg` that is read. -/
structure UpfCfg where
  n3Addr4 : UInt32
  n3Addr6 : BitVec 128
  pfcpFseid : Fseid

/-! ## PDRs and FARs -/

/-- `failed_rule_id_t`. -/
inductive FailedRuleId
  | pdr (id : UInt16)
  | far (id : UInt32)
  deriving DecidableEq, Repr

namespace PfcpSession

/-- The session with another list of PDRs. -/
def setPdrs (session : PfcpSession) (pdrs : List ℕ) : PfcpSession := { session with pdrs := pdrs }

/-- The session with another list of FARs. -/
def setFars (session : PfcpSession) (fars : List ℕ) : PfcpSession := { session with fars := fars }

/-- The session with another F-SEID of the control plane. -/
def setCpFseid (session : PfcpSession) (fseid : Fseid) : PfcpSession :=
  { session with cpFseid := fseid }

end PfcpSession

/-- What `pfcp_session` does alike for its PDRs and its FARs: `ρ` is the rule and `α` its id. -/
structure RuleKind (ρ α : Type) where
  /-- The information element of the id. -/
  ie : UInt16
  failed : α → FailedRuleId
  ident : ρ → α
  cell : PfcpSwitch → ℕ → ρ
  modify : PfcpSwitch → ℕ → (ρ → ρ) → PfcpSwitch
  list : PfcpSession → List ℕ
  setList : PfcpSession → List ℕ → PfcpSession
  list_setList : ∀ session l, list (setList session l) = l
  setList_setList : ∀ session l l', setList (setList session l) l' = setList session l'
  setList_list : ∀ session, setList session (list session) = session
  cell_modifySession : ∀ s r f p, cell (PfcpSwitch.modifySession s r f) p = cell s p
  session_modify : ∀ s p g r, (modify s p g).session r = s.session r
  cell_modify_self : ∀ s p g, cell (modify s p g) p = g (cell s p)
  cell_modify_of_ne : ∀ s p g q, q ≠ p → cell (modify s p g) q = cell s q

/-- The PDRs of a session. -/
def pdrKind : RuleKind PfcpPdr UInt16 where
  ie := PFCP_IE_PACKET_DETECTION_RULE_ID
  failed := .pdr
  ident := PfcpPdr.pdrId
  cell := PfcpSwitch.pdr
  modify := PfcpSwitch.modifyPdr
  list := PfcpSession.pdrs
  setList := PfcpSession.setPdrs
  list_setList _ _ := rfl
  setList_setList _ _ _ := rfl
  setList_list _ := rfl
  cell_modifySession _ _ _ _ := rfl
  session_modify _ _ _ _ := rfl
  cell_modify_self _ _ _ := Heap.modify_cell_self ..
  cell_modify_of_ne _ _ _ _ h := Heap.modify_cell_of_ne _ _ _ h

/-- The FARs of a session. -/
def farKind : RuleKind PfcpFar UInt32 where
  ie := PFCP_IE_FAR_ID
  failed := .far
  ident := PfcpFar.farId
  cell := PfcpSwitch.far
  modify := PfcpSwitch.modifyFar
  list := PfcpSession.fars
  setList := PfcpSession.setFars
  list_setList _ _ := rfl
  setList_setList _ _ _ := rfl
  setList_list _ := rfl
  cell_modifySession _ _ _ _ := rfl
  session_modify _ _ _ _ := rfl
  cell_modify_self _ _ _ := Heap.modify_cell_self ..
  cell_modify_of_ne _ _ _ _ h := Heap.modify_cell_of_ne _ _ _ h

/-! ## One rule of a session -/

namespace PfcpSwitch

/-- `pfcp_switch::generate_fteid_n3`. -/
def generateFteidN3 (cfg : UpfCfg) (s : PfcpSwitch) : Fteid :=
  if cfg.n3Addr4 ≠ 0 then ⟨false, false, true, s.nextTeid, cfg.n3Addr4, 0⟩
  else ⟨false, true, false, s.nextTeid, 0, cfg.n3Addr6⟩

/-- A new FAR, at the end of the list of `r`. -/
def addFar (s : PfcpSwitch) (r : ℕ) (far : PfcpFar) : PfcpSwitch :=
  { s with
    fars := (s.fars.alloc far).1
    sessions := s.sessions.modify r fun session => session.setFars (session.fars ++ [s.fars.next]) }

/-- A new PDR, stored under `key` and at the end of the list of `r`. -/
def addPdr (s : PfcpSwitch) (r : ℕ) (key : LookupKey) (pdr : PfcpPdr) : PfcpSwitch :=
  ({ s with pdrs := (s.pdrs.alloc pdr).1 }.addPfcpPdr key s.pdrs.next).modifySession r fun session =>
    session.setPdrs (session.pdrs ++ [s.pdrs.next])

/-- The checks of `pfcp_session::create(const pfcp::create_far&, ..)`. -/
def checkCreateFar (c : CreateFar) : Except Refusal Unit :=
  match c.farId, c.applyAction with
  | none, _ => .error (.missing PFCP_IE_FAR_ID)
  | some _, none => .error (.missing PFCP_IE_APPLY_ACTION)
  | some _, some action =>
    if action.forw ∧ c.forwardingParameters.isNone then
      .error (.missing PFCP_IE_FORWARDING_PARAMETERS)
    else if action.dupl ∧ c.duplicatingParameters.isNone then
      .error (.missing PFCP_IE_DUPLICATING_PARAMETERS)
    else .ok ()

/-- `pfcp_session::create(const pfcp::create_far&, ..)`. -/
def createFar (r : ℕ) (c : CreateFar) (s : PfcpSwitch) : Except Refusal PfcpSwitch :=
  match checkCreateFar c with
  | .error e => .error e
  | .ok () => .ok (s.addFar r (.ofCreate c))

/-- The checks of `pfcp_session::create(const pfcp::create_pdr&, ..)`: the source interface, and the
F-TEID of an ACCESS PDR or the UE address of a CORE PDR. -/
def checkCreatePdr (c : CreatePdr) : Except Refusal (Fteid ⊕ UInt32) :=
  match c.pdrId, c.pdi, c.precedence with
  | none, _, _ => .error (.missing PFCP_IE_PACKET_DETECTION_RULE_ID)
  | some _, none, _ => .error (.missing PFCP_IE_PDI)
  | some _, some _, none => .error (.missing PFCP_IE_PRECEDENCE)
  | some _, some pdi, some _ =>
    match pdi.sourceInterface with
    | none => .error (.missing PFCP_IE_SOURCE_INTERFACE)
    | some source =>
      if pdi.trafficEndpointId.isSome then .error .rejected
      else if source = INTERFACE_VALUE_ACCESS then
        match pdi.localFteid with
        | none => .error (.missing PFCP_IE_F_TEID)
        | some fteid => .ok (.inl fteid)
      else if source = INTERFACE_VALUE_CORE then
        match pdi.ueIpAddress with
        | none => .error .rejected
        | some ue => if ue.v4 then .ok (.inr (be32toh ue.ipv4Address)) else .error .rejected
      else .error .rejected

/-- `pfcp_session::create(const pfcp::create_pdr&, ..)`, with the F-TEID it allocates: a new TEID is
taken for an F-TEID with the flag CH, the one of the request otherwise. -/
def createPdr (cfg : UpfCfg) (r : ℕ) (c : CreatePdr) (s : PfcpSwitch) :
    Except Refusal (PfcpSwitch × Fteid) :=
  match checkCreatePdr c with
  | .error e => .error e
  | .ok (.inl fteid) =>
    let pdr := PfcpPdr.ofCreate c (s.session r).seid
    if fteid.ch then
      let allocated := s.generateFteidN3 cfg
      .ok ({ s with teidN3Generator := s.teidN3Generator + 1 }.addPdr r (.n3Teid allocated.teid)
        (pdr.setLocalFteid allocated), allocated)
    else .ok (s.addPdr r (.n3Teid fteid.teid) pdr, fteid)
  | .ok (.inr ueIp) =>
    .ok (s.addPdr r (.ueIpv4 ueIp) (PfcpPdr.ofCreate c (s.session r).seid), .zero)

section

variable {ρ α : Type} [DecidableEq α] (kind : RuleKind ρ α)

/-- The rule that `pfcp_session::get` finds. -/
def getRule (r : ℕ) (id : α) (s : PfcpSwitch) : Option ℕ :=
  (kind.list (s.session r)).find? fun p => kind.ident (kind.cell s p) == id

/-- `pfcp_session::remove`: the first rule with the id goes. -/
def removeRule (r : ℕ) (id : Option α) (s : PfcpSwitch) : Except Refusal PfcpSwitch :=
  match id with
  | none => .error (.missing kind.ie)
  | some id =>
    match s.getRule kind r id with
    | none => .error .noRule
    | some _ => .ok (s.modifySession r fun session => kind.setList session
        ((kind.list session).eraseP fun p => kind.ident (kind.cell s p) == id))

/-- `pfcp_session::update`: the first rule with the id is changed in place. -/
def updateRule (r : ℕ) (id : α) (g : ρ → ρ) (s : PfcpSwitch) : Option PfcpSwitch :=
  (s.getRule kind r id).map fun p => kind.modify s p g

end

/-- `get` of a PDR id. -/
def getPdr : ℕ → UInt16 → PfcpSwitch → Option ℕ := getRule pdrKind

/-- `get` of a FAR id. -/
def getFar : ℕ → UInt32 → PfcpSwitch → Option ℕ := getRule farKind

/-- `remove` of a PDR. -/
def removePdr : ℕ → Option UInt16 → PfcpSwitch → Except Refusal PfcpSwitch := removeRule pdrKind

/-- `remove` of a FAR. -/
def removeFar : ℕ → Option UInt32 → PfcpSwitch → Except Refusal PfcpSwitch := removeRule farKind

/-- `update` of a PDR. -/
def updatePdr (r : ℕ) (u : UpdatePdr) : PfcpSwitch → Option PfcpSwitch :=
  updateRule pdrKind r u.pdrId fun pdr => pdr.update u

/-- `update` of a FAR. -/
def updateFar (r : ℕ) (u : UpdateFar) : PfcpSwitch → Option PfcpSwitch :=
  updateRule farKind r u.farId fun far => far.update u

/-- One turn of the loop of `pfcp_session::cleanup`: the list under the key of a PDR goes. -/
def erasePdrKey (s : PfcpSwitch) (p : ℕ) : PfcpSwitch :=
  match (s.pdr p).key with
  | none => s
  | some key => s.removePfcpPdrs key

/-- `pfcp_session::cleanup`. -/
def cleanup (r : ℕ) (s : PfcpSwitch) : PfcpSwitch :=
  ((s.session r).pdrs.foldl erasePdrKey s).modifySession r fun session =>
    (session.setPdrs []).setFars []

/-- `pfcp_switch::remove_pfcp_session(std::shared_ptr<pfcp::pfcp_session>&)`. -/
def removePfcpSession (r : ℕ) (s : PfcpSwitch) : PfcpSwitch :=
  let s := s.cleanup r
  { s with
    cpFseid2pfcpSessions := Function.update s.cpFseid2pfcpSessions (s.session r).cpFseid none
    upSeid2pfcpSessions := Function.update s.upSeid2pfcpSessions (s.session r).seid none }

/-- `pfcp_switch::remove_pfcp_session(const pfcp::fseid_t&)`. -/
def removePfcpSessionByFseid (fseid : Fseid) (s : PfcpSwitch) : PfcpSwitch :=
  match s.cpFseid2pfcpSessions fseid with
  | none => s
  | some r => s.removePfcpSession r

end PfcpSwitch

/-! ## The rules of a request -/

/-- `created_pdr`. -/
structure CreatedPdr where
  pdrId : UInt16
  localFteid : Option Fteid
  deriving DecidableEq, Repr

/-- A response while the handler works on it. -/
structure PfcpResponse where
  cause : Cause
  offendingIe : UInt16
  failedRuleId : Option FailedRuleId
  createdPdrs : List CreatedPdr
  seid : UInt64
  upFseid : Option Fseid
  deriving DecidableEq, Repr

namespace PfcpResponse

/-- The response a handler starts with. -/
def accepted : PfcpResponse := ⟨.requestAccepted, 0, none, [], 0, none⟩

/-- The response tells of a refusal. -/
def refuse (a : PfcpResponse) (e : Refusal) : PfcpResponse :=
  { a with cause := e.cause, offendingIe := e.offendingIe.getD a.offendingIe }

/-- The response names the rule that failed. -/
def setFailedRuleId (a : PfcpResponse) (id : FailedRuleId) : PfcpResponse :=
  { a with failedRuleId := some id }

/-- The response has another cause. -/
def setCause (a : PfcpResponse) (cause : Cause) : PfcpResponse := { a with cause := cause }

/-- The response tells of a created PDR. -/
def addCreatedPdr (a : PfcpResponse) (pdr : CreatedPdr) : PfcpResponse :=
  { a with createdPdrs := a.createdPdrs ++ [pdr] }

end PfcpResponse

namespace PfcpSwitch

/-- The loop over the Create FARs, up to the first that is refused. -/
def createFars (r : ℕ) : List CreateFar → PfcpSwitch × PfcpResponse → PfcpSwitch × PfcpResponse
  | [], (s, a) => (s, a)
  | c :: l, (s, a) =>
    match s.createFar r c with
    | .error e => (s, a.refuse e)
    | .ok s => createFars r l (s, a)

/-- `get(far_id, cr_far)` of a request. -/
def hasCreateFar (fars : List CreateFar) (id : UInt32) : Bool := fars.any fun c => c.farId == some id

/-- What the loop over the Create PDRs looks at before it creates one. -/
def checkFarId (fars : List CreateFar) (c : CreatePdr) : Except Refusal Unit :=
  match c.farId with
  | none => .error (.missing PFCP_IE_FAR_ID)
  | some id => if hasCreateFar fars id then .ok () else .error (.missing PFCP_IE_CREATE_FAR)

/-- The loop over the Create PDRs, up to the first that is refused. The Created PDR has the allocated
F-TEID, with `omitZero` only where it is not zero. -/
def createPdrs (cfg : UpfCfg) (r : ℕ) (fars : List CreateFar) (omitZero : Bool) :
    List CreatePdr → PfcpSwitch × PfcpResponse → PfcpSwitch × PfcpResponse
  | [], (s, a) => (s, a)
  | c :: l, (s, a) =>
    match checkFarId fars c with
    | .error e => (s, a.refuse e)
    | .ok () =>
      match s.createPdr cfg r c with
      | .error e => (s, a.refuse e)
      | .ok (s, fteid) =>
        createPdrs cfg r fars omitZero l (s, a.addCreatedPdr
          ⟨c.pdrId.getD 0, if omitZero && fteid.isZero then none else some fteid⟩)

/-- The loop over the rules to be removed: a missing id is passed over, a missing rule ends it. -/
def removeRules {ρ α : Type} [DecidableEq α] [Inhabited α] (kind : RuleKind ρ α) (r : ℕ) :
    List (Option α) → PfcpSwitch × PfcpResponse → PfcpSwitch × PfcpResponse
  | [], (s, a) => (s, a)
  | id :: l, (s, a) =>
    match s.removeRule kind r id with
    | .ok s => removeRules kind r l (s, a)
    | .error e =>
      if e.cause = .ruleCreationModificationFailure then
        (s, (a.refuse e).setFailedRuleId (kind.failed (id.getD default)))
      else removeRules kind r l (s, a.refuse e)

/-- The loop over the Remove PDRs. -/
def removePdrs : ℕ → List (Option UInt16) → PfcpSwitch × PfcpResponse → PfcpSwitch × PfcpResponse :=
  removeRules pdrKind

/-- The loop over the Remove FARs. -/
def removeFars : ℕ → List (Option UInt32) → PfcpSwitch × PfcpResponse → PfcpSwitch × PfcpResponse :=
  removeRules farKind

/-- The loop over the rules to be changed: `u` changes the rule with the id `id u`, and `missing` is what
a missing rule does to the response. -/
def updateRules {ρ α υ : Type} [DecidableEq α] (kind : RuleKind ρ α) (id : υ → α) (apply : ρ → υ → ρ)
    (missing : PfcpResponse → υ → PfcpResponse) (r : ℕ) :
    List υ → PfcpSwitch × PfcpResponse → PfcpSwitch × PfcpResponse
  | [], (s, a) => (s, a)
  | u :: l, (s, a) =>
    match s.updateRule kind r (id u) fun rule => apply rule u with
    | some s => updateRules kind id apply missing r l (s, a)
    | none => updateRules kind id apply missing r l (s, missing a u)

/-- A missing PDR does not change the cause. -/
def updatePdrs : ℕ → List UpdatePdr → PfcpSwitch × PfcpResponse → PfcpSwitch × PfcpResponse :=
  updateRules pdrKind UpdatePdr.pdrId PfcpPdr.update fun a u => a.setFailedRuleId (.pdr u.pdrId)

/-- A missing FAR does, but the loop goes on. -/
def updateFars : ℕ → List UpdateFar → PfcpSwitch × PfcpResponse → PfcpSwitch × PfcpResponse :=
  updateRules farKind UpdateFar.farId PfcpFar.update fun a u =>
    (a.setCause .ruleCreationModificationFailure).setFailedRuleId (.far u.farId)

/-- A loop that runs only while the cause is `CAUSE_VALUE_REQUEST_ACCEPTED`. -/
def ifAccepted (f : PfcpSwitch × PfcpResponse → PfcpSwitch × PfcpResponse)
    (x : PfcpSwitch × PfcpResponse) : PfcpSwitch × PfcpResponse :=
  if x.2.cause = .requestAccepted then f x else x

end PfcpSwitch

/-! ## The handlers -/

/-- `pfcp_session_establishment_request`; its Node ID is used by the association only. -/
structure EstablishmentRequest where
  cpFseid : Option Fseid
  createFars : List CreateFar
  createPdrs : List CreatePdr
  deriving DecidableEq, Repr

/-- `pfcp_session_modification_request`, with the SEID of its header. -/
structure ModificationRequest where
  seid : UInt64
  cpFseid : Option Fseid
  removePdrs : List (Option UInt16)
  removeFars : List (Option UInt32)
  createFars : List CreateFar
  createPdrs : List CreatePdr
  updatePdrs : List UpdatePdr
  updateFars : List UpdateFar
  deriving DecidableEq, Repr

namespace PfcpSwitch

/-- A new session. -/
def newSession (fseid : Fseid) (s : PfcpSwitch) : PfcpSwitch :=
  { s with
    seidGenerator := s.seidGenerator + 1
    sessions := (s.sessions.alloc ⟨fseid, s.nextSeid, [], []⟩).1 }

/-- The rules of an Establishment Request are made for the new session `r`. -/
def establishRules (cfg : UpfCfg) (r : ℕ) (req : EstablishmentRequest) (s : PfcpSwitch) :
    PfcpSwitch × PfcpResponse :=
  ifAccepted (createPdrs cfg r req.createFars false req.createPdrs)
    (createFars r req.createFars (s, .accepted))

/-- A session whose rules were made is stored under its two keys. -/
def storeSession (cfg : UpfCfg) (r : ℕ) (fseid : Fseid) (x : PfcpSwitch × PfcpResponse) :
    PfcpSwitch × PfcpResponse :=
  let seid := (x.1.session r).seid
  ((x.1.addPfcpSessionByCpFseid fseid r).addPfcpSessionByUpSeid seid r,
    { x.2 with upFseid := some { cfg.pfcpFseid with seid := seid } })

/-- `pfcp_switch::handle_pfcp_session_establishment_request`. -/
def handlePfcpSessionEstablishmentRequest (cfg : UpfCfg) (req : EstablishmentRequest) (s : PfcpSwitch) :
    PfcpSwitch × PfcpResponse :=
  match req.cpFseid with
  | none => (s, PfcpResponse.accepted.refuse (.missing PFCP_IE_F_SEID))
  | some fseid =>
    if (s.cpFseid2pfcpSessions fseid).isSome then (s, PfcpResponse.accepted.refuse .rejected)
    else
      let r := s.sessions.next
      let x := establishRules cfg r req (s.newSession fseid)
      if x.2.cause = .requestAccepted then storeSession cfg r fseid x
      else (x.1.cleanup r, x.2)

/-- The six loops of a Modification Request. -/
def modifyRules (cfg : UpfCfg) (r : ℕ) (req : ModificationRequest) (x : PfcpSwitch × PfcpResponse) :
    PfcpSwitch × PfcpResponse :=
  let x := removePdrs r req.removePdrs x
  let x := ifAccepted (removeFars r req.removeFars) x
  let x := ifAccepted (createFars r req.createFars) x
  let x := ifAccepted (createPdrs cfg r req.createFars true req.createPdrs) x
  ifAccepted (fun x => updateFars r req.updateFars (updatePdrs r req.updatePdrs x)) x

/-- The session after `session->cp_fseid = fseid`. -/
def takeFseid (r : ℕ) (fseid : Option Fseid) (s : PfcpSwitch) : PfcpSwitch :=
  match fseid with
  | none => s
  | some fseid => s.modifySession r fun session => session.setCpFseid fseid

/-- `pfcp_switch::handle_pfcp_session_modification_request`. -/
def handlePfcpSessionModificationRequest (cfg : UpfCfg) (req : ModificationRequest) (s : PfcpSwitch) :
    PfcpSwitch × PfcpResponse :=
  match s.upSeid2pfcpSessions req.seid with
  | none => (s, PfcpResponse.accepted.setCause .sessionContextNotFound)
  | some r =>
    let s := s.takeFseid r req.cpFseid
    modifyRules cfg r req (s, { PfcpResponse.accepted with seid := (s.session r).cpFseid.seid })

/-- `pfcp_switch::handle_pfcp_session_deletion_request`. -/
def handlePfcpSessionDeletionRequest (seid : UInt64) (s : PfcpSwitch) : PfcpSwitch × PfcpResponse :=
  match s.upSeid2pfcpSessions seid with
  | none => (s, PfcpResponse.accepted.setCause .sessionContextNotFound)
  | some r => (s.removePfcpSession r,
      { PfcpResponse.accepted with seid := (s.session r).cpFseid.seid })

end PfcpSwitch

/-- A request to `pfcp_switch`. -/
inductive SessionRequest
  | establishment (req : EstablishmentRequest)
  | modification (req : ModificationRequest)
  | deletion (seid : UInt64)
  deriving DecidableEq, Repr

/-- **One request to `pfcp_switch`.** -/
def switchStep (cfg : UpfCfg) (s : PfcpSwitch) : SessionRequest → PfcpSwitch
  | .establishment req => (s.handlePfcpSessionEstablishmentRequest cfg req).1
  | .modification req => (s.handlePfcpSessionModificationRequest cfg req).1
  | .deletion seid => (s.handlePfcpSessionDeletionRequest seid).1

end Oai5g.Upf
