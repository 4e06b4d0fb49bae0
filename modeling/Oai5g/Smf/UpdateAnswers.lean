import Oai5g.Smf.StateMachine
import Oai5g.Smf.SmContexts
import Oai5g.Smf.Update

/-!
# The answers to an Update SM Context request

* `UpdateSmContext`: the request with what its decoders and encoders say; `updateSmContext`: the HTTP responses that are
  triggered for it, in order.
* `AnsweredOnce`; **`answeredOnce_iff`**: the requests and procedure outcomes with exactly one response.
-/

namespace Oai5g.Smf

/-! ## Responses -/

/-- The causes of the error answers. -/
inductive ApplicationError
  | contextNotFound | n1SmError | n2SmError | networkFailure | peerNotResponding | ueNotResponding
  deriving DecidableEq

/-- What a request is answered. -/
inductive UpdateResponse
  /-- `trigger_update_context_error_response` -/
  | error (httpCode : ℕ) (cause : ApplicationError)
  /-- `trigger_http_response` -/
  | http (httpCode : ℕ)
  /-- The pending ITTI response. -/
  | pending
  deriving DecidableEq

/-- What a handler does: it returns true or false, and triggers a response before or not. -/
inductive Handled
  | passes
  | answers (r : UpdateResponse)
  | refuses
  | refusesWith (r : UpdateResponse)

/-- The responses when `rest` is what follows. `smf_app` adds an error to every false. -/
def Handled.andThen (h : Handled) (rest : List UpdateResponse) : List UpdateResponse :=
  match h with
  | passes => rest
  | answers r => r :: rest
  | refuses => [.error 500 .networkFailure]
  | refusesWith r => [r, .error 500 .networkFailure]

/-! ## The request -/

/-- An N1 message, decoded. The flags: the command or the reject to it can be encoded. -/
inductive N1SmMessage
  | undecodable
  | modificationRequest (commandCreated : Bool)
  | modificationComplete
  | modificationCommandReject
  | releaseRequest (rejectCreated : Bool)
  | releaseComplete
  | unknown

/-- N2 information by its type, with the success of its decoder, and of the encoder of a reject. -/
inductive N2SmInfo
  | pduResSetupRsp (decoded rejectCreated : Bool)
  | pduResSetupFail (decoded rejectCreated : Bool)
  | pduResModRsp (decoded : Bool)
  | pduResRelRsp (decoded : Bool)
  | pathSwitchReq (toBeSwitched decoded : Bool)
  | handoverRequired (decoded : Bool)
  | handoverReqAck (decoded : Bool)
  | handoverResAllocFail (decoded : Bool)
  | secondaryRatUsage
  /-- The types that nothing is done for. -/
  | other
  deriving DecidableEq

/-- The values of upCnxState that are told apart. -/
inductive UpCnxStateText
  | deactivated | activating | other
  deriving DecidableEq

/-- The values of hoState that are told apart. -/
inductive HoStateText
  | completed | cancelled | other
  deriving DecidableEq

/-- What a procedure meets at the UPFs. -/
structure UpfOutcome where
  /-- There is a graph with a first UPF. -/
  upfFound : Bool
  qfisServed : Bool
  /-- A DL edge has the F-TEID of the gNB already. -/
  dlFteidUnchanged : Bool
  sent : Bool
  /-- The UPFs answer every message. -/
  answered : Bool

/-- An Update SM Context request. -/
structure UpdateSmContext where
  scid : Option ℕ
  n1 : Option N1SmMessage
  n2 : Option N2SmInfo
  /-- The N2 information is a secondary RAT usage report. -/
  secondaryRatDecoded : Bool
  upCnxState : Option UpCnxStateText
  release : Bool
  hoState : Option HoStateText
  /-- The encoder of an establishment reject. -/
  rejectCreated : Bool
  upf : UpfOutcome

/-- The part of a `smf_pdu_session` that an update reads. -/
structure UpdatedSession where
  status : PduSessionStatus
  upCnxActivating : Bool
  hasSessionGraph : Bool

/-- What `smf_app` finds for an SM context reference. -/
structure UpdateContexts where
  scid2smfContext : ℕ → Option SessionKey
  supi2smfContext : UInt64 → Bool
  pduSessions : SessionKey → Option UpdatedSession

/-! ## Handlers -/

/-- A decoder fails. -/
def decodedOr (decoded : Bool) (h : Handled) : Handled := if decoded then h else .refusesWith (.error 403 .n2SmError)

/-- An error with an N1 message, or without one. -/
def rejectOr (created : Bool) (cause : ApplicationError) : UpdateResponse :=
  if created then .error 403 cause else .http 500

/-- Step 2.1 -/
def handleN1 (t : UpdatedSession) : N1SmMessage → Handled
  | .undecodable => .refusesWith (.error 403 .n1SmError)
  | .modificationRequest commandCreated =>
    if t.status = .inactivePending ∨ t.status = .modificationPending then .refuses
    else if commandCreated then .passes else .refusesWith (.http 500)
  | .releaseRequest rejectCreated =>
    if t.status = .inactive then .refusesWith (rejectOr rejectCreated .networkFailure)
    else if t.status = .inactivePending then .refuses
    else .passes
  | .modificationComplete | .modificationCommandReject | .releaseComplete | .unknown => .passes

/-- Step 2.2 -/
def handleN2 (t : UpdatedSession) : N2SmInfo → Handled
  | .pduResSetupRsp decoded rejectCreated =>
    if decoded then .passes else .refusesWith (rejectOr rejectCreated .n2SmError)
  | .pduResSetupFail decoded rejectCreated => decodedOr decoded (.answers (rejectOr rejectCreated .ueNotResponding))
  | .pduResRelRsp decoded => decodedOr decoded (.answers (.http 200))
  | .pathSwitchReq toBeSwitched decoded => if toBeSwitched then decodedOr decoded .passes else .passes
  | .handoverRequired decoded =>
    decodedOr decoded (if t.hasSessionGraph then .passes else .refusesWith (.error 403 .networkFailure))
  | .pduResModRsp decoded | .handoverReqAck decoded | .handoverResAllocFail decoded => decodedOr decoded .passes
  | .secondaryRatUsage | .other => .passes

namespace UpdateSmContext

variable (req : UpdateSmContext) (t : UpdatedSession)

/-- Step 3 is taken. -/
def forUpCnxState : Bool := req.n1.isNone && req.n2.isNone && req.upCnxState.isSome

/-- Step 3 -/
def handleUpCnxState : Handled :=
  if req.forUpCnxState && req.upCnxState = some .other then .refuses else .passes

/-- The request is taken for a handover execution. -/
def handoverExecution : Bool :=
  (req.hoState.isSome || req.n2.isSome) && (req.hoState = some .completed || req.n2 = some .secondaryRatUsage)

/-- The request is taken for a handover cancellation. -/
def handoverCancellation : Bool := req.hoState = some .cancelled

/-- Step 5 -/
def handleHandover : Handled :=
  if req.handoverExecution then decodedOr req.secondaryRatDecoded .passes else .passes

/-- `update_upf` after Step 2. -/
def n1n2UpdateUpf : Bool :=
  match req.n2 with
  | some (.pduResSetupRsp ..) | some (.pduResModRsp _) | some (.pathSwitchReq ..) | some (.handoverReqAck _) => true
  | some (.handoverRequired _) | some (.handoverResAllocFail _) => false
  | _ => match req.n1 with
    | some (.releaseRequest _) => true
    | _ => false

/-- `update_upf` -/
def updateUpf : Bool :=
  (req.n1n2UpdateUpf || req.forUpCnxState || req.release) && !req.handoverExecution && !req.handoverCancellation

/-- `pdu_session_release_procedure` -/
def releaseProcedure : Bool :=
  req.release ||
    (match req.n1 with
      | some (.releaseRequest _) | some .releaseComplete => true
      | _ => false) ||
    (match req.n2 with
      | some (.pduResRelRsp _) => true
      | _ => false)

/-- `procedure_type` of an update procedure. -/
def procedureType : SessionProcedureType :=
  match req.n2 with
  | some (.pduResSetupRsp ..) =>
    if t.upCnxActivating then .serviceRequestUeTriggeredStep2 else .pduSessionEstablishmentUeRequested
  | some (.pduResModRsp _) => .pduSessionModificationUeInitiatedStep2
  | some (.pathSwitchReq ..) => .hoPathSwitchReq
  | some (.handoverReqAck _) => .n2HoPreparationPhaseStep2
  | _ => match req.upCnxState with
    | some .deactivated => .pduSessionReleaseAnInitiated
    | some .activating => .serviceRequestUeTriggeredStep1
    | _ => .unknown

end UpdateSmContext

/-! ## Procedures -/

/-- What the procedure comes to. -/
inductive RunOutcome
  | error
  /-- Messages to the UPFs are under way. -/
  | sent
  /-- The procedure ends without a message. -/
  | done
  deriving DecidableEq

/-- `session_update_sm_context_procedure::run` -/
def runUpdate (type : SessionProcedureType) (upf : UpfOutcome) : RunOutcome :=
  if upf.upfFound && upf.qfisServed then
    match type with
    | .hoPathSwitchReq | .n2HoPreparationPhaseStep2 =>
      if upf.dlFteidUnchanged then .done else if upf.sent then .sent else .error
    | .serviceRequestUeTriggeredStep2 => if upf.sent then .sent else .done
    | .unknown => .error
    | _ => if upf.sent then .sent else .error
  else .error

/-- `session_release_sm_context_procedure::run` -/
def runRelease (upf : UpfOutcome) : RunOutcome :=
  if upf.upfFound && upf.sent then .sent else .error

/-- The pending response is triggered with the last answer of the UPFs. -/
def responseOf (outcome : RunOutcome) (upf : UpfOutcome) (error : UpdateResponse) : List UpdateResponse :=
  match outcome with
  | .error => [error, .error 500 .networkFailure]
  | .sent => if upf.answered then [.pending] else []
  | .done => []

/-- The last step: a procedure, or the pending response. -/
def finishUpdate (req : UpdateSmContext) (t : UpdatedSession) : List UpdateResponse :=
  if req.updateUpf then
    if req.releaseProcedure then responseOf (runRelease req.upf) req.upf (.http 403)
    else responseOf (runUpdate (req.procedureType t) req.upf) req.upf
      (if req.procedureType t = .pduSessionEstablishmentUeRequested then rejectOr req.rejectCreated .peerNotResponding
        else .error 403 .peerNotResponding)
  else [.pending]

/-- `smf_context::handle_pdu_session_update_sm_context_request` with the error of `smf_app`. -/
def updateSession (req : UpdateSmContext) (t : UpdatedSession) : List UpdateResponse :=
  (req.n1.elim .passes (handleN1 t)).andThen <| (req.n2.elim .passes (handleN2 t)).andThen <|
    req.handleUpCnxState.andThen <| req.handleHandover.andThen <| finishUpdate req t

/-- The session of the request. -/
def UpdateContexts.sessionOf (c : UpdateContexts) (req : UpdateSmContext) : Option UpdatedSession :=
  (req.scid.bind c.scid2smfContext).bind fun k => if c.supi2smfContext k.1 then c.pduSessions k else none

/-- `smf_app::handle_pdu_session_update_sm_context_request`. DNN and S-NSSAI of the request are those of the session. -/
def updateSmContext (c : UpdateContexts) (req : UpdateSmContext) : List UpdateResponse :=
  match c.sessionOf req with
  | none => [.error 404 .contextNotFound]
  | some t => updateSession req t

/-- `trigger_http_response` removes the promise when it sets it: the first response is the one that is sent. -/
def promiseValue (triggered : List UpdateResponse) : Option UpdateResponse := triggered.head?

/-- **One response is triggered**, and it is the one that is sent. -/
structure AnsweredOnce (triggered : List UpdateResponse) : Prop where
  one : triggered.length = 1
  isSent : ∀ r ∈ triggered, promiseValue triggered = some r

/-! ## The condition -/

/-- The N1 message is ignored in this state. -/
def N1Ignored (t : UpdatedSession) : N1SmMessage → Prop
  | .modificationRequest _ => t.status = .inactivePending ∨ t.status = .modificationPending
  | .releaseRequest _ => t.status = .inactivePending
  | _ => False

/-- The N1 message is taken in the state of the session. -/
def N1Accepted (t : UpdatedSession) : N1SmMessage → Prop
  | .undecodable => False
  | .modificationRequest commandCreated =>
    t.status ≠ .inactivePending ∧ t.status ≠ .modificationPending ∧ commandCreated = true
  | .releaseRequest _ => t.status ≠ .inactive ∧ t.status ≠ .inactivePending
  | _ => True

/-- The N2 information is taken in the state of the session. -/
def N2Accepted (t : UpdatedSession) : N2SmInfo → Prop
  | .pduResSetupRsp decoded _ | .pduResModRsp decoded | .handoverReqAck decoded | .handoverResAllocFail decoded =>
    decoded = true
  | .pathSwitchReq toBeSwitched decoded => toBeSwitched = true → decoded = true
  | .handoverRequired decoded => decoded = true ∧ t.hasSessionGraph = true
  | .pduResSetupFail .. | .pduResRelRsp _ => False
  | .secondaryRatUsage | .other => True

/-- A setup failure or a release response, decoded. -/
def N2Final : N2SmInfo → Prop
  | .pduResSetupFail decoded _ | .pduResRelRsp decoded => decoded = true
  | _ => False

namespace UpdateSmContext

variable (req : UpdateSmContext) (t : UpdatedSession)

/-- The UPFs get a message and answer, when the request has a procedure. -/
def UpfConforms : Prop :=
  req.updateUpf = true → req.upf.upfFound = true ∧ req.upf.sent = true ∧ req.upf.answered = true ∧
    (req.releaseProcedure = false → req.upf.qfisServed = true ∧ req.procedureType t ≠ .unknown ∧
      (req.procedureType t = .hoPathSwitchReq ∨ req.procedureType t = .n2HoPreparationPhaseStep2 →
        req.upf.dlFteidUnchanged = false))

/-- **The condition**: the request is ignored; or it is accepted, and has an `upCnxState` that is not known, or
decodable information on a handover and an answer of the UPFs; or a setup failure or release response comes with a
release that no UPF answers. -/
def AnswerConforms : Prop :=
  (∃ m, req.n1 = some m ∧ N1Ignored t m) ∨
    (∀ m, req.n1 = some m → N1Accepted t m) ∧
      ((∀ i, req.n2 = some i → N2Accepted t i) ∧
          ((req.forUpCnxState = true ∧ req.upCnxState = some .other) ∨
            ¬ (req.forUpCnxState = true ∧ req.upCnxState = some .other) ∧
              (req.handoverExecution = true → req.secondaryRatDecoded = true) ∧ req.UpfConforms t) ∨
        (∃ i, req.n2 = some i ∧ N2Final i) ∧ req.updateUpf = true ∧ req.upf.upfFound = true ∧ req.upf.sent = true ∧
          req.upf.answered = false)

end UpdateSmContext

/-! ## Handlers -/

section

variable {h : Handled} {rest : List UpdateResponse} {t : UpdatedSession} {req : UpdateSmContext}

theorem answeredOnce_iff_length {triggered : List UpdateResponse} :
    AnsweredOnce triggered ↔ triggered.length = 1 := by
  refine ⟨AnsweredOnce.one, fun h => ⟨h, fun r hr => ?_⟩⟩
  obtain ⟨a, rfl⟩ := List.length_eq_one_iff.mp h
  rw [List.mem_singleton.mp hr]
  rfl

theorem Handled.length_andThen : (h.andThen rest).length = 1 ↔
    h = .refuses ∨ h = .passes ∧ rest.length = 1 ∨ (∃ r, h = .answers r) ∧ rest = [] := by
  cases h <;> simp [andThen]

theorem Handled.andThen_eq_nil : h.andThen rest = [] ↔ h = .passes ∧ rest = [] := by
  cases h <;> simp [andThen]

theorem decodedOr_eq_passes {decoded : Bool} : decodedOr decoded h = .passes ↔ decoded = true ∧ h = .passes := by
  cases decoded <;> simp [decodedOr]

theorem decodedOr_eq_refuses {decoded : Bool} : decodedOr decoded h = .refuses ↔ decoded = true ∧ h = .refuses := by
  cases decoded <;> simp [decodedOr]

theorem decodedOr_eq_answers {decoded : Bool} {r : UpdateResponse} :
    decodedOr decoded h = .answers r ↔ decoded = true ∧ h = .answers r := by
  cases decoded <;> simp [decodedOr]

theorem handleN1_eq_refuses (m : N1SmMessage) : handleN1 t m = .refuses ↔ N1Ignored t m := by
  cases m with
  | modificationRequest commandCreated =>
    unfold handleN1 N1Ignored
    cases commandCreated <;> split_ifs with hstatus <;> simp [hstatus]
  | releaseRequest rejectCreated =>
    unfold handleN1 N1Ignored
    split_ifs with hinactive hpending <;> simp [*]
  | _ => simp [handleN1, N1Ignored]

theorem handleN1_eq_passes (m : N1SmMessage) : handleN1 t m = .passes ↔ N1Accepted t m := by
  cases m with
  | modificationRequest commandCreated =>
    simp only [handleN1, N1Accepted, ← and_assoc, ne_eq, ← not_or]
    split_ifs with hstatus hcreated <;> simp [*]
  | releaseRequest rejectCreated =>
    unfold handleN1 N1Accepted
    split_ifs with hinactive hpending <;> simp [*]
  | _ => simp [handleN1, N1Accepted]

theorem handleN1_ne_answers (m : N1SmMessage) (r : UpdateResponse) : handleN1 t m ≠ .answers r := by
  cases m with
  | modificationRequest commandCreated =>
    simp only [handleN1]
    split_ifs <;> simp
  | releaseRequest rejectCreated =>
    simp only [handleN1]
    split_ifs <;> simp
  | _ => simp [handleN1]

theorem handleN2_eq_passes (i : N2SmInfo) : handleN2 t i = .passes ↔ N2Accepted t i := by
  cases i with
  | pduResSetupRsp decoded rejectCreated => cases decoded <;> simp [handleN2, N2Accepted]
  | pathSwitchReq toBeSwitched decoded =>
    cases toBeSwitched <;> simp [handleN2, N2Accepted, decodedOr_eq_passes]
  | handoverRequired decoded =>
    unfold handleN2 N2Accepted
    rw [decodedOr_eq_passes]
    cases t.hasSessionGraph <;> simp
  | _ => simp [handleN2, N2Accepted, decodedOr_eq_passes]

theorem handleN2_ne_refuses (i : N2SmInfo) : handleN2 t i ≠ .refuses := by
  cases i with
  | pduResSetupRsp decoded rejectCreated => cases decoded <;> simp [handleN2]
  | pathSwitchReq toBeSwitched decoded => cases toBeSwitched <;> simp [handleN2, decodedOr_eq_refuses]
  | handoverRequired decoded =>
    rw [handleN2, Ne, decodedOr_eq_refuses]
    cases t.hasSessionGraph <;> simp
  | _ => simp [handleN2, decodedOr_eq_refuses]

theorem handleN2_eq_answers (i : N2SmInfo) : (∃ r, handleN2 t i = .answers r) ↔ N2Final i := by
  cases i with
  | pduResSetupRsp decoded rejectCreated => cases decoded <;> simp [handleN2, N2Final]
  | pathSwitchReq toBeSwitched decoded =>
    cases toBeSwitched <;> simp [handleN2, N2Final, decodedOr_eq_answers]
  | handoverRequired decoded =>
    simp only [handleN2, N2Final, decodedOr_eq_answers]
    cases t.hasSessionGraph <;> simp
  | _ => simp [handleN2, N2Final, decodedOr_eq_answers]

theorem handleUpCnxState_eq_refuses : req.handleUpCnxState = .refuses ↔
    req.forUpCnxState = true ∧ req.upCnxState = some .other := by
  unfold UpdateSmContext.handleUpCnxState
  split_ifs with hother <;> simpa using hother

theorem handleUpCnxState_eq_passes : req.handleUpCnxState = .passes ↔
    ¬ (req.forUpCnxState = true ∧ req.upCnxState = some .other) := by
  unfold UpdateSmContext.handleUpCnxState
  split_ifs with hother <;> simpa using hother

theorem handleHandover_eq_passes : req.handleHandover = .passes ↔
    (req.handoverExecution = true → req.secondaryRatDecoded = true) := by
  unfold UpdateSmContext.handleHandover
  split_ifs with hexecution
  · rw [decodedOr_eq_passes]
    simp [hexecution]
  · simp [hexecution]

variable (req) in
theorem handleHandover_passes_or : req.handleHandover = .passes ∨
    ∃ r, req.handleHandover = .refusesWith r := by
  unfold UpdateSmContext.handleHandover decodedOr
  split_ifs
  · exact .inl rfl
  · exact .inr ⟨_, rfl⟩
  · exact .inl rfl

/-! ## The last step -/

theorem responseOf_length {outcome : RunOutcome} {upf : UpfOutcome} {error : UpdateResponse} :
    (responseOf outcome upf error).length = 1 ↔ outcome = .sent ∧ upf.answered = true := by
  cases outcome <;> cases hanswered : upf.answered <;> simp [responseOf, hanswered]

theorem responseOf_eq_nil {outcome : RunOutcome} {upf : UpfOutcome} {error : UpdateResponse} :
    responseOf outcome upf error = [] ↔ outcome = .done ∨ outcome = .sent ∧ upf.answered = false := by
  cases outcome <;> cases hanswered : upf.answered <;> simp [responseOf, hanswered]

theorem runRelease_eq_sent {upf : UpfOutcome} : runRelease upf = .sent ↔ upf.upfFound = true ∧ upf.sent = true := by
  unfold runRelease
  split_ifs with hsent <;> simpa using hsent

theorem runRelease_ne_done {upf : UpfOutcome} : runRelease upf ≠ .done := by
  unfold runRelease
  split_ifs <;> simp

theorem runUpdate_eq_sent {type : SessionProcedureType} {upf : UpfOutcome} : runUpdate type upf = .sent ↔
    upf.upfFound = true ∧ upf.sent = true ∧ upf.qfisServed = true ∧ type ≠ .unknown ∧
      (type = .hoPathSwitchReq ∨ type = .n2HoPreparationPhaseStep2 → upf.dlFteidUnchanged = false) := by
  unfold runUpdate
  by_cases hfound : (upf.upfFound && upf.qfisServed) = true
  · obtain ⟨hupf, hserved⟩ := Bool.and_eq_true_iff.mp hfound
    rw [if_pos hfound, hupf, hserved]
    cases type <;> cases upf.sent <;> cases upf.dlFteidUnchanged <;> simp
  · rw [if_neg hfound]
    rw [Bool.and_eq_true, not_and_or] at hfound
    rcases hfound with hfound | hfound <;> simp [hfound]

theorem finishUpdate_length : (finishUpdate req t).length = 1 ↔ req.UpfConforms t := by
  unfold finishUpdate UpdateSmContext.UpfConforms
  cases hupdate : req.updateUpf with
  | false => simp
  | true =>
    rw [if_pos rfl, forall_prop_of_true rfl]
    cases hrelease : req.releaseProcedure with
    | true =>
      rw [if_pos rfl, responseOf_length, runRelease_eq_sent]
      simp [and_assoc]
    | false =>
      rw [if_neg (by decide), responseOf_length, runUpdate_eq_sent]
      simp only [true_imp_iff]
      tauto

theorem finishUpdate_eq_nil (hrelease : req.releaseProcedure = true ∨ req.updateUpf = false) :
    finishUpdate req t = [] ↔
      req.updateUpf = true ∧ req.upf.upfFound = true ∧ req.upf.sent = true ∧ req.upf.answered = false := by
  unfold finishUpdate
  cases hupdate : req.updateUpf with
  | false => simp
  | true =>
    rw [if_pos rfl]
    rcases hrelease with hrelease | hrelease
    · rw [if_pos hrelease, responseOf_eq_nil, or_iff_right runRelease_ne_done, runRelease_eq_sent]
      simp [and_assoc]
    · rw [hupdate] at hrelease
      cases hrelease

theorem releaseProcedure_of_final {i : N2SmInfo} (hi : req.n2 = some i) (hfinal : N2Final i) :
    req.releaseProcedure = true ∨ req.updateUpf = false := by
  unfold UpdateSmContext.releaseProcedure UpdateSmContext.updateUpf UpdateSmContext.n1n2UpdateUpf
    UpdateSmContext.forUpCnxState
  rw [hi]
  cases hr : req.release with
  | true => exact .inl (by simp)
  | false =>
    cases i with
    | pduResSetupFail decoded rejectCreated =>
      cases req.n1 with
      | none => exact .inr (by simp)
      | some m => cases m <;> simp
    | pduResRelRsp decoded => exact .inl (by simp)
    | _ => cases hfinal

/-! ## The answers -/

theorem forUpCnxState_of_n2 {i : N2SmInfo} (hi : req.n2 = some i) : req.forUpCnxState = false := by
  unfold UpdateSmContext.forUpCnxState
  rw [hi]
  simp

theorem handoverExecution_of_updateUpf (h : req.updateUpf = true) : req.handoverExecution = false := by
  unfold UpdateSmContext.updateUpf at h
  simp only [Bool.and_eq_true, Bool.not_eq_true'] at h
  exact h.1.2

/-- **One session**: the request is answered once exactly when it conforms. -/
theorem updateSession_length : (updateSession req t).length = 1 ↔ req.AnswerConforms t := by
  have hn1 : (req.n1.elim .passes (handleN1 t) = .refuses ↔ ∃ m, req.n1 = some m ∧ N1Ignored t m) ∧
      (req.n1.elim .passes (handleN1 t) = .passes ↔ ∀ m, req.n1 = some m → N1Accepted t m) ∧
      ∀ r, req.n1.elim .passes (handleN1 t) ≠ .answers r := by
    cases req.n1 with
    | none => simp
    | some m => simp [handleN1_eq_refuses, handleN1_eq_passes, handleN1_ne_answers]
  have hn2 : req.n2.elim .passes (handleN2 t) ≠ .refuses ∧
      (req.n2.elim .passes (handleN2 t) = .passes ↔ ∀ i, req.n2 = some i → N2Accepted t i) ∧
      ((∃ r, req.n2.elim .passes (handleN2 t) = .answers r) ↔ ∃ i, req.n2 = some i ∧ N2Final i) := by
    cases req.n2 with
    | none => simp
    | some i => simp [handleN2_ne_refuses, handleN2_eq_passes, handleN2_eq_answers]
  have hhandover : (req.handleHandover.andThen (finishUpdate req t)).length = 1 ↔
      (req.handoverExecution = true → req.secondaryRatDecoded = true) ∧ req.UpfConforms t := by
    rw [Handled.length_andThen, handleHandover_eq_passes, finishUpdate_length]
    rcases handleHandover_passes_or req with heq | ⟨r, heq⟩ <;> simp [heq]
  have hcnx : (req.handleUpCnxState.andThen (req.handleHandover.andThen (finishUpdate req t))).length = 1 ↔
      (req.forUpCnxState = true ∧ req.upCnxState = some .other) ∨
        ¬ (req.forUpCnxState = true ∧ req.upCnxState = some .other) ∧
          (req.handoverExecution = true → req.secondaryRatDecoded = true) ∧ req.UpfConforms t := by
    have hanswers : ¬ ∃ r, req.handleUpCnxState = .answers r := by
      rintro ⟨r, heq⟩
      unfold UpdateSmContext.handleUpCnxState at heq
      split_ifs at heq
    rw [Handled.length_andThen, handleUpCnxState_eq_refuses, handleUpCnxState_eq_passes, hhandover]
    simp only [hanswers, false_and, or_false]
  -- with final N2 information nothing follows but the release
  have hfinal : ((∃ i, req.n2 = some i ∧ N2Final i) ∧
        req.handleUpCnxState.andThen (req.handleHandover.andThen (finishUpdate req t)) = []) ↔
      (∃ i, req.n2 = some i ∧ N2Final i) ∧ req.updateUpf = true ∧ req.upf.upfFound = true ∧ req.upf.sent = true ∧
        req.upf.answered = false := by
    refine and_congr_right ?_
    rintro ⟨i, hi, hf⟩
    rw [Handled.andThen_eq_nil, Handled.andThen_eq_nil, handleUpCnxState_eq_passes, handleHandover_eq_passes,
      finishUpdate_eq_nil (releaseProcedure_of_final hi hf), forUpCnxState_of_n2 hi]
    constructor
    · exact fun h => h.2.2
    · intro h
      refine ⟨by simp, fun hexecution => ?_, h⟩
      rw [handoverExecution_of_updateUpf h.1] at hexecution
      cases hexecution
  have hn2rest : ((req.n2.elim .passes (handleN2 t)).andThen
        (req.handleUpCnxState.andThen (req.handleHandover.andThen (finishUpdate req t)))).length = 1 ↔ _ :=
    Handled.length_andThen.trans
      ((or_iff_right hn2.1).trans (or_congr (and_congr hn2.2.1 hcnx) ((and_congr_left' hn2.2.2).trans hfinal)))
  have hno : ¬ ∃ r, req.n1.elim .passes (handleN1 t) = .answers r := fun ⟨r, hr⟩ => hn1.2.2 r hr
  refine Handled.length_andThen.trans (or_congr hn1.1 ?_)
  rw [or_iff_left fun h => hno h.1]
  exact and_congr hn1.2.1 hn2rest

end

/-- One active session. -/
def oneUpdatedSession : UpdateContexts where
  scid2smfContext scid := if scid = 1 then some (1, 1) else none
  supi2smfContext _ := true
  pduSessions _ := some ⟨.active, false, true⟩

/-- A path switch to the F-TEID that the session has already. -/
def samePathSwitch : UpdateSmContext where
  scid := some 1
  n1 := none
  n2 := some (.pathSwitchReq true true)
  secondaryRatDecoded := false
  upCnxState := none
  release := false
  hoState := none
  rejectCreated := true
  upf := ⟨true, true, true, true, true⟩

end Oai5g.Smf
