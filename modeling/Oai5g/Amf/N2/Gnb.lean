import Oai5g.Amf.N2.Steps

/-!
# gNBs and their UEs

The handlers of `ngap_app` and `amf_n2` for SCTP associations, NG Setup, NG Reset, NG Shutdown and the
Initial UE Message, and the part of `amf_app` that gives an AMF UE NGAP ID; with the handovers and
releases of `amf_n2_task`.

* `DlNasTransport`, `InitialContextSetupRequest`, `UeContextReleaseRequest`: the other messages that write
  a UE NGAP context.
* `RanState`: the tables of `N2State`, the `ng_state` of the gNB of each association, and the keys that
  were used in `ranid2uecontext`, for the loop over it.
* A `gnb_context` is made by an association and never changes its association: the contexts of both
  tables with one association are one object.
* The message of `amf_n2` to `amf_app` is handled at any later time; what `amf_n1` makes of its NAS
  contexts is an input. Statistics and what is sent are left out.
-/

namespace Oai5g.Amf

/-- `ng_gnb_state_t`. -/
inductive NgGnbState
  | init
  | reseting
  | ready
  | shutdown
  deriving DecidableEq, Repr

/-- `NgSetupRequestMsg`: the ID of the gNB, whether there is a Supported TA List and a common PLMN, and
whether the UEs are retained. -/
structure NgSetupRequest where
  gnbId : Option UInt32
  supportedTaList : Bool
  commonPlmn : Bool
  uesRetained : Bool
  deriving DecidableEq, Repr

/-- The setup gets as far as `set_gnb_id_2_gnb_context`. -/
def NgSetupRequest.accepted (req : NgSetupRequest) : Bool :=
  req.gnbId.isSome && req.supportedTaList && req.commonPlmn

/-- `UeAssociatedLogicalNgConnectionItem`. -/
structure UeConnectionItem where
  amfUeNgapId : Option UInt64
  ranUeNgapId : Option UInt32
  deriving DecidableEq, Repr

/-- `itti_dl_nas_transport` -/
structure DlNasTransport where
  amfUeNgapId : UInt64
  ranUeNgapId : UInt32
  nas : List UInt8
  deriving DecidableEq, Repr

/-- `itti_initial_context_setup_request` -/
structure InitialContextSetupRequest where
  amfUeNgapId : UInt64
  ranUeNgapId : UInt32
  kgnb : List UInt8
  nas : List UInt8
  deriving DecidableEq, Repr

/-- What the handler reads of a UE Context Release Request. -/
structure UeContextReleaseRequest where
  amfUeNgapId : UInt64
  ranUeNgapId : UInt32
  pduSessions : List UInt8
  deriving DecidableEq, Repr

/-- The AMF as the gNBs see it: the contexts, the states of the gNBs and the keys of the UE NGAP contexts. -/
structure RanState where
  n2 : N2State
  ngState : SctpAssocId → NgGnbState
  ranKeys : List (UInt32 × UInt32)
  amfAppUeNgapIdGenerator : UInt32

/-! ## The removals -/

namespace N2State

variable (s : N2State)

/-- The NAS context of an AMF UE NGAP ID goes. -/
def removeNas (amf : UInt64) : N2State :=
  match s.nas.amfueid2nasContext amf with
  | none => s
  | some n => { s with
      nas := (s.nas.removeSupi2NasContext (s.nas.nc n).supi).removeAmfUeNgapId2NasContext amf }

/-- `remove_ue_context_with_amf_ue_ngap_id`: it returns early where there is a NAS context and no UE
context. -/
def removeUeContextWithAmfUeNgapId (amf : UInt64) : N2State :=
  match s.nas.amfueid2nasContext amf with
  | none => s.removeAmfUeNgapId2UeNgapContext amf
  | some n =>
    match s.ueContexts ((s.nas.nc n).ranUeNgapId, amf) with
    | none => s.removeNas amf
    | some uc =>
      ((s.removeNas amf).removeRanUeNgapId2NgapContext ((s.nas.nc n).ranUeNgapId, uc.gnbId))
        |>.removeAmfUeNgapId2UeNgapContext amf

/-- `remove_ue_context_with_ran_ue_ngap_id`. -/
def removeUeContextWithRanUeNgapId (ran gnbId : UInt32) : N2State :=
  match s.ranid2uecontext (ran, gnbId) with
  | none => s
  | some r =>
    ((s.removeNas (s.unc r).amfUeNgapId).removeAmfUeNgapId2UeNgapContext (s.unc r).amfUeNgapId)
      |>.removeRanUeNgapId2NgapContext (ran, gnbId)

/-- One turn of the loops over the contexts of an association. -/
def releaseUe (gnbId : UInt32) (r : ℕ) : N2State :=
  (s.removeUeContextWithAmfUeNgapId (s.unc r).amfUeNgapId).removeUeContextWithRanUeNgapId
    (s.unc r).ranUeNgapId gnbId

/-! ## Messages that write a UE NGAP context -/

/-- `ran_ue_id_2_ue_ngap_context` by the key of a UE context. -/
def ranUeId2UeNgapContext (ran : UInt32) (amf : UInt64) : Option ℕ :=
  (s.ueContexts (ran, amf)).bind fun uc => s.ranid2uecontext (ran, uc.gnbId)

/-- `set_amf_ue_ngap_id_2_ue_ngap_context` -/
def setAmfUeNgapId2UeNgapContext (amf : UInt64) (r : ℕ) : N2State :=
  { s with amfueid2uecontext := Function.update s.amfueid2uecontext amf (some r) }

/-- `amf_n2::handle_itti_message(itti_dl_nas_transport)`. -/
def handleDlNasTransport (env : N2Env) (msg : DlNasTransport) : N2State :=
  match s.ranUeId2UeNgapContext msg.ranUeNgapId msg.amfUeNgapId with
  | none => s
  | some r =>
    match s.assoc2gnb (s.unc r).gnbAssocId with
    | none => s
    | some gc =>
      let s := s.modifyUnc r fun unc =>
        { unc with amfUeNgapId := msg.amfUeNgapId, ngUeState := .connected }
      (s.setAmfUeNgapId2UeNgapContext msg.amfUeNgapId r).sctpSend env gc.sctpAssocId
        (.downlinkNasTransport msg.amfUeNgapId msg.ranUeNgapId msg.nas)

/-- `amf_n2::handle_itti_message(itti_initial_context_setup_request)`: the NCC is written before the
checks. -/
def handleInitialContextSetupRequest (env : N2Env) (msg : InitialContextSetupRequest) : N2State :=
  match s.ranUeId2UeNgapContext msg.ranUeNgapId msg.amfUeNgapId with
  | none => s
  | some r =>
    let s := s.modifyUnc r fun unc => { unc with ncc := 1 }
    match s.assoc2gnb (s.unc r).gnbAssocId, s.nas.amfueid2nasContext msg.amfUeNgapId with
    | some gc, some _ => s.sctpSend env gc.sctpAssocId
        (.initialContextSetupRequest msg.amfUeNgapId msg.ranUeNgapId msg.kgnb msg.nas)
    | _, _ => s

/-- `amf_n2::handle_itti_message(itti_ue_context_release_request)`. -/
def handleUeContextReleaseRequest (env : N2Env) (assoc : SctpAssocId) (msg : UeContextReleaseRequest) :
    N2State :=
  let s := match s.amfueid2uecontext msg.amfUeNgapId with
    | none => s
    | some r => s.modifyUnc r fun unc =>
        { unc with pduSessionsToBeReleased := responseKeys msg.pduSessions }
  s.sctpSend env assoc (.ueContextReleaseCommand msg.amfUeNgapId msg.ranUeNgapId)

end N2State

/-- The order of the keys of `ranid2uecontext`. -/
def keyLe (k k' : UInt32 × UInt32) : Prop := k.1 < k'.1 ∨ k.1 = k'.1 ∧ k.2 ≤ k'.2

instance : DecidableRel keyLe := fun _ _ => inferInstanceAs (Decidable (_ ∨ _ ∧ _))

namespace RanState

variable (env : N2Env) (s : RanState)

/-- A change of the contexts only. -/
def modifyN2 (f : N2State → N2State) : RanState := { s with n2 := f s.n2 }

/-- The state of a gNB. -/
def setNgState (assoc : SctpAssocId) (st : NgGnbState) : RanState :=
  { s with ngState := Function.update s.ngState assoc st }

/-- `get_ue_ngap_contexts`. -/
def getUeNgapContexts (assoc : SctpAssocId) : List ℕ :=
  ((s.ranKeys.dedup.insertionSort keyLe).filterMap s.n2.ranid2uecontext).filter fun r =>
    (s.n2.unc r).gnbAssocId = assoc

/-- All contexts of an association are removed. -/
def releaseUeContexts (assoc : SctpAssocId) (gnbId : UInt32) : RanState :=
  s.modifyN2 fun n2 => (s.getUeNgapContexts assoc).foldl (fun n2 r => n2.releaseUe gnbId r) n2

/-- The `gnb_context` of an association is written, which both tables share. -/
def setGnb (assoc : SctpAssocId) (gc : GnbContext) : RanState :=
  s.modifyN2 fun n2 => { n2 with
    assoc2gnb := Function.update n2.assoc2gnb assoc (some gc)
    gnbid2gnb := fun id => (n2.gnbid2gnb id).map fun gc' =>
      if gc'.sctpAssocId = assoc then gc else gc' }

/-! ## The handlers -/

/-- `ngap_app::handle_sctp_new_association`. -/
def handleSctpNewAssociation (assoc : SctpAssocId) : RanState :=
  match s.n2.assoc2gnb assoc with
  | none => (s.setGnb assoc ⟨0, assoc⟩).setNgState assoc .init
  | some _ =>
    if s.ngState assoc = .reseting ∨ s.ngState assoc = .shutdown then s
    else s.setNgState assoc .init

/-- `amf_n2::handle_itti_message(itti_ng_setup_request)`: the ID of the gNB is stored before the checks,
and a gNB that is being reset or shut down is set up all the same. -/
def handleNgSetupRequest (assoc : SctpAssocId) (req : NgSetupRequest) : RanState :=
  match s.n2.assoc2gnb assoc, req.gnbId with
  | some gc, some gnbId =>
    let gc := { gc with gnbId := gnbId }
    let s := s.setGnb assoc gc
    if req.supportedTaList ∧ req.commonPlmn then
      let s := s.modifyN2 fun n2 =>
        { n2 with gnbid2gnb := Function.update n2.gnbid2gnb gnbId (some gc) }
      let s := if req.uesRetained then s else s.releaseUeContexts assoc gnbId
      s.setNgState assoc .ready
    else s
  | _, _ => s

/-- `amf_n2::handle_itti_message(itti_ng_reset)` of the whole interface. -/
def handleNgReset (assoc : SctpAssocId) : RanState :=
  match s.n2.assoc2gnb assoc with
  | none => s
  | some gc => (s.setNgState assoc .reseting).releaseUeContexts assoc gc.gnbId

/-- One item of a partial reset. -/
def resetItem (gnbId : UInt32) (n2 : N2State) (item : UeConnectionItem) : N2State :=
  match item.amfUeNgapId, item.ranUeNgapId with
  | some amf, _ => n2.removeUeContextWithAmfUeNgapId amf
  | none, some ran => n2.removeUeContextWithRanUeNgapId ran gnbId
  | none, none => n2

/-- `amf_n2::handle_itti_message(itti_ng_reset)` of a part of the interface. -/
def handleNgResetPart (assoc : SctpAssocId) (items : List UeConnectionItem) : RanState :=
  match s.n2.assoc2gnb assoc with
  | none => s
  | some gc => (s.setNgState assoc .reseting).modifyN2 fun n2 => items.foldl (resetItem gc.gnbId) n2

/-- `amf_n2::handle_itti_message(itti_ng_shutdown)`: `remove_gnb_context` expects the ID of the gNB and
gets that of the association. -/
def handleNgShutdown (assoc : SctpAssocId) : RanState :=
  match s.n2.assoc2gnb assoc with
  | none => s
  | some gc =>
    ((s.setNgState assoc .shutdown).releaseUeContexts assoc gc.gnbId).modifyN2 fun n2 =>
      { n2 with gnbid2gnb := Function.update n2.gnbid2gnb assoc none }

/-- `ue_ngap_context::ue_ngap_context`. -/
def newUnc : UeNgapContext :=
  { ranUeNgapId := 0, amfUeNgapId := INVALID_AMF_UE_NGAP_ID, targetRanUeNgapId := 0, gnbAssocId := 0,
    targetGnbAssocId := 0, ngUeState := .invalid, ncc := 0, releaseCause := 0, releaseGnb := 0,
    pduSessionsToBeReleased := [] }

/-- `amf_n2::handle_itti_message(itti_initial_ue_message)`, up to where the context is stored. -/
def handleInitialUeMessage (assoc : SctpAssocId) (ran : UInt32) : RanState :=
  match s.n2.assoc2gnb assoc with
  | none => s
  | some gc =>
    if s.ngState assoc = .init then s
    else
      let here (r : ℕ) (n2 : N2State) : N2State :=
        n2.modifyUnc r fun unc => { unc with ranUeNgapId := ran, gnbAssocId := assoc }
      match s.n2.ranid2uecontext (ran, gc.gnbId) with
      | some r => s.modifyN2 (here r)
      | none =>
        { s with
          ranKeys := (ran, gc.gnbId) :: s.ranKeys
          n2 := here s.n2.uncs.next
            ({ s.n2 with uncs := (s.n2.uncs.alloc newUnc).1 }.setRanUeNgapId2UeNgapContext
              (ran, gc.gnbId) s.n2.uncs.next) }

/-- `amf_app::generate_amf_ue_ngap_id`. -/
def generateAmfUeNgapId : UInt64 := s.amfAppUeNgapIdGenerator.toUInt64

/-- `amf_app::handle_itti_message(itti_nas_signalling_establishment_request&)`. -/
def handleNasEstablishment (ran gnbId : UInt32) (location : UserLocation) : RanState :=
  let amf := s.generateAmfUeNgapId
  let n2 := match s.n2.ranid2uecontext (ran, gnbId) with
    | none => s.n2
    | some r =>
      let n2 := s.n2.modifyUnc r fun unc => { unc with amfUeNgapId := amf }
      { n2 with amfueid2uecontext := Function.update n2.amfueid2uecontext amf (some r) }
  { s with
    amfAppUeNgapIdGenerator := s.amfAppUeNgapIdGenerator + 1
    n2 := n2.setUeContext (ran, amf)
      { ranUeNgapId := ran, amfUeNgapId := amf, gnbId := gnbId, location := location } }

/-- The key that a Handover Notify sets. -/
def newKey : N2Event → List (UInt32 × UInt32)
  | .handoverNotify assoc msg => ((s.n2.assoc2gnb assoc).map fun gc => (msg.ranUeNgapId, gc.gnbId)).toList
  | _ => []

end RanState

/-- An event at the gNBs. -/
inductive NgapEvent
  | association (assoc : SctpAssocId)
  | setup (assoc : SctpAssocId) (req : NgSetupRequest)
  | reset (assoc : SctpAssocId)
  | resetPart (assoc : SctpAssocId) (items : List UeConnectionItem)
  | shutdown (assoc : SctpAssocId)
  | initialUe (assoc : SctpAssocId) (ran : UInt32)
  | nasEstablishment (ran gnbId : UInt32) (location : UserLocation)
  | dlNasTransport (msg : DlNasTransport)
  | initialContextSetupRequest (msg : InitialContextSetupRequest)
  | ueContextReleaseRequest (assoc : SctpAssocId) (msg : UeContextReleaseRequest)
  | n1 (nas : NasMaps)
  | n2 (e : N2Event)

/-- **One event at the gNBs.** -/
def ngapStep (env : N2Env) (s : RanState) : NgapEvent → RanState
  | .association assoc => s.handleSctpNewAssociation assoc
  | .setup assoc req => s.handleNgSetupRequest assoc req
  | .reset assoc => s.handleNgReset assoc
  | .resetPart assoc items => s.handleNgResetPart assoc items
  | .shutdown assoc => s.handleNgShutdown assoc
  | .initialUe assoc ran => s.handleInitialUeMessage assoc ran
  | .nasEstablishment ran gnbId location => s.handleNasEstablishment ran gnbId location
  | .dlNasTransport msg => s.modifyN2 fun n2 => n2.handleDlNasTransport env msg
  | .initialContextSetupRequest msg => s.modifyN2 fun n2 => n2.handleInitialContextSetupRequest env msg
  | .ueContextReleaseRequest assoc msg => s.modifyN2 fun n2 =>
      n2.handleUeContextReleaseRequest env assoc msg
  | .n1 nas => s.modifyN2 fun n2 => { n2 with nas := nas }
  | .n2 e => { s with ranKeys := s.newKey e ++ s.ranKeys, n2 := amfN2Task env s.n2 e }

/-- No gNB and no UE. -/
def RanState.start : RanState :=
  { n2 :=
      { assoc2gnb := fun _ => none, gnbid2gnb := fun _ => none
        uncs := ⟨fun _ => RanState.newUnc, 0⟩, amfueid2uecontext := fun _ => none
        ranid2uecontext := fun _ => none, nas := NasMaps.empty, ueContexts := fun _ => none
        pduSessions := fun _ => [], sent := [] }
    ngState := fun _ => .init, ranKeys := [], amfAppUeNgapIdGenerator := 1 }

end Oai5g.Amf
