import Oai5g.Amf.N2.Gnb
import Oai5g.Amf.N2.Refusal

/-!
# The UE after an N2 handover

A run of the four messages of one handover, interleaved with messages of other UEs.

* `OfOther`, `Frame`: a message of another UE and what it leaves alone (`ngapStep_frame`,
  `run_frame`).
* `Ongoing`: what holds of the UE from Handover Required up to the release of the source side.
* `Notified`: the release fields name the target gNB, since the UE context is read after its gNB was
  replaced.
* `keepsConnected_iff`: the handover ends as it should only when source and target gNB have one id.
-/

namespace Oai5g.Amf

/-! ## Runs -/

/-- The UE of a handover: its ids at both gNBs, its NGAP context and its NAS context. -/
structure HandoverUe where
  amf : UInt64
  sourceRan : UInt32
  sourceGnb : UInt32
  targetRan : UInt32
  targetGnb : UInt32
  unc : ℕ
  nc : ℕ

/-- The messages of a handover and those of other UEs between them. -/
structure HandoverRun where
  sourceAssoc : SctpAssocId
  targetAssoc : SctpAssocId
  required : HandoverRequired
  answers : SmfAnswers
  answers' : SmfAnswers
  others : List NgapEvent
  ack : HandoverRequestAck
  ackAnswers : SmfAnswers
  others' : List NgapEvent
  notify : HandoverNotify
  others'' : List NgapEvent
  complete : UeContextReleaseComplete

namespace HandoverRun

variable (run : HandoverRun)

/-- The Handover Required of the source. -/
def requiredEvent : N2Event :=
  .handoverRequired run.sourceAssoc run.required run.answers run.answers'

/-- The acknowledgement of the target. -/
def ackEvent : N2Event := .handoverRequestAck run.targetAssoc run.ack run.ackAnswers

/-- The Handover Notify of the target. -/
def notifyEvent : N2Event := .handoverNotify run.targetAssoc run.notify

/-- The release at the source is complete. -/
def completeEvent : N2Event := .ueContextReleaseComplete run.sourceAssoc run.complete

/-- Up to the acknowledgement of the target. -/
def untilAck : List NgapEvent := .n2 run.requiredEvent :: run.others ++ [.n2 run.ackEvent]

/-- Up to Handover Notify. -/
def untilNotify : List NgapEvent := run.untilAck ++ run.others' ++ [.n2 run.notifyEvent]

/-- All but the last message. -/
def untilRelease : List NgapEvent := run.untilNotify ++ run.others''

end HandoverRun

namespace N2Event

/-- The association of a message. -/
def assoc : N2Event → SctpAssocId
  | handoverRequired assoc _ _ _ => assoc
  | handoverRequestAck assoc _ _ => assoc
  | handoverNotify assoc _ => assoc
  | ueContextReleaseComplete assoc _ => assoc

/-- The AMF and RAN UE NGAP IDs of a message. -/
def ids : N2Event → UInt64 × UInt32
  | handoverRequired _ msg _ _ => (msg.amfUeNgapId, msg.ranUeNgapId)
  | handoverRequestAck _ msg _ => (msg.amfUeNgapId, msg.ranUeNgapId)
  | handoverNotify _ msg => (msg.amfUeNgapId, msg.ranUeNgapId)
  | ueContextReleaseComplete _ msg => (msg.amfUeNgapId, msg.ranUeNgapId)

end N2Event

section

variable (env : N2Env) (u : HandoverUe)

/-- A handover message of another UE: its AMF UE NGAP ID is another and leads to other contexts, and at
neither gNB has it the RAN UE NGAP ID of this one. -/
structure OtherIds (s : N2State) (e : N2Event) : Prop where
  amf : e.ids.1 ≠ u.amf
  unc : s.amfueid2uecontext e.ids.1 ≠ some u.unc
  nc : s.nas.amfueid2nasContext e.ids.1 ≠ some u.nc
  ran : ∀ gc, s.assoc2gnb e.assoc = some gc →
    (e.ids.2, gc.gnbId) ≠ (u.sourceRan, u.sourceGnb) ∧
      (e.ids.2, gc.gnbId) ≠ (u.targetRan, u.targetGnb)

/-- A key of another UE. -/
structure OtherKey (s : N2State) (key : UInt32 × UInt32) : Prop where
  source : key ≠ (u.sourceRan, u.sourceGnb)
  target : key ≠ (u.targetRan, u.targetGnb)
  unc : s.ranid2uecontext key ≠ some u.unc

/-- **A message of another UE**: when it arrives its ids lead to other contexts. What `amf_n1` makes of its NAS
contexts keeps this UE's. -/
def OfOther (s : RanState) : NgapEvent → Prop
  | .initialUe assoc ran => s.n2.uncs.next ≠ u.unc ∧
      ∀ gc, s.n2.assoc2gnb assoc = some gc → OtherKey u s.n2 (ran, gc.gnbId)
  | .nasEstablishment ran gnbId _ =>
      s.generateAmfUeNgapId ≠ u.amf ∧ s.n2.ranid2uecontext (ran, gnbId) ≠ some u.unc
  | .dlNasTransport msg => msg.amfUeNgapId ≠ u.amf ∧
      s.n2.ranUeId2UeNgapContext msg.ranUeNgapId msg.amfUeNgapId ≠ some u.unc
  | .initialContextSetupRequest msg =>
      s.n2.ranUeId2UeNgapContext msg.ranUeNgapId msg.amfUeNgapId ≠ some u.unc
  | .ueContextReleaseRequest _ msg => s.n2.amfueid2uecontext msg.amfUeNgapId ≠ some u.unc
  | .n1 nas => nas.amfueid2nasContext u.amf = s.n2.nas.amfueid2nasContext u.amf ∧
      (nas.nc u.nc).nasStatus = (s.n2.nas.nc u.nc).nasStatus
  | .n2 e => OtherIds u s.n2 e
  | .association _ | .setup _ _ | .reset _ | .resetPart _ _ | .shutdown _ => False

/-- What the messages of a handover find and say when each is handled to its end. -/
structure Succeeds (s : RanState) (run : HandoverRun) : Prop where
  sourceGnb : (s.n2.assoc2gnb run.sourceAssoc).map GnbContext.gnbId = some u.sourceGnb
  targetGnb : (s.n2.assoc2gnb run.targetAssoc).map GnbContext.gnbId = some u.targetGnb
  amfUe : s.n2.amfueid2uecontext u.amf = some u.unc
  nas : s.n2.nas.amfueid2nasContext u.amf = some u.nc
  ue : (s.n2.ueContexts (u.sourceRan, u.amf)).isSome
  connected : (s.n2.nas.nc u.nc).nasStatus = .connected
  required : (N2Event.ids run.requiredEvent) = (u.amf, u.sourceRan)
  found : findHandoverUe s.n2 run.sourceAssoc run.required = some u.unc
  prepares : Prepares s.n2 run.required
  target : run.required.targetGnbId = u.targetGnb
  others : Along (ngapStep env) (OfOther u) (ngapStep env s (.n2 run.requiredEvent)) run.others
  ack : (N2Event.ids run.ackEvent) = (u.amf, u.targetRan)
  admitted : run.ack.admitted.isSome
  others' : Along (ngapStep env) (OfOther u) (Oai5g.run (ngapStep env) s run.untilAck) run.others'
  notify : (N2Event.ids run.notifyEvent) = (u.amf, u.targetRan)
  location : run.notify.userLocationInfoNr.isSome
  others'' : Along (ngapStep env) (OfOther u) (Oai5g.run (ngapStep env) s run.untilNotify) run.others''
  complete : (N2Event.ids run.completeEvent) = (u.amf, u.sourceRan)

/-- A PDU session deactivation. -/
def N2Out.isDeactivated : N2Out → Bool
  | .smf .deactivated _ _ _ => true
  | _ => false

/-- The UE is served by the target. -/
structure KeepsConnected (s : RanState) (ho : HandoverRun) : Prop where
  requestOnce : ((sentBy env s.n2 ho.requiredEvent).filterMap N2Out.requestNcc).length = 1
  underAmfId :
    (run (ngapStep env) s (ho.untilRelease ++ [.n2 ho.completeEvent])).n2.amfueid2uecontext u.amf =
      some u.unc
  underTarget :
    (run (ngapStep env) s (ho.untilRelease ++ [.n2 ho.completeEvent])).n2.ranid2uecontext
      (u.targetRan, u.targetGnb) = some u.unc
  sourceGone :
    (run (ngapStep env) s (ho.untilRelease ++ [.n2 ho.completeEvent])).n2.ranid2uecontext
      (u.sourceRan, u.sourceGnb) = none
  connected :
    ((run (ngapStep env) s (ho.untilRelease ++ [.n2 ho.completeEvent])).n2.nas.nc u.nc).nasStatus =
      .connected
  noDeactivation :
    (sentBy env (run (ngapStep env) s ho.untilRelease).n2 ho.completeEvent).filter
      N2Out.isDeactivated = []

/-! ## Messages of other UEs -/

/-- What a message of another UE leaves alone. -/
structure Frame (s s' : N2State) : Prop where
  amfUe : s'.amfueid2uecontext u.amf = s.amfueid2uecontext u.amf
  unc : s'.unc u.unc = s.unc u.unc
  source : s'.ranid2uecontext (u.sourceRan, u.sourceGnb) =
    s.ranid2uecontext (u.sourceRan, u.sourceGnb)
  target : s'.ranid2uecontext (u.targetRan, u.targetGnb) =
    s.ranid2uecontext (u.targetRan, u.targetGnb)
  nas : s'.nas.amfueid2nasContext u.amf = s.nas.amfueid2nasContext u.amf
  nc : (s'.nas.nc u.nc).nasStatus = (s.nas.nc u.nc).nasStatus
  ue : s'.ueContexts (u.sourceRan, u.amf) = s.ueContexts (u.sourceRan, u.amf)
  gnbs : s'.assoc2gnb = s.assoc2gnb

/-- What holds of the UE until the source side is released. -/
structure Ongoing (s : N2State) : Prop where
  amfUe : s.amfueid2uecontext u.amf = some u.unc
  amf : (s.unc u.unc).amfUeNgapId = u.amf
  nas : s.nas.amfueid2nasContext u.amf = some u.nc
  ue : (s.ueContexts (u.sourceRan, u.amf)).isSome
  connected : (s.nas.nc u.nc).nasStatus = .connected

variable {u} {s s' : N2State}

theorem Frame.refl : Frame u s s := ⟨rfl, rfl, rfl, rfl, rfl, rfl, rfl, rfl⟩

theorem Frame.trans {s'' : N2State} (h : Frame u s s') (h' : Frame u s' s'') : Frame u s s'' :=
  ⟨h'.1.trans h.1, h'.2.trans h.2, h'.3.trans h.3, h'.4.trans h.4, h'.5.trans h.5, h'.6.trans h.6,
    h'.7.trans h.7, h'.8.trans h.8⟩

theorem Frame.ongoing (h : Frame u s s') (hs : Ongoing u s) : Ongoing u s' where
  amfUe := h.amfUe.trans hs.amfUe
  amf := by rw [h.unc, hs.amf]
  nas := h.nas.trans hs.nas
  ue := by rw [h.ue, hs.ue]
  connected := h.nc.trans hs.connected

theorem OtherIds.unc_ne {e : N2Event} (he : OtherIds u s e) {q : ℕ}
    (hq : s.amfueid2uecontext e.ids.1 = some q) : u.unc ≠ q := by
  rintro rfl
  exact he.unc hq

theorem OtherIds.nc_ne {e : N2Event} (he : OtherIds u s e) {q : ℕ}
    (hq : s.nas.amfueid2nasContext e.ids.1 = some q) : u.nc ≠ q := by
  rintro rfl
  exact he.nc hq

theorem findHandoverUe_amfUeNgapId {assoc : SctpAssocId} {msg : HandoverRequired} {q : ℕ}
    (h : findHandoverUe s assoc msg = some q) : (s.unc q).amfUeNgapId = msg.amfUeNgapId := by
  unfold findHandoverUe at h
  split at h
  · cases h
  · split at h
    · cases h
    · split_ifs at h with h1 h2
      cases h
      exact not_not.mp h1

theorem modifyNc_nc_of_ne (s : N2State) {r q : ℕ} (f : NasContext → NasContext) (h : q ≠ r) :
    (s.modifyNc r f).nas.nc q = s.nas.nc q := Heap.modify_cell_of_ne _ _ _ h

theorem amfN2Task_frame {e : N2Event} (hs : Ongoing u s) (he : OtherIds u s e) :
    Frame u s (amfN2Task env s e) := by
  cases e with
  | handoverRequired assoc msg answers answers' =>
    cases hf : findHandoverUe s assoc msg with
    | none =>
      rw [amfN2Task, dispatch_of_none env answers answers' hf]
      exact ⟨rfl, rfl, rfl, rfl, rfl, rfl, rfl, rfl⟩
    | some q =>
      have hq : u.unc ≠ q := by
        rintro rfl
        exact he.amf ((findHandoverUe_amfUeNgapId hf).symm.trans hs.amf)
      have ht := dispatch_sameTables env answers answers' hf
      have hu := dispatch_unc_of_ne env answers answers' hf hq
      simp only [amfN2Task]
      exact ⟨by rw [ht.amfueid2uecontext], hu, by rw [ht.ranid2uecontext], by rw [ht.ranid2uecontext],
        by rw [ht.nas], by rw [ht.nas], by rw [ht.ueContexts], ht.assoc2gnb⟩
  | handoverRequestAck assoc msg answers =>
    rcases handleHandoverRequestAck_cases env s assoc msg answers with h | ⟨q, _, _, hq, h⟩
    · rw [amfN2Task, h]
      exact .refl
    · have hu := congrArg N2State.uncs h
      dsimp only at hu
      have hu := N2State.unc_of_modify_of_ne hu (he.unc_ne hq)
      rw [h] at hu
      rw [amfN2Task, h]
      exact ⟨rfl, hu, rfl, rfl, rfl, rfl, rfl, rfl⟩
  | handoverNotify assoc msg =>
    rcases handleHandoverNotify_cases env s assoc msg with
      h | ⟨gc, q, location, n, _, hgc, hq, hn, h⟩
    · rw [amfN2Task, h]
      exact .refl
    · obtain ⟨h1, h2⟩ := he.ran gc hgc
      have hnc := modifyNc_nc_of_ne s (fun nc => { nc with ranUeNgapId := msg.ranUeNgapId })
        (he.nc_ne hn)
      have hu := congrArg N2State.uncs h
      dsimp only at hu
      have hu := N2State.unc_of_modify_of_ne hu (he.unc_ne hq)
      rw [h] at hu
      rw [amfN2Task, h]
      refine ⟨rfl, hu, ?_, ?_, rfl, congrArg _ hnc, ?_, rfl⟩
      · exact Function.update_of_ne h1.symm _ _
      · exact Function.update_of_ne h2.symm _ _
      · exact Function.update_of_ne (fun h => he.amf (congrArg Prod.snd h).symm) _ _
  | ueContextReleaseComplete assoc msg =>
    rcases handleUeContextReleaseComplete_cases s assoc msg with h | ⟨q, gc, hq, hgc, h⟩
    · rw [amfN2Task, h]
      exact .refl
    · obtain ⟨h1, h2⟩ := he.ran gc hgc
      have source := Function.update_of_ne h1.symm (none : Option ℕ) s.ranid2uecontext
      have target := Function.update_of_ne h2.symm (none : Option ℕ) s.ranid2uecontext
      have amf := Function.update_of_ne he.amf.symm (none : Option ℕ) s.amfueid2uecontext
      rcases h with ⟨-, h⟩ | ⟨n, nas, _, hn, hnas, h⟩
      · have hu := congrArg N2State.uncs h
        dsimp only at hu
        have hu := N2State.unc_of_modify_of_ne hu (he.unc_ne hq)
        rw [h] at hu
        rw [amfN2Task, h]
        exact ⟨rfl, hu, source, target, rfl, rfl, rfl, rfl⟩
      · rw [amfN2Task, h]
        rcases hnas with rfl | rfl
        · exact ⟨amf, rfl, source, target, rfl, rfl, rfl, rfl⟩
        · have hnc := modifyNc_nc_of_ne s (fun nc => { nc with nasStatus := .idle }) (he.nc_ne hn)
          exact ⟨amf, rfl, source, target, rfl, congrArg _ hnc, rfl, rfl⟩

theorem amfN2Task_assoc2gnb (e : N2Event) : (amfN2Task env s e).assoc2gnb = s.assoc2gnb := by
  cases e with
  | handoverRequired assoc msg answers answers' =>
    cases hf : findHandoverUe s assoc msg with
    | none => rw [amfN2Task, dispatch_of_none env answers answers' hf]; rfl
    | some q => exact (dispatch_sameTables env answers answers' hf).assoc2gnb
  | handoverRequestAck assoc msg answers =>
    rcases handleHandoverRequestAck_cases env s assoc msg answers with h | ⟨_, _, _, -, h⟩ <;>
      rw [amfN2Task, h]
  | handoverNotify assoc msg =>
    rcases handleHandoverNotify_cases env s assoc msg with h | ⟨_, _, _, _, _, -, -, -, h⟩ <;>
      rw [amfN2Task, h]
  | ueContextReleaseComplete assoc msg =>
    rcases handleUeContextReleaseComplete_cases s assoc msg with
      h | ⟨_, _, -, -, ⟨-, h⟩ | ⟨_, _, _, -, -, h⟩⟩ <;>
      rw [amfN2Task, h]

/-- Another UE NGAP context is written. -/
theorem frame_modifyUnc {r : ℕ} (hr : r ≠ u.unc) (f : UeNgapContext → UeNgapContext) :
    Frame u s (s.modifyUnc r f) :=
  ⟨rfl, s.modifyUnc_unc_of_ne f hr.symm, rfl, rfl, rfl, rfl, rfl, rfl⟩

/-- Another AMF UE NGAP ID gets a context. -/
theorem frame_setAmfUeNgapId {amf : UInt64} (hamf : amf ≠ u.amf) (r : ℕ) :
    Frame u s (s.setAmfUeNgapId2UeNgapContext amf r) :=
  ⟨Function.update_of_ne hamf.symm _ _, rfl, rfl, rfl, rfl, rfl, rfl, rfl⟩

theorem frame_initialUe {t : RanState} {assoc : SctpAssocId} {ran : UInt32}
    (he : OfOther u t (.initialUe assoc ran)) : Frame u t.n2 (t.handleInitialUeMessage assoc ran).n2 := by
  obtain ⟨hnew, hkey⟩ := he
  unfold RanState.handleInitialUeMessage
  cases hgc : t.n2.assoc2gnb assoc with
  | none => exact .refl
  | some gc =>
    dsimp only
    split_ifs
    · exact .refl
    · have hother := hkey gc hgc
      cases hr : t.n2.ranid2uecontext (ran, gc.gnbId) with
      | some r => exact frame_modifyUnc (fun h => hother.unc (h ▸ hr)) _
      | none =>
        -- a new context, under a key that is not the UE's
        have halloc : Frame u t.n2
            ({ t.n2 with uncs := (t.n2.uncs.alloc RanState.newUnc).1 }.setRanUeNgapId2UeNgapContext
              (ran, gc.gnbId) t.n2.uncs.next) :=
          ⟨rfl, Function.update_of_ne hnew.symm _ _, Function.update_of_ne hother.source.symm _ _,
            Function.update_of_ne hother.target.symm _ _, rfl, rfl, rfl, rfl⟩
        exact halloc.trans (frame_modifyUnc hnew _)

theorem frame_nasEstablishment {t : RanState} {ran gnbId : UInt32} {location : UserLocation}
    (he : OfOther u t (.nasEstablishment ran gnbId location)) :
    Frame u t.n2 (t.handleNasEstablishment ran gnbId location).n2 := by
  obtain ⟨hamf, hkey⟩ := he
  have hue : ∀ (n2 : N2State) (uc : UeContext), Frame u n2 (n2.setUeContext (ran, t.generateAmfUeNgapId) uc) :=
    fun n2 uc => ⟨rfl, rfl, rfl, rfl, rfl, rfl,
      Function.update_of_ne (fun h => hamf (congrArg Prod.snd h).symm) _ _, rfl⟩
  unfold RanState.handleNasEstablishment
  cases hr : t.n2.ranid2uecontext (ran, gnbId) with
  | none => exact hue _ _
  | some r =>
    have hunc : Frame u t.n2 (t.n2.modifyUnc r fun unc => { unc with amfUeNgapId := t.generateAmfUeNgapId }) :=
      frame_modifyUnc (fun h => hkey (h ▸ hr)) _
    exact (hunc.trans (frame_setAmfUeNgapId hamf r)).trans (hue _ _)

theorem frame_dlNasTransport {msg : DlNasTransport} (hamf : msg.amfUeNgapId ≠ u.amf)
    (hunc : s.ranUeId2UeNgapContext msg.ranUeNgapId msg.amfUeNgapId ≠ some u.unc) :
    Frame u s (s.handleDlNasTransport env msg) := by
  unfold N2State.handleDlNasTransport
  cases hr : s.ranUeId2UeNgapContext msg.ranUeNgapId msg.amfUeNgapId with
  | none => exact .refl
  | some r =>
    dsimp only
    cases s.assoc2gnb (s.unc r).gnbAssocId with
    | none => exact .refl
    | some gc =>
      have hwrite : Frame u s (s.modifyUnc r fun unc =>
          { unc with amfUeNgapId := msg.amfUeNgapId, ngUeState := .connected }) :=
        frame_modifyUnc (fun h => hunc (h ▸ hr)) _
      exact (hwrite.trans (frame_setAmfUeNgapId hamf r)).trans ⟨rfl, rfl, rfl, rfl, rfl, rfl, rfl, rfl⟩

theorem frame_initialContextSetupRequest {msg : InitialContextSetupRequest}
    (hunc : s.ranUeId2UeNgapContext msg.ranUeNgapId msg.amfUeNgapId ≠ some u.unc) :
    Frame u s (s.handleInitialContextSetupRequest env msg) := by
  unfold N2State.handleInitialContextSetupRequest
  cases hr : s.ranUeId2UeNgapContext msg.ranUeNgapId msg.amfUeNgapId with
  | none => exact .refl
  | some r =>
    have hncc : Frame u s (s.modifyUnc r fun unc => { unc with ncc := 1 }) :=
      frame_modifyUnc (fun h => hunc (h ▸ hr)) _
    dsimp only
    split
    · exact hncc.trans ⟨rfl, rfl, rfl, rfl, rfl, rfl, rfl, rfl⟩
    · exact hncc

theorem frame_ueContextReleaseRequest {assoc : SctpAssocId} {msg : UeContextReleaseRequest}
    (hunc : s.amfueid2uecontext msg.amfUeNgapId ≠ some u.unc) :
    Frame u s (s.handleUeContextReleaseRequest env assoc msg) := by
  unfold N2State.handleUeContextReleaseRequest
  cases hr : s.amfueid2uecontext msg.amfUeNgapId with
  | none => exact ⟨rfl, rfl, rfl, rfl, rfl, rfl, rfl, rfl⟩
  | some r =>
    have hwrite : Frame u s (s.modifyUnc r fun unc =>
        { unc with pduSessionsToBeReleased := responseKeys msg.pduSessions }) :=
      frame_modifyUnc (fun h => hunc (h ▸ hr)) _
    exact hwrite.trans ⟨rfl, rfl, rfl, rfl, rfl, rfl, rfl, rfl⟩

/-- **A message of another UE leaves the UE alone.** -/
theorem ngapStep_frame {t : RanState} {e : NgapEvent} (hs : Ongoing u t.n2) (he : OfOther u t e) :
    Frame u t.n2 (ngapStep env t e).n2 := by
  cases e with
  | association assoc => exact he.elim
  | setup assoc req => exact he.elim
  | reset assoc => exact he.elim
  | resetPart assoc items => exact he.elim
  | shutdown assoc => exact he.elim
  | initialUe assoc ran => exact frame_initialUe he
  | nasEstablishment ran gnbId location => exact frame_nasEstablishment he
  | dlNasTransport msg => exact frame_dlNasTransport env he.1 he.2
  | initialContextSetupRequest msg => exact frame_initialContextSetupRequest env he
  | ueContextReleaseRequest assoc msg => exact frame_ueContextReleaseRequest env he
  | n1 nas => exact ⟨rfl, rfl, rfl, rfl, he.1, he.2, rfl, rfl⟩
  | n2 e => exact amfN2Task_frame env hs he

/-- **Messages of other UEs leave the UE alone.** -/
theorem run_frame {t : RanState} {es : List NgapEvent} (hs : Ongoing u t.n2)
    (h : Along (ngapStep env) (OfOther u) t es) : Frame u t.n2 (run (ngapStep env) t es).n2 := by
  refine (Along.invariant (I := fun t' : RanState => Frame u t.n2 t'.n2 ∧ Ongoing u t'.n2) ?_ ⟨.refl, hs⟩ h).1
  intro t' e hI he
  have hframe := ngapStep_frame env hI.2 he
  exact ⟨hI.1.trans hframe, hframe.ongoing hI.2⟩

/-! ## The messages of the handover -/

/-- What Handover Notify leaves behind: the release fields name the target gNB. -/
structure Notified (u : HandoverUe) (s : N2State) : Prop where
  cause : (s.unc u.unc).releaseCause = successfulHandover
  gnb : (s.unc u.unc).releaseGnb = u.targetGnb
  target : s.ranid2uecontext (u.targetRan, u.targetGnb) = some u.unc

theorem Frame.notified (h : Frame u s s') (hs : Notified u s) : Notified u s' where
  cause := by rw [h.unc, hs.cause]
  gnb := by rw [h.unc, hs.gnb]
  target := by rw [h.target, hs.target]

theorem ongoing_required {assoc : SctpAssocId} {msg : HandoverRequired}
    (answers answers' : SmfAnswers) (hf : findHandoverUe s assoc msg = some u.unc) (hs : Ongoing u s) :
    Ongoing u (amfN2Task env s (.handoverRequired assoc msg answers answers')) := by
  have ht := dispatch_sameTables env answers answers' hf
  obtain ⟨_, hu⟩ := dispatch_unc env answers answers' hf
  simp only [amfN2Task]
  exact ⟨by rw [ht.amfueid2uecontext, hs.amfUe], by rw [hu, hs.amf], by rw [ht.nas, hs.nas],
    by rw [ht.ueContexts]; exact hs.ue, by rw [ht.nas, hs.connected]⟩

theorem ongoing_ack (assoc : SctpAssocId) (msg : HandoverRequestAck) (answers : SmfAnswers)
    (hs : Ongoing u s) : Ongoing u (amfN2Task env s (.handoverRequestAck assoc msg answers)) := by
  have keep := fun q => (s.modifyUnc_proj q (fun unc =>
    { unc with targetRanUeNgapId := msg.ranUeNgapId }) UeNgapContext.amfUeNgapId (fun _ => rfl)
    u.unc).trans hs.amf
  simp only [amfN2Task, handleHandoverRequestAck]
  split
  · split <;> exact ⟨hs.amfUe, keep _, hs.nas, hs.ue, hs.connected⟩
  · exact hs

theorem notified_notify {assoc : SctpAssocId} {msg : HandoverNotify}
    (hgc : (s.assoc2gnb assoc).map GnbContext.gnbId = some u.targetGnb)
    (hids : (N2Event.handoverNotify assoc msg).ids = (u.amf, u.targetRan))
    (hl : msg.userLocationInfoNr.isSome) (hs : Ongoing u s) :
    Ongoing u (amfN2Task env s (.handoverNotify assoc msg)) ∧
      Notified u (amfN2Task env s (.handoverNotify assoc msg)) := by
  obtain ⟨gc, hgc, hg⟩ := Option.map_eq_some_iff.mp hgc
  obtain ⟨location, hl⟩ := Option.isSome_iff_exists.mp hl
  obtain ⟨hamf, hran⟩ := Prod.mk.inj hids
  simp only [amfN2Task, handleHandoverNotify, hgc, hl, hamf, hran, hs.amfUe, hs.nas, hg]
  refine ⟨⟨hs.amfUe, ?_, hs.nas, ?_, ?_⟩, ?_, ?_, ?_⟩
  · rw [N2State.setRanUeNgapId2UeNgapContext_unc, N2State.modifyNc_unc, N2State.modifyUnc_unc_self]
    exact hs.amf
  · simp only [N2State.setRanUeNgapId2UeNgapContext, N2State.modifyNc, N2State.modifyUnc,
      N2State.sctpSend, N2State.sendAll, N2State.setUeContext]
    by_cases h : (u.sourceRan, u.amf) = (u.targetRan, u.amf)
    · rw [h, Function.update_self]
      rfl
    · rw [Function.update_of_ne h]
      exact hs.ue
  · exact (s.nas.ncs.modify_cell_proj u.nc (fun nc => { nc with ranUeNgapId := u.targetRan })
      NasContext.nasStatus rfl u.nc).trans hs.connected
  · rw [N2State.setRanUeNgapId2UeNgapContext_unc, N2State.modifyNc_unc, N2State.modifyUnc_unc_self]
    rfl
  · rw [N2State.setRanUeNgapId2UeNgapContext_unc, N2State.modifyNc_unc, N2State.modifyUnc_unc_self]
    rfl
  · exact Function.update_self _ _ _

/-- **The release of the source side hits the right side only where both gNBs have one id**;
otherwise the UE is dropped. -/
theorem complete_spec {assoc : SctpAssocId} {msg : UeContextReleaseComplete}
    (hgc : (s.assoc2gnb assoc).map GnbContext.gnbId = some u.sourceGnb)
    (hids : (N2Event.ueContextReleaseComplete assoc msg).ids = (u.amf, u.sourceRan))
    (hs : Ongoing u s) (hn : Notified u s) :
    if u.sourceGnb = u.targetGnb then
      amfN2Task env s (.ueContextReleaseComplete assoc msg) =
        (s.removeRanUeNgapId2NgapContext (u.sourceRan, u.sourceGnb)).modifyUnc u.unc fun unc =>
          { unc with releaseCause := 0 }
    else (amfN2Task env s (.ueContextReleaseComplete assoc msg)).amfueid2uecontext u.amf = none := by
  obtain ⟨gc, hgc, hg⟩ := Option.map_eq_some_iff.mp hgc
  obtain ⟨uc, huc⟩ := Option.isSome_iff_exists.mp hs.ue
  obtain ⟨hamf, hran⟩ := Prod.mk.inj hids
  simp only [amfN2Task, handleUeContextReleaseComplete, hgc, hamf, hran, huc, hs.amfUe, hs.nas,
    hn.cause, hn.gnb, hg, true_and]
  split_ifs with h1 h2
  · rfl
  · exact Function.update_self _ _ _
  · exact Function.update_self _ _ _

/-- Both calls of the dispatcher pass the checks, so each contributes its request or nothing. -/
theorem length_requestNcc {assoc : SctpAssocId} {msg : HandoverRequired}
    (answers answers' : SmfAnswers) {r : ℕ} (hf : findHandoverUe s assoc msg = some r) :
    ((sentBy env s (.handoverRequired assoc msg answers answers')).filterMap
        N2Out.requestNcc).length = 1 ↔
      Xor (Encodes env s msg answers ((s.unc r).ncc + 1))
        (Encodes env s msg answers' ((s.unc r).ncc + 2)) := by
  have tail : ((if Prepares s msg then [] else [failureOut assoc msg]).filterMap
      N2Out.requestNcc) = [] := by
    split_ifs <;> rfl
  rw [sentBy_of_some env hf]
  simp only [List.filterMap_append, preparingOut_requestNcc, tail, List.nil_append,
    List.append_nil, List.length_append]
  have each : ∀ (a : SmfAnswers) (ncc : UInt8), ((requestOut env s msg a ncc).filterMap
      N2Out.requestNcc).length = if Encodes env s msg a ncc then 1 else 0 := by
    intro a ncc
    split_ifs with h
    · rw [(requestOut_requestNcc env h).1]
      rfl
    · unfold Encodes at h
      rw [not_not.mp h]
      rfl
  rw [each, each]
  unfold Xor
  split_ifs <;> simp_all

/-! ## The result -/

theorem beforeRelease {s : RanState} {ho : HandoverRun} (h : Succeeds env u s ho) :
    Ongoing u (run (ngapStep env) s ho.untilRelease).n2 ∧
      Notified u (run (ngapStep env) s ho.untilRelease).n2 ∧
      (run (ngapStep env) s ho.untilRelease).n2.assoc2gnb = s.n2.assoc2gnb := by
  have hamf : (s.n2.unc u.unc).amfUeNgapId = u.amf :=
    (findHandoverUe_amfUeNgapId h.found).trans (congrArg Prod.fst h.required)
  have start : Ongoing u s.n2 := ⟨h.amfUe, hamf, h.nas, h.ue, h.connected⟩
  -- Handover Required and the messages up to Handover Request Acknowledge
  have s1 : Ongoing u (ngapStep env s (.n2 ho.requiredEvent)).n2 :=
    ongoing_required env ho.answers ho.answers' h.found start
  have f1 := run_frame env s1 h.others
  have hack : run (ngapStep env) s ho.untilAck = ngapStep env
      (run (ngapStep env) (ngapStep env s (.n2 ho.requiredEvent)) ho.others) (.n2 ho.ackEvent) :=
    run_append _ _ _ _
  have s2 : Ongoing u (run (ngapStep env) s ho.untilAck).n2 := by
    rw [hack]
    exact ongoing_ack env ho.targetAssoc ho.ack ho.ackAnswers (f1.ongoing s1)
  have g2 : (run (ngapStep env) s ho.untilAck).n2.assoc2gnb = s.n2.assoc2gnb := by
    rw [hack]
    exact ((amfN2Task_assoc2gnb env _).trans f1.gnbs).trans (amfN2Task_assoc2gnb env _)
  have f2 := run_frame env s2 h.others'
  -- Handover Notify and the messages up to the release
  have hnotify : run (ngapStep env) s ho.untilNotify = ngapStep env
      (run (ngapStep env) (run (ngapStep env) s ho.untilAck) ho.others') (.n2 ho.notifyEvent) := by
    rw [HandoverRun.untilNotify, run_append, run_append]
    rfl
  have target : ((run (ngapStep env) (run (ngapStep env) s ho.untilAck) ho.others').n2.assoc2gnb
      ho.targetAssoc).map GnbContext.gnbId = some u.targetGnb := by
    rw [f2.gnbs, g2]
    exact h.targetGnb
  obtain ⟨s3, n3⟩ := notified_notify env target h.notify h.location (f2.ongoing s2)
  have g3 : (run (ngapStep env) s ho.untilNotify).n2.assoc2gnb = s.n2.assoc2gnb := by
    rw [hnotify]
    exact ((amfN2Task_assoc2gnb env _).trans f2.gnbs).trans g2
  have s3 : Ongoing u (run (ngapStep env) s ho.untilNotify).n2 := by
    rw [hnotify]
    exact s3
  have n3 : Notified u (run (ngapStep env) s ho.untilNotify).n2 := by
    rw [hnotify]
    exact n3
  have f3 := run_frame env s3 h.others''
  rw [HandoverRun.untilRelease, run_append]
  exact ⟨f3.ongoing s3, f3.notified n3, f3.gnbs.trans g3⟩

/-- **A handover keeps the UE connected through the target exactly when both gNBs have one id, the
target allots another RAN UE NGAP ID, and the encoder takes one of the two Handover Requests.** -/
theorem keepsConnected_iff (u : HandoverUe) (s : RanState) (ho : HandoverRun) (h : Succeeds env u s ho) :
    KeepsConnected env u s ho ↔
      u.sourceGnb = u.targetGnb ∧ u.sourceRan ≠ u.targetRan ∧
        Xor (Encodes env s.n2 ho.required ho.answers ((s.n2.unc u.unc).ncc + 1))
          (Encodes env s.n2 ho.required ho.answers' ((s.n2.unc u.unc).ncc + 2)) := by
  obtain ⟨ongoing, notified, gnbs⟩ := beforeRelease env h
  have once := length_requestNcc env ho.answers ho.answers' h.found
  have gnb : ((run (ngapStep env) s ho.untilRelease).n2.assoc2gnb ho.sourceAssoc).map
      GnbContext.gnbId = some u.sourceGnb := by
    rw [gnbs]
    exact h.sourceGnb
  have last := complete_spec env gnb h.complete ongoing notified
  have fin : (run (ngapStep env) s (ho.untilRelease ++ [.n2 ho.completeEvent])).n2 =
      amfN2Task env (run (ngapStep env) s ho.untilRelease).n2 ho.completeEvent := by
    rw [run_append]
    rfl
  constructor
  · intro hk
    split_ifs at last with hg
    · refine ⟨hg, ?_, once.mp hk.requestOnce⟩
      -- one RAN UE NGAP ID at one gNB would be removed with the source side
      intro hr
      have := hk.underTarget
      rw [← hr, ← hg, hk.sourceGone] at this
      cases this
    · have := hk.underAmfId
      rw [fin] at this
      exact absurd (last.symm.trans this) (by simp)
  · rintro ⟨hg, hr, hx⟩
    rw [if_pos hg] at last
    refine ⟨once.mpr hx, ?_, ?_, ?_, ?_, ?_⟩
    · rw [fin, HandoverRun.completeEvent, last]
      exact ongoing.amfUe
    · rw [fin, HandoverRun.completeEvent, last]
      exact (Function.update_of_ne (fun he => hr (congrArg Prod.fst he).symm) _ _).trans
        notified.target
    · rw [fin, HandoverRun.completeEvent, last]
      exact Function.update_self _ _ _
    · rw [fin, HandoverRun.completeEvent, last]
      exact ongoing.connected
    · unfold sentBy
      rw [HandoverRun.completeEvent, last]
      simp [N2State.modifyUnc, N2State.removeRanUeNgapId2NgapContext]

end

/-! ## Handovers of one UE -/

/-- The UE of `twoGnbs` on its way to RAN UE NGAP ID 8 at a gNB. -/
def movingUe (gnb : UInt32) : HandoverUe :=
  { amf := 1, sourceRan := 7, sourceGnb := 1, targetRan := 8, targetGnb := gnb, unc := 0, nc := 0 }

/-- `twoGnbs`, with both gNBs ready. -/
def twoGnbsRan (ncc : UInt8) : RanState := ⟨twoGnbs ncc, fun _ => .ready, [(7, 1)], 2⟩

/-- Another UE comes to gNB 1 and is asked for its identity. -/
def secondUe : List NgapEvent :=
  [.initialUe 1 9, .nasEstablishment 9 1 ⟨0, 0⟩, .dlNasTransport ⟨2, 9, [0x7e, 0, 0x5b]⟩]

/-- Its handover, while a second UE comes to gNB 1. -/
def moveTo (gnb : UInt32) : HandoverRun :=
  { sourceAssoc := 1, targetAssoc := gnb
    required := requireTarget gnb, answers := fun _ => some [], answers' := fun _ => some []
    others := secondUe
    ack := { amfUeNgapId := 1, ranUeNgapId := 8, admitted := some [(5, [])], targetToSource := [] }
    ackAnswers := fun _ => some []
    others' := []
    notify := { amfUeNgapId := 1, ranUeNgapId := 8, userLocationInfoNr := some ⟨0, 0⟩ }
    others'' := []
    complete := { amfUeNgapId := 1, ranUeNgapId := 7, pduSessions := [5] } }

theorem succeeds_moveTo {gnb : UInt32} (hg : gnb = 1 ∨ gnb = 2) (ncc : UInt8) :
    Succeeds plainEnv (movingUe gnb) (twoGnbsRan ncc) (moveTo gnb) := by
  obtain rfl | rfl := hg
  all_goals
    refine ⟨rfl, rfl, rfl, rfl, rfl, rfl, rfl, rfl, ⟨rfl, rfl⟩, rfl,
      ⟨⟨Nat.one_ne_zero, ?_⟩, ⟨?_, nofun⟩, ⟨?_, nofun⟩, trivial⟩, rfl, rfl, trivial, rfl, rfl, trivial, rfl⟩
    · rintro gc ⟨⟩
      exact ⟨by decide, by decide, nofun⟩
    · exact (by decide : (2 : UInt32).toUInt64 ≠ 1)
    · exact (by decide : (2 : UInt64) ≠ 1)

/-- **After a handover from gNB 1 to gNB 2 the UE is no longer stored under its AMF UE NGAP ID.** -/
theorem moveToOther_not_connected :
    Succeeds plainEnv (movingUe 2) (twoGnbsRan 0) (moveTo 2) ∧
      ¬ KeepsConnected plainEnv (movingUe 2) (twoGnbsRan 0) (moveTo 2) := by
  refine ⟨succeeds_moveTo (.inr rfl) 0, fun h => ?_⟩
  have := h.underAmfId
  revert this
  decide

/-- A handover at gNB 1 with an NCC of 6, of whose two requests the encoder takes the first. -/
theorem keepsConnected_iff_moveToSame :
    KeepsConnected plainEnv (movingUe 1) (twoGnbsRan 6) (moveTo 1) := by
  refine (keepsConnected_iff plainEnv _ _ _ (succeeds_moveTo (.inl rfl) 6)).mpr ⟨rfl, by decide, ?_⟩
  exact .inl ⟨by decide, by decide⟩

end Oai5g.Amf
