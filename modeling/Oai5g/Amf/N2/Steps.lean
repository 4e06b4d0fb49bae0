import Oai5g.Amf.N2.Handover

/-!
# What the handover messages do

* `SameTables`: two states with the same gNBs, maps, NAS contexts and sessions; only UE NGAP contexts
  and what was sent may differ. Handling Handover Required stays within it (`dispatch_sameTables`).
* `requestOut`: the Handover Request of one call, a function of the state and the NCC.
* `handleHandoverRequired_sent`, `handleHandoverRequired_unc`: one call.
* `dispatch_sent`, `dispatch_unc`: the two calls of the dispatcher.
* `handleHandoverNotify_cases`, `handleUeContextReleaseComplete_cases`: all that the other messages do.
-/

namespace Oai5g.Amf

/-! ## States with the same tables -/

/-- All but the UE NGAP contexts and the messages sent agree. -/
structure SameTables (s s' : N2State) : Prop where
  assoc2gnb : s'.assoc2gnb = s.assoc2gnb
  gnbid2gnb : s'.gnbid2gnb = s.gnbid2gnb
  amfueid2uecontext : s'.amfueid2uecontext = s.amfueid2uecontext
  ranid2uecontext : s'.ranid2uecontext = s.ranid2uecontext
  nas : s'.nas = s.nas
  ueContexts : s'.ueContexts = s.ueContexts
  pduSessions : s'.pduSessions = s.pduSessions

namespace SameTables

variable {s t u : N2State}

theorem trans (h : SameTables s t) (h' : SameTables t u) : SameTables s u :=
  ⟨h'.1.trans h.1, h'.2.trans h.2, h'.3.trans h.3, h'.4.trans h.4, h'.5.trans h.5, h'.6.trans h.6,
    h'.7.trans h.7⟩

theorem modifyUnc (r : ℕ) (f : UeNgapContext → UeNgapContext) : SameTables s (s.modifyUnc r f) :=
  ⟨rfl, rfl, rfl, rfl, rfl, rfl, rfl⟩

theorem sendAll (os : List N2Out) : SameTables s (s.sendAll os) :=
  ⟨rfl, rfl, rfl, rfl, rfl, rfl, rfl⟩

theorem sctpSend (env : N2Env) (assoc : SctpAssocId) (msg : NgapMsg) :
    SameTables s (s.sctpSend env assoc msg) := sendAll _

theorem findHandoverKeys (h : SameTables s t) (id : UInt64) :
    findHandoverKeys t id = findHandoverKeys s id := by
  unfold Amf.findHandoverKeys
  rw [h.nas]

theorem preparedSessions (h : SameTables s t) (supi : Str) (msg : HandoverRequired) :
    preparedSessions t supi msg = preparedSessions s supi msg := by
  unfold Amf.preparedSessions N2State.findPduSession
  rw [h.pduSessions]

theorem findHandoverUe (h : SameTables s t)
    (hamf : ∀ r, (t.unc r).amfUeNgapId = (s.unc r).amfUeNgapId) (assoc : SctpAssocId)
    (msg : HandoverRequired) : findHandoverUe t assoc msg = findHandoverUe s assoc msg := by
  unfold Amf.findHandoverUe
  simp only [h.assoc2gnb, h.ranid2uecontext, hamf]

end SameTables

@[simp] theorem N2State.modifyUnc_unc_self (s : N2State) (r : ℕ) (f : UeNgapContext → UeNgapContext) :
    (s.modifyUnc r f).unc r = f (s.unc r) := Heap.modify_cell_self _ _ _

theorem N2State.modifyUnc_unc_of_ne (s : N2State) {r q : ℕ} (f : UeNgapContext → UeNgapContext)
    (h : q ≠ r) : (s.modifyUnc r f).unc q = s.unc q := Heap.modify_cell_of_ne _ _ _ h

theorem N2State.modifyUnc_proj {β : Type} (s : N2State) (r : ℕ) (f : UeNgapContext → UeNgapContext)
    (g : UeNgapContext → β) (hf : ∀ unc, g (f unc) = g unc) (q : ℕ) :
    g ((s.modifyUnc r f).unc q) = g (s.unc q) := s.uncs.modify_cell_proj r f g (hf _) q

section

variable {s s' : N2State} {r : ℕ} {f : UeNgapContext → UeNgapContext}
  (hu : s'.uncs = s.uncs.modify r f)
include hu

theorem N2State.unc_of_modify : s'.unc r = f (s.unc r) := by
  unfold N2State.unc
  rw [hu, Heap.modify_cell_self]

theorem N2State.unc_of_modify_of_ne {q : ℕ} (hq : q ≠ r) : s'.unc q = s.unc q := by
  unfold N2State.unc
  rw [hu, Heap.modify_cell_of_ne _ _ _ hq]

theorem N2State.proj_of_modify {β : Type} (g : UeNgapContext → β) (hf : ∀ unc, g (f unc) = g unc)
    (q : ℕ) : g (s'.unc q) = g (s.unc q) := by
  unfold N2State.unc
  rw [hu, s.uncs.modify_cell_proj r f g (hf _) q]

end

@[simp] theorem N2State.sendAll_unc (s : N2State) (os : List N2Out) : (s.sendAll os).unc = s.unc := rfl

@[simp] theorem N2State.sctpSend_unc (s : N2State) (env : N2Env) (assoc : SctpAssocId)
    (msg : NgapMsg) : (s.sctpSend env assoc msg).unc = s.unc := rfl

@[simp] theorem N2State.modifyNc_unc (s : N2State) (r : ℕ) (f : NasContext → NasContext) :
    (s.modifyNc r f).unc = s.unc := rfl

@[simp] theorem N2State.setUeContext_unc (s : N2State) (key : UInt32 × UInt64) (uc : UeContext) :
    (s.setUeContext key uc).unc = s.unc := rfl

@[simp] theorem N2State.setRanUeNgapId2UeNgapContext_unc (s : N2State) (key : UInt32 × UInt32) (r : ℕ) :
    (s.setRanUeNgapId2UeNgapContext key r).unc = s.unc := rfl

/-! ## One call -/

section

variable (env : N2Env) (s : N2State) (assoc : SctpAssocId) (msg : HandoverRequired)
  (answers : SmfAnswers)

/-- The requests to the SMFs that a handover is being prepared. -/
def preparingOut : List N2Out :=
  match findHandoverKeys s msg.amfUeNgapId with
  | none => []
  | some (nc, _, _) => (preparedSessions s nc.supi msg).map fun id =>
      .smf .preparing id msg.amfUeNgapId msg.ranUeNgapId

/-- The Handover Request with a given NCC, where all checks pass. -/
def requestOut (ncc : UInt8) : List N2Out :=
  match findHandoverKeys s msg.amfUeNgapId, s.gnbid2gnb msg.targetGnbId with
  | some (nc, ulCount, kamf), some gcTarget =>
    let handoverRequest := NgapMsg.handoverRequest msg.amfUeNgapId ncc
      (env.deriveKnh ulCount kamf ncc) msg.sourceToTarget
      (setupList answers (preparedSessions s nc.supi msg))
    [.sctp gcTarget.sctpAssocId handoverRequest (handoverRequest.encode env.aper)]
  | _, _ => []

/-- The checks after the context was written pass. -/
def Prepares : Prop :=
  (findHandoverKeys s msg.amfUeNgapId).isSome ∧ (s.gnbid2gnb msg.targetGnbId).isSome

instance : Decidable (Prepares s msg) := inferInstanceAs (Decidable (_ ∧ _))

variable {s assoc msg}

theorem SameTables.preparingOut {t : N2State} (h : SameTables s t) :
    preparingOut t msg = preparingOut s msg := by
  unfold Amf.preparingOut
  rw [h.findHandoverKeys]
  simp only [h.preparedSessions]

theorem SameTables.requestOut {t : N2State} (h : SameTables s t) (ncc : UInt8) :
    requestOut env t msg answers ncc = requestOut env s msg answers ncc := by
  unfold Amf.requestOut
  rw [h.findHandoverKeys, h.gnbid2gnb]
  simp only [h.preparedSessions]

theorem SameTables.prepares {t : N2State} (h : SameTables s t) :
    Prepares t msg ↔ Prepares s msg := by
  unfold Prepares
  rw [h.findHandoverKeys, h.gnbid2gnb]

theorem requestOut_of_not_prepares (h : ¬ Prepares s msg) (ncc : UInt8) :
    requestOut env s msg answers ncc = [] := by
  unfold Prepares at h
  unfold requestOut
  split
  · simp_all
  · rfl

theorem requestOut_of_prepares (h : Prepares s msg) (ncc : UInt8) :
    ∃ gc nh list, requestOut env s msg answers ncc =
      [.sctp gc (.handoverRequest msg.amfUeNgapId ncc nh msg.sourceToTarget list)
        ((NgapMsg.handoverRequest msg.amfUeNgapId ncc nh msg.sourceToTarget list).encode env.aper)] := by
  obtain ⟨hk, ht⟩ := h
  obtain ⟨⟨nc, ulCount, kamf⟩, hk⟩ := Option.isSome_iff_exists.mp hk
  obtain ⟨gc, ht⟩ := Option.isSome_iff_exists.mp ht
  refine ⟨gc.sctpAssocId, env.deriveKnh ulCount kamf ncc,
    setupList answers (preparedSessions s nc.supi msg), ?_⟩
  simp only [requestOut, hk, ht]

theorem handleHandoverRequired_of_none (h : findHandoverUe s assoc msg = none) :
    handleHandoverRequired env s assoc msg answers = (s, false) := by
  simp only [handleHandoverRequired, h]

variable {r : ℕ} (h : findHandoverUe s assoc msg = some r)
include h

theorem handleHandoverRequired_sameTables :
    SameTables s (handleHandoverRequired env s assoc msg answers).1 := by
  have key : ∀ f, SameTables s (s.modifyUnc r f) := SameTables.modifyUnc r
  simp only [handleHandoverRequired, h]
  split
  · exact key _
  · split
    · exact (key _).trans (.sendAll _)
    · exact (((key _).trans (.sendAll _)).trans (.modifyUnc _ _)).trans (.sctpSend _ _ _)

theorem handleHandoverRequired_snd :
    (handleHandoverRequired env s assoc msg answers).2 = decide (Prepares s msg) := by
  have hk := (SameTables.modifyUnc (s := s) r fun unc =>
    { unc with gnbAssocId := assoc, ncc := unc.ncc + 1, ngUeState := .handover }).findHandoverKeys
      msg.amfUeNgapId
  have hg : ∀ f, (s.modifyUnc r f).gnbid2gnb = s.gnbid2gnb := fun _ => rfl
  simp only [handleHandoverRequired, h, hk]
  cases hkeys : findHandoverKeys s msg.amfUeNgapId with
  | none => simp [Prepares, hkeys]
  | some keys =>
    simp only [N2State.sendAll, hg]
    cases ht : s.gnbid2gnb msg.targetGnbId with
    | none => simp [Prepares, ht]
    | some gc => simp [Prepares, hkeys, ht]

/-- **One call sends the SMF requests and the Handover Request with the next NCC.** -/
theorem handleHandoverRequired_sent :
    (handleHandoverRequired env s assoc msg answers).1.sent =
      s.sent ++ preparingOut s msg ++ requestOut env s msg answers ((s.unc r).ncc + 1) := by
  have hs := SameTables.modifyUnc (s := s) r fun unc =>
    { unc with gnbAssocId := assoc, ncc := unc.ncc + 1, ngUeState := .handover }
  have hk := hs.findHandoverKeys msg.amfUeNgapId
  have hg : ∀ f, (s.modifyUnc r f).gnbid2gnb = s.gnbid2gnb := fun _ => rfl
  simp only [handleHandoverRequired, h, hk, preparingOut, requestOut]
  cases hkeys : findHandoverKeys s msg.amfUeNgapId with
  | none => simp [N2State.modifyUnc]
  | some keys =>
    simp only [N2State.sendAll, hg, hs.preparedSessions]
    cases ht : s.gnbid2gnb msg.targetGnbId with
    | none => simp [N2State.modifyUnc]
    | some gc => simp [N2State.sctpSend, N2State.sendAll, N2State.modifyUnc, N2State.unc]

/-- **One call raises the NCC of the UE**, refused or not. -/
theorem handleHandoverRequired_unc :
    ∃ target, (handleHandoverRequired env s assoc msg answers).1.unc r =
      { s.unc r with
        gnbAssocId := assoc, ncc := (s.unc r).ncc + 1, ngUeState := .handover,
        targetGnbAssocId := target } := by
  simp only [handleHandoverRequired, h]
  split
  · exact ⟨(s.unc r).targetGnbAssocId, by simp⟩
  · split
    · exact ⟨(s.unc r).targetGnbAssocId, by simp⟩
    · rename_i gc _
      exact ⟨gc.sctpAssocId, by simp⟩

theorem handleHandoverRequired_unc_of_ne {q : ℕ} (hq : q ≠ r) :
    (handleHandoverRequired env s assoc msg answers).1.unc q = s.unc q := by
  simp only [handleHandoverRequired, h]
  split
  · exact s.modifyUnc_unc_of_ne _ hq
  · split
    · rw [N2State.sendAll_unc, s.modifyUnc_unc_of_ne _ hq]
    · rw [N2State.sctpSend_unc, N2State.modifyUnc_unc_of_ne _ _ hq, N2State.sendAll_unc,
        s.modifyUnc_unc_of_ne _ hq]

theorem handleHandoverRequired_amfUeNgapId (q : ℕ) :
    ((handleHandoverRequired env s assoc msg answers).1.unc q).amfUeNgapId =
      (s.unc q).amfUeNgapId := by
  by_cases hq : q = r
  · subst hq
    obtain ⟨_, hu⟩ := handleHandoverRequired_unc env answers h
    rw [hu]
  · rw [handleHandoverRequired_unc_of_ne env answers h hq]

end

/-! ## The two calls of the dispatcher -/

section

variable (env : N2Env) {s : N2State} {assoc : SctpAssocId} {msg : HandoverRequired}
  (answers answers' : SmfAnswers)

/-- The failure message of the dispatcher. -/
def failureOut (assoc : SctpAssocId) (msg : HandoverRequired) : N2Out :=
  .sctp assoc (.handoverPreparationFailure msg.amfUeNgapId msg.amfUeNgapId.toUInt32 .nothing) []

theorem dispatch_of_none (h : findHandoverUe s assoc msg = none) :
    dispatchHandoverRequired env s assoc msg answers answers' =
      s.sendAll [failureOut assoc msg] := by
  simp only [dispatchHandoverRequired, handleHandoverRequired_of_none _ _ h]
  rfl

variable {r : ℕ} (h : findHandoverUe s assoc msg = some r)
include h

theorem dispatch_second :
    findHandoverUe (handleHandoverRequired env s assoc msg answers).1 assoc msg = some r := by
  rw [(handleHandoverRequired_sameTables env answers h).findHandoverUe
    (handleHandoverRequired_amfUeNgapId env answers h), h]

theorem dispatch_eq :
    dispatchHandoverRequired env s assoc msg answers answers' =
      let s' := (handleHandoverRequired env (handleHandoverRequired env s assoc msg answers).1 assoc
        msg answers').1
      if Prepares s msg then s' else s'.sendAll [failureOut assoc msg] := by
  have h2 := handleHandoverRequired_snd env answers' (dispatch_second env answers h)
  rw [decide_eq_decide.mpr (handleHandoverRequired_sameTables env answers h).prepares] at h2
  simp only [dispatchHandoverRequired]
  split <;> rename_i heq <;> rw [heq] at h2 ⊢ <;> simp only at h2
  · rw [if_pos (of_decide_eq_true h2.symm)]
  · rw [if_neg (of_decide_eq_false h2.symm)]
    rfl

theorem dispatch_sameTables :
    SameTables s (dispatchHandoverRequired env s assoc msg answers answers') := by
  have h1 := handleHandoverRequired_sameTables env answers h
  have h2 := handleHandoverRequired_sameTables env answers' (dispatch_second env answers h)
  rw [dispatch_eq env answers answers' h]
  dsimp only
  split_ifs
  · exact h1.trans h2
  · exact (h1.trans h2).trans (.sendAll _)

/-- **The dispatcher raises the NCC by two.** -/
theorem dispatch_unc :
    ∃ target, (dispatchHandoverRequired env s assoc msg answers answers').unc r =
      { s.unc r with
        gnbAssocId := assoc, ncc := (s.unc r).ncc + 2, ngUeState := .handover,
        targetGnbAssocId := target } := by
  obtain ⟨_, h1⟩ := handleHandoverRequired_unc env answers h
  obtain ⟨target, h2⟩ := handleHandoverRequired_unc env answers' (dispatch_second env answers h)
  have two : (s.unc r).ncc + 1 + 1 = (s.unc r).ncc + 2 := by
    rw [add_assoc]
    rfl
  refine ⟨target, ?_⟩
  rw [dispatch_eq env answers answers' h]
  dsimp only
  split_ifs <;> simp only [N2State.sendAll_unc, h2, h1, two]

theorem dispatch_unc_of_ne {q : ℕ} (hq : q ≠ r) :
    (dispatchHandoverRequired env s assoc msg answers answers').unc q = s.unc q := by
  have h1 := handleHandoverRequired_unc_of_ne env answers h hq
  have h2 := handleHandoverRequired_unc_of_ne env answers' (dispatch_second env answers h) hq
  rw [dispatch_eq env answers answers' h]
  dsimp only
  split_ifs <;> simp only [N2State.sendAll_unc, h2, h1]

/-- **The dispatcher sends everything twice**, with NCC `+ 1` and `+ 2`. -/
theorem dispatch_sent :
    (dispatchHandoverRequired env s assoc msg answers answers').sent =
      s.sent ++ (preparingOut s msg ++ requestOut env s msg answers ((s.unc r).ncc + 1)) ++
        (preparingOut s msg ++ requestOut env s msg answers' ((s.unc r).ncc + 2)) ++
        (if Prepares s msg then [] else [failureOut assoc msg]) := by
  have hs := handleHandoverRequired_sameTables env answers h
  obtain ⟨_, hu⟩ := handleHandoverRequired_unc env answers h
  have h1 := handleHandoverRequired_sent env answers h
  have h2 := handleHandoverRequired_sent env answers' (dispatch_second env answers h)
  have two : (s.unc r).ncc + 1 + 1 = (s.unc r).ncc + 2 := by
    rw [add_assoc]
    rfl
  rw [hs.preparingOut, hs.requestOut, hu, h1] at h2
  simp only [two] at h2
  rw [dispatch_eq env answers answers' h]
  dsimp only
  split_ifs
  · rw [h2]
    simp only [List.append_assoc, List.append_nil]
  · simp only [N2State.sendAll, h2, List.append_assoc]

end

section

variable (env : N2Env) {assoc : SctpAssocId}

theorem handleHandoverRequired_next (s : N2State) (msg : HandoverRequired) (answers : SmfAnswers) :
    (handleHandoverRequired env s assoc msg answers).1.uncs.next = s.uncs.next := by
  unfold handleHandoverRequired
  split
  · rfl
  · dsimp only
    split
    · rfl
    · split <;> rfl

theorem dispatch_next (s : N2State) (msg : HandoverRequired) (answers answers' : SmfAnswers) :
    (dispatchHandoverRequired env s assoc msg answers answers').uncs.next = s.uncs.next := by
  have h1 := @handleHandoverRequired_next env assoc s msg answers
  have h2 := @handleHandoverRequired_next env assoc
    (handleHandoverRequired env s assoc msg answers).1 msg answers'
  unfold dispatchHandoverRequired
  dsimp only
  split <;> rename_i heq <;> rw [heq] at h2
  · exact h2.trans h1
  · exact h2.trans h1

end

/-! ## Notify and Release Complete -/

section

variable (env : N2Env) (s : N2State) (assoc : SctpAssocId)

theorem handleHandoverNotify_cases (msg : HandoverNotify) :
    handleHandoverNotify env s assoc msg = s ∨
      ∃ gc r location n sent, s.assoc2gnb assoc = some gc ∧
        s.amfueid2uecontext msg.amfUeNgapId = some r ∧
        s.nas.amfueid2nasContext msg.amfUeNgapId = some n ∧
        handleHandoverNotify env s assoc msg =
          { s with
            uncs := s.uncs.modify r (·.notified assoc gc.gnbId msg.ranUeNgapId)
            ranid2uecontext :=
              Function.update s.ranid2uecontext (msg.ranUeNgapId, gc.gnbId) (some r)
            nas := s.nas.modifyNc n fun nc => { nc with ranUeNgapId := msg.ranUeNgapId }
            ueContexts := Function.update s.ueContexts (msg.ranUeNgapId, msg.amfUeNgapId)
              (some { ranUeNgapId := msg.ranUeNgapId, amfUeNgapId := msg.amfUeNgapId,
                      gnbId := gc.gnbId, location := location })
            sent := sent } := by
  unfold handleHandoverNotify
  split
  · rename_i gc r location n hgc hr _ hn
    simp only [N2State.setUeContext, N2State.sendAll, N2State.sctpSend, N2State.modifyUnc,
      N2State.modifyNc, N2State.setRanUeNgapId2UeNgapContext]
    exact .inr ⟨gc, r, location, n, _, hgc, hr, hn, rfl⟩
  · exact .inl rfl

/-- UE Context Release Complete does nothing, ends a handover at the source, or removes both keys. -/
theorem handleUeContextReleaseComplete_cases (msg : UeContextReleaseComplete) :
    handleUeContextReleaseComplete s assoc msg = s ∨
      ∃ r gc, s.amfueid2uecontext msg.amfUeNgapId = some r ∧ s.assoc2gnb assoc = some gc ∧
        ((((s.unc r).releaseCause = successfulHandover ∧ gc.gnbId = (s.unc r).releaseGnb) ∧
          handleUeContextReleaseComplete s assoc msg =
            { s with
              uncs := s.uncs.modify r fun unc => { unc with releaseCause := 0 }
              ranid2uecontext :=
                Function.update s.ranid2uecontext (msg.ranUeNgapId, gc.gnbId) none }) ∨
        ∃ n nas sent, s.nas.amfueid2nasContext msg.amfUeNgapId = some n ∧
          (nas = s.nas ∨ nas = s.nas.modifyNc n fun nc => { nc with nasStatus := .idle }) ∧
          handleUeContextReleaseComplete s assoc msg =
            { s with
              amfueid2uecontext := Function.update s.amfueid2uecontext msg.amfUeNgapId none
              ranid2uecontext :=
                Function.update s.ranid2uecontext (msg.ranUeNgapId, gc.gnbId) none
              nas := nas
              sent := sent }) := by
  unfold handleUeContextReleaseComplete
  split
  · rename_i uc r gc _ hr hgc
    simp only [N2State.sendAll, N2State.modifyUnc, N2State.modifyNc,
      N2State.removeRanUeNgapId2NgapContext, N2State.removeAmfUeNgapId2UeNgapContext]
    split
    · rename_i hcause
      exact .inr ⟨r, gc, hr, hgc, .inl ⟨hcause, rfl⟩⟩
    · split
      · exact .inl rfl
      · rename_i n hn
        split
        · exact .inr ⟨r, gc, hr, hgc, .inr ⟨n, _, _, hn, .inl rfl, rfl⟩⟩
        · exact .inr ⟨r, gc, hr, hgc, .inr ⟨n, _, _, hn, .inr rfl, rfl⟩⟩
  · exact .inl rfl

/-- Handover Request Acknowledge does nothing, or keeps the target RAN UE NGAP ID. -/
theorem handleHandoverRequestAck_cases (msg : HandoverRequestAck) (answers : SmfAnswers) :
    handleHandoverRequestAck env s assoc msg answers = s ∨
      ∃ r pduSessions sent, s.amfueid2uecontext msg.amfUeNgapId = some r ∧
        handleHandoverRequestAck env s assoc msg answers =
          { s with
            uncs := s.uncs.modify r fun unc => { unc with targetRanUeNgapId := msg.ranUeNgapId }
            pduSessions := pduSessions
            sent := sent } := by
  unfold handleHandoverRequestAck
  split
  · rename_i r _ hr
    simp only [N2State.sendAll, N2State.sctpSend, N2State.modifyUnc, N2State.acceptHandover]
    split
    · exact .inr ⟨r, _, _, hr, rfl⟩
    · exact .inr ⟨r, _, _, hr, rfl⟩
  · exact .inl rfl

end

end Oai5g.Amf
