import Oai5g.Amf.N2.Consistent

/-!
# The next hop chain of a UE

* `nccsOf`: the NCCs of the Handover Requests sent for one UE along a run of all events at the gNBs.
* `SameNcc`: an event that leaves the NCC of a UE alone; one lemma for each kind of event.
* `nccsOf_isChain`: the NCCs are consecutive under `KeepsNccs`.
* **`refusedHandover_never_reported`**.
-/

namespace Oai5g.Amf

section

variable (env : N2Env)

/-- A Handover Required that passes the checks made before the UE's context is written. -/
def Handles (s : RanState) (r : ℕ) : NgapEvent → Prop
  | .n2 (.handoverRequired assoc msg _ _) => findHandoverUe s.n2 assoc msg = some r
  | _ => False

instance (s : RanState) (r : ℕ) (e : NgapEvent) : Decidable (Handles s r e) := by
  unfold Handles
  split <;> infer_instance

/-- The NCCs that one event sends. -/
def nccsBy (s : RanState) : NgapEvent → List UInt8
  | .n2 e => (sentBy env s.n2 e).filterMap N2Out.requestNcc
  | _ => []

/-- The NCCs of the Handover Requests sent for one UE along a run. -/
def nccsOf (r : ℕ) : RanState → List NgapEvent → List UInt8
  | _, [] => []
  | s, e :: es => (if Handles s r e then nccsBy env s e else []) ++ nccsOf r (ngapStep env s e) es

/-- An Initial Context Setup Request that sets the NCC of the UE to 1. -/
def SetsUp (s : RanState) (r : ℕ) : NgapEvent → Prop
  | .initialContextSetupRequest msg =>
    s.n2.ranUeId2UeNgapContext msg.ranUeNgapId msg.amfUeNgapId = some r
  | _ => False

/-- Both requests of a Handover Required that writes the UE's context get out, and a context is set up
before the first handover only. -/
def KeepsNccs (r : ℕ) (s : RanState) (e : NgapEvent) : Prop :=
  (SetsUp s r e → (s.n2.unc r).ncc ≤ 1) ∧
    match e with
    | .n2 (.handoverRequired assoc msg answers answers') => findHandoverUe s.n2 assoc msg = some r →
        Encodes env s.n2 msg answers ((s.n2.unc r).ncc + 1) ∧
          Encodes env s.n2 msg answers' ((s.n2.unc r).ncc + 2)
    | _ => True

end

/-! ## Events that leave an NCC alone -/

/-- The NCC of a context that was made before is the same. -/
structure SameNcc (r : ℕ) (s s' : N2State) : Prop where
  made : s.uncs.next ≤ s'.uncs.next
  ncc : (s'.unc r).ncc = (s.unc r).ncc

namespace SameNcc

variable {r : ℕ} {s s' s'' : N2State}

theorem of_uncs (h : s'.uncs = s.uncs) : SameNcc r s s' where
  made := by rw [h]
  ncc := by
    unfold N2State.unc
    rw [h]

theorem trans (h : SameNcc r s s') (h' : SameNcc r s' s'') : SameNcc r s s'' :=
  ⟨h.made.trans h'.made, h'.ncc.trans h.ncc⟩

theorem of_modify {q : ℕ} {f : UeNgapContext → UeNgapContext} (hu : s'.uncs = s.uncs.modify q f)
    (hf : ∀ unc, (f unc).ncc = unc.ncc) : SameNcc r s s' where
  made := by
    rw [hu]
    exact le_rfl
  ncc := N2State.proj_of_modify hu UeNgapContext.ncc hf r

theorem of_modify_of_ne {q : ℕ} {f : UeNgapContext → UeNgapContext} (hu : s'.uncs = s.uncs.modify q f)
    (hq : r ≠ q) : SameNcc r s s' where
  made := by
    rw [hu]
    exact le_rfl
  ncc := by rw [N2State.unc_of_modify_of_ne hu hq]

end SameNcc

section

variable {env : N2Env} {r : ℕ}

theorem amfN2Task_sameNcc {s : N2State} {e : N2Event}
    (h : ∀ assoc msg answers answers', e = .handoverRequired assoc msg answers answers' →
      findHandoverUe s assoc msg ≠ some r) : SameNcc r s (amfN2Task env s e) := by
  cases e with
  | handoverRequired assoc msg answers answers' =>
    refine ⟨(dispatch_next env s msg answers answers').ge, ?_⟩
    cases hf : findHandoverUe s assoc msg with
    | none => simp only [amfN2Task, dispatch_of_none env answers answers' hf, N2State.sendAll_unc]
    | some q =>
      have hq : r ≠ q := by
        rintro rfl
        exact h assoc msg answers answers' rfl hf
      simp only [amfN2Task, dispatch_unc_of_ne env answers answers' hf hq]
  | handoverRequestAck assoc msg answers =>
    rcases handleHandoverRequestAck_cases env s assoc msg answers with hs | ⟨q, _, _, -, hs⟩
    · rw [amfN2Task, hs]
      exact .of_uncs rfl
    · have hu := congrArg N2State.uncs hs
      dsimp only at hu
      exact .of_modify hu fun _ => rfl
  | handoverNotify assoc msg =>
    rcases handleHandoverNotify_cases env s assoc msg with hs | ⟨gc, q, _, _, _, -, -, -, hs⟩
    · rw [amfN2Task, hs]
      exact .of_uncs rfl
    · have hu := congrArg N2State.uncs hs
      dsimp only at hu
      exact .of_modify hu fun _ => rfl
  | ueContextReleaseComplete assoc msg =>
    rcases handleUeContextReleaseComplete_cases s assoc msg with
      hs | ⟨q, _, -, -, ⟨-, hs⟩ | ⟨_, _, _, -, -, hs⟩⟩
    · rw [amfN2Task, hs]
      exact .of_uncs rfl
    · have hu := congrArg N2State.uncs hs
      dsimp only at hu
      exact .of_modify hu fun _ => rfl
    · rw [amfN2Task, hs]
      exact .of_uncs rfl

variable {s : RanState} {assoc : SctpAssocId}

theorem releaseUeContexts_sameNcc (g : UInt32) : SameNcc r s.n2 (s.releaseUeContexts assoc g).n2 :=
  .of_uncs (releaseUes_kept (s.getUeNgapContexts assoc)).uncs

theorem handleNgSetupRequest_sameNcc (req : NgSetupRequest) :
    SameNcc r s.n2 (s.handleNgSetupRequest assoc req).n2 := by
  unfold RanState.handleNgSetupRequest
  split
  · dsimp only
    split
    · split
      · exact .of_uncs rfl
      · exact .of_uncs (releaseUes_kept _).uncs
    · exact .of_uncs rfl
  · exact .of_uncs rfl

theorem handleInitialUeMessage_sameNcc (hr : r < s.n2.uncs.next) (ran : UInt32) :
    SameNcc r s.n2 (s.handleInitialUeMessage assoc ran).n2 := by
  unfold RanState.handleInitialUeMessage
  split
  · exact .of_uncs rfl
  · split
    · exact .of_uncs rfl
    · dsimp only
      split
      · exact .of_modify
          (f := fun unc => { unc with ranUeNgapId := ran, gnbAssocId := assoc }) rfl fun _ => rfl
      · -- the new context is none that was made before
        have hnew : SameNcc r s.n2 { s.n2 with uncs := (s.n2.uncs.alloc RanState.newUnc).1 } := by
          refine ⟨Nat.le_succ _, ?_⟩
          change ((s.n2.uncs.alloc RanState.newUnc).1.cell r).ncc = _
          rw [Heap.alloc_cell_of_ne _ _ hr.ne]
          rfl
        exact hnew.trans (.of_modify (f := fun unc => { unc with ranUeNgapId := ran, gnbAssocId := assoc }) rfl
          fun _ => rfl)

theorem handleInitialContextSetupRequest_uncs (s : N2State) (msg : InitialContextSetupRequest) {q : ℕ}
    (hq : s.ranUeId2UeNgapContext msg.ranUeNgapId msg.amfUeNgapId = some q) :
    (s.handleInitialContextSetupRequest env msg).uncs =
      s.uncs.modify q fun unc => { unc with ncc := 1 } := by
  simp only [N2State.handleInitialContextSetupRequest, hq]
  split <;> rfl

/-- **Every event but a Handover Required and an Initial Context Setup Request for the UE leaves its NCC
alone.** -/
theorem ngapStep_sameNcc {e : NgapEvent} (hr : r < s.n2.uncs.next) (h : ¬ Handles s r e)
    (h' : ¬ SetsUp s r e) : SameNcc r s.n2 (ngapStep env s e).n2 := by
  cases e with
  | association assoc =>
    refine .of_uncs ?_
    simp only [ngapStep, RanState.handleSctpNewAssociation]
    split
    · rfl
    · split <;> rfl
  | setup assoc req => exact handleNgSetupRequest_sameNcc req
  | reset assoc =>
    simp only [ngapStep, RanState.handleNgReset]
    split
    · exact .of_uncs rfl
    · exact releaseUeContexts_sameNcc (s := s.setNgState assoc .reseting) _
  | resetPart assoc items =>
    simp only [ngapStep, RanState.handleNgResetPart]
    split
    · exact .of_uncs rfl
    · exact .of_uncs (resetItems_kept items).uncs
  | shutdown assoc =>
    simp only [ngapStep, RanState.handleNgShutdown]
    split
    · exact .of_uncs rfl
    · exact (releaseUeContexts_sameNcc (s := s.setNgState assoc .shutdown) _).trans (.of_uncs rfl)
  | initialUe assoc ran => exact handleInitialUeMessage_sameNcc hr ran
  | nasEstablishment ran gnbId location =>
    simp only [ngapStep, RanState.handleNasEstablishment]
    split
    · exact .of_uncs rfl
    · exact .of_modify (f := fun unc => { unc with amfUeNgapId := s.generateAmfUeNgapId }) rfl
        fun _ => rfl
  | dlNasTransport msg =>
    simp only [ngapStep, RanState.modifyN2, N2State.handleDlNasTransport]
    split
    · exact .of_uncs rfl
    · split
      · exact .of_uncs rfl
      · exact .of_modify
          (f := fun unc => { unc with amfUeNgapId := msg.amfUeNgapId, ngUeState := .connected }) rfl
          fun _ => rfl
  | initialContextSetupRequest msg =>
    cases hq : s.n2.ranUeId2UeNgapContext msg.ranUeNgapId msg.amfUeNgapId with
    | none =>
      refine .of_uncs ?_
      simp only [ngapStep, RanState.modifyN2, N2State.handleInitialContextSetupRequest, hq]
    | some q =>
      refine .of_modify_of_ne (handleInitialContextSetupRequest_uncs s.n2 msg hq) ?_
      rintro rfl
      exact h' hq
  | ueContextReleaseRequest assoc msg =>
    simp only [ngapStep, RanState.modifyN2, N2State.handleUeContextReleaseRequest]
    split
    · exact .of_uncs rfl
    · exact .of_modify
        (f := fun unc => { unc with pduSessionsToBeReleased := responseKeys msg.pduSessions }) rfl
        fun _ => rfl
  | n1 nas => exact .of_uncs rfl
  | n2 e =>
    refine amfN2Task_sameNcc fun assoc msg answers answers' he hf => h ?_
    rw [he]
    exact hf

end

/-! ## The contexts in the tables -/

/-- Every context in a table was made. -/
def Made (s : N2State) : Prop := ∀ r, Held s r → r < s.uncs.next

namespace Made

variable {s s' : N2State}

theorem of_held (hs : Made s) (hnext : s.uncs.next ≤ s'.uncs.next) (h : ∀ r, Held s' r → Held s r) :
    Made s' :=
  fun r hr => (hs r (h r hr)).trans_le hnext

theorem of_tables (hs : Made s) (hnext : s'.uncs.next = s.uncs.next)
    (hamf : s'.amfueid2uecontext = s.amfueid2uecontext)
    (hran : s'.ranid2uecontext = s.ranid2uecontext) : Made s' := by
  refine hs.of_held hnext.ge fun r hr => ?_
  unfold Held at hr ⊢
  rwa [hamf, hran] at hr

theorem of_kept (hs : Made s) (h : Kept s s') : Made s' := hs.of_held (by rw [h.uncs]) h.held

theorem of_updateAmf (hs : Made s) {a : UInt64} {q : ℕ} (hq : Held s q)
    (hnext : s'.uncs.next = s.uncs.next)
    (hamf : s'.amfueid2uecontext = Function.update s.amfueid2uecontext a (some q))
    (hran : s'.ranid2uecontext = s.ranid2uecontext) : Made s' := by
  refine hs.of_held hnext.ge ?_
  rintro r (⟨b, hb⟩ | ⟨k, hk⟩)
  · rw [hamf, update_some_eq_some] at hb
    rcases hb with ⟨-, rfl⟩ | ⟨-, hb⟩
    · exact hq
    · exact .inl ⟨b, hb⟩
  · rw [hran] at hk
    exact .inr ⟨k, hk⟩

theorem of_updateRan (hs : Made s) {k : UInt32 × UInt32} {q : ℕ} (hq : Held s q)
    (hnext : s'.uncs.next = s.uncs.next) (hamf : s'.amfueid2uecontext = s.amfueid2uecontext)
    (hran : s'.ranid2uecontext = Function.update s.ranid2uecontext k (some q)) : Made s' := by
  refine hs.of_held hnext.ge ?_
  rintro r (⟨a, ha⟩ | ⟨k', hk⟩)
  · rw [hamf] at ha
    exact .inl ⟨a, ha⟩
  · rw [hran, update_some_eq_some] at hk
    rcases hk with ⟨-, rfl⟩ | ⟨-, hk⟩
    · exact hq
    · exact .inr ⟨k', hk⟩

variable {env : N2Env}

theorem amfN2Task (hs : Made s) (e : N2Event) : Made (amfN2Task env s e) := by
  cases e with
  | handoverRequired assoc msg answers answers' =>
    have hnext := @dispatch_next env assoc s msg answers answers'
    cases hf : findHandoverUe s assoc msg with
    | none =>
      rw [Amf.amfN2Task, dispatch_of_none env answers answers' hf]
      exact hs.of_tables rfl rfl rfl
    | some q =>
      have hsame := dispatch_sameTables env answers answers' hf
      exact hs.of_tables hnext hsame.amfueid2uecontext hsame.ranid2uecontext
  | handoverRequestAck assoc msg answers =>
    rcases handleHandoverRequestAck_cases env s assoc msg answers with h | ⟨q, _, _, -, h⟩
    · rw [Amf.amfN2Task, h]
      exact hs
    · rw [Amf.amfN2Task, h]
      exact hs.of_tables rfl rfl rfl
  | handoverNotify assoc msg =>
    rcases handleHandoverNotify_cases env s assoc msg with h | ⟨gc, q, _, _, _, -, hq, -, h⟩
    · rw [Amf.amfN2Task, h]
      exact hs
    · rw [Amf.amfN2Task, h]
      exact hs.of_updateRan (.inl ⟨_, hq⟩) rfl rfl rfl
  | ueContextReleaseComplete assoc msg =>
    rcases handleUeContextReleaseComplete_cases s assoc msg with
      h | ⟨q, gc, -, -, ⟨-, h⟩ | ⟨_, _, _, -, -, h⟩⟩
    · rw [Amf.amfN2Task, h]
      exact hs
    · rw [Amf.amfN2Task, h]
      exact (hs.of_kept (s.removeRanUeNgapId_kept (msg.ranUeNgapId, gc.gnbId))).of_tables rfl rfl rfl
    · rw [Amf.amfN2Task, h]
      exact ((hs.of_kept (s.removeAmfUeNgapId_kept msg.amfUeNgapId)).of_kept
        (N2State.removeRanUeNgapId_kept _ (msg.ranUeNgapId, gc.gnbId))).of_tables rfl rfl rfl

theorem held_of_ranUeId {ran : UInt32} {amf : UInt64} {q : ℕ}
    (h : s.ranUeId2UeNgapContext ran amf = some q) : Held s q := by
  obtain ⟨uc, -, hk⟩ := Option.bind_eq_some_iff.mp h
  exact .inr ⟨_, hk⟩

/-- **Every event keeps it.** -/
theorem ngapStep {s : RanState} (hs : Made s.n2) (e : NgapEvent) : Made (ngapStep env s e).n2 := by
  cases e with
  | association assoc =>
    simp only [Amf.ngapStep, RanState.handleSctpNewAssociation]
    split
    · exact hs.of_tables rfl rfl rfl
    · split <;> exact hs
  | setup assoc req =>
    simp only [Amf.ngapStep, RanState.handleNgSetupRequest]
    split
    · rename_i gc gnbId _ _
      have hset : Made (s.setGnb assoc { gc with gnbId := gnbId }).n2 := hs.of_tables rfl rfl rfl
      split
      · split
        · exact hset.of_tables rfl rfl rfl
        · refine Made.of_kept (s := { (s.setGnb assoc { gc with gnbId := gnbId }).n2 with
            gnbid2gnb := _ }) ?_ (releaseUes_kept _)
          exact hset.of_tables rfl rfl rfl
      · exact hset
    · exact hs
  | reset assoc =>
    simp only [Amf.ngapStep, RanState.handleNgReset]
    split
    · exact hs
    · exact hs.of_kept (releaseUes_kept _)
  | resetPart assoc items =>
    simp only [Amf.ngapStep, RanState.handleNgResetPart]
    split
    · exact hs
    · exact hs.of_kept (resetItems_kept items)
  | shutdown assoc =>
    simp only [Amf.ngapStep, RanState.handleNgShutdown]
    split
    · exact hs
    · exact (hs.of_kept (releaseUes_kept _)).of_tables rfl rfl rfl
  | initialUe assoc ran =>
    simp only [Amf.ngapStep, RanState.handleInitialUeMessage]
    split
    · exact hs
    · split
      · exact hs
      · split
        · exact hs.of_tables rfl rfl rfl
        · rintro r (⟨a, ha⟩ | ⟨k, hk⟩)
          · exact (hs r (.inl ⟨a, ha⟩)).trans (Nat.lt_succ_self _)
          · rcases update_some_eq_some.mp hk with ⟨-, rfl⟩ | ⟨-, hk⟩
            · exact Nat.lt_succ_self _
            · exact (hs r (.inr ⟨k, hk⟩)).trans (Nat.lt_succ_self _)
  | nasEstablishment ran gnbId location =>
    simp only [Amf.ngapStep, RanState.handleNasEstablishment]
    split
    · exact hs.of_tables rfl rfl rfl
    · rename_i q hq
      exact hs.of_updateAmf (.inr ⟨_, hq⟩) rfl rfl rfl
  | dlNasTransport msg =>
    simp only [Amf.ngapStep, RanState.modifyN2, N2State.handleDlNasTransport]
    split
    · exact hs
    · rename_i q hq
      split
      · exact hs
      · exact hs.of_updateAmf (held_of_ranUeId hq) rfl rfl rfl
  | initialContextSetupRequest msg =>
    simp only [Amf.ngapStep, RanState.modifyN2, N2State.handleInitialContextSetupRequest]
    split
    · exact hs
    · split <;> exact hs.of_tables rfl rfl rfl
  | ueContextReleaseRequest assoc msg =>
    simp only [Amf.ngapStep, RanState.modifyN2, N2State.handleUeContextReleaseRequest]
    split <;> exact hs.of_tables rfl rfl rfl
  | n1 nas => exact hs.of_tables rfl rfl rfl
  | n2 e => exact hs.amfN2Task e

end Made

theorem held_of_findHandoverUe {s : N2State} {assoc : SctpAssocId} {msg : HandoverRequired} {r : ℕ}
    (h : findHandoverUe s assoc msg = some r) : Held s r := by
  unfold findHandoverUe at h
  split at h
  · cases h
  · split at h
    · cases h
    · rename_i q hq
      split_ifs at h
      cases h
      exact .inr ⟨_, hq⟩

theorem made_start : Made RanState.start.n2 := by
  rintro r (⟨a, ha⟩ | ⟨k, hk⟩)
  · cases ha
  · cases hk

/-! ## Runs -/

section

variable (env : N2Env)

theorem toNat_succ_of_le {c : UInt8} (hc : c.toNat ≤ 7) : (c + 1).toNat = c.toNat + 1 := by
  rw [UInt8.toNat_add]
  have : (1 : UInt8).toNat = 1 := rfl
  omega

/-- **Along a run under `KeepsNccs` the NCCs of one UE are consecutive**, and start behind its stored NCC,
which may be set to 1 before. -/
theorem nccsOf_isChain {r : ℕ} {s : RanState} {es : List NgapEvent} (hs : Made s.n2)
    (h : Along (ngapStep env) (KeepsNccs env r) s es) :
    (nccsOf env r s es).IsChain (fun a b => b.toNat = a.toNat + 1) ∧
      (r < s.n2.uncs.next → ∀ x ∈ (nccsOf env r s es).head?,
        x = (s.n2.unc r).ncc + 1 ∨ (s.n2.unc r).ncc ≤ 1 ∧ x = 2) := by
  induction es generalizing s with
  | nil => simp [nccsOf]
  | cons e es ih =>
    obtain ⟨chain, first⟩ := ih (hs.ngapStep e) h.2
    by_cases he : Handles s r e
    · obtain ⟨assoc, msg, answers, answers', rfl⟩ : ∃ assoc msg answers answers',
          e = .n2 (.handoverRequired assoc msg answers answers') := by
        unfold Handles at he
        split at he
        · exact ⟨_, _, _, _, rfl⟩
        · exact he.elim
      have hf : findHandoverUe s.n2 assoc msg = some r := he
      obtain ⟨h1, h2⟩ := h.1.2 hf
      have hp := prepares_of_encodes env h1
      obtain ⟨h1, b1⟩ := requestOut_requestNcc env h1
      obtain ⟨h2, b2⟩ := requestOut_requestNcc env h2
      obtain ⟨_, hu⟩ := dispatch_unc env answers answers' hf
      have hr : r < s.n2.uncs.next := hs r (held_of_findHandoverUe hf)
      simp only [ngapStep, amfN2Task, hu, dispatch_next, hr, true_imp_iff] at first
      have hsent : nccsBy env s (.n2 (.handoverRequired assoc msg answers answers')) =
          [(s.n2.unc r).ncc + 1, (s.n2.unc r).ncc + 2] := by
        rw [nccsBy, sentBy_of_some env hf]
        simp only [List.filterMap_append, preparingOut_requestNcc, h1, h2, if_pos hp]
        rfl
      have two : (s.n2.unc r).ncc + 2 = (s.n2.unc r).ncc + 1 + 1 := by
        rw [add_assoc]
        rfl
      rw [nccsOf, if_pos he, hsent]
      refine ⟨.cons_cons (by rw [two, toNat_succ_of_le b1])
        (List.isChain_cons.mpr ⟨fun x hx => ?_, chain⟩), by simp⟩
      rcases first x hx with rfl | ⟨hle, rfl⟩
      · rw [toNat_succ_of_le b2]
      · -- the NCC is 255 before the handover and 1 after it
        have hle : ((s.n2.unc r).ncc + 2).toNat ≤ 1 := UInt8.le_iff_toNat_le.mp hle
        have hlt := (s.n2.unc r).ncc.toNat_lt
        have : (1 : UInt8).toNat = 1 := rfl
        have : (2 : UInt8).toNat = 2 := rfl
        rw [UInt8.toNat_add] at b1 hle ⊢
        omega
    · rw [nccsOf, if_neg he, List.nil_append]
      by_cases hset : SetsUp s r e
      · have hle := h.1.1 hset
        obtain ⟨msg, rfl⟩ : ∃ msg, e = .initialContextSetupRequest msg := by
          unfold SetsUp at hset
          split at hset
          · exact ⟨_, rfl⟩
          · exact hset.elim
        have huncs : (ngapStep env s (.initialContextSetupRequest msg)).n2.uncs =
            s.n2.uncs.modify r fun unc => { unc with ncc := 1 } :=
          handleInitialContextSetupRequest_uncs s.n2 msg hset
        refine ⟨chain, fun hr x hx => .inr ⟨hle, ?_⟩⟩
        rw [N2State.unc_of_modify huncs, huncs] at first
        rcases first hr x hx with rfl | ⟨-, rfl⟩ <;> rfl
      · refine ⟨chain, fun hr => ?_⟩
        have hsame : SameNcc r s.n2 (ngapStep env s e).n2 := ngapStep_sameNcc hr he hset
        obtain ⟨made, ncc⟩ := hsame
        rw [ncc] at first
        exact first (hr.trans_le made)

/-! ## The result -/

/-- **A refused Handover Required is never reported, and the UE is left as it was exactly when it is
refused before its context is written. Along a run the NCCs sent for a UE are consecutive where
every Handover Required that writes the UE's context gets both of its requests out, and its context is
set up before its first handover only.** -/
theorem refusedHandover_never_reported :
    (∀ s assoc msg answers answers', Refused env s assoc msg answers answers' →
      ¬ ReportsFailure env s assoc msg answers answers' ∧
        (LeavesUe env s assoc msg answers answers' ↔ findHandoverUe s assoc msg = none)) ∧
    ∀ r es, Along (ngapStep env) (KeepsNccs env r) .start es →
      (nccsOf env r .start es).IsChain fun a b => b.toNat = a.toNat + 1 :=
  ⟨fun _ _ _ _ _ _ => ⟨not_reportsFailure env, leavesUe_iff env⟩,
    fun _ _ h => (nccsOf_isChain env made_start h).1⟩

/-- Two gNBs are set up, a UE comes, its context is set up, and it is handed over to gNB 2. -/
def setUpAndMove : List NgapEvent :=
  [.association 1, .setup 1 ⟨some 1, true, true, false⟩, .association 2,
    .setup 2 ⟨some 2, true, true, false⟩, .initialUe 1 7, .nasEstablishment 7 1 ⟨0, 0⟩,
    .n1 (twoGnbs 0).nas, .initialContextSetupRequest ⟨1, 7, [], []⟩,
    .n2 (.handoverRequired 1 (requireTarget 2) (fun _ => some []) (fun _ => none))]

/-- An unknown target gNB, and a context set up before a handover whose two requests carry the NCCs 2
and 3. -/
theorem refusedHandover_never_reported_twoGnbs :
    ¬ ReportsFailure plainEnv (twoGnbs 0) 1 (requireTarget 9) (fun _ => none) (fun _ => none) ∧
      nccsOf plainEnv 0 .start setUpAndMove = [2, 3] ∧
      (nccsOf plainEnv 0 .start setUpAndMove).IsChain fun a b => b.toNat = a.toNat + 1 := by
  refine ⟨((refusedHandover_never_reported plainEnv).1 _ _ _ _ _ ?_).1, by decide,
    (refusedHandover_never_reported plainEnv).2 _ _ ?_⟩
  · unfold Refused
    decide
  · refine ⟨⟨nofun, trivial⟩, ⟨nofun, trivial⟩, ⟨nofun, trivial⟩, ⟨nofun, trivial⟩, ⟨nofun, trivial⟩,
      ⟨nofun, trivial⟩, ⟨nofun, trivial⟩, ⟨fun _ => ?_, trivial⟩, ⟨nofun, fun _ => ?_⟩, trivial⟩
    · decide
    · exact ⟨by decide, by decide⟩

end

end Oai5g.Amf
