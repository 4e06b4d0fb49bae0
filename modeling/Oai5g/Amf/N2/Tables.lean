import Oai5g.Amf.N2.Consistent

/-!
# Runs at the gNBs

* `RanInv`: the invariant of the gNB and UE tables; every event that meets `KeepsTables` keeps it.
* `effect_of_keepsTables`: such an event does what it should.
* **`tablesConsistent_run`**, and a run with a shutdown after which the gNB is still there.
-/

namespace Oai5g.Amf

/-- The invariant: every context in a table is stored under its own key, and the loop over
`ranid2uecontext` sees all keys. -/
structure RanInv (s : RanState) : Prop where
  keyed : CtxKeyed s.n2
  own : ∀ k r, s.n2.ranid2uecontext k = some r → Own s.n2 r
  keys : ∀ k r, s.n2.ranid2uecontext k = some r → k ∈ s.ranKeys
  made : ∀ k r, s.n2.ranid2uecontext k = some r → r < s.n2.uncs.next

theorem RanInv.start : RanInv .start where
  keyed _ _ h := nomatch h
  own _ _ h := nomatch h
  keys _ _ h := nomatch h
  made _ _ h := nomatch h

section

variable {s s' : N2State}

theorem Own.of_eq {r : ℕ} (h : Own s r) (hran : (s'.unc r).ranUeNgapId = (s.unc r).ranUeNgapId)
    (hassoc : (s'.unc r).gnbAssocId = (s.unc r).gnbAssocId)
    (hgnb : ∀ gc, s.assoc2gnb (s.unc r).gnbAssocId = some gc →
      ∃ gc', s'.assoc2gnb (s.unc r).gnbAssocId = some gc' ∧ gc'.gnbId = gc.gnbId)
    (hentry : ∀ k, OwnKey s r k → s.ranid2uecontext k = some r → s'.ranid2uecontext k = some r) :
    Own s' r := by
  obtain ⟨k, ⟨gc, hgc, rfl⟩, hk⟩ := h
  obtain ⟨gc', hgc', hid⟩ := hgnb gc hgc
  refine ⟨_, ⟨gc', by rw [hassoc, hgc'], rfl⟩, ?_⟩
  rw [hran, hid]
  exact hentry _ ⟨gc, hgc, rfl⟩ hk

theorem Own.held {r : ℕ} (h : Own s r) : Held s r := by
  obtain ⟨k, -, hk⟩ := h
  exact .inr ⟨k, hk⟩

end

theorem ReleaseClean.modifyGnbid2gnb {s : RanState} {assoc : SctpAssocId} {g : UInt32}
    (hc : ReleaseClean s.n2 assoc g) (m : UInt32 → Option GnbContext) :
    ReleaseClean (s.modifyN2 fun n2 => { n2 with gnbid2gnb := m }).n2 assoc g :=
  ⟨hc.only, hc.own, hc.amf, hc.nas⟩

namespace RanInv

variable {s s' : RanState}

theorem of_cut {P : ℕ → Prop} (hs : RanInv s) (h : Cut P s.n2 s'.n2)
    (hkeys : s'.ranKeys = s.ranKeys) : RanInv s' where
  keyed := h.ctxKeyed hs.keyed
  own k r hk := h.own (h.ran_of hk).1 (hs.own k r (h.ran_of hk).2)
  keys k r hk := by
    rw [hkeys]
    exact hs.keys k r (h.ran_of hk).2
  made k r hk := by
    rw [h.uncs]
    exact hs.made k r (h.ran_of hk).2

theorem of_sameKeys (hs : RanInv s) (hamf : s'.n2.amfueid2uecontext = s.n2.amfueid2uecontext)
    (hran : s'.n2.ranid2uecontext = s.n2.ranid2uecontext) (hnext : s'.n2.uncs.next = s.n2.uncs.next)
    (hkeys : s'.ranKeys = s.ranKeys)
    (hid : ∀ r, (s'.n2.unc r).amfUeNgapId = (s.n2.unc r).amfUeNgapId)
    (hown : ∀ r, Own s.n2 r → Own s'.n2 r) : RanInv s' where
  keyed a r h := by
    rw [hamf] at h
    rw [hid]
    exact ⟨(hs.keyed a r h).1, hown r (hs.keyed a r h).2⟩
  own k r h := by
    rw [hran] at h
    exact hown r (hs.own k r h)
  keys k r h := by
    rw [hran] at h
    rw [hkeys]
    exact hs.keys k r h
  made k r h := by
    rw [hran] at h
    rw [hnext]
    exact hs.made k r h

theorem setNgState (hs : RanInv s) (assoc : SctpAssocId) (st : NgGnbState) :
    RanInv (s.setNgState assoc st) := ⟨hs.keyed, hs.own, hs.keys, hs.made⟩

theorem setGnb (hs : RanInv s) {assoc : SctpAssocId} {gc : GnbContext}
    (h : (∃ gc', s.n2.assoc2gnb assoc = some gc' ∧ gc'.gnbId = gc.gnbId) ∨
      ∀ r, Held s.n2 r → (s.n2.unc r).gnbAssocId ≠ assoc) : RanInv (s.setGnb assoc gc) := by
  refine hs.of_sameKeys rfl rfl rfl rfl (fun _ => rfl) fun r hr => ?_
  refine hr.of_eq rfl rfl (fun gc₀ hgc₀ => ?_) fun _ _ hk => hk
  simp only [RanState.setGnb, RanState.modifyN2]
  by_cases ha : (s.n2.unc r).gnbAssocId = assoc
  · rcases h with ⟨gc', hgc', hid⟩ | h
    · rw [ha, hgc'] at hgc₀
      cases hgc₀
      exact ⟨gc, by rw [ha, Function.update_self], hid.symm⟩
    · exact absurd ha (h r hr.held)
  · exact ⟨gc₀, by rw [Function.update_of_ne ha, hgc₀], rfl⟩

/-! ## Associations, setups, resets -/

theorem handleSctpNewAssociation (hs : RanInv s) (assoc : SctpAssocId) :
    RanInv (s.handleSctpNewAssociation assoc) := by
  unfold RanState.handleSctpNewAssociation
  split
  · rename_i hnone
    refine (hs.setGnb (.inr ?_)).setNgState _ _
    -- a context in the tables has a gNB
    rintro r hr ha
    have hown : Own s.n2 r := by
      rcases hr with ⟨a, h⟩ | ⟨k, h⟩
      · exact (hs.keyed a r h).2
      · exact hs.own k r h
    obtain ⟨k, ⟨gc, hgc, -⟩, -⟩ := hown
    rw [ha, hnone] at hgc
    cases hgc
  · split
    · exact hs
    · exact hs.setNgState _ _

theorem releaseUeContexts (hs : RanInv s) {assoc : SctpAssocId} {g : UInt32}
    (hc : ReleaseClean s.n2 assoc g) : RanInv (s.releaseUeContexts assoc g) :=
  hs.of_cut (releaseUeContexts_cut hs.keys hs.keyed hc) rfl

variable {assoc : SctpAssocId}

theorem setGnb_of_setup (hs : RanInv s) {gc : GnbContext} {g : UInt32}
    (hgc : s.n2.assoc2gnb assoc = some gc)
    (h : g = gc.gnbId ∨ ∀ r, Held s.n2 r → (s.n2.unc r).gnbAssocId ≠ assoc) :
    RanInv (s.setGnb assoc { gc with gnbId := g }) := by
  refine hs.setGnb ?_
  rcases h with rfl | h
  · exact .inl ⟨gc, hgc, rfl⟩
  · exact .inr h

theorem modifyGnbid2gnb (hs : RanInv s) (m : UInt32 → Option GnbContext) :
    RanInv (s.modifyN2 fun n2 => { n2 with gnbid2gnb := m }) :=
  hs.of_sameKeys rfl rfl rfl rfl (fun _ => rfl) fun _ hr => hr

theorem handleNgSetupRequest (hs : RanInv s) {req : NgSetupRequest}
    (h : KeepsTables s (.setup assoc req)) : RanInv (s.handleNgSetupRequest assoc req) := by
  unfold RanState.handleNgSetupRequest
  split
  · rename_i gc g hgc hid
    obtain ⟨hsame, hclean⟩ := h gc g hgc hid
    have hset := (hs.setGnb_of_setup hgc hsame)
    dsimp only
    split_ifs with hok hret
    · exact (hset.modifyGnbid2gnb _).setNgState _ _
    · have hc := hclean (by simp [NgSetupRequest.accepted, hid, hok]) (by simpa using hret)
      exact ((hset.modifyGnbid2gnb _).releaseUeContexts (hc.modifyGnbid2gnb _)).setNgState _ _
    · exact hset
  · exact hs

theorem handleNgReset (hs : RanInv s) (h : KeepsTables s (.reset assoc)) :
    RanInv (s.handleNgReset assoc) := by
  unfold RanState.handleNgReset
  split
  · exact hs
  · rename_i gc hgc
    exact (hs.setNgState assoc .reseting).releaseUeContexts (h gc hgc)

theorem handleNgResetPart (hs : RanInv s) {items : List UeConnectionItem}
    (h : KeepsTables s (.resetPart assoc items)) : RanInv (s.handleNgResetPart assoc items) := by
  unfold RanState.handleNgResetPart
  split
  · exact hs
  · rename_i gc hgc
    exact (hs.setNgState assoc .reseting).of_cut (resetItems_cut hs.keyed (h gc hgc)) rfl

/-! ## UEs -/

theorem lt_next (hs : RanInv s) {r : ℕ} (h : Own s.n2 r) : r < s.n2.uncs.next := by
  obtain ⟨k, -, hk⟩ := h
  exact hs.made k r hk

theorem modifyUnc_here (hs : RanInv s) {ran : UInt32} {gc : GnbContext} {r : ℕ}
    (hgc : s.n2.assoc2gnb assoc = some gc) (hr : s.n2.ranid2uecontext (ran, gc.gnbId) = some r) :
    RanInv (s.modifyN2 fun n2 => n2.modifyUnc r fun unc =>
      { unc with ranUeNgapId := ran, gnbAssocId := assoc }) := by
  refine hs.of_sameKeys rfl rfl rfl rfl
    (s.n2.modifyUnc_proj r _ UeNgapContext.amfUeNgapId fun _ => rfl) fun q hq => ?_
  by_cases hqr : q = r
  · subst hqr
    refine ⟨(ran, gc.gnbId), ⟨gc, ?_, ?_⟩, hr⟩ <;>
      simp only [RanState.modifyN2, N2State.modifyUnc_unc_self]
    exact hgc
  · have hu := s.n2.modifyUnc_unc_of_ne
      (fun unc => { unc with ranUeNgapId := ran, gnbAssocId := assoc }) hqr
    exact hq.of_eq (congrArg _ hu) (congrArg _ hu) (fun gc h => ⟨gc, h, rfl⟩) fun _ _ hk => hk

theorem newUe (hs : RanInv s) {ran : UInt32} {gc : GnbContext}
    (hgc : s.n2.assoc2gnb assoc = some gc) (hnone : s.n2.ranid2uecontext (ran, gc.gnbId) = none) :
    RanInv { s with
      ranKeys := (ran, gc.gnbId) :: s.ranKeys
      n2 := ({ s.n2 with uncs := (s.n2.uncs.alloc RanState.newUnc).1 }.setRanUeNgapId2UeNgapContext
          (ran, gc.gnbId) s.n2.uncs.next).modifyUnc s.n2.uncs.next fun unc =>
            { unc with ranUeNgapId := ran, gnbAssocId := assoc } } := by
  generalize hs' : RanState.mk _ _ _ _ = s'
  have hran : s'.n2.ranid2uecontext =
      Function.update s.n2.ranid2uecontext (ran, gc.gnbId) (some s.n2.uncs.next) := by
    rw [← hs']
    rfl
  have hamf : s'.n2.amfueid2uecontext = s.n2.amfueid2uecontext := by
    rw [← hs']
    rfl
  have hassoc : s'.n2.assoc2gnb = s.n2.assoc2gnb := by
    rw [← hs']
    rfl
  have hself : (s'.n2.unc s.n2.uncs.next).ranUeNgapId = ran ∧
      (s'.n2.unc s.n2.uncs.next).gnbAssocId = assoc := by
    rw [← hs', N2State.modifyUnc_unc_self]
    exact ⟨rfl, rfl⟩
  have hother {q : ℕ} (hq : q ≠ s.n2.uncs.next) : s'.n2.unc q = s.n2.unc q := by
    rw [← hs', N2State.modifyUnc_unc_of_ne _ _ hq]
    exact s.n2.uncs.alloc_cell_of_ne _ hq
  have hnew : Own s'.n2 s.n2.uncs.next := by
    refine ⟨(ran, gc.gnbId), ⟨gc, ?_, ?_⟩, ?_⟩
    · rw [hself.2, hassoc, hgc]
    · rw [hself.1]
    · rw [hran, Function.update_self]
  have hown {q : ℕ} (hq : Own s.n2 q) : Own s'.n2 q := by
    have hu := hother (hs.lt_next hq).ne
    refine hq.of_eq (congrArg _ hu) (congrArg _ hu) (fun gc h => ⟨gc, by rw [hassoc, h], rfl⟩) ?_
    intro k _ hk
    have hne : k ≠ (ran, gc.gnbId) := by
      rintro rfl
      rw [hnone] at hk
      cases hk
    rw [hran, Function.update_of_ne hne, hk]
  refine ⟨fun a r h => ?_, fun k r h => ?_, fun k r h => ?_, fun k r h => ?_⟩
  · rw [hamf] at h
    obtain ⟨hid, hr⟩ := hs.keyed a r h
    rw [hother (hs.lt_next hr).ne]
    exact ⟨hid, hown hr⟩
  all_goals
    rw [hran, update_some_eq_some] at h
    rcases h with ⟨rfl, rfl⟩ | ⟨-, h⟩
  · exact hnew
  · exact hown (hs.own k r h)
  · rw [← hs']
    exact List.mem_cons_self
  · rw [← hs']
    exact List.mem_cons_of_mem _ (hs.keys k r h)
  · rw [← hs']
    exact Nat.lt_succ_self _
  · rw [← hs']
    exact (hs.made k r h).trans (Nat.lt_succ_self _)

theorem handleInitialUeMessage (hs : RanInv s) (ran : UInt32) :
    RanInv (s.handleInitialUeMessage assoc ran) := by
  unfold RanState.handleInitialUeMessage
  split
  · exact hs
  · rename_i gc hgc
    split
    · exact hs
    · dsimp only
      split
      · rename_i r hr
        exact hs.modifyUnc_here hgc hr
      · rename_i hnone
        exact hs.newUe hgc hnone

/-- A context gets an AMF UE NGAP ID and is stored under it, if under no other. -/
theorem of_setAmf (hs : RanInv s) {s' : RanState} {k : UInt32 × UInt32} {r : ℕ} {amf : UInt64}
    (f : UeNgapContext → UeNgapContext) (hr : s.n2.ranid2uecontext k = some r)
    (hone : ∀ a, s.n2.amfueid2uecontext a = some r → a = amf)
    (hamf : s'.n2.amfueid2uecontext = Function.update s.n2.amfueid2uecontext amf (some r))
    (hran : s'.n2.ranid2uecontext = s.n2.ranid2uecontext) (hassoc : s'.n2.assoc2gnb = s.n2.assoc2gnb)
    (hunc : s'.n2.uncs = s.n2.uncs.modify r f) (hkeys : s'.ranKeys = s.ranKeys)
    (hf : ∀ unc, (f unc).amfUeNgapId = amf ∧ (f unc).ranUeNgapId = unc.ranUeNgapId ∧
      (f unc).gnbAssocId = unc.gnbAssocId) : RanInv s' := by
  have hown {q : ℕ} (hq : Own s.n2 q) : Own s'.n2 q := by
    refine hq.of_eq (N2State.proj_of_modify hunc _ (fun unc => (hf unc).2.1) q)
      (N2State.proj_of_modify hunc _ (fun unc => (hf unc).2.2) q) ?_ ?_
    · intro gc hgc
      exact ⟨gc, by rw [hassoc, hgc], rfl⟩
    · intro k _ hk
      rw [hran, hk]
  refine ⟨fun a q hq => ?_, fun k q hq => ?_, fun k q hq => ?_, fun k q hq => ?_⟩
  · rw [hamf, update_some_eq_some] at hq
    rcases hq with ⟨rfl, rfl⟩ | ⟨ha, hq⟩
    · rw [N2State.unc_of_modify hunc]
      exact ⟨(hf _).1, hown (hs.own _ r hr)⟩
    · have hne : q ≠ r := by
        rintro rfl
        exact ha (hone a hq)
      rw [N2State.unc_of_modify_of_ne hunc hne]
      exact ⟨(hs.keyed a q hq).1, hown (hs.keyed a q hq).2⟩
  all_goals rw [hran] at hq
  · exact hown (hs.own k q hq)
  · rw [hkeys]
    exact hs.keys k q hq
  · rw [hunc]
    exact hs.made k q hq

theorem handleNasEstablishment (hs : RanInv s) {ran gnbId : UInt32} {location : UserLocation}
    (h : KeepsTables s (.nasEstablishment ran gnbId location)) :
    RanInv (s.handleNasEstablishment ran gnbId location) := by
  unfold RanState.handleNasEstablishment
  cases hr : s.n2.ranid2uecontext (ran, gnbId) with
  | none => exact hs.of_sameKeys rfl rfl rfl rfl (fun _ => rfl) fun _ hown => hown
  | some r =>
    exact hs.of_setAmf (fun unc => { unc with amfUeNgapId := s.generateAmfUeNgapId }) hr
      (fun a => h r a hr) rfl rfl rfl rfl rfl fun _ => ⟨rfl, rfl, rfl⟩

theorem of_modifyUnc (hs : RanInv s) {r : ℕ} (f : UeNgapContext → UeNgapContext) {n2 : N2State}
    (hamf : n2.amfueid2uecontext = s.n2.amfueid2uecontext)
    (hran : n2.ranid2uecontext = s.n2.ranid2uecontext) (hassoc : n2.assoc2gnb = s.n2.assoc2gnb)
    (hunc : n2.uncs = s.n2.uncs.modify r f)
    (hf : ∀ unc, (f unc).amfUeNgapId = unc.amfUeNgapId ∧ (f unc).ranUeNgapId = unc.ranUeNgapId ∧
      (f unc).gnbAssocId = unc.gnbAssocId) : RanInv { s with n2 := n2 } := by
  have hnext : n2.uncs.next = s.n2.uncs.next := by
    rw [hunc]
    rfl
  refine hs.of_sameKeys hamf hran hnext rfl
    (N2State.proj_of_modify hunc _ fun unc => (hf unc).1) fun q hq => ?_
  refine hq.of_eq (N2State.proj_of_modify hunc _ (fun unc => (hf unc).2.1) q)
    (N2State.proj_of_modify hunc _ (fun unc => (hf unc).2.2) q) ?_ ?_
  · intro gc hgc
    exact ⟨gc, by rw [hassoc, hgc], rfl⟩
  · intro k _ hk
    rw [hran, hk]

theorem handleDlNasTransport (hs : RanInv s) (env : N2Env) {msg : DlNasTransport}
    (h : KeepsTables s (.dlNasTransport msg)) :
    RanInv (s.modifyN2 fun n2 => n2.handleDlNasTransport env msg) := by
  change RanInv { s with n2 := s.n2.handleDlNasTransport env msg }
  unfold N2State.handleDlNasTransport
  cases hfound : s.n2.ranUeId2UeNgapContext msg.ranUeNgapId msg.amfUeNgapId with
  | none => exact hs
  | some r =>
    obtain ⟨uc, -, hr⟩ := Option.bind_eq_some_iff.mp hfound
    dsimp only
    split
    · exact hs
    · exact hs.of_setAmf
        (fun unc => { unc with amfUeNgapId := msg.amfUeNgapId, ngUeState := .connected }) hr
        (fun a => h r a hfound) rfl rfl rfl rfl rfl fun _ => ⟨rfl, rfl, rfl⟩

theorem handleInitialContextSetupRequest (hs : RanInv s) (env : N2Env)
    (msg : InitialContextSetupRequest) :
    RanInv (s.modifyN2 fun n2 => n2.handleInitialContextSetupRequest env msg) := by
  change RanInv { s with n2 := s.n2.handleInitialContextSetupRequest env msg }
  unfold N2State.handleInitialContextSetupRequest
  split
  · exact hs
  · dsimp only
    split <;> exact hs.of_modifyUnc (fun unc => { unc with ncc := 1 }) rfl rfl rfl rfl fun _ =>
      ⟨rfl, rfl, rfl⟩

theorem handleUeContextReleaseRequest (hs : RanInv s) (env : N2Env) (assoc : SctpAssocId)
    (msg : UeContextReleaseRequest) :
    RanInv (s.modifyN2 fun n2 => n2.handleUeContextReleaseRequest env assoc msg) := by
  change RanInv { s with n2 := s.n2.handleUeContextReleaseRequest env assoc msg }
  unfold N2State.handleUeContextReleaseRequest
  dsimp only
  split
  · exact hs.of_sameKeys rfl rfl rfl rfl (fun _ => rfl) fun _ hr => hr
  · exact hs.of_modifyUnc
      (fun unc => { unc with pduSessionsToBeReleased := responseKeys msg.pduSessions }) rfl rfl rfl rfl
      fun _ => ⟨rfl, rfl, rfl⟩

/-! ## Handovers and releases -/

theorem of_n2 (hs : RanInv s) {n2 : N2State}
    (hamf : n2.amfueid2uecontext = s.n2.amfueid2uecontext)
    (hran : n2.ranid2uecontext = s.n2.ranid2uecontext) (hnext : n2.uncs.next = s.n2.uncs.next)
    (hid : ∀ r, (n2.unc r).amfUeNgapId = (s.n2.unc r).amfUeNgapId)
    (hown : ∀ r, Own s.n2 r → Own n2 r) : RanInv { s with n2 := n2 } :=
  hs.of_sameKeys hamf hran hnext rfl hid hown

end RanInv

section

variable (env : N2Env) {s : N2State} {assoc : SctpAssocId}

theorem assoc2gnb_of_findHandoverUe {msg : HandoverRequired} {r : ℕ}
    (h : findHandoverUe s assoc msg = some r) : ∃ gc, s.assoc2gnb assoc = some gc := by
  unfold findHandoverUe at h
  split at h
  · cases h
  · rename_i gc hgc
    exact ⟨gc, hgc⟩

end

namespace RanInv

variable {s : RanState} {assoc : SctpAssocId} (env : N2Env)

theorem handoverRequired (hs : RanInv s) {msg : HandoverRequired} {answers answers' : SmfAnswers}
    (h : KeepsKeys s.n2 (.handoverRequired assoc msg answers answers')) :
    RanInv { s with n2 := dispatchHandoverRequired env s.n2 assoc msg answers answers' } := by
  cases hf : findHandoverUe s.n2 assoc msg with
  | none =>
    rw [dispatch_of_none env answers answers' hf]
    exact hs.of_n2 rfl rfl rfl (fun _ => rfl) fun _ hr => hr
  | some r =>
    have ht := dispatch_sameTables env answers answers' hf
    obtain ⟨target, hu⟩ := dispatch_unc env answers answers' hf
    have hother {q : ℕ} (hq : q ≠ r) := dispatch_unc_of_ne env answers answers' hf hq
    refine hs.of_n2 ht.amfueid2uecontext ht.ranid2uecontext (dispatch_next env _ _ _ _)
      (fun q => ?_) fun q hq => ?_
    · by_cases hqr : q = r
      · rw [hqr, hu]
      · rw [hother hqr]
    · by_cases hqr : q = r
      · subst hqr
        obtain ⟨gc, hgc⟩ := assoc2gnb_of_findHandoverUe hf
        refine ⟨((s.n2.unc q).ranUeNgapId, gc.gnbId), ⟨gc, ?_, ?_⟩, ?_⟩
        · rw [hu, ht.assoc2gnb, hgc]
        · rw [hu]
        · rw [ht.ranid2uecontext, h q gc hf hgc]
      · refine hq.of_eq (congrArg _ (hother hqr)) (congrArg _ (hother hqr)) ?_ ?_
        · intro gc hgc
          exact ⟨gc, by rw [ht.assoc2gnb, hgc], rfl⟩
        · intro k _ hk
          rw [ht.ranid2uecontext, hk]

theorem handoverRequestAck (hs : RanInv s) (msg : HandoverRequestAck) (answers : SmfAnswers) :
    RanInv { s with n2 := handleHandoverRequestAck env s.n2 assoc msg answers } := by
  rcases handleHandoverRequestAck_cases env s.n2 assoc msg answers with h | ⟨r, _, _, -, h⟩
  · rw [h]
    exact hs
  · -- only the target RAN UE NGAP ID of a context is written
    have hu := congrArg N2State.uncs h
    dsimp only at hu
    have hid := N2State.proj_of_modify hu UeNgapContext.amfUeNgapId fun _ => rfl
    have hran := N2State.proj_of_modify hu UeNgapContext.ranUeNgapId fun _ => rfl
    have hassoc := N2State.proj_of_modify hu UeNgapContext.gnbAssocId fun _ => rfl
    rw [h] at hid hran hassoc ⊢
    refine hs.of_n2 rfl rfl rfl hid fun q hq => ?_
    exact hq.of_eq (hran q) (hassoc q) (fun gc h => ⟨gc, h, rfl⟩) fun _ _ hk => hk

theorem handoverNotify (hs : RanInv s) {msg : HandoverNotify}
    (h : KeepsKeys s.n2 (.handoverNotify assoc msg))
    (hkey : ∀ k ∈ s.newKey (.handoverNotify assoc msg), k ∈ s.ranKeys) :
    RanInv { s with n2 := handleHandoverNotify env s.n2 assoc msg } := by
  rcases handleHandoverNotify_cases env s.n2 assoc msg with
    hn2 | ⟨gc, r, _, _, _, hgc, hr, -, hn2⟩
  · rw [hn2]
    exact hs
  generalize handleHandoverNotify env s.n2 assoc msg = n2 at hn2
  have hamf := congrArg N2State.amfueid2uecontext hn2
  have hran := congrArg N2State.ranid2uecontext hn2
  have hassoc := congrArg N2State.assoc2gnb hn2
  have hunc := congrArg N2State.uncs hn2
  dsimp only at hamf hran hassoc hunc
  have hown (q : ℕ) (hq : Own s.n2 q) : Own n2 q := by
    by_cases hqr : q = r
    · subst hqr
      refine ⟨(msg.ranUeNgapId, gc.gnbId), ⟨gc, ?_, ?_⟩, ?_⟩
      · rw [N2State.unc_of_modify hunc, hassoc]
        exact hgc
      · rw [N2State.unc_of_modify hunc]
        rfl
      · rw [hran, Function.update_self]
    · have hu := N2State.unc_of_modify_of_ne hunc hqr
      refine hq.of_eq (congrArg _ hu) (congrArg _ hu) ?_ ?_
      · intro gc hgc
        exact ⟨gc, by rw [hassoc, hgc], rfl⟩
      · intro k _ hk
        have hne : k ≠ (msg.ranUeNgapId, gc.gnbId) := by
          rintro rfl
          exact hqr (h gc r q hgc hr hk)
        rw [hran, Function.update_of_ne hne, hk]
  have hrown := (hs.keyed _ r hr).2
  refine ⟨fun a q hq => ?_, fun k q hq => ?_, fun k q hq => ?_, fun k q hq => ?_⟩
  · rw [hamf] at hq
    refine ⟨?_, hown q (hs.keyed a q hq).2⟩
    rw [← (hs.keyed a q hq).1]
    exact N2State.proj_of_modify hunc UeNgapContext.amfUeNgapId (fun _ => rfl) q
  all_goals
    simp only [hran, update_some_eq_some] at hq
    rcases hq with ⟨rfl, rfl⟩ | ⟨-, hq⟩
  · exact hown r hrown
  · exact hown q (hs.own k q hq)
  · refine hkey _ ?_
    simp only [RanState.newKey, hgc, Option.map_some, Option.toList_some, List.mem_singleton]
  · exact hs.keys k q hq
  · rw [hunc]
    exact hs.lt_next hrown
  · rw [hunc]
    exact hs.made k q hq

theorem of_removedKey (hs : RanInv s) {n2 : N2State} {key : UInt32 × UInt32}
    (hran : n2.ranid2uecontext = Function.update s.n2.ranid2uecontext key none)
    (hassoc : n2.assoc2gnb = s.n2.assoc2gnb) (hnext : n2.uncs.next = s.n2.uncs.next)
    (hid : ∀ q, (n2.unc q).amfUeNgapId = (s.n2.unc q).amfUeNgapId ∧
      (n2.unc q).ranUeNgapId = (s.n2.unc q).ranUeNgapId ∧
      (n2.unc q).gnbAssocId = (s.n2.unc q).gnbAssocId)
    (hamf : ∀ a q, n2.amfueid2uecontext a = some q → s.n2.amfueid2uecontext a = some q ∧
      ¬ (s.n2.ranid2uecontext key = some q ∧ OwnKey s.n2 q key))
    (hown : ∀ k q, s.n2.ranid2uecontext k = some q → s.n2.ranid2uecontext key = some q →
      OwnKey s.n2 q key → k = key) : RanInv { s with n2 := n2 } := by
  have stays (q : ℕ) (hq : Own s.n2 q)
      (hnot : ¬ (s.n2.ranid2uecontext key = some q ∧ OwnKey s.n2 q key)) : Own n2 q := by
    refine hq.of_eq (hid q).2.1 (hid q).2.2 ?_ ?_
    · intro gc hgc
      exact ⟨gc, by rw [hassoc, hgc], rfl⟩
    · intro k hkey hk
      have hne : k ≠ key := by
        rintro rfl
        exact hnot ⟨hk, hkey⟩
      rw [hran, Function.update_of_ne hne, hk]
  refine ⟨fun a q hq => ?_, fun k q hq => ?_, fun k q hq => ?_, fun k q hq => ?_⟩
  · obtain ⟨hq, hnot⟩ := hamf a q hq
    refine ⟨?_, stays q (hs.keyed a q hq).2 hnot⟩
    rw [(hid q).1, (hs.keyed a q hq).1]
  all_goals
    simp only [hran, update_none_eq_some] at hq
    obtain ⟨hq, hne⟩ := hq
  · exact stays q (hs.own k q hq) fun hnot => hne (hown k q hq hnot.1 hnot.2)
  · exact hs.keys k q hq
  · rw [hnext]
    exact hs.made k q hq

theorem ueContextReleaseComplete (hs : RanInv s) {msg : UeContextReleaseComplete}
    (h : KeepsKeys s.n2 (.ueContextReleaseComplete assoc msg)) :
    RanInv { s with n2 := handleUeContextReleaseComplete s.n2 assoc msg } := by
  rcases handleUeContextReleaseComplete_cases s.n2 assoc msg with hn2 | ⟨r, gc, hr, hgc, hn2⟩
  · rw [hn2]
    exact hs
  have hown (k : UInt32 × UInt32) (q : ℕ) (hk : s.n2.ranid2uecontext k = some q)
      (hq : s.n2.ranid2uecontext (msg.ranUeNgapId, gc.gnbId) = some q)
      (hkey : OwnKey s.n2 q (msg.ranUeNgapId, gc.gnbId)) : k = (msg.ranUeNgapId, gc.gnbId) :=
    (h gc r q hgc hr hq hkey).1 k hk
  rcases hn2 with ⟨hcause, hn2⟩ | ⟨_, nas, sent, -, -, hn2⟩
  · have hu := congrArg N2State.uncs hn2
    dsimp only at hu
    have hid := N2State.proj_of_modify hu UeNgapContext.amfUeNgapId fun _ => rfl
    have hran := N2State.proj_of_modify hu UeNgapContext.ranUeNgapId fun _ => rfl
    have hassoc := N2State.proj_of_modify hu UeNgapContext.gnbAssocId fun _ => rfl
    rw [hn2] at hid hran hassoc ⊢
    refine hs.of_removedKey rfl rfl rfl (fun q => ⟨hid q, hran q, hassoc q⟩)
      (fun a q hq => ⟨hq, fun hnot => ?_⟩) hown
    exact ((h gc r q hgc hr hnot.1 hnot.2).2 a hq).2 hcause
  · rw [hn2]
    refine hs.of_removedKey rfl rfl rfl (fun _ => ⟨rfl, rfl, rfl⟩) (fun a q hq => ?_) hown
    rw [update_none_eq_some] at hq
    refine ⟨hq.1, fun hnot => hq.2 ?_⟩
    exact ((h gc r q hgc hr hnot.1 hnot.2).2 a hq.1).1

theorem moreKeys (hs : RanInv s) (ks : List (UInt32 × UInt32)) :
    RanInv { s with ranKeys := ks ++ s.ranKeys } :=
  ⟨hs.keyed, hs.own, fun k r hk => List.mem_append_right ks (hs.keys k r hk), hs.made⟩

/-- **An event that meets its condition keeps the invariant.** -/
theorem ngapStep (hs : RanInv s) {e : NgapEvent} (h : KeepsTables s e) :
    RanInv (ngapStep env s e) := by
  cases e with
  | association assoc => exact hs.handleSctpNewAssociation assoc
  | setup assoc req => exact hs.handleNgSetupRequest h
  | reset assoc => exact hs.handleNgReset h
  | resetPart assoc items => exact hs.handleNgResetPart h
  | shutdown assoc =>
    simp only [Amf.ngapStep, RanState.handleNgShutdown, show s.n2.assoc2gnb assoc = none from h]
    exact hs
  | initialUe assoc ran => exact hs.handleInitialUeMessage ran
  | nasEstablishment ran gnbId location => exact hs.handleNasEstablishment h
  | dlNasTransport msg => exact hs.handleDlNasTransport env h
  | initialContextSetupRequest msg => exact hs.handleInitialContextSetupRequest env msg
  | ueContextReleaseRequest assoc msg => exact hs.handleUeContextReleaseRequest env assoc msg
  | n1 nas => exact hs.of_n2 rfl rfl rfl (fun _ => rfl) fun _ hr => hr
  | n2 e =>
    have hmore := hs.moreKeys (s.newKey e)
    cases e with
    | handoverRequired assoc msg answers answers' => exact hmore.handoverRequired env h
    | handoverRequestAck assoc msg answers => exact hmore.handoverRequestAck env msg answers
    | handoverNotify assoc msg =>
      exact hmore.handoverNotify env h fun k hk => List.mem_append_left _ hk
    | ueContextReleaseComplete assoc msg => exact hmore.ueContextReleaseComplete h

end RanInv

/-! ## What the events do -/

section

variable (env : N2Env) {s : RanState}

theorem released_of_setup (hs : RanInv s) {assoc : SctpAssocId} {req : NgSetupRequest}
    (h : KeepsTables s (.setup assoc req)) {gc : GnbContext} {g : UInt32}
    (hgc : s.n2.assoc2gnb assoc = some gc) (hid : req.gnbId = some g) (hacc : req.accepted = true)
    (hret : req.uesRetained = false) :
    Released s.n2 (s.handleNgSetupRequest assoc req).n2 g := by
  obtain ⟨hsame, hclean⟩ := h gc g hgc hid
  have hc := hclean hacc hret
  have hok : req.supportedTaList = true ∧ req.commonPlmn = true := by
    simpa [NgSetupRequest.accepted, hid] using hacc
  have hset := (hs.setGnb_of_setup hgc hsame).modifyGnbid2gnb
    (Function.update (s.setGnb assoc { gc with gnbId := g }).n2.gnbid2gnb g
      (some { gc with gnbId := g }))
  simp only [RanState.handleNgSetupRequest, hgc, hid, hok, hret, and_self, if_true,
    Bool.false_eq_true, if_false]
  have hclean' := hc.modifyGnbid2gnb
    (Function.update (s.setGnb assoc { gc with gnbId := g }).n2.gnbid2gnb g
      (some { gc with gnbId := g }))
  have hrel := Cut.released
    (Function.update_self assoc (some { gc with gnbId := g }) s.n2.assoc2gnb) hset.keyed hclean'
    (releaseUeContexts_cut hset.keys hset.keyed hclean')
  refine ⟨hrel.gone, fun r hr => ?_⟩
  have hkept := hrel.kept r hr
  exact ⟨hkept.unc, hkept.amf, hkept.ran⟩

/-- **An event that meets its condition does what it should.** -/
theorem effect_of_keepsTables (hs : RanInv s) {e : NgapEvent} (h : KeepsTables s e) :
    Effect s (ngapStep env s e) e := by
  cases e with
  | setup assoc req => exact fun gc g => released_of_setup hs h
  | reset assoc =>
    intro gc hgc
    simp only [ngapStep, RanState.handleNgReset, hgc]
    have hs' := hs.setNgState assoc .reseting
    exact (releaseUeContexts_cut hs'.keys hs'.keyed (h gc hgc)).released hgc hs.keyed (h gc hgc)
  | resetPart assoc items =>
    intro gc hgc
    simp only [ngapStep, RanState.handleNgResetPart, hgc]
    exact (resetItems_cut hs.keyed (h gc hgc)).releasedPart
  | shutdown assoc =>
    intro gc hgc
    rw [show s.n2.assoc2gnb assoc = none from h] at hgc
    cases hgc
  | _ => trivial

end

/-- **In every run whose events keep the tables, they are consistent and every event does what it
should.** -/
theorem tablesConsistent_run (env : N2Env) (es : List NgapEvent)
    (h : Along (ngapStep env) KeepsTables .start es) : TablesConsistent env es := by
  have hstep (s : RanState) (e : NgapEvent) (hs : RanInv s) (he : KeepsTables s e) :
      RanInv (ngapStep env s e) := hs.ngapStep env he
  refine ⟨(Along.invariant hstep .start h).keyed, ?_⟩
  refine Along.mono_of_invariant hstep (fun s e hs he => ?_) .start h
  exact ⟨hs.keyed, effect_of_keepsTables env hs he⟩

/-- A gNB is set up and brings one UE, which is answered and set up. -/
def oneUe : List NgapEvent :=
  [.association 1, .setup 1 ⟨some 5, true, true, false⟩, .initialUe 1 7,
    .nasEstablishment 7 5 ⟨0, 0⟩, .dlNasTransport ⟨1, 7, []⟩, .initialContextSetupRequest ⟨1, 7, [], []⟩]

theorem oneUe_ran {k : UInt32 × UInt32} {r : ℕ}
    (h : (run (ngapStep plainEnv) .start oneUe).n2.ranid2uecontext k = some r) :
    k = (7, 5) ∧ r = 0 := by
  have hran : (run (ngapStep plainEnv) .start oneUe).n2.ranid2uecontext =
      Function.update (fun _ => none) (7, 5) (some 0) := rfl
  rw [hran, update_some_eq_some] at h
  rcases h with ⟨hk, hr⟩ | ⟨-, h⟩
  · exact ⟨hk, hr.symm⟩
  · cases h

theorem oneUe_amf {a : UInt64} {r : ℕ}
    (h : (run (ngapStep plainEnv) .start oneUe).n2.amfueid2uecontext a = some r) : r = 0 := by
  have hamf : (run (ngapStep plainEnv) .start oneUe).n2.amfueid2uecontext =
      Function.update (Function.update (fun _ => none) 1 (some 0)) 1 (some 0) := rfl
  rw [hamf, Function.update_idem, update_some_eq_some] at h
  rcases h with ⟨-, hr⟩ | ⟨-, h⟩
  · exact hr.symm
  · cases h

theorem oneUe_clean : ReleaseClean (run (ngapStep plainEnv) .start oneUe).n2 1 5 where
  only r hr _ := by
    obtain rfl : r = 0 := by
      rcases hr with ⟨a, h⟩ | ⟨k, h⟩
      · exact oneUe_amf h
      · exact (oneUe_ran h).2
    rfl
  own k r hk _ := by
    obtain ⟨rfl, rfl⟩ := oneUe_ran hk
    rfl
  amf k r q hk _ hq := (oneUe_amf hq).trans (oneUe_ran hk).2.symm
  nas _ _ _ _ _ _ _ hn := nomatch hn

theorem oneUe_keepsTables : Along (ngapStep plainEnv) KeepsTables .start oneUe := by
  refine ⟨trivial, fun gc g _ _ => ⟨.inr ?_, fun _ _ => ?_⟩, trivial,
    (fun _ _ _ h => nomatch h), fun r a _ h => ?_, trivial, trivial⟩
  · rintro r (⟨a, h⟩ | ⟨k, h⟩) <;> cases h
  · refine ⟨?_, (fun _ _ h => nomatch h), (fun _ _ _ h => nomatch h),
      (fun _ _ _ _ _ h => nomatch h)⟩
    rintro r (⟨a, h⟩ | ⟨k, h⟩) <;> cases h
  · have hmap : Function.update (fun _ => none) (1 : UInt64) (some 0) a = some r := h
    rcases update_some_eq_some.mp hmap with ⟨rfl, -⟩ | ⟨-, h⟩
    · rfl
    · cases h

theorem tablesConsistent_reset : TablesConsistent plainEnv (oneUe ++ [.reset 1]) := by
  refine tablesConsistent_run plainEnv _ (Along.append.mpr ⟨oneUe_keepsTables, ?_, trivial⟩)
  intro gc hgc
  obtain rfl : (⟨5, 1⟩ : GnbContext) = gc := Option.some.inj hgc
  exact oneUe_clean

/-- After a shutdown the gNB is still found by its association. -/
theorem not_tablesConsistent_shutdown :
    ¬ TablesConsistent plainEnv
      [.association 1, .setup 1 ⟨some 5, true, true, false⟩, .shutdown 1] := by
  rintro ⟨-, -, -, ⟨-, heffect⟩, -⟩
  exact (heffect ⟨5, 1⟩ rfl).2.1.assoc 1 ⟨5, 1⟩ rfl rfl

end Oai5g.Amf
