import Oai5g.Upf.Operations
import Oai5g.Upf.Traffic

/-!
# Downlink Data Reports and the QFI

* `TableBelow`: the tables hold PDRs that were made.
* **`reports_eq_card`**: a run sends one Downlink Data Report for each PDR that has `notified_cp` set.
* **`downlink_qfi`**: a G-PDU for a UE carries the QFI of the latest packet from it.
-/

namespace Oai5g.Upf

open PfcpSwitch

/-- The tables hold PDRs that were made, at least the first `n`. -/
structure TableBelow (n : ℕ) (s : PfcpSwitch) : Prop where
  made : n ≤ s.pdrs.next
  stored : ∀ key l p, s.pdrTable key = some l → p ∈ l → p < s.pdrs.next

theorem TableBelow.keptFor (n : ℕ) : KeptFor (fun _ => True) Set.univ (TableBelow n) where
  modifySession _ _ _ _ _ hs := ⟨hs.made, hs.stored⟩
  addFar _ _ _ _ hs := ⟨hs.made, hs.stored⟩
  updatePdr _ _ _ _ _ _ _ hs := ⟨hs.made, hs.stored⟩
  updateFar _ _ _ _ _ _ hs := ⟨hs.made, hs.stored⟩
  generate _ _ hs := ⟨hs.made, hs.stored⟩
  newSession _ _ hs := ⟨hs.made, hs.stored⟩
  register _ _ _ hs := ⟨hs.made, hs.stored⟩
  eraseKeys s q _ hs := by
    refine ⟨hs.made, fun key l p hl hp => ?_⟩
    unfold PfcpSwitch.eraseKeys at hl
    dsimp only at hl
    split_ifs at hl
    exact hs.stored key l p hl hp
  addPdr s r key pdr _ _ _ _ hs := by
    refine ⟨hs.made.trans (Nat.le_succ _), fun key' l p hl hp => ?_⟩
    change p < s.pdrs.next + 1
    by_cases hkey : key' = key
    · subst hkey
      cases ht : s.pdrTable key' with
      | none =>
        rw [addPdr_pdrTable_of_none _ _ _ _ ht] at hl
        obtain rfl := Option.some.inj hl
        rw [List.mem_singleton.mp hp]
        exact Nat.lt_succ_self _
      | some l' =>
        rw [addPdr_pdrTable_of_some _ _ _ _ ht] at hl
        obtain rfl := Option.some.inj hl
        rcases mem_insertPdr hp with rfl | hp
        · exact Nat.lt_succ_self _
        · exact (hs.stored key' l' p ht hp).trans (Nat.lt_succ_self _)
    · rw [addPdr_pdrTable_of_ne _ _ _ _ hkey] at hl
      exact (hs.stored key' l p hl hp).trans (Nat.lt_succ_self _)

theorem TableBelow.switchStep {n : ℕ} {s : PfcpSwitch} (hs : TableBelow n s) (cfg : UpfCfg)
    (e : SessionRequest) : TableBelow n (Upf.switchStep cfg s e) :=
  (TableBelow.keptFor n).switchStep cfg (fun _ _ => trivial) (KeysAmong.univ s e) hs

theorem TableBelow.run {n : ℕ} {s : PfcpSwitch} (hs : TableBelow n s) (cfg : UpfCfg) (reqs : List SessionRequest) :
    TableBelow n (Oai5g.run (Upf.switchStep cfg) s reqs) := by
  induction reqs generalizing s with
  | nil => exact hs
  | cons e reqs ih => exact ih (hs.switchStep cfg e)

/-! ## Downlink Data Reports -/

/-- A Session Report Request. -/
def DatapathOutput.isReport : DatapathOutput → Bool
  | .sessionReport _ _ => true
  | _ => false

/-- The PDRs that have `notified_cp` set. -/
def Datapath.notified (d : Datapath) : Finset ℕ :=
  (Finset.range d.switch.pdrs.next).filter fun p => d.notifiedCp p = true

section

variable {cfg : DatapathCfg} {d d' : Datapath} {e : DatapathEvent} {iph : UserPacket}
  {out : List DatapathOutput}

theorem countP_forwarded (far : PfcpFar) (iph : UserPacket) (qfi : UInt8) :
    (far.forwarded iph qfi).countP DatapathOutput.isReport = 0 := by
  unfold PfcpFar.forwarded sendGPduTo
  split_ifs
  · split
    · rfl
    · split_ifs <;> rfl
  · rfl
  · rfl

theorem countP_reportErrorIndication (peer : GtpuPeer) (teid : UInt32) :
    (reportErrorIndication peer teid).countP DatapathOutput.isReport = 0 := by
  cases peer <;> rfl

theorem notified_setNotifiedCp {p : ℕ} (hp : p < d.switch.pdrs.next) (hnew : d.notifiedCp p = false) :
    (d.setNotifiedCp p).notified = insert p d.notified ∧ p ∉ d.notified := by
  constructor
  · ext q
    unfold Datapath.notified Datapath.setNotifiedCp
    simp only [Finset.mem_filter, Finset.mem_range, Finset.mem_insert]
    by_cases hq : q = p
    · subst hq
      simp [hp]
    · simp [hq]
  · simp [Datapath.notified, hnew]

/-- **One event**: as many reports as PDRs that ask for the first time. -/
theorem Outcome.reports (h : Outcome cfg d e d' out) (hd : TableBelow 0 d.switch)
    (hnew : ∀ p, d.notifiedCp p = true → p < d.switch.pdrs.next) :
    (∀ p, d'.notifiedCp p = true → p < d'.switch.pdrs.next) ∧
      d'.notified.card = d.notified.card + out.countP DatapathOutput.isReport := by
  cases h with
  | request req pdiQfi =>
    have hle := (TableBelow.switchStep ⟨le_rfl, hd.stored⟩ cfg.upf req).made
    have hsame : ∀ p, (d.setSwitch (switchStep cfg.upf d.switch req) pdiQfi).notifiedCp p = true ↔
        d.notifiedCp p = true := by
      intro p
      unfold Datapath.setSwitch
      dsimp only
      split_ifs with hp
      · rfl
      · simpa using fun htrue => hp (hnew p htrue)
    refine ⟨fun p hp => (hnew p ((hsame p).mp hp)).trans_le hle, ?_⟩
    rw [List.countP_nil, Nat.add_zero]
    refine congrArg Finset.card (Finset.ext fun p => ?_)
    unfold Datapath.notified
    rw [Finset.mem_filter, Finset.mem_filter, Finset.mem_range, Finset.mem_range, hsame]
    constructor
    · exact fun ⟨_, hp⟩ => ⟨hnew p hp, hp⟩
    · exact fun ⟨_, hp⟩ => ⟨(hnew p hp).trans_le hle, hp⟩
  | ignored => exact ⟨hnew, rfl⟩
  | unknownTunnel =>
    rw [countP_reportErrorIndication]
    exact ⟨hnew, rfl⟩
  | bypassed => exact ⟨hnew, rfl⟩
  | uplink =>
    rw [countP_forwarded]
    exact ⟨hnew, rfl⟩
  | noRules arrives => cases arrives <;> exact ⟨hnew, rfl⟩
  | @downlink _ iph d₀ p r f arrives rules =>
    have hswitch := arrives.switch
    have hcp := arrives.notifiedCp
    have hnotified : d₀.notified = d.notified := by
      unfold Datapath.notified
      rw [hswitch, hcp]
    have hnew₀ : ∀ p, d₀.notifiedCp p = true → p < d₀.switch.pdrs.next := by
      rw [hswitch, hcp]
      exact hnew
    obtain ⟨⟨key, l, hl, hp⟩, -⟩ := (Finds.downlink arrives rules).stored
    have hlt : p < d₀.switch.pdrs.next := by
      rw [hswitch]
      exact hd.stored key l p hl hp
    rw [← hnotified]
    unfold downlinkResult
    dsimp only
    split_ifs
    · unfold notifyCpRequested
      dsimp only
      split_ifs with hold
      · rw [countP_forwarded]
        exact ⟨hnew₀, rfl⟩
      · obtain ⟨hinsert, hmem⟩ := notified_setNotifiedCp hlt (by simpa using hold)
        refine ⟨fun q hq => ?_, ?_⟩
        · by_cases hqp : q = p
          · rw [hqp]
            exact hlt
          · refine hnew₀ q ?_
            rw [← hq]
            exact (Function.update_of_ne hqp ..).symm
        · rw [hinsert, Finset.card_insert_of_notMem hmem, List.countP_append, countP_forwarded]
          rfl
    · rw [countP_forwarded]
      exact ⟨hnew₀, rfl⟩

end

/-- **The Downlink Data Reports of a run are as many as the PDRs that have asked for one**, however many
packets there were for their UEs: no PDR asks twice. -/
theorem reports_eq_card (cfg : DatapathCfg) (depth : ℕ) (es : List DatapathEvent) {d : Datapath}
    {out : List DatapathOutput} (h : trace (datapathStep cfg depth) .init es = some (d, out)) :
    out.countP DatapathOutput.isReport = d.notified.card ∧ d.notified.card ≤ d.switch.pdrs.next := by
  have hinv : TableBelow 0 d.switch ∧ (∀ p, d.notifiedCp p = true → p < d.switch.pdrs.next) ∧
      out.countP DatapathOutput.isReport = d.notified.card := by
    refine trace_induction (I := fun _ d out => TableBelow 0 d.switch ∧
      (∀ p, d.notifiedCp p = true → p < d.switch.pdrs.next) ∧
      out.countP DatapathOutput.isReport = d.notified.card) ?_ ?_ h
    · refine ⟨⟨Nat.zero_le _, fun key l p hl _ => ?_⟩, fun p hp => ?_, rfl⟩
      · cases hl
      · cases hp
    · rintro es d₁ o₁ e d₂ o₂ - ⟨htable, hnew, hcount⟩ hstep
      have hout := datapathStep_outcome hstep
      obtain ⟨hnew₂, hcard⟩ := hout.reports htable hnew
      refine ⟨?_, hnew₂, by rw [List.countP_append, hcount, hcard]⟩
      rw [hout.switch]
      cases e with
      | request req pdiQfi => exact htable.switchStep cfg.upf req
      | datagram msg beyond peer => exact htable
      | packet iph => exact htable
  refine ⟨hinv.2.2, ?_⟩
  calc d.notified.card ≤ (Finset.range d.switch.pdrs.next).card := Finset.card_filter_le _ _
    _ = d.switch.pdrs.next := Finset.card_range _

/-- Two packets for the UE, one report. -/
theorem reports_eq_card_two : ∃ d out,
    trace (datapathStep forwardingCfg 1) .init
      [.request establishForwarding fun _ => 9, downlinkPacket, downlinkPacket] = some (d, out) ∧
    out.length = 3 ∧
    (out.countP DatapathOutput.isReport = d.notified.card ∧ d.notified.card ≤ d.switch.pdrs.next) :=
  ⟨_, _, rfl, rfl, reports_eq_card forwardingCfg 1
    [.request establishForwarding fun _ => 9, downlinkPacket, downlinkPacket] rfl⟩

/-! ## The QFI -/

/-- `qfi` is the QFI of the PDR of the latest packet from the UE of session `r`, or the default one. -/
def LatestUplink (cfg : DatapathCfg) (depth : ℕ) (es : List DatapathEvent) (r : ℕ) (qfi : UInt8) : Prop :=
  (qfi = DEFAULT_QFI ∧
    TraceAlong (datapathStep cfg depth) (fun d e => ∀ q, ¬ UplinkOf cfg d e r q) .init es) ∨
  ∃ pre e post d₁ o₁ d₂ o₂, es = pre ++ e :: post ∧
    trace (datapathStep cfg depth) .init pre = some (d₁, o₁) ∧ UplinkOf cfg d₁ e r qfi ∧
    datapathStep cfg depth d₁ e = some (d₂, o₂) ∧
    TraceAlong (datapathStep cfg depth) (fun d e => ∀ q, ¬ UplinkOf cfg d e r q) d₂ post

section

variable {cfg : DatapathCfg} {depth : ℕ} {d d' : Datapath} {e : DatapathEvent} {es : List DatapathEvent}
  {out sent : List DatapathOutput} {r : ℕ} {qfi : UInt8}

theorem LatestUplink.snoc_uplink (hrun : trace (datapathStep cfg depth) .init es = some (d, sent))
    (hstep : datapathStep cfg depth d e = some (d', out)) (he : UplinkOf cfg d e r qfi) :
    LatestUplink cfg depth (es ++ [e]) r qfi :=
  .inr ⟨es, e, [], d, sent, d', out, rfl, hrun, he, hstep, .nil⟩

theorem LatestUplink.snoc (h : LatestUplink cfg depth es r qfi)
    (hrun : trace (datapathStep cfg depth) .init es = some (d, sent))
    (he : ∀ q, ¬ UplinkOf cfg d e r q) : LatestUplink cfg depth (es ++ [e]) r qfi := by
  rcases h with ⟨hqfi, halong⟩ | ⟨pre, f, post, d₁, o₁, d₂, o₂, rfl, hpre, hf, hstep, halong⟩
  · exact .inl ⟨hqfi, halong.snoc hrun he⟩
  · obtain ⟨d₃, o₃, o₄, hpre', hrest, rfl⟩ := trace_append_eq_some.mp hrun
    rw [hpre] at hpre'
    cases hpre'
    obtain ⟨d₄, o₅, o₆, hf', hpost, rfl⟩ := trace_cons_eq_some.mp hrest
    rw [hstep] at hf'
    cases hf'
    refine .inr ⟨pre, f, post ++ [e], d₁, o₁, d₂, o₂, ?_, hpre, hf, hstep, halong.snoc hpost he⟩
    rw [List.append_assoc, List.cons_append]

/-- A live session was made, and no other has another QFI than the default one. -/
structure QfiInv (d : Datapath) : Prop where
  live : ∀ seid r, d.switch.upSeid2pfcpSessions seid = some r → r < d.switch.sessions.next
  unmade : ∀ r, d.switch.sessions.next ≤ r → d.sessionQfi r = DEFAULT_QFI

theorem UplinkOf.lt (h : UplinkOf cfg d e r qfi) (hd : QfiInv d) : r < d.switch.sessions.next := by
  obtain ⟨msg, beyond, peer, iph, teid, p, f, -, -, hrules, -⟩ := h
  exact hd.live _ _ (rulesOf_eq_some hrules.2.2).1

theorem UplinkOf.of_rules {msg : List UInt8} {beyond : Memory} {peer : GtpuPeer} {iph : UserPacket}
    {teid : UInt32} {p q f : ℕ} (h : UplinkOf cfg d (.datagram msg beyond peer) r qfi)
    (hcarried : carriedPacket msg beyond = some (iph, teid)) (hrules : UplinkRules cfg d iph teid p q f) :
    r = q ∧ qfi = d.pdiQfi p := by
  obtain ⟨msg', beyond', peer', iph', teid', p', f', he, hcarried', hrules', hqfi⟩ := h
  cases he
  rw [hcarried] at hcarried'
  cases hcarried'
  obtain ⟨-, hfound, hof⟩ := hrules
  obtain ⟨-, hfound', hof'⟩ := hrules'
  rw [hfound] at hfound'
  cases hfound'
  rw [hof] at hof'
  cases hof'
  exact ⟨rfl, hqfi⟩

theorem downlinkResult_sessionQfi (d : Datapath) (iph : UserPacket) (p r f : ℕ) :
    (downlinkResult d iph p r f).1.sessionQfi = d.sessionQfi := by
  unfold downlinkResult notifyCpRequested
  dsimp only
  split_ifs <;> rfl

theorem sessionQfi_of_rules {msg : List UInt8} {beyond : Memory} {iph : UserPacket} {teid : UInt32}
    {p q f : ℕ} (peer : GtpuPeer) (hcarried : carriedPacket msg beyond = some (iph, teid))
    (hrules : UplinkRules cfg d iph teid p q f) (r : ℕ) :
    UplinkOf cfg d (.datagram msg beyond peer) r ((d.setSessionQfi q (d.pdiQfi p)).sessionQfi r) ∨
      (∀ q', ¬ UplinkOf cfg d (.datagram msg beyond peer) r q') ∧
        (d.setSessionQfi q (d.pdiQfi p)).sessionQfi r = d.sessionQfi r := by
  by_cases hr : r = q
  · subst hr
    refine .inl ⟨msg, beyond, peer, iph, teid, p, f, rfl, hcarried, hrules, ?_⟩
    exact Function.update_self ..
  · refine .inr ⟨fun q' h => hr (h.of_rules hcarried hrules).1, ?_⟩
    exact Function.update_of_ne hr ..

theorem Arrives.sessionQfi {iph : UserPacket} (h : Arrives cfg d e iph d') (r : ℕ) :
    UplinkOf cfg d e r (d'.sessionQfi r) ∨
      (∀ q, ¬ UplinkOf cfg d e r q) ∧ d'.sessionQfi r = d.sessionQfi r := by
  cases h with
  | packet =>
    refine .inr ⟨?_, rfl⟩
    rintro q ⟨msg, beyond, peer, iph, teid, p, f, he, -⟩
    cases he
  | bypass carried hbypass =>
    refine .inr ⟨?_, rfl⟩
    rintro q ⟨msg, beyond, peer, iph, teid, p, f, he, -, ⟨hfalse, -⟩, -⟩
    rw [hbypass] at hfalse
    cases hfalse
  | @uplink msg beyond peer iph teid p q f carried rules =>
    exact sessionQfi_of_rules peer carried rules r

/-- **One event** sets the QFI of the session its packet comes from, and of no other. -/
theorem Outcome.sessionQfi (h : Outcome cfg d e d' out) (hd : QfiInv d) (r : ℕ) :
    UplinkOf cfg d e r (d'.sessionQfi r) ∨
      (∀ q, ¬ UplinkOf cfg d e r q) ∧ d'.sessionQfi r = d.sessionQfi r := by
  cases h with
  | request req pdiQfi =>
    refine .inr ⟨?_, ?_⟩
    · rintro q ⟨msg, beyond, peer, iph, teid, p, f, he, -⟩
      cases he
    · unfold Datapath.setSwitch
      dsimp only
      split_ifs with hr
      · rfl
      · exact (hd.unmade r (not_lt.mp hr)).symm
  | ignored hrules => exact .inr ⟨hrules r, rfl⟩
  | unknownTunnel carried hnone =>
    refine .inr ⟨?_, rfl⟩
    rintro q ⟨msg, beyond, peer, iph, teid, p, f, he, hcarried, ⟨-, hfound, -⟩, -⟩
    cases he
    rw [carried] at hcarried
    cases hcarried
    rw [PfcpSwitch.foundInAccess, hnone] at hfound
    cases hfound
  | bypassed carried hbypass =>
    refine .inr ⟨?_, rfl⟩
    rintro q ⟨msg, beyond, peer, iph, teid, p, f, he, -, ⟨hfalse, -⟩, -⟩
    rw [hbypass] at hfalse
    cases hfalse
  | @uplink msg beyond peer iph teid p q f carried rules => exact sessionQfi_of_rules peer carried rules r
  | noRules arrives => exact arrives.sessionQfi r
  | downlink arrives =>
    rw [downlinkResult_sessionQfi]
    exact arrives.sessionQfi r

theorem Outcome.qfiInv (h : Outcome cfg d e d' out) (hd : QfiInv d) : QfiInv d' := by
  have hswitch := h.switch
  have hlive : (∀ seid r, d'.switch.upSeid2pfcpSessions seid = some r → r < d'.switch.sessions.next) ∧
      d.switch.sessions.next ≤ d'.switch.sessions.next := by
    rw [hswitch]
    cases e with
    | datagram msg beyond peer => exact ⟨hd.live, le_rfl⟩
    | packet iph => exact ⟨hd.live, le_rfl⟩
    | request req pdiQfi =>
      change (∀ seid r, (switchStep cfg.upf d.switch req).upSeid2pfcpSessions seid = some r →
        r < (switchStep cfg.upf d.switch req).sessions.next) ∧ _ ≤ (switchStep cfg.upf d.switch req).sessions.next
      cases switchStep_seids cfg.upf d.switch req with
      | keeps up generator next seids =>
        refine ⟨fun seid r hr => ?_, next⟩
        rw [up] at hr
        exact (hd.live seid r hr).trans_le next
      | adds up generator next self seids =>
        refine ⟨fun seid r hr => ?_, by omega⟩
        rw [up] at hr
        rcases insertEntry_eq_some hr with hr | ⟨-, rfl⟩
        · have := hd.live seid r hr
          omega
        · omega
      | removes seid r live up generator next seids =>
        refine ⟨fun seid' q hq => ?_, next.ge⟩
        rw [up] at hq
        rw [next]
        exact hd.live seid' q (update_none_eq_some.mp hq).1
  refine ⟨hlive.1, fun r hr => ?_⟩
  rcases h.sessionQfi hd r with hup | ⟨-, hsame⟩
  · exact absurd (hup.lt hd) (by omega)
  · rw [hsame]
    exact hd.unmade r (hlive.2.trans hr)

theorem sessionQfi_run (h : trace (datapathStep cfg depth) .init es = some (d, sent)) :
    QfiInv d ∧ ∀ r, LatestUplink cfg depth es r (d.sessionQfi r) := by
  refine trace_induction (I := fun es d _ => QfiInv d ∧ ∀ r, LatestUplink cfg depth es r (d.sessionQfi r))
    ?_ ?_ h
  · refine ⟨⟨fun seid r hr => ?_, fun _ _ => rfl⟩, fun r => .inl ⟨rfl, .nil⟩⟩
    cases hr
  · rintro es d₁ o₁ e d₂ o₂ hrun ⟨hinv, hlatest⟩ hstep
    have hout := datapathStep_outcome hstep
    refine ⟨hout.qfiInv hinv, fun r => ?_⟩
    rcases hout.sessionQfi hinv r with hup | ⟨hno, hsame⟩
    · exact .snoc_uplink hrun hstep hup
    · rw [hsame]
      exact (hlatest r).snoc hrun hno

theorem gPdu_mem_forwarded {far : PfcpFar} {iph iph' : UserPacket} {qfi qfi' : UInt8} {peer teid : UInt32}
    (h : .gPdu peer teid iph' qfi' ∈ far.forwarded iph qfi) :
    iph' = iph ∧ qfi' = qfi ∧ far.destination = some INTERFACE_VALUE_ACCESS := by
  unfold PfcpFar.forwarded at h
  split_ifs at h with haccess
  · unfold sendGPduTo at h
    split at h
    · cases h
    · split_ifs at h
      · cases List.mem_singleton.mp h
        exact ⟨rfl, rfl, haccess⟩
      · cases List.mem_singleton.mp h
      · cases h
  · cases List.mem_singleton.mp h
  · cases h

end

/-- **Every G-PDU carries the QFI of the latest packet from the UE of the session it is sent for**, also
where that packet is the one that is sent on; a G-PDU by the rule for packets from a UE carries none. -/
theorem downlink_qfi (cfg : DatapathCfg) (depth : ℕ) (es : List DatapathEvent) (e : DatapathEvent)
    {d d' : Datapath} {sent out : List DatapathOutput} {peer teid : UInt32} {iph : UserPacket} {qfi : UInt8}
    (hrun : trace (datapathStep cfg depth) .init es = some (d, sent))
    (hstep : datapathStep cfg depth d e = some (d', out)) (ho : .gPdu peer teid iph qfi ∈ out) :
    ∃ p r f, Finds cfg d e iph p r f ∧ (d.switch.far f).destination = some INTERFACE_VALUE_ACCESS ∧
      (DownlinkRules d iph p r f ∧ LatestUplink cfg depth (es ++ [e]) r qfi ∨
        (∃ t, UplinkRules cfg d iph t p r f) ∧ qfi = 0) := by
  have hlatest := (sessionQfi_run (trace_snoc_eq_some.mpr ⟨d, sent, out, hrun, hstep, rfl⟩)).2
  cases datapathStep_outcome hstep with
  | request => cases ho
  | ignored => cases ho
  | noRules => cases ho
  | @unknownTunnel msg beyond source =>
    cases source with
    | other => cases ho
    | ipv4 address port => cases List.mem_singleton.mp ho
    | ipv6 address port => cases List.mem_singleton.mp ho
  | bypassed => cases List.mem_singleton.mp ho
  | @uplink msg beyond source iph' t p r f carried rules =>
    obtain ⟨rfl, rfl, haccess⟩ := gPdu_mem_forwarded ho
    exact ⟨p, r, f, .uplink carried rules, haccess, .inr ⟨⟨t, rules⟩, rfl⟩⟩
  | @downlink _ iph' d₀ p r f arrives rules =>
    have hqfi : .gPdu peer teid iph qfi ∈ (d₀.switch.far f).forwarded iph' (d₀.sessionQfi r) := by
      unfold downlinkResult notifyCpRequested at ho
      dsimp only at ho
      split_ifs at ho
      · exact ho
      · rcases List.mem_append.mp ho with ho | ho
        · exact ho
        · cases List.mem_singleton.mp ho
      · exact ho
    obtain ⟨rfl, rfl, haccess⟩ := gPdu_mem_forwarded hqfi
    rw [arrives.switch] at haccess
    have hr := hlatest r
    rw [downlinkResult_sessionQfi] at hr
    exact ⟨p, r, f, .downlink arrives rules, haccess, .inl ⟨rules, hr⟩⟩

/-- A packet for the UE after one from it. -/
theorem downlink_qfi_one : ∃ d d' sent out iph qfi,
    trace (datapathStep forwardingCfg 1) .init [.request establishForwarding fun _ => 9, uplinkDatagram] =
      some (d, sent) ∧
    datapathStep forwardingCfg 1 d downlinkPacket = some (d', out) ∧
    .gPdu 0x0300000a 9 iph qfi ∈ out ∧ qfi = 9 ∧
    ∃ p r f, Finds forwardingCfg d downlinkPacket iph p r f ∧
      (d.switch.far f).destination = some INTERFACE_VALUE_ACCESS ∧
      (DownlinkRules d iph p r f ∧ LatestUplink forwardingCfg 1
          ([.request establishForwarding fun _ => 9, uplinkDatagram] ++ [downlinkPacket]) r qfi ∨
        (∃ t, UplinkRules forwardingCfg d iph t p r f) ∧ qfi = 0) :=
  ⟨_, _, _, _, _, 9, rfl, rfl, List.mem_cons_self, rfl, downlink_qfi forwardingCfg 1
    [.request establishForwarding fun _ => 9, uplinkDatagram] downlinkPacket rfl rfl List.mem_cons_self⟩

end Oai5g.Upf
