import Oai5g.Upf.Forwarding
import Oai5g.Upf.Registries

/-!
# Requests and packets interleaved

What holds of the packets that leave the user plane, in any order of requests, datagrams and packets.

* `Outcome`, `datapathStep_outcome`: what one event can do.
* **`packets_kept`**: the packets leave in order, unchanged and once at most.
* **`sent_by_session`**: under an index that is kept, every output comes from a PDR and a FAR of one live
  session, and an Error Indication names a TEID of none.
* **`deleted_session_silent`**: no rule of a deleted session forwards a packet again.
* **`reports_eq_card`**: one Downlink Data Report for each PDR that has asked for one.
* **`downlink_qfi`**: the QFI of a G-PDU is the one of the latest packet from the UE of its session.
-/

namespace Oai5g.Upf

open PfcpSwitch

/-! ## One event -/

section

variable (cfg : DatapathCfg) (d : Datapath)

/-- A packet that is looked up in the core, and the state in which it is. -/
inductive Arrives : DatapathEvent → UserPacket → Datapath → Prop
  | packet (iph) : Arrives (.packet iph) iph d
  | bypass {msg beyond peer iph teid} (carried : carriedPacket msg beyond = some (iph, teid))
      (bypass : cfg.bypassUlPfcpRules = true) (internal : isInternal cfg iph = true) :
      Arrives (.datagram msg beyond peer) iph d
  | uplink {msg beyond peer iph teid p r f} (carried : carriedPacket msg beyond = some (iph, teid))
      (rules : UplinkRules cfg d iph teid p r f)
      (core : (d.switch.far f).destination = some INTERFACE_VALUE_CORE)
      (internal : isInternal cfg iph = true) :
      Arrives (.datagram msg beyond peer) iph (d.setSessionQfi r (d.pdiQfi p))

/-- `e` is a packet of the UE of session `r`, through a PDR of the QFI `qfi`. -/
def UplinkOf (e : DatapathEvent) (r : ℕ) (qfi : UInt8) : Prop :=
  ∃ msg beyond peer iph teid p f, e = .datagram msg beyond peer ∧
    carriedPacket msg beyond = some (iph, teid) ∧ UplinkRules cfg d iph teid p r f ∧ qfi = d.pdiQfi p

/-- **What an event can do**: the state after it and its outputs. -/
inductive Outcome : DatapathEvent → Datapath → List DatapathOutput → Prop
  | request (req pdiQfi) :
      Outcome (.request req pdiQfi) (d.setSwitch (switchStep cfg.upf d.switch req) pdiQfi) []
  | ignored {msg beyond peer} (rules : ∀ r qfi, ¬ UplinkOf cfg d (.datagram msg beyond peer) r qfi) :
      Outcome (.datagram msg beyond peer) d []
  | unknownTunnel {msg beyond peer iph teid} (carried : carriedPacket msg beyond = some (iph, teid))
      (none : d.switch.pdrTable (.n3Teid teid) = none) :
      Outcome (.datagram msg beyond peer) d (reportErrorIndication peer teid)
  | bypassed {msg beyond peer iph teid} (carried : carriedPacket msg beyond = some (iph, teid))
      (bypass : cfg.bypassUlPfcpRules = true) : Outcome (.datagram msg beyond peer) d [.toCore iph]
  | uplink {msg beyond peer iph teid p r f} (carried : carriedPacket msg beyond = some (iph, teid))
      (rules : UplinkRules cfg d iph teid p r f) :
      Outcome (.datagram msg beyond peer) (d.setSessionQfi r (d.pdiQfi p))
        ((d.switch.far f).forwarded iph 0)
  | noRules {e iph d'} (arrives : Arrives cfg d e iph d') : Outcome e d' []
  | downlink {e iph d' p r f} (arrives : Arrives cfg d e iph d') (rules : DownlinkRules d iph p r f) :
      Outcome e (downlinkResult d' iph p r f).1 (downlinkResult d' iph p r f).2

end

section

variable {cfg : DatapathCfg} {d d' : Datapath} {e : DatapathEvent} {iph : UserPacket}
  {out : List DatapathOutput} {depth : ℕ}

theorem Arrives.switch (h : Arrives cfg d e iph d') : d'.switch = d.switch := by
  cases h <;> rfl

theorem Arrives.outcome {d₀ : Datapath} (h : Arrives cfg d e iph d₀)
    (hlook : lookUpPackInCore cfg depth iph d₀ = some (d', out)) : Outcome cfg d e d' out := by
  cases depth with
  | zero => cases hlook
  | succ depth =>
    by_cases hrules : ∃ p r f, DownlinkRules d₀ iph p r f
    · obtain ⟨p, r, f, hrules⟩ := hrules
      have hloop : ¬ LoopsInCore cfg d₀ iph := fun hloop => by
        rw [hloop.lookUp_eq_none] at hlook
        cases hlook
      rw [hrules.lookUp_eq_some hloop] at hlook
      have hrules' : DownlinkRules d iph p r f := by
        unfold DownlinkRules at hrules ⊢
        rwa [← h.switch]
      have hresult := Outcome.downlink h hrules'
      rw [Option.some.inj hlook] at hresult
      exact hresult
    · push Not at hrules
      rw [not_downlinkRules hrules] at hlook
      cases hlook
      exact .noRules h

/-- **One event has one of the outcomes.** -/
theorem datapathStep_outcome (h : datapathStep cfg depth d e = some (d', out)) :
    Outcome cfg d e d' out := by
  cases e with
  | request req pdiQfi =>
    cases h
    exact .request req pdiQfi
  | packet iph => exact (Arrives.packet iph).outcome h
  | datagram msg beyond peer =>
    unfold datapathStep at h
    dsimp only at h
    cases hcarried : carriedPacket msg beyond with
    | none =>
      rw [hcarried] at h
      cases h
      refine .ignored ?_
      rintro r qfi ⟨msg', beyond', peer', iph, teid, p, f, he, hsome, -⟩
      cases he
      rw [hcarried] at hsome
      cases hsome
    | some x =>
      obtain ⟨iph, teid⟩ := x
      rw [hcarried] at h
      dsimp only at h
      by_cases hbypass : cfg.bypassUlPfcpRules = true
      · rw [LeadsToCore.lookUp (.inl hbypass)] at h
        have hstate : uplinkState cfg d iph teid = d := by
          unfold uplinkState
          rw [if_pos hbypass]
        rw [hstate] at h
        by_cases hinternal : isInternal cfg iph = true
        · rw [sendToCore_of_internal hinternal] at h
          exact (Arrives.bypass hcarried hbypass hinternal).outcome h
        · rw [sendToCore_of_not_internal (by simpa using hinternal)] at h
          cases h
          exact .bypassed hcarried hbypass
      by_cases hrules : ∃ p r f, UplinkRules cfg d iph teid p r f
      · obtain ⟨p, r, f, hrules⟩ := hrules
        rw [hrules.lookUp] at h
        by_cases hcore : (d.switch.far f).destination = some INTERFACE_VALUE_CORE
        · rw [applyForwardingRules_of_core hcore] at h
          by_cases hinternal : isInternal cfg iph = true
          · rw [sendToCore_of_internal hinternal] at h
            exact (Arrives.uplink hcarried hrules hcore hinternal).outcome h
          · have hforwarded : (d.switch.far f).forwarded iph 0 = [.toCore iph] := forwarded_of_core hcore
            rw [sendToCore_of_not_internal (by simpa using hinternal), ← hforwarded] at h
            cases h
            exact .uplink hcarried hrules
        · rw [applyForwardingRules_of_not_core hcore] at h
          cases h
          exact .uplink hcarried hrules
      · push Not at hrules
        rw [not_uplinkRules (by simpa using hbypass) hrules] at h
        split_ifs at h with hstored
        · cases h
          exact .unknownTunnel hcarried hstored
        · cases h
          refine .ignored ?_
          rintro r qfi ⟨msg', beyond', peer', iph', teid', p, f, he, hsome, hr, -⟩
          cases he
          rw [hcarried] at hsome
          cases hsome
          exact hrules p r f hr

theorem notifyCpRequested_switch (p r : ℕ) (x : Datapath × List DatapathOutput) :
    (notifyCpRequested p r x).1.switch = x.1.switch := by
  unfold notifyCpRequested
  split_ifs <;> rfl

theorem downlinkResult_switch (d : Datapath) (iph : UserPacket) (p r f : ℕ) :
    (downlinkResult d iph p r f).1.switch = d.switch := by
  unfold downlinkResult
  dsimp only
  split_ifs
  · exact notifyCpRequested_switch ..
  · rfl

/-- The request of an event. -/
def DatapathEvent.sessionRequest : DatapathEvent → Option SessionRequest
  | .request req _ => some req
  | .datagram _ _ _ => none
  | .packet _ => none

/-- The requests among the events. -/
def requestsOf (es : List DatapathEvent) : List SessionRequest := es.filterMap DatapathEvent.sessionRequest

theorem Outcome.switch (h : Outcome cfg d e d' out) :
    d'.switch = run (switchStep cfg.upf) d.switch (requestsOf [e]) := by
  cases h with
  | request req pdiQfi => rfl
  | ignored => rfl
  | unknownTunnel => rfl
  | bypassed => rfl
  | uplink => rfl
  | noRules arrives =>
    rw [arrives.switch]
    cases arrives <;> rfl
  | downlink arrives =>
    rw [downlinkResult_switch, arrives.switch]
    cases arrives <;> rfl

theorem trace_switch {es : List DatapathEvent}
    (h : trace (datapathStep cfg depth) d es = some (d', out)) :
    d'.switch = run (switchStep cfg.upf) d.switch (requestsOf es) := by
  refine trace_induction (I := fun es d' _ => d'.switch = run (switchStep cfg.upf) d.switch (requestsOf es))
    rfl ?_ h
  intro es d₁ o₁ e d₂ o₂ _ ih hstep
  rw [(datapathStep_outcome hstep).switch, ih, requestsOf, requestsOf, requestsOf, List.filterMap_append,
    run_append]

end

/-! ## An example -/

/-- A FAR to the data network. -/
def coreFar : CreateFar :=
  ⟨some 1, some ⟨false, false, false, true, false⟩,
    some { ForwardingParameters.empty with destinationInterface := some [1] }, none, none⟩

/-- A FAR to the tunnel 9 of a base station that also asks for a report. -/
def accessFar : CreateFar :=
  ⟨some 2, some ⟨false, true, false, true, false⟩,
    some { ForwardingParameters.empty with
      destinationInterface := some [0], outerHeaderCreation := some [1, 0, 0, 0, 0, 9, 10, 0, 0, 3] },
    none, none⟩

/-- A UPF with an IPv4 network. -/
def forwardingCfg : DatapathCfg := ⟨exampleCfg, 0x0001010c, 0x00ffffff, false⟩

/-- The session of the UE 12.1.1.2, which has the tunnel 7. -/
def establishForwarding : SessionRequest :=
  .establishment ⟨some (exampleFseid 1), [coreFar, accessFar],
    [accessPdr 1 10 7, { corePdr 2 10 0x0201010c with farId := some 2 }]⟩

/-- A packet from the UE, in its tunnel. -/
def uplinkDatagram : DatapathEvent :=
  .datagram ([0x30, 255, 0, 20, 0, 0, 0, 7] ++
      [0x45, 0, 0, 20, 0, 0, 0, 0, 64, 17, 0, 0, 12, 1, 1, 2, 8, 8, 8, 8]) (fun _ => 0)
    (.ipv4 0x0300000a 2152)

/-- A packet to the UE. -/
def downlinkPacket : DatapathEvent :=
  .packet ⟨Memory.ofList [0x45, 0, 0, 20, 0, 0, 0, 0, 64, 17, 0, 0, 8, 8, 8, 8, 12, 1, 1, 2] fun _ => 0, 20⟩

/-! ## The packets -/

/-- The packet in an output. -/
def DatapathOutput.userPacket : DatapathOutput → Option UserPacket
  | .gPdu _ _ iph _ => some iph
  | .gPduIpv6 _ _ iph => some iph
  | .toCore iph => some iph
  | .errorIndication _ _ => none
  | .sessionReport _ _ => none

/-- The packet in an event. -/
def DatapathEvent.userPacket : DatapathEvent → Option UserPacket
  | .request _ _ => none
  | .datagram msg beyond _ => (carriedPacket msg beyond).map Prod.fst
  | .packet iph => some iph

section

variable {cfg : DatapathCfg} {d d' : Datapath} {e : DatapathEvent} {iph : UserPacket}
  {out : List DatapathOutput} {depth : ℕ}

theorem forwarded_sublist (far : PfcpFar) (iph : UserPacket) (qfi : UInt8) :
    ((far.forwarded iph qfi).filterMap DatapathOutput.userPacket).Sublist [iph] := by
  unfold PfcpFar.forwarded sendGPduTo
  split_ifs
  · split
    · exact List.nil_sublist _
    · split_ifs
      · exact List.Sublist.refl _
      · exact List.Sublist.refl _
      · exact List.nil_sublist _
  · exact List.Sublist.refl _
  · exact List.nil_sublist _

theorem Arrives.userPacket (h : Arrives cfg d e iph d') : e.userPacket = some iph := by
  cases h with
  | packet => rfl
  | bypass carried => exact congrArg (Option.map Prod.fst) carried
  | uplink carried => exact congrArg (Option.map Prod.fst) carried

theorem Outcome.userPacket (h : Outcome cfg d e d' out) :
    (out.filterMap DatapathOutput.userPacket).Sublist ([e].filterMap DatapathEvent.userPacket) := by
  have hone : ∀ {iph}, e.userPacket = some iph → [e].filterMap DatapathEvent.userPacket = [iph] := by
    intro iph h
    rw [List.filterMap_cons, h]
    rfl
  cases h with
  | request => exact List.nil_sublist _
  | ignored => exact List.nil_sublist _
  | noRules => exact List.nil_sublist _
  | @unknownTunnel msg beyond peer => cases peer <;> exact List.nil_sublist _
  | bypassed carried =>
    rw [hone (congrArg (Option.map Prod.fst) carried)]
    exact List.Sublist.refl _
  | uplink carried =>
    rw [hone (congrArg (Option.map Prod.fst) carried)]
    exact forwarded_sublist _ _ _
  | @downlink _ iph d₀ p r f arrives =>
    rw [hone arrives.userPacket]
    have hreport : (downlinkResult d₀ iph p r f).2.filterMap DatapathOutput.userPacket =
        ((d₀.switch.far f).forwarded iph (d₀.sessionQfi r)).filterMap DatapathOutput.userPacket := by
      unfold downlinkResult notifyCpRequested
      dsimp only
      split_ifs
      · rfl
      · rw [List.filterMap_append]
        exact List.append_nil _
      · rfl
    rw [hreport]
    exact forwarded_sublist _ _ _

end

/-- **The packets of a run leave in the order in which they came, unchanged and once at most**; the packet
of a G-PDU that the interface understands is, octet for octet, the one that was encapsulated. -/
theorem packets_kept (cfg : DatapathCfg) (depth : ℕ) (es : List DatapathEvent) {d : Datapath}
    {sent : List DatapathOutput} (h : trace (datapathStep cfg depth) .init es = some (d, sent)) :
    (sent.filterMap DatapathOutput.userPacket).Sublist (es.filterMap DatapathEvent.userPacket) ∧
    ∀ (g : GPdu) (beyond : Memory) (peer : GtpuPeer), g.e = false → g.s = false →
      (g.pn = false ∨ g.spare = false) → g.messageLength < 2 ^ 16 → g.packet.version = .ipv4 →
      (DatapathEvent.datagram (g.datagram.header ++ g.datagram.packet.octets) beyond peer).userPacket.map
        UserPacket.octets = some g.packet.octets := by
  constructor
  · refine trace_induction (I := fun es _ sent => (sent.filterMap DatapathOutput.userPacket).Sublist
      (es.filterMap DatapathEvent.userPacket)) (List.Sublist.refl _) ?_ h
    intro es d₁ o₁ e d₂ o₂ _ ih hstep
    rw [List.filterMap_append, List.filterMap_append]
    exact ih.append (datapathStep_outcome hstep).userPacket
  · intro g beyond peer he hs hpn hlength hversion
    obtain ⟨hreceive, hread⟩ := (gPdu_handsOn_iff g beyond).mpr ⟨he, hs, hpn, hlength⟩
    have hpacket : g.datagram.packet = g.packet := rfl
    rw [hpacket] at hreceive hread ⊢
    unfold DatapathEvent.userPacket carriedPacket
    dsimp only
    rw [hreceive, hversion]
    refine congrArg some (Eq.trans ?_ hread)
    unfold UserPacket.octets Memory.read
    dsimp only
    refine List.map_congr_left fun i _ => ?_
    rw [Nat.zero_add]

theorem packets_kept_two : ∃ d sent,
    trace (datapathStep forwardingCfg 1) .init
      [.request establishForwarding fun _ => 9, uplinkDatagram, downlinkPacket] = some (d, sent) ∧
    (sent.filterMap DatapathOutput.userPacket).length = 2 ∧
    (sent.filterMap DatapathOutput.userPacket).Sublist
      ([.request establishForwarding fun _ => 9, uplinkDatagram, downlinkPacket].filterMap
        DatapathEvent.userPacket) :=
  ⟨_, _, rfl, rfl, (packets_kept forwardingCfg 1
    [.request establishForwarding fun _ => 9, uplinkDatagram, downlinkPacket] rfl).1⟩

/-! ## Where an output comes from -/

section

variable (cfg : DatapathCfg) (d : Datapath)

/-- The rules that a packet of the event finds, as it comes from a UE or on its way to one. -/
inductive Finds : DatapathEvent → UserPacket → ℕ → ℕ → ℕ → Prop
  | uplink {msg beyond peer iph teid p r f} (carried : carriedPacket msg beyond = some (iph, teid))
      (rules : UplinkRules cfg d iph teid p r f) : Finds (.datagram msg beyond peer) iph p r f
  | downlink {e iph d' p r f} (arrives : Arrives cfg d e iph d') (rules : DownlinkRules d iph p r f) :
      Finds e iph p r f

/-- An output of the event is what a PDR `p`, its session `r` and a FAR `f` that are so related by `P`
make of its packet, or no rule is asked. -/
inductive Origin (P : ℕ → ℕ → ℕ → Prop) (e : DatapathEvent) : DatapathOutput → Prop
  | gPdu {iph p r f qfi o} (finds : Finds cfg d e iph p r f) (related : P p r f)
      (access : (d.switch.far f).destination = some INTERFACE_VALUE_ACCESS)
      (mem : o ∈ sendGPduTo (d.switch.far f).outerHeaderCreation iph qfi) : Origin P e o
  | toCore {iph p r f} (finds : Finds cfg d e iph p r f) (related : P p r f)
      (core : (d.switch.far f).destination = some INTERFACE_VALUE_CORE) : Origin P e (.toCore iph)
  | sessionReport {iph p r f} (finds : Finds cfg d e iph p r f) (related : P p r f)
      (nocp : (d.switch.far f).applyAction.nocp = true) (first : d.notifiedCp p = false) :
      Origin P e (.sessionReport (d.switch.session r).cpFseid (d.switch.pdr p).pdrId)
  | bypass {msg beyond peer iph teid} (datagram : e = .datagram msg beyond peer)
      (carried : carriedPacket msg beyond = some (iph, teid)) (bypass : cfg.bypassUlPfcpRules = true) :
      Origin P e (.toCore iph)
  | errorIndication {msg beyond peer iph teid} (datagram : e = .datagram msg beyond peer)
      (carried : carriedPacket msg beyond = some (iph, teid))
      (none : d.switch.pdrTable (.n3Teid teid) = none) : Origin P e (.errorIndication peer teid)

end

section

variable {cfg : DatapathCfg} {d d' : Datapath} {e : DatapathEvent} {iph : UserPacket}
  {out : List DatapathOutput} {depth p r f : ℕ} {o : DatapathOutput} {qfi : UInt8} {P : ℕ → ℕ → ℕ → Prop}

theorem Arrives.notifiedCp (h : Arrives cfg d e iph d') : d'.notifiedCp = d.notifiedCp := by
  cases h <;> rfl

theorem Finds.of_forwarded (h : Finds cfg d e iph p r f) (hP : P p r f)
    (ho : o ∈ (d.switch.far f).forwarded iph qfi) : Origin cfg d P e o := by
  unfold PfcpFar.forwarded at ho
  split_ifs at ho with haccess hcore
  · exact .gPdu h hP haccess ho
  · obtain rfl := List.mem_singleton.mp ho
    exact .toCore h hP hcore
  · cases ho

/-- **Every output has an origin.** -/
theorem Outcome.origin (h : Outcome cfg d e d' out)
    (hP : ∀ iph p r f, Finds cfg d e iph p r f → P p r f) (ho : o ∈ out) : Origin cfg d P e o := by
  cases h with
  | request => cases ho
  | ignored => cases ho
  | noRules => cases ho
  | @unknownTunnel msg beyond peer iph teid carried hnone =>
    cases peer with
    | other => cases ho
    | ipv4 address port =>
      obtain rfl := List.mem_singleton.mp ho
      exact .errorIndication rfl carried hnone
    | ipv6 address port =>
      obtain rfl := List.mem_singleton.mp ho
      exact .errorIndication rfl carried hnone
  | bypassed carried bypass =>
    obtain rfl := List.mem_singleton.mp ho
    exact .bypass rfl carried bypass
  | @uplink msg beyond peer iph teid p r f carried rules =>
    have hfinds : Finds cfg d (.datagram msg beyond peer) iph p r f := .uplink carried rules
    exact hfinds.of_forwarded (hP _ _ _ _ hfinds) ho
  | @downlink _ iph d₀ p r f arrives rules =>
    have hfinds := Finds.downlink arrives rules
    have hrelated := hP _ _ _ _ hfinds
    have hforwarded : ∀ o ∈ (d₀.switch.far f).forwarded iph (d₀.sessionQfi r), Origin cfg d P e o := by
      rw [arrives.switch]
      exact fun o ho => hfinds.of_forwarded hrelated ho
    unfold downlinkResult at ho
    dsimp only at ho
    split_ifs at ho with hnocp
    · unfold notifyCpRequested at ho
      dsimp only at ho
      split_ifs at ho with hnotified
      · exact hforwarded o ho
      · rcases List.mem_append.mp ho with ho | ho
        · exact hforwarded o ho
        · obtain rfl := List.mem_singleton.mp ho
          rw [arrives.switch] at hnocp ⊢
          rw [arrives.notifiedCp] at hnotified
          exact .sessionReport hfinds hrelated hnocp (by simpa using hnotified)
    · exact hforwarded o ho

theorem Finds.stored (h : Finds cfg d e iph p r f) :
    (∃ key l, d.switch.pdrTable key = some l ∧ p ∈ l) ∧ d.switch.rulesOf p = some (r, f) := by
  cases h with
  | uplink carried rules =>
    obtain ⟨l, hl, hfound⟩ := Option.bind_eq_some_iff.mp rules.2.1
    exact ⟨⟨_, l, hl, List.mem_of_find?_eq_some hfound⟩, rules.2.2⟩
  | downlink arrives rules =>
    obtain ⟨l, hl, hfound⟩ := Option.bind_eq_some_iff.mp rules.2.1
    exact ⟨⟨_, l, hl, List.mem_of_find?_eq_some hfound⟩, rules.2.2⟩

theorem rulesOf_eq_some {s : PfcpSwitch} (h : s.rulesOf p = some (r, f)) :
    s.upSeid2pfcpSessions (s.pdr p).localSeid = some r ∧ f ∈ (s.session r).fars ∧
      (s.pdr p).farId = some (s.far f).farId := by
  obtain ⟨q, hq, h⟩ := Option.bind_eq_some_iff.mp h
  obtain ⟨farId, hfarId, h⟩ := Option.bind_eq_some_iff.mp h
  obtain ⟨g, hg, h⟩ := Option.map_eq_some_iff.mp h
  cases h
  have hident := List.find?_some hg
  refine ⟨hq, List.mem_of_find?_eq_some hg, ?_⟩
  rw [hfarId, ← beq_iff_eq.mp hident]
  rfl

end

/-! ## Isolation of the sessions -/

/-- `p` and `f` are a PDR and the FAR it names, both of the live session `r` of SEID `seid`. -/
structure RulesOfSession (s : PfcpSwitch) (seid : UInt64) (p r f : ℕ) : Prop where
  live : s.upSeid2pfcpSessions seid = some r
  ident : (s.session r).seid = seid
  pdr : p ∈ (s.session r).pdrs
  far : f ∈ (s.session r).fars
  own : (s.pdr p).localSeid = seid
  farId : (s.pdr p).farId = some (s.far f).farId

/-- **Between requests that keep the index, every output comes from a PDR and a FAR of one live session**,
and an Error Indication is sent for a TEID that no PDR of a live session has. -/
theorem sent_by_session (cfg : DatapathCfg) (depth : ℕ) (es : List DatapathEvent) (e : DatapathEvent)
    {d d' : Datapath} {sent out : List DatapathOutput}
    (hkeeps : Along (switchStep cfg.upf) (KeepsIndex cfg.upf) .init (requestsOf es))
    (hrun : trace (datapathStep cfg depth) .init es = some (d, sent))
    (hstep : datapathStep cfg depth d e = some (d', out)) :
    (∀ o ∈ out, Origin cfg d (fun p r f => ∃ seid, RulesOfSession d.switch seid p r f) e o) ∧
    ∀ peer teid, .errorIndication peer teid ∈ out → ∀ seid r, d.switch.upSeid2pfcpSessions seid = some r →
      ∀ p ∈ (d.switch.session r).pdrs, (d.switch.pdr p).key ≠ some (.n3Teid teid) := by
  have hinv : SwitchInv d.switch := by
    rw [trace_switch hrun]
    exact Along.invariant (I := SwitchInv) (fun _ e hs hc => hs.switchStep e hc) SwitchInv.init hkeeps
  have hrules : ∀ iph p r f, Finds cfg d e iph p r f → ∃ seid, RulesOfSession d.switch seid p r f := by
    intro iph p r f hfinds
    obtain ⟨⟨key, l, hl, hp⟩, hrulesOf⟩ := hfinds.stored
    obtain ⟨hlive, hfar, hfarId⟩ := rulesOf_eq_some hrulesOf
    obtain ⟨q, hq, hpdr⟩ := hinv.index.stored key l p hl hp
    obtain rfl : q = r := Option.some.inj (hq.symm.trans hlive)
    exact ⟨(d.switch.pdr p).localSeid, hlive, (hinv.index.seid _ _ hlive).1, hpdr, hfar, rfl, hfarId⟩
  have horigin := fun o ho => (datapathStep_outcome hstep).origin (o := o) hrules ho
  refine ⟨horigin, fun peer teid ho seid r hr p hp hkey => ?_⟩
  cases horigin _ ho with
  | gPdu finds related access mem =>
    unfold sendGPduTo at mem
    split at mem
    · cases mem
    · split_ifs at mem
      · cases List.mem_singleton.mp mem
      · cases List.mem_singleton.mp mem
      · cases mem
  | errorIndication datagram carried hnone =>
    obtain ⟨l, hl, -⟩ := hinv.index.indexed seid r hr p hp _ hkey
    rw [hnone] at hl
    cases hl

theorem keepsIndex_establishForwarding :
    Along (switchStep exampleCfg) (KeepsIndex exampleCfg) .init [establishForwarding] := by
  refine ⟨⟨fun hnot => (hnot ⟨by decide, ?_⟩).elim, fun _ fseid _ _ => ⟨by decide, ?_⟩⟩, trivial⟩
  · simp only [List.forall_mem_cons, List.not_mem_nil, false_imp_iff, implies_true, and_true]
    exact ⟨⟨by decide, _, rfl⟩, by decide, _, rfl⟩
  · intro _ x hx
    refine ⟨fun l hl => (by cases hl), fun _ y hy => ?_⟩
    obtain rfl : x = .inl _ := (Except.ok.inj hx).symm
    obtain rfl : y = .inr _ := (Except.ok.inj hy).symm
    exact ⟨fun l hl => (by cases hl), trivial⟩

theorem sent_by_session_downlink : ∃ d d' sent out,
    trace (datapathStep forwardingCfg 1) .init [.request establishForwarding fun _ => 9, uplinkDatagram] =
      some (d, sent) ∧
    datapathStep forwardingCfg 1 d downlinkPacket = some (d', out) ∧ out.length = 2 ∧
    ∀ o ∈ out, Origin forwardingCfg d (fun p r f => ∃ seid, RulesOfSession d.switch seid p r f)
      downlinkPacket o :=
  ⟨_, _, _, _, rfl, rfl, rfl, (sent_by_session forwardingCfg 1
    [.request establishForwarding fun _ => 9, uplinkDatagram] downlinkPacket
    keepsIndex_establishForwarding rfl rfl).1⟩

/-! ## Deleted sessions -/

/-- What a request can do to the SEIDs. -/
inductive SeidStep (s s' : PfcpSwitch) : Prop
  | keeps (up : s'.upSeid2pfcpSessions = s.upSeid2pfcpSessions)
      (generator : s.seidGenerator ≤ s'.seidGenerator ∧ s'.seidGenerator ≤ s.seidGenerator + 1)
      (next : s.sessions.next ≤ s'.sessions.next)
      (seids : ∀ r < s.sessions.next, (s'.session r).seid = (s.session r).seid)
  | adds (up : s'.upSeid2pfcpSessions = insertEntry s.upSeid2pfcpSessions s.nextSeid s.sessions.next)
      (generator : s'.seidGenerator = s.seidGenerator + 1)
      (next : s'.sessions.next = s.sessions.next + 1)
      (self : (s'.session s.sessions.next).seid = s.nextSeid)
      (seids : ∀ r < s.sessions.next, (s'.session r).seid = (s.session r).seid)
  | removes (seid r) (live : s.upSeid2pfcpSessions seid = some r)
      (up : s'.upSeid2pfcpSessions =
        Function.update s.upSeid2pfcpSessions (s.session r).seid none)
      (generator : s'.seidGenerator = s.seidGenerator)
      (next : s'.sessions.next = s.sessions.next)
      (seids : ∀ r, (s'.session r).seid = (s.session r).seid)

section

variable (cfg : UpfCfg) {s : PfcpSwitch} {r : ℕ} {seid : UInt64}

theorem deletion_seids (hr : s.upSeid2pfcpSessions seid = some r) :
    (switchStep cfg s (.deletion seid)).upSeid2pfcpSessions =
        Function.update s.upSeid2pfcpSessions (s.session r).seid none ∧
      (switchStep cfg s (.deletion seid)).seidGenerator = s.seidGenerator ∧
      (switchStep cfg s (.deletion seid)).sessions.next = s.sessions.next ∧
      ∀ q, ((switchStep cfg s (.deletion seid)).session q).seid = (s.session q).seid := by
  obtain ⟨hup, -, hgen, hnext, hkeys⟩ := registers_eq (SwitchRegistries.cleanup_registers s r)
  unfold switchStep handlePfcpSessionDeletionRequest
  dsimp only
  rw [hr]
  dsimp only
  unfold removePfcpSession
  dsimp only
  refine ⟨?_, hgen, hnext, fun q => (hkeys q).2⟩
  rw [hup, (hkeys r).2]

theorem switchStep_seids (s : PfcpSwitch) (e : SessionRequest) :
    SeidStep s (switchStep cfg s e) := by
  cases e with
  | establishment req =>
    unfold switchStep handlePfcpSessionEstablishmentRequest
    dsimp only
    cases req.cpFseid with
    | none => exact .keeps rfl ⟨le_rfl, Nat.le_succ _⟩ le_rfl fun _ _ => rfl
    | some fseid =>
      dsimp only
      split_ifs with hexist hacc
      · exact .keeps rfl ⟨le_rfl, Nat.le_succ _⟩ le_rfl fun _ _ => rfl
      all_goals
        obtain ⟨hup, -, hgen, hnext, hkeys⟩ :=
          registers_eq (establishRules_registers cfg (s.newSession fseid) s.sessions.next req)
        have hself : ((s.newSession fseid).session s.sessions.next).seid = s.nextSeid :=
          congrArg PfcpSession.seid (Heap.alloc_cell_next ..)
        have hold : ∀ q < s.sessions.next, ((s.newSession fseid).session q).seid = (s.session q).seid :=
          fun q hq => congrArg PfcpSession.seid (Heap.alloc_cell_of_ne _ _ hq.ne)
        generalize establishRules cfg s.sessions.next req (s.newSession fseid) = x at *
      · have hseid : (x.1.session s.sessions.next).seid = s.nextSeid := ((hkeys _).2).trans hself
        unfold storeSession
        dsimp only
        rw [hseid]
        refine .adds ?_ hgen hnext hseid fun q hq => (hkeys q).2.trans (hold q hq)
        exact congrArg (fun up => insertEntry up s.nextSeid s.sessions.next) hup
      · obtain ⟨hup', -, hgen', hnext', hkeys'⟩ :=
          registers_eq (SwitchRegistries.cleanup_registers x.1 s.sessions.next)
        refine .keeps (hup'.trans hup) ?_ ?_ fun q hq =>
          (hkeys' q).2.trans ((hkeys q).2.trans (hold q hq))
        · rw [hgen', hgen]
          exact ⟨Nat.le_succ _, le_rfl⟩
        · rw [hnext', hnext]
          exact Nat.le_succ _
  | modification req =>
    unfold switchStep handlePfcpSessionModificationRequest
    dsimp only
    cases hr : s.upSeid2pfcpSessions req.seid with
    | none => exact .keeps rfl ⟨le_rfl, Nat.le_succ _⟩ le_rfl fun _ _ => rfl
    | some r =>
      dsimp only
      have htake : (s.takeFseid r req.cpFseid).upSeid2pfcpSessions = s.upSeid2pfcpSessions ∧
          (s.takeFseid r req.cpFseid).seidGenerator = s.seidGenerator ∧
          (s.takeFseid r req.cpFseid).sessions.next = s.sessions.next ∧
          ∀ q, ((s.takeFseid r req.cpFseid).session q).seid = (s.session q).seid := by
        unfold takeFseid
        cases req.cpFseid with
        | none => exact ⟨rfl, rfl, rfl, fun _ => rfl⟩
        | some fseid =>
          refine ⟨rfl, rfl, rfl, fun q => ?_⟩
          exact Heap.modify_cell_proj s.sessions r (fun session => session.setCpFseid fseid)
            PfcpSession.seid rfl q
      obtain ⟨hup, -, hgen, hnext, hkeys⟩ := registers_eq (modifyRules_registers cfg r req
        (s.takeFseid r req.cpFseid,
          { PfcpResponse.accepted with seid := ((s.takeFseid r req.cpFseid).session r).cpFseid.seid }))
      refine .keeps (hup.trans htake.1) ?_ (hnext.trans htake.2.2.1).ge fun q _ =>
        (hkeys q).2.trans (htake.2.2.2 q)
      rw [hgen.trans htake.2.1]
      exact ⟨le_rfl, Nat.le_succ _⟩
  | deletion seid =>
    cases hr : s.upSeid2pfcpSessions seid with
    | none =>
      have hsame : switchStep cfg s (.deletion seid) = s := by
        unfold switchStep handlePfcpSessionDeletionRequest
        dsimp only
        rw [hr]
      rw [hsame]
      exact .keeps rfl ⟨le_rfl, Nat.le_succ _⟩ le_rfl fun _ _ => rfl
    | some r =>
      obtain ⟨hup, hgen, hnext, hseids⟩ := deletion_seids cfg hr
      exact .removes seid r hr hup hgen hnext hseids

/-- The SEIDs of the live sessions are theirs, and were given. -/
structure SeidInv (s : PfcpSwitch) : Prop where
  own : ∀ seid r, s.upSeid2pfcpSessions seid = some r → (s.session r).seid = seid ∧ r < s.sessions.next
  given : ∀ seid r, s.upSeid2pfcpSessions seid = some r → seid.toNat ≤ s.seidGenerator

theorem SeidInv.init : SeidInv .init := by
  constructor <;> simp [PfcpSwitch.init]

theorem insertEntry_eq_some {m : UInt64 → Option ℕ} {k k' : UInt64} {q r : ℕ}
    (h : insertEntry m k q k' = some r) : m k' = some r ∨ k' = k ∧ r = q := by
  unfold insertEntry at h
  rcases update_some_eq_some.mp h with ⟨rfl, h⟩ | ⟨-, h⟩
  · cases hm : m k' with
    | none =>
      rw [hm] at h
      exact .inr ⟨rfl, h.symm⟩
    | some a =>
      rw [hm] at h
      exact .inl (congrArg some h)
  · exact .inl h

variable {s' : PfcpSwitch}

theorem SeidInv.step (hs : SeidInv s) (h : SeidStep s s') (hgen : s.seidGenerator + 1 < 2 ^ 64) :
    SeidInv s' := by
  cases h with
  | keeps up generator next seids =>
    constructor
    · intro seid r hr
      rw [up] at hr
      obtain ⟨hseid, hlt⟩ := hs.own seid r hr
      exact ⟨(seids r hlt).trans hseid, hlt.trans_le next⟩
    · intro seid r hr
      rw [up] at hr
      exact (hs.given seid r hr).trans generator.1
  | adds up generator next self seids =>
    obtain ⟨-, hnat⟩ := nextSeid_fresh hgen hs.given
    constructor
    · intro seid r hr
      rw [up] at hr
      rcases insertEntry_eq_some hr with hr | ⟨rfl, rfl⟩
      · obtain ⟨hseid, hlt⟩ := hs.own seid r hr
        exact ⟨(seids r hlt).trans hseid, by omega⟩
      · exact ⟨self, by omega⟩
    · intro seid r hr
      rw [up] at hr
      rcases insertEntry_eq_some hr with hr | ⟨rfl, rfl⟩
      · have := hs.given seid r hr
        omega
      · omega
  | removes seid r live up generator next seids =>
    constructor
    · intro seid' q hq
      rw [up] at hq
      obtain ⟨hq, -⟩ := update_none_eq_some.mp hq
      rw [seids, next]
      exact hs.own seid' q hq
    · intro seid' q hq
      rw [up] at hq
      rw [generator]
      exact hs.given seid' q (update_none_eq_some.mp hq).1

/-- A SEID that was given and has no session any more. -/
structure Gone (seid : UInt64) (s : PfcpSwitch) : Prop where
  inv : SeidInv s
  none : s.upSeid2pfcpSessions seid = none
  given : seid.toNat ≤ s.seidGenerator

theorem Gone.step (hs : Gone seid s) (h : SeidStep s s') (hgen : s.seidGenerator + 1 < 2 ^ 64) :
    Gone seid s' := by
  refine ⟨hs.inv.step h hgen, ?_, ?_⟩
  · cases h with
    | keeps up => rw [up, hs.none]
    | adds up =>
      obtain ⟨-, hnat⟩ := nextSeid_fresh hgen hs.inv.given
      rw [up]
      refine Option.eq_none_iff_forall_ne_some.mpr fun r hr => ?_
      rcases insertEntry_eq_some hr with hr | ⟨rfl, -⟩
      · rw [hs.none] at hr
        cases hr
      · have := hs.given
        omega
    | removes seid' r live up =>
      rw [up]
      refine Option.eq_none_iff_forall_ne_some.mpr fun q hq => ?_
      have := (update_none_eq_some.mp hq).1
      rw [hs.none] at this
      cases this
  · have := hs.given
    cases h with
    | keeps up generator => omega
    | adds up generator => omega
    | removes seid' r live up generator => omega

theorem SeidStep.generator_le (h : SeidStep s s') : s'.seidGenerator ≤ s.seidGenerator + 1 := by
  cases h with
  | keeps up generator => exact generator.2
  | adds up generator => exact generator.le
  | removes seid r live up generator => omega

/-- **While the SEIDs do not run out**, what the requests keep about them, they keep over a run. -/
theorem seid_run {I : PfcpSwitch → Prop} (reqs : List SessionRequest)
    (hstep : ∀ s s', I s → SeidStep s s' → s.seidGenerator + 1 < 2 ^ 64 → I s')
    (hs : I s) (hgen : s.seidGenerator + reqs.length < 2 ^ 64) :
    I (run (switchStep cfg) s reqs) ∧
      (run (switchStep cfg) s reqs).seidGenerator ≤ s.seidGenerator + reqs.length := by
  induction reqs generalizing s with
  | nil => exact ⟨hs, le_rfl⟩
  | cons e reqs ih =>
    rw [List.length_cons] at hgen ⊢
    have he := switchStep_seids cfg s e
    have hle := he.generator_le
    obtain ⟨hI, hlast⟩ := ih (hstep s _ hs he (by omega)) (by omega)
    exact ⟨hI, hlast.trans (by omega)⟩

end

/-- **After its deletion, no rule of a session forwards a packet or reports one**, whatever requests and
packets follow, as long as the SEIDs do not run out. -/
theorem deleted_session_silent (cfg : DatapathCfg) (depth : ℕ) (es₁ es₂ : List DatapathEvent)
    (e : DatapathEvent) (seid : UInt64) (pdiQfi : ℕ → UInt8) {d₁ d₂ d' : Datapath}
    {sent₁ sent₂ out : List DatapathOutput}
    (hrun₁ : trace (datapathStep cfg depth) .init es₁ = some (d₁, sent₁))
    (hlive : d₁.switch.upSeid2pfcpSessions seid ≠ none)
    (hrun₂ : trace (datapathStep cfg depth) d₁ (.request (.deletion seid) pdiQfi :: es₂) =
      some (d₂, sent₂))
    (hcount : (requestsOf es₁).length + (requestsOf es₂).length + 1 < 2 ^ 64)
    (hstep : datapathStep cfg depth d₂ e = some (d', out)) :
    d₂.switch.upSeid2pfcpSessions seid = none ∧
      ∀ o ∈ out, Origin cfg d₂ (fun p r _ => (d₂.switch.pdr p).localSeid ≠ seid ∧
        (d₂.switch.session r).seid ≠ seid) e o := by
  have hgone : Gone seid d₂.switch := by
    obtain ⟨hinv, hgen⟩ := seid_run (I := SeidInv) cfg.upf (requestsOf es₁)
      (fun _ _ hs h hgen => hs.step h hgen) SeidInv.init
      (show 0 + (requestsOf es₁).length < 2 ^ 64 by omega)
    have hswitch : d₁.switch = run (switchStep cfg.upf) .init (requestsOf es₁) := trace_switch hrun₁
    rw [← hswitch] at hinv hgen
    have hzero : PfcpSwitch.init.seidGenerator = 0 := rfl
    obtain ⟨r, hr⟩ := Option.ne_none_iff_exists'.mp hlive
    have hdelete : Gone seid (switchStep cfg.upf d₁.switch (.deletion seid)) := by
      obtain ⟨hup, hsame, -⟩ := deletion_seids cfg.upf hr
      refine ⟨hinv.step (switchStep_seids ..) (by omega), ?_, ?_⟩
      · rw [hup, (hinv.own seid r hr).1, Function.update_self]
      · rw [hsame]
        exact hinv.given seid r hr
    have hle := (switchStep_seids cfg.upf d₁.switch (.deletion seid)).generator_le
    rw [trace_switch hrun₂]
    exact (seid_run (I := Gone seid) cfg.upf (requestsOf es₂)
      (fun _ _ hs h hgen => hs.step h hgen) hdelete (by omega)).1
  refine ⟨hgone.none, fun o ho => (datapathStep_outcome hstep).origin (fun iph p r f hfinds => ?_) ho⟩
  obtain ⟨hr, -⟩ := rulesOf_eq_some hfinds.stored.2
  have hne : (d₂.switch.pdr p).localSeid ≠ seid := fun heq => by
    rw [heq, hgone.none] at hr
    cases hr
  exact ⟨hne, by rwa [(hgone.inv.own _ _ hr).1]⟩

/-- The tunnel of the session is unknown after its deletion. -/
theorem deleted_session_silent_one : ∃ d₁ d₂ d' sent₁ sent₂ out,
    trace (datapathStep forwardingCfg 1) .init [.request establishForwarding fun _ => 9] =
      some (d₁, sent₁) ∧
    trace (datapathStep forwardingCfg 1) d₁ [.request (.deletion 1) fun _ => 9, downlinkPacket] =
      some (d₂, sent₂) ∧
    datapathStep forwardingCfg 1 d₂ uplinkDatagram = some (d', out) ∧ out.length = 1 ∧
    (d₂.switch.upSeid2pfcpSessions 1 = none ∧
      ∀ o ∈ out, Origin forwardingCfg d₂ (fun p r _ => (d₂.switch.pdr p).localSeid ≠ 1 ∧
        (d₂.switch.session r).seid ≠ 1) uplinkDatagram o) :=
  ⟨_, _, _, _, _, _, rfl, rfl, rfl, rfl, deleted_session_silent forwardingCfg 1
    [.request establishForwarding fun _ => 9] [downlinkPacket] uplinkDatagram 1 (fun _ => 9) rfl
    (by decide) rfl (by decide) rfl⟩

end Oai5g.Upf
