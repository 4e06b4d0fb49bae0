import Oai5g.Lib.Trace
import Oai5g.Upf.Precedence
import Oai5g.Upf.Gtpu

/-!
# The data path

What `pfcp_switch` does with the packets of both sides between the requests it handles.

* `lookUpPackInAccess`, `lookUpPackInCore`: a packet of N3 and one of N6. A packet for another UE of the
  network is looked up again (`noInternalLoop`), so the two have the calls that fit the stack as fuel.
* `datapathStep`: a request, a datagram or a packet; `Datapath`: the tables with what the packets change.
* **`datapath_returns_iff`**: which packets the process does not come back from.

The SDF filters are not read by the code. The QFI of a PDI is no part of a rule here: a request sets them
to any values.
-/

namespace Oai5g.Upf

open PfcpSwitch

/-! ## Packets -/

/-- A packet at `buffer`, of `num_bytes` octets. -/
structure UserPacket where
  buffer : Memory
  numBytes : ℕ

namespace UserPacket

variable (iph : UserPacket)

/-- The version of an IP header. -/
def version : ℕ := (iph.buffer 0).toNat / 16

/-- `iph->saddr`, in network byte order on a little-endian host. -/
def saddr : UInt32 := ofBe32 (iph.buffer 15) (iph.buffer 14) (iph.buffer 13) (iph.buffer 12)

/-- `iph->daddr`, likewise. -/
def daddr : UInt32 := ofBe32 (iph.buffer 19) (iph.buffer 18) (iph.buffer 17) (iph.buffer 16)

/-- The octets that are sent. -/
def octets : List UInt8 := iph.buffer.read 0 iph.numBytes

end UserPacket

/-- The `endpoint` a datagram came from. -/
inductive GtpuPeer
  | ipv4 (address : UInt32) (port : UInt16)
  | ipv6 (address : List UInt8) (port : UInt16)
  | other
  deriving DecidableEq

/-- What leaves the user plane: a G-PDU to an IPv4 or an IPv6 peer, a packet to the data network, an
Error Indication and a Session Report Request with a Downlink Data Report. -/
inductive DatapathOutput
  | gPdu (peer : UInt32) (teid : UInt32) (packet : UserPacket) (qfi : UInt8)
  | gPduIpv6 (peer : List UInt8) (teid : UInt32) (packet : UserPacket)
  | toCore (packet : UserPacket)
  | errorIndication (peer : GtpuPeer) (teid : UInt32)
  | sessionReport (cpFseid : Fseid) (pdrId : UInt16)

/-! ## Forwarding parameters -/

/-- `OUTER_HEADER_CREATION_GTPU_UDP_IPV4` -/
def OUTER_HEADER_CREATION_GTPU_UDP_IPV4 : ℕ := 0x0100

/-- `OUTER_HEADER_CREATION_GTPU_UDP_IPV6` -/
def OUTER_HEADER_CREATION_GTPU_UDP_IPV6 : ℕ := 0x0200

namespace Ie

variable (ie : Ie)

/-- An octet; one that is missing keeps the zero it was initialised with. -/
def octet (i : ℕ) : UInt8 := List.getD ie i 0

/-- `destination_interface_t::interface_value`. -/
def interfaceValue : UInt8 := Ie.octet ie 0

/-- `outer_header_creation_t::outer_header_creation_description`. -/
def outerHeaderCreationDescription : ℕ := (Ie.octet ie 0).toNat * 256 + (Ie.octet ie 1).toNat

/-- `outer_header_creation_t::teid`. -/
def teid : UInt32 := ofBe32 (Ie.octet ie 2) (Ie.octet ie 3) (Ie.octet ie 4) (Ie.octet ie 5)

/-- `outer_header_creation_t::ipv4_address`, in network byte order. -/
def ipv4Address : UInt32 := ofBe32 (Ie.octet ie 9) (Ie.octet ie 8) (Ie.octet ie 7) (Ie.octet ie 6)

/-- `outer_header_creation_t::ipv6_address`, where no IPv4 address is there. -/
def ipv6Address : List UInt8 := (List.range 16).map fun i => Ie.octet ie (6 + i)

end Ie

/-! ## The state -/

/-- The part of `upf_cfg` that the data path reads; the PDN is `pdns[0]`. -/
structure DatapathCfg where
  upf : UpfCfg
  networkIpv4 : UInt32
  networkMaskIpv4Be : UInt32
  bypassUlPfcpRules : Bool

/-- `pfcp_session::qfi` of a new session. -/
def DEFAULT_QFI : UInt8 := 0x05

/-- The tables, with `pfcp_session::qfi`, the QFI of the PDI of a PDR, and `pfcp_pdr::notified_cp`. -/
structure Datapath where
  switch : PfcpSwitch
  sessionQfi : ℕ → UInt8
  pdiQfi : ℕ → UInt8
  notifiedCp : ℕ → Bool

namespace Datapath

/-- No session and no packet. -/
def init : Datapath := ⟨.init, fun _ => DEFAULT_QFI, fun _ => 0, fun _ => false⟩

variable (d : Datapath)

/-- The QFI of a session. -/
def setSessionQfi (r : ℕ) (qfi : UInt8) : Datapath :=
  { d with sessionQfi := Function.update d.sessionQfi r qfi }

/-- The control plane has been told of a PDR. -/
def setNotifiedCp (p : ℕ) : Datapath := { d with notifiedCp := Function.update d.notifiedCp p true }

/-- The tables after a request, with new sessions and PDRs as they are constructed. -/
def setSwitch (switch : PfcpSwitch) (pdiQfi : ℕ → UInt8) : Datapath where
  switch := switch
  sessionQfi r := if r < d.switch.sessions.next then d.sessionQfi r else DEFAULT_QFI
  pdiQfi := pdiQfi
  notifiedCp p := if p < d.switch.pdrs.next then d.notifiedCp p else false

end Datapath

/-! ## One packet -/

/-- What a handler gives, where its calls fit the stack. -/
abbrev Handled : Type := Option (Datapath × List DatapathOutput)

/-- The session and the FAR that the two lookups take for a PDR. -/
def PfcpSwitch.rulesOf (s : PfcpSwitch) (p : ℕ) : Option (ℕ × ℕ) :=
  (s.upSeid2pfcpSessions (s.pdr p).localSeid).bind fun r =>
    (s.pdr p).farId.bind fun farId => (s.getFar r farId).map fun f => (r, f)

section

variable (cfg : DatapathCfg)

/-- The destination is in the network of the PDN, and not its first address. -/
def isInternal (iph : UserPacket) : Bool :=
  cfg.networkIpv4 == iph.daddr &&& cfg.networkMaskIpv4Be && be32toh iph.daddr &&& 0xFF != 1

/-- `pfcp_switch::no_internal_loop` -/
def noInternalLoop (lookUpPackInCore : UserPacket → Datapath → Handled) (iph : UserPacket)
    (d : Datapath) : Option ((Datapath × List DatapathOutput) × Bool) :=
  if isInternal cfg iph then (lookUpPackInCore iph d).map fun x => (x, false)
  else some ((d, []), true)

/-- `if (no_internal_loop(..)) send_to_core(..)` -/
def sendToCore (lookUpPackInCore : UserPacket → Datapath → Handled) (iph : UserPacket) (d : Datapath) :
    Handled :=
  (noInternalLoop cfg lookUpPackInCore iph d).map fun x =>
    (x.1.1, if x.2 then x.1.2 ++ [.toCore iph] else x.1.2)

/-- The G-PDU that an Outer Header Creation asks for. -/
def sendGPduTo (outerHeaderCreation : Option Ie) (iph : UserPacket) (qfi : UInt8) : List DatapathOutput :=
  match outerHeaderCreation with
  | none => []
  | some ie =>
    if ie.outerHeaderCreationDescription = OUTER_HEADER_CREATION_GTPU_UDP_IPV4 then
      [.gPdu ie.ipv4Address ie.teid iph qfi]
    else if ie.outerHeaderCreationDescription = OUTER_HEADER_CREATION_GTPU_UDP_IPV6 then
      [.gPduIpv6 ie.ipv6Address ie.teid iph]
    else []

/-- `pfcp_far::apply_forwarding_rules`, without the flags `nocp` and `buff`. -/
def applyForwardingRules (lookUpPackInCore : UserPacket → Datapath → Handled) (far : PfcpFar)
    (iph : UserPacket) (qfi : UInt8) (d : Datapath) : Handled :=
  if far.applyAction.forw then
    match far.forwardingParameters with
    | none => some (d, [])
    | some params =>
      match params.destinationInterface with
      | none => some (d, [])
      | some destination =>
        if destination.interfaceValue = INTERFACE_VALUE_ACCESS then
          some (d, sendGPduTo params.outerHeaderCreation iph qfi)
        else if destination.interfaceValue = INTERFACE_VALUE_CORE then sendToCore cfg lookUpPackInCore iph d
        else some (d, [])
  else some (d, [])

/-- `pfcp_pdr::notify_cp_requested` -/
def notifyCpRequested (p r : ℕ) (x : Datapath × List DatapathOutput) : Datapath × List DatapathOutput :=
  if x.1.notifiedCp p then x
  else (x.1.setNotifiedCp p,
    x.2 ++ [.sessionReport (x.1.switch.session r).cpFseid (x.1.switch.pdr p).pdrId])

/-- `pfcp_switch::pfcp_session_look_up_pack_in_core`; `buffering_requested` does nothing. -/
def lookUpPackInCore : ℕ → UserPacket → Datapath → Handled
  | 0, _, _ => none
  | depth + 1, iph, d =>
    if iph.version = 4 then
      match d.switch.foundInCore iph.daddr with
      | none => some (d, [])
      | some p =>
        match d.switch.rulesOf p with
        | none => some (d, [])
        | some (r, f) =>
          (applyForwardingRules cfg (lookUpPackInCore depth) (d.switch.far f) iph (d.sessionQfi r) d).map
            fun x => if (d.switch.far f).applyAction.nocp then notifyCpRequested p r x else x
    else some (d, [])

/-- `upf_n3::report_error_indication`: none without an address to name. -/
def reportErrorIndication (peer : GtpuPeer) (teid : UInt32) : List DatapathOutput :=
  match peer with
  | .other => []
  | peer => [.errorIndication peer teid]

/-- `pfcp_switch::pfcp_session_look_up_pack_in_access` of an IPv4 packet. -/
def lookUpPackInAccess (depth : ℕ) (iph : UserPacket) (peer : GtpuPeer) (tunnelId : UInt32)
    (d : Datapath) : Handled :=
  if cfg.bypassUlPfcpRules then sendToCore cfg (lookUpPackInCore cfg depth) iph d
  else if d.switch.pdrTable (.n3Teid tunnelId) = none then
    some (d, reportErrorIndication peer tunnelId)
  else
    match d.switch.foundInAccess iph.saddr tunnelId with
    | none => some (d, [])
    | some p =>
      match d.switch.rulesOf p with
      | none => some (d, [])
      | some (r, f) => applyForwardingRules cfg (lookUpPackInCore cfg depth) (d.switch.far f) iph 0
          (d.setSessionQfi r (d.pdiQfi p))

/-! ## Requests, datagrams and packets -/

/-- What the user plane takes: a request, with the QFIs of the PDIs after it, a datagram of N3 and a
packet of N6. -/
inductive DatapathEvent
  | request (req : SessionRequest) (pdiQfi : ℕ → UInt8)
  | datagram (msg : List UInt8) (beyond : Memory) (peer : GtpuPeer)
  | packet (iph : UserPacket)

/-- The packet that a datagram carries over a tunnel, where its version is 4. -/
def carriedPacket (msg : List UInt8) (beyond : Memory) : Option (UserPacket × UInt32) :=
  match handleReceive msg beyond with
  | .lookUpPackInAccess .ipv4 offset length (some teid) =>
    some (⟨fun a => Memory.ofList msg beyond (offset + a), length⟩, teid)
  | _ => none

/-- **One event.** The other datagrams leave the tables and the packets alone. -/
def datapathStep (depth : ℕ) (d : Datapath) : DatapathEvent → Handled
  | .request req pdiQfi => some (d.setSwitch (switchStep cfg.upf d.switch req) pdiQfi, [])
  | .datagram msg beyond peer =>
    match carriedPacket msg beyond with
    | none => some (d, [])
    | some (iph, teid) => lookUpPackInAccess cfg depth iph peer teid d
  | .packet iph => lookUpPackInCore cfg depth iph d

end

/-! ## What a FAR does with a packet -/

namespace PfcpFar

variable (far : PfcpFar)

/-- The interface that a FAR forwards to. -/
def destination : Option UInt8 :=
  if far.applyAction.forw then
    far.forwardingParameters.bind fun params => params.destinationInterface.map Ie.interfaceValue
  else none

/-- The Outer Header Creation of a FAR. -/
def outerHeaderCreation : Option Ie :=
  far.forwardingParameters.bind ForwardingParameters.outerHeaderCreation

/-- What a FAR makes of a packet that is not for another UE. -/
def forwarded (iph : UserPacket) (qfi : UInt8) : List DatapathOutput :=
  if far.destination = some INTERFACE_VALUE_ACCESS then sendGPduTo far.outerHeaderCreation iph qfi
  else if far.destination = some INTERFACE_VALUE_CORE then [.toCore iph]
  else []

end PfcpFar

section

variable {cfg : DatapathCfg} {look : UserPacket → Datapath → Handled} {far : PfcpFar} {iph : UserPacket}
  {qfi : UInt8} {d : Datapath}

theorem sendToCore_of_internal (h : isInternal cfg iph = true) :
    sendToCore cfg look iph d = look iph d := by
  unfold sendToCore noInternalLoop
  rw [if_pos h]
  cases look iph d <;> rfl

theorem sendToCore_of_not_internal (h : isInternal cfg iph = false) :
    sendToCore cfg look iph d = some (d, [.toCore iph]) := by
  unfold sendToCore noInternalLoop
  rw [h]
  rfl

/-- A packet that a FAR forwards to the core is looked up again where it is for another UE. -/
theorem applyForwardingRules_of_core (h : far.destination = some INTERFACE_VALUE_CORE) :
    applyForwardingRules cfg look far iph qfi d = sendToCore cfg look iph d := by
  unfold PfcpFar.destination at h
  unfold applyForwardingRules
  split_ifs at h ⊢ with hforw
  obtain ⟨params, hparams, h⟩ := Option.bind_eq_some_iff.mp h
  obtain ⟨destination, hdestination, h⟩ := Option.map_eq_some_iff.mp h
  rw [hparams]
  dsimp only
  rw [hdestination]
  dsimp only
  rw [h, if_neg (by decide), if_pos rfl]

theorem applyForwardingRules_of_not_core (h : far.destination ≠ some INTERFACE_VALUE_CORE) :
    applyForwardingRules cfg look far iph qfi d = some (d, far.forwarded iph qfi) := by
  unfold PfcpFar.forwarded
  rw [if_neg h]
  unfold PfcpFar.destination PfcpFar.outerHeaderCreation at *
  unfold applyForwardingRules
  by_cases hforw : far.applyAction.forw = true
  · rw [if_pos hforw] at h ⊢
    rw [if_pos hforw]
    cases hparams : far.forwardingParameters with
    | none => rfl
    | some params =>
      rw [hparams] at h
      simp only [Option.bind_some] at h ⊢
      cases hdestination : params.destinationInterface with
      | none => rfl
      | some destination =>
        rw [hdestination] at h
        simp only [Option.map_some, ne_eq, Option.some.injEq] at h ⊢
        rw [if_neg h]
        split_ifs <;> rfl
  · rw [if_neg hforw, if_neg hforw]
    rfl

theorem forwarded_of_core (h : far.destination = some INTERFACE_VALUE_CORE) :
    far.forwarded iph qfi = [.toCore iph] := by
  unfold PfcpFar.forwarded
  rw [h, if_neg (by decide), if_pos rfl]

end

/-! ## Coming back -/

section

variable (cfg : DatapathCfg) (d : Datapath)

/-- The rules that a packet for a UE finds. -/
def DownlinkRules (iph : UserPacket) (p r f : ℕ) : Prop :=
  iph.version = 4 ∧ d.switch.foundInCore iph.daddr = some p ∧ d.switch.rulesOf p = some (r, f)

/-- The rules that a packet from a UE finds. -/
def UplinkRules (iph : UserPacket) (teid : UInt32) (p r f : ℕ) : Prop :=
  cfg.bypassUlPfcpRules = false ∧ d.switch.foundInAccess iph.saddr teid = some p ∧
    d.switch.rulesOf p = some (r, f)

/-- A packet for a UE that its FAR sends towards the core, and that is for the UE again. -/
def LoopsInCore (iph : UserPacket) : Prop :=
  isInternal cfg iph = true ∧
    ∃ p r f, DownlinkRules d iph p r f ∧ (d.switch.far f).destination = some INTERFACE_VALUE_CORE

/-- A packet from a UE is sent towards the core. -/
def LeadsToCore (iph : UserPacket) (teid : UInt32) : Prop :=
  cfg.bypassUlPfcpRules = true ∨
    ∃ p r f, UplinkRules cfg d iph teid p r f ∧
      (d.switch.far f).destination = some INTERFACE_VALUE_CORE

/-- The events that the process does not come back from. -/
def Loops : DatapathEvent → Prop
  | .request _ _ => False
  | .datagram msg beyond _ => ∃ iph teid, carriedPacket msg beyond = some (iph, teid) ∧
      LeadsToCore cfg d iph teid ∧ LoopsInCore cfg d iph
  | .packet iph => LoopsInCore cfg d iph

end

section

variable {cfg : DatapathCfg} {d : Datapath} {iph : UserPacket} {p r f : ℕ} {teid : UInt32}

theorem not_downlinkRules (h : ∀ p r f, ¬ DownlinkRules d iph p r f) (depth : ℕ) :
    lookUpPackInCore cfg (depth + 1) iph d = some (d, []) := by
  unfold lookUpPackInCore
  split_ifs with hversion
  · cases hfound : d.switch.foundInCore iph.daddr with
    | none => rfl
    | some p =>
      dsimp only
      cases hrules : d.switch.rulesOf p with
      | none => rfl
      | some x => exact (h p x.1 x.2 ⟨hversion, hfound, hrules⟩).elim
  · rfl

theorem DownlinkRules.lookUp (h : DownlinkRules d iph p r f) (depth : ℕ) :
    lookUpPackInCore cfg (depth + 1) iph d =
      (applyForwardingRules cfg (lookUpPackInCore cfg depth) (d.switch.far f) iph (d.sessionQfi r) d).map
        fun x => if (d.switch.far f).applyAction.nocp then notifyCpRequested p r x else x := by
  obtain ⟨hversion, hfound, hrules⟩ := h
  rw [lookUpPackInCore, if_pos hversion, hfound]
  dsimp only
  rw [hrules]

theorem LoopsInCore.lookUp_eq_none (h : LoopsInCore cfg d iph) (depth : ℕ) :
    lookUpPackInCore cfg depth iph d = none := by
  obtain ⟨hinternal, p, r, f, hrules, hcore⟩ := h
  induction depth with
  | zero => rfl
  | succ depth ih =>
    rw [hrules.lookUp, applyForwardingRules_of_core hcore, sendToCore_of_internal hinternal, ih]
    rfl

/-- What a packet for a UE gives where it does not loop. -/
def downlinkResult (d : Datapath) (iph : UserPacket) (p r f : ℕ) : Datapath × List DatapathOutput :=
  let x := (d, (d.switch.far f).forwarded iph (d.sessionQfi r))
  if (d.switch.far f).applyAction.nocp then notifyCpRequested p r x else x

theorem DownlinkRules.lookUp_eq_some (h : DownlinkRules d iph p r f) (hloop : ¬ LoopsInCore cfg d iph)
    (depth : ℕ) : lookUpPackInCore cfg (depth + 1) iph d = some (downlinkResult d iph p r f) := by
  rw [h.lookUp]
  by_cases hcore : (d.switch.far f).destination = some INTERFACE_VALUE_CORE
  · have hinternal : isInternal cfg iph = false := by
      rw [← Bool.not_eq_true]
      exact fun hinternal => hloop ⟨hinternal, p, r, f, h, hcore⟩
    rw [applyForwardingRules_of_core hcore, sendToCore_of_not_internal hinternal, downlinkResult,
      forwarded_of_core hcore]
    rfl
  · rw [applyForwardingRules_of_not_core hcore]
    rfl

theorem lookUpPackInCore_succ (depth : ℕ) :
    lookUpPackInCore cfg (depth + 1) iph d = lookUpPackInCore cfg 1 iph d := by
  by_cases hloop : LoopsInCore cfg d iph
  · rw [hloop.lookUp_eq_none, hloop.lookUp_eq_none]
  by_cases hrules : ∃ p r f, DownlinkRules d iph p r f
  · obtain ⟨p, r, f, hrules⟩ := hrules
    rw [hrules.lookUp_eq_some hloop, hrules.lookUp_eq_some hloop]
  · push Not at hrules
    rw [not_downlinkRules hrules, not_downlinkRules hrules]

theorem lookUpPackInCore_eq_none_iff (depth : ℕ) :
    lookUpPackInCore cfg (depth + 1) iph d = none ↔ LoopsInCore cfg d iph := by
  constructor
  · intro hnone
    by_contra hloop
    by_cases hrules : ∃ p r f, DownlinkRules d iph p r f
    · obtain ⟨p, r, f, hrules⟩ := hrules
      rw [hrules.lookUp_eq_some hloop] at hnone
      cases hnone
    · push Not at hrules
      rw [not_downlinkRules hrules] at hnone
      cases hnone
  · exact fun h => h.lookUp_eq_none _

theorem loopsInCore_congr {d' : Datapath} (h : d'.switch = d.switch) :
    LoopsInCore cfg d' iph ↔ LoopsInCore cfg d iph := by
  unfold LoopsInCore DownlinkRules
  rw [h]

theorem UplinkRules.lookUp (h : UplinkRules cfg d iph teid p r f) (peer : GtpuPeer) (depth : ℕ) :
    lookUpPackInAccess cfg depth iph peer teid d =
      applyForwardingRules cfg (lookUpPackInCore cfg depth) (d.switch.far f) iph 0
        (d.setSessionQfi r (d.pdiQfi p)) := by
  obtain ⟨hbypass, hfound, hrules⟩ := h
  have hstored : d.switch.pdrTable (.n3Teid teid) ≠ none := by
    intro hnone
    rw [PfcpSwitch.foundInAccess, hnone] at hfound
    cases hfound
  unfold lookUpPackInAccess
  rw [if_neg (by simp [hbypass]), if_neg hstored, hfound]
  dsimp only
  rw [hrules]

theorem not_uplinkRules (hbypass : cfg.bypassUlPfcpRules = false)
    (h : ∀ p r f, ¬ UplinkRules cfg d iph teid p r f) (peer : GtpuPeer) (depth : ℕ) :
    lookUpPackInAccess cfg depth iph peer teid d =
      some (d, if d.switch.pdrTable (.n3Teid teid) = none then reportErrorIndication peer teid else []) := by
  unfold lookUpPackInAccess
  rw [if_neg (by simp [hbypass])]
  split_ifs with hstored
  · rfl
  · cases hfound : d.switch.foundInAccess iph.saddr teid with
    | none => rfl
    | some p =>
      dsimp only
      cases hrules : d.switch.rulesOf p with
      | none => rfl
      | some x => exact (h p x.1 x.2 ⟨hbypass, hfound, hrules⟩).elim

/-- The state in which a packet that goes to the core is looked up there: the QFI of its session is set. -/
def uplinkState (cfg : DatapathCfg) (d : Datapath) (iph : UserPacket) (teid : UInt32) : Datapath :=
  if cfg.bypassUlPfcpRules then d
  else
    match (d.switch.foundInAccess iph.saddr teid).bind fun p =>
      (d.switch.rulesOf p).map fun x => (p, x.1) with
    | none => d
    | some (p, r) => d.setSessionQfi r (d.pdiQfi p)

theorem UplinkRules.uplinkState (h : UplinkRules cfg d iph teid p r f) :
    uplinkState cfg d iph teid = d.setSessionQfi r (d.pdiQfi p) := by
  obtain ⟨hbypass, hfound, hrules⟩ := h
  unfold Upf.uplinkState
  rw [if_neg (by simp [hbypass]), hfound, Option.bind_some, hrules]
  rfl

theorem uplinkState_switch : (uplinkState cfg d iph teid).switch = d.switch := by
  unfold uplinkState
  split_ifs
  · rfl
  · split <;> rfl

theorem LeadsToCore.lookUp (h : LeadsToCore cfg d iph teid) (peer : GtpuPeer) (depth : ℕ) :
    lookUpPackInAccess cfg depth iph peer teid d =
      sendToCore cfg (lookUpPackInCore cfg depth) iph (uplinkState cfg d iph teid) := by
  rcases h with hbypass | ⟨p, r, f, hrules, hcore⟩
  · unfold lookUpPackInAccess uplinkState
    rw [if_pos hbypass, if_pos hbypass]
  · rw [hrules.lookUp, applyForwardingRules_of_core hcore, hrules.uplinkState]

theorem lookUpPackInAccess_ne_none (h : ¬ LeadsToCore cfg d iph teid) (peer : GtpuPeer) (depth : ℕ) :
    lookUpPackInAccess cfg depth iph peer teid d ≠ none := by
  have hbypass : cfg.bypassUlPfcpRules = false := by
    rw [← Bool.not_eq_true]
    exact fun hbypass => h (.inl hbypass)
  by_cases hrules : ∃ p r f, UplinkRules cfg d iph teid p r f
  · obtain ⟨p, r, f, hrules⟩ := hrules
    rw [hrules.lookUp, applyForwardingRules_of_not_core fun hcore => h (.inr ⟨p, r, f, hrules, hcore⟩)]
    exact Option.some_ne_none _
  · push Not at hrules
    rw [not_uplinkRules hbypass hrules]
    exact Option.some_ne_none _

theorem lookUpPackInAccess_eq_none_iff (peer : GtpuPeer) (depth : ℕ) :
    lookUpPackInAccess cfg (depth + 1) iph peer teid d = none ↔
      LeadsToCore cfg d iph teid ∧ LoopsInCore cfg d iph := by
  by_cases hleads : LeadsToCore cfg d iph teid
  · rw [hleads.lookUp, and_iff_right hleads]
    by_cases hinternal : isInternal cfg iph = true
    · rw [sendToCore_of_internal hinternal, lookUpPackInCore_eq_none_iff,
        loopsInCore_congr uplinkState_switch]
    · rw [sendToCore_of_not_internal (by simpa using hinternal)]
      exact iff_of_false (Option.some_ne_none _) fun h => hinternal h.1
  · exact iff_of_false (lookUpPackInAccess_ne_none hleads peer _) fun h => hleads h.1

theorem lookUpPackInAccess_succ (peer : GtpuPeer) (depth : ℕ) :
    lookUpPackInAccess cfg (depth + 1) iph peer teid d = lookUpPackInAccess cfg 1 iph peer teid d := by
  by_cases hleads : LeadsToCore cfg d iph teid
  · rw [hleads.lookUp, hleads.lookUp]
    by_cases hinternal : isInternal cfg iph = true
    · rw [sendToCore_of_internal hinternal, sendToCore_of_internal hinternal, lookUpPackInCore_succ]
    · rw [sendToCore_of_not_internal (by simpa using hinternal),
        sendToCore_of_not_internal (by simpa using hinternal)]
  · have hbypass : cfg.bypassUlPfcpRules = false := by
      rw [← Bool.not_eq_true]
      exact fun hbypass => hleads (.inl hbypass)
    by_cases hrules : ∃ p r f, UplinkRules cfg d iph teid p r f
    · obtain ⟨p, r, f, hrules⟩ := hrules
      have hcore : (d.switch.far f).destination ≠ some INTERFACE_VALUE_CORE :=
        fun hcore => hleads (.inr ⟨p, r, f, hrules, hcore⟩)
      rw [hrules.lookUp, hrules.lookUp, applyForwardingRules_of_not_core hcore,
        applyForwardingRules_of_not_core hcore]
    · push Not at hrules
      rw [not_uplinkRules hbypass hrules, not_uplinkRules hbypass hrules]

variable {e : DatapathEvent}

theorem datapathStep_succ (depth : ℕ) : datapathStep cfg (depth + 1) d e = datapathStep cfg 1 d e := by
  cases e with
  | request req pdiQfi => rfl
  | datagram msg beyond peer =>
    unfold datapathStep
    dsimp only
    cases carriedPacket msg beyond with
    | none => rfl
    | some x => exact lookUpPackInAccess_succ peer depth
  | packet iph => exact lookUpPackInCore_succ depth

/-- **The events that the process does not come back from.** -/
theorem datapathStep_eq_none_iff (depth : ℕ) :
    datapathStep cfg (depth + 1) d e = none ↔ Loops cfg d e := by
  cases e with
  | request req pdiQfi => simp [datapathStep, Loops]
  | datagram msg beyond peer =>
    unfold datapathStep Loops
    dsimp only
    cases hcarried : carriedPacket msg beyond with
    | none => simp
    | some x =>
      dsimp only
      rw [lookUpPackInAccess_eq_none_iff]
      constructor
      · exact fun h => ⟨x.1, x.2, rfl, h⟩
      · rintro ⟨iph, teid, hx, h⟩
        obtain rfl := Option.some.inj hx
        exact h
  | packet iph => exact lookUpPackInCore_eq_none_iff depth

end

/-- **A run of requests and packets comes back unless a packet is sent towards the core by the rule of
the UE it is for**, in which case no stack is deep enough; where it comes back, the depth of the stack
makes no difference. -/
theorem datapath_returns_iff (cfg : DatapathCfg) (es : List DatapathEvent) :
    ((∀ depth, trace (datapathStep cfg (depth + 1)) .init es = none) ↔
      ∃ pre e post d out, es = pre ++ e :: post ∧
        trace (datapathStep cfg 1) .init pre = some (d, out) ∧ Loops cfg d e) ∧
    ∀ depth, trace (datapathStep cfg (depth + 1)) .init es = trace (datapathStep cfg 1) .init es := by
  have hdepth : ∀ depth, datapathStep cfg (depth + 1) = datapathStep cfg 1 := by
    intro depth
    funext d e
    exact datapathStep_succ depth
  have hone : trace (datapathStep cfg 1) .init es = none ↔
      ∃ pre e post d out, es = pre ++ e :: post ∧
        trace (datapathStep cfg 1) .init pre = some (d, out) ∧ Loops cfg d e := by
    rw [trace_eq_none_iff]
    simp only [← datapathStep_eq_none_iff 0, Nat.zero_add]
  refine ⟨?_, fun depth => by rw [hdepth]⟩
  rw [← hone]
  constructor
  · exact fun h => h 0
  · intro h depth
    rw [hdepth, h]

end Oai5g.Upf
