import Oai5g.Lib.Memory

/-!
# GTP-U encapsulation

* `handleReceive`: what the N3 interface hands to the switch for a datagram.
* `sendGPdu`: the three forms of a G-PDU that the stack sends.
* `GPdu`: a well-formed G-PDU with any flags and extension headers.
* **`handsOn_iff`**: when a G-PDU is handed on as the packet it carries. The receiver takes any optional
  field for eight octets, and subtracts four.
-/

namespace Oai5g.Upf

/-! ## Receiving -/

/-- Message type: G-PDU. -/
def GTPU_G_PDU : UInt8 := 255

/-- Extension header type: PDU session container. -/
def GTPU_PDU_SESSION_CONTAINER : UInt8 := 133

/-- PDU type: downlink. -/
def GTPU_DL_PDU_SESSION_INFORMATION : UInt8 := 0

/-- No extension header follows. -/
def GTPU_NO_MORE_EXTENSION_HEADER : UInt8 := 0

/-- The PN bit of the flags. -/
def GTPU_MESSAGE_PN_MASK : UInt8 := 0x1

/-- The S bit of the flags. -/
def GTPU_MESSAGE_SN_MASK : UInt8 := 0x2

/-- The E bit of the flags. -/
def GTPU_MESSAGE_EXT_HEADER_MASK : UInt8 := 0x4

/-- The PT bit of the flags. -/
def GTPU_MESSAGE_PT_MASK : UInt8 := 0x10

/-- `GTPU_MESSAGE_VERSION_MASK` -/
def GTPU_MESSAGE_VERSION_MASK : UInt8 := 0xE

/-- The size of the mandatory header. -/
def GTPV1U_MSG_HEADER_MIN_SIZE : ℕ := 8

/-- IPv4 or IPv6. -/
inductive IpVersion
  | ipv4 | ipv6
  deriving DecidableEq

/-- The version in the first octet of a packet. -/
def ipVersion (octet : UInt8) : Option IpVersion :=
  if octet.toNat / 16 = 4 then some .ipv4
  else if octet.toNat / 16 = 6 then some .ipv6
  else none

/-- What is done with a datagram. A packet is given by its position in the datagram and its length, with
the tunnel it came through. -/
inductive N3Received
  | lookUpPackInAccess (version : IpVersion) (offset length : ℕ) (teid : Option UInt32)
  | gtpv1uMsg
  | unknown
  deriving DecidableEq

/-- A packet at a position of the datagram. -/
def lookUpPack (m : Memory) (offset length : ℕ) (teid : Option UInt32) : N3Received :=
  match ipVersion (m offset) with
  | some version => .lookUpPackInAccess version offset length teid
  | none => .unknown

/-- `gtp_payload_offset`. `GTPU_MESSAGE_VERSION_MASK` is not the mask of the version. -/
def gtpPayloadOffset (gtpFlags : UInt8) : ℕ :=
  GTPV1U_MSG_HEADER_MIN_SIZE +
    (if (gtpFlags &&& GTPU_MESSAGE_VERSION_MASK ≠ 0 ∧ gtpFlags &&& GTPU_MESSAGE_PT_MASK ≠ 0) ∧
        (gtpFlags &&& GTPU_MESSAGE_EXT_HEADER_MASK ≠ 0 ∨ gtpFlags &&& GTPU_MESSAGE_SN_MASK ≠ 0 ∨
          gtpFlags &&& GTPU_MESSAGE_PN_MASK ≠ 0) then 4 else 0) +
    if gtpFlags &&& 0x07 ≠ 0 then 4 else 0

/-- `gtp_payload_length`, a `size_t`. -/
def gtpPayloadLength (gtpFlags : UInt8) (messageLength : ℕ) : ℕ :=
  if gtpFlags &&& 0x07 ≠ 0 then (messageLength + 2 ^ 64 - 4) % 2 ^ 64 else messageLength

/-- `upf_n3::handle_receive` -/
def handleReceive (msg : List UInt8) (beyond : Memory) : N3Received :=
  let m := Memory.ofList msg beyond
  if (m 0).toNat / 32 = 1 then
    if m 1 = GTPU_G_PDU then
      lookUpPack m (gtpPayloadOffset (m 0))
        (gtpPayloadLength (m 0) ((m 2).toNat * 256 + (m 3).toNat))
        (some (ofBe32 (m 4) (m 5) (m 6) (m 7)))
    else .gtpv1uMsg
  else lookUpPack m 0 msg.length none

/-! ## Sending -/

/-- An IP packet. Its length is a `ssize_t`. -/
structure IpPacket where
  octets : List UInt8
  version : IpVersion
  head : octets.head?.bind ipVersion = some version
  size : octets.length < 2 ^ 63

/-- `htobe16` of a length: its last two octets. -/
def be16 (n : ℕ) : List UInt8 := [UInt8.ofNat (n / 256), UInt8.ofNat n]

/-- The first octet of a header of version 1 with protocol type 1. -/
def gtpFlags (e s pn spare : Bool) : UInt8 :=
  0x30 ||| (if e then 4 else 0) ||| (if s then 2 else 0) ||| (if pn then 1 else 0) |||
    if spare then 8 else 0

/-- The part of a header that is always there. -/
def mandatoryHeader (flags : UInt8) (messageLength : ℕ) (teid : UInt32) : List UInt8 :=
  flags :: GTPU_G_PDU :: be16 messageLength ++ be32 teid

/-- A datagram: what stands in front of the packet, and the packet. -/
structure GtpuDatagram where
  header : List UInt8
  packet : IpPacket

/-- The two `gtpu_l4_stack::send_g_pdu`: to an IPv4 peer, without or with `send_ext_hdr`, and to an IPv6
peer, where the last four octets of the header stay as they were. -/
inductive GPduForm
  | ipv4
  | ipv4ExtHdr (qfi : UInt8)
  | ipv6 (room : Memory)

/-- `send_g_pdu` in its three forms. -/
def sendGPdu (form : GPduForm) (teid : UInt32) (packet : IpPacket) : GtpuDatagram :=
  match form with
  | .ipv4 => ⟨mandatoryHeader (gtpFlags false false false false) packet.octets.length teid, packet⟩
  | .ipv4ExtHdr qfi =>
    ⟨mandatoryHeader (gtpFlags true false false false) (packet.octets.length + 4 + 4) teid ++
      (be16 0 ++ [0, GTPU_PDU_SESSION_CONTAINER]) ++
      [1, GTPU_DL_PDU_SESSION_INFORMATION, qfi, GTPU_NO_MORE_EXTENSION_HEADER], packet⟩
  | .ipv6 room =>
    ⟨mandatoryHeader (gtpFlags false false false false) packet.octets.length teid ++ room.read 8 4, packet⟩

/-! ## Well-formed G-PDUs -/

/-- An extension header: its length is a multiple of four octets. -/
structure ExtensionHeader where
  type : UInt8
  content : List UInt8
  type_ne : type ≠ GTPU_NO_MORE_EXTENSION_HEADER
  units : ∃ n, 0 < n ∧ n < 256 ∧ content.length + 2 = 4 * n

/-- The type of the extension header that follows. -/
def nextExtType : List ExtensionHeader → UInt8
  | [] => GTPU_NO_MORE_EXTENSION_HEADER
  | x :: _ => x.type

/-- The octets of a chain of extension headers, each with the type of the next one. -/
def extensionOctets : List ExtensionHeader → List UInt8
  | [] => []
  | x :: xs => UInt8.ofNat ((x.content.length + 2) / 4) :: x.content ++ [nextExtType xs] ++ extensionOctets xs

/-- A G-PDU with its flags. Without the E flag the octet of the next extension header means nothing. -/
structure GPdu where
  e : Bool
  s : Bool
  pn : Bool
  spare : Bool
  teid : UInt32
  sequence : ℕ
  pduNumber : UInt8
  unusedOctet : UInt8
  extensions : List ExtensionHeader
  packet : IpPacket
  noExtensions : e = false → extensions = []

namespace GPdu

variable (g : GPdu)

/-- The optional fields, there when one of the flags is set, and the extension headers. -/
def optionalOctets : List UInt8 :=
  if g.e || g.s || g.pn then
    be16 g.sequence ++ [g.pduNumber, if g.e then nextExtType g.extensions else g.unusedOctet] ++
      extensionOctets g.extensions
  else []

/-- The length that the header gives. -/
def messageLength : ℕ := g.optionalOctets.length + g.packet.octets.length

/-- The octets of a G-PDU. -/
def datagram : GtpuDatagram :=
  ⟨mandatoryHeader (gtpFlags g.e g.s g.pn g.spare) g.messageLength g.teid ++ g.optionalOctets, g.packet⟩

end GPdu

/-! ## What is handed on -/

/-- **The packet of a datagram is handed on**: from where it starts, with its length and its tunnel. -/
def HandsOn (d : GtpuDatagram) (teid : UInt32) (beyond : Memory) : Prop :=
  handleReceive (d.header ++ d.packet.octets) beyond =
      .lookUpPackInAccess d.packet.version d.header.length d.packet.octets.length (some teid) ∧
    (Memory.ofList (d.header ++ d.packet.octets) beyond).read d.header.length d.packet.octets.length =
      d.packet.octets

theorem toNat_be16 (n : ℕ) :
    (UInt8.ofNat (n / 256)).toNat * 256 + (UInt8.ofNat n).toNat = n % 2 ^ 16 := by
  simp only [UInt8.toNat_ofNat']
  omega

theorem gtpPayloadOffset_gtpFlags (e s pn spare : Bool) :
    gtpPayloadOffset (gtpFlags e s pn spare) =
      if e || s || (pn && spare) then 16 else if pn then 12 else 8 := by
  revert e s pn spare
  decide

theorem gtpPayloadLength_gtpFlags (e s pn spare : Bool) (messageLength : ℕ) :
    gtpPayloadLength (gtpFlags e s pn spare) messageLength =
      if e || s || pn then (messageLength + 2 ^ 64 - 4) % 2 ^ 64 else messageLength := by
  unfold gtpPayloadLength
  have hflags : ∀ e s pn spare : Bool, (gtpFlags e s pn spare &&& 0x07 ≠ 0) ↔ (e || s || pn) = true := by
    decide
  rw [if_congr (hflags e s pn spare) rfl rfl]

/-- **Only the position and the length matter.** -/
theorem handsOn_iff_of_header {d : GtpuDatagram} {e s pn spare : Bool} {messageLength : ℕ} {teid : UInt32}
    {rest : List UInt8} (hheader : d.header =
      mandatoryHeader (gtpFlags e s pn spare) messageLength teid ++ rest) (beyond : Memory) :
    HandsOn d teid beyond ↔ gtpPayloadOffset (gtpFlags e s pn spare) = d.header.length ∧
      gtpPayloadLength (gtpFlags e s pn spare) (messageLength % 2 ^ 16) = d.packet.octets.length := by
  have hversion : ∀ e s pn spare : Bool, (gtpFlags e s pn spare).toNat / 32 = 1 := by decide
  have hreceive : handleReceive (d.header ++ d.packet.octets) beyond =
      lookUpPack (Memory.ofList (d.header ++ d.packet.octets) beyond)
        (gtpPayloadOffset (gtpFlags e s pn spare))
        (gtpPayloadLength (gtpFlags e s pn spare) (messageLength % 2 ^ 16)) (some teid) := by
    have hmemory : ∀ a < 8, Memory.ofList (d.header ++ d.packet.octets) beyond a =
        (mandatoryHeader (gtpFlags e s pn spare) messageLength teid).getD a 0 := by
      intro a ha
      have hlength : a < (d.header ++ d.packet.octets).length := by
        rw [hheader, List.length_append, List.length_append]
        exact Nat.lt_of_lt_of_le ha ((Nat.le_add_right 8 _).trans (Nat.le_add_right _ _))
      rw [Memory.ofList_apply _ _ hlength, List.getD_eq_getElem _ _ ha]
      simp only [hheader, List.append_assoc]
      exact List.getElem_append_left ha
    unfold handleReceive
    dsimp only
    rw [hmemory 0 (by decide), hmemory 1 (by decide), hmemory 2 (by decide), hmemory 3 (by decide),
      hmemory 4 (by decide), hmemory 5 (by decide), hmemory 6 (by decide), hmemory 7 (by decide)]
    simp only [mandatoryHeader, be16, be32, List.cons_append, List.nil_append, List.getD_cons_zero,
      List.getD_cons_succ]
    rw [if_pos (hversion e s pn spare), if_pos trivial, toNat_be16, ofBe32_be32]
  have hread : (Memory.ofList (d.header ++ d.packet.octets) beyond).read d.header.length
      d.packet.octets.length = d.packet.octets := by
    rw [Memory.read_ofList _ _ _ _ (by rw [List.length_append])]
    simp
  -- the packet starts with its version
  have hhead : ipVersion (Memory.ofList (d.header ++ d.packet.octets) beyond d.header.length) =
      some d.packet.version := by
    obtain ⟨octet, hoctet, hv⟩ := Option.bind_eq_some_iff.mp d.packet.head
    obtain ⟨octets, hoctets⟩ : ∃ octets, d.packet.octets = octet :: octets := by
      cases h : d.packet.octets with
      | nil => simp [h] at hoctet
      | cons a l =>
        rw [h] at hoctet
        exact ⟨l, by rw [Option.some.inj hoctet]⟩
    rw [hoctets, Memory.ofList_apply _ _ (by simp)]
    simpa using hv
  unfold HandsOn
  rw [and_iff_left hread, hreceive]
  constructor
  · unfold lookUpPack
    split
    · intro h
      injection h with _ hoffset hlength
      exact ⟨hoffset, hlength⟩
    · intro h
      cases h
  · rintro ⟨hoffset, hlength⟩
    unfold lookUpPack
    rw [hoffset, hlength, hhead]

/-- **A sent packet is handed on exactly in the form without extension header**, to an IPv4 peer. -/
theorem sendGPdu_handsOn_iff (form : GPduForm) (teid : UInt32) (packet : IpPacket) (beyond : Memory) :
    HandsOn (sendGPdu form teid packet) teid beyond ↔
      form = .ipv4 ∧ packet.octets.length < 2 ^ 16 := by
  have hsize := packet.size
  cases form with
  | ipv4 =>
    rw [handsOn_iff_of_header (List.append_nil _).symm, gtpPayloadOffset_gtpFlags,
      gtpPayloadLength_gtpFlags]
    have hlength : (sendGPdu .ipv4 teid packet).header.length = 8 := rfl
    have hpacket : (sendGPdu .ipv4 teid packet).packet = packet := rfl
    simp only [hlength, hpacket, Bool.or_self, Bool.false_and, Bool.false_eq_true, if_false, true_and]
    omega
  | ipv4ExtHdr qfi =>
    rw [handsOn_iff_of_header (List.append_assoc _ _ _), gtpPayloadLength_gtpFlags]
    have hpacket : (sendGPdu (.ipv4ExtHdr qfi) teid packet).packet = packet := rfl
    simp only [hpacket, Bool.true_or, if_true, reduceCtorEq, false_and, iff_false, not_and]
    omega
  | ipv6 room =>
    rw [handsOn_iff_of_header rfl, gtpPayloadOffset_gtpFlags]
    have hlength : (sendGPdu (.ipv6 room) teid packet).header.length = 12 := rfl
    simp [hlength]

/-- **A well-formed G-PDU is handed on exactly without extension headers and sequence number.** -/
theorem gPdu_handsOn_iff (g : GPdu) (beyond : Memory) :
    HandsOn g.datagram g.teid beyond ↔
      g.e = false ∧ g.s = false ∧ (g.pn = false ∨ g.spare = false) ∧ g.messageLength < 2 ^ 16 := by
  have hsize := g.packet.size
  rw [handsOn_iff_of_header rfl, gtpPayloadOffset_gtpFlags, gtpPayloadLength_gtpFlags]
  have hheader : g.datagram.header.length = 8 + g.optionalOctets.length := by
    unfold GPdu.datagram
    rw [List.length_append]
    rfl
  have hpacket : g.datagram.packet = g.packet := rfl
  have hlength : g.messageLength = g.optionalOctets.length + g.packet.octets.length := rfl
  have hoptional : g.optionalOctets.length =
      if g.e || g.s || g.pn then 4 + (extensionOctets g.extensions).length else 0 := by
    unfold GPdu.optionalOctets
    by_cases hany : (g.e || g.s || g.pn) = true
    · rw [if_pos hany, if_pos hany, List.length_append, List.length_append]
      rfl
    · rw [if_neg hany, if_neg hany]
      rfl
  have hextensions : g.e = false → (extensionOctets g.extensions).length = 0 := by
    intro he
    rw [g.noExtensions he]
    rfl
  rw [hheader, hpacket]
  by_cases hes : (g.e || g.s) = true
  · -- the position asks for four octets of extension headers, the length for none
    have hany : (g.e || g.s || g.pn) = true := by rw [hes, Bool.true_or]
    have hright : ¬(g.e = false ∧ g.s = false) := by
      rintro ⟨he, hs⟩
      simp [he, hs] at hes
    rw [if_pos hany] at hoptional
    rw [if_pos (by rw [hes, Bool.true_or]), if_pos hany]
    refine iff_of_false (fun ⟨hoffset, hlen⟩ => ?_) fun h => hright ⟨h.1, h.2.1⟩
    omega
  · obtain ⟨he, hs⟩ : g.e = false ∧ g.s = false := by simpa using hes
    have hnone := hextensions he
    cases hpn : g.pn <;> cases hspare : g.spare <;>
      simp only [he, hs, hpn, Bool.or_self, Bool.or_true, Bool.and_true, Bool.and_false, if_true, if_false,
        Bool.false_eq_true, reduceCtorEq, true_or, or_true, or_self, true_and, false_and, and_false,
        iff_false, not_and] at hoptional ⊢ <;>
      omega

/-- **What is handed on as the packet it carries**, of the datagrams sent and of all well-formed G-PDUs. -/
theorem handsOn_iff (form : GPduForm) (teid : UInt32) (packet : IpPacket) (g : GPdu) (beyond : Memory) :
    (HandsOn (sendGPdu form teid packet) teid beyond ↔
      form = .ipv4 ∧ packet.octets.length < 2 ^ 16) ∧
    (HandsOn g.datagram g.teid beyond ↔
      g.e = false ∧ g.s = false ∧ (g.pn = false ∨ g.spare = false) ∧ g.messageLength < 2 ^ 16) :=
  ⟨sendGPdu_handsOn_iff form teid packet beyond, gPdu_handsOn_iff g beyond⟩

/-- An IPv4 header alone, sent with the PDU session container, is not handed on. -/
theorem not_handsOn_ipv4ExtHdr :
    ¬HandsOn (sendGPdu (.ipv4ExtHdr 9) 1
      ⟨[0x45, 0, 0, 20, 0, 0, 0, 0, 64, 17, 0, 0, 12, 1, 1, 2, 12, 1, 1, 3], .ipv4, by decide, by decide⟩)
      1 fun _ => 0 := fun h => by
  have hform := ((sendGPdu_handsOn_iff _ _ _ _).mp h).1
  cases hform

end Oai5g.Upf
