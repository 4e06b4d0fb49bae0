import Oai5g.Amf.Security.Context

/-!
# Protecting and unprotecting NAS messages

`amf_n1::encode_nas_message_protected`, `nas_message_integrity_protected`,
`nas_message_cipher_protected` and the protected branch of
`amf_n1::handle_itti_message(itti_uplink_nas_data_ind&)`.

A `bstring` is `none` for `NULL`. `beyond` is what the heap holds behind the last octet of a
`bstring`, `stack` what an uninitialised stack buffer holds: NEA1 works on whole words and reads up
to three octets of the first, the sender's buffer starts as the second.
-/

namespace Oai5g.Amf

/-- A `bstring`; `none` is `NULL`. -/
abbrev Bstring : Type := Option (List UInt8)

/-- `blk2bstr`: a negative length gives `NULL`. -/
def blk2bstr (m : Memory) (p : ℕ) (len : ℤ) : Bstring :=
  if len < 0 then none else some (m.read p len.toNat)

/-- The octets an NIA function covers: `blength = input_nas_len * 8` is an unsigned 32-bit number of
bits, so a negative length becomes a huge one. -/
def niaLength (len : ℤ) : ℕ := ((len * 8) % 2 ^ 32).toNat / 8

section

variable (alg : NasAlgorithms)

/-- `amf_n1::nas_message_integrity_protected` on the octets from `p` on. The NIA function is given the
sequence number octet as its count. `none` is the answer `false`. -/
def nasMessageIntegrityProtected (nsc : NasSecuCtx) (direction : Direction) (m : Memory) (p : ℕ)
    (len : ℤ) (mac32 : UInt32) : NasSecuCtx × Option UInt32 :=
  let streamCipher : NasStreamCipher :=
    { key := nsc.knasInt, count := (m p).toNat, bearer := 1, direction := direction }
  let nsc' := match direction with
    | .uplink => nsc.setUlSeqNum (m p)
    | .downlink => nsc
  let message := m.read p (niaLength len)
  match nsc.nasAlgs.integrity.val with
  | 0 => (nsc', none)
  | 1 => (nsc', some (alg.nia1 streamCipher message))
  | 2 => (nsc', some (alg.nia2 streamCipher message))
  | _ => (nsc', some mac32)

/-- The arguments `amf_n1::nas_message_cipher_protected` gives to the NEA functions. -/
def cipherInput (nsc : NasSecuCtx) (direction : Direction) : NasStreamCipher :=
  { key := nsc.knasEnc, count := (nsc.count direction).value, bearer := 1, direction := direction }

/-- `amf_n1::nas_message_cipher_protected`. NEA1 returns whole words, and there a log line reads the
first octet of the message before anything else, so a `NULL` message has no output. An unknown
algorithm leaves the output `NULL`. -/
def nasMessageCipherProtected (beyond : Memory) (nsc : NasSecuCtx) (direction : Direction)
    (inputNas : Bstring) : Bstring :=
  match nsc.nasAlgs.encryption.val with
  | 0 => inputNas
  | 1 => inputNas.map fun buf =>
      xorKeystream (alg.nea1 (cipherInput nsc direction))
        ((Memory.ofList buf beyond).read 0 ((8 * buf.length + 31) / 32 * 4))
  | 2 => some (xorKeystream (alg.nea2 (cipherInput nsc direction)) (inputNas.getD []))
  | _ => none

/-- The sender's common end: the MAC over sequence number and payload is written into the header; with
the null algorithm the plain message replaces the buffer. -/
def sealBuffer (nsc : NasSecuCtx) (buf : Memory) (input : List UInt8) : List UInt8 :=
  match (nasMessageIntegrityProtected alg nsc .downlink buf kSequenceNumberOctet
      (input.length + 1) 0).2 with
  | none => (buf.write 0 input).read 0 input.length
  | some mac32 => (buf.write 2 (be32 mac32)).read 0 (kHeaderLength + input.length)

/-- `amf_n1::encode_nas_message_protected`. Every caller passes `NAS_MESSAGE_DOWNLINK`, and the
function uses no other direction. The first component is the context afterwards, the second the
`protected_nas` the caller sees. -/
def encodeNasMessageProtected (stack beyond : Memory) (nsc : NasSecuCtx) (isSecuCtxNew : Bool)
    (securityHeaderType : SecurityHeaderType) (input : List UInt8) : NasSecuCtx × Bstring :=
  match securityHeaderType with
  | .integrityProtectedAndCiphered =>
    let ciphered := nasMessageCipherProtected alg beyond nsc .downlink (some input)
    let buf := stack.write 0
      [k5gsMobilityManagementMessages, SecurityHeaderType.integrityProtectedAndCiphered.toUInt8]
    let buf := buf.write kSequenceNumberOctet [nsc.dlCount.seqNum]
    let buf := buf.write kHeaderLength (ciphered.getD [])
    (nsc.incDlSeqNum, some (sealBuffer alg nsc buf input))
  | .integrityProtectedWithNew5GNASSecurityContext =>
    if !isSecuCtxNew then (nsc, none)
    else
      let buf := stack.write 0 [k5gsMobilityManagementMessages,
        SecurityHeaderType.integrityProtectedWithNew5GNASSecurityContext.toUInt8]
      let buf := buf.write kSequenceNumberOctet [nsc.dlCount.seqNum]
      let buf := buf.write kHeaderLength input
      (nsc.incDlSeqNum, some (sealBuffer alg nsc buf input))
  | _ => (nsc.incDlSeqNum, some [])

/-- `ntohl` of the four octets from octet 2 on. -/
def receivedMac (m : Memory) : UInt32 := ofBe32 (m 2) (m 3) (m 4) (m 5)

/-- The outcome of the protected branch of `handle_itti_message`: whether a MAC was compared and
matched, and the deciphered message. -/
structure Unprotected where
  isMatched : Bool
  decodedPlainMsg : Bstring
  deriving DecidableEq, Repr

/-- The branch of `handle_itti_message` for the header types 2, 3 and 4: the MAC over the octets from
the sequence number on, then the octets behind the header are deciphered. `none` is the early return
for a MAC that does not match. -/
def unprotectNasMessage (beyond : Memory) (nsc : NasSecuCtx) (direction : Direction)
    (received : List UInt8) : NasSecuCtx × Option Unprotected :=
  let m := Memory.ofList received beyond
  let (nsc', mac) := nasMessageIntegrityProtected alg nsc direction m kSequenceNumberOctet
    (received.length - kSequenceNumberOctet : ℤ) 0
  let ciphered := blk2bstr m kHeaderLength (received.length - kHeaderLength : ℤ)
  match mac with
  | none => (nsc', some ⟨false, nasMessageCipherProtected alg beyond nsc' direction ciphered⟩)
  | some mac32 =>
    if mac32 = receivedMac m then
      (nsc', some ⟨true, nasMessageCipherProtected alg beyond nsc' direction ciphered⟩)
    else (nsc', none)

end

/-! ## What the two primitives change -/

section

variable {alg : NasAlgorithms}

theorem nasMessageIntegrityProtected_uplink (nsc : NasSecuCtx) (m : Memory) (p : ℕ) (len : ℤ)
    (mac32 : UInt32) :
    (nasMessageIntegrityProtected alg nsc .uplink m p len mac32).1 = nsc.setUlSeqNum (m p) := by
  unfold nasMessageIntegrityProtected
  dsimp only
  split <;> rfl

@[simp] theorem nasMessageIntegrityProtected_downlink (nsc : NasSecuCtx) (m : Memory) (p : ℕ)
    (len : ℤ) (mac32 : UInt32) :
    (nasMessageIntegrityProtected alg nsc .downlink m p len mac32).1 = nsc := by
  unfold nasMessageIntegrityProtected
  dsimp only
  split <;> rfl

theorem nasMessageIntegrityProtected_eq_none_iff (nsc : NasSecuCtx) (direction : Direction)
    (m : Memory) (p : ℕ) (len : ℤ) (mac32 : UInt32) :
    (nasMessageIntegrityProtected alg nsc direction m p len mac32).2 = none ↔
      nsc.nasAlgs.integrity = 0 := by
  rw [← Fin.val_eq_zero_iff]
  unfold nasMessageIntegrityProtected
  dsimp only
  split <;> simp_all

theorem niaLength_natCast {n : ℕ} (h : n < 2 ^ 29) : niaLength n = n := by
  unfold niaLength
  omega

end

end Oai5g.Amf
