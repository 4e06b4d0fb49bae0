import Oai5g.Lib.Memory
import Oai5g.Lib.Numeral

/-!
# NAS security contexts

The data of `nas_security_context.hpp`, the security header types of a 5GMM message and the inputs
of the ciphering and integrity algorithms.

* `CountT`, `NasSecuCtx`: a security context with its keys, its two NAS counts and its algorithms.
* `NasStreamCipher`, `NasAlgorithms`: what the NEA and NIA functions are given; the functions
  themselves are a parameter of the model. NEA1 and NEA2 XOR the message with a keystream, NIA1 and
  NIA2 compute a 32-bit MAC.
-/

namespace Oai5g.Amf

/-- `NAS_MESSAGE_UPLINK` is `0`, `NAS_MESSAGE_DOWNLINK` is `1`. -/
inductive Direction
  | uplink
  | downlink
  deriving DecidableEq, Repr

/-- `count_t`: a 16-bit overflow counter and an 8-bit sequence number. -/
structure CountT where
  overflow : UInt16
  seqNum : UInt8
  deriving DecidableEq, Repr

/-- The 24-bit NAS COUNT. -/
def CountT.value (c : CountT) : ℕ := c.overflow.toNat * 2 ^ 8 + c.seqNum.toNat

/-- `nas_sc_type_t`. -/
inductive NasScType
  | notAvailable
  | partialNative
  | fullNative
  | mapped
  deriving DecidableEq, Repr

/-- `knas_enc`, `knas_int`: 16 octets. -/
abbrev Key : Type := BitVec 128

/-- `selected_algs`: two 4-bit fields. -/
structure SelectedAlgs where
  encryption : Fin 16
  integrity : Fin 16
  deriving DecidableEq, Repr

/-- `nas_secu_ctx`. -/
structure NasSecuCtx where
  vectorPointer : ℕ
  scType : NasScType
  ngksi : UInt8
  knasEnc : Key
  knasInt : Key
  dlCount : CountT
  ulCount : CountT
  nasAlgs : SelectedAlgs
  deriving DecidableEq, Repr

namespace NasSecuCtx

/-- `std::make_optional<nas_secu_ctx>()`: every field is zero. -/
def zero : NasSecuCtx :=
  { vectorPointer := 0, scType := .notAvailable, ngksi := 0, knasEnc := 0, knasInt := 0,
    dlCount := ⟨0, 0⟩, ulCount := ⟨0, 0⟩, nasAlgs := ⟨0, 0⟩ }

/-- The count of a direction. -/
def count (nsc : NasSecuCtx) : Direction → CountT
  | .uplink => nsc.ulCount
  | .downlink => nsc.dlCount

/-- `nsc.ul_count.seq_num = seq`. -/
def setUlSeqNum (nsc : NasSecuCtx) (seq : UInt8) : NasSecuCtx :=
  { nsc with ulCount := { nsc.ulCount with seqNum := seq } }

/-- `nsc.dl_count.seq_num++`: the 8-bit field wraps, the overflow counter stays. -/
def incDlSeqNum (nsc : NasSecuCtx) : NasSecuCtx :=
  { nsc with dlCount := { nsc.dlCount with seqNum := nsc.dlCount.seqNum + 1 } }

variable (nsc : NasSecuCtx) (seq : UInt8)

@[simp] theorem setUlSeqNum_dlCount : (nsc.setUlSeqNum seq).dlCount = nsc.dlCount := rfl
@[simp] theorem setUlSeqNum_knasEnc : (nsc.setUlSeqNum seq).knasEnc = nsc.knasEnc := rfl
@[simp] theorem setUlSeqNum_knasInt : (nsc.setUlSeqNum seq).knasInt = nsc.knasInt := rfl
@[simp] theorem setUlSeqNum_nasAlgs : (nsc.setUlSeqNum seq).nasAlgs = nsc.nasAlgs := rfl
@[simp] theorem setUlSeqNum_scType : (nsc.setUlSeqNum seq).scType = nsc.scType := rfl
@[simp] theorem incDlSeqNum_ulCount : nsc.incDlSeqNum.ulCount = nsc.ulCount := rfl
@[simp] theorem incDlSeqNum_knasEnc : nsc.incDlSeqNum.knasEnc = nsc.knasEnc := rfl
@[simp] theorem incDlSeqNum_knasInt : nsc.incDlSeqNum.knasInt = nsc.knasInt := rfl
@[simp] theorem incDlSeqNum_nasAlgs : nsc.incDlSeqNum.nasAlgs = nsc.nasAlgs := rfl
@[simp] theorem incDlSeqNum_scType : nsc.incDlSeqNum.scType = nsc.scType := rfl

theorem setUlSeqNum_eq_self_iff : nsc.setUlSeqNum seq = nsc ↔ nsc.ulCount.seqNum = seq := by
  constructor
  · intro h
    have := congrArg (fun c => c.ulCount.seqNum) h
    exact this.symm
  · rintro rfl
    rfl

end NasSecuCtx

/-- `nas_stream_cipher_t` without the message: `key`, `count`, `bearer`, `direction`. -/
structure NasStreamCipher where
  key : Key
  count : ℕ
  bearer : ℕ
  direction : Direction
  deriving DecidableEq, Repr

/-- The class `nas_algorithms`. -/
structure NasAlgorithms where
  /-- The keystream of `nas_stream_encrypt_nea1`. -/
  nea1 : NasStreamCipher → ℕ → UInt8
  /-- The keystream of `nas_stream_encrypt_nea2`. -/
  nea2 : NasStreamCipher → ℕ → UInt8
  /-- `nas_stream_encrypt_nia1`. -/
  nia1 : NasStreamCipher → List UInt8 → UInt32
  /-- `nas_stream_encrypt_nia2`. -/
  nia2 : NasStreamCipher → List UInt8 → UInt32

/-! ## Octets of a protected message -/

/-- `k5gsMobilityManagementMessages`. -/
def k5gsMobilityManagementMessages : UInt8 := 0x7e

/-- `kSecurityProtected5gsNasMessageSequenceNumberOctet`. -/
def kSequenceNumberOctet : ℕ := 6

/-- `kSecurityProtected5gsNasMessageHeaderLength`. -/
def kHeaderLength : ℕ := 7

/-- `SecurityHeaderType_t`. -/
inductive SecurityHeaderType
  | plain5gsMessage
  | integrityProtected
  | integrityProtectedAndCiphered
  | integrityProtectedWithNew5GNASSecurityContext
  | integrityProtectedAndCipheredWithNew5GNASSecurityContext
  deriving DecidableEq, Repr

/-- The value of a security header type in the second octet. -/
def SecurityHeaderType.toUInt8 : SecurityHeaderType → UInt8
  | .plain5gsMessage => 0
  | .integrityProtected => 1
  | .integrityProtectedAndCiphered => 2
  | .integrityProtectedWithNew5GNASSecurityContext => 3
  | .integrityProtectedAndCipheredWithNew5GNASSecurityContext => 4

/-- `amf_n1::check_security_header_type`. -/
def checkSecurityHeaderType (buffer : List UInt8) : Option SecurityHeaderType :=
  match buffer with
  | epd :: octet :: _ =>
    if epd ≠ k5gsMobilityManagementMessages then none
    else match (octet &&& 0x0f).toNat with
      | 0 => some .plain5gsMessage
      | 1 => some .integrityProtected
      | 2 => some .integrityProtectedAndCiphered
      | 3 => some .integrityProtectedWithNew5GNASSecurityContext
      | 4 => some .integrityProtectedAndCipheredWithNew5GNASSecurityContext
      | _ => none
  | _ => none

end Oai5g.Amf
