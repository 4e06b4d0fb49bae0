import Oai5g.Amf.Security.Protection

/-!
# What a protected message carries back

`encode_nas_message_protected` and the receive branch of `handle_itti_message` on the same keys, count
and direction.

* `encode_layout`: with a non-null integrity algorithm the sender's message is header, MAC, sequence
  number and the first `n` ciphered octets.
* `unprotect_layout`: the receiver accepts exactly this layout and deciphers the `n` octets.
* `decipher_cipher`: deciphering gives back the message, for NEA1 followed by the rest of a word.
* **`roundTrips_iff`**: the message comes back iff it was integrity protected and, under NEA1, ends on
  a word boundary.
-/

namespace Oai5g.Amf

variable {alg : NasAlgorithms} {stack beyond beyond' : Memory} {nsc : NasSecuCtx}

/-! ## The sender's buffer -/

/-- Header, MAC, sequence number and payload. -/
def protectedMessage (type : SecurityHeaderType) (mac32 : UInt32) (seq : UInt8)
    (payload : List UInt8) : List UInt8 :=
  [k5gsMobilityManagementMessages, type.toUInt8] ++ (be32 mac32 ++ (seq :: payload))

theorem length_protectedMessage (type : SecurityHeaderType) (mac32 : UInt32) (seq : UInt8)
    (payload : List UInt8) :
    (protectedMessage type mac32 seq payload).length = kHeaderLength + payload.length := by
  simp [protectedMessage, kHeaderLength]
  omega

/-- The buffer after the header octets, the sequence number and the payload were written. -/
def senderBuffer (stack : Memory) (header : List UInt8) (seq : UInt8) (payload : List UInt8) :
    Memory :=
  ((stack.write 0 header).write kSequenceNumberOctet [seq]).write kHeaderLength payload

section Buffer

variable {header payload : List UInt8} (hh : header.length = 2) (seq : UInt8) {n : ℕ}
  (hn : n ≤ payload.length)

theorem senderBuffer_seq : senderBuffer stack header seq payload kSequenceNumberOctet = seq := by
  unfold senderBuffer kSequenceNumberOctet kHeaderLength
  rw [Memory.write_apply_of_disjoint _ _ _ (by omega)]
  simp [Memory.write]

include hn in
theorem senderBuffer_read_seq :
    (senderBuffer stack header seq payload).read kSequenceNumberOctet (n + 1) =
      seq :: payload.take n := by
  rw [Nat.add_comm, Memory.read_add, Memory.read_one, senderBuffer_seq]
  unfold senderBuffer kSequenceNumberOctet kHeaderLength
  rw [Memory.read_write_take _ _ _ hn]
  rfl

include hh hn in
theorem senderBuffer_write_mac (mac32 : UInt32) :
    ((senderBuffer stack header seq payload).write 2 (be32 mac32)).read 0 (kHeaderLength + n) =
      header ++ (be32 mac32 ++ (seq :: payload.take n)) := by
  rw [show kHeaderLength + n = 2 + (4 + (n + 1)) by simp [kHeaderLength]; omega,
    Memory.read_add, Memory.read_add]
  have h₁ : ((senderBuffer stack header seq payload).write 2 (be32 mac32)).read 0 2 = header := by
    unfold senderBuffer kSequenceNumberOctet kHeaderLength
    rw [Memory.read_write_of_disjoint _ _ _ _ _ (by simp),
      Memory.read_write_of_disjoint _ _ _ _ _ (by omega),
      Memory.read_write_of_disjoint _ _ _ _ _ (by omega), ← hh, Memory.read_write_self]
  have h₂ : ((senderBuffer stack header seq payload).write 2 (be32 mac32)).read (0 + 2) 4 =
      be32 mac32 := Memory.read_write_self _ _ _
  have h₃ : ((senderBuffer stack header seq payload).write 2 (be32 mac32)).read (0 + 2 + 4) (n + 1) =
      seq :: payload.take n := by
    rw [Memory.read_write_of_disjoint _ _ _ _ _ (by simp)]
    exact senderBuffer_read_seq seq hn
  rw [h₁, h₂, h₃]

end Buffer

/-! ## The two sides on one layout -/

/-- The MAC of a sequence number and a payload. -/
def macOf (alg : NasAlgorithms) (nsc : NasSecuCtx) (direction : Direction) (seq : UInt8)
    (payload : List UInt8) : Option UInt32 :=
  (nasMessageIntegrityProtected alg nsc direction (Memory.ofList (seq :: payload) fun _ => 0) 0
    (payload.length + 1 : ℕ) 0).2

theorem macOf_eq_none_iff (direction : Direction) (seq : UInt8) (payload : List UInt8) :
    macOf alg nsc direction seq payload = none ↔ nsc.nasAlgs.integrity = 0 :=
  nasMessageIntegrityProtected_eq_none_iff _ _ _ _ _ _

theorem nasMessageIntegrityProtected_eq_macOf {direction : Direction} {m : Memory} {p : ℕ}
    {seq : UInt8} {payload : List UInt8} (hlen : payload.length + 1 < 2 ^ 29) (hp : m p = seq)
    (h : m.read p (payload.length + 1) = seq :: payload) :
    (nasMessageIntegrityProtected alg nsc direction m p (payload.length + 1 : ℕ) 0).2 =
      macOf alg nsc direction seq payload := by
  have h₀ : Memory.ofList (seq :: payload) (fun _ => 0) 0 = seq := rfl
  have h₁ := Memory.read_ofList_all (seq :: payload) (fun _ => 0)
  unfold macOf nasMessageIntegrityProtected
  rw [niaLength_natCast hlen, hp, h, h₀]
  rw [show (seq :: payload).length = payload.length + 1 from rfl] at h₁
  rw [h₁]

/-- **The sender's message.** -/
theorem encode_layout (stack : Memory) {msg ciphered : List UInt8} (hfit : kHeaderLength + msg.length ≤ 4096)
    (hc : nasMessageCipherProtected alg beyond nsc .downlink (some msg) = some ciphered)
    (hlen : msg.length ≤ ciphered.length) {mac32 : UInt32}
    (hmac : macOf alg nsc .downlink nsc.dlCount.seqNum (ciphered.take msg.length) = some mac32) :
    (encodeNasMessageProtected alg stack beyond nsc false .integrityProtectedAndCiphered msg).2 =
      some (protectedMessage .integrityProtectedAndCiphered mac32 nsc.dlCount.seqNum
        (ciphered.take msg.length)) := by
  have htake : (ciphered.take msg.length).length = msg.length := by simp [hlen]
  have hm : (nasMessageIntegrityProtected alg nsc .downlink
      (senderBuffer stack [k5gsMobilityManagementMessages,
        SecurityHeaderType.integrityProtectedAndCiphered.toUInt8] nsc.dlCount.seqNum ciphered)
      kSequenceNumberOctet (msg.length + 1 : ℕ) 0).2 = some mac32 := by
    rw [← hmac, ← nasMessageIntegrityProtected_eq_macOf
      (m := senderBuffer stack [k5gsMobilityManagementMessages,
        SecurityHeaderType.integrityProtectedAndCiphered.toUInt8] nsc.dlCount.seqNum ciphered)
      (p := kSequenceNumberOctet), htake]
    · rw [htake]; unfold kHeaderLength at hfit; omega
    · exact senderBuffer_seq _
    · rw [htake]; exact senderBuffer_read_seq _ hlen
  simp only [encodeNasMessageProtected, hc, Option.getD_some, sealBuffer]
  unfold senderBuffer at hm
  rw [show ((msg.length : ℤ) + 1) = ((msg.length + 1 : ℕ) : ℤ) from rfl, hm]
  exact congrArg some (senderBuffer_write_mac rfl _ hlen mac32)

/-- The context after the receiver computed the MAC of a message with this sequence number. -/
def afterMac (nsc : NasSecuCtx) (direction : Direction) (seq : UInt8) : NasSecuCtx :=
  match direction with
  | .uplink => nsc.setUlSeqNum seq
  | .downlink => nsc

theorem nasMessageIntegrityProtected_fst (direction : Direction) (m : Memory) (p : ℕ) (len : ℤ)
    (mac32 : UInt32) : (nasMessageIntegrityProtected alg nsc direction m p len mac32).1 =
      afterMac nsc direction (m p) := by
  cases direction
  · exact nasMessageIntegrityProtected_uplink _ _ _ _ _
  · exact nasMessageIntegrityProtected_downlink _ _ _ _ _

/-- **The receiver on a message of this layout.** -/
theorem unprotect_layout (beyond : Memory) (type : SecurityHeaderType) {direction : Direction}
    {seq : UInt8} {payload : List UInt8} (hfit : kHeaderLength + payload.length ≤ 4096) {mac32 : UInt32}
    (hmac : macOf alg nsc direction seq payload = some mac32) :
    (unprotectNasMessage alg beyond nsc direction (protectedMessage type mac32 seq payload)).2 =
      some ⟨true, nasMessageCipherProtected alg beyond (afterMac nsc direction seq) direction
        (some payload)⟩ := by
  set received := protectedMessage type mac32 seq payload with hr
  set m := Memory.ofList received beyond
  have hl : received.length = kHeaderLength + payload.length := length_protectedMessage _ _ _ _
  have hseq : m kSequenceNumberOctet = seq := rfl
  have hmacRecv : receivedMac m = mac32 := ofBe32_be32 mac32
  have hread : m.read kSequenceNumberOctet (payload.length + 1) = seq :: payload := by
    rw [Memory.read_ofList _ _ _ _ (by rw [hl]; unfold kSequenceNumberOctet kHeaderLength; omega)]
    exact List.take_length (l := seq :: payload)
  have hpay : blk2bstr m kHeaderLength (received.length - kHeaderLength : ℤ) = some payload := by
    unfold blk2bstr
    rw [if_neg (by rw [hl]; omega), show ((received.length : ℤ) - kHeaderLength).toNat =
      payload.length by rw [hl]; omega, Memory.read_ofList _ _ _ _ (by omega)]
    change some (payload.take payload.length) = _
    rw [List.take_length]
  have hlen : ((received.length : ℤ) - kSequenceNumberOctet) = (payload.length + 1 : ℕ) := by
    rw [hl]; unfold kSequenceNumberOctet kHeaderLength; omega
  have hok : (nasMessageIntegrityProtected alg nsc direction m kSequenceNumberOctet
      (payload.length + 1 : ℕ) 0).2 = some mac32 := by
    rw [← hmac]
    exact nasMessageIntegrityProtected_eq_macOf (by unfold kHeaderLength at hfit; omega) hseq hread
  unfold unprotectNasMessage
  dsimp only
  rw [hlen, hok, hpay, nasMessageIntegrityProtected_fst]
  change (if mac32 = receivedMac m then _ else _ : NasSecuCtx × Option Unprotected).2 = _
  rw [if_pos hmacRecv.symm]
  rfl

/-! ## Deciphering what was ciphered -/

/-- The number of octets the cipher returns for a message of `n` octets. -/
def cipherLength (nsc : NasSecuCtx) (n : ℕ) : ℕ :=
  if nsc.nasAlgs.encryption = 1 then (8 * n + 31) / 32 * 4 else n

theorem le_cipherLength (nsc : NasSecuCtx) (n : ℕ) : n ≤ cipherLength nsc n := by
  unfold cipherLength
  split_ifs <;> omega

theorem cipherLength_eq_iff (n : ℕ) :
    cipherLength nsc n = n ↔ (nsc.nasAlgs.encryption = 1 → 4 ∣ n) := by
  unfold cipherLength
  split_ifs with h
  · simp only [h, true_imp_iff]; omega
  · simp [h]

theorem encryption_cases {nsc : NasSecuCtx} (h : nsc.nasAlgs.encryption.val ≤ 2) :
    nsc.nasAlgs.encryption = 0 ∨ nsc.nasAlgs.encryption = 1 ∨ nsc.nasAlgs.encryption = 2 := by
  omega

/-- **NEA0, NEA1 and NEA2 as one XOR** over the message followed by what lies behind it. -/
theorem cipher_eq (alg : NasAlgorithms) (he : nsc.nasAlgs.encryption.val ≤ 2) (direction : Direction) :
    ∃ ks : ℕ → UInt8, ∀ (beyond : Memory) (msg : List UInt8),
      nasMessageCipherProtected alg beyond nsc direction (some msg) =
        some (xorKeystream ks ((Memory.ofList msg beyond).read 0 (cipherLength nsc msg.length))) := by
  unfold nasMessageCipherProtected cipherLength
  rcases encryption_cases he with h | h | h <;> rw [h]
  · refine ⟨fun _ => 0, fun beyond msg => ?_⟩
    rw [if_neg (by decide), Memory.read_ofList_all, xorKeystream_zero]
    rfl
  · exact ⟨alg.nea1 (cipherInput nsc direction), fun beyond msg => rfl⟩
  · refine ⟨alg.nea2 (cipherInput nsc direction), fun beyond msg => ?_⟩
    rw [if_neg (by decide), Memory.read_ofList_all]
    rfl

/-- **Deciphering the first `n` ciphered octets** gives the message, behind it the rest of the last
word. -/
theorem decipher_cipher (alg : NasAlgorithms) (beyond beyond' : Memory)
    (he : nsc.nasAlgs.encryption.val ≤ 2) (direction : Direction) (msg : List UInt8) : ∃ ciphered, ∃ rest : List UInt8,
      nasMessageCipherProtected alg beyond nsc direction (some msg) = some ciphered ∧
      msg.length ≤ ciphered.length ∧
      nasMessageCipherProtected alg beyond' nsc direction (some (ciphered.take msg.length)) =
        some (msg ++ rest) ∧ msg.length + rest.length = cipherLength nsc msg.length := by
  obtain ⟨ks, hks⟩ := cipher_eq alg he direction
  set n := msg.length with hn
  set ciphered := xorKeystream ks ((Memory.ofList msg beyond).read 0 (cipherLength nsc n)) with hc
  have hle := le_cipherLength nsc n
  have hcl : ciphered.length = cipherLength nsc n := by simp [hc]
  have htake : ciphered.take n = xorKeystream ks msg := by
    rw [hc, xorKeystream_take, Memory.take_read _ _ _ hle, hn, Memory.read_ofList_all]
  have hlen : (ciphered.take n).length = n := by rw [htake, length_xorKeystream]
  set plain := xorKeystream ks ((Memory.ofList (ciphered.take n) beyond').read 0
    (cipherLength nsc n)) with hp
  have hfront : plain.take n = msg := by
    rw [hp, xorKeystream_take, Memory.take_read _ _ _ hle]
    have := Memory.read_ofList_all (ciphered.take n) beyond'
    rw [hlen] at this
    rw [this, htake, xorKeystream_xorKeystream]
  refine ⟨ciphered, plain.drop n, hks _ _, by omega, ?_, ?_⟩
  · rw [hks, hlen, ← hp]
    conv_lhs => rw [← List.take_append_drop n plain, hfront]
  · simp [hp]
    omega

/-! ## The round trip -/

/-- The receive steps on what the sender produced verify the MAC and give back the message. -/
def RoundTrips (alg : NasAlgorithms) (stack beyond beyond' : Memory) (nsc : NasSecuCtx)
    (msg : List UInt8) : Prop :=
  ∃ sent, (encodeNasMessageProtected alg stack beyond nsc false .integrityProtectedAndCiphered
      msg).2 = some sent ∧
    (unprotectNasMessage alg beyond' nsc .downlink sent).2 = some ⟨true, some msg⟩

theorem not_roundTrips_of_null (hi : nsc.nasAlgs.integrity = 0) (msg : List UInt8) :
    ¬ RoundTrips alg stack beyond beyond' nsc msg := by
  rintro ⟨sent, -, h⟩
  unfold unprotectNasMessage at h
  dsimp only at h
  rw [(nasMessageIntegrityProtected_eq_none_iff _ _ _ _ _ _).mpr hi] at h
  simp at h

theorem roundTrips_iff_cipherLength (hi : nsc.nasAlgs.integrity ≠ 0)
    (he : nsc.nasAlgs.encryption.val ≤ 2) (msg : List UInt8)
    (hfit : kHeaderLength + msg.length ≤ 4096) :
    RoundTrips alg stack beyond beyond' nsc msg ↔ cipherLength nsc msg.length = msg.length := by
  obtain ⟨ciphered, rest, hc, hlen, hplain, hrest⟩ :=
    decipher_cipher alg beyond beyond' he .downlink msg
  set payload := ciphered.take msg.length with hp
  have hpl : payload.length = msg.length := by simp [hp, hlen]
  obtain ⟨mac32, hmac⟩ : ∃ mac32, macOf alg nsc .downlink nsc.dlCount.seqNum payload = some mac32 :=
    Option.ne_none_iff_exists'.mp fun h => hi ((macOf_eq_none_iff _ _ _).mp h)
  have hsent := encode_layout stack hfit hc hlen hmac
  have hrecv := unprotect_layout beyond' .integrityProtectedAndCiphered
    (by rw [hpl]; exact hfit) hmac
  rw [afterMac, hplain] at hrecv
  have hrest' : msg ++ rest = msg ↔ cipherLength nsc msg.length = msg.length := by
    rw [← List.length_eq_zero_iff.trans List.append_right_eq_self.symm]
    omega
  rw [← hrest']
  constructor
  · rintro ⟨sent, h₁, h₂⟩
    obtain rfl := Option.some.inj (hsent.symm.trans h₁)
    simpa using hrecv.symm.trans h₂
  · intro h
    exact ⟨_, hsent, by rw [hrecv, h]⟩

/-- **A protected message comes back exactly iff** the integrity algorithm is not the null one and,
under NEA1, the message ends on a word boundary. -/
theorem roundTrips_iff (alg : NasAlgorithms) (stack beyond beyond' : Memory) (nsc : NasSecuCtx)
    (he : nsc.nasAlgs.encryption.val ≤ 2) (msg : List UInt8)
    (hfit : kHeaderLength + msg.length ≤ 4096) :
    RoundTrips alg stack beyond beyond' nsc msg ↔
      nsc.nasAlgs.integrity ≠ 0 ∧ (nsc.nasAlgs.encryption = 1 → 4 ∣ msg.length) := by
  by_cases hn : nsc.nasAlgs.integrity = 0
  · simp [hn, not_roundTrips_of_null hn]
  · rw [roundTrips_iff_cipherLength hn he msg hfit, cipherLength_eq_iff]
    simp [hn]

/-- A context with NIA2 and NEA1. -/
def nia2Nea1 : NasSecuCtx :=
  { NasSecuCtx.zero with scType := .fullNative, nasAlgs := { encryption := 1, integrity := 2 } }

/-- Keystreams and MACs for runs on fixed inputs. -/
def sampleAlgorithms : NasAlgorithms where
  nea1 c i := UInt8.ofNat (c.count + i)
  nea2 c i := UInt8.ofNat (c.count + i)
  nia1 _ message := UInt32.ofNat message.length
  nia2 _ message := UInt32.ofNat message.length

theorem roundTrips_four_octets : RoundTrips sampleAlgorithms (fun _ => 0) (fun _ => 0) (fun _ => 0)
    nia2Nea1 [0x7e, 0x00, 0x54, 0x43] :=
  (roundTrips_iff _ _ _ _ _ (by decide) _ (by decide)).mpr (by decide)

/-- Three octets under NEA1 come back as four. -/
theorem not_roundTrips_three_octets : ¬ RoundTrips sampleAlgorithms (fun _ => 0) (fun _ => 0)
    (fun _ => 0) nia2Nea1 [0x7e, 0x00, 0x54] := by
  rw [roundTrips_iff_cipherLength (by decide) (by decide) _ (by decide)]
  decide

end Oai5g.Amf
