import Oai5g.Smf.Pco

/-!
# The response to protocol configuration options

* `answerOf`, `pushAll`: the container that answers one of the request, and the response that they make up.
* `Answered`: counts, lengths and IPCP containers of a response are as they should be.
* `Walks`, `AnswerFits`: what the IPCP containers of a request have to be.
* `answered_iff`: the request is answered, and as it should be, exactly if they are.
-/

namespace Oai5g.Smf

/-! ## What is asked of a response -/

/-- The second octet of an option is its length. -/
def WellFormedOption (o : List UInt8) : Prop := o[1]?.map UInt8.toNat = some o.length

/-- The two octets behind code and identifier. -/
def innerLength (contents : List UInt8) : Option ℕ := do
  let high ← contents[2]?
  let low ← contents[3]?
  return 256 * high.toNat + low.toNat

/-- The option has the address. -/
def Requests (configured : UInt32) (o : List UInt8) : Prop := (o.drop 2).take 4 = addressOctets configured

/-- An option for the address of the primary DNS server. -/
def IsPrimary (o : List UInt8) : Prop := o.head? = some primaryDnsOption

instance (o : List UInt8) : Decidable (IsPrimary o) := by unfold IsPrimary; infer_instance

/-- **The answer to an IPCP container**: the inner length is that of the whole, the options are well formed, and it
acknowledges no DNS address but the configured one. -/
structure IpcpOk (configured : UInt32) (q r : PcoContainer) : Prop where
  length : innerLength r.protocolIdContents = some r.protocolIdContents.length
  options : ∃ opts : List (List UInt8), r.protocolIdContents.drop 4 = opts.flatten ∧ ∀ o ∈ opts, WellFormedOption o
  ack : r.protocolIdContents.head? = some configureAck →
    ∀ opts, ipcpOptions (q.protocolIdContents.drop 4) = some opts → ∀ o ∈ opts, IsPrimary o → Requests configured o

/-- The answer to a container: for IPCP, and only there, an IPCP container as it should be. -/
structure AnswerOk (configured : UInt32) (q r : PcoContainer) : Prop where
  ipcp_iff : r.protocolId = ipcpIdentifier ↔ q.protocolId = ipcpIdentifier
  ipcpOk : q.protocolId = ipcpIdentifier → IpcpOk configured q r

/-- The containers that have an answer. -/
def PcoContainer.supported (q : PcoContainer) : Bool :=
  q.protocolId = ipcpIdentifier || (pcoAnswer? q.protocolId).isSome

/-- The containers of the request that are answered: as many as the response can have. -/
def PcoRequest.answered (req : PcoRequest) : List PcoContainer :=
  (req.protocolOrContainerIds.filter PcoContainer.supported).take maximumContainers

/-- **A response as it should be**: count and lengths are right, and it has the answers in the order of the request and
behind them no IPCP container. -/
structure Answered (configured : UInt32) (req : PcoRequest) (resp : ProtocolConfigurationOptions) : Prop where
  sound : resp.Sound
  answers : ∃ rs forced, resp.protocolOrContainerIds = rs ++ forced ∧
    List.Forall₂ (AnswerOk configured) req.answered rs ∧ ∀ c ∈ forced, c.protocolId ≠ ipcpIdentifier

/-! ## What a request has to be -/

/-- Behind the four octets of the header the lengths of the options lead to the end. -/
def Walks (contents : List UInt8) : Prop :=
  4 ≤ contents.length ∧ ∃ opts, ipcpOptions (contents.drop 4) = some opts

/-- The option is read as the configured address. -/
def ReadAsConfigured (configured : UInt32) (o : List UInt8) : Prop :=
  configured ≠ 0 ∧ addressAt o 2 = some configured

/-- There are at most 41 primary DNS addresses, and if all that are complete are read as the configured one, then all
are complete and are the configured one. -/
def AnswerFits (configured : UInt32) (contents : List UInt8) : Prop :=
  ∀ opts, ipcpOptions (contents.drop 4) = some opts → opts.countP IsPrimary ≤ 41 ∧
    ((∀ o ∈ opts, IsPrimary o → 6 ≤ o.length → ReadAsConfigured configured o) →
      ∀ o ∈ opts, IsPrimary o → Requests configured o)

/-- What the IPCP containers have to be: all can be gone through, and the answers of those that have one fit. -/
structure PcoRequest.Ok (configured : UInt32) (req : PcoRequest) : Prop where
  walks : ∀ q ∈ req.protocolOrContainerIds, q.protocolId = ipcpIdentifier → Walks q.protocolIdContents
  fits : ∀ q ∈ req.answered, q.protocolId = ipcpIdentifier → AnswerFits configured q.protocolIdContents

/-! ## The answer to the options -/

variable {configured : UInt32} {out : IpcpOut} {o : List UInt8} {opts : List (List UInt8)}

theorem takeOption_of_isPrimary (h : IsPrimary o) : takeOption configured out o =
    out.primaryDns configured (if 6 ≤ o.length then addressAt o 2 else none) := if_pos h

theorem takeOption_of_not_isPrimary (h : ¬ IsPrimary o) : takeOption configured out o = out := if_neg h

/-- The code stays at acknowledge for no address and for the configured one, unless that is `0`. -/
theorem primaryDns_outCode {requested : Option UInt32} :
    (out.primaryDns configured requested).outCode = configureAck ↔
      out.outCode = configureAck ∧ ∀ a, requested = some a → configured ≠ 0 ∧ a = configured := by
  have hnack : configureNack ≠ configureAck := by decide
  unfold IpcpOut.primaryDns
  cases requested with
  | none => simp
  | some a =>
    by_cases h0 : a = 0
    · simp only [h0, if_true, hnack, Option.some.injEq, forall_eq', false_iff, not_and]
      exact fun _ hne => hne.symm
    · by_cases hne : configured = a
      · subst hne
        simp [h0]
      · simp [h0, hne, hnack, Ne.symm hne]

theorem takeOption_outCode : (takeOption configured out o).outCode = configureAck ↔
    out.outCode = configureAck ∧ (IsPrimary o → 6 ≤ o.length → ReadAsConfigured configured o) := by
  by_cases hprimary : IsPrimary o
  · rw [takeOption_of_isPrimary hprimary, primaryDns_outCode]
    by_cases hlen : 6 ≤ o.length
    · obtain ⟨a, ha⟩ : ∃ a, addressAt o 2 = some a := exists_addressAt (by omega)
      simp [hprimary, hlen, ReadAsConfigured, ha]
    · simp [hlen]
  · simp [takeOption_of_not_isPrimary hprimary, hprimary]

theorem foldl_outCode (configured : UInt32) (opts : List (List UInt8)) (out : IpcpOut) :
    (opts.foldl (takeOption configured) out).outCode = configureAck ↔
    out.outCode = configureAck ∧
      ∀ o ∈ opts, IsPrimary o → 6 ≤ o.length → ReadAsConfigured configured o := by
  induction opts generalizing out with
  | nil => simp
  | cons o opts ih =>
    rw [List.foldl_cons, ih, takeOption_outCode, List.forall_mem_cons, and_assoc]

theorem primaryDns_adds (configured : UInt32) (requested : Option UInt32) (out : IpcpOut) : ∃ a,
    (out.primaryDns configured requested).outLength = (out.outLength + 6) % 2 ^ 16 ∧
      (out.primaryDns configured requested).options = out.options ++ ([primaryDnsOption, 6] ++ addressOctets a) := by
  unfold IpcpOut.primaryDns
  cases requested with
  | none => exact ⟨out.outDnsPrimIpv4Addr, rfl, List.append_assoc _ _ _⟩
  | some a =>
    by_cases h0 : a = 0
    · exact ⟨configured, by simp [h0], by simp [h0]⟩
    · by_cases hne : configured = a
      · exact ⟨a, by simp [h0, hne], by simp [h0, hne]⟩
      · exact ⟨configured, by simp [h0, hne], by simp [h0, hne]⟩

/-- **Length and octets of the answer**: six for each primary DNS address. -/
theorem foldl_options (configured : UInt32) (opts : List (List UInt8)) (hlength : out.outLength < 2 ^ 16) :
    (opts.foldl (takeOption configured) out).outLength = (out.outLength + 6 * opts.countP IsPrimary) % 2 ^ 16 ∧
      ∃ added : List (List UInt8), (opts.foldl (takeOption configured) out).options = out.options ++ added.flatten ∧
        added.length = opts.countP IsPrimary ∧ ∀ o ∈ added, o.length = 6 ∧ WellFormedOption o := by
  induction opts generalizing out with
  | nil => exact ⟨(Nat.mod_eq_of_lt hlength).symm, [], by simp, rfl, by simp⟩
  | cons o opts ih =>
    rw [List.foldl_cons]
    by_cases h : IsPrimary o
    · rw [takeOption_of_isPrimary h, List.countP_cons_of_pos (by simpa using h)]
      obtain ⟨a, hlen, hoptions⟩ :=
        primaryDns_adds configured (if 6 ≤ o.length then addressAt o 2 else none) out
      have hlt : (out.outLength + 6) % 2 ^ 16 < 2 ^ 16 := Nat.mod_lt _ (by norm_num)
      rw [← hlen] at hlt
      obtain ⟨hlen', added, hoptions', hcount, hall⟩ := ih hlt
      refine ⟨?_, ([primaryDnsOption, 6] ++ addressOctets a) :: added, ?_, ?_, ?_⟩
      · rw [hlen', hlen, Nat.mod_add_mod]
        congr 1
        omega
      · rw [hoptions', hoptions, List.flatten_cons, List.append_assoc]
      · rw [List.length_cons, hcount]
      · rw [List.forall_mem_cons]
        exact ⟨⟨rfl, rfl⟩, hall⟩
    · rw [takeOption_of_not_isPrimary h, List.countP_cons_of_neg (by simpa using h)]
      exact ih hlength

/-! ## The answer to an IPCP container -/

variable {q c : PcoContainer} {n : ℕ} {resp : ProtocolConfigurationOptions} {req : PcoRequest}

/-- The answer to an IPCP container whose options can be gone through. -/
def ipcpAnswer (configured : UInt32) (q : PcoContainer) : PcoContainer :=
  ipcpContainer (q.protocolIdContents[1]?.getD 0)
    (((ipcpOptions (q.protocolIdContents.drop 4)).getD []).foldl (takeOption configured) {})

theorem processPcoRequestIpcp_eq_map (h4 : 4 ≤ q.protocolIdContents.length)
    (hlength : q.lengthOfProtocolIdContents.toNat = q.protocolIdContents.length) :
    processPcoRequestIpcp n configured resp q =
      (ipcpLoop configured q.protocolIdContents n ⟨4, q.protocolIdContents.length - 4, {}⟩).map fun r =>
        r.map fun s => resp.push (ipcpContainer (q.protocolIdContents[1]?.getD 0) s.out) := by
  have hlt : q.lengthOfProtocolIdContents.toNat < 256 := q.lengthOfProtocolIdContents.toNat_lt
  have hremaining : (q.lengthOfProtocolIdContents.toNat + (2 ^ 64 - 4)) % 2 ^ 64 =
      q.protocolIdContents.length - 4 := by omega
  unfold processPcoRequestIpcp
  simp only [hremaining]
  obtain ⟨a, b, c, d, rest, hcontents⟩ : ∃ a b c d rest, q.protocolIdContents = a :: b :: c :: d :: rest := by
    match q.protocolIdContents, h4 with
    | a :: b :: c :: d :: rest, _ => exact ⟨a, b, c, d, rest, rfl⟩
  rw [hcontents]
  rfl

theorem processPcoRequestIpcp_of_short (h4 : q.protocolIdContents.length < 4) :
    processPcoRequestIpcp n configured resp q = some (.error .outOfRange) := by
  unfold processPcoRequestIpcp
  have hnone : q.protocolIdContents[3]? = none := List.getElem?_eq_none (by omega)
  simp only [hnone]
  split
  · next h => cases h
  · rfl

/-- **An IPCP container that can be gone through is answered** in as many turns as it has options. -/
theorem processPcoRequestIpcp_eq (hlength : q.lengthOfProtocolIdContents.toNat = q.protocolIdContents.length)
    (h4 : 4 ≤ q.protocolIdContents.length) (hopts : ipcpOptions (q.protocolIdContents.drop 4) = some opts) :
    processPcoRequestIpcp n configured resp q =
      if opts.length < n then some (.ok (resp.push (ipcpAnswer configured q))) else none := by
  have hlt : q.lengthOfProtocolIdContents.toNat < 256 := q.lengthOfProtocolIdContents.toNat_lt
  have hloop : (ipcpLoop configured q.protocolIdContents n ⟨4, q.protocolIdContents.length - 4, {}⟩).map
      (·.map IpcpState.out) = if opts.length < n then some (.ok (opts.foldl (takeOption configured) {})) else none :=
    ipcpLoop_eq (by simp only; omega) (by omega) hopts
  rw [processPcoRequestIpcp_eq_map h4 hlength]
  have hanswer : ipcpAnswer configured q = ipcpContainer (q.protocolIdContents[1]?.getD 0)
      (opts.foldl (takeOption configured) {}) := by rw [ipcpAnswer, hopts]; rfl
  rw [hanswer]
  split_ifs at hloop ⊢ with hn
  · obtain ⟨r, hr, hout⟩ := Option.map_eq_some_iff.mp hloop
    rw [hr]
    cases r with
    | error => cases hout
    | ok s =>
      have hs : s.out = opts.foldl (takeOption configured) {} := by
        simpa [Except.map] using hout
      simp [Except.map, hs]
  · rw [Option.map_eq_none_iff] at hloop
    rw [hloop]
    rfl

/-- **Any other one is not**: it throws, or goes on for ever. -/
theorem processPcoRequestIpcp_ne_ok (hlength : q.lengthOfProtocolIdContents.toNat = q.protocolIdContents.length)
    (h : ¬ Walks q.protocolIdContents) (resp' : ProtocolConfigurationOptions) :
    processPcoRequestIpcp n configured resp q ≠ some (.ok resp') := by
  have hlt : q.lengthOfProtocolIdContents.toNat < 256 := q.lengthOfProtocolIdContents.toNat_lt
  by_cases h4 : 4 ≤ q.protocolIdContents.length
  · have hnone : ipcpOptions (q.protocolIdContents.drop 4) = none := by
      rw [Option.eq_none_iff_forall_ne_some]
      exact fun opts hopts => h ⟨h4, opts, hopts⟩
    rw [processPcoRequestIpcp_eq_map h4 hlength]
    intro hok
    obtain ⟨r, hr, hmap⟩ := Option.map_eq_some_iff.mp hok
    cases r with
    | error => cases hmap
    | ok s => exact ipcpLoop_ne_ok (by simp only; omega) (by omega) hnone s hr
  · rw [processPcoRequestIpcp_of_short (by omega)]
    simp

theorem length_ipcpContainer (id : UInt8) (out : IpcpOut) :
    (ipcpContainer id out).protocolIdContents.length = 4 + out.options.length := by
  simp [ipcpContainer]
  omega

theorem innerLength_ipcpContainer (id : UInt8) {out : IpcpOut} (hout : out.outLength < 2 ^ 16) :
    innerLength (ipcpContainer id out).protocolIdContents = some out.outLength := by
  have hhigh : (UInt8.ofNat (out.outLength / 256)).toNat = out.outLength / 256 := by
    rw [UInt8.toNat_ofNat']
    omega
  have hlow : (UInt8.ofNat (out.outLength % 256)).toNat = out.outLength % 256 := by
    rw [UInt8.toNat_ofNat']
    omega
  have hvalue : 256 * (out.outLength / 256) + out.outLength % 256 = out.outLength := Nat.div_add_mod _ _
  simp [innerLength, ipcpContainer, hhigh, hlow, hvalue]

/-- **When the answer is as it should be.** -/
theorem ipcpAnswer_ok_iff (configured : UInt32) (hwalks : Walks q.protocolIdContents)
    (hlength : q.protocolIdContents.length < 256) :
    ((ipcpAnswer configured q).lengthOfProtocolIdContents.toNat = (ipcpAnswer configured q).protocolIdContents.length ∧
      IpcpOk configured q (ipcpAnswer configured q)) ↔ AnswerFits configured q.protocolIdContents := by
  obtain ⟨h4, opts, hopts⟩ := hwalks
  have hcount : opts.countP IsPrimary ≤ 255 := by
    have hle := length_ipcpOptions hopts
    have := List.countP_le_length (p := fun o => decide (IsPrimary o)) (l := opts)
    rw [List.length_drop] at hle
    omega
  obtain ⟨hlen, added, hoptions, hadded, hall⟩ :=
    foldl_options configured opts (show ({} : IpcpOut).outLength < 2 ^ 16 by decide)
  have hcode := foldl_outCode configured opts {}
  have hanswer : ipcpAnswer configured q = ipcpContainer (q.protocolIdContents[1]?.getD 0)
      (opts.foldl (takeOption configured) {}) := by rw [ipcpAnswer, hopts]; rfl
  rw [hanswer]
  generalize opts.foldl (takeOption configured) {} = out at hlen hoptions hcode ⊢
  have hlen' : out.outLength = 4 + 6 * opts.countP IsPrimary := by
    rw [hlen]
    exact Nat.mod_eq_of_lt (by change 4 + 6 * _ < 2 ^ 16; omega)
  have hflat : added.flatten.length = 6 * opts.countP IsPrimary := by
    rw [List.length_flatten, List.map_eq_replicate_iff.mpr fun o ho => (hall o ho).1, List.sum_replicate, hadded]
    simp [mul_comm]
  have hoptions' : out.options = added.flatten := by simpa using hoptions
  have htotal : (ipcpContainer (q.protocolIdContents[1]?.getD 0) out).protocolIdContents.length = out.outLength := by
    rw [length_ipcpContainer, hoptions', hflat, hlen']
  have hhead : (ipcpContainer (q.protocolIdContents[1]?.getD 0) out).protocolIdContents.head? = some out.outCode := rfl
  have hbyte : (ipcpContainer (q.protocolIdContents[1]?.getD 0) out).lengthOfProtocolIdContents.toNat =
      out.outLength % 256 := UInt8.toNat_ofNat'
  have hinner := innerLength_ipcpContainer (q.protocolIdContents[1]?.getD 0) (show out.outLength < 2 ^ 16 by omega)
  constructor
  · rintro ⟨hbytes, hok⟩ opts' hopts'
    rw [hopts] at hopts'
    cases hopts'
    constructor
    · rw [hbyte, htotal] at hbytes
      omega
    · intro hread
      apply hok.ack
      · rw [hhead, hcode.mpr ⟨rfl, hread⟩]
      · exact hopts
  · intro hfits
    obtain ⟨h41, hack⟩ := hfits opts hopts
    refine ⟨?_, ?_⟩
    · rw [hbyte, htotal]
      omega
    · constructor
      case length => rw [hinner, htotal]
      case options => exact ⟨added, by simp [ipcpContainer, hoptions'], fun o ho => (hall o ho).2⟩
      case ack =>
        intro hacked opts' hopts'
        rw [hopts] at hopts'
        cases hopts'
        rw [hhead] at hacked
        exact hack (hcode.mp (Option.some.inj hacked)).2

/-! ## The response -/

/-- The answer to a container. -/
def answerOf (cfg : PcoConfig) (dnn : String) (q : PcoContainer) : PcoContainer :=
  if q.protocolId = ipcpIdentifier then ipcpAnswer (cfg.getDnsFromDnn dnn).primaryDnsV4 q
  else
    match pcoAnswer? q.protocolId with
    | some a => a.container cfg dnn
    | none => ⟨0, 0, []⟩

/-- Containers are pushed one after the other. -/
def pushAll (resp : ProtocolConfigurationOptions) (cs : List PcoContainer) : ProtocolConfigurationOptions :=
  cs.foldl ProtocolConfigurationOptions.push resp

/-- The count is that of the list, and within the bound. -/
def Counted (resp : ProtocolConfigurationOptions) : Prop :=
  resp.numProtocolOrContainerId.toNat = resp.protocolOrContainerIds.length ∧
    resp.protocolOrContainerIds.length ≤ maximumContainers

theorem Counted.push (h : Counted resp) (c : PcoContainer) : Counted (resp.push c) ∧
    (resp.push c).protocolOrContainerIds =
      resp.protocolOrContainerIds ++ [c].take (maximumContainers - resp.protocolOrContainerIds.length) := by
  obtain ⟨hcount, hle⟩ := h
  unfold ProtocolConfigurationOptions.push
  by_cases hfull : maximumContainers ≤ resp.numProtocolOrContainerId.toNat
  · rw [if_pos hfull, show maximumContainers - resp.protocolOrContainerIds.length = 0 by omega, List.take_zero,
      List.append_nil]
    exact ⟨⟨hcount, hle⟩, rfl⟩
  · rw [if_neg hfull, List.take_of_length_le (by simp only [List.length_singleton]; omega)]
    refine ⟨⟨?_, ?_⟩, rfl⟩
    · have h30 : maximumContainers = 30 := rfl
      rw [UInt8.toNat_add, List.length_append, hcount]
      change (resp.protocolOrContainerIds.length + 1) % 256 = resp.protocolOrContainerIds.length + 1
      omega
    · rw [List.length_append, List.length_singleton]
      omega

/-- **The response has what is pushed until it is full.** -/
theorem Counted.pushAll (h : Counted resp) (cs : List PcoContainer) : Counted (pushAll resp cs) ∧
    (Smf.pushAll resp cs).protocolOrContainerIds =
      resp.protocolOrContainerIds ++ cs.take (maximumContainers - resp.protocolOrContainerIds.length) := by
  induction cs generalizing resp with
  | nil => exact ⟨h, by simp [Smf.pushAll]⟩
  | cons c cs ih =>
    obtain ⟨hc, hids⟩ := h.push c
    obtain ⟨hcs, hids'⟩ := ih hc
    refine ⟨hcs, ?_⟩
    change (Smf.pushAll (resp.push c) cs).protocolOrContainerIds = _
    rw [hids', hids, List.append_assoc]
    congr 1
    cases hroom : maximumContainers - resp.protocolOrContainerIds.length with
    | zero =>
      simp only [List.take_zero, List.append_nil, List.nil_append]
      rw [hroom, List.take_zero]
    | succ m =>
      have hm : maximumContainers - (resp.protocolOrContainerIds ++ [c].take (m + 1)).length = m := by
        rw [List.length_append, List.take_of_length_le (by simp), List.length_singleton]
        omega
      rw [hm, List.take_succ_cons, List.take_succ_cons]
      simp

theorem pushAll_append (resp : ProtocolConfigurationOptions) (cs ds : List PcoContainer) :
    pushAll resp (cs ++ ds) = pushAll (pushAll resp cs) ds := List.foldl_append

variable (cfg : PcoConfig) (dnn : String)

/-- The answers to some containers. -/
def answersOf (cs : List PcoContainer) : List PcoContainer :=
  (cs.filter PcoContainer.supported).map (answerOf cfg dnn)

variable {cfg dnn} {cs : List PcoContainer} {s s' : ProtocolConfigurationOptions × PcoIds}

theorem answersOf_singleton_of_ipcp (h : c.protocolId = ipcpIdentifier) :
    answersOf cfg dnn [c] = [ipcpAnswer (cfg.getDnsFromDnn dnn).primaryDnsV4 c] := by
  simp [answersOf, PcoContainer.supported, answerOf, h]

theorem processContainer_of_ne (cfg : PcoConfig) (dnn : String) (n : ℕ)
    (s : ProtocolConfigurationOptions × PcoIds) (h : c.protocolId ≠ ipcpIdentifier) :
    ∃ ids, processContainer cfg dnn n c s = some (.ok (pushAll s.1 (answersOf cfg dnn [c]), ids)) := by
  unfold processContainer
  rw [if_neg h]
  cases hanswer : pcoAnswer? c.protocolId with
  | some a => exact ⟨a.mark s.2, by simp [answersOf, PcoContainer.supported, answerOf, h, hanswer, pushAll]⟩
  | none =>
    have hnone : answersOf cfg dnn [c] = [] := by simp [answersOf, PcoContainer.supported, h, hanswer]
    rw [hnone]
    by_cases hnas : c.protocolId = 0x000A
    · exact ⟨{ s.2 with ciIpAddressAllocationViaNasSignalling := true }, by simp [hnas, pushAll]⟩
    · exact ⟨s.2, by simp [hnas, pushAll]⟩

/-- **A container that can be gone through is answered.** -/
theorem processContainer_ok (cfg : PcoConfig) (dnn : String) (s : ProtocolConfigurationOptions × PcoIds)
    (hlength : c.lengthOfProtocolIdContents.toNat = c.protocolIdContents.length)
    (hwalks : c.protocolId = ipcpIdentifier → Walks c.protocolIdContents) (hn : 256 ≤ n) :
    ∃ ids, processContainer cfg dnn n c s = some (.ok (pushAll s.1 (answersOf cfg dnn [c]), ids)) := by
  by_cases h : c.protocolId = ipcpIdentifier
  · obtain ⟨h4, opts, hopts⟩ := hwalks h
    have hlt : c.lengthOfProtocolIdContents.toNat < 256 := c.lengthOfProtocolIdContents.toNat_lt
    have hle := length_ipcpOptions hopts
    rw [List.length_drop] at hle
    refine ⟨{ s.2 with piIpcp := true }, ?_⟩
    unfold processContainer
    rw [if_pos h, processPcoRequestIpcp_eq hlength h4 hopts, if_pos (by omega), answersOf_singleton_of_ipcp h]
    rfl
  · exact processContainer_of_ne cfg dnn n s h

/-- **And no other one is.** -/
theorem processContainer_cases (hlength : c.lengthOfProtocolIdContents.toNat = c.protocolIdContents.length)
    (hok : processContainer cfg dnn n c s = some (.ok s')) :
    (c.protocolId = ipcpIdentifier → Walks c.protocolIdContents) ∧ s'.1 = pushAll s.1 (answersOf cfg dnn [c]) := by
  by_cases h : c.protocolId = ipcpIdentifier
  · unfold processContainer at hok
    rw [if_pos h] at hok
    obtain ⟨r, hr, hmap⟩ := Option.map_eq_some_iff.mp hok
    cases r with
    | error => cases hmap
    | ok resp =>
      cases hmap
      have hwalks : Walks c.protocolIdContents := by
        by_contra hno
        exact processPcoRequestIpcp_ne_ok hlength hno resp hr
      refine ⟨fun _ => hwalks, ?_⟩
      obtain ⟨h4, opts, hopts⟩ := hwalks
      rw [processPcoRequestIpcp_eq hlength h4 hopts] at hr
      split_ifs at hr
      cases hr
      rw [answersOf_singleton_of_ipcp h]
      rfl
  · obtain ⟨ids, hids⟩ := processContainer_of_ne cfg dnn n s h
    rw [hids] at hok
    cases hok
    exact ⟨fun h' => absurd h' h, rfl⟩

theorem answersOf_cons (c : PcoContainer) (cs : List PcoContainer) :
    answersOf cfg dnn (c :: cs) = answersOf cfg dnn [c] ++ answersOf cfg dnn cs := by
  by_cases h : c.supported <;> simp [answersOf, h]

theorem processContainers_ok (cfg : PcoConfig) (dnn : String) (s : ProtocolConfigurationOptions × PcoIds)
    (hlengths : ∀ c ∈ cs, c.lengthOfProtocolIdContents.toNat = c.protocolIdContents.length)
    (hwalks : ∀ c ∈ cs, c.protocolId = ipcpIdentifier → Walks c.protocolIdContents) (hn : 256 ≤ n) :
    ∃ ids, processContainers cfg dnn n cs s = some (.ok (pushAll s.1 (answersOf cfg dnn cs), ids)) := by
  induction cs generalizing s with
  | nil => exact ⟨s.2, rfl⟩
  | cons c cs ih =>
    rw [List.forall_mem_cons] at hlengths hwalks
    obtain ⟨ids, hc⟩ := processContainer_ok cfg dnn s hlengths.1 hwalks.1 hn
    obtain ⟨ids', hcs⟩ := ih (pushAll s.1 (answersOf cfg dnn [c]), ids) hlengths.2 hwalks.2
    refine ⟨ids', ?_⟩
    unfold processContainers
    rw [hc, answersOf_cons c cs, pushAll_append]
    exact hcs

theorem processContainers_cases
    (hlengths : ∀ c ∈ cs, c.lengthOfProtocolIdContents.toNat = c.protocolIdContents.length)
    (hok : processContainers cfg dnn n cs s = some (.ok s')) :
    (∀ c ∈ cs, c.protocolId = ipcpIdentifier → Walks c.protocolIdContents) ∧
      s'.1 = pushAll s.1 (answersOf cfg dnn cs) := by
  induction cs generalizing s with
  | nil =>
    cases hok
    exact ⟨by simp, rfl⟩
  | cons c cs ih =>
    rw [List.forall_mem_cons] at hlengths
    unfold processContainers at hok
    split at hok
    · next s₁ hc =>
      obtain ⟨hwalks, hs₁⟩ := processContainer_cases hlengths.1 hc
      obtain ⟨hwalks', hs'⟩ := ih hlengths.2 hok
      rw [List.forall_mem_cons, answersOf_cons c cs, pushAll_append, ← hs₁]
      exact ⟨⟨hwalks, hwalks'⟩, hs'⟩
    · next hne => exact absurd hok (hne s')

theorem PcoAnswer.container_ok (cfg : PcoConfig) (dnn : String) (a : PcoAnswer) :
    (a.container cfg dnn).lengthOfProtocolIdContents.toNat = (a.container cfg dnn).protocolIdContents.length ∧
      (a.container cfg dnn).protocolId ≠ ipcpIdentifier := by
  cases a <;> exact ⟨by simp [PcoAnswer.container, addressOctets], by simp [PcoAnswer.container, ipcpIdentifier]⟩

theorem forcePush_cases (cfg : PcoConfig) (dnn : String) (s : ProtocolConfigurationOptions × PcoIds) :
    ∃ forced : List PcoAnswer, (forcePush cfg dnn s).1 = pushAll s.1 (forced.map (PcoAnswer.container cfg dnn)) := by
  unfold forcePush
  by_cases hforce : cfg.forcePushPco
  · by_cases hdns : s.2.ciDnsServerIpv4AddressRequest
    · by_cases hmtu : s.2.ciIpv4LinkMtuRequest
      · exact ⟨[], by simp [hforce, hdns, hmtu, pushAll]⟩
      · exact ⟨[.linkMtu], by simp [hforce, hdns, hmtu, pushAll]⟩
    · by_cases hmtu : s.2.ciIpv4LinkMtuRequest
      · exact ⟨[.dnsServerV4], by simp [hforce, hdns, hmtu, pushAll]⟩
      · exact ⟨[.dnsServerV4, .linkMtu], by simp [hforce, hdns, hmtu, pushAll]⟩
  · exact ⟨[], by simp [hforce, pushAll]⟩

/-- **When the answer to a container is as it should be.** -/
theorem answerOf_ok_iff (cfg : PcoConfig) (dnn : String) (hsupported : q.supported = true)
    (hlength : q.lengthOfProtocolIdContents.toNat = q.protocolIdContents.length)
    (hwalks : q.protocolId = ipcpIdentifier → Walks q.protocolIdContents) :
    ((answerOf cfg dnn q).lengthOfProtocolIdContents.toNat = (answerOf cfg dnn q).protocolIdContents.length ∧
        AnswerOk (cfg.getDnsFromDnn dnn).primaryDnsV4 q (answerOf cfg dnn q)) ↔
      (q.protocolId = ipcpIdentifier → AnswerFits (cfg.getDnsFromDnn dnn).primaryDnsV4 q.protocolIdContents) := by
  have hlt : q.lengthOfProtocolIdContents.toNat < 256 := q.lengthOfProtocolIdContents.toNat_lt
  by_cases h : q.protocolId = ipcpIdentifier
  · have hiff := ipcpAnswer_ok_iff (cfg.getDnsFromDnn dnn).primaryDnsV4 (hwalks h) (by omega)
    have hanswer : answerOf cfg dnn q = ipcpAnswer (cfg.getDnsFromDnn dnn).primaryDnsV4 q := if_pos h
    have hid : (ipcpAnswer (cfg.getDnsFromDnn dnn).primaryDnsV4 q).protocolId = ipcpIdentifier := rfl
    rw [hanswer]
    constructor
    · exact fun ⟨hl, hok⟩ _ => hiff.mp ⟨hl, hok.ipcpOk h⟩
    · intro hfits
      obtain ⟨hl, hok⟩ := hiff.mpr (hfits h)
      exact ⟨hl, ⟨by simp [hid, h], fun _ => hok⟩⟩
  · obtain ⟨a, ha⟩ : ∃ a, pcoAnswer? q.protocolId = some a := by
      rw [← Option.isSome_iff_exists]
      simpa [PcoContainer.supported, h] using hsupported
    have hanswer : answerOf cfg dnn q = a.container cfg dnn := by
      rw [answerOf, if_neg h, ha]
    obtain ⟨hl, hne⟩ := a.container_ok cfg dnn
    rw [hanswer]
    exact ⟨fun _ h' => absurd h' h, fun _ => ⟨hl, ⟨by simp [hne, h], fun h' => absurd h' h⟩⟩⟩

theorem answersOf_take (cfg : PcoConfig) (dnn : String) (req : PcoRequest) (forced : List PcoAnswer) :
    ∃ rest : List PcoAnswer, (answersOf cfg dnn req.protocolOrContainerIds ++
        forced.map (PcoAnswer.container cfg dnn)).take maximumContainers =
      req.answered.map (answerOf cfg dnn) ++ rest.map (PcoAnswer.container cfg dnn) := by
  refine ⟨forced.take (maximumContainers - (answersOf cfg dnn req.protocolOrContainerIds).length), ?_⟩
  rw [List.take_append, List.map_take, answersOf, ← List.map_take]
  rfl

theorem response_cases (cfg : PcoConfig) (dnn : String) (req : PcoRequest) {s : ProtocolConfigurationOptions × PcoIds}
    (hs : s.1 = pushAll (initialResponse req) (answersOf cfg dnn req.protocolOrContainerIds)) :
    ∃ rest : List PcoAnswer, (forcePush cfg dnn s).1.protocolOrContainerIds =
        req.answered.map (answerOf cfg dnn) ++ rest.map (PcoAnswer.container cfg dnn) ∧
      Counted (forcePush cfg dnn s).1 := by
  have hempty : (initialResponse req).protocolOrContainerIds = [] := by
    unfold initialResponse
    split <;> rfl
  have hcounted : Counted (initialResponse req) := by
    unfold initialResponse
    split <;> exact ⟨rfl, Nat.zero_le _⟩
  obtain ⟨forced, hforced⟩ := forcePush_cases cfg dnn s
  rw [hforced, hs, ← pushAll_append]
  obtain ⟨hcounted', hids⟩ := hcounted.pushAll
    (answersOf cfg dnn req.protocolOrContainerIds ++ forced.map (PcoAnswer.container cfg dnn))
  obtain ⟨rest, hrest⟩ := answersOf_take cfg dnn req forced
  refine ⟨rest, ?_, hcounted'⟩
  rw [hids, hempty, List.length_nil, Nat.sub_zero, List.nil_append, hrest]

theorem processPcoRequest_cases {r : ProtocolConfigurationOptions × PcoIds}
    (hok : processPcoRequest cfg dnn n req = some (.ok r)) :
    (∀ q ∈ req.protocolOrContainerIds, q.protocolId = ipcpIdentifier → Walks q.protocolIdContents) ∧
      ∃ s, s.1 = pushAll (initialResponse req) (answersOf cfg dnn req.protocolOrContainerIds) ∧
        r = forcePush cfg dnn s := by
  unfold processPcoRequest at hok
  obtain ⟨m, hm, hmap⟩ := Option.map_eq_some_iff.mp hok
  cases m with
  | error => cases hmap
  | ok s =>
    obtain ⟨hwalks, hs⟩ := processContainers_cases req.sound.lengths hm
    exact ⟨hwalks, s, hs, (Except.ok.inj hmap).symm⟩

/-- **Answered as it should be exactly if** the options of every IPCP container can be gone through, and the answers
that the response has room for fit. -/
theorem answered_iff (cfg : PcoConfig) (dnn : String) (req : PcoRequest) :
    (∃ n resp ids, processPcoRequest cfg dnn n req = some (.ok (resp, ids)) ∧
      Answered (cfg.getDnsFromDnn dnn).primaryDnsV4 req resp) ↔ req.Ok (cfg.getDnsFromDnn dnn).primaryDnsV4 := by
  have hmem (q : PcoContainer) (hq : q ∈ req.answered) :
      q ∈ req.protocolOrContainerIds ∧ q.supported = true := List.mem_filter.mp (List.mem_of_mem_take hq)
  constructor
  · rintro ⟨n, resp, ids, hok, hanswered⟩
    obtain ⟨hwalks, s, hs, hr⟩ := processPcoRequest_cases hok
    obtain ⟨rest, hresp, -⟩ := response_cases cfg dnn req hs
    rw [← hr] at hresp
    refine ⟨hwalks, fun q hq => ?_⟩
    obtain ⟨hq', hsupported⟩ := hmem q hq
    obtain ⟨rs, forced, hsplit, hforall, -⟩ := hanswered.answers
    have hrs : req.answered.map (answerOf cfg dnn) = rs := by
      rw [hresp] at hsplit
      refine (List.append_inj hsplit ?_).1
      rw [List.length_map, hforall.length_eq]
    rw [← hrs, List.forall₂_map_right_iff, List.forall₂_same] at hforall
    apply (answerOf_ok_iff cfg dnn hsupported (req.sound.lengths q hq') (hwalks q hq')).mp
    refine ⟨hanswered.sound.lengths _ ?_, hforall q hq⟩
    rw [hresp]
    exact List.mem_append_left _ (List.mem_map_of_mem hq)
  · intro hreq
    obtain ⟨ids, hids⟩ :=
      processContainers_ok cfg dnn (initialResponse req, {}) req.sound.lengths hreq.walks (le_refl 256)
    have hs : (pushAll (initialResponse req, ({} : PcoIds)).1 (answersOf cfg dnn req.protocolOrContainerIds), ids).1 =
        pushAll (initialResponse req) (answersOf cfg dnn req.protocolOrContainerIds) := rfl
    obtain ⟨rest, hlist, hcounted⟩ := response_cases cfg dnn req hs
    have hresult : processPcoRequest cfg dnn 256 req = some (.ok (forcePush cfg dnn
        (pushAll (initialResponse req, ({} : PcoIds)).1 (answersOf cfg dnn req.protocolOrContainerIds), ids))) := by
      unfold processPcoRequest
      rw [hids]
      rfl
    have hgood (q : PcoContainer) (hq : q ∈ req.answered) := (answerOf_ok_iff cfg dnn (hmem q hq).2
      (req.sound.lengths q (hmem q hq).1) (hreq.walks q (hmem q hq).1)).mpr (hreq.fits q hq)
    generalize forcePush cfg dnn (_, ids) = result at hlist hcounted hresult
    refine ⟨256, result.1, result.2, hresult, ?_⟩
    constructor
    case sound =>
      refine ⟨hcounted.1, ?_⟩
      rw [hlist, List.forall_mem_append, List.forall_mem_map, List.forall_mem_map]
      exact ⟨fun q hq => (hgood q hq).1, fun a _ => (a.container_ok cfg dnn).1⟩
    case answers =>
      refine ⟨_, _, hlist, ?_, ?_⟩
      · rw [List.forall₂_map_right_iff, List.forall₂_same]
        exact fun q hq => (hgood q hq).2
      · rw [List.forall_mem_map]
        exact fun a _ => (a.container_ok cfg dnn).2

/-- The DNS server 8.8.8.8 for every DNN. -/
def publicDns : PcoConfig where
  dnns := []
  ueDns := ⟨0x08080808, Vector.replicate 16 0⟩
  ueMtu := 1500
  pcscfV4 := 0
  pcscfV6 := Vector.replicate 16 0
  forcePushPco := false

/-- One IPCP container, with an option of length 0. -/
def zeroLengthOption : PcoRequest where
  numProtocolOrContainerId := 1
  protocolOrContainerIds := [⟨ipcpIdentifier, 6, [1, 1, 0, 6, primaryDnsOption, 0]⟩]
  sound := ⟨rfl, by simp⟩

/-- **The request is never answered.** -/
theorem zeroLengthOption_not_answered :
    ¬ ∃ n resp ids, processPcoRequest publicDns "oai" n zeroLengthOption = some (.ok (resp, ids)) ∧
      Answered (publicDns.getDnsFromDnn "oai").primaryDnsV4 zeroLengthOption resp := by
  rintro ⟨n, resp, ids, hok, -⟩
  obtain ⟨-, opts, hopts⟩ := (processPcoRequest_cases hok).1 _ (List.mem_singleton_self _) rfl
  have hnone : ipcpOptions [primaryDnsOption, 0] = none := by rw [ipcpOptions_cons]; rfl
  rw [show ([1, 1, 0, 6, primaryDnsOption, 0] : List UInt8).drop 4 = [primaryDnsOption, 0] from rfl, hnone] at hopts
  cases hopts

end Oai5g.Smf
