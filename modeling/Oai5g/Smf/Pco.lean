import Mathlib

/-!
# Protocol configuration options

`smf_app::process_pco_request` answers the containers of a request one after the other.

* `ProtocolConfigurationOptions`, `PcoContainer`: a list of containers with its count and their lengths.
* `ipcpLoop`, `processPcoRequestIpcp`: the options of an IPCP container; `processPcoRequest`: all containers.
* `ipcpOptions`: the options in some octets, if their lengths lead to the end of the octets.
* `ipcpLoop_eq`, `ipcpLoop_ne_ok`: the loop goes through these options, and without them it never comes to its end.
-/

namespace Oai5g.Smf

/-! ## Containers -/

/-- `pco_protocol_or_container_id_t` -/
structure PcoContainer where
  protocolId : UInt16
  lengthOfProtocolIdContents : UInt8
  protocolIdContents : List UInt8
  deriving DecidableEq

/-- `protocol_configuration_options_t` -/
structure ProtocolConfigurationOptions where
  ext : UInt8 := 0
  spare : UInt8 := 0
  configurationProtocol : UInt8 := 0
  numProtocolOrContainerId : UInt8 := 0
  protocolOrContainerIds : List PcoContainer := []
  deriving DecidableEq

/-- **The count is that of the list, and each length is that of the contents.** -/
structure ProtocolConfigurationOptions.Sound (pco : ProtocolConfigurationOptions) : Prop where
  count : pco.numProtocolOrContainerId.toNat = pco.protocolOrContainerIds.length
  lengths : ∀ c ∈ pco.protocolOrContainerIds, c.lengthOfProtocolIdContents.toNat = c.protocolIdContents.length

/-- The options of a request. -/
structure PcoRequest extends ProtocolConfigurationOptions where
  sound : toProtocolConfigurationOptions.Sound

/-- `protocol_configuration_options_ids_t` -/
structure PcoIds where
  piIpcp : Bool := false
  ciDnsServerIpv4AddressRequest : Bool := false
  ciIpAddressAllocationViaNasSignalling : Bool := false
  ciIpv4LinkMtuRequest : Bool := false
  ciDnsServerIpv6AddressRequest : Bool := false
  ciIpv6PCscfRequest : Bool := false
  ciIpv4PCscfRequest : Bool := false
  ciSelectedBearerControlMode : Bool := false

/-- `ue_dns`. An `in_addr` has its first octet in the low bits. -/
structure UeDns where
  primaryDnsV4 : UInt32
  primaryDnsV6 : Vector UInt8 16

/-- What `smf_config` says about the options. -/
structure PcoConfig where
  dnns : List (String × UeDns)
  ueDns : UeDns
  ueMtu : UInt16
  pcscfV4 : UInt32
  pcscfV6 : Vector UInt8 16
  forcePushPco : Bool

/-- `get_dns_from_dnn` -/
def PcoConfig.getDnsFromDnn (cfg : PcoConfig) (dnn : String) : UeDns :=
  ((cfg.dnns.find? (·.1 = dnn)).map Prod.snd).getD cfg.ueDns

/-- `PCO_UNSPEC_MAXIMUM_PROTOCOL_ID_OR_CONTAINER_ID` -/
def maximumContainers : ℕ := 30

/-- `pco_push_protocol_or_container_id`. Nobody looks at its return code. -/
def ProtocolConfigurationOptions.push (pco : ProtocolConfigurationOptions) (c : PcoContainer) :
    ProtocolConfigurationOptions :=
  if maximumContainers ≤ pco.numProtocolOrContainerId.toNat then pco
  else
    { pco with
      protocolOrContainerIds := pco.protocolOrContainerIds ++ [c]
      numProtocolOrContainerId := pco.numProtocolOrContainerId + 1 }

/-- The octets of an `in_addr`. -/
def addressOctets (a : UInt32) : List UInt8 :=
  [a.toUInt8, (a >>> 8).toUInt8, (a >>> 16).toUInt8, (a >>> 24).toUInt8]

/-! ## IPCP -/

/-- `PCO_PROTOCOL_IDENTIFIER_IPCP` -/
def ipcpIdentifier : UInt16 := 0x8021

/-- `IPCP_OPTION_PRIMARY_DNS_SERVER_IP_ADDRESS` -/
def primaryDnsOption : UInt8 := 0x81

/-- `IPCP_CODE_CONFIGURE_ACK` and `IPCP_CODE_CONFIGURE_NACK` -/
def configureAck : UInt8 := 0x02

/-- PPP code: Configure-Nak. -/
def configureNack : UInt8 := 0x03

/-- A `char` as `uint32_t`: it has a sign. -/
def charToUInt32 (b : UInt8) : UInt32 := if b < 128 then b.toUInt32 else b.toUInt32 + 0xFFFFFF00

/-- `htonl` -/
def htonl (x : UInt32) : UInt32 :=
  (x &&& 0xFF) <<< 24 ||| (x >>> 8 &&& 0xFF) <<< 16 ||| (x >>> 16 &&& 0xFF) <<< 8 ||| x >>> 24

/-- The address in four `char`s from `i` on; `none` where `at` throws. -/
def addressAt (contents : List UInt8) (i : ℕ) : Option UInt32 := do
  let a ← contents[i]?
  let b ← contents[i + 1]?
  let c ← contents[i + 2]?
  let d ← contents[i + 3]?
  return htonl (charToUInt32 a <<< 24 ||| charToUInt32 b <<< 16 ||| charToUInt32 c <<< 8 ||| charToUInt32 d)

/-- What the loop has for the answer: `ipcp_out_dns_prim_ipv4_addr`, the code, the length (of 16 bits) and the octets
behind the first four. -/
structure IpcpOut where
  outDnsPrimIpv4Addr : UInt32 := 0xFFFFFFFF
  outCode : UInt8 := configureAck
  outLength : ℕ := 4
  options : List UInt8 := []
  deriving DecidableEq

/-- The case of the primary DNS address; `requested` is the address of an option of at least six octets. -/
def IpcpOut.primaryDns (configured : UInt32) (requested : Option UInt32) (out : IpcpOut) : IpcpOut :=
  let out :=
    match requested with
    | none => out
    | some address =>
      if address = 0 then { out with outDnsPrimIpv4Addr := configured, outCode := configureNack }
      else if configured ≠ address then { out with outDnsPrimIpv4Addr := configured, outCode := configureNack }
      else { out with outDnsPrimIpv4Addr := address }
  { out with
    outLength := (out.outLength + 6) % 2 ^ 16
    options := out.options ++ [primaryDnsOption, 6] ++ addressOctets out.outDnsPrimIpv4Addr }

/-- `std::out_of_range` -/
inductive PcoError
  | outOfRange

/-- `pco_in_index`, `ipcp_req_remaining_length` (of 64 bits) and the answer. -/
structure IpcpState where
  index : ℕ
  remaining : ℕ
  out : IpcpOut

/-- The loop of `process_pco_request_ipcp`, for at most `n` looks at its condition: `none` if it has not come to its
end by then. -/
def ipcpLoop (configured : UInt32) (contents : List UInt8) : ℕ → IpcpState → Option (Except PcoError IpcpState)
  | 0, _ => none
  | n + 1, s =>
    if s.remaining < 2 then some (.ok s)
    else
      match contents[s.index]?, contents[s.index + 1]? with
      | some option, some length =>
        let next (out : IpcpOut) : IpcpState :=
          { index := s.index + length.toNat
            remaining := (s.remaining + (2 ^ 64 - length.toNat)) % 2 ^ 64
            out := out }
        if option = primaryDnsOption then
          if 6 ≤ length.toNat then
            match addressAt contents (s.index + 2) with
            | none => some (.error .outOfRange)
            | some address => ipcpLoop configured contents n (next (s.out.primaryDns configured (some address)))
          else ipcpLoop configured contents n (next (s.out.primaryDns configured none))
        else ipcpLoop configured contents n (next s.out)
      | _, _ => some (.error .outOfRange)

/-- The container with what the loop has made. -/
def ipcpContainer (identifier : UInt8) (out : IpcpOut) : PcoContainer where
  protocolId := ipcpIdentifier
  lengthOfProtocolIdContents := UInt8.ofNat out.outLength
  protocolIdContents :=
    [out.outCode, identifier, UInt8.ofNat (out.outLength / 256), UInt8.ofNat (out.outLength % 256)] ++ out.options

/-- `process_pco_request_ipcp` -/
def processPcoRequestIpcp (n : ℕ) (configured : UInt32) (resp : ProtocolConfigurationOptions) (c : PcoContainer) :
    Option (Except PcoError ProtocolConfigurationOptions) :=
  let contents := c.protocolIdContents
  match contents[0]?, contents[1]?, contents[2]?, contents[3]? with
  | some _, some identifier, some _, some _ =>
    (ipcpLoop configured contents n
      ⟨4, (c.lengthOfProtocolIdContents.toNat + (2 ^ 64 - 4)) % 2 ^ 64, {}⟩).map fun r =>
        r.map fun s => resp.push (ipcpContainer identifier s.out)
  | _, _, _, _ => some (.error .outOfRange)

/-! ## The other containers -/

/-- The containers with a fixed answer. -/
inductive PcoAnswer
  | dnsServerV4 | dnsServerV6 | linkMtu | pCscfV6 | pCscfV4 | selectedBearerControlMode
  deriving DecidableEq

/-- `process_pco_dns_server_request` and the others: the container that is pushed. -/
def PcoAnswer.container (cfg : PcoConfig) (dnn : String) : PcoAnswer → PcoContainer
  | .dnsServerV4 => ⟨0x000D, 4, addressOctets (cfg.getDnsFromDnn dnn).primaryDnsV4⟩
  | .dnsServerV6 => ⟨0x0003, 16, (cfg.getDnsFromDnn dnn).primaryDnsV6.toList⟩
  | .linkMtu => ⟨0x0010, 2, [(cfg.ueMtu >>> 8).toUInt8, cfg.ueMtu.toUInt8]⟩
  | .pCscfV6 => ⟨0x0001, 16, cfg.pcscfV6.toList⟩
  | .pCscfV4 => ⟨0x000C, 4, addressOctets cfg.pcscfV4⟩
  | .selectedBearerControlMode => ⟨0x0005, 1, [0x02]⟩

/-- The flag that is set with the answer. -/
def PcoAnswer.mark (ids : PcoIds) : PcoAnswer → PcoIds
  | .dnsServerV4 => { ids with ciDnsServerIpv4AddressRequest := true }
  | .dnsServerV6 => { ids with ciDnsServerIpv6AddressRequest := true }
  | .linkMtu => { ids with ciIpv4LinkMtuRequest := true }
  | .pCscfV6 => { ids with ciIpv6PCscfRequest := true }
  | .pCscfV4 => { ids with ciIpv4PCscfRequest := true }
  | .selectedBearerControlMode => { ids with ciSelectedBearerControlMode := true }

/-- The cases of `process_pco_request` with a fixed answer. -/
def pcoAnswer? (protocolId : UInt16) : Option PcoAnswer :=
  if protocolId = 0x000D then some .dnsServerV4
  else if protocolId = 0x0003 then some .dnsServerV6
  else if protocolId = 0x0010 then some .linkMtu
  else if protocolId = 0x0001 then some .pCscfV6
  else if protocolId = 0x000C then some .pCscfV4
  else if protocolId = 0x0005 then some .selectedBearerControlMode
  else none

/-- The `switch` of `process_pco_request`. -/
def processContainer (cfg : PcoConfig) (dnn : String) (n : ℕ) (c : PcoContainer)
    (s : ProtocolConfigurationOptions × PcoIds) :
    Option (Except PcoError (ProtocolConfigurationOptions × PcoIds)) :=
  if c.protocolId = ipcpIdentifier then
    (processPcoRequestIpcp n (cfg.getDnsFromDnn dnn).primaryDnsV4 s.1 c).map fun r =>
      r.map fun resp => (resp, { s.2 with piIpcp := true })
  else
    match pcoAnswer? c.protocolId with
    | some a => some (.ok (s.1.push (a.container cfg dnn), a.mark s.2))
    | none =>
      -- the address allocation by NAS is only noted, and other containers are passed over
      if c.protocolId = 0x000A then some (.ok (s.1, { s.2 with ciIpAddressAllocationViaNasSignalling := true }))
      else some (.ok s)

/-- The loop of `process_pco_request`. -/
def processContainers (cfg : PcoConfig) (dnn : String) (n : ℕ) :
    List PcoContainer → ProtocolConfigurationOptions × PcoIds →
      Option (Except PcoError (ProtocolConfigurationOptions × PcoIds))
  | [], s => some (.ok s)
  | c :: cs, s =>
    match processContainer cfg dnn n c s with
    | some (.ok s') => processContainers cfg dnn n cs s'
    | r => r

/-- What is pushed at the end whether it was asked for or not. -/
def forcePush (cfg : PcoConfig) (dnn : String) (s : ProtocolConfigurationOptions × PcoIds) :
    ProtocolConfigurationOptions × PcoIds :=
  if cfg.forcePushPco then
    let ids := { s.2 with ciIpAddressAllocationViaNasSignalling := true }
    let resp :=
      if ids.ciDnsServerIpv4AddressRequest then s.1 else s.1.push (PcoAnswer.dnsServerV4.container cfg dnn)
    let resp := if ids.ciIpv4LinkMtuRequest then resp else resp.push (PcoAnswer.linkMtu.container cfg dnn)
    (resp, ids)
  else s

/-- The response at first: it is empty, and has the protocol of the request if that is PPP. -/
def initialResponse (req : PcoRequest) : ProtocolConfigurationOptions :=
  if req.configurationProtocol = 0 then { ext := 1, configurationProtocol := req.configurationProtocol } else {}

/-- `process_pco_request`; `n` bounds the turns of each IPCP loop. -/
def processPcoRequest (cfg : PcoConfig) (dnn : String) (n : ℕ) (req : PcoRequest) :
    Option (Except PcoError (ProtocolConfigurationOptions × PcoIds)) :=
  (processContainers cfg dnn n req.protocolOrContainerIds (initialResponse req, {})).map fun r =>
    r.map (forcePush cfg dnn)

/-! ## The options of an IPCP container -/

/-- The options in some octets: a type, the length of the whole option, and what else there is. At most one octet may
be left; `none` where a length is 0 or too large. -/
def ipcpOptions (s : List UInt8) : Option (List (List UInt8)) :=
  match s with
  | t :: l :: rest =>
    if 0 < l.toNat ∧ l.toNat ≤ (t :: l :: rest).length then
      (ipcpOptions ((t :: l :: rest).drop l.toNat)).map ((t :: l :: rest).take l.toNat :: ·)
    else none
  | _ => some []
termination_by s.length
decreasing_by simp only [List.length_drop, List.length_cons] at *; omega

/-- What an option adds to the answer. -/
def takeOption (configured : UInt32) (out : IpcpOut) (o : List UInt8) : IpcpOut :=
  if o.head? = some primaryDnsOption then
    out.primaryDns configured (if 6 ≤ o.length then addressAt o 2 else none)
  else out

variable {configured : UInt32} {contents rest : List UInt8} {t l : UInt8} {n i : ℕ} {s : IpcpState}
  {opts : List (List UInt8)}

theorem ipcpOptions_short (h : rest.length < 2) : ipcpOptions rest = some [] := by
  unfold ipcpOptions
  split
  · simp at h
  · rfl

theorem ipcpOptions_cons : ipcpOptions (t :: l :: rest) =
    if 0 < l.toNat ∧ l.toNat ≤ (t :: l :: rest).length then
      (ipcpOptions ((t :: l :: rest).drop l.toNat)).map ((t :: l :: rest).take l.toNat :: ·)
    else none := by
  conv_lhs => unfold ipcpOptions

theorem length_ipcpOptions (h : ipcpOptions rest = some opts) : opts.length ≤ rest.length := by
  induction hlen : rest.length using Nat.strong_induction_on generalizing rest opts with
  | _ m ih =>
    match rest with
    | [] =>
      rw [ipcpOptions_short (by simp)] at h
      cases h
      simp
    | [_] =>
      rw [ipcpOptions_short (by simp)] at h
      cases h
      simp
    | t :: l :: rest =>
      rw [ipcpOptions_cons] at h
      split_ifs at h with hl
      obtain ⟨opts', hopts', rfl⟩ := Option.map_eq_some_iff.mp h
      have hdrop : ((t :: l :: rest).drop l.toNat).length < m := by
        rw [← hlen, List.length_drop]
        omega
      have := ih _ hdrop hopts' rfl
      rw [List.length_cons]
      omega

theorem addressAt_take_drop (h : 6 ≤ n) :
    addressAt ((contents.drop i).take n) 2 = addressAt contents (i + 2) := by
  unfold addressAt
  rw [List.getElem?_take_of_lt (by omega), List.getElem?_take_of_lt (by omega),
    List.getElem?_take_of_lt (by omega), List.getElem?_take_of_lt (by omega)]
  simp only [List.getElem?_drop]

theorem exists_addressAt (h : i + 3 < contents.length) : ∃ a, addressAt contents i = some a := by
  unfold addressAt
  rw [List.getElem?_eq_getElem (by omega), List.getElem?_eq_getElem (by omega),
    List.getElem?_eq_getElem (by omega), List.getElem?_eq_getElem (by omega)]
  exact ⟨_, rfl⟩

/-- The state after an option of length `l`. -/
def IpcpState.after (s : IpcpState) (l : UInt8) (out : IpcpOut) : IpcpState :=
  ⟨s.index + l.toNat, (s.remaining + (2 ^ 64 - l.toNat)) % 2 ^ 64, out⟩

theorem getElem?_of_drop (hdrop : contents.drop i = t :: l :: rest) :
    contents[i]? = some t ∧ contents[i + 1]? = some l := by
  constructor
  · have h : (contents.drop i)[0]? = some t := by rw [hdrop]; rfl
    rwa [List.getElem?_drop] at h
  · have h : (contents.drop i)[1]? = some l := by rw [hdrop]; rfl
    rwa [List.getElem?_drop] at h

theorem ipcpLoop_succ (hrem : 2 ≤ s.remaining) (hdrop : contents.drop s.index = t :: l :: rest) :
    ipcpLoop configured contents (n + 1) s =
      if t = primaryDnsOption then
        if 6 ≤ l.toNat then
          match addressAt contents (s.index + 2) with
          | none => some (.error .outOfRange)
          | some a => ipcpLoop configured contents n (s.after l (s.out.primaryDns configured (some a)))
        else ipcpLoop configured contents n (s.after l (s.out.primaryDns configured none))
      else ipcpLoop configured contents n (s.after l s.out) := by
  obtain ⟨ht, hl⟩ := getElem?_of_drop hdrop
  conv_lhs => unfold ipcpLoop
  rw [if_neg (by omega), ht, hl]
  rfl

theorem ipcpLoop_turn (configured : UInt32) (n : ℕ) (hrem : 2 ≤ s.remaining)
    (hdrop : contents.drop s.index = t :: l :: rest) :
    ipcpLoop configured contents (n + 1) s = some (.error .outOfRange) ∨
      ∃ out, ipcpLoop configured contents (n + 1) s = ipcpLoop configured contents n (s.after l out) := by
  rw [ipcpLoop_succ hrem hdrop]
  by_cases htype : t = primaryDnsOption
  · rw [if_pos htype]
    by_cases hlen : 6 ≤ l.toNat
    · rw [if_pos hlen]
      cases addressAt contents (s.index + 2) with
      | none => exact Or.inl rfl
      | some a => exact Or.inr ⟨_, rfl⟩
    · rw [if_neg hlen]
      exact Or.inr ⟨_, rfl⟩
  · rw [if_neg htype]
    exact Or.inr ⟨_, rfl⟩

theorem ipcpLoop_option (hrem : 2 ≤ s.remaining) (hdrop : contents.drop s.index = t :: l :: rest)
    (hl : 0 < l.toNat) (hle : l.toNat ≤ (contents.drop s.index).length) :
    ipcpLoop configured contents (n + 1) s = ipcpLoop configured contents n
      (s.after l (takeOption configured s.out ((contents.drop s.index).take l.toNat))) := by
  have hlength : ((contents.drop s.index).take l.toNat).length = l.toNat := by
    rw [List.length_take]
    omega
  have hhead : ((contents.drop s.index).take l.toNat).head? = some t := by
    rw [List.head?_take, if_neg (by omega), hdrop]
    rfl
  rw [ipcpLoop_succ hrem hdrop]
  unfold takeOption
  rw [hhead, hlength]
  by_cases htype : t = primaryDnsOption
  · rw [if_pos htype, if_pos (congrArg some htype)]
    by_cases hlen : 6 ≤ l.toNat
    · have hlong : s.index + 2 + 3 < contents.length := by
        rw [List.length_drop] at hle
        omega
      obtain ⟨a, ha⟩ := exists_addressAt hlong
      rw [if_pos hlen, if_pos hlen, addressAt_take_drop hlen, ha]
    · rw [if_neg hlen, if_neg hlen]
  · rw [if_neg htype, if_neg fun h => htype (Option.some.inj h)]

/-- **The loop goes through the options.** -/
theorem ipcpLoop_eq (hinv : s.index + s.remaining = contents.length) (hlength : contents.length < 2 ^ 64)
    (h : ipcpOptions (contents.drop s.index) = some opts) :
    (ipcpLoop configured contents n s).map (·.map IpcpState.out) =
      if opts.length < n then some (.ok (opts.foldl (takeOption configured) s.out)) else none := by
  induction n generalizing s opts with
  | zero => rfl
  | succ n ih =>
    by_cases hrem : s.remaining < 2
    · rw [ipcpOptions_short (by rw [List.length_drop]; omega)] at h
      cases h
      conv_lhs => unfold ipcpLoop
      have hlt : ([] : List (List UInt8)).length < n + 1 := Nat.succ_pos n
      rw [if_pos hrem, if_pos hlt]
      rfl
    · obtain ⟨t, l, rest, hdrop⟩ : ∃ t l rest, contents.drop s.index = t :: l :: rest := by
        have hlen : 2 ≤ (contents.drop s.index).length := by
          rw [List.length_drop]
          omega
        match contents.drop s.index, hlen with
        | t :: l :: rest, _ => exact ⟨t, l, rest, rfl⟩
      rw [hdrop, ipcpOptions_cons, ← hdrop] at h
      split_ifs at h with hl
      obtain ⟨opts', hopts', rfl⟩ := Option.map_eq_some_iff.mp h
      rw [List.drop_drop] at hopts'
      have hle := hl.2
      rw [List.length_drop] at hle
      have hnext : (s.remaining + (2 ^ 64 - l.toNat)) % 2 ^ 64 = s.remaining - l.toNat := by
        have hlt : l.toNat < 2 ^ 64 := by have := l.toNat_lt; omega
        rw [show s.remaining + (2 ^ 64 - l.toNat) = (s.remaining - l.toNat) + 2 ^ 64 by omega, Nat.add_mod_right]
        exact Nat.mod_eq_of_lt (by omega)
      rw [ipcpLoop_option (by omega) hdrop hl.1 hl.2, ih _ hopts']
      · simp only [List.length_cons, List.foldl_cons, IpcpState.after, Nat.add_lt_add_iff_right]
      · simp only [IpcpState.after, hnext]
        omega

/-- **Without them it throws, or it goes on for ever.** -/
theorem ipcpLoop_ne_ok (hinv : s.index + s.remaining = contents.length) (hlength : contents.length < 2 ^ 63)
    (h : ipcpOptions (contents.drop s.index) = none) (s' : IpcpState) :
    ipcpLoop configured contents n s ≠ some (.ok s') := by
  induction n generalizing s with
  | zero => simp [ipcpLoop]
  | succ n ih =>
    have hrem : 2 ≤ s.remaining := by
      by_contra hrem
      rw [ipcpOptions_short (by rw [List.length_drop]; omega)] at h
      cases h
    obtain ⟨t, l, rest, hdrop⟩ : ∃ t l rest, contents.drop s.index = t :: l :: rest := by
      have hlen : 2 ≤ (contents.drop s.index).length := by
        rw [List.length_drop]
        omega
      match contents.drop s.index, hlen with
      | t :: l :: rest, _ => exact ⟨t, l, rest, rfl⟩
    have hl256 : l.toNat < 256 := l.toNat_lt
    rcases ipcpLoop_turn configured n hrem hdrop with hthrow | ⟨out, hturn⟩
    · rw [hthrow]
      simp
    · rw [hturn]
      by_cases h0 : l.toNat = 0
      · -- a length of 0: the same option again
        apply ih
        · simp only [IpcpState.after, h0]
          omega
        · simpa [IpcpState.after, h0] using h
      · by_cases hle : l.toNat ≤ (contents.drop s.index).length
        · rw [hdrop, ipcpOptions_cons, ← hdrop, if_pos ⟨by omega, hle⟩, Option.map_eq_none_iff, List.drop_drop] at h
          rw [List.length_drop] at hle
          apply ih
          · simp only [IpcpState.after]
            omega
          · exact h
        · -- beyond the end: the counter wraps and the next `at` throws
          rw [List.length_drop] at hle
          cases n with
          | zero => simp [ipcpLoop]
          | succ n =>
            have hnone : contents[s.index + l.toNat]? = none := List.getElem?_eq_none (by omega)
            have hwrap : ¬ (s.remaining + (2 ^ 64 - l.toNat)) % 2 ^ 64 < 2 := by
              rw [Nat.mod_eq_of_lt (by omega)]
              omega
            unfold ipcpLoop
            simp only [IpcpState.after, if_neg hwrap, hnone]
            simp

end Oai5g.Smf
