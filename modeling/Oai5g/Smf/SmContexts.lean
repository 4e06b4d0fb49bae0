import Oai5g.Smf.Leases
import Oai5g.Smf.Session

/-!
# Addresses of PDU sessions

* `SmfContexts`: the PDU sessions of the UEs, the SM context references, the policy associations and the pools.
* `createSmContext`; `smContextStep` with releases and the answers of the UPF.
* `LeasedExactly`, `RequestFollows`: an address is leased while a session uses it, and a refused session leaves nothing.
* `SessionInv`; **`leases_follow_sessions`**.
-/

namespace Oai5g.Smf

/-! ## Sessions and requests -/

/-- SUPI and PDU session id. -/
abbrev SessionKey := UInt64 × UInt8

/-- The address of a `smf_pdu_session`. `dynamic`: it is from `get_free_paa`. -/
structure AddressedSession where
  pduSessionType : PduSessionType
  dnn : DnnLabel
  ipv4 : Option Addr
  dynamic : Bool
  policy : Option ℕ

/-- `smf_pdu_session::clear`; the policy stays. -/
def AddressedSession.clear (t : AddressedSession) : AddressedSession :=
  { t with pduSessionType := .ipv4, dnn := [], ipv4 := none, dynamic := false }

/-- A static address of the subscription data. -/
inductive StaticIpAddress
  | ipv4 (a : Addr)
  | ipv6

/-- The DNN configuration of the subscription data. -/
structure DnnConfiguration where
  defaultSessionType : PduSessionType
  staticIpAddresses : List StaticIpAddress

/-- A Create SM Context request, with what the configuration, the UDM, the PCF and the selection of a UPF say to it. -/
structure CreateRequest where
  supi : UInt64
  pduSessionId : UInt8
  n1Decoded : Bool
  /-- The PDU session id in the N1 message. -/
  pduSessionIdentity : UInt8
  pti : UInt8
  messageType : UInt8
  pduSessionType : PduSessionType
  initialRequest : Bool
  dnn : DnnLabel
  dnnHandled : Bool
  /-- `none`: there are no subscription data. -/
  subscription : Option (Option DnnConfiguration)
  policyCreated : Bool
  dhcpv4 : Bool
  /-- The transaction of the first session establishment request to a UPF. -/
  n4Transaction : Option ℕ

namespace CreateRequest

variable (req : CreateRequest)

/-- `PDU_SESSION_ESTABLISHMENT_REQUEST` -/
def establishmentRequest : UInt8 := 0xC1

/-- The checks of `smf_app` before it makes a context. -/
def valid : Bool :=
  req.n1Decoded && (req.pduSessionType = .ipv4 || req.pduSessionType = .ipv4v6) && req.pti ≠ 0 && req.pti ≤ 254 &&
    req.pduSessionIdentity ≠ 0 && req.pduSessionIdentity ≤ 15 && req.messageType = establishmentRequest &&
    req.initialRequest && req.dnnHandled

/-- The key of the SM context reference. -/
def refKey : SessionKey := (req.supi, req.pduSessionIdentity)

/-- The key of the PDU session. -/
def sessionKey : SessionKey := (req.supi, req.pduSessionId)

end CreateRequest

/-- The last static IPv4 address, if it is not 0. -/
def staticAddress (configuration : Option DnnConfiguration) : Option Addr :=
  (configuration.bind fun c => (c.staticIpAddresses.filterMap fun
    | .ipv4 a => some a
    | .ipv6 => none).getLast?).filter (· ≠ 0)

/-- Whether there is a static IPv4 address at all. -/
def hasStatic (configuration : Option DnnConfiguration) : Bool :=
  (configuration.elim [] DnnConfiguration.staticIpAddresses).any fun
    | .ipv4 _ => true
    | .ipv6 => false

/-- The type of the address that `get_free_paa` is asked for. -/
def dynamicType (configuration : Option DnnConfiguration) : PduSessionType :=
  if hasStatic configuration then .ipv4 else configuration.elim .ipv4 DnnConfiguration.defaultSessionType

/-- `paa_t::is_ip_assigned` -/
def isIpAssigned (type : PduSessionType) (paa : Paa) : Bool :=
  match type with
  | .ipv4 => paa.ipv4Address.getD 0 ≠ 0
  | .ipv6 => paa.ipv6Address.getD 0 ≠ 0
  | .ipv4v6 => paa.ipv4Address.getD 0 ≠ 0 || paa.ipv6Address.getD 0 ≠ 0
  | _ => false

/-- The `paa_t` of a session. -/
structure AssignedPaa where
  type : PduSessionType
  paa : Paa
  dynamic : Bool

/-- The address of a new session; none where the request is refused. -/
def assignPaa (cfg : List AddPool) (s : PaaState) (configuration : Option DnnConfiguration) (type : PduSessionType)
    (req : CreateRequest) : PaaState × Option AssignedPaa :=
  if type = .ipv4v6 || (type = .ipv4 && !req.dhcpv4) then
    match staticAddress configuration with
    | some a => (s, some ⟨.ipv4, ⟨some a, none⟩, false⟩)
    | none =>
      (paaStep cfg s (.getFreePaa req.dnn (dynamicType configuration)),
        (s.paa.getFreePaa req.dnn (dynamicType configuration)).2.map fun paa => ⟨dynamicType configuration, paa, true⟩)
  else (s, none)

/-! ## The contexts -/

/-- A procedure that waits for a UPF. -/
inductive SmProcedure
  | create (session scid : ℕ)
  | release (session : ℕ) (dnn : DnnLabel)

/-- The sessions are numbered; a session that left the table can still be in a procedure. -/
structure SmfContexts where
  paa : PaaState
  sessions : ℕ → Option AddressedSession
  count : ℕ
  pduSessions : SessionKey → Option ℕ
  scid2smfContext : List (ℕ × SessionKey)
  smContextRefGenerator : UintGenerator
  policies : Finset ℕ
  procedures : ℕ → Option SmProcedure

/-- The answer to a Create SM Context request. -/
inductive SmContextReply
  | accepted | refused
  deriving DecidableEq

namespace SmfContexts

/-- The SMF when it starts. -/
def init (cfg : List AddPool) : SmfContexts :=
  ⟨.init cfg, fun _ => none, 0, fun _ => none, [], .empty, ∅, fun _ => none⟩

variable (cfg : List AddPool) (s : SmfContexts)

/-- `is_scid_2_smf_context(supi, pdu_session_id)` -/
def isScid2SmfContext (k : SessionKey) : Bool := s.scid2smfContext.any fun x => x.2 = k

/-- `set_scid_2_smf_context` -/
def setScid2SmfContext (scid : ℕ) (k : SessionKey) : List (ℕ × SessionKey) :=
  (scid, k) :: s.scid2smfContext.filter fun x => x.1 ≠ scid

/-- `remove_pdu_session` -/
def removePduSession (k : SessionKey) : SmfContexts := { s with pduSessions := Function.update s.pduSessions k none }

/-- The session with this id, or a new one. -/
def findOrAdd (req : CreateRequest) : SmfContexts × ℕ × AddressedSession :=
  match (s.pduSessions req.sessionKey).bind fun o => (s.sessions o).map (o, ·) with
  | some (o, t) => (s, o, t)
  | none =>
    let t : AddressedSession := ⟨req.pduSessionType, req.dnn, none, false, none⟩
    ({ s with
        sessions := Function.update s.sessions s.count (some t)
        count := s.count + 1
        pduSessions := if 1 ≤ req.pduSessionId ∧ req.pduSessionId ≤ 15 then
            Function.update s.pduSessions req.sessionKey (some s.count)
          else s.pduSessions }, s.count, t)

/-- `smf_context::handle_pdu_session_create_sm_context_request` -/
def handleCreate (scid : ℕ) (configuration : Option DnnConfiguration) (req : CreateRequest) :
    SmfContexts × SmContextReply :=
  let (s, o, t) := s.findOrAdd req
  let t := { t with policy := if req.policyCreated then some scid else none }
  let s := { s with
    sessions := Function.update s.sessions o (some t)
    policies := if req.policyCreated then insert scid s.policies else s.policies }
  let (paa, assigned) := assignPaa cfg s.paa configuration t.pduSessionType req
  match assigned with
  | none => ({ s with paa := paa }, .refused)
  | some x =>
    let t := { t with pduSessionType := x.type, ipv4 := x.paa.ipv4Address, dynamic := x.dynamic }
    let s := { s with paa := paa, sessions := Function.update s.sessions o (some t) }
    match s.pduSessions req.refKey, req.n4Transaction with
    | some _, some trxn =>
      ({ s with procedures := Function.update s.procedures trxn (some (.create o scid)) }, .accepted)
    | _, _ =>
      -- the address is given back, and the session keeps it
      ({ s with paa := if isIpAssigned x.type x.paa then
            paaStep cfg s.paa (.releasePaa req.dnn (some x.type) (x.paa.ipv4Address.getD 0))
          else s.paa }, .refused)

/-- `smf_app::handle_pdu_session_create_sm_context_request` -/
def createSmContext (req : CreateRequest) : SmfContexts × SmContextReply :=
  if req.valid then
    let s := if s.isScid2SmfContext req.refKey then s.removePduSession req.refKey else s
    match req.subscription with
    | none => (s, .refused)
    | some configuration =>
      match s.smContextRefGenerator.getUid 32 with
      | none => (s, .refused)
      | some (generator, scid) =>
        { s with
          smContextRefGenerator := generator
          scid2smfContext := s.setScid2SmfContext scid req.refKey }.handleCreate cfg scid configuration req
  else (s, .refused)

/-- The session of an SM context reference. -/
def sessionOf (scid : ℕ) : Option (ℕ × AddressedSession) :=
  (s.scid2smfContext.lookup scid).bind fun k => (s.pduSessions k).bind fun o => (s.sessions o).map (o, ·)

/-- `smf_pdu_session::deallocate_ressources` -/
def deallocateRessources (o : ℕ) (dnn : DnnLabel) : SmfContexts :=
  match s.sessions o with
  | none => s
  | some t =>
    { s with
      paa := t.ipv4.elim s.paa fun a => paaStep cfg s.paa (.releasePaa dnn none a)
      sessions := Function.update s.sessions o (some t.clear) }

end SmfContexts

/-! ## Steps -/

/-- What reaches the SMF. -/
inductive SmContextEvent
  | createRequest (req : CreateRequest)
  | establishmentResponse (trxn : ℕ) (accepted : Bool)
  /-- A release by the AMF or the UE, with the transaction of the first session deletion request to a UPF. -/
  | releaseRequest (scid : ℕ) (n4Transaction : Option ℕ)
  | deletionResponse (trxn : ℕ)
  | releaseComplete (scid : ℕ)

/-- One request, or the last answer of a UPF to a procedure. -/
def smContextStep (cfg : List AddPool) (s : SmfContexts) : SmContextEvent → SmfContexts
  | .createRequest req => (s.createSmContext cfg req).1
  | .establishmentResponse trxn _ =>
    match s.procedures trxn with
    | some (.create _ _) => { s with procedures := Function.update s.procedures trxn none }
    | _ => s
  | .releaseRequest scid n4Transaction =>
    match s.sessionOf scid, n4Transaction with
    | some (o, t), some trxn => { s with procedures := Function.update s.procedures trxn (some (.release o t.dnn)) }
    | _, _ => s
  | .deletionResponse trxn =>
    match s.procedures trxn with
    | some (.release o dnn) =>
      let s := s.deallocateRessources cfg o dnn
      { s with procedures := Function.update s.procedures trxn none }
    | _ => s
  | .releaseComplete scid =>
    match s.sessionOf scid with
    | some (_, t) => { s with policies := t.policy.elim s.policies fun id => s.policies.erase id }
    | none => s

namespace SmfContexts

/-- The session in the table. -/
def At (s : SmfContexts) (k : SessionKey) (t : AddressedSession) : Prop :=
  ∃ o, s.pduSessions k = some o ∧ s.sessions o = some t

/-- **The leased addresses are those of the sessions**, each of one session. -/
structure LeasedExactly (cfg : List AddPool) (s : SmfContexts) : Prop where
  pools : LeasesExact cfg s.paa
  leased : ∀ a, a ∈ s.paa.leased ↔ ∃ k t, s.At k t ∧ t.dynamic = true ∧ t.ipv4 = some a
  one : ∀ k k' t t' a, s.At k t → s.At k' t' → t.dynamic = true → t.ipv4 = some a → t'.ipv4 = some a → k = k'

/-- A session that left the table held the policy association `id`. -/
def LeftPolicy (s s' : SmfContexts) (k : SessionKey) (id : ℕ) : Prop :=
  s'.pduSessions k = none ∧ ∃ t, s.At k t ∧ t.policy = some id

/-- A session that left the table had the dynamic address `a`. -/
def LeftAddress (s s' : SmfContexts) (k : SessionKey) (a : Addr) : Prop :=
  s'.pduSessions k = none ∧ ∃ t, s.At k t ∧ t.dynamic = true ∧ t.ipv4 = some a

/-- **What should hold of a step.** A refused request leaves nothing; of a session that it removed, the policy
association and the address are given back. -/
def RequestFollows (cfg : List AddPool) (s : SmfContexts) (e : SmContextEvent) : Prop :=
  let s' := smContextStep cfg s e
  match e with
  | .createRequest req => (s.createSmContext cfg req).2 = .refused →
    s'.scid2smfContext = s.scid2smfContext ∧
      (∀ k, s'.pduSessions k = s.pduSessions k ∨ k = req.refKey ∧ s'.pduSessions k = none) ∧
      (∀ id, id ∈ s'.policies ↔ id ∈ s.policies ∧ ¬ LeftPolicy s s' req.refKey id) ∧
      ∀ a, a ∈ s'.paa.leased ↔ a ∈ s.paa.leased ∧ ¬ LeftAddress s s' req.refKey a
  | .establishmentResponse trxn accepted => accepted = false →
    ∀ o scid, s.procedures trxn = some (.create o scid) →
      (∀ k, s'.pduSessions k ≠ some o) ∧ (∀ k, (scid, k) ∉ s'.scid2smfContext) ∧ scid ∉ s'.policies
  | .deletionResponse trxn =>
    ∀ o dnn t, s.procedures trxn = some (.release o dnn) → s.sessions o = some t →
      ∀ a, a ∈ s'.paa.leased ↔ a ∈ s.paa.leased ∧ ¬ (t.dynamic = true ∧ t.ipv4 = some a)
  | .releaseRequest _ _ | .releaseComplete _ => s'.paa = s.paa

/-- There is an address for the request. -/
def AddressAvailable (s : SmfContexts) (configuration : Option DnnConfiguration) (req : CreateRequest) : Prop :=
  ¬ (req.pduSessionType = .ipv4 ∧ req.dhcpv4 = true) ∧
    (staticAddress configuration = none →
      ((s.paa.paa.getFreePaa req.dnn (dynamicType configuration)).2).isSome = true)

/-- A session has neither an address nor a policy association. -/
def HoldsNothing (s : SmfContexts) (t : AddressedSession) : Prop :=
  t.ipv4 = none ∧ ∀ id, t.policy = some id → id ∉ s.policies

/-- **The condition**: a request collides only with a session that holds nothing, and when there are subscription
data it is not refused; no static address lies in a pool; a UPF accepts; a released address is found in its pool. -/
def RequestConforms (cfg : List AddPool) (s : SmfContexts) : SmContextEvent → Prop
  | .createRequest req => req.valid = true → (∀ t, s.At req.refKey t → s.HoldsNothing t) ∧
    ∀ configuration, req.subscription = some configuration →
      req.pduSessionId = req.pduSessionIdentity ∧ s.AddressAvailable configuration req ∧
        (∀ a, staticAddress configuration = some a → ∀ x ∈ ranges cfg, x.2.contains a = false) ∧
        req.n4Transaction.isSome = true
  | .establishmentResponse trxn accepted =>
    accepted = true ∨ ∀ o scid, s.procedures trxn ≠ some (.create o scid)
  | .deletionResponse trxn => ∀ o dnn t a, s.procedures trxn = some (.release o dnn) → s.sessions o = some t →
    t.ipv4 = some a → ReleaseFinds cfg (.releasePaa dnn none a)
  | .releaseRequest _ _ | .releaseComplete _ => True

/-! ## The invariant -/

/-- What holds in every state that conforming steps lead to, of all sessions, also of those that left the table. -/
structure SessionInv (cfg : List AddPool) (s : SmfContexts) : Prop where
  pools : PaaInv cfg s.paa
  leased : ∀ a, a ∈ s.paa.leased ↔ ∃ o t, s.sessions o = some t ∧ t.dynamic = true ∧ t.ipv4 = some a
  owner : ∀ o o' t t' a, s.sessions o = some t → s.sessions o' = some t' → t.dynamic = true → t.ipv4 = some a →
    t'.ipv4 = some a → o = o'
  inTable : ∀ o t, s.sessions o = some t → t.ipv4 ≠ none → ∃ k, s.pduSessions k = some o
  /-- A dynamic address is one of its DNN, a static one is in no pool. -/
  range : ∀ o t a, s.sessions o = some t → t.ipv4 = some a →
    if t.dynamic then (rangesOf cfg t.dnn).any (·.contains a) = true else ∀ x ∈ ranges cfg, x.2.contains a = false
  numbered : ∀ o t, s.sessions o = some t → o < s.count
  tableNumbered : ∀ k o, s.pduSessions k = some o → o < s.count
  injective : ∀ k k' o, s.pduSessions k = some o → s.pduSessions k' = some o → k = k'
  refs : ∀ k o, s.pduSessions k = some o → ∃ scid, (scid, k) ∈ s.scid2smfContext
  generated : ∀ scid k, (scid, k) ∈ s.scid2smfContext → scid ∈ s.smContextRefGenerator.uidGenerated
  releasing : ∀ trxn o dnn, s.procedures trxn = some (.release o dnn) → o < s.count ∧
    ∀ t, s.sessions o = some t → t.ipv4 ≠ none → t.dnn = dnn

section

variable {cfg : List AddPool} {s : SmfContexts} {k : SessionKey} {o : ℕ} {t : AddressedSession} {dnn : DnnLabel}
  {req : CreateRequest}

theorem SessionInv.init (hcfg : PoolsDisjoint cfg) : SessionInv cfg (.init cfg) where
  pools := .init hcfg
  leased a := ⟨fun h => absurd h (Finset.notMem_empty a), fun ⟨_, _, h, _⟩ => nomatch h⟩
  owner _ _ _ _ _ h := nomatch h
  inTable _ _ h := nomatch h
  range _ _ _ h := nomatch h
  numbered _ _ h := nomatch h
  tableNumbered _ _ h := nomatch h
  injective _ _ _ h := nomatch h
  refs _ _ h := nomatch h
  generated _ _ h := nomatch h
  releasing _ _ _ h := nomatch h

theorem SessionInv.leasedExactly (h : SessionInv cfg s) : LeasedExactly cfg s where
  pools := h.pools.leasesExact
  leased a := by
    rw [h.leased]
    constructor
    · rintro ⟨o, t, ht, hdyn, ha⟩
      obtain ⟨k, hk⟩ := h.inTable o t ht (by rw [ha]; exact Option.some_ne_none a)
      exact ⟨k, t, ⟨o, hk, ht⟩, hdyn, ha⟩
    · rintro ⟨k, t, ⟨o, -, ht⟩, hdyn, ha⟩
      exact ⟨o, t, ht, hdyn, ha⟩
  one := by
    rintro k k' t t' a ⟨o, hk, ht⟩ ⟨o', hk', ht'⟩ hdyn ha ha'
    obtain rfl := h.owner o o' t t' a ht ht' hdyn ha ha'
    exact h.injective k k' o hk hk'

/-! ### Steps that leave the addresses -/

theorem SessionInv.removePduSession (h : SessionInv cfg s) (hk : ∀ t, s.At k t → t.ipv4 = none) :
    SessionInv cfg (s.removePduSession k) := by
  have hold {k' : SessionKey} {o : ℕ} (hmem : (s.removePduSession k).pduSessions k' = some o) :
      s.pduSessions k' = some o := (update_none_eq_some.mp hmem).1
  refine { h with inTable := ?_, tableNumbered := ?_, injective := ?_, refs := ?_ }
  · intro o t ht haddr
    obtain ⟨k', hk'⟩ := h.inTable o t ht haddr
    have hne : k' ≠ k := by
      rintro rfl
      exact haddr (hk t ⟨o, hk', ht⟩)
    exact ⟨k', update_none_eq_some.mpr ⟨hk', hne⟩⟩
  · exact fun k' o hk' => h.tableNumbered k' o (hold hk')
  · exact fun k' k'' o hk' hk'' => h.injective k' k'' o (hold hk') (hold hk'')
  · exact fun k' o hk' => h.refs k' o (hold hk')

theorem SessionInv.isScid2SmfContext (h : SessionInv cfg s) (hk : s.pduSessions k ≠ none) :
    s.isScid2SmfContext k = true := by
  obtain ⟨o, ho⟩ := Option.ne_none_iff_exists'.mp hk
  obtain ⟨scid, hmem⟩ := h.refs k o ho
  exact List.any_eq_true.mpr ⟨_, hmem, decide_eq_true rfl⟩

theorem SessionInv.removeColliding (h : SessionInv cfg s) (k : SessionKey) :
    (if s.isScid2SmfContext k then s.removePduSession k else s) = s.removePduSession k := by
  split_ifs with href
  · rfl
  · have hnone : s.pduSessions k = none := by
      by_contra hsome
      exact href (h.isScid2SmfContext hsome)
    unfold SmfContexts.removePduSession
    rw [← hnone, Function.update_eq_self]

theorem SessionInv.setProcedure (h : SessionInv cfg s) {trxn : ℕ} {p : Option SmProcedure}
    (hp : ∀ o dnn, p = some (.release o dnn) → o < s.count ∧ ∀ t, s.sessions o = some t → t.ipv4 ≠ none → t.dnn = dnn) :
    SessionInv cfg { s with procedures := Function.update s.procedures trxn p } := by
  refine { h with releasing := ?_ }
  intro trxn' o dnn hproc
  dsimp only at hproc
  rw [Function.update_apply] at hproc
  split at hproc
  · exact hp o dnn hproc
  · exact h.releasing trxn' o dnn hproc

theorem SessionInv.setPolicies (h : SessionInv cfg s) (policies : Finset ℕ) :
    SessionInv cfg { s with policies := policies } := { h with }

theorem sessionOf_eq_some {scid : ℕ} (hs : s.sessionOf scid = some (o, t)) : s.sessions o = some t := by
  unfold SmfContexts.sessionOf at hs
  obtain ⟨k, -, hs⟩ := Option.bind_eq_some_iff.mp hs
  obtain ⟨o', -, hs⟩ := Option.bind_eq_some_iff.mp hs
  obtain ⟨t', ht', heq⟩ := Option.map_eq_some_iff.mp hs
  cases heq
  exact ht'

/-! ### Releases -/

theorem rangesOf_any_of_static {a : Addr} (h : ∀ x ∈ ranges cfg, x.2.contains a = false) (dnn : DnnLabel) :
    ¬ (rangesOf cfg dnn).any (·.contains a) = true := by
  rw [List.any_eq_true]
  rintro ⟨c, hc, hin⟩
  rw [h _ (mem_rangesOf.mp hc)] at hin
  cases hin

theorem SessionInv.deallocate_leased (h : SessionInv cfg s) (ht : s.sessions o = some t)
    (hdnn : t.ipv4 ≠ none → t.dnn = dnn) (a : Addr) :
    a ∈ (s.deallocateRessources cfg o dnn).paa.leased ↔
      a ∈ s.paa.leased ∧ ¬ (t.dynamic = true ∧ t.ipv4 = some a) := by
  unfold SmfContexts.deallocateRessources
  rw [ht]
  dsimp only
  cases haddr : t.ipv4 with
  | none => simp
  | some b =>
    have hrange := h.range o t b ht haddr
    rw [hdnn (by rw [haddr]; exact Option.some_ne_none b)] at hrange
    have hreleases : releases cfg dnn none b = (rangesOf cfg dnn).any (·.contains b) := Bool.true_and _
    simp only [Option.elim_some, paaStep, hreleases, Option.some_inj]
    cases hdyn : t.dynamic with
    | true =>
      rw [hdyn, if_pos rfl] at hrange
      rw [if_pos hrange, Finset.mem_erase, and_comm]
      simp [eq_comm]
    | false =>
      rw [hdyn, if_neg (by decide)] at hrange
      rw [if_neg (rangesOf_any_of_static hrange dnn)]
      simp

theorem SessionInv.deallocateRessources (h : SessionInv cfg s) (hcfg : PoolsDisjoint cfg)
    (hsize : ∀ x ∈ ranges cfg, 0 ≤ x.2.range.toInt) (hdnn : ∀ t, s.sessions o = some t → t.ipv4 ≠ none → t.dnn = dnn)
    (hfind : ∀ t a, s.sessions o = some t → t.ipv4 = some a → ReleaseFinds cfg (.releasePaa dnn none a)) :
    SessionInv cfg (s.deallocateRessources cfg o dnn) := by
  cases ht : s.sessions o with
  | none =>
    have heq : s.deallocateRessources cfg o dnn = s := by
      unfold SmfContexts.deallocateRessources
      rw [ht]
    rw [heq]
    exact h
  | some t =>
    have hleased := h.deallocate_leased ht (hdnn t ht)
    unfold SmfContexts.deallocateRessources at hleased ⊢
    rw [ht] at hleased ⊢
    dsimp only at hleased ⊢
    -- a session with an address is another one, and it stays
    have hold {o' : ℕ} {t' : AddressedSession} (hmem : Function.update s.sessions o (some t.clear) o' = some t')
        (haddr : t'.ipv4 ≠ none) : o' ≠ o ∧ s.sessions o' = some t' := by
      rw [Function.update_apply] at hmem
      split at hmem
      · cases hmem
        exact absurd rfl haddr
      · exact ⟨‹_›, hmem⟩
    have haddr {t' : AddressedSession} {a : Addr} (ha : t'.ipv4 = some a) : t'.ipv4 ≠ none := by
      rw [ha]
      exact Option.some_ne_none a
    have hnumbered : ∀ o' t', Function.update s.sessions o (some t.clear) o' = some t' → o' < s.count := by
      intro o' t' hmem
      rw [Function.update_apply] at hmem
      split at hmem
      · subst o'
        exact h.numbered o t ht
      · exact h.numbered o' t' hmem
    refine { h with
      pools := ?_, leased := ?_, owner := ?_, inTable := ?_, range := ?_, numbered := hnumbered, releasing := ?_ }
    · cases ha : t.ipv4 with
      | none => exact h.pools
      | some a => exact h.pools.releasePaa hcfg hsize dnn none a (hfind t a ht ha)
    · intro a
      rw [hleased, h.leased]
      constructor
      · rintro ⟨⟨o', t', ht', hdyn, ha⟩, hnot⟩
        have hne : o' ≠ o := by
          rintro rfl
          cases ht.symm.trans ht'
          exact hnot ⟨hdyn, ha⟩
        exact ⟨o', t', (Function.update_of_ne hne _ _).trans ht', hdyn, ha⟩
      · rintro ⟨o', t', hmem, hdyn, ha⟩
        obtain ⟨hne, ht'⟩ := hold hmem (haddr ha)
        refine ⟨⟨o', t', ht', hdyn, ha⟩, fun hheld => hne ?_⟩
        exact h.owner o' o t' t a ht' ht hdyn ha hheld.2
    · intro o' o'' t' t'' a hmem hmem' hdyn ha ha'
      exact h.owner o' o'' t' t'' a (hold hmem (haddr ha)).2 (hold hmem' (haddr ha')).2 hdyn ha ha'
    · exact fun o' t' hmem ha => h.inTable o' t' (hold hmem ha).2 ha
    · exact fun o' t' a hmem ha => h.range o' t' a (hold hmem (haddr ha)).2 ha
    · intro trxn o' dnn' hproc
      refine ⟨(h.releasing trxn o' dnn' hproc).1, fun t' hmem ha => ?_⟩
      exact (h.releasing trxn o' dnn' hproc).2 t' (hold hmem ha).2 ha

/-! ### A new session -/

/-- **The address of a new session**: a dynamic one was not leased, a static one is in no pool. -/
theorem assignPaa_spec {s : PaaState} {configuration : Option DnnConfiguration} {type : PduSessionType} {paa : PaaState}
    {x : AssignedPaa} (hs : PaaInv cfg s) (hcfg : PoolsDisjoint cfg) (hsize : ∀ x ∈ ranges cfg, 0 ≤ x.2.range.toInt)
    (hstatic : ∀ a, staticAddress configuration = some a → ∀ x ∈ ranges cfg, x.2.contains a = false)
    (h : assignPaa cfg s configuration type req = (paa, some x)) :
    PaaInv cfg paa ∧
      (∀ a, a ∈ paa.leased ↔ a ∈ s.leased ∨ x.dynamic = true ∧ x.paa.ipv4Address = some a) ∧
      ∀ a, x.paa.ipv4Address = some a →
        if x.dynamic then a ∉ s.leased ∧ (rangesOf cfg req.dnn).any (·.contains a) = true
        else ∀ x ∈ ranges cfg, x.2.contains a = false := by
  unfold assignPaa at h
  split_ifs at h
  swap
  · cases h
  cases hconf : staticAddress configuration with
  | some a =>
    rw [hconf] at h
    cases h
    refine ⟨hs, fun b => by simp, ?_⟩
    rintro _ ⟨⟩
    exact hstatic a hconf
  | none =>
    rw [hconf] at h
    dsimp only at h
    obtain ⟨hrule, hinv⟩ := hs.getFreePaa hcfg hsize req.dnn (dynamicType configuration)
    obtain ⟨rfl, hget⟩ := Prod.mk.injEq .. ▸ h
    obtain ⟨r, hr, rfl⟩ := Option.map_eq_some_iff.mp hget
    have hhanded : handedOut s req.dnn (dynamicType configuration) = r.ipv4Address := by
      unfold handedOut
      rw [hr]
      rfl
    refine ⟨hinv, fun a => ?_, fun a ha => ?_⟩
    · dsimp only [paaStep]
      rw [hhanded]
      cases r.ipv4Address with
      | none => simp
      | some b => simp [or_comm, eq_comm]
    · rw [if_pos rfl]
      obtain ⟨hnot, c, hc, hin⟩ := hrule.1 a (hhanded.trans ha)
      exact ⟨hnot, List.any_eq_true.mpr ⟨c, hc, hin⟩⟩

/-- A new session shares only a static address, with a session that has it statically, too. -/
theorem SessionInv.static_of_shared (h : SessionInv cfg s)
    (haddr : ∀ a, t.ipv4 = some a →
      if t.dynamic then a ∉ s.paa.leased ∧ (rangesOf cfg t.dnn).any (·.contains a) = true
      else ∀ x ∈ ranges cfg, x.2.contains a = false)
    {o : ℕ} {t' : AddressedSession} {a : Addr} (ht' : s.sessions o = some t') (ha' : t'.ipv4 = some a)
    (ha : t.ipv4 = some a) : t.dynamic = false ∧ t'.dynamic = false := by
  have hnew := haddr a ha
  have hold := h.range o t' a ht' ha'
  cases hdyn : t.dynamic <;> cases hdyn' : t'.dynamic
  · exact ⟨rfl, rfl⟩
  · rw [hdyn, if_neg (by decide)] at hnew
    rw [hdyn', if_pos rfl] at hold
    exact absurd hold (rangesOf_any_of_static hnew t'.dnn)
  · rw [hdyn, if_pos rfl] at hnew
    rw [hdyn', if_neg (by decide)] at hold
    exact absurd hnew.2 (rangesOf_any_of_static hold t.dnn)
  · rw [hdyn, if_pos rfl] at hnew
    exact absurd ((h.leased a).mpr ⟨o, t', ht', hdyn', ha'⟩) hnew.1

/-- A session with an address that is not in use, under a key that has none. -/
theorem SessionInv.newSession (h : SessionInv cfg s) {paa : PaaState} {refs : List (ℕ × SessionKey)}
    {generator : UintGenerator} {policies : Finset ℕ} (hk : s.pduSessions k = none) (hpaa : PaaInv cfg paa)
    (hleased : ∀ a, a ∈ paa.leased ↔ a ∈ s.paa.leased ∨ t.dynamic = true ∧ t.ipv4 = some a)
    (haddr : ∀ a, t.ipv4 = some a →
      if t.dynamic then a ∉ s.paa.leased ∧ (rangesOf cfg t.dnn).any (·.contains a) = true
      else ∀ x ∈ ranges cfg, x.2.contains a = false)
    (hrefs : ∀ k', (∃ scid, (scid, k') ∈ s.scid2smfContext) ∨ k' = k → ∃ scid, (scid, k') ∈ refs)
    (hgenerated : ∀ scid k', (scid, k') ∈ refs → scid ∈ generator.uidGenerated) :
    SessionInv cfg
      { s with
        paa := paa
        sessions := Function.update s.sessions s.count (some t)
        count := s.count + 1
        pduSessions := Function.update s.pduSessions k (some s.count)
        scid2smfContext := refs
        smContextRefGenerator := generator
        policies := policies } := by
  have hne {o : ℕ} {t' : AddressedSession} (ht' : s.sessions o = some t') : o ≠ s.count := (h.numbered o t' ht').ne
  constructor
  case pools =>
    exact hpaa
  case leased =>
    intro a
    rw [hleased, h.leased]
    constructor
    · rintro (⟨o, t', ht', hdyn, ha⟩ | ⟨hdyn, ha⟩)
      · exact ⟨o, t', update_some_eq_some.mpr (.inr ⟨hne ht', ht'⟩), hdyn, ha⟩
      · exact ⟨s.count, t, update_some_eq_some.mpr (.inl ⟨rfl, rfl⟩), hdyn, ha⟩
    · rintro ⟨o, t', ht', hdyn, ha⟩
      rcases update_some_eq_some.mp ht' with ⟨rfl, rfl⟩ | ⟨-, hold⟩
      · exact .inr ⟨hdyn, ha⟩
      · exact .inl ⟨o, t', hold, hdyn, ha⟩
  case owner =>
    intro o o' t₁ t₂ a ht₁ ht₂ hdyn ha₁ ha₂
    rcases update_some_eq_some.mp ht₁ with ⟨rfl, rfl⟩ | ⟨-, hold₁⟩ <;>
      rcases update_some_eq_some.mp ht₂ with ⟨rfl, rfl⟩ | ⟨-, hold₂⟩
    · rfl
    · exact absurd hdyn (by rw [(h.static_of_shared haddr hold₂ ha₂ ha₁).1]; decide)
    · exact absurd hdyn (by rw [(h.static_of_shared haddr hold₁ ha₁ ha₂).2]; decide)
    · exact h.owner o o' t₁ t₂ a hold₁ hold₂ hdyn ha₁ ha₂
  case inTable =>
    intro o t' ht' ha
    rcases update_some_eq_some.mp ht' with ⟨rfl, rfl⟩ | ⟨-, hold⟩
    · exact ⟨k, update_some_eq_some.mpr (.inl ⟨rfl, rfl⟩)⟩
    · obtain ⟨k', hk'⟩ := h.inTable o t' hold ha
      refine ⟨k', update_some_eq_some.mpr (.inr ⟨?_, hk'⟩)⟩
      rintro rfl
      rw [hk] at hk'
      cases hk'
  case range =>
    intro o t' a ht' ha
    rcases update_some_eq_some.mp ht' with ⟨rfl, rfl⟩ | ⟨-, hold⟩
    · have hnew := haddr a ha
      split_ifs with hdyn
      · rw [if_pos hdyn] at hnew
        exact hnew.2
      · rw [if_neg hdyn] at hnew
        exact hnew
    · exact h.range o t' a hold ha
  case numbered =>
    intro o t' ht'
    rcases update_some_eq_some.mp ht' with ⟨rfl, rfl⟩ | ⟨-, hold⟩
    · exact Nat.lt_succ_self _
    · exact (h.numbered o t' hold).trans (Nat.lt_succ_self _)
  case tableNumbered =>
    intro k' o hk'
    rcases update_some_eq_some.mp hk' with ⟨rfl, rfl⟩ | ⟨-, hold⟩
    · exact Nat.lt_succ_self _
    · exact (h.tableNumbered k' o hold).trans (Nat.lt_succ_self _)
  case injective =>
    intro k₁ k₂ o hk₁ hk₂
    rcases update_some_eq_some.mp hk₁ with ⟨rfl, heq⟩ | ⟨-, hold₁⟩ <;>
      rcases update_some_eq_some.mp hk₂ with ⟨rfl, heq'⟩ | ⟨-, hold₂⟩
    · rfl
    · exact absurd (h.tableNumbered k₂ o hold₂) (by rw [heq]; exact lt_irrefl _)
    · exact absurd (h.tableNumbered k₁ o hold₁) (by rw [heq']; exact lt_irrefl _)
    · exact h.injective k₁ k₂ o hold₁ hold₂
  case refs =>
    intro k' o hk'
    rcases update_some_eq_some.mp hk' with ⟨rfl, rfl⟩ | ⟨-, hold⟩
    · exact hrefs k' (.inr rfl)
    · exact hrefs k' (.inl (h.refs k' o hold))
  case generated =>
    exact hgenerated
  case releasing =>
    intro trxn o dnn hproc
    obtain ⟨hlt, hdnn⟩ := h.releasing trxn o dnn hproc
    refine ⟨hlt.trans (Nat.lt_succ_self _), fun t' ht' ha => ?_⟩
    rcases update_some_eq_some.mp ht' with ⟨rfl, rfl⟩ | ⟨-, hold⟩
    · exact absurd hlt (lt_irrefl _)
    · exact hdnn t' hold ha

/-! ### One request -/

theorem CreateRequest.type_of_valid (h : req.valid = true) :
    req.pduSessionType = .ipv4 ∨ req.pduSessionType = .ipv4v6 := by
  simp only [CreateRequest.valid, Bool.and_eq_true, Bool.or_eq_true, decide_eq_true_eq] at h
  exact h.1.1.1.1.1.1.1.2

theorem CreateRequest.identity_of_valid (h : req.valid = true) :
    1 ≤ req.pduSessionIdentity ∧ req.pduSessionIdentity ≤ 15 := by
  simp only [CreateRequest.valid, Bool.and_eq_true, decide_eq_true_eq, ne_eq] at h
  have hne : req.pduSessionIdentity ≠ 0 := by simpa using h.1.1.1.1.2
  refine ⟨?_, h.1.1.1.2⟩
  rw [UInt8.le_iff_toNat_le]
  exact Nat.pos_of_ne_zero fun hzero => hne (UInt8.toNat_inj.mp hzero)

variable (cfg) in
theorem assignPaa_isSome {configuration : Option DnnConfiguration} (hvalid : req.valid = true)
    (h : s.AddressAvailable configuration req) :
    ∃ paa x, assignPaa cfg s.paa configuration req.pduSessionType req = (paa, some x) := by
  have htype : (req.pduSessionType = .ipv4v6 || (req.pduSessionType = .ipv4 && !req.dhcpv4)) = true := by
    have hdhcp := h.1
    rcases CreateRequest.type_of_valid hvalid with htype | htype
    · have hnot : req.dhcpv4 = false := by
        rw [← Bool.not_eq_true]
        exact fun hd => hdhcp ⟨htype, hd⟩
      simp [htype, hnot]
    · simp [htype]
  unfold assignPaa
  rw [if_pos htype]
  cases hconf : staticAddress configuration with
  | some a => exact ⟨_, _, rfl⟩
  | none =>
    obtain ⟨r, hr⟩ := Option.isSome_iff_exists.mp (h.2 hconf)
    dsimp only
    rw [hr]
    exact ⟨_, _, rfl⟩

theorem handleCreate_accepted {scid trxn : ℕ} {configuration : Option DnnConfiguration} {paa : PaaState}
    {x : AssignedPaa} {refs : List (ℕ × SessionKey)} {generator : UintGenerator}
    (hid : req.pduSessionId = req.pduSessionIdentity)
    (hrange : 1 ≤ req.pduSessionIdentity ∧ req.pduSessionIdentity ≤ 15) (hk : s.pduSessions req.refKey = none)
    (hassign : assignPaa cfg s.paa configuration req.pduSessionType req = (paa, some x))
    (htrxn : req.n4Transaction = some trxn) :
    { s with scid2smfContext := refs, smContextRefGenerator := generator }.handleCreate cfg scid configuration req =
      ({ s with
          paa := paa
          scid2smfContext := refs
          smContextRefGenerator := generator
          sessions := Function.update s.sessions s.count (some ⟨x.type, req.dnn, x.paa.ipv4Address, x.dynamic,
            if req.policyCreated then some scid else none⟩)
          count := s.count + 1
          pduSessions := Function.update s.pduSessions req.refKey (some s.count)
          policies := if req.policyCreated then insert scid s.policies else s.policies
          procedures := Function.update s.procedures trxn (some (.create s.count scid)) }, .accepted) := by
  have hkey : req.sessionKey = req.refKey := by
    unfold CreateRequest.sessionKey CreateRequest.refKey
    rw [hid]
  rw [← hid] at hrange
  have hadd : { s with scid2smfContext := refs, smContextRefGenerator := generator }.findOrAdd req =
      ({ s with
          scid2smfContext := refs
          smContextRefGenerator := generator
          sessions := Function.update s.sessions s.count (some ⟨req.pduSessionType, req.dnn, none, false, none⟩)
          count := s.count + 1
          pduSessions := Function.update s.pduSessions req.refKey (some s.count) },
        s.count, ⟨req.pduSessionType, req.dnn, none, false, none⟩) := by
    unfold SmfContexts.findOrAdd
    rw [hkey, hk]
    dsimp only [Option.bind_none]
    rw [if_pos hrange]
  unfold SmfContexts.handleCreate
  rw [hadd]
  dsimp only
  rw [hassign, htrxn]
  simp only [Function.update_self, Function.update_idem]

theorem setScid2SmfContext_mem {scid : ℕ} (h : SessionInv cfg s)
    (hfresh : scid ∉ s.smContextRefGenerator.uidGenerated) {k' : SessionKey}
    (hk : (∃ scid', (scid', k') ∈ s.scid2smfContext) ∨ k' = k) :
    ∃ scid', (scid', k') ∈ s.setScid2SmfContext scid k := by
  unfold SmfContexts.setScid2SmfContext
  rcases hk with ⟨scid', hmem⟩ | rfl
  · have hne : scid' ≠ scid := by
      rintro rfl
      exact hfresh (h.generated scid' k' hmem)
    exact ⟨scid', List.mem_cons_of_mem _ (List.mem_filter.mpr ⟨hmem, decide_eq_true hne⟩)⟩
  · exact ⟨scid, List.mem_cons_self⟩

/-- **A conforming request** is accepted, or refused before it leaves anything. -/
theorem SessionInv.createSmContext (h : SessionInv cfg s) (hcfg : PoolsDisjoint cfg)
    (hsize : ∀ x ∈ ranges cfg, 0 ≤ x.2.range.toInt) (hc : RequestConforms cfg s (.createRequest req)) :
    SessionInv cfg (s.createSmContext cfg req).1 ∧
      ((s.createSmContext cfg req).2 = .refused → (s.createSmContext cfg req).1 = s ∨
        (s.createSmContext cfg req).1 = s.removePduSession req.refKey ∧ ∀ t, s.At req.refKey t → s.HoldsNothing t) := by
  unfold SmfContexts.createSmContext
  by_cases hvalid : req.valid = true
  swap
  · rw [if_neg hvalid]
    exact ⟨h, fun _ => .inl rfl⟩
  rw [if_pos hvalid]
  obtain ⟨hcollides, haccept⟩ := hc hvalid
  have hremoved := h.removePduSession fun t ht => (hcollides t ht).1
  rw [h.removeColliding req.refKey]
  dsimp only
  cases hsub : req.subscription with
  | none => exact ⟨hremoved, fun _ => .inr ⟨rfl, hcollides⟩⟩
  | some configuration =>
    obtain ⟨hid, haddr, hstatic, hn4⟩ := haccept configuration hsub
    obtain ⟨trxn, htrxn⟩ := Option.isSome_iff_exists.mp hn4
    dsimp only
    cases hget : (s.removePduSession req.refKey).smContextRefGenerator.getUid 32 with
    | none => exact ⟨hremoved, fun _ => .inr ⟨rfl, hcollides⟩⟩
    | some given =>
      obtain ⟨generator, scid⟩ := given
      obtain ⟨hfresh, rfl⟩ := UintGenerator.getUid_spec hget
      obtain ⟨paa, x, hassign⟩ := assignPaa_isSome cfg hvalid haddr
      have hk : (s.removePduSession req.refKey).pduSessions req.refKey = none := Function.update_self ..
      dsimp only
      rw [handleCreate_accepted hid (CreateRequest.identity_of_valid hvalid) hk hassign htrxn]
      refine ⟨?_, fun hrefused => nomatch hrefused⟩
      obtain ⟨hpaa, hleased, hrange⟩ := assignPaa_spec hremoved.pools hcfg hsize hstatic hassign
      refine (hremoved.newSession hk hpaa hleased hrange
        (fun k' => setScid2SmfContext_mem hremoved hfresh) ?_).setProcedure fun o dnn hp => nomatch hp
      intro scid' k' hmem
      rw [Finset.mem_insert]
      rcases List.mem_cons.mp hmem with heq | hmem
      · exact .inl (congrArg Prod.fst heq)
      · exact .inr (hremoved.generated scid' k' (List.mem_filter.mp hmem).1)

/-- **One step.** -/
theorem SessionInv.smContextStep (h : SessionInv cfg s) (hcfg : PoolsDisjoint cfg)
    (hsize : ∀ x ∈ ranges cfg, 0 ≤ x.2.range.toInt) {e : SmContextEvent} (hc : RequestConforms cfg s e) :
    SessionInv cfg (smContextStep cfg s e) := by
  cases e with
  | createRequest req => exact (h.createSmContext hcfg hsize hc).1
  | establishmentResponse trxn accepted =>
    dsimp only [Smf.smContextStep]
    split
    · exact h.setProcedure fun o dnn hp => nomatch hp
    · exact h
  | releaseRequest scid n4Transaction =>
    dsimp only [Smf.smContextStep]
    split
    · rename_i o t trxn hsession
      refine h.setProcedure fun o' dnn hp => ?_
      cases hp
      have ht := sessionOf_eq_some hsession
      refine ⟨h.numbered o t ht, fun t' ht' _ => ?_⟩
      cases ht.symm.trans ht'
      rfl
    · exact h
  | deletionResponse trxn =>
    dsimp only [Smf.smContextStep]
    split
    · rename_i o dnn hproc
      have hreleased := h.deallocateRessources hcfg hsize (h.releasing trxn o dnn hproc).2
        fun t a ht ha => hc o dnn t a hproc ht ha
      exact hreleased.setProcedure fun o' dnn' hp => nomatch hp
    · exact h
  | releaseComplete scid =>
    dsimp only [Smf.smContextStep]
    split
    · exact h.setPolicies _
    · exact h

theorem SessionInv.requestFollows (h : SessionInv cfg s) (hcfg : PoolsDisjoint cfg)
    (hsize : ∀ x ∈ ranges cfg, 0 ≤ x.2.range.toInt) {e : SmContextEvent} (hc : RequestConforms cfg s e) :
    RequestFollows cfg s e := by
  cases e with
  | createRequest req =>
    intro hrefused
    dsimp only [Smf.smContextStep]
    rcases (h.createSmContext hcfg hsize hc).2 hrefused with heq | ⟨heq, hcollides⟩
    · rw [heq]
      have hstays {t : AddressedSession} (hnone : s.pduSessions req.refKey = none) : ¬ s.At req.refKey t := by
        rintro ⟨o, ho, -⟩
        rw [hnone] at ho
        cases ho
      refine ⟨rfl, fun _ => .inl rfl, fun id => (and_iff_left ?_).symm, fun a => (and_iff_left ?_).symm⟩
      · rintro ⟨hnone, t, ht, -⟩
        exact hstays hnone ht
      · rintro ⟨hnone, t, ht, -⟩
        exact hstays hnone ht
    · rw [heq]
      refine ⟨rfl, fun k => ?_, fun id => ⟨fun hid => ⟨hid, ?_⟩, And.left⟩, fun a => (and_iff_left ?_).symm⟩
      · by_cases hk : k = req.refKey
        · exact .inr ⟨hk, by rw [hk]; exact Function.update_self ..⟩
        · exact .inl (Function.update_of_ne hk _ _)
      · rintro ⟨-, t, ht, hpolicy⟩
        exact (hcollides t ht).2 id hpolicy hid
      · rintro ⟨-, t, ht, -, ha⟩
        rw [(hcollides t ht).1] at ha
        cases ha
  | establishmentResponse trxn accepted =>
    rintro rfl o scid hproc
    rcases hc with hc | hc
    · cases hc
    · exact absurd hproc (hc o scid)
  | releaseRequest scid n4Transaction =>
    dsimp only [RequestFollows, Smf.smContextStep]
    split <;> rfl
  | deletionResponse trxn =>
    intro o dnn t hproc ht a
    dsimp only [Smf.smContextStep]
    rw [hproc]
    exact h.deallocate_leased ht ((h.releasing trxn o dnn hproc).2 t ht) a
  | releaseComplete scid =>
    dsimp only [RequestFollows, Smf.smContextStep]
    split <;> rfl

end

end SmfContexts

/-! ## Runs -/

section

open SmfContexts

/-- A request of an IPv4 session of a UE. -/
def ipv4Request (supi : UInt64) (trxn : ℕ) : CreateRequest :=
  ⟨supi, 1, true, 1, 1, 0xC1, .ipv4, true, [], true, some none, true, false, some trxn⟩

/-- A session is established and released, and a second request for it is refused. -/
def oneSession : List SmContextEvent :=
  [.createRequest (ipv4Request 1 1), .establishmentResponse 1 true, .releaseRequest 1 (some 2), .deletionResponse 2,
    .releaseComplete 1, .createRequest { ipv4Request 1 3 with subscription := none }]

end

end Oai5g.Smf
