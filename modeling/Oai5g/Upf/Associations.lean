import Oai5g.Upf.Switch

/-!
# Associations of the UPF

`pfcp_association` and `pfcp_associations`, beside the tables of `pfcp_switch`.

* The `std::set` of CP F-SEIDs of an association is the list of its elements in the order of `Fseid.lt`.
* `associations` is the list of the associations with different keys; the key is computed from the Node
  ID, which never changes. `std::hash<std::string>` is a parameter.
* `UpfN4.peer` is not in the source: it remembers the Node ID of the request that established a session.
* `n4Step`: association setups, heartbeats, their loss and the three session requests.
-/

namespace Oai5g.Upf

/-! ## Keys -/

/-- `node_id_t`. -/
inductive NodeId
  | ipv4 (address : UInt32)
  | ipv6 (w₀ w₁ w₂ w₃ : UInt32)
  | fqdn (name : String)
  | unknown
  deriving DecidableEq, Repr

/-- `node_id_t::operator==`. -/
def NodeId.same (n m : NodeId) : Bool := n = m && n ≠ .unknown

/-- `std::hash<pfcp::node_id_t>`, with the one for a string. -/
def NodeId.hash (hashString : String → UInt64) : NodeId → UInt64
  | .ipv4 address => address.toUInt64
  | .ipv6 w₀ w₁ w₂ w₃ => (w₀ ^^^ w₁ ^^^ w₂ ^^^ w₃).toUInt64
  | .fqdn name => hashString name
  | .unknown => 0

/-- The key of the table: the hash as an `int32_t`. -/
def NodeId.key (hashString : String → UInt64) (n : NodeId) : UInt32 := (n.hash hashString).toUInt32

/-- `fseid_t::operator<`. -/
def Fseid.lt (f g : Fseid) : Bool :=
  if g.seid < f.seid then true
  else if f.seid < g.seid then false
  else if f.v4 = g.v4 ∧ f.ipv4Address < g.ipv4Address then true
  else if f.v4 = g.v4 ∧ g.ipv4Address < f.ipv4Address then false
  else if f.v4 ≠ g.v4 ∧ f.v4 then true
  else if f.v6 = g.v6 then g.ipv6Address < f.ipv6Address
  else f.v6

/-- `std::set::insert`. -/
def insertFseid (f : Fseid) : List Fseid → List Fseid
  | [] => [f]
  | g :: l => if f = g then g :: l else if f.lt g then f :: g :: l else g :: insertFseid f l

/-! ## Associations -/

/-- `PFCP_ASSOCIATION_HEARTBEAT_MAX_RETRIES` -/
def PFCP_ASSOCIATION_HEARTBEAT_MAX_RETRIES : ℕ := 5

/-- `pfcp_association`. -/
structure PfcpAssociation where
  nodeId : NodeId
  sessions : List Fseid
  numRetriesTimerHeartbeat : ℕ
  deriving DecidableEq, Repr

namespace PfcpAssociation

/-- `pfcp_association(const pfcp::node_id_t&)`. -/
def ofNode (node : NodeId) : PfcpAssociation := ⟨node, [], 0⟩

/-- `notify_add_session` -/
def notifyAddSession (fseid : Fseid) (a : PfcpAssociation) : PfcpAssociation :=
  { a with sessions := insertFseid fseid a.sessions }

/-- `notify_del_session` -/
def notifyDelSession (fseid : Fseid) (a : PfcpAssociation) : PfcpAssociation :=
  { a with sessions := a.sessions.filter (· ≠ fseid) }

/-- `has_session` -/
def hasSession (fseid : Fseid) (a : PfcpAssociation) : Bool := fseid ∈ a.sessions

/-- The number of unanswered heartbeats. -/
def setRetries (n : ℕ) (a : PfcpAssociation) : PfcpAssociation :=
  { a with numRetriesTimerHeartbeat := n }

end PfcpAssociation

/-- `pfcp_switch` and `pfcp_associations`. -/
structure UpfN4 where
  switch : PfcpSwitch
  pendingAssociations : List PfcpAssociation
  associations : List PfcpAssociation
  /-- The Node ID of the request that established a session. -/
  peer : ℕ → NodeId

namespace UpfN4

variable (hashString : String → UInt64)

/-- No association. -/
def init : UpfN4 := ⟨.init, [], [], fun _ => .unknown⟩

/-- The association under a key is changed. -/
def modifyAssociation (key : UInt32) (f : PfcpAssociation → PfcpAssociation) (s : UpfN4) : UpfN4 :=
  { s with associations := s.associations.map fun a => if a.nodeId.key hashString = key then f a else a }

/-- `add_peer_candidate_node`. -/
def addPeerCandidateNode (node : NodeId) (s : UpfN4) : UpfN4 :=
  { s with pendingAssociations :=
      s.pendingAssociations.eraseP (fun a => a.nodeId.same node) ++ [.ofNode node] }

/-- `add_association`: a candidate becomes an association, unless its key is taken. -/
def addAssociation (node : NodeId) (s : UpfN4) : UpfN4 :=
  match s.pendingAssociations.find? fun a => a.nodeId.same node with
  | none => s
  | some a =>
    let s := { s with
      pendingAssociations := s.pendingAssociations.eraseP fun a => a.nodeId.same node }
    if s.associations.any fun b => b.nodeId.key hashString = node.key hashString then s
    else { s with associations := s.associations ++ [a] }

/-- `notify_add_session(const pfcp::node_id_t&, ..)`. -/
def notifyAddSession (node : NodeId) (fseid : Fseid) (s : UpfN4) : UpfN4 :=
  s.modifyAssociation hashString (node.key hashString) (·.notifyAddSession fseid)

/-- `notify_del_session(const pfcp::fseid_t&)`: the first association that remembers it. -/
def notifyDelSession (fseid : Fseid) (s : UpfN4) : UpfN4 :=
  match s.associations.find? fun a => a.hasSession fseid with
  | none => s
  | some a => s.modifyAssociation hashString (a.nodeId.key hashString) (·.notifyDelSession fseid)

/-- `pfcp_association::del_sessions`. -/
def delSessions (fseids : List Fseid) (switch : PfcpSwitch) : PfcpSwitch :=
  fseids.foldl (fun switch fseid => switch.removePfcpSessionByFseid fseid) switch

/-- `initiate_heartbeat_request`, for the association with this hash. -/
def initiateHeartbeatRequest (hash : UInt64) (s : UpfN4) : UpfN4 :=
  { s with associations := s.associations.map fun a =>
      if a.nodeId.hash hashString = hash then a.setRetries 0 else a }

/-- `timeout_heartbeat_request`: after the last retry the sessions are removed and the association is a
candidate again. -/
def timeoutHeartbeatRequest (hash : UInt64) (s : UpfN4) : UpfN4 :=
  match s.associations.find? fun a => a.nodeId.hash hashString = hash with
  | none => s
  | some a =>
    if a.numRetriesTimerHeartbeat < PFCP_ASSOCIATION_HEARTBEAT_MAX_RETRIES then
      s.modifyAssociation hashString (a.nodeId.key hashString)
        (·.setRetries (a.numRetriesTimerHeartbeat + 1))
    else
      addPeerCandidateNode a.nodeId { s with
        switch := delSessions a.sessions s.switch
        associations := s.associations.filter fun b => b.nodeId.key hashString ≠ hash.toUInt32 }

/-- `handle_pfcp_session_establishment_request` with the association; a missing Node ID is `{}`. -/
def handleEstablishment (cfg : UpfCfg) (node : Option NodeId) (req : EstablishmentRequest) (s : UpfN4) :
    UpfN4 :=
  let x := s.switch.handlePfcpSessionEstablishmentRequest cfg req
  match req.cpFseid with
  | none => { s with switch := x.1 }
  | some fseid =>
    if x.2.cause = .requestAccepted then
      notifyAddSession hashString (node.getD .unknown) fseid
        { s with
          switch := x.1
          peer := Function.update s.peer s.switch.sessions.next (node.getD .unknown) }
    else { s with switch := x.1 }

/-- `handle_pfcp_session_modification_request`. -/
def handleModification (cfg : UpfCfg) (req : ModificationRequest) (s : UpfN4) : UpfN4 :=
  { s with switch := (s.switch.handlePfcpSessionModificationRequest cfg req).1 }

/-- `handle_pfcp_session_deletion_request`: the association is notified with a local `fseid`, which
nothing has set. -/
def handleDeletion (seid : UInt64) (s : UpfN4) : UpfN4 :=
  notifyDelSession hashString .zero
    { s with switch := (s.switch.handlePfcpSessionDeletionRequest seid).1 }

end UpfN4

/-- An event at the N4 interface of the UPF. -/
inductive N4Event
  | candidate (node : NodeId)
  | setup (node : NodeId)
  | heartbeat (hash : UInt64)
  | timeout (hash : UInt64)
  | establishment (node : Option NodeId) (req : EstablishmentRequest)
  | modification (req : ModificationRequest)
  | deletion (seid : UInt64)
  deriving DecidableEq, Repr

/-- **One event at the N4 interface.** -/
def n4Step (hashString : String → UInt64) (cfg : UpfCfg) (s : UpfN4) : N4Event → UpfN4
  | .candidate node => s.addPeerCandidateNode node
  | .setup node => s.addAssociation hashString node
  | .heartbeat hash => s.initiateHeartbeatRequest hashString hash
  | .timeout hash => s.timeoutHeartbeatRequest hashString hash
  | .establishment node req => s.handleEstablishment hashString cfg node req
  | .modification req => s.handleModification cfg req
  | .deletion seid => s.handleDeletion hashString seid

end Oai5g.Upf
