import Oai5g.Lib.Run

/-!
# PFCP rules and sessions

The rules of a PFCP session (`pfcp_pdr`, `pfcp_far`), the information elements that make and change
them, `pfcp_session` and the tables of `pfcp_switch`.

* A `shared_ptr` to a rule or a session is the index of a cell of a heap, so the list of a session and
  a lookup table can hold the same PDR.
* The two lookup tables, `ul_n3_teid2pfcp_pdr` and `ue_ipv4_hbo2pfcp_pdr`, are one table over
  `LookupKey`: a TEID or the IPv4 address of a UE.
* An information element that is only copied is the list of its octets (`Ie`). The URRs, QERs, BARs, the
  SDF filters and the other parts of a PDI that nothing reads are left out.
-/

namespace Oai5g.Upf

/-! ## Information elements -/

/-- The octets of an information element that is only copied. -/
abbrev Ie : Type := List UInt8

/-- `fteid_t`. -/
structure Fteid where
  ch : Bool
  v6 : Bool
  v4 : Bool
  teid : UInt32
  ipv4Address : UInt32
  ipv6Address : BitVec 128
  deriving DecidableEq, Repr

/-- `fteid_t fteid = {}`. -/
def Fteid.zero : Fteid := ⟨false, false, false, 0, 0, 0⟩

/-- `fteid_t::is_zero`. -/
def Fteid.isZero (f : Fteid) : Bool := !f.v4 && !f.v6

/-- `fseid_t`. -/
structure Fseid where
  v4 : Bool
  v6 : Bool
  seid : UInt64
  ipv4Address : UInt32
  ipv6Address : BitVec 128
  deriving DecidableEq, Repr

/-- `fseid_t fseid = {}`. -/
def Fseid.zero : Fseid := ⟨false, false, 0, 0, 0⟩

/-- `ue_ip_address_t`; the address is in network byte order. -/
structure UeIpAddress where
  v4 : Bool
  ipv4Address : UInt32
  deriving DecidableEq, Repr

/-- `be32toh` on a little-endian host. -/
def be32toh (x : UInt32) : UInt32 :=
  UInt32.ofBitVec ((x.toBitVec.extractLsb' 0 8) ++ (x.toBitVec.extractLsb' 8 8) ++
    (x.toBitVec.extractLsb' 16 8) ++ (x.toBitVec.extractLsb' 24 8))

/-- `INTERFACE_VALUE_ACCESS` -/
def INTERFACE_VALUE_ACCESS : UInt8 := 0

/-- `INTERFACE_VALUE_CORE` -/
def INTERFACE_VALUE_CORE : UInt8 := 1

/-- `pdi`. -/
structure Pdi where
  sourceInterface : Option UInt8
  localFteid : Option Fteid
  ueIpAddress : Option UeIpAddress
  trafficEndpointId : Option UInt8
  deriving DecidableEq, Repr

/-- `apply_action_t`. -/
structure ApplyAction where
  dupl : Bool
  nocp : Bool
  buff : Bool
  forw : Bool
  drop : Bool
  deriving DecidableEq, Repr

/-- No action. -/
def ApplyAction.zero : ApplyAction := ⟨false, false, false, false, false⟩

/-- `forwarding_parameters`. -/
structure ForwardingParameters where
  destinationInterface : Option Ie
  networkInstance : Option Ie
  redirectInformation : Option Ie
  outerHeaderCreation : Option Ie
  transportLevelMarking : Option Ie
  forwardingPolicy : Option Ie
  headerEnrichment : Option Ie
  linkedTrafficEndpointId : Option Ie
  proxying : Option Ie
  deriving DecidableEq, Repr

/-- `forwarding_parameters()`. -/
def ForwardingParameters.empty : ForwardingParameters :=
  ⟨none, none, none, none, none, none, none, none, none⟩

/-- `update_forwarding_parameters`, without the flags that `pfcp_far::update` ignores. -/
structure UpdateForwardingParameters where
  destinationInterface : Option Ie
  networkInstance : Option Ie
  outerHeaderCreation : Option Ie
  transportLevelMarking : Option Ie
  forwardingPolicy : Option Ie
  headerEnrichment : Option Ie
  linkedTrafficEndpointId : Option Ie
  deriving DecidableEq, Repr

/-- `forwarding_parameters::update`. -/
def ForwardingParameters.update (f : ForwardingParameters) (u : UpdateForwardingParameters) :
    ForwardingParameters :=
  { f with
    destinationInterface := u.destinationInterface.or f.destinationInterface
    networkInstance := u.networkInstance.or f.networkInstance
    outerHeaderCreation := u.outerHeaderCreation.or f.outerHeaderCreation
    transportLevelMarking := u.transportLevelMarking.or f.transportLevelMarking
    forwardingPolicy := u.forwardingPolicy.or f.forwardingPolicy
    headerEnrichment := u.headerEnrichment.or f.headerEnrichment
    linkedTrafficEndpointId := u.linkedTrafficEndpointId.or f.linkedTrafficEndpointId }

/-- `duplicating_parameters` and `update_duplicating_parameters`. -/
structure DuplicatingParameters where
  destinationInterface : Option Ie
  outerHeaderCreation : Option Ie
  transportLevelMarking : Option Ie
  forwardingPolicy : Option Ie
  deriving DecidableEq, Repr

/-- `duplicating_parameters::update`. -/
def DuplicatingParameters.update (d u : DuplicatingParameters) : DuplicatingParameters :=
  { destinationInterface := u.destinationInterface.or d.destinationInterface
    outerHeaderCreation := u.outerHeaderCreation.or d.outerHeaderCreation
    transportLevelMarking := u.transportLevelMarking.or d.transportLevelMarking
    forwardingPolicy := u.forwardingPolicy.or d.forwardingPolicy }

/-! ## What a request says about a rule -/

/-- `create_pdr`. -/
structure CreatePdr where
  pdrId : Option UInt16
  precedence : Option UInt32
  pdi : Option Pdi
  outerHeaderRemoval : Option UInt8
  farId : Option UInt32
  urrId : Option UInt32
  qerId : Option UInt32
  deriving DecidableEq, Repr

/-- `update_pdr`. -/
structure UpdatePdr where
  pdrId : UInt16
  outerHeaderRemoval : Option UInt8
  precedence : Option UInt32
  pdi : Option Pdi
  farId : Option UInt32
  urrId : Option UInt32
  qerId : Option UInt32
  deriving DecidableEq, Repr

/-- `create_far`. -/
structure CreateFar where
  farId : Option UInt32
  applyAction : Option ApplyAction
  forwardingParameters : Option ForwardingParameters
  duplicatingParameters : Option DuplicatingParameters
  barId : Option UInt8
  deriving DecidableEq, Repr

/-- `update_far`. -/
structure UpdateFar where
  farId : UInt32
  applyAction : Option ApplyAction
  updateForwardingParameters : Option UpdateForwardingParameters
  updateDuplicatingParameters : Option DuplicatingParameters
  barId : Option UInt8
  deriving DecidableEq, Repr

/-! ## Rules -/

/-- The key of a lookup table: a TEID of N3, or the IPv4 address of a UE in host byte order. -/
inductive LookupKey
  | n3Teid (teid : UInt32)
  | ueIpv4 (address : UInt32)
  deriving DecidableEq, Repr

/-- `pfcp_pdr`. -/
structure PfcpPdr where
  localSeid : UInt64
  pdrId : UInt16
  precedence : Option UInt32
  pdi : Option Pdi
  outerHeaderRemoval : Option UInt8
  farId : Option UInt32
  urrId : Option UInt32
  qerId : Option UInt32
  deriving DecidableEq, Repr

/-- `pfcp_pdr(const pfcp::create_pdr&)` once its local SEID is set. -/
def PfcpPdr.ofCreate (c : CreatePdr) (localSeid : UInt64) : PfcpPdr :=
  { localSeid := localSeid, pdrId := c.pdrId.getD 0, precedence := c.precedence, pdi := c.pdi,
    outerHeaderRemoval := c.outerHeaderRemoval, farId := c.farId, urrId := c.urrId, qerId := c.qerId }

/-- `pdr->pdi.second.set(fteid)`. -/
def PfcpPdr.setLocalFteid (p : PfcpPdr) (fteid : Fteid) : PfcpPdr :=
  { p with pdi := p.pdi.map fun pdi => { pdi with localFteid := some fteid } }

/-- `pfcp_pdr::update`. -/
def PfcpPdr.update (p : PfcpPdr) (u : UpdatePdr) : PfcpPdr :=
  { p with
    outerHeaderRemoval := u.outerHeaderRemoval.or p.outerHeaderRemoval
    precedence := u.precedence.or p.precedence
    pdi := u.pdi.or p.pdi
    farId := u.farId.or p.farId
    urrId := u.urrId.or p.urrId
    qerId := u.qerId.or p.qerId }

/-- `pfcp_pdr::operator<`. -/
def PfcpPdr.lt (p q : PfcpPdr) : Bool := p.precedence.getD 0 < q.precedence.getD 0

/-- The key `pfcp_session::cleanup` erases for a PDI: the TEID of an ACCESS PDR, the UE address of a
CORE PDR. -/
def Pdi.key (pdi : Pdi) : Option LookupKey :=
  pdi.sourceInterface.bind fun source =>
    if source = INTERFACE_VALUE_ACCESS then pdi.localFteid.map fun f => .n3Teid f.teid
    else if source = INTERFACE_VALUE_CORE then
      pdi.ueIpAddress.bind fun ue => if ue.v4 then some (.ueIpv4 (be32toh ue.ipv4Address)) else none
    else none

/-- The key of the current PDI of a PDR. -/
def PfcpPdr.key (p : PfcpPdr) : Option LookupKey := p.pdi.bind Pdi.key

/-- `pfcp_far`. -/
structure PfcpFar where
  farId : UInt32
  applyAction : ApplyAction
  forwardingParameters : Option ForwardingParameters
  duplicatingParameters : Option DuplicatingParameters
  barId : Option UInt8
  deriving DecidableEq, Repr

/-- `pfcp_far(const pfcp::create_far&)`. -/
def PfcpFar.ofCreate (c : CreateFar) : PfcpFar :=
  { farId := c.farId.getD 0, applyAction := c.applyAction.getD .zero,
    forwardingParameters := c.forwardingParameters, duplicatingParameters := c.duplicatingParameters,
    barId := c.barId }

/-- `pfcp_far::update`: an action that is missing is read as zero, and parameters for duplication are
lost where there were none. -/
def PfcpFar.update (f : PfcpFar) (u : UpdateFar) : PfcpFar :=
  { f with
    applyAction := u.applyAction.getD .zero
    forwardingParameters := match u.updateForwardingParameters with
      | none => f.forwardingParameters
      | some p => some ((f.forwardingParameters.getD .empty).update p)
    duplicatingParameters := match u.updateDuplicatingParameters with
      | none => f.duplicatingParameters
      | some p => f.duplicatingParameters.map fun d => d.update p
    barId := u.barId.or f.barId }

/-! ## Sessions and tables -/

/-- `pfcp_session`. -/
structure PfcpSession where
  cpFseid : Fseid
  seid : UInt64
  pdrs : List ℕ
  fars : List ℕ
  deriving DecidableEq, Repr

/-- The tables of `pfcp_switch`. The generators hold how many numbers they have given; none is given
back, so the next one is the successor. -/
structure PfcpSwitch where
  seidGenerator : ℕ
  teidN3Generator : ℕ
  pdrs : Heap PfcpPdr
  fars : Heap PfcpFar
  sessions : Heap PfcpSession
  cpFseid2pfcpSessions : Fseid → Option ℕ
  upSeid2pfcpSessions : UInt64 → Option ℕ
  /-- `ul_n3_teid2pfcp_pdr` and `ue_ipv4_hbo2pfcp_pdr`. -/
  pdrTable : LookupKey → Option (List ℕ)

namespace PfcpSwitch

/-- `pfcp_switch::pfcp_switch`. -/
def init : PfcpSwitch :=
  { seidGenerator := 0, teidN3Generator := 0, pdrs := ⟨fun _ => ⟨0, 0, none, none, none, none, none, none⟩, 0⟩,
    fars := ⟨fun _ => ⟨0, .zero, none, none, none⟩, 0⟩, sessions := ⟨fun _ => ⟨.zero, 0, [], []⟩, 0⟩,
    cpFseid2pfcpSessions := fun _ => none, upSeid2pfcpSessions := fun _ => none,
    pdrTable := fun _ => none }

variable (s : PfcpSwitch)

/-- The PDR behind a pointer. -/
def pdr (p : ℕ) : PfcpPdr := s.pdrs.cell p

/-- The FAR behind a pointer. -/
def far (f : ℕ) : PfcpFar := s.fars.cell f

/-- The session behind a pointer. -/
def session (r : ℕ) : PfcpSession := s.sessions.cell r

/-- A write to the session of a pointer. -/
def modifySession (r : ℕ) (f : PfcpSession → PfcpSession) : PfcpSwitch :=
  { s with sessions := s.sessions.modify r f }

/-- A write to the PDR of a pointer. -/
def modifyPdr (p : ℕ) (f : PfcpPdr → PfcpPdr) : PfcpSwitch := { s with pdrs := s.pdrs.modify p f }

/-- A write to the FAR of a pointer. -/
def modifyFar (r : ℕ) (f : PfcpFar → PfcpFar) : PfcpSwitch := { s with fars := s.fars.modify r f }

/-- `generate_teid_n3`. -/
def nextTeid : UInt32 := UInt32.ofNat (s.teidN3Generator + 1)

/-- `generate_seid`. -/
def nextSeid : UInt64 := UInt64.ofNat (s.seidGenerator + 1)

/-- The insertion loop of `add_pfcp_ul_pdr_by_up_teid` and `add_pfcp_dl_pdr_by_ue_ip`: before the first
PDR of lower precedence, and nowhere when there is none. -/
def insertPdr (p : ℕ) : List ℕ → List ℕ
  | [] => []
  | q :: l => if (s.pdr q).lt (s.pdr p) then p :: q :: l else q :: insertPdr p l

/-- `add_pfcp_ul_pdr_by_up_teid` and `add_pfcp_dl_pdr_by_ue_ip`. -/
def addPfcpPdr (key : LookupKey) (p : ℕ) : PfcpSwitch :=
  { s with
    pdrTable := Function.update s.pdrTable key
      (match s.pdrTable key with
      | none => some [p]
      | some l => some (s.insertPdr p l)) }

/-- `add_pfcp_ul_pdr_by_up_teid` -/
def addPfcpUlPdrByUpTeid (teid : UInt32) (p : ℕ) : PfcpSwitch := s.addPfcpPdr (.n3Teid teid) p

/-- `add_pfcp_dl_pdr_by_ue_ip` -/
def addPfcpDlPdrByUeIp (ueIp : UInt32) (p : ℕ) : PfcpSwitch := s.addPfcpPdr (.ueIpv4 ueIp) p

/-- `remove_pfcp_ul_pdrs_by_up_teid` and `remove_pfcp_dl_pdrs_by_ue_ip`: the whole list goes. -/
def removePfcpPdrs (key : LookupKey) : PfcpSwitch :=
  { s with pdrTable := Function.update s.pdrTable key none }

/-- `unordered_map::insert` and `AtomicHashMap::insert`: an entry that is there stays. -/
def insertEntry {α : Type} [DecidableEq α] (m : α → Option ℕ) (k : α) (r : ℕ) : α → Option ℕ :=
  Function.update m k (some ((m k).getD r))

/-- `add_pfcp_session_by_cp_fseid` -/
def addPfcpSessionByCpFseid (fseid : Fseid) (r : ℕ) : PfcpSwitch :=
  { s with cpFseid2pfcpSessions := insertEntry s.cpFseid2pfcpSessions fseid r }

/-- `add_pfcp_session_by_up_seid` -/
def addPfcpSessionByUpSeid (seid : UInt64) (r : ℕ) : PfcpSwitch :=
  { s with upSeid2pfcpSessions := insertEntry s.upSeid2pfcpSessions seid r }

end PfcpSwitch

end Oai5g.Upf
