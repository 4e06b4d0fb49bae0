import Oai5g.Nrf.Patch

/-!
# The NRF

Profiles by NF instance id, the two sets of suspended NFs, and the handlers that change them. A profile
object is owned by the table alone: a re-registration destroys the old one with its timers.

* `handleRegisterNfInstance`, `handleUpdateNfInstance` through `updateNfInstance`,
  `handleDeregisterNfInstance`: the requests.
* `heartbeatTimeout`: the expiry of one of the two timers of a stored profile.
* `handleRemoveSuspendedNf`: the periodic task; which set is filled and which is emptied depends on the
  parity of the clock.
* `nrfStep`: the events as one step function.
-/

namespace Oai5g.Nrf

/-- The registration body. -/
structure NFProfile where
  nfInstanceId : String
  nfInstanceName : String
  nfType : String
  nfStatus : String
  priority : ℤ
  capacity : ℤ
  fqdn : Option String
  ipv4Addresses : Option (List String)
  amfInfo : AmfInfo
  /-- the names of the services, when it has any -/
  nfServices : Option (List String)

/-- What the NRF is configured with. -/
structure NrfCfg where
  inet : Inet
  heartbeat : ℤ
  suspendedNfInterval : ℕ

/-- The tables of the NRF that the heartbeat handling reads and writes. -/
structure NrfApp where
  instanceId2nrfProfile : String → Option NrfProfile
  /-- `suspended_nf[0]` -/
  suspendedNf0 : List String
  /-- `suspended_nf[1]` -/
  suspendedNf1 : List String

/-- No profile is registered. -/
def NrfApp.init : NrfApp :=
  { instanceId2nrfProfile := fun _ => none, suspendedNf0 := [], suspendedNf1 := [] }

/-! ## Registration -/

section

/-- A lower-case hexadecimal digit. -/
def isHexDigit (c : Char) : Bool := c.isDigit || ('a' ≤ c && c ≤ 'f')

/-- `validate_uuid` -/
def validateUuid (str : String) : Bool :=
  let s := str.toList
  s.length = 36 &&
    (List.range 36).all fun i =>
      let c := s.getD i ' '
      if i = 8 ∨ i = 13 ∨ i = 18 ∨ i = 23 then c = '-'
      else if i = 14 then '0' ≤ c && c ≤ '5'
      else if i = 19 then ['8', '9', 'a', 'A', 'b', 'B'].contains c
      else isHexDigit c

/-- The type stored with a profile: only the types with an info part are set. -/
def storedNfType : NfType → NfType
  | .amf => .amf
  | .smf => .smf
  | .upf => .upf
  | .ausf => .ausf
  | .udm => .udm
  | .udr => .udr
  | .pcf => .pcf
  | _ => .unknown

variable (cfg : NrfCfg) (body : NFProfile)

/-- The attributes of a new profile (`profile_api_to_nrf_profile`, then the heartbeat timer of the
configuration). -/
def profileApiToNrfProfile : ProfileInfo :=
  { nfInstanceName := body.nfInstanceName
    nfStatus := if ValidStatus body.nfStatus then body.nfStatus else ""
    nfType := storedNfType (stringToNfType body.nfType)
    heartBeatTimer := cfg.heartbeat
    priority := UInt16.ofNat (body.priority % 2 ^ 16).toNat
    capacity := UInt16.ofNat (body.capacity % 2 ^ 16).toNat
    fqdn := body.fqdn.getD ""
    -- an address that does not parse is stored as 0.0.0.0
    ipv4Addresses := (body.ipv4Addresses.getD []).map fun a => (cfg.inet.pton4 (trim a)).getD 0
    ipv6Addresses := [] }

/-- A new profile with its first timer running. -/
def registeredProfile : NrfProfile :=
  { nfInstanceId := body.nfInstanceId
    info := profileApiToNrfProfile cfg body
    amfInfo := if stringToNfType body.nfType = .amf then body.amfInfo else ⟨"", ""⟩
    nfServices := body.nfServices.getD []
    monitor := Monitor.init.subscribeNfregistration }

end

namespace NrfApp

variable (s : NrfApp) (id : String)

/-- `add_nf_profile`, `update_nf_profile` -/
def addNfProfile (p : NrfProfile) : NrfApp :=
  { s with instanceId2nrfProfile := Function.update s.instanceId2nrfProfile id (some p) }

/-- `remove_nf_profile` -/
def removeNfProfile : NrfApp :=
  { s with instanceId2nrfProfile := Function.update s.instanceId2nrfProfile id none }

/-- `add_to_suspended_list` at `clock` seconds. -/
def addToSuspendedList (cfg : NrfCfg) (clock : ℕ) : NrfApp :=
  if clock / cfg.suspendedNfInterval % 2 = 0 then
    { s with suspendedNf0 := s.suspendedNf0.insert id }
  else { s with suspendedNf1 := s.suspendedNf1.insert id }

/-- `remove_from_suspended_list`: the second set is looked at only when the first has no such id. -/
def removeFromSuspendedList : NrfApp :=
  if id ∈ s.suspendedNf0 then { s with suspendedNf0 := s.suspendedNf0.filter (· ≠ id) }
  else { s with suspendedNf1 := s.suspendedNf1.filter (· ≠ id) }

/-- `handle_remove_suspended_nf` at `clock` seconds. -/
def handleRemoveSuspendedNf (cfg : NrfCfg) (clock : ℕ) : NrfApp :=
  if clock / cfg.suspendedNfInterval % 2 = 0 then
    { s.suspendedNf1.foldl removeNfProfile s with suspendedNf1 := [] }
  else { s.suspendedNf0.foldl removeNfProfile s with suspendedNf0 := [] }

/-- `handle_register_nf_instance` -/
def handleRegisterNfInstance (cfg : NrfCfg) (body : NFProfile) : NrfApp :=
  if validateUuid id then s.addNfProfile id (registeredProfile cfg body) else s

/-- `handle_update_nf_instance` -/
def updateNfInstance (cfg : NrfCfg) (items : List PatchItem) : NrfApp :=
  match s.instanceId2nrfProfile id with
  | none => s
  | some p =>
    let outcome := handleUpdateNfInstance cfg.inet p items
    if outcome.recovered then (s.addNfProfile id outcome.profile).removeFromSuspendedList id
    else s.addNfProfile id outcome.profile

end NrfApp

/-! ## Time-outs -/

/-- The two timers of a profile. -/
inductive HbConnection
  /-- after the registration -/
  | first
  /-- after a heartbeat -/
  | update
  deriving DecidableEq

/-- Whether a timer runs. -/
def Monitor.connected (m : Monitor) : HbConnection → Bool
  | .first => m.firstHbConnection
  | .update => m.hbUpdateConnection

namespace NrfProfile

variable (p : NrfProfile)

/-- The profile is suspended. -/
def suspend : NrfProfile := { p with info := p.info.withStatus "SUSPENDED" }

/-- The profile with another monitor. -/
def withMonitor (m : Monitor) : NrfProfile := { p with monitor := m }

/-- The profile after the time-out of a running timer: without a heartbeat since the last one it is
suspended, and its timer ends. The first timer ends in any case. -/
def afterTimeout : HbConnection → NrfProfile
  | .first =>
    (if p.monitor.isUpdated then p else p.suspend).withMonitor
      (p.monitor.setStatusUpdated false).unsubscribeNfregistration
  | .update =>
    if p.monitor.isUpdated then p.withMonitor (p.monitor.setStatusUpdated false)
    else p.suspend.withMonitor (p.monitor.unsubscribeNfupdate.setStatusUpdated false)

end NrfProfile

/-- `handle_heartbeat_timeout_nfregistration`, `handle_heartbeat_timeout_nfupdate`: the profile under
`id` is listed under its own id. -/
def NrfApp.heartbeatTimeout (s : NrfApp) (cfg : NrfCfg) (c : HbConnection) (id : String)
    (clock : ℕ) : NrfApp :=
  match s.instanceId2nrfProfile id with
  | none => s
  | some p =>
    if p.monitor.connected c then
      if p.monitor.isUpdated then s.addNfProfile id (p.afterTimeout c)
      else (s.addNfProfile id (p.afterTimeout c)).addToSuspendedList p.nfInstanceId cfg clock
    else s

/-! ## Events -/

/-- What happens to the profiles. -/
inductive NrfEvent
  | register (id : String) (body : NFProfile)
  | update (id : String) (items : List PatchItem)
  | deregister (id : String)
  | timeout (c : HbConnection) (id : String) (clock : ℕ)
  | removeSuspended (clock : ℕ)

/-- One event. -/
def nrfStep (cfg : NrfCfg) (s : NrfApp) : NrfEvent → NrfApp
  | .register id body => s.handleRegisterNfInstance id cfg body
  | .update id items => s.updateNfInstance id cfg items
  | .deregister id => s.removeNfProfile id
  | .timeout c id clock => s.heartbeatTimeout cfg c id clock
  | .removeSuspended clock => s.handleRemoveSuspendedNf cfg clock

/-! ## The tables after a step -/

section

variable {cfg : NrfCfg} {s : NrfApp} {id i : String} {p : NrfProfile}

@[simp] theorem addNfProfile_profile : (s.addNfProfile id p).instanceId2nrfProfile =
    Function.update s.instanceId2nrfProfile id (some p) := rfl

@[simp] theorem addNfProfile_suspended : (s.addNfProfile id p).suspendedNf0 = s.suspendedNf0 ∧
    (s.addNfProfile id p).suspendedNf1 = s.suspendedNf1 := ⟨rfl, rfl⟩

@[simp] theorem addToSuspendedList_profile {clock : ℕ} :
    (s.addToSuspendedList id cfg clock).instanceId2nrfProfile = s.instanceId2nrfProfile := by
  unfold NrfApp.addToSuspendedList
  split_ifs <;> rfl

@[simp] theorem removeFromSuspendedList_profile :
    (s.removeFromSuspendedList id).instanceId2nrfProfile = s.instanceId2nrfProfile := by
  unfold NrfApp.removeFromSuspendedList
  split_ifs <;> rfl

theorem foldl_removeNfProfile (ids : List String) :
    (ids.foldl NrfApp.removeNfProfile s).instanceId2nrfProfile =
      fun i => if i ∈ ids then none else s.instanceId2nrfProfile i := by
  induction ids generalizing s with
  | nil => simp
  | cons j ids ih =>
    funext i
    rw [List.foldl_cons, ih]
    by_cases hi : i ∈ ids
    · simp [hi]
    · by_cases hj : i = j
      · subst hj
        simp [NrfApp.removeNfProfile]
      · simp [NrfApp.removeNfProfile, hi, hj]

theorem foldl_removeNfProfile_suspended (ids : List String) :
    (ids.foldl NrfApp.removeNfProfile s).suspendedNf0 = s.suspendedNf0 ∧
      (ids.foldl NrfApp.removeNfProfile s).suspendedNf1 = s.suspendedNf1 := by
  induction ids generalizing s with
  | nil => exact ⟨rfl, rfl⟩
  | cons j ids ih => exact ih (s := s.removeNfProfile j)

/-- The profiles after the periodic task: those of the set that is emptied are gone. -/
theorem handleRemoveSuspendedNf_profile (clock : ℕ) :
    (s.handleRemoveSuspendedNf cfg clock).instanceId2nrfProfile = fun i =>
      if i ∈ (if clock / cfg.suspendedNfInterval % 2 = 0 then s.suspendedNf1 else s.suspendedNf0) then
        none
      else s.instanceId2nrfProfile i := by
  unfold NrfApp.handleRemoveSuspendedNf
  split_ifs <;> exact foldl_removeNfProfile _

end

end Oai5g.Nrf
