import Oai5g.Nrf.Profile

/-!
# PATCH of an NF profile

* `Monitor`: the two heartbeat timers of a profile and the flags that switch between them.
* `handleUpdateNfInstance`: the items are applied one by one to the stored profile (`patchLoop`), then an
  accepted change of the status by `replace` counts as a heartbeat (`heartbeat`).
* `writes`, `AllAccepted`, `heartbeatOf`: what a list of items writes, whether every item is accepted
  and the value of its last heartbeat item; `handleUpdateNfInstance_eq` states the handler in these terms.
-/

namespace Oai5g.Nrf

/-! ## Heartbeat timers -/

/-- The heartbeat time-out subscriptions of a profile. -/
structure Monitor where
  firstUpdate : Bool
  isUpdated : Bool
  firstHbConnection : Bool
  hbUpdateConnection : Bool
  deriving DecidableEq

namespace Monitor

variable (m : Monitor)

/-- The state a profile is constructed with. -/
def init : Monitor :=
  { firstUpdate := true, isUpdated := false, firstHbConnection := false, hbUpdateConnection := false }

/-- `set_status_updated` -/
def setStatusUpdated (status : Bool) : Monitor := { m with isUpdated := status }

/-- `subscribe_heartbeat_timeout_nfregistration` -/
def subscribeNfregistration : Monitor := { m with firstHbConnection := true }

/-- `subscribe_heartbeat_timeout_nfupdate` -/
def subscribeNfupdate : Monitor :=
  if m.firstUpdate then { m with hbUpdateConnection := true, firstUpdate := false } else m

/-- `unsubscribe_heartbeat_timeout_nfregistration` -/
def unsubscribeNfregistration : Monitor := { m with firstHbConnection := false }

/-- `unsubscribe_heartbeat_timeout_nfupdate` -/
def unsubscribeNfupdate : Monitor := { m with hbUpdateConnection := false }

/-- The timers after an accepted heartbeat. -/
def afterHeartbeat : Monitor :=
  let m' := if m.firstHbConnection then m.unsubscribeNfregistration.subscribeNfupdate else m
  if m'.hbUpdateConnection then m' else m'.subscribeNfupdate

/-- A heartbeat time-out subscription is active. -/
def Active : Prop := m.firstHbConnection = true ∨ m.hbUpdateConnection = true

instance : Decidable m.Active := by unfold Active; infer_instance

end Monitor

/-! ## Profiles -/

/-- The AMF part of a profile. -/
structure AmfInfo where
  amfSetId : String
  amfRegionId : String
  deriving DecidableEq

/-- A stored profile: its id, the attributes, the AMF part, the names of its services and the timers. -/
structure NrfProfile where
  nfInstanceId : String
  info : ProfileInfo
  amfInfo : AmfInfo
  nfServices : List String
  monitor : Monitor
  deriving DecidableEq

/-! ## The items -/

/-- The operations of a PATCH item. -/
inductive PatchOp
  | add | remove | replace | move | copy | test | unknown
  deriving DecidableEq, Repr

/-- `string_to_patch_operation` -/
def stringToPatchOperation (str : String) : PatchOp :=
  if str = "add" then .add
  else if str = "copy" then .copy
  else if str = "move" then .move
  else if str = "remove" then .remove
  else if str = "replace" then .replace
  else if str = "test" then .test
  else .unknown

/-- An item of a PATCH request. -/
structure PatchItem where
  op : String
  path : String
  value : String
  deriving DecidableEq

namespace PatchItem

variable (item : PatchItem)

/-- The operation that the text names. -/
def operation : PatchOp := stringToPatchOperation item.op

/-- The path behind its slash; `none` for a bad path. -/
def member : Option String :=
  match item.path.toList with
  | '/' :: c :: cs => some (String.ofList (c :: cs))
  | _ => none

/-- The item that makes the request a heartbeat. -/
def isHeartbeat : Bool := item.operation = .replace && item.member = some "nfStatus"

end PatchItem

/-- What an operation makes of the attributes; `none` where it is refused or not supported. -/
def patchInfo (inet : Inet) (info : ProfileInfo) (op : PatchOp) (path value : String) :
    Option ProfileInfo :=
  match op with
  | .replace => info.replaceProfileInfo path value
  | .add => info.addProfileInfo inet path value
  | .remove => info.removeProfileInfo path
  | _ => none

/-- The variables of the loop; `notified` holds the attributes sent with each profile-changed event. -/
structure PatchState where
  info : ProfileInfo
  httpCode : ℕ
  opSuccess : Bool
  isHeartbeatProcedure : Bool
  heartbeatValue : String
  notified : List ProfileInfo
  deriving DecidableEq

namespace PatchState

/-- Before the first item. -/
def init (info : ProfileInfo) : PatchState :=
  { info := info, httpCode := 0, opSuccess := true, isHeartbeatProcedure := false,
    heartbeatValue := "", notified := [] }

variable (st : PatchState)

/-- The request is a heartbeat with this value. -/
def markHeartbeat (value : String) : PatchState :=
  { st with isHeartbeatProcedure := true, heartbeatValue := value }

/-- The item has been applied. -/
def accept (info : ProfileInfo) : PatchState := { st with info := info, httpCode := 200 }

/-- The item has been refused. -/
def refuse : PatchState := { st with opSuccess := false }

/-- The end of the loop body: an error stays an error, a change is notified unless the request counts
as a heartbeat. -/
def conclude : PatchState :=
  if st.opSuccess then
    if st.isHeartbeatProcedure then st else { st with notified := st.notified ++ [st.info] }
  else { st with httpCode := 400 }

end PatchState

/-- One turn of the loop, for an item with a well-formed path. -/
def patchStep (inet : Inet) (st : PatchState) (item : PatchItem) (path : String) : PatchState :=
  let st' := if item.operation = .replace ∧ path = "nfStatus" then st.markHeartbeat item.value else st
  match patchInfo inet st.info item.operation path item.value with
  | some info => (st'.accept info).conclude
  | none => st'.refuse.conclude

/-- The loop over the items, with whether it returned at a bad path. -/
def patchLoop (inet : Inet) : List PatchItem → PatchState → PatchState × Bool
  | [], st => (st, false)
  | item :: items, st =>
    match item.member with
    | none => ({ st with httpCode := 400 }, true)
    | some path => patchLoop inet items (patchStep inet st item path)

/-- What a request made of a profile. -/
structure PatchOutcome where
  profile : NrfProfile
  httpCode : ℕ
  notified : List ProfileInfo
  /-- The id leaves the lists of suspended NFs. -/
  recovered : Bool
  deriving DecidableEq

/-- The heartbeat part: the timers are switched and the status is set once more. -/
def heartbeat (profile : NrfProfile) (st : PatchState) : PatchOutcome :=
  let set := st.info.setNfStatus st.heartbeatValue
  let monitor := profile.monitor.afterHeartbeat
  { profile := { profile with
      info := set.1
      monitor := if set.2 then monitor.setStatusUpdated true else monitor }
    httpCode := 204
    notified := st.notified
    recovered := set.2 }

/-- `handle_update_nf_instance` for a stored profile. -/
def handleUpdateNfInstance (inet : Inet) (profile : NrfProfile) (items : List PatchItem) :
    PatchOutcome :=
  let loop := patchLoop inet items (.init profile.info)
  if loop.2 = false ∧ loop.1.isHeartbeatProcedure ∧ loop.1.httpCode = 200 then
    heartbeat profile loop.1
  else
    { profile := { profile with info := loop.1.info }
      httpCode := loop.1.httpCode
      notified := loop.1.notified
      recovered := false }

/-! ## The effect of a list of items -/

section

variable (inet : Inet)

/-- The attributes after the accepted ones of the items before the first bad path. -/
def writes : ProfileInfo → List PatchItem → ProfileInfo
  | info, [] => info
  | info, item :: items =>
    match item.member with
    | none => info
    | some path => writes ((patchInfo inet info item.operation path item.value).getD info) items

/-- Every item has a well-formed path and is accepted. -/
def AllAccepted : ProfileInfo → List PatchItem → Prop
  | _, [] => True
  | info, item :: items =>
    ∃ path, item.member = some path ∧ ∃ info',
      patchInfo inet info item.operation path item.value = some info' ∧ AllAccepted info' items

/-- The value of the last heartbeat item. -/
def heartbeatOf (items : List PatchItem) : Option String :=
  ((items.filter PatchItem.isHeartbeat).getLast?).map PatchItem.value

instance decidableAllAccepted :
    ∀ (info : ProfileInfo) (items : List PatchItem), Decidable (AllAccepted inet info items)
  | _, [] => isTrue trivial
  | info, item :: items =>
    match hm : item.member with
    | none => isFalse fun ⟨path, h, _⟩ => by simp [hm] at h
    | some path =>
      match hp : patchInfo inet info item.operation path item.value with
      | none => isFalse fun ⟨path', h, info', h', _⟩ => by
          obtain rfl : path = path' := Option.some.inj (hm.symm.trans h)
          simp [hp] at h'
      | some info' =>
        match decidableAllAccepted info' items with
        | isTrue h => isTrue ⟨path, hm, info', hp, h⟩
        | isFalse h => isFalse fun ⟨path', h₁, info'', h₂, h₃⟩ => by
            obtain rfl : path = path' := Option.some.inj (hm.symm.trans h₁)
            obtain rfl : info' = info'' := Option.some.inj (hp.symm.trans h₂)
            exact h h₃

/-- The value of the heartbeat when the request is accepted as one. -/
def acceptedHeartbeat (info : ProfileInfo) (items : List PatchItem) : Option String :=
  if AllAccepted inet info items then heartbeatOf items else none

/-- The status the items leave. -/
def patchedStatus (info : ProfileInfo) (items : List PatchItem) : String :=
  match acceptedHeartbeat inet info items with
  | some value => if ValidStatus value then value else (writes inet info items).nfStatus
  | none => (writes inet info items).nfStatus

end

/-! ## The loop in these terms -/

section

variable {inet : Inet} {st : PatchState} {item : PatchItem} {items : List PatchItem} {path : String}

@[simp] theorem conclude_info : st.conclude.info = st.info := by
  unfold PatchState.conclude
  split_ifs <;> rfl

@[simp] theorem conclude_opSuccess : st.conclude.opSuccess = st.opSuccess := by
  unfold PatchState.conclude
  split_ifs <;> rfl

@[simp] theorem conclude_isHeartbeatProcedure :
    st.conclude.isHeartbeatProcedure = st.isHeartbeatProcedure := by
  unfold PatchState.conclude
  split_ifs <;> rfl

@[simp] theorem conclude_heartbeatValue : st.conclude.heartbeatValue = st.heartbeatValue := by
  unfold PatchState.conclude
  split_ifs <;> rfl

theorem conclude_httpCode :
    st.conclude.httpCode = if st.opSuccess then st.httpCode else 400 := by
  unfold PatchState.conclude
  split_ifs <;> rfl

theorem conclude_notified : st.conclude.notified =
    if st.opSuccess = true ∧ st.isHeartbeatProcedure = false then st.notified ++ [st.info]
    else st.notified := by
  unfold PatchState.conclude
  cases st.opSuccess <;> cases st.isHeartbeatProcedure <;> rfl

@[simp] theorem markHeartbeat_opSuccess (value : String) :
    (st.markHeartbeat value).opSuccess = st.opSuccess := rfl

theorem patchStep_info : (patchStep inet st item path).info =
    (patchInfo inet st.info item.operation path item.value).getD st.info := by
  unfold patchStep
  cases patchInfo inet st.info item.operation path item.value with
  | none =>
    simp only [conclude_info, PatchState.refuse, Option.getD]
    split_ifs <;> rfl
  | some info => simp only [conclude_info, PatchState.accept, Option.getD]

theorem patchStep_opSuccess : (patchStep inet st item path).opSuccess =
    (st.opSuccess && (patchInfo inet st.info item.operation path item.value).isSome) := by
  unfold patchStep
  cases patchInfo inet st.info item.operation path item.value with
  | none => simp [PatchState.refuse]
  | some info =>
    simp only [conclude_opSuccess, PatchState.accept, Option.isSome, Bool.and_true]
    split_ifs <;> rfl

theorem patchStep_httpCode : (patchStep inet st item path).httpCode =
    if (patchStep inet st item path).opSuccess then 200 else 400 := by
  rw [patchStep_opSuccess]
  unfold patchStep
  cases patchInfo inet st.info item.operation path item.value with
  | none => simp [conclude_httpCode, PatchState.refuse]
  | some info =>
    simp only [conclude_httpCode, PatchState.accept, Option.isSome, Bool.and_true]
    split_ifs <;> simp_all

theorem isHeartbeat_of_member (hm : item.member = some path) :
    item.isHeartbeat = decide (item.operation = .replace ∧ path = "nfStatus") := by
  simp [PatchItem.isHeartbeat, hm]

theorem patchStep_heartbeat (hm : item.member = some path) :
    (patchStep inet st item path).isHeartbeatProcedure =
        (st.isHeartbeatProcedure || item.isHeartbeat) ∧
      (patchStep inet st item path).heartbeatValue =
        if item.isHeartbeat then item.value else st.heartbeatValue := by
  rw [isHeartbeat_of_member hm]
  unfold patchStep
  by_cases hb : item.operation = .replace ∧ path = "nfStatus"
  · cases patchInfo inet st.info item.operation path item.value <;>
      simp [hb, PatchState.accept, PatchState.refuse, PatchState.markHeartbeat]
  · cases patchInfo inet st.info item.operation path item.value <;>
      simp [hb, PatchState.accept, PatchState.refuse]

theorem patchStep_notified (hm : item.member = some path) :
    (patchStep inet st item path).notified =
      if (patchStep inet st item path).opSuccess = true ∧
          (patchStep inet st item path).isHeartbeatProcedure = false then
        st.notified ++ [(patchStep inet st item path).info]
      else st.notified := by
  rw [(patchStep_heartbeat hm).1, patchStep_opSuccess, patchStep_info, isHeartbeat_of_member hm]
  unfold patchStep
  by_cases hb : item.operation = .replace ∧ path = "nfStatus"
  · cases patchInfo inet st.info item.operation path item.value <;>
      simp [hb, conclude_notified, PatchState.accept, PatchState.refuse, PatchState.markHeartbeat]
  · cases patchInfo inet st.info item.operation path item.value <;>
      simp [hb, conclude_notified, PatchState.accept, PatchState.refuse]

/-- **The loop leaves the attributes that the items write.** -/
theorem patchLoop_info : (patchLoop inet items st).1.info = writes inet st.info items := by
  induction items generalizing st with
  | nil => rfl
  | cons item items ih =>
    cases hm : item.member with
    | none => simp only [patchLoop, writes, hm]
    | some path =>
      simp only [patchLoop, writes, hm]
      rw [ih, patchStep_info]

theorem patchLoop_of_failed (hs : st.opSuccess = false) (hc : st.httpCode = 400) :
    (patchLoop inet items st).1.httpCode = 400 := by
  induction items generalizing st with
  | nil => exact hc
  | cons item items ih =>
    cases hm : item.member with
    | none => simp only [patchLoop, hm]
    | some path =>
      simp only [patchLoop, hm]
      have hop : (patchStep inet st item path).opSuccess = false := by simp [patchStep_opSuccess, hs]
      exact ih hop (by rw [patchStep_httpCode, hop]; rfl)

/-- **The code is 200 exactly when there is an item and every item is accepted.** -/
theorem patchLoop_accepted (hs : st.opSuccess = true) :
    (AllAccepted inet st.info items →
        (patchLoop inet items st).2 = false ∧
          (patchLoop inet items st).1.httpCode = if items = [] then st.httpCode else 200) ∧
      (¬ AllAccepted inet st.info items → (patchLoop inet items st).1.httpCode = 400) := by
  induction items generalizing st with
  | nil => exact ⟨fun _ => ⟨rfl, rfl⟩, fun h => absurd trivial h⟩
  | cons item items ih =>
    cases hm : item.member with
    | none =>
      simp only [patchLoop, AllAccepted, hm]
      exact ⟨fun ⟨_, h, _⟩ => by simp at h, fun _ => trivial⟩
    | some path =>
      simp only [patchLoop, hm]
      cases hp : patchInfo inet st.info item.operation path item.value with
      | none =>
        have hop : (patchStep inet st item path).opSuccess = false := by simp [patchStep_opSuccess, hp]
        have h400 := @patchLoop_of_failed inet _ items hop
          (by rw [patchStep_httpCode, hop]; rfl)
        refine ⟨fun ⟨path', h, info', h', _⟩ => ?_, fun _ => h400⟩
        obtain rfl : path = path' := Option.some.inj (hm.symm.trans h)
        simp [hp] at h'
      | some info =>
        have hop : (patchStep inet st item path).opSuccess = true := by
          simp [patchStep_opSuccess, hs, hp]
        have hinfo : (patchStep inet st item path).info = info := by simp [patchStep_info, hp]
        have hcode : (patchStep inet st item path).httpCode = 200 := by rw [patchStep_httpCode, hop]; rfl
        obtain ⟨hyes, hno⟩ := ih hop
        rw [hinfo] at hyes hno
        constructor
        · rintro ⟨path', h, info', h', hrest⟩
          obtain rfl : path = path' := Option.some.inj (hm.symm.trans h)
          obtain rfl : info = info' := Option.some.inj (hp.symm.trans h')
          refine ⟨(hyes hrest).1, ?_⟩
          rw [(hyes hrest).2, hcode, if_neg (List.cons_ne_nil _ _), ite_self]
        · intro h
          exact hno fun hrest => h ⟨path, hm, info, hp, hrest⟩

theorem heartbeatOf_cons : heartbeatOf (item :: items) =
    (heartbeatOf items).or (if item.isHeartbeat then some item.value else none) := by
  unfold heartbeatOf
  cases hb : item.isHeartbeat with
  | false => simp [hb]
  | true =>
    cases hl : (items.filter PatchItem.isHeartbeat).getLast? <;>
      simp [hb, List.getLast?_cons, hl]

theorem patchLoop_heartbeat (h : AllAccepted inet st.info items) :
    (patchLoop inet items st).1.isHeartbeatProcedure =
        (st.isHeartbeatProcedure || (heartbeatOf items).isSome) ∧
      (patchLoop inet items st).1.heartbeatValue = (heartbeatOf items).getD st.heartbeatValue := by
  induction items generalizing st with
  | nil => simp [patchLoop, heartbeatOf]
  | cons item items ih =>
    obtain ⟨path, hm, info, hp, hrest⟩ := h
    have hinfo : (patchStep inet st item path).info = info := by simp [patchStep_info, hp]
    obtain ⟨hflag, hvalue⟩ := @patchStep_heartbeat inet st _ _ hm
    simp only [patchLoop, hm]
    obtain ⟨ih₁, ih₂⟩ := ih (hinfo ▸ hrest)
    rw [ih₁, ih₂, hflag, hvalue, heartbeatOf_cons]
    cases heartbeatOf items <;> cases item.isHeartbeat <;> simp

/-! ## The handler in these terms -/

variable {profile : NrfProfile}

theorem handleUpdateNfInstance_of_heartbeat {value : String}
    (h : acceptedHeartbeat inet profile.info items = some value) :
    handleUpdateNfInstance inet profile items =
        heartbeat profile (patchLoop inet items (.init profile.info)).1 ∧
      (patchLoop inet items (.init profile.info)).1.heartbeatValue = value := by
  unfold acceptedHeartbeat at h
  split_ifs at h with hall
  have hne : items ≠ [] := by
    rintro rfl
    simp [heartbeatOf] at h
  obtain ⟨hret, hcode⟩ := (@patchLoop_accepted inet (.init profile.info) items rfl).1 hall
  rw [if_neg hne] at hcode
  obtain ⟨hflag, hvalue⟩ := @patchLoop_heartbeat inet (.init profile.info) items hall
  rw [h] at hflag hvalue
  refine ⟨?_, hvalue⟩
  unfold handleUpdateNfInstance
  exact if_pos ⟨hret, by rw [hflag]; simp, hcode⟩

/-- The handler on any other request only writes what the accepted items write. -/
theorem handleUpdateNfInstance_of_none
    (h : acceptedHeartbeat inet profile.info items = none) :
    handleUpdateNfInstance inet profile items =
      { profile := { profile with info := writes inet profile.info items }
        httpCode := (patchLoop inet items (.init profile.info)).1.httpCode
        notified := (patchLoop inet items (.init profile.info)).1.notified
        recovered := false } := by
  have hnot : ¬ ((patchLoop inet items (.init profile.info)).2 = false ∧
      (patchLoop inet items (.init profile.info)).1.isHeartbeatProcedure = true ∧
      (patchLoop inet items (.init profile.info)).1.httpCode = 200) := by
    rintro ⟨-, hflag, hcode⟩
    unfold acceptedHeartbeat at h
    split_ifs at h with hall
    · rw [(@patchLoop_heartbeat inet (.init profile.info) items hall).1, h] at hflag
      simp [PatchState.init] at hflag
    · rw [(@patchLoop_accepted inet (.init profile.info) items rfl).2 hall] at hcode
      omega
  unfold handleUpdateNfInstance
  rw [if_neg hnot, patchLoop_info]
  rfl

theorem setNfStatus_info (info : ProfileInfo) (value : String) : (info.setNfStatus value).1 =
    if ValidStatus value then info.withStatus value else info := by
  unfold ProfileInfo.setNfStatus
  split_ifs <;> rfl

theorem setNfStatus_snd (info : ProfileInfo) (value : String) :
    (info.setNfStatus value).2 = decide (ValidStatus value) := by
  unfold ProfileInfo.setNfStatus
  split_ifs with h <;> simp [h]

/-- **The status after a request.** -/
theorem handleUpdateNfInstance_status :
    (handleUpdateNfInstance inet profile items).profile.info.nfStatus =
      patchedStatus inet profile.info items := by
  unfold patchedStatus
  cases h : acceptedHeartbeat inet profile.info items with
  | none => rw [handleUpdateNfInstance_of_none h]
  | some value =>
    obtain ⟨heq, hvalue⟩ := handleUpdateNfInstance_of_heartbeat h
    rw [heq, heartbeat, hvalue]
    simp only [setNfStatus_info, patchLoop_info]
    split_ifs <;> rfl

/-- **The request takes the id off the suspended lists exactly when it is an accepted heartbeat with a
status that exists.** -/
theorem handleUpdateNfInstance_recovered :
    (handleUpdateNfInstance inet profile items).recovered = true ↔
      ∃ value, acceptedHeartbeat inet profile.info items = some value ∧ ValidStatus value := by
  cases h : acceptedHeartbeat inet profile.info items with
  | none => simp [handleUpdateNfInstance_of_none h]
  | some value =>
    obtain ⟨heq, hvalue⟩ := handleUpdateNfInstance_of_heartbeat h
    rw [heq, heartbeat, hvalue]
    simp [setNfStatus_snd]

/-- **The timers after a request.** -/
theorem handleUpdateNfInstance_monitor :
    (handleUpdateNfInstance inet profile items).profile.monitor =
      match acceptedHeartbeat inet profile.info items with
      | some value =>
        if ValidStatus value then profile.monitor.afterHeartbeat.setStatusUpdated true
        else profile.monitor.afterHeartbeat
      | none => profile.monitor := by
  cases h : acceptedHeartbeat inet profile.info items with
  | none => rw [handleUpdateNfInstance_of_none h]
  | some value =>
    obtain ⟨heq, hvalue⟩ := handleUpdateNfInstance_of_heartbeat h
    rw [heq, heartbeat, hvalue]
    simp only [setNfStatus_snd, decide_eq_true_eq]

end

end Oai5g.Nrf
