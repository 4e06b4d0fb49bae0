import Oai5g.Nrf.App

/-!
# Notification of registered NFs

* `getSubscriptionList`: the subscriptions whose URIs are collected for a profile, with the HTTP version
  of the last one examined; `handleNfStatusRegistered` notifies them.
* `findNfProfiles`, `handleCreateSubscription`: the profiles a new subscription is told of.
* `SubscriptionCondition.MetBy`: what a condition asks of an NF, apart from the tests of the two handlers.
* `toldOnce_iff`: both orders tell once only for conditions on a stored NF type.
-/

namespace Oai5g.Nrf

/-! ## Subscriptions -/

/-- The conditions of a subscription; the NRF evaluates the first four of them after `unknown`. -/
inductive SubscriptionCondition
  | unknown
  | nfInstanceId (id : String)
  | nfType (name : String)
  | serviceName (name : String)
  | amf (amfInfo : AmfInfo)
  | guamiList
  | networkSlice
  | nfGroup
  deriving DecidableEq

/-- The events that a subscription can ask for. -/
inductive NotificationType
  | unknownEvent | nfRegistered | nfDeregistered | nfProfileChanged
  deriving DecidableEq

/-- A subscription; `validityTime` in microseconds. -/
structure NrfSubscription where
  subscriptionId : String
  notificationUri : String
  condition : SubscriptionCondition
  notifEvents : List NotificationType
  validityTime : ℕ
  httpVersion : UInt8
  deriving DecidableEq

/-- A notification sent to the URI of a subscription, with the address it gives for the instance. -/
structure Notification where
  subscription : NrfSubscription
  /-- `nfInstanceUri` -/
  instanceUri : UInt32
  profileId : String
  profile : NrfProfile
  httpVersion : UInt8
  deriving DecidableEq

/-- `notify_subscribed_event` for the URIs of some subscriptions. It reads the first IPv4 address of the profile: `none`
where there is none to read. -/
def notifySubscribedEvent (id : String) (p : NrfProfile) (uris : List NrfSubscription) (httpVersion : UInt8) :
    Option (List Notification) :=
  p.info.ipv4Addresses.head?.map fun a => uris.map fun s => ⟨s, a, id, p, httpVersion⟩

/-! ## The profile registers after the subscription -/

section

variable (now : ℕ) (id : String) (p : NrfProfile)

/-- Whether the event handler takes a profile to meet a condition. -/
def SubscriptionCondition.matchesProfile : SubscriptionCondition → Bool
  | .nfInstanceId i => id = i
  | .nfType name => nfTypeToString p.info.nfType = name
  | .serviceName name => p.info.nfInstanceName = name
  | .amf amfInfo => nfTypeToString p.info.nfType = "AMF" ∧
      p.amfInfo.amfRegionId = amfInfo.amfRegionId ∧ p.amfInfo.amfSetId = amfInfo.amfSetId
  | _ => false

/-- Whether the URI of a subscription is collected for an event of a profile. -/
def NrfSubscription.isNotified (event : NotificationType) (s : NrfSubscription) : Bool :=
  s.notifEvents.contains event && now ≤ s.validityTime && s.condition.matchesProfile id p

/-- One turn of the loop over the subscriptions: the HTTP version is taken from each of them. -/
def collect (event : NotificationType) (acc : List NrfSubscription × UInt8) (s : NrfSubscription) :
    List NrfSubscription × UInt8 :=
  (if s.isNotified now id p event then acc.1 ++ [s] else acc.1, s.httpVersion)

/-- `get_subscription_list` for a stored profile. -/
def getSubscriptionList (event : NotificationType) (subs : List NrfSubscription) :
    List NrfSubscription × UInt8 :=
  subs.foldl (collect now id p event) ([], 1)

/-- `handle_nf_status_registered` for the profile stored under `id`: `none` where it does not return. -/
def handleNfStatusRegistered (subs : List NrfSubscription) : Option (List Notification) :=
  let found := getSubscriptionList now id p .nfRegistered subs
  if found.1 = [] then some [] else notifySubscribedEvent id p found.1 found.2

end

/-! ## The profile was registered before the subscription -/

/-- `find_nf_profiles` for a condition, over the stored profiles. -/
def findNfProfiles (condition : SubscriptionCondition) (profiles : List (String × NrfProfile)) :
    List (String × NrfProfile) :=
  match condition with
  | .nfType name => profiles.filter fun e =>
      e.2.info.nfType = stringToNfType name && e.2.info.isNfActive
  | _ => []

/-- The notifications `handle_create_subscription` sends for a new subscription: `none` where it does not return. -/
def handleCreateSubscription (s : NrfSubscription) (profiles : List (String × NrfProfile)) :
    Option (List Notification) :=
  if s.notifEvents.contains .nfRegistered then
    ((findNfProfiles s.condition profiles).mapM fun e => notifySubscribedEvent e.1 e.2 [s] s.httpVersion).map
      List.flatten
  else some []

/-! ## Both orders -/

/-- **What a condition asks of an NF**: the instance id, the NF type, a service that it offers, or the region and set of
an AMF. The type is the name that the NF has given itself, whatever was stored for it. -/
def SubscriptionCondition.MetBy (typeName id : String) (p : NrfProfile) : SubscriptionCondition → Prop
  | .nfInstanceId i => i = id
  | .nfType name => name = typeName
  | .serviceName name => name ∈ p.nfServices
  | .amf amfInfo => typeName = "AMF" ∧ amfInfo = p.amfInfo
  | _ => False

section

variable (now : ℕ) (subs : List NrfSubscription) (profiles : List (String × NrfProfile))
  (s : NrfSubscription) (typeName id : String) (p : NrfProfile)

/-- Of the notifications sent, those of a profile to a subscription. -/
def sentFor (sent : List Notification) : List Notification :=
  sent.filter fun n => n.subscription.subscriptionId = s.subscriptionId ∧ n.profileId = id

/-- The handler returns. It has sent the subscription one notification of the profile, over its own HTTP version, where
it is to be told, and none otherwise. -/
def Tells (toBeTold : Prop) (sent : Option (List Notification)) : Prop :=
  ∃ l, sent = some l ∧
    (toBeTold → ∃ n, sentFor s id l = [n] ∧ n.subscription = s ∧ n.profile = p ∧ n.httpVersion = s.httpVersion) ∧
    (¬ toBeTold → sentFor s id l = [])

/-- The subscription is to be told of the NF: it has not expired, and the NF meets its condition. -/
def ToBeTold : Prop := now ≤ s.validityTime ∧ s.condition.MetBy typeName id p

/-- **Told once, whichever came first.** -/
def ToldOnce : Prop :=
  Tells s id p (ToBeTold now s typeName id p) (handleNfStatusRegistered now id p subs) ∧
    Tells s id p (ToBeTold now s typeName id p) (handleCreateSubscription s profiles)

/-- The condition is an NF type that converts to the stored type of the profile, and the profile is REGISTERED. -/
def SubscriptionCondition.Finds (c : SubscriptionCondition) (p : NrfProfile) : Prop :=
  ∃ name, c = .nfType name ∧ p.info.nfType = stringToNfType name ∧ p.info.isNfActive = true

/-- The profiles that there is something to tell of have an IPv4 address. -/
def AddressesKnown : Prop :=
  ((∃ t ∈ subs, t.isNotified now id p .nfRegistered = true) → p.info.ipv4Addresses ≠ []) ∧
    ∀ e ∈ profiles, s.condition.Finds e.2 → e.2.info.ipv4Addresses ≠ []

/-- The condition is the NF type that the NF has given itself and that is stored for it, of a registered profile, with
the version of the last subscription of the table; or the subscription is not to be told, and neither handler takes the
condition to be met. -/
def AgreesOnProfile : Prop :=
  AddressesKnown now subs profiles s id p ∧
    ((s.condition = .nfType typeName ∧ nfTypeToString p.info.nfType = typeName ∧ p.info.isNfActive = true ∧
        now ≤ s.validityTime ∧ subs.getLast?.map NrfSubscription.httpVersion = some s.httpVersion) ∨
      (¬ ToBeTold now s typeName id p ∧ (s.validityTime < now ∨ s.condition.matchesProfile id p = false) ∧
        ¬ s.condition.Finds p))

end

section

variable {now : ℕ} {subs : List NrfSubscription} {profiles : List (String × NrfProfile)}
  {s : NrfSubscription} {typeName id : String} {p : NrfProfile} {toBeTold : Prop}

theorem foldl_collect (event : NotificationType) (acc : List NrfSubscription × UInt8) :
    subs.foldl (collect now id p event) acc =
      (acc.1 ++ subs.filter (NrfSubscription.isNotified now id p event),
        (subs.getLast?.map NrfSubscription.httpVersion).getD acc.2) := by
  induction subs generalizing acc with
  | nil => simp
  | cons t subs ih =>
    rw [List.foldl_cons, ih]
    have hlast : ((subs.getLast?.map NrfSubscription.httpVersion).getD t.httpVersion) =
        (((t :: subs).getLast?.map NrfSubscription.httpVersion).getD acc.2) := by
      cases h : subs.getLast? <;> simp [List.getLast?_cons, h]
    refine Prod.ext ?_ hlast
    by_cases ht : t.isNotified now id p event = true <;> simp [collect, ht]

theorem filter_key_eq {α : Type} {key : α → String} {l : List α} (hl : (l.map key).Nodup) {a : α}
    (ha : a ∈ l) : l.filter (fun b => key b = key a) = [a] := by
  induction l with
  | nil => simp at ha
  | cons b l ih =>
    rw [List.map_cons, List.nodup_cons] at hl
    rcases List.mem_cons.mp ha with rfl | ha
    · have hrest : l.filter (fun b => key b = key a) = [] := by
        refine List.filter_eq_nil_iff.mpr fun b hb => ?_
        simp only [decide_eq_true_eq]
        exact fun h => hl.1 (h ▸ List.mem_map_of_mem hb)
      simp [hrest]
    · have hne : key b ≠ key a := fun h => hl.1 (h ▸ List.mem_map_of_mem ha)
      simp [hne, ih hl.2 ha]

theorem filter_filter_key {α : Type} {key : α → String} {l : List α} (hl : (l.map key).Nodup) {a : α}
    (ha : a ∈ l) (chosen : α → Bool) :
    (l.filter chosen).filter (fun b => key b = key a) = if chosen a = true then [a] else [] := by
  rw [List.filter_comm, filter_key_eq hl ha]
  by_cases h : chosen a = true <;> simp [h]

theorem not_tells_none : ¬ Tells s id p toBeTold none := by
  rintro ⟨l, hl, -⟩
  cases hl

theorem tells_some_iff {l : List Notification} {sends : Prop} [Decidable sends] {n : Notification}
    (hl : sentFor s id l = if sends then [n] else []) (hs : n.subscription = s) (hp : n.profile = p) :
    Tells s id p toBeTold (some l) ↔
      (toBeTold → sends ∧ n.httpVersion = s.httpVersion) ∧ (¬ toBeTold → ¬ sends) := by
  constructor
  · rintro ⟨l', hl', htold, hnot⟩
    obtain rfl := Option.some.inj hl'
    rw [hl] at htold hnot
    constructor
    · intro h
      obtain ⟨m, hm, -, -, hversion⟩ := htold h
      by_cases hsends : sends
      · rw [if_pos hsends] at hm
        obtain rfl := List.singleton_inj.mp hm
        exact ⟨hsends, hversion⟩
      · rw [if_neg hsends] at hm
        cases hm
    · intro h hsends
      have hnone := hnot h
      rw [if_pos hsends] at hnone
      cases hnone
  · rintro ⟨htold, hnot⟩
    refine ⟨l, rfl, fun h => ⟨n, ?_, hs, hp, (htold h).2⟩, fun h => ?_⟩
    · rw [hl, if_pos (htold h).1]
    · rw [hl, if_neg (hnot h)]

/-- **The first order**: the profile needs an address, and the version is the one of the last subscription. -/
theorem registered_tells_iff (hsubs : (subs.map NrfSubscription.subscriptionId).Nodup) (hs : s ∈ subs) :
    Tells s id p toBeTold (handleNfStatusRegistered now id p subs) ↔
      ((∃ t ∈ subs, t.isNotified now id p .nfRegistered = true) → p.info.ipv4Addresses ≠ []) ∧
        (toBeTold → s.isNotified now id p .nfRegistered = true ∧
          subs.getLast?.map NrfSubscription.httpVersion = some s.httpVersion) ∧
        (¬ toBeTold → ¬ s.isNotified now id p .nfRegistered = true) := by
  obtain ⟨last, hlast⟩ : ∃ t, subs.getLast? = some t :=
    ⟨_, List.getLast?_eq_some_getLast (List.ne_nil_of_mem hs)⟩
  unfold handleNfStatusRegistered getSubscriptionList
  rw [foldl_collect, hlast]
  dsimp only [List.nil_append, Option.map_some, Option.getD_some]
  by_cases hnone : subs.filter (NrfSubscription.isNotified now id p .nfRegistered) = []
  · have hno : ∀ t ∈ subs, ¬ t.isNotified now id p .nfRegistered = true := List.filter_eq_nil_iff.mp hnone
    have hsent : sentFor s id [] = if False then [⟨s, 0, id, p, 0⟩] else [] := rfl
    rw [if_pos hnone, tells_some_iff hsent rfl rfl]
    constructor
    · rintro ⟨htold, -⟩
      exact ⟨fun ⟨t, ht, hn⟩ => absurd hn (hno t ht), fun h => (htold h).1.elim, fun _ => hno s hs⟩
    · rintro ⟨-, htold, -⟩
      exact ⟨fun h => absurd (htold h).1 (hno s hs), fun _ h => h⟩
  · obtain ⟨t, ht⟩ := List.exists_mem_of_ne_nil _ hnone
    obtain ⟨hmem, hn⟩ := List.mem_filter.mp ht
    rw [if_neg hnone]
    unfold notifySubscribedEvent
    cases haddresses : p.info.ipv4Addresses with
    | nil => exact iff_of_false not_tells_none fun h => h.1 ⟨t, hmem, hn⟩ rfl
    | cons a addresses =>
      have hsent : sentFor s id ((subs.filter (NrfSubscription.isNotified now id p .nfRegistered)).map
          fun s => ⟨s, a, id, p, last.httpVersion⟩) =
            if s.isNotified now id p .nfRegistered = true then [⟨s, a, id, p, last.httpVersion⟩] else [] := by
        unfold sentFor
        rw [List.filter_map]
        have hcomp : ((fun n : Notification => decide (n.subscription.subscriptionId = s.subscriptionId ∧
            n.profileId = id)) ∘ fun s => ⟨s, a, id, p, last.httpVersion⟩) =
            fun t : NrfSubscription => decide (t.subscriptionId = s.subscriptionId) := by
          funext t
          simp
        rw [hcomp, filter_filter_key hsubs hs]
        split_ifs <;> rfl
      rw [List.head?_cons, Option.map_some, tells_some_iff hsent rfl rfl]
      simp

theorem findNfProfiles_eq {c : SubscriptionCondition} [DecidablePred c.Finds] :
    findNfProfiles c profiles = profiles.filter fun e => c.Finds e.2 := by
  unfold findNfProfiles
  cases c with
  | nfType name =>
    refine List.filter_congr fun e _ => ?_
    have hfinds : SubscriptionCondition.Finds (.nfType name) e.2 ↔
        e.2.info.nfType = stringToNfType name ∧ e.2.info.isNfActive = true := by
      simp [SubscriptionCondition.Finds]
    simp [hfinds]
  | _ => simp [SubscriptionCondition.Finds]

theorem mapM_notify {l : List (String × NrfProfile)} (hl : ∀ e ∈ l, e.2.info.ipv4Addresses ≠ []) :
    (l.mapM fun e => notifySubscribedEvent e.1 e.2 [s] s.httpVersion) =
      some (l.map fun e => [⟨s, e.2.info.ipv4Addresses.headD 0, e.1, e.2, s.httpVersion⟩]) := by
  induction l with
  | nil => rfl
  | cons e l ih =>
    rw [List.mapM_cons, ih fun x hx => hl x (List.mem_cons_of_mem _ hx)]
    have hne := hl e List.mem_cons_self
    unfold notifySubscribedEvent
    cases haddresses : e.2.info.ipv4Addresses with
    | nil => exact absurd haddresses hne
    | cons a addresses => simp [haddresses]

theorem mapM_notify_none {l : List (String × NrfProfile)} {e : String × NrfProfile} (he : e ∈ l)
    (hno : e.2.info.ipv4Addresses = []) :
    (l.mapM fun e => notifySubscribedEvent e.1 e.2 [s] s.httpVersion) = none := by
  induction l with
  | nil => cases he
  | cons x l ih =>
    rw [List.mapM_cons]
    rcases List.mem_cons.mp he with rfl | he
    · simp [notifySubscribedEvent, hno]
    · cases notifySubscribedEvent x.1 x.2 [s] s.httpVersion <;> simp [ih he]

/-- **The second order**: a condition on the NF type, of a registered profile. -/
theorem created_tells_iff (hprofiles : (profiles.map Prod.fst).Nodup) (hp : (id, p) ∈ profiles)
    (hevent : s.notifEvents.contains .nfRegistered = true) :
    Tells s id p toBeTold (handleCreateSubscription s profiles) ↔
      (∀ e ∈ profiles, s.condition.Finds e.2 → e.2.info.ipv4Addresses ≠ []) ∧
        (toBeTold → s.condition.Finds p) ∧ (¬ toBeTold → ¬ s.condition.Finds p) := by
  classical
  unfold handleCreateSubscription
  rw [if_pos hevent, findNfProfiles_eq]
  by_cases hall : ∀ e ∈ profiles, s.condition.Finds e.2 → e.2.info.ipv4Addresses ≠ []
  · rw [mapM_notify fun e he => hall e (List.mem_of_mem_filter he)
      (of_decide_eq_true (List.mem_filter.mp he).2)]
    have hsent : sentFor s id (((profiles.filter fun e => s.condition.Finds e.2).map fun e =>
        [(⟨s, e.2.info.ipv4Addresses.headD 0, e.1, e.2, s.httpVersion⟩ : Notification)]).flatten) =
          if s.condition.Finds p then [⟨s, p.info.ipv4Addresses.headD 0, id, p, s.httpVersion⟩] else [] := by
      have hsingletons : ∀ l : List (String × NrfProfile), (l.map fun e =>
          [(⟨s, e.2.info.ipv4Addresses.headD 0, e.1, e.2, s.httpVersion⟩ : Notification)]).flatten =
            l.map fun e => ⟨s, e.2.info.ipv4Addresses.headD 0, e.1, e.2, s.httpVersion⟩ := fun l => by
        induction l with
        | nil => rfl
        | cons e l ih =>
          rw [List.map_cons, List.flatten_cons, ih]
          rfl
      unfold sentFor
      rw [hsingletons, List.filter_map]
      have hcomp : ((fun n : Notification => decide (n.subscription.subscriptionId = s.subscriptionId ∧
          n.profileId = id)) ∘ fun e : String × NrfProfile =>
            ⟨s, e.2.info.ipv4Addresses.headD 0, e.1, e.2, s.httpVersion⟩) =
          fun e => decide (e.1 = (id, p).1) := by
        funext e
        simp
      rw [hcomp, filter_filter_key hprofiles hp]
      by_cases hfinds : s.condition.Finds p <;> simp [hfinds]
    rw [Option.map_some, tells_some_iff hsent rfl rfl]
    constructor
    · rintro ⟨htold, hnot⟩
      exact ⟨hall, fun h => (htold h).1, hnot⟩
    · rintro ⟨-, htold, hnot⟩
      exact ⟨fun h => ⟨htold h, rfl⟩, hnot⟩
  · refine iff_of_false ?_ fun h => hall h.1
    push Not at hall
    obtain ⟨e, he, hfinds, hno⟩ := hall
    rw [mapM_notify_none (List.mem_filter.mpr ⟨he, decide_eq_true hfinds⟩) hno]
    exact not_tells_none

theorem isNotified_iff (hevent : s.notifEvents.contains .nfRegistered = true) :
    s.isNotified now id p .nfRegistered = true ↔
      now ≤ s.validityTime ∧ s.condition.matchesProfile id p = true := by
  unfold NrfSubscription.isNotified
  rw [hevent]
  simp

/-- **When both orders tell a subscription of a profile alike.** -/
theorem toldOnce_iff (now : ℕ) (subs : List NrfSubscription) (profiles : List (String × NrfProfile))
    (s : NrfSubscription) (typeName id : String) (p : NrfProfile)
    (hsubs : (subs.map NrfSubscription.subscriptionId).Nodup) (hs : s ∈ subs)
    (hprofiles : (profiles.map Prod.fst).Nodup) (hp : (id, p) ∈ profiles)
    (hevent : s.notifEvents.contains .nfRegistered = true) :
    ToldOnce now subs profiles s typeName id p ↔ AgreesOnProfile now subs profiles s typeName id p := by
  unfold ToldOnce AgreesOnProfile AddressesKnown
  rw [registered_tells_iff hsubs hs, created_tells_iff hprofiles hp hevent, isNotified_iff hevent]
  constructor
  · rintro ⟨⟨haddress, htold, hnot⟩, haddresses, hfound, hnotFound⟩
    refine ⟨⟨haddress, haddresses⟩, ?_⟩
    by_cases h : ToBeTold now s typeName id p
    · left
      obtain ⟨⟨hvalid, hmatches⟩, hversion⟩ := htold h
      obtain ⟨name, hc, -, hactive⟩ := hfound h
      have hmet := h.2
      rw [hc] at hmet hmatches
      obtain rfl : name = typeName := hmet
      exact ⟨hc, of_decide_eq_true hmatches, hactive, hvalid, hversion⟩
    · right
      refine ⟨h, ?_, hnotFound h⟩
      have hno := hnot h
      by_cases hvalid : now ≤ s.validityTime
      · exact .inr (by simpa [hvalid] using hno)
      · exact .inl (by omega)
  · rintro ⟨⟨haddress, haddresses⟩, ⟨hc, htype, hactive, hvalid, hversion⟩ | ⟨hno, hnotMatched, hnotFound⟩⟩
    · have hfinds : s.condition.Finds p :=
        ⟨typeName, hc, htype ▸ (stringToNfType_nfTypeToString _).symm, hactive⟩
      have hmet : ToBeTold now s typeName id p := by
        refine ⟨hvalid, ?_⟩
        rw [hc]
        rfl
      have hmatches : s.condition.matchesProfile id p = true := by
        rw [hc]
        exact decide_eq_true htype
      exact ⟨⟨haddress, fun _ => ⟨⟨hvalid, hmatches⟩, hversion⟩, fun h => absurd hmet h⟩, haddresses,
        fun _ => hfinds, fun h => absurd hmet h⟩
    · refine ⟨⟨haddress, fun h => absurd h hno, fun _ => ?_⟩, haddresses, fun h => absurd h hno,
        fun _ => hnotFound⟩
      rintro ⟨hvalid, hmatches⟩
      rcases hnotMatched with hlt | hfalse
      · omega
      · rw [hfalse] at hmatches
        cases hmatches

/-! ## Examples -/

/-- A registered NF with one address. -/
def exampleNf (id nfType : String) : NrfProfile := registeredProfile
  { inet := ⟨fun _ => some 0xC0A84686, fun _ => none⟩, heartbeat := 10, suspendedNfInterval := 10 }
  { nfInstanceId := id, nfInstanceName := "OAI-" ++ nfType, nfType := nfType, nfStatus := "REGISTERED"
    priority := 1, capacity := 100, fqdn := none, ipv4Addresses := some ["192.168.70.134"], amfInfo := ⟨"", ""⟩
    nfServices := none }

/-- A subscription to NF_REGISTERED, over HTTP/2. -/
def exampleSubscription (id : String) (condition : SubscriptionCondition) : NrfSubscription :=
  { subscriptionId := id, notificationUri := "http://amf/notify", condition := condition
    notifEvents := [.nfRegistered], validityTime := 100, httpVersion := 2 }

/-- An SMF and a UPF, a subscription to SMFs and another one to an instance. -/
theorem toldOnce_iff_smf :
    ToldOnce 10 [exampleSubscription "1" (.nfType "SMF"), exampleSubscription "2" (.nfInstanceId "7")]
      [("1", exampleNf "1" "SMF"), ("2", exampleNf "2" "UPF")] (exampleSubscription "1" (.nfType "SMF")) "SMF" "1"
      (exampleNf "1" "SMF") := by
  refine (toldOnce_iff 10 [exampleSubscription "1" (.nfType "SMF"), exampleSubscription "2" (.nfInstanceId "7")]
    [("1", exampleNf "1" "SMF"), ("2", exampleNf "2" "UPF")] (exampleSubscription "1" (.nfType "SMF")) "SMF" "1"
    (exampleNf "1" "SMF") (by decide) List.mem_cons_self (by decide) List.mem_cons_self rfl).mpr
      ⟨⟨fun _ => by decide, fun e he _ => ?_⟩, .inl ⟨rfl, rfl, by decide, by decide, rfl⟩⟩
  rcases List.mem_cons.mp he with rfl | he
  · decide
  · obtain rfl := List.mem_singleton.mp he
    decide

/-- A subscription to an instance id is told of the NF only when the NF registers later. -/
theorem not_toldOnce_instanceId :
    ¬ ToldOnce 10 [exampleSubscription "1" (.nfInstanceId "1")] [("1", exampleNf "1" "SMF")]
      (exampleSubscription "1" (.nfInstanceId "1")) "SMF" "1" (exampleNf "1" "SMF") := by
  rintro ⟨-, l, hl, htold, -⟩
  obtain rfl := Option.some.inj hl
  obtain ⟨n, hn, -⟩ := htold ⟨by decide, rfl⟩
  cases hn

end

end Oai5g.Nrf
