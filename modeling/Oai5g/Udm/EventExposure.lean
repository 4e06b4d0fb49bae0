import Oai5g.Lib.Strtoul
import Oai5g.Smf.Generators

/-!
# The event exposure subscriptions of the UDM

`udm_app` keeps the subscriptions under their ids, and for every UE a list of ids.

* `UdmApp`, `handleCreateEeSubscription`, `handleDeleteEeSubscription`: the two maps and the two requests.
* `Tracked`: the application beside the table `owner` of what is subscribed, which says for each id whose
  subscription it is.
* `Attached`: the two maps say what the table says. `along_stepOk_iff`: how long they do.
-/

namespace Oai5g.Udm

open Numeral Smf

/-! ## The application -/

section

variable (α : Type*)

/-- `EeSubscription`: the id and the other members. -/
structure EeSubscription where
  subscriptionId : Option Str
  members : α

/-- `CreatedEeSubscription` -/
structure CreatedEeSubscription where
  eeSubscription : EeSubscription α
  numberOfUes : Option ℤ

/-- `udm_app`: the generator and the maps of the event exposure service. -/
structure UdmApp where
  evsubIdGenerator : UintGenerator
  udmEventSubscriptions : ℕ → Option (CreatedEeSubscription α)
  udmEventSubscriptionsPerUe : Str → Option (List ℕ)

end

variable {α : Type*}

namespace UdmApp

/-- No subscription. -/
def empty : UdmApp α := ⟨.empty, fun _ => none, fun _ => none⟩

variable (a : UdmApp α)

/-- The ids of a UE; none without an entry. -/
def idsOf (ueId : Str) : List ℕ := (a.udmEventSubscriptionsPerUe ueId).getD []

/-- `add_event_subscription` -/
def addEventSubscription (subId : ℕ) (ueId : Str) (ces : CreatedEeSubscription α) : UdmApp α :=
  { a with
    udmEventSubscriptions := Function.update a.udmEventSubscriptions subId (some ces)
    udmEventSubscriptionsPerUe :=
      Function.update a.udmEventSubscriptionsPerUe ueId (some (a.idsOf ueId ++ [subId])) }

/-- `delete_event_subscription`. The id is the text's number, cut to 32 bits. -/
def deleteEventSubscription (subscriptionId ueId : Str) : UdmApp α × Bool :=
  match stoul 10 subscriptionId with
  | none => (a, false)
  | some n =>
    let subId := n % 2 ^ 32
    ({ a with
        udmEventSubscriptions := Function.update a.udmEventSubscriptions subId none
        udmEventSubscriptionsPerUe := Function.update a.udmEventSubscriptionsPerUe ueId none },
      (a.udmEventSubscriptions subId).isSome && (a.udmEventSubscriptionsPerUe ueId).isSome)

/-- `handle_create_ee_subscription`: the new id and the HTTP code. `none`: no id is left, and it never returns. -/
def handleCreateEeSubscription (ueIdentity : Str) (eeSubscription : EeSubscription α)
    (createdSub : CreatedEeSubscription α) : Option (UdmApp α × ℕ × ℕ) :=
  (a.evsubIdGenerator.getUid 32).map fun (generator, evsubId) =>
    let es := { eeSubscription with subscriptionId := some (dec evsubId) }
    let ces := { createdSub with
      eeSubscription := es
      numberOfUes := if ueIdentity = [] then createdSub.numberOfUes else some 1 }
    ({ a with evsubIdGenerator := generator }.addEventSubscription evsubId ueIdentity ces, evsubId, 201)

/-- `handle_delete_ee_subscription`: the HTTP code is 404 first where nothing was deleted, and 204 in the end. -/
def handleDeleteEeSubscription (ueIdentity subscriptionId : Str) : UdmApp α × ℕ :=
  ((a.deleteEventSubscription subscriptionId ueIdentity).1, 204)

variable {a} {n subId : ℕ} {ueId text : Str}

theorem handleDeleteEeSubscription_of_stoul (h : stoul 10 text = some n) (hn : n < 2 ^ 32) :
    a.handleDeleteEeSubscription ueId text =
      ({ a with
          udmEventSubscriptions := Function.update a.udmEventSubscriptions n none
          udmEventSubscriptionsPerUe := Function.update a.udmEventSubscriptionsPerUe ueId none }, 204) := by
  unfold handleDeleteEeSubscription deleteEventSubscription
  rw [h]
  simp only [Nat.mod_eq_of_lt hn]

theorem idsOf_addEventSubscription (ces : CreatedEeSubscription α) (ue : Str) :
    (a.addEventSubscription subId ueId ces).idsOf ue =
      if ue = ueId then a.idsOf ueId ++ [subId] else a.idsOf ue := by
  by_cases hue : ue = ueId <;> simp [addEventSubscription, idsOf, hue]

end UdmApp

/-! ## The subscriptions and their UEs -/

/-- The two requests. -/
inductive EeRequest (α : Type*)
  | create (ueIdentity : Str) (eeSubscription : EeSubscription α) (createdSub : CreatedEeSubscription α)
  | delete (ueIdentity subscriptionId : Str)

/-- The application, and the UE of each id whose subscription is live. -/
structure Tracked (α : Type*) where
  app : UdmApp α
  owner : ℕ → Option Str

namespace Tracked

/-- No subscription, and none followed. -/
def empty : Tracked α := ⟨.empty, fun _ => none⟩

variable (t : Tracked α)

/-- The request of `ue` with this text is about its subscription `id`. -/
def Names (ue text : Str) (id : ℕ) : Prop := text = dec id ∧ t.owner id = some ue

instance (ue text : Str) (id : ℕ) : Decidable (t.Names ue text id) := by unfold Names; infer_instance

/-- A creation gives the new id to the UE, and a deletion is meant for the subscription that it names. -/
def step : EeRequest α → Tracked α
  | .create ue sub created =>
    match t.app.handleCreateEeSubscription ue sub created with
    | none => t
    | some (app, id, _) => ⟨app, Function.update t.owner id (some ue)⟩
  | .delete ue text =>
    ⟨(t.app.handleDeleteEeSubscription ue text).1, fun id => if t.Names ue text id then none else t.owner id⟩

/-- **The list of a UE has exactly the ids of its live subscriptions, each once.** -/
structure Attached : Prop where
  live : ∀ id, (t.app.udmEventSubscriptions id).isSome ↔ (t.owner id).isSome
  listed : ∀ ue id, id ∈ t.app.idsOf ue ↔ t.owner id = some ue
  once : ∀ ue, (t.app.idsOf ue).Nodup

/-- What is asked of a request: the subscriptions stay attached, a deletion removes the subscription that it
names and no other, and it answers 204 exactly where there is one. -/
structure StepOk (e : EeRequest α) : Prop where
  attached : (t.step e).Attached
  onlyThat : ∀ ue text, e = .delete ue text → ∀ id, (t.step e).app.udmEventSubscriptions id =
    if t.Names ue text id then none else t.app.udmEventSubscriptions id
  answer : ∀ ue text, e = .delete ue text →
    ((t.app.handleDeleteEeSubscription ue text).2 = 204 ↔ ∃ id, t.Names ue text id)

/-- A deletion names a live subscription, and it is the only one of the UE. -/
def OnlyOne (e : EeRequest α) : Prop :=
  ∀ ue text, e = .delete ue text →
    ∃ id, t.Names ue text id ∧ ∀ id', t.owner id' = some ue → id' = id

/-- The generator knows the ids. -/
structure Inv : Prop where
  attached : t.Attached
  generated : ∀ id, t.owner id ≠ none → id ∈ t.app.evsubIdGenerator.uidGenerated ∧ id < 2 ^ 32

variable {t} {e : EeRequest α} {ue text : Str} {id : ℕ}

theorem inv_empty : (empty : Tracked α).Inv := by
  refine ⟨⟨?_, ?_, ?_⟩, ?_⟩ <;> simp [empty, UdmApp.empty, UdmApp.idsOf]

theorem step_create_cases (t : Tracked α) (ue : Str) (sub : EeSubscription α)
    (created : CreatedEeSubscription α) :
    t.step (.create ue sub created) = t ∨
      ∃ g id ces, t.app.evsubIdGenerator.getUid 32 = some (g, id) ∧
        t.step (.create ue sub created) =
          ⟨{ t.app with evsubIdGenerator := g }.addEventSubscription id ue ces,
            Function.update t.owner id (some ue)⟩ := by
  cases hget : t.app.evsubIdGenerator.getUid 32 with
  | none =>
    left
    simp [step, UdmApp.handleCreateEeSubscription, hget]
  | some given =>
    obtain ⟨g, id⟩ := given
    right
    refine ⟨g, id, { created with
      eeSubscription := { sub with subscriptionId := some (dec id) }
      numberOfUes := if ue = [] then created.numberOfUes else some 1 }, rfl, ?_⟩
    simp [step, UdmApp.handleCreateEeSubscription, hget]

theorem mem_idsOf_addEventSubscription (app : UdmApp α) (id id' : ℕ) (ue ue' : Str) (ces : CreatedEeSubscription α) :
    id' ∈ (app.addEventSubscription id ue ces).idsOf ue' ↔ id' ∈ app.idsOf ue' ∨ id' = id ∧ ue' = ue := by
  rw [UdmApp.idsOf_addEventSubscription]
  by_cases hue : ue' = ue
  · rw [if_pos hue, List.mem_append, List.mem_singleton]
    simp [hue]
  · rw [if_neg hue]
    simp [hue]

/-- **A creation keeps the subscriptions attached.** -/
theorem Inv.create (h : t.Inv) (ue : Str) (sub : EeSubscription α) (created : CreatedEeSubscription α) :
    (t.step (.create ue sub created)).Inv := by
  rcases step_create_cases t ue sub created with hnone | ⟨g, id, ces, hget, hstep⟩
  · rwa [hnone]
  · obtain ⟨hnew, rfl⟩ := UintGenerator.getUid_spec hget
    have hlt : id < 2 ^ 32 := UintGenerator.getUid_lt hget
    have hfree : t.owner id = none := by
      by_contra hid
      exact hnew (h.generated id hid).1
    have hids (ue' : Str) : id ∉ t.app.idsOf ue' := by
      rw [h.attached.listed, hfree]
      simp
    rw [hstep]
    refine ⟨⟨fun id' => ?_, fun ue' id' => ?_, fun ue' => ?_⟩, fun id' hid' => ?_⟩
    · by_cases hid : id' = id
      · simp [UdmApp.addEventSubscription, hid]
      · simpa [UdmApp.addEventSubscription, hid] using h.attached.live id'
    · rw [mem_idsOf_addEventSubscription, update_some_eq_some]
      change id' ∈ t.app.idsOf ue' ∨ _ ↔ _
      rw [h.attached.listed]
      by_cases hid : id' = id
      · subst hid
        simp [hfree, eq_comm]
      · simp [hid]
    · rw [UdmApp.idsOf_addEventSubscription]
      split_ifs with hue
      · apply List.Nodup.append (h.attached.once ue) (List.nodup_singleton id)
        rw [List.disjoint_singleton]
        exact hids ue
      · exact h.attached.once ue'
    · change id' ∈ insert id t.app.evsubIdGenerator.uidGenerated ∧ id' < 2 ^ 32
      by_cases hid : id' = id
      · subst hid
        exact ⟨Finset.mem_insert_self _ _, hlt⟩
      · have hold : t.owner id' ≠ none := by
          change Function.update t.owner id (some ue) id' ≠ none at hid'
          rwa [Function.update_of_ne hid] at hid'
        obtain ⟨hmem, hlt'⟩ := h.generated id' hold
        exact ⟨Finset.mem_insert_of_mem hmem, hlt'⟩

theorem step_delete (hlt : id < 2 ^ 32) (ue : Str) :
    (t.step (.delete ue (dec id))).app =
      { t.app with
        udmEventSubscriptions := Function.update t.app.udmEventSubscriptions id none
        udmEventSubscriptionsPerUe := Function.update t.app.udmEventSubscriptionsPerUe ue none } := by
  have hstoul : stoul 10 (dec id) = some id := stoul_dec (by omega)
  change (t.app.handleDeleteEeSubscription ue (dec id)).1 = _
  rw [UdmApp.handleDeleteEeSubscription_of_stoul hstoul hlt]

theorem names_dec {id' : ℕ} (h : t.owner id = some ue) : t.Names ue (dec id) id' ↔ id' = id := by
  constructor
  · exact fun hnames => (dec_injective hnames.1).symm
  · rintro rfl
    exact ⟨rfl, h⟩

/-- **The only subscription of a UE is deleted as it should be.** -/
theorem stepOk_delete (h : t.Inv) (hC : t.OnlyOne (.delete ue text)) : t.StepOk (.delete ue text) := by
  obtain ⟨id, ⟨rfl, howner⟩, honly⟩ := hC ue text rfl
  have hlt : id < 2 ^ 32 := (h.generated id (by simp [howner])).2
  have hnames (id' : ℕ) : t.Names ue (dec id) id' ↔ id' = id := names_dec howner
  have hsubs (id' : ℕ) : (t.step (.delete ue (dec id))).app.udmEventSubscriptions id' =
      if id' = id then none else t.app.udmEventSubscriptions id' := by
    rw [step_delete hlt]
    exact Function.update_apply _ _ _ _
  have hids (ue' : Str) : (t.step (.delete ue (dec id))).app.idsOf ue' =
      if ue' = ue then [] else t.app.idsOf ue' := by
    unfold UdmApp.idsOf
    rw [step_delete hlt]
    by_cases hue : ue' = ue <;> simp [hue]
  have hleft (id' : ℕ) : (t.step (.delete ue (dec id))).owner id' = if id' = id then none else t.owner id' := by
    simp only [step, hnames]
  constructor
  case attached =>
    refine ⟨fun id' => ?_, fun ue' id' => ?_, fun ue' => ?_⟩
    · rw [hsubs, hleft]
      split_ifs
      · rfl
      · exact h.attached.live id'
    · rw [hids, hleft]
      have hlisted := h.attached.listed ue' id'
      split_ifs with hue hid hid
      · simp
      · subst hue
        simpa using fun howner' => hid (honly id' howner')
      · subst hid
        rw [hlisted, howner]
        simp [Ne.symm hue]
      · exact hlisted
    · rw [hids]
      split_ifs
      · exact List.nodup_nil
      · exact h.attached.once ue'
  case onlyThat =>
    rintro _ _ ⟨⟩ id'
    simp only [hsubs, hnames]
  case answer =>
    rintro _ _ ⟨⟩
    exact ⟨fun _ => ⟨id, rfl, howner⟩, fun _ => rfl⟩

theorem stepOk (h : t.Inv) (hC : t.OnlyOne e) : t.StepOk e := by
  cases e with
  | create ue sub created =>
    constructor
    case attached => exact (h.create ue sub created).attached
    case onlyThat => exact fun _ _ he => by cases he
    case answer => exact fun _ _ he => by cases he
  | delete ue text => exact stepOk_delete h hC

/-- **A deletion without a subscription is answered 204 too, and with others of the UE it drops their list.** -/
theorem StepOk.onlyOne (h : t.Inv) (hok : t.StepOk e) : t.OnlyOne e := by
  rintro ue text rfl
  obtain ⟨id, rfl, howner⟩ := (hok.answer ue text rfl).mp rfl
  refine ⟨id, ⟨rfl, howner⟩, fun id' howner' => ?_⟩
  by_contra hne
  have hlt : id < 2 ^ 32 := (h.generated id (by simp [howner])).2
  have hleft : (t.step (.delete ue (dec id))).owner id' = some ue := by
    simp only [step, names_dec howner, if_neg hne, howner']
  have hlisted := (hok.attached.listed ue id').mpr hleft
  unfold UdmApp.idsOf at hlisted
  rw [step_delete hlt] at hlisted
  simp at hlisted

theorem Inv.step (h : t.Inv) (hok : t.StepOk e) : (t.step e).Inv := by
  cases e with
  | create ue sub created => exact h.create ue sub created
  | delete ue text =>
    refine ⟨hok.attached, fun id hid => ?_⟩
    have hold : t.owner id ≠ none := by
      intro hnone
      apply hid
      simp [Tracked.step, hnone]
    obtain ⟨hmem, hlt⟩ := h.generated id hold
    refine ⟨?_, hlt⟩
    simp only [Tracked.step, UdmApp.handleDeleteEeSubscription, UdmApp.deleteEventSubscription]
    split <;> exact hmem

/-- **Attached as long as each deletion is about the only subscription of its UE.** -/
theorem along_stepOk_iff (es : List (EeRequest α)) :
    Along step StepOk (empty : Tracked α) es ↔ Along step OnlyOne empty es := by
  apply Along.iff_of_invariant (I := Inv)
  · exact fun t e hI hok => hI.step hok
  · exact fun t e hI => ⟨fun hok => hok.onlyOne hI, fun hC => stepOk hI hC⟩
  · exact inv_empty

theorem step_create_next (hnew : t.app.evsubIdGenerator.uidGenerator + 1 ∉ t.app.evsubIdGenerator.uidGenerated)
    (hlt : t.app.evsubIdGenerator.uidGenerator + 1 < 2 ^ 32) (ue : Str) (sub : EeSubscription α)
    (created : CreatedEeSubscription α) :
    (t.step (.create ue sub created)).app.evsubIdGenerator =
        ⟨t.app.evsubIdGenerator.uidGenerator + 1,
          insert (t.app.evsubIdGenerator.uidGenerator + 1) t.app.evsubIdGenerator.uidGenerated⟩ ∧
      (t.step (.create ue sub created)).owner =
        Function.update t.owner (t.app.evsubIdGenerator.uidGenerator + 1) (some ue) := by
  have hget := UintGenerator.getUid_of_lt (Nat.lt_succ_self _) hlt hnew fun v hv hv' => by omega
  simp only [step, UdmApp.handleCreateEeSubscription, hget, Option.map_some]
  exact ⟨rfl, True.intro⟩

/-- Two subscriptions of a UE, and the deletion of the first: the list of the UE is gone. -/
theorem secondSubscription_not_attached :
    ¬ Along step StepOk (empty : Tracked Unit)
      [.create ['u'] ⟨none, ()⟩ ⟨⟨none, ()⟩, none⟩, .create ['u'] ⟨none, ()⟩ ⟨⟨none, ()⟩, none⟩,
        .delete ['u'] ['1']] := by
  rintro ⟨hfirst, hsecond, hdelete, -⟩
  obtain ⟨hgen, hown⟩ := step_create_next (t := (empty : Tracked Unit)) (by simp [empty, UdmApp.empty,
    UintGenerator.empty]) (by simp [empty, UdmApp.empty, UintGenerator.empty]) ['u'] ⟨none, ()⟩ ⟨⟨none, ()⟩, none⟩
  have hInv := (inv_empty.step hfirst).step hsecond
  generalize step empty (.create ['u'] ⟨none, ()⟩ ⟨⟨none, ()⟩, none⟩) = t at *
  obtain ⟨-, hown'⟩ := step_create_next (t := t) (by simp [hgen, empty, UdmApp.empty, UintGenerator.empty])
    (by simp [hgen, empty, UdmApp.empty, UintGenerator.empty]) ['u'] ⟨none, ()⟩ ⟨⟨none, ()⟩, none⟩
  obtain ⟨id, -, honly⟩ := hdelete.onlyOne hInv _ _ rfl
  have h1 := honly 1 (by simp [hown', hgen, hown, empty, UdmApp.empty, UintGenerator.empty])
  have h2 := honly 2 (by simp [hown', hgen, empty, UdmApp.empty, UintGenerator.empty])
  omega

end Tracked

end Oai5g.Udm
