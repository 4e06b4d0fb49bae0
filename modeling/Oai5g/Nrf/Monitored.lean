import Oai5g.Lib.Run
import Oai5g.Nrf.Suspended

/-!
# Heartbeat monitoring

* `Monitor.Ok`: how the two timers and the two flags go together; every step keeps it.
* `Monitored`, `EventuallySuspended`: a registered NF has a running timer, and falls silent only to be
  suspended at the second expiry of that timer at the latest.
* `KeepsMonitored`: the second timer is started only once in the life of a profile, so an NF whose
  timers have both ended must not become registered again.
* `registered_monitored`: over runs of such events every registered NF is monitored.
-/

namespace Oai5g.Nrf

variable {cfg : NrfCfg} {s : NrfApp}

/-! ## Timers and flags -/

/-- The first timer ends with the first heartbeat, and the second starts with it. -/
structure Monitor.Ok (m : Monitor) : Prop where
  first : m.firstHbConnection = true → m.firstUpdate = true ∧ m.isUpdated = false
  update : m.hbUpdateConnection = true → m.firstUpdate = false

namespace Monitor

variable {m : Monitor}

theorem Ok.registered : (Monitor.init.subscribeNfregistration).Ok where
  first := fun _ => ⟨rfl, rfl⟩
  update := fun h => by simp [init, subscribeNfregistration] at h

theorem afterHeartbeat_first (m : Monitor) : m.afterHeartbeat.firstHbConnection = false := by
  obtain ⟨fu, iu, fh, hu⟩ := m
  cases fu <;> cases fh <;> cases hu <;> rfl

/-- After a heartbeat the second timer runs, provided it ran or was never started. -/
theorem afterHeartbeat_active (hm : m.Ok) (h : m.Active ∨ m.firstUpdate = true) :
    m.afterHeartbeat.hbUpdateConnection = true := by
  have hfirst := hm.first
  obtain ⟨fu, iu, fh, hu⟩ := m
  revert hfirst h
  unfold Active
  cases fu <;> cases fh <;> cases hu <;> simp [afterHeartbeat, subscribeNfupdate,
    unsubscribeNfregistration]

theorem Ok.afterHeartbeat (hm : m.Ok) : m.afterHeartbeat.Ok where
  first := fun h => by simp [afterHeartbeat_first] at h
  update := by
    have hupdate := hm.update
    obtain ⟨fu, iu, fh, hu⟩ := m
    revert hupdate
    cases fu <;> cases fh <;> cases hu <;> simp [Monitor.afterHeartbeat, subscribeNfupdate,
      unsubscribeNfregistration]

theorem Ok.setStatusUpdated (hm : m.Ok) {b : Bool} (h : b = true → m.firstHbConnection = false) :
    (m.setStatusUpdated b).Ok where
  first := fun hf => ⟨(hm.first hf).1, by
    cases b with
    | false => rfl
    | true => exact absurd hf (by simp [Monitor.setStatusUpdated, h rfl])⟩
  update := hm.update

theorem Ok.unsubscribeNfregistration (hm : m.Ok) : m.unsubscribeNfregistration.Ok where
  first := fun h => by simp [Monitor.unsubscribeNfregistration] at h
  update := hm.update

theorem Ok.unsubscribeNfupdate (hm : m.Ok) : m.unsubscribeNfupdate.Ok where
  first := hm.first
  update := fun h => by simp [Monitor.unsubscribeNfupdate] at h

end Monitor

/-! ## The properties -/

/-- Every registered NF has an active heartbeat time-out subscription. -/
def Monitored (s : NrfApp) : Prop :=
  ∀ id p, s.instanceId2nrfProfile id = some p → p.info.isNfActive = true → p.monitor.Active

/-- No request of the NF. -/
def Silent (id : String) : NrfEvent → Prop
  | .register i _ => i ≠ id
  | .update i _ => i ≠ id
  | .deregister i => i ≠ id
  | .timeout _ _ _ => True
  | .removeSuspended _ => True

/-- The event is a timeout of this connection for this instance. -/
def isTimeout (c : HbConnection) (id : String) : NrfEvent → Bool
  | .timeout c' id' _ => c' = c && id' = id
  | _ => false

/-- A registered NF that falls silent is suspended once one of its timers has expired twice, whatever
else happens. -/
def EventuallySuspended (cfg : NrfCfg) (s : NrfApp) : Prop :=
  ∀ id p, s.instanceId2nrfProfile id = some p → p.info.isNfActive = true →
    ∃ c, p.monitor.connected c = true ∧
      ∀ es : List NrfEvent, (∀ e ∈ es, Silent id e) → 2 ≤ es.countP (isTimeout c id) →
        ∀ q, (run (nrfStep cfg) s es).instanceId2nrfProfile id = some q → q.info.isSuspended = true

/-- The events that keep registered NFs monitored, in the state they find. -/
def KeepsMonitored (cfg : NrfCfg) (s : NrfApp) : NrfEvent → Prop
  | .update id items => ∀ p, s.instanceId2nrfProfile id = some p →
      p.monitor.Active ∨
        p.monitor.firstUpdate = true ∧ (acceptedHeartbeat cfg.inet p.info items).isSome = true ∨
        iequals (patchedStatus cfg.inet p.info items) "REGISTERED" = false
  | _ => True

/-- What is kept of every stored profile. -/
structure ProfileOk (p : NrfProfile) : Prop where
  ok : p.monitor.Ok
  active : p.info.isNfActive = true → p.monitor.Active

/-- Every stored profile is monitored as it should be. -/
def AllMonitored (s : NrfApp) : Prop :=
  ∀ id p, s.instanceId2nrfProfile id = some p → ProfileOk p

/-! ## Steps -/

theorem AllMonitored.addNfProfile (hs : AllMonitored s) {id : String} {p : NrfProfile}
    (hp : ProfileOk p) : AllMonitored (s.addNfProfile id p) := by
  intro i q hq
  rw [addNfProfile_profile, update_some_eq_some] at hq
  rcases hq with ⟨rfl, rfl⟩ | ⟨-, hq⟩
  · exact hp
  · exact hs i q hq

theorem ProfileOk.update {p : NrfProfile} (hp : ProfileOk p) {id : String} {items : List PatchItem}
    (h : KeepsMonitored cfg s (.update id items)) (hid : s.instanceId2nrfProfile id = some p) :
    ProfileOk (handleUpdateNfInstance cfg.inet p items).profile := by
  have hstatus := @handleUpdateNfInstance_status cfg.inet items p
  have hmonitor := @handleUpdateNfInstance_monitor cfg.inet items p
  cases hv : acceptedHeartbeat cfg.inet p.info items with
  | none =>
    rw [hv] at hmonitor
    refine ⟨hmonitor ▸ hp.ok, fun hact => ?_⟩
    rw [hmonitor]
    rcases h p hid with ha | ⟨-, hsome⟩ | hno
    · exact ha
    · simp [hv] at hsome
    · rw [ProfileInfo.isNfActive, hstatus, hno] at hact
      exact absurd hact (by simp)
  | some value =>
    rw [hv] at hmonitor
    dsimp only at hmonitor
    have hok := hp.ok.afterHeartbeat
    constructor
    · rw [hmonitor]
      split_ifs
      · exact hok.setStatusUpdated fun _ => p.monitor.afterHeartbeat_first
      · exact hok
    · intro hact
      have hstart : p.monitor.Active ∨ p.monitor.firstUpdate = true := by
        rcases h p hid with ha | ⟨hfirst, -⟩ | hno
        · exact .inl ha
        · exact .inr hfirst
        · rw [ProfileInfo.isNfActive, hstatus, hno] at hact
          exact absurd hact (by simp)
      have hupdate := Monitor.afterHeartbeat_active hp.ok hstart
      rw [hmonitor]
      split_ifs
      · exact .inr hupdate
      · exact .inr hupdate

theorem suspended_not_active {info : ProfileInfo} (h : info.isSuspended = true) :
    info.isNfActive = false := by
  unfold ProfileInfo.isSuspended iequals at h
  unfold ProfileInfo.isNfActive iequals
  rw [of_decide_eq_true h]
  decide

theorem ProfileOk.afterTimeout {p : NrfProfile} (hp : ProfileOk p) {c : HbConnection}
    (hc : p.monitor.connected c = true) : ProfileOk (p.afterTimeout c) := by
  have hcases : p.monitor.isUpdated = true ∨ p.monitor.isUpdated = false := by
    cases p.monitor.isUpdated <;> simp
  rcases hcases with hu | hu
  · -- a heartbeat came in since the last time-out, so this is the second timer
    cases c with
    | first => exact absurd (hp.ok.first hc).2 (by simp [hu])
    | update =>
      have heq : p.afterTimeout .update = p.withMonitor (p.monitor.setStatusUpdated false) := by
        simp [NrfProfile.afterTimeout, hu]
      rw [heq]
      exact ⟨hp.ok.setStatusUpdated (by simp), fun _ => .inr hc⟩
  · refine ⟨?_, fun hact => ?_⟩
    · cases c with
      | first =>
        exact (hp.ok.setStatusUpdated (by simp)).unsubscribeNfregistration
      | update =>
        have heq : (p.afterTimeout .update).monitor =
            p.monitor.unsubscribeNfupdate.setStatusUpdated false := by
          simp [NrfProfile.afterTimeout, hu, NrfProfile.withMonitor]
        rw [heq]
        exact hp.ok.unsubscribeNfupdate.setStatusUpdated (by simp)
    · rw [afterTimeout_info, if_neg (by simp [hu]),
        suspended_not_active (suspend_isSuspended p)] at hact
      exact absurd hact (by simp)

/-- **One step keeps every registered NF monitored.** -/
theorem AllMonitored.step (hs : AllMonitored s) {e : NrfEvent} (h : KeepsMonitored cfg s e) :
    AllMonitored (nrfStep cfg s e) := by
  cases e with
  | register id body =>
    change AllMonitored (s.handleRegisterNfInstance id cfg body)
    unfold NrfApp.handleRegisterNfInstance
    split_ifs
    · exact hs.addNfProfile ⟨Monitor.Ok.registered, fun _ => .inl rfl⟩
    · exact hs
  | update id items =>
    change AllMonitored (s.updateNfInstance id cfg items)
    unfold NrfApp.updateNfInstance
    cases hp : s.instanceId2nrfProfile id with
    | none => exact hs
    | some p =>
      have hstored := @AllMonitored.addNfProfile s hs id _ ((hs id p hp).update h hp)
      dsimp only
      split_ifs
      · intro i q hq
        rw [removeFromSuspendedList_profile] at hq
        exact hstored i q hq
      · exact hstored
  | deregister id =>
    intro i q hq
    simp only [nrfStep, NrfApp.removeNfProfile, update_none_eq_some] at hq
    exact hs i q hq.1
  | timeout c id clock =>
    change AllMonitored (s.heartbeatTimeout cfg c id clock)
    unfold NrfApp.heartbeatTimeout
    cases hp : s.instanceId2nrfProfile id with
    | none => exact hs
    | some p =>
      dsimp only
      split_ifs with hc hu
      · exact hs.addNfProfile ((hs id p hp).afterTimeout hc)
      · intro i q hq
        rw [addToSuspendedList_profile] at hq
        exact hs.addNfProfile ((hs id p hp).afterTimeout hc) i q hq
      · exact hs
  | removeSuspended clock =>
    intro i q hq
    simp only [nrfStep, handleRemoveSuspendedNf_profile] at hq
    exact hs i q (Option.ite_none_left_eq_some.mp hq).2

/-! ## A silent NF -/

/-- The profile under `id` is suspended, or will be within `n` expiries of its timer `c`. -/
def Due (c : HbConnection) (id : String) (n : ℕ) (s : NrfApp) : Prop :=
  ∀ q, s.instanceId2nrfProfile id = some q → q.info.isSuspended = true ∨
    q.monitor.connected c = true ∧ (c = .first → q.monitor.isUpdated = false) ∧
      (if q.monitor.isUpdated then 2 else 1) ≤ n

theorem Due.of_eq {c : HbConnection} {id : String} {n : ℕ} {s s' : NrfApp} (h : Due c id n s)
    (heq : s'.instanceId2nrfProfile id = s.instanceId2nrfProfile id) : Due c id n s' := by
  intro q hq
  exact h q (heq ▸ hq)

theorem updateNfInstance_of_ne {id i : String} {items : List PatchItem} (h : i ≠ id) :
    (s.updateNfInstance i cfg items).instanceId2nrfProfile id = s.instanceId2nrfProfile id := by
  unfold NrfApp.updateNfInstance
  cases s.instanceId2nrfProfile i with
  | none => rfl
  | some p =>
    dsimp only
    split_ifs <;> simp [Function.update_of_ne h.symm]

theorem heartbeatTimeout_of_ne {c : HbConnection} {id i : String} {clock : ℕ} (h : i ≠ id) :
    (s.heartbeatTimeout cfg c i clock).instanceId2nrfProfile id = s.instanceId2nrfProfile id := by
  unfold NrfApp.heartbeatTimeout
  cases s.instanceId2nrfProfile i with
  | none => rfl
  | some p =>
    dsimp only
    split_ifs <;> simp [Function.update_of_ne h.symm]

theorem heartbeatTimeout_self {c : HbConnection} {id : String} {clock : ℕ} {p : NrfProfile}
    (hp : s.instanceId2nrfProfile id = some p) :
    (s.heartbeatTimeout cfg c id clock).instanceId2nrfProfile id =
      some (if p.monitor.connected c then p.afterTimeout c else p) := by
  unfold NrfApp.heartbeatTimeout
  rw [hp]
  dsimp only
  split_ifs <;> simp [hp]

theorem Due.afterTimeout {c c' : HbConnection} {p : NrfProfile} {n : ℕ}
    (h : p.info.isSuspended = true ∨ p.monitor.connected c = true ∧
      (c = .first → p.monitor.isUpdated = false) ∧ (if p.monitor.isUpdated then 2 else 1) ≤
        n + if c' = c then 1 else 0)
    (hc' : p.monitor.connected c' = true) :
    (p.afterTimeout c').info.isSuspended = true ∨ (p.afterTimeout c').monitor.connected c = true ∧
      (c = .first → (p.afterTimeout c').monitor.isUpdated = false) ∧
        (if (p.afterTimeout c').monitor.isUpdated then 2 else 1) ≤ n := by
  rw [afterTimeout_info]
  by_cases hu : p.monitor.isUpdated = true
  · rw [if_pos hu]
    rcases h with hsus | ⟨hc, hfirst, hn⟩
    · exact .inl hsus
    · right
      rw [if_pos hu] at hn
      have hupdate : c = .update := by
        cases c with
        | first => exact absurd (hfirst rfl) (by simp [hu])
        | update => rfl
      subst hupdate
      cases c' with
      | first =>
        simp only [NrfProfile.afterTimeout, NrfProfile.withMonitor, Monitor.connected,
          Monitor.setStatusUpdated, Monitor.unsubscribeNfregistration]
        refine ⟨hc, fun _ => trivial, ?_⟩
        simp at hn ⊢
        omega
      | update =>
        rw [NrfProfile.afterTimeout, if_pos hu]
        simp only [NrfProfile.withMonitor, Monitor.connected, Monitor.setStatusUpdated]
        refine ⟨hc, fun _ => trivial, ?_⟩
        simp at hn ⊢
        omega
  · rw [if_neg hu]
    exact .inl (suspend_isSuspended p)

/-- **One event of a silence brings the suspension no further away, an expiry of the timer nearer.** -/
theorem Due.step {c : HbConnection} {id : String} {n : ℕ} {e : NrfEvent} (hsilent : Silent id e)
    (h : Due c id (n + if isTimeout c id e then 1 else 0) s) : Due c id n (nrfStep cfg s e) := by
  cases e with
  | register i body =>
    apply Due.of_eq h
    change (s.handleRegisterNfInstance i cfg body).instanceId2nrfProfile id = _
    unfold NrfApp.handleRegisterNfInstance
    split_ifs
    · simp [Function.update_of_ne (Ne.symm hsilent)]
    · rfl
  | update i items => exact h.of_eq (updateNfInstance_of_ne hsilent)
  | deregister i =>
    apply Due.of_eq h
    simp [nrfStep, NrfApp.removeNfProfile, Function.update_of_ne (Ne.symm hsilent)]
  | timeout c' i clock =>
    by_cases hi : i = id
    · subst hi
      intro q hq
      cases hp : s.instanceId2nrfProfile i with
      | none =>
        simp [nrfStep, NrfApp.heartbeatTimeout, hp] at hq
      | some p =>
        rw [nrfStep, heartbeatTimeout_self hp] at hq
        have hdue := h p hp
        have hnum : (if isTimeout c i (.timeout c' i clock) then 1 else 0) =
            if c' = c then 1 else 0 := by simp [isTimeout]
        rw [hnum] at hdue
        by_cases hc' : p.monitor.connected c' = true
        · rw [if_pos hc'] at hq
          obtain rfl := Option.some.inj hq
          exact Due.afterTimeout hdue hc'
        · rw [if_neg hc'] at hq
          obtain rfl := Option.some.inj hq
          refine hdue.imp_right ?_
          rintro ⟨hc, hrest⟩
          refine ⟨hc, ?_⟩
          have hne : c' ≠ c := fun heq => hc' (heq ▸ hc)
          simpa [hne] using hrest
    · have hno : isTimeout c id (.timeout c' i clock) = false := by simp [isTimeout, hi]
      rw [hno] at h
      exact h.of_eq (heartbeatTimeout_of_ne hi)
  | removeSuspended clock =>
    intro q hq
    simp only [nrfStep, handleRemoveSuspendedNf_profile] at hq
    exact h q (Option.ite_none_left_eq_some.mp hq).2

/-- **A silence with enough expiries ends in suspension.** -/
theorem Due.run {c : HbConnection} {id : String} {es : List NrfEvent}
    (hsilent : ∀ e ∈ es, Silent id e) (h : Due c id (es.countP (isTimeout c id)) s) (q : NrfProfile)
    (hq : (run (nrfStep cfg) s es).instanceId2nrfProfile id = some q) :
    q.info.isSuspended = true := by
  induction es generalizing s with
  | nil =>
    refine (h q hq).resolve_right fun ⟨_, _, hn⟩ => ?_
    split_ifs at hn <;> simp at hn
  | cons e es ih =>
    refine ih (fun e' he' => hsilent e' (List.mem_cons_of_mem _ he')) ?_ hq
    apply Due.step (hsilent e List.mem_cons_self)
    rwa [List.countP_cons] at h

theorem AllMonitored.eventuallySuspended (hs : AllMonitored s) : EventuallySuspended cfg s := by
  intro id p hp hact
  have hok := (hs id p hp).ok
  rcases (hs id p hp).active hact with hfirst | hupdate
  · have hu := (hok.first hfirst).2
    refine ⟨.first, hfirst, fun es hsilent hcount =>
      @Due.run cfg s .first id es hsilent fun q hq => .inr ?_⟩
    obtain rfl := Option.some.inj (hp.symm.trans hq)
    refine ⟨hfirst, fun _ => hu, ?_⟩
    rw [if_neg (by simp [hu])]
    omega
  · refine ⟨.update, hupdate, fun es hsilent hcount =>
      @Due.run cfg s .update id es hsilent fun q hq => .inr ?_⟩
    obtain rfl := Option.some.inj (hp.symm.trans hq)
    refine ⟨hupdate, by simp, ?_⟩
    split_ifs <;> omega

/-! ## Runs -/

/-- **Every registered NF is monitored**, in every run of events that keep it so. -/
theorem registered_monitored (cfg : NrfCfg) (es : List NrfEvent)
    (h : Along (nrfStep cfg) (KeepsMonitored cfg) .init es) :
    Monitored (run (nrfStep cfg) .init es) ∧
      EventuallySuspended cfg (run (nrfStep cfg) .init es) := by
  have hs : AllMonitored (run (nrfStep cfg) .init es) := by
    apply h.invariant fun s e hs he => hs.step he
    intro id p hp
    simp [NrfApp.init] at hp
  exact ⟨fun id p hp => (hs id p hp).active, hs.eventuallySuspended⟩

/-- The heartbeat of an NF. -/
def heartbeatItem : PatchItem := { op := "replace", path := "/nfStatus", value := "REGISTERED" }

theorem registered_monitored_smf :
    Monitored (run (nrfStep exampleCfg) .init
      [.register exampleId exampleBody, .update exampleId [heartbeatItem]]) := by
  refine (registered_monitored exampleCfg [.register exampleId exampleBody,
    .update exampleId [heartbeatItem]] ⟨trivial, fun p hp => .inl ?_, trivial⟩).1
  rw [exampleId_registered, addNfProfile_profile, Function.update_self] at hp
  exact .inl (Option.some.inj hp ▸ rfl)

/-- An SMF that was suspended after a heartbeat and recovers is registered without a timer. -/
theorem recovered_not_monitored : ¬ Monitored (run (nrfStep exampleCfg) .init
    [.register exampleId exampleBody, .update exampleId [heartbeatItem],
      .timeout .update exampleId 20, .timeout .update exampleId 30,
      .update exampleId [heartbeatItem]]) := by
  intro h
  have hstate : ∃ p, (run (nrfStep exampleCfg) .init
      [.register exampleId exampleBody, .update exampleId [heartbeatItem],
        .timeout .update exampleId 20, .timeout .update exampleId 30,
        .update exampleId [heartbeatItem]]).instanceId2nrfProfile exampleId = some p ∧
      p.info.isNfActive = true ∧ ¬ p.monitor.Active := ⟨_, rfl, by decide, by decide⟩
  obtain ⟨p, hp, hact, hnot⟩ := hstate
  exact hnot (h exampleId p hp hact)

end Oai5g.Nrf
