import Oai5g.Lib.Run

/-!
# The timers of ITTI

* `IttiMw`: the set of timers, the current timer, the clock and where the timer thread is;
  `timerSetup`, `timerRemove`, `timerManagerStep`.
* `IttiHistory`: the same with the timer ids that were returned, removed and reported.
* `TimersKept`: no timer is lost, none is reported twice or after it was removed.
* **`timersKept_iff`**: the set holds one timer of an instant only, so a run keeps its timers exactly when
  no timer goes into the set beside another of the same instant.
-/

namespace Oai5g.Upf

/-! ## Timers -/

/-- `task_id_t` -/
inductive TaskId
  | ittiTimer | asyncShellCmd | gtpv1U | upfApp | upfN4 | upfN3 | upfNrf | max | none | all
  deriving DecidableEq

/-- Strictly between `TASK_FIRST` and `TASK_MAX`. -/
def TaskId.hasTimers : TaskId → Bool
  | .ittiTimer | .max | .none | .all => false
  | _ => true

/-- The id of no timer. -/
def ITTI_INVALID_TIMER_ID : UInt32 := 0

/-- `itti_timer`; instants are counted in microseconds. -/
structure IttiTimer where
  id : UInt32
  taskId : TaskId
  timeOut : ℕ
  arg1User : UInt64
  arg2User : UInt64
  deriving DecidableEq

/-- `null_timer`, made when the program starts. -/
def nullTimer (boot : ℕ) : IttiTimer :=
  ⟨ITTI_INVALID_TIMER_ID, .none, boot + 0xFFFFFFFF * 1000000 + 0xFFFFFFFF, 0, 0⟩

/-- `std::set::insert` with `timer_comparator`: a timer of the same instant stays alone. -/
def insertTimer (t : IttiTimer) : List IttiTimer → List IttiTimer
  | [] => [t]
  | u :: l =>
    if t.timeOut < u.timeOut then t :: u :: l
    else if u.timeOut < t.timeOut then u :: insertTimer t l
    else u :: l

/-- Where `timer_manager_task` is: before it takes the next timer, after that, in `wait_for`, woken up, and
at the time-out. -/
inductive TimerThread
  | idle
  | popped
  | waiting (deadline : ℕ)
  | woken
  | expired
  deriving DecidableEq

/-- The timers of `itti_mw`. -/
structure IttiMw where
  timerId : UInt32
  timers : List IttiTimer
  currentTimer : IttiTimer
  now : ℕ
  thread : TimerThread

namespace IttiMw

variable (boot : ℕ) (s : IttiMw)

/-- A fresh middleware at a time. -/
def init : IttiMw := ⟨0, [], nullTimer boot, boot, .idle⟩

/-- `timer_setup`, with the timer id it returns. -/
def timerSetup (intervalSec intervalUs : UInt32) (taskId : TaskId) (arg1User arg2User : UInt64) :
    IttiMw × UInt32 :=
  if taskId.hasTimers then
    let t : IttiTimer := ⟨s.timerId + 1, taskId,
      s.now + intervalSec.toNat * 1000000 + intervalUs.toNat, arg1User, arg2User⟩
    ({ s with timerId := s.timerId + 1, timers := insertTimer t s.timers }, t.id)
  else (s, ITTI_INVALID_TIMER_ID)

/-- `timer_remove`, and whether it returns `RETURNok`. -/
def timerRemove (timerId : UInt32) : IttiMw × Bool :=
  if s.currentTimer.id = timerId then ({ s with currentTimer := nullTimer boot }, true)
  else if s.timers.any fun t => t.id = timerId then
    ({ s with timers := s.timers.eraseP fun t => t.id = timerId }, true)
  else (s, false)

/-- A step of `timer_manager_task`, with the timer it signals. `notified`: the wait ends by a
notification. -/
def timerManagerStep (notified : Bool) : IttiMw × Option IttiTimer :=
  match s.thread with
  | .idle =>
    match s.timers with
    | [] => (s, none)
    | t :: timers => ({ s with currentTimer := t, timers := timers, thread := .popped }, none)
  | .popped =>
    if s.now < s.currentTimer.timeOut then ({ s with thread := .waiting s.currentTimer.timeOut }, none)
    else ({ s with thread := .expired }, none)
  | .waiting deadline =>
    if notified then ({ s with thread := .woken }, none)
    else if deadline ≤ s.now then ({ s with thread := .expired }, none)
    else (s, none)
  | .woken =>
    ({ s with
      timers := if s.currentTimer.id ≠ ITTI_INVALID_TIMER_ID then insertTimer s.currentTimer s.timers
        else s.timers
      currentTimer := nullTimer boot
      thread := .idle }, none)
  | .expired => ({ s with thread := .idle }, some s.currentTimer)

end IttiMw

/-! ## Runs -/

/-- A call, or a step of the timer thread. -/
inductive IttiEvent
  | timerSetup (intervalSec intervalUs : UInt32) (taskId : TaskId) (arg1User arg2User : UInt64)
  | timerRemove (timerId : UInt32)
  | clock (elapsed : ℕ)
  | timerThread (notified : Bool)

/-- The timers with the ids that `timer_setup` returned, those that `timer_remove` removed, and those that
a time-out message reported; `late` are the reports after the removal. -/
structure IttiHistory where
  itti : IttiMw
  issued : List UInt32
  removed : List UInt32
  reported : List UInt32
  late : List UInt32

namespace IttiHistory

variable (boot : ℕ)

/-- A history that has not begun. -/
def init : IttiHistory := ⟨.init boot, [], [], [], []⟩

/-- One event. -/
def step (h : IttiHistory) : IttiEvent → IttiHistory
  | .timerSetup sec us task arg1 arg2 =>
    let (itti, id) := h.itti.timerSetup sec us task arg1 arg2
    { h with itti := itti, issued := if id = ITTI_INVALID_TIMER_ID then h.issued else id :: h.issued }
  | .timerRemove id =>
    let (itti, ok) := h.itti.timerRemove boot id
    { h with itti := itti, removed := if ok then id :: h.removed else h.removed }
  | .clock elapsed => { h with itti := { h.itti with now := h.itti.now + elapsed } }
  | .timerThread notified =>
    match h.itti.timerManagerStep boot notified with
    | (itti, none) => { h with itti := itti }
    | (itti, some t) =>
      if t.id = ITTI_INVALID_TIMER_ID then { h with itti := itti }
      else { h with
        itti := itti
        reported := t.id :: h.reported
        late := if t.id ∈ h.removed then t.id :: h.late else h.late }

end IttiHistory

/-- **No timer is lost**, reported twice or reported after its removal. -/
structure TimersKept (h : IttiHistory) : Prop where
  kept : ∀ id ∈ h.issued, id ∉ h.removed → id ∉ h.reported →
    (∃ t ∈ h.itti.timers, t.id = id) ∨ h.itti.currentTimer.id = id
  once : h.reported.Nodup
  notLate : h.late = []

/-- The instant is not one of a timer in the set. -/
def FreeInstant (timers : List IttiTimer) (timeOut : ℕ) : Prop := ∀ t ∈ timers, t.timeOut ≠ timeOut

/-- **The condition**: a timer that goes into the set, new or back, finds none of its instant. -/
def OwnInstant (h : IttiHistory) : IttiEvent → Prop
  | .timerSetup sec us task _ _ => task.hasTimers = true →
      FreeInstant h.itti.timers (h.itti.now + sec.toNat * 1000000 + us.toNat)
  | .timerThread _ => h.itti.thread = .woken → h.itti.currentTimer.id ≠ ITTI_INVALID_TIMER_ID →
      FreeInstant h.itti.timers h.itti.currentTimer.timeOut
  | _ => True

/-- The counter of timer ids does not wrap. -/
def IdsLeft (h : IttiHistory) : IttiEvent → Prop
  | .timerSetup _ _ _ _ _ => h.itti.timerId.toNat + 1 < 2 ^ 32
  | _ => True

instance (h : IttiHistory) : ∀ e, Decidable (IdsLeft h e)
  | .timerSetup _ _ _ _ _ => inferInstanceAs (Decidable (_ < _))
  | .timerRemove _ | .clock _ | .timerThread _ => isTrue trivial

/-! ## The set -/

section

variable {t u : IttiTimer} {l : List IttiTimer}

theorem insertTimer_perm (h : FreeInstant l t.timeOut) : (insertTimer t l).Perm (t :: l) := by
  induction l with
  | nil => exact List.Perm.refl _
  | cons u l ih =>
    have hu := h u List.mem_cons_self
    rw [insertTimer]
    by_cases hlt : t.timeOut < u.timeOut
    · rw [if_pos hlt]
    · rw [if_neg hlt, if_pos (by omega)]
      have hl : FreeInstant l t.timeOut := fun x hx => h x (List.mem_cons_of_mem _ hx)
      exact ((ih hl).cons u).trans (List.Perm.swap t u l)

theorem insertTimer_eq_self (hl : l.Pairwise fun t u => t.timeOut < u.timeOut)
    (h : ¬ FreeInstant l t.timeOut) : insertTimer t l = l := by
  induction l with
  | nil => exact absurd (fun x hx => nomatch hx) h
  | cons u l ih =>
    obtain ⟨hul, hl⟩ := List.pairwise_cons.mp hl
    unfold FreeInstant at h
    push Not at h
    obtain ⟨x, hx, hxt⟩ := h
    rw [insertTimer]
    obtain rfl | hx := List.mem_cons.mp hx
    · rw [if_neg (by omega), if_neg (by omega)]
    · have := hul x hx
      rw [if_neg (by omega), if_pos (by omega), ih hl fun hfree => hfree x hx hxt]

theorem mem_insertTimer_of_mem (h : u ∈ insertTimer t l) : u = t ∨ u ∈ l := by
  induction l with
  | nil => exact .inl (List.mem_singleton.mp h)
  | cons x l ih =>
    rw [insertTimer] at h
    by_cases hlt : t.timeOut < x.timeOut
    · rw [if_pos hlt] at h
      exact List.mem_cons.mp h
    · rw [if_neg hlt] at h
      by_cases hgt : x.timeOut < t.timeOut
      · rw [if_pos hgt] at h
        obtain rfl | h := List.mem_cons.mp h
        · exact .inr List.mem_cons_self
        · exact (ih h).imp id (List.mem_cons_of_mem x)
      · rw [if_neg hgt] at h
        exact .inr h

theorem insertTimer_sorted (hl : l.Pairwise fun t u => t.timeOut < u.timeOut) :
    (insertTimer t l).Pairwise fun t u => t.timeOut < u.timeOut := by
  induction l with
  | nil => exact List.pairwise_singleton _ _
  | cons u l ih =>
    obtain ⟨hul, hl'⟩ := List.pairwise_cons.mp hl
    rw [insertTimer]
    by_cases hlt : t.timeOut < u.timeOut
    · rw [if_pos hlt]
      refine List.pairwise_cons.mpr ⟨fun x hx => ?_, hl⟩
      obtain rfl | hx := List.mem_cons.mp hx
      · exact hlt
      · exact hlt.trans (hul x hx)
    · rw [if_neg hlt]
      by_cases hgt : u.timeOut < t.timeOut
      · rw [if_pos hgt]
        refine List.pairwise_cons.mpr ⟨fun x hx => ?_, ih hl'⟩
        obtain rfl | hx := mem_insertTimer_of_mem hx
        · exact hgt
        · exact hul x hx
      · rw [if_neg hgt]
        exact hl

end

theorem mem_eraseP_id {l : List IttiTimer} (hl : (l.map IttiTimer.id).Nodup) {id : UInt32} {t : IttiTimer} :
    t ∈ l.eraseP (fun t => decide (t.id = id)) ↔ t ∈ l ∧ t.id ≠ id := by
  induction l with
  | nil => simp
  | cons u l ih =>
    obtain ⟨hu, hl⟩ := List.nodup_cons.mp hl
    by_cases hid : u.id = id
    · have hpos : (u :: l).eraseP (fun t => decide (t.id = id)) = l :=
        List.eraseP_cons_of_pos (decide_eq_true hid)
      rw [hpos]
      constructor
      · intro ht
        refine ⟨List.mem_cons_of_mem _ ht, fun heq => hu ?_⟩
        rw [hid, ← heq]
        exact List.mem_map_of_mem ht
      · rintro ⟨ht, hne⟩
        exact (List.mem_cons.mp ht).resolve_left fun h => hne (h ▸ hid)
    · rw [List.eraseP_cons_of_neg (by simpa using hid), List.mem_cons, List.mem_cons, ih hl]
      constructor
      · rintro (rfl | ⟨ht, hne⟩)
        · exact ⟨.inl rfl, hid⟩
        · exact ⟨.inr ht, hne⟩
      · rintro ⟨rfl | ht, hne⟩
        · exact .inl rfl
        · exact .inr ⟨ht, hne⟩

/-! ## The invariant -/

/-- What every step of a run in which no timer is lost keeps. -/
structure IttiInv (h : IttiHistory) : Prop extends TimersKept h where
  counter : ∀ id ∈ h.issued, 0 < id.toNat ∧ id.toNat ≤ h.itti.timerId.toNat
  removed : ∀ id ∈ h.removed, id = ITTI_INVALID_TIMER_ID ∨ id ∈ h.issued
  reported : ∀ id ∈ h.reported, id ∈ h.issued
  sorted : h.itti.timers.Pairwise fun t u => t.timeOut < u.timeOut
  ids : (h.itti.timers.map IttiTimer.id).Nodup
  stored : ∀ t ∈ h.itti.timers, t.id ∈ h.issued ∧ t.id ∉ h.removed ∧ t.id ∉ h.reported
  current : h.itti.currentTimer.id ≠ ITTI_INVALID_TIMER_ID →
    h.itti.currentTimer.id ∈ h.issued ∧ h.itti.currentTimer.id ∉ h.removed ∧
      (∀ t ∈ h.itti.timers, t.id ≠ h.itti.currentTimer.id) ∧
      (h.itti.currentTimer.id ∈ h.reported ↔ h.itti.thread = .idle)

namespace IttiInv

variable {boot : ℕ} {h : IttiHistory}

theorem init : IttiInv (.init boot) where
  kept _ hid := nomatch hid
  once := List.nodup_nil
  notLate := rfl
  counter _ hid := nomatch hid
  removed _ hid := nomatch hid
  reported _ hid := nomatch hid
  sorted := List.Pairwise.nil
  ids := List.nodup_nil
  stored _ ht := nomatch ht
  current hne := absurd rfl hne

theorem ne_invalid (hi : IttiInv h) {id : UInt32} (hid : id ∈ h.issued) : id ≠ ITTI_INVALID_TIMER_ID := by
  rintro rfl
  exact absurd (hi.counter _ hid).1 (lt_irrefl 0)

theorem move (hi : IttiInv h) (now : ℕ) (thread : TimerThread)
    (hthread : thread = .idle ↔ h.itti.thread = .idle) :
    IttiInv { h with itti := { h.itti with now := now, thread := thread } } where
  kept := hi.kept
  once := hi.once
  notLate := hi.notLate
  counter := hi.counter
  removed := hi.removed
  reported := hi.reported
  sorted := hi.sorted
  ids := hi.ids
  stored := hi.stored
  current hne := by
    obtain ⟨h1, h2, h3, h4⟩ := hi.current hne
    exact ⟨h1, h2, h3, h4.trans hthread.symm⟩


/-! ## One step -/

theorem toNat_next (h : IttiHistory) (hids : h.itti.timerId.toNat + 1 < 2 ^ 32) :
    (h.itti.timerId + 1).toNat = h.itti.timerId.toNat + 1 := by
  rw [UInt32.toNat_add]
  exact Nat.mod_eq_of_lt hids

theorem next_notMem (hi : IttiInv h) (hids : h.itti.timerId.toNat + 1 < 2 ^ 32) :
    h.itti.timerId + 1 ∉ h.issued := by
  intro hmem
  have := (hi.counter _ hmem).2
  rw [toNat_next h hids] at this
  omega

theorem next_ne_invalid (hids : h.itti.timerId.toNat + 1 < 2 ^ 32) :
    h.itti.timerId + 1 ≠ ITTI_INVALID_TIMER_ID := by
  intro heq
  have := toNat_next h hids
  rw [heq] at this
  exact absurd this (by simp [ITTI_INVALID_TIMER_ID])

theorem step_timerSetup {sec us : UInt32} {task : TaskId} {arg1 arg2 : UInt64} (htask : task.hasTimers = true)
    (hids : h.itti.timerId.toNat + 1 < 2 ^ 32) :
    h.step boot (.timerSetup sec us task arg1 arg2) =
      { h with
        itti := { h.itti with
          timerId := h.itti.timerId + 1
          timers := insertTimer ⟨h.itti.timerId + 1, task,
            h.itti.now + sec.toNat * 1000000 + us.toNat, arg1, arg2⟩ h.itti.timers }
        issued := (h.itti.timerId + 1) :: h.issued } := by
  have hne := next_ne_invalid hids
  simp only [IttiHistory.step, IttiMw.timerSetup, htask, if_true, if_neg hne]

theorem step_timerSetup_of_not {sec us : UInt32} {task : TaskId} {arg1 arg2 : UInt64}
    (htask : task.hasTimers = false) : h.step boot (.timerSetup sec us task arg1 arg2) = h := by
  simp [IttiHistory.step, IttiMw.timerSetup, htask]

/-- **A new timer** of its own instant is stored. -/
theorem timerSetup (hi : IttiInv h) {t : IttiTimer} (hid : t.id = h.itti.timerId + 1)
    (hids : h.itti.timerId.toNat + 1 < 2 ^ 32) (hfree : FreeInstant h.itti.timers t.timeOut) :
    IttiInv { h with
      itti := { h.itti with timerId := h.itti.timerId + 1, timers := insertTimer t h.itti.timers }
      issued := (h.itti.timerId + 1) :: h.issued } := by
  have hperm := insertTimer_perm hfree
  have hnew := hi.next_notMem hids
  have hmem : ∀ u, u ∈ insertTimer t h.itti.timers ↔ u = t ∨ u ∈ h.itti.timers := fun u => by
    rw [hperm.mem_iff, List.mem_cons]
  constructor
  case toTimersKept =>
    refine ⟨fun id hid' hrem hrep => ?_, hi.once, hi.notLate⟩
    obtain rfl | hid' := List.mem_cons.mp hid'
    · exact .inl ⟨t, (hmem t).mpr (.inl rfl), hid⟩
    · exact (hi.kept id hid' hrem hrep).imp (fun ⟨u, hu, heq⟩ => ⟨u, (hmem u).mpr (.inr hu), heq⟩) fun h => h
  case counter =>
    intro id hid'
    dsimp only
    rw [toNat_next h hids]
    obtain rfl | hid' := List.mem_cons.mp hid'
    · rw [toNat_next h hids]
      omega
    · have := hi.counter id hid'
      omega
  case removed =>
    exact fun id hid' => (hi.removed id hid').imp_right (List.mem_cons_of_mem _)
  case reported =>
    exact fun id hid' => List.mem_cons_of_mem _ (hi.reported id hid')
  case sorted =>
    exact insertTimer_sorted hi.sorted
  case ids =>
    refine (hperm.map IttiTimer.id).nodup_iff.mpr (List.nodup_cons.mpr ⟨fun hmap => ?_, hi.ids⟩)
    obtain ⟨u, hu, heq⟩ := List.mem_map.mp hmap
    exact hnew (hid ▸ heq ▸ (hi.stored u hu).1)
  case stored =>
    intro u hu
    obtain rfl | hu := (hmem u).mp hu
    · rw [hid]
      refine ⟨List.mem_cons_self, fun hrem => ?_, fun hrep => hnew (hi.reported _ hrep)⟩
      exact (hi.removed _ hrem).elim (next_ne_invalid hids) hnew
    · obtain ⟨h1, h2, h3⟩ := hi.stored u hu
      exact ⟨List.mem_cons_of_mem _ h1, h2, h3⟩
  case current =>
    intro hne
    obtain ⟨h1, h2, h3, h4⟩ := hi.current hne
    refine ⟨List.mem_cons_of_mem _ h1, h2, fun u hu heq => ?_, h4⟩
    obtain rfl | hu := (hmem u).mp hu
    · exact hnew (hid ▸ heq ▸ h1)
    · exact h3 u hu heq

theorem step_timerRemove_current {id : UInt32} (hcur : h.itti.currentTimer.id = id) :
    h.step boot (.timerRemove id) =
      { h with itti := { h.itti with currentTimer := nullTimer boot }, removed := id :: h.removed } := by
  have hremove : h.itti.timerRemove boot id = ({ h.itti with currentTimer := nullTimer boot }, true) :=
    if_pos hcur
  simp only [IttiHistory.step, hremove, if_true]

theorem step_timerRemove_stored {id : UInt32} (hcur : h.itti.currentTimer.id ≠ id)
    (hany : (h.itti.timers.any fun t => t.id = id) = true) :
    h.step boot (.timerRemove id) =
      { h with
        itti := { h.itti with timers := h.itti.timers.eraseP fun t => t.id = id }
        removed := id :: h.removed } := by
  have hremove : h.itti.timerRemove boot id =
      ({ h.itti with timers := h.itti.timers.eraseP fun t => t.id = id }, true) :=
    (if_neg hcur).trans (if_pos hany)
  simp only [IttiHistory.step, hremove, if_true]

theorem step_timerRemove_none {id : UInt32} (hcur : h.itti.currentTimer.id ≠ id)
    (hany : ¬ (h.itti.timers.any fun t => t.id = id) = true) : h.step boot (.timerRemove id) = h := by
  have hremove : h.itti.timerRemove boot id = (h.itti, false) := (if_neg hcur).trans (if_neg hany)
  simp only [IttiHistory.step, hremove, Bool.false_eq_true, if_false]

/-- **A removed timer** is neither stored nor current. -/
theorem timerRemove (hi : IttiInv h) (id : UInt32) : IttiInv (h.step boot (.timerRemove id)) := by
  by_cases hcur : h.itti.currentTimer.id = id
  · rw [step_timerRemove_current hcur]
    refine ⟨⟨fun x hx hrem hrep => ?_, hi.once, hi.notLate⟩, hi.counter, fun x hx => ?_, hi.reported, hi.sorted,
      hi.ids, fun t ht => ?_, fun hne => absurd rfl hne⟩
    · rw [List.mem_cons, not_or] at hrem
      exact .inl ((hi.kept x hx hrem.2 hrep).resolve_right fun h => hrem.1 (h ▸ hcur))
    · obtain rfl | hx := List.mem_cons.mp hx
      · by_cases hne : h.itti.currentTimer.id = ITTI_INVALID_TIMER_ID
        · exact .inl (hcur ▸ hne)
        · exact .inr (hcur ▸ (hi.current hne).1)
      · exact hi.removed x hx
    · obtain ⟨h1, h2, h3⟩ := hi.stored t ht
      refine ⟨h1, fun hmem => ?_, h3⟩
      obtain heq | hmem := List.mem_cons.mp hmem
      · have hne : h.itti.currentTimer.id ≠ ITTI_INVALID_TIMER_ID := by
          rw [hcur, ← heq]
          exact hi.ne_invalid h1
        exact (hi.current hne).2.2.1 t ht (heq.trans hcur.symm)
      · exact h2 hmem
  by_cases hany : (h.itti.timers.any fun t => decide (t.id = id)) = true
  · rw [step_timerRemove_stored hcur hany]
    obtain ⟨u, hu, huid⟩ := List.any_eq_true.mp hany
    have huid : u.id = id := of_decide_eq_true huid
    have hmem : ∀ t, t ∈ h.itti.timers.eraseP (fun t => decide (t.id = id)) ↔
        t ∈ h.itti.timers ∧ t.id ≠ id := by
      intro t
      rw [← mem_eraseP_id hi.ids]
    refine ⟨⟨fun x hx hrem hrep => ?_, hi.once, hi.notLate⟩, hi.counter, fun x hx => ?_, hi.reported,
      hi.sorted.sublist List.eraseP_sublist, hi.ids.sublist (List.eraseP_sublist.map _), fun t ht => ?_,
      fun hne => ?_⟩
    · rw [List.mem_cons, not_or] at hrem
      refine (hi.kept x hx hrem.2 hrep).imp_left ?_
      rintro ⟨t, ht, rfl⟩
      exact ⟨t, (hmem t).mpr ⟨ht, hrem.1⟩, rfl⟩
    · obtain rfl | hx := List.mem_cons.mp hx
      · exact .inr (huid ▸ (hi.stored u hu).1)
      · exact hi.removed x hx
    · obtain ⟨ht, hne⟩ := (hmem t).mp ht
      obtain ⟨h1, h2, h3⟩ := hi.stored t ht
      exact ⟨h1, fun hrem => (List.mem_cons.mp hrem).elim hne h2, h3⟩
    · obtain ⟨h1, h2, h3, h4⟩ := hi.current hne
      refine ⟨h1, fun hrem => (List.mem_cons.mp hrem).elim hcur h2, fun t ht => ?_, h4⟩
      exact h3 t ((hmem t).mp ht).1
  · rw [step_timerRemove_none hcur hany]
    exact hi

theorem pop (hi : IttiInv h) {t : IttiTimer} {timers : List IttiTimer} (hthread : h.itti.thread = .idle)
    (htimers : h.itti.timers = t :: timers) :
    IttiInv { h with itti := { h.itti with currentTimer := t, timers := timers, thread := .popped } } := by
  have hmem : ∀ u ∈ timers, u ∈ h.itti.timers := fun u hu => by
    rw [htimers]
    exact List.mem_cons_of_mem _ hu
  have ht : t ∈ h.itti.timers := by
    rw [htimers]
    exact List.mem_cons_self
  have hids : ((t :: timers).map IttiTimer.id).Nodup := htimers ▸ hi.ids
  have hsorted := hi.sorted
  rw [htimers] at hsorted
  refine ⟨⟨fun id hid hrem hrep => ?_, hi.once, hi.notLate⟩, hi.counter, hi.removed, hi.reported,
    (List.pairwise_cons.mp hsorted).2, (List.nodup_cons.mp hids).2, fun u hu => hi.stored u (hmem u hu),
    fun _ => ?_⟩
  · obtain ⟨u, hu, rfl⟩ | hcur := hi.kept id hid hrem hrep
    · rw [htimers] at hu
      obtain rfl | hu := List.mem_cons.mp hu
      · exact .inr rfl
      · exact .inl ⟨u, hu, rfl⟩
    · -- the timer that was current before was signalled
      have hne : h.itti.currentTimer.id ≠ ITTI_INVALID_TIMER_ID := hcur ▸ hi.ne_invalid hid
      exact absurd (hcur ▸ (hi.current hne).2.2.2.mpr hthread) hrep
  · obtain ⟨h1, h2, h3⟩ := hi.stored t ht
    refine ⟨h1, h2, fun u hu heq => ?_, iff_of_false h3 (by simp)⟩
    exact (List.nodup_cons.mp hids).1 (List.mem_map.mpr ⟨u, hu, heq⟩)

theorem putBack (hi : IttiInv h) (hthread : h.itti.thread = .woken)
    (hfree : h.itti.currentTimer.id ≠ ITTI_INVALID_TIMER_ID →
      FreeInstant h.itti.timers h.itti.currentTimer.timeOut) :
    IttiInv { h with itti := { h.itti with
      timers := if h.itti.currentTimer.id ≠ ITTI_INVALID_TIMER_ID then
        insertTimer h.itti.currentTimer h.itti.timers else h.itti.timers
      currentTimer := nullTimer boot
      thread := .idle } } := by
  by_cases hne : h.itti.currentTimer.id ≠ ITTI_INVALID_TIMER_ID
  · rw [if_pos hne]
    have hperm := insertTimer_perm (hfree hne)
    have hmem : ∀ u, u ∈ insertTimer h.itti.currentTimer h.itti.timers ↔
        u = h.itti.currentTimer ∨ u ∈ h.itti.timers := fun u => by
      rw [hperm.mem_iff, List.mem_cons]
    obtain ⟨h1, h2, h3, h4⟩ := hi.current hne
    refine ⟨⟨fun id hid hrem hrep => ?_, hi.once, hi.notLate⟩, hi.counter, hi.removed, hi.reported,
      insertTimer_sorted hi.sorted, ?_, fun u hu => ?_, fun hnull => absurd rfl hnull⟩
    · refine .inl ?_
      obtain ⟨u, hu, rfl⟩ | hcur := hi.kept id hid hrem hrep
      · exact ⟨u, (hmem u).mpr (.inr hu), rfl⟩
      · exact ⟨h.itti.currentTimer, (hmem _).mpr (.inl rfl), hcur⟩
    · refine (hperm.map IttiTimer.id).nodup_iff.mpr (List.nodup_cons.mpr ⟨fun hmap => ?_, hi.ids⟩)
      obtain ⟨u, hu, heq⟩ := List.mem_map.mp hmap
      exact h3 u hu heq
    · obtain rfl | hu := (hmem u).mp hu
      · exact ⟨h1, h2, fun hrep => by simp [hthread] at h4; exact h4 hrep⟩
      · exact hi.stored u hu
  · rw [if_neg hne]
    refine ⟨⟨fun id hid hrem hrep => ?_, hi.once, hi.notLate⟩, hi.counter, hi.removed, hi.reported, hi.sorted,
      hi.ids, hi.stored, fun hnull => absurd rfl hnull⟩
    refine .inl ((hi.kept id hid hrem hrep).resolve_right fun hcur => hne ?_)
    rw [hcur]
    exact hi.ne_invalid hid

theorem signal (hi : IttiInv h) (hthread : h.itti.thread = .expired)
    (hne : h.itti.currentTimer.id ≠ ITTI_INVALID_TIMER_ID) :
    IttiInv { h with
      itti := { h.itti with thread := .idle }
      reported := h.itti.currentTimer.id :: h.reported
      late := if h.itti.currentTimer.id ∈ h.removed then h.itti.currentTimer.id :: h.late else h.late } := by
  obtain ⟨h1, h2, h3, h4⟩ := hi.current hne
  have hnew : h.itti.currentTimer.id ∉ h.reported := fun hmem => by
    have := h4.mp hmem
    rw [hthread] at this
    cases this
  rw [if_neg h2]
  refine ⟨⟨fun id hid hrem hrep => ?_, List.nodup_cons.mpr ⟨hnew, hi.once⟩, hi.notLate⟩, hi.counter, hi.removed,
    fun id hid => ?_, hi.sorted, hi.ids, fun t ht => ?_, fun _ => ⟨h1, h2, h3, ?_⟩⟩
  · exact hi.kept id hid hrem fun hmem => hrep (List.mem_cons_of_mem _ hmem)
  · obtain rfl | hid := List.mem_cons.mp hid
    · exact h1
    · exact hi.reported id hid
  · obtain ⟨t1, t2, t3⟩ := hi.stored t ht
    exact ⟨t1, t2, fun hmem => (List.mem_cons.mp hmem).elim (h3 t ht) t3⟩
  · exact iff_of_true List.mem_cons_self rfl

theorem timerThread (hi : IttiInv h) (notified : Bool) (hown : OwnInstant h (.timerThread notified)) :
    IttiInv (h.step boot (.timerThread notified)) := by
  cases hthread : h.itti.thread with
  | idle =>
    cases htimers : h.itti.timers with
    | nil =>
      have hstep : h.step boot (.timerThread notified) = h := by
        simp only [IttiHistory.step, IttiMw.timerManagerStep, hthread, htimers]
      rwa [hstep]
    | cons t timers =>
      have hstep : h.step boot (.timerThread notified) =
          { h with itti := { h.itti with currentTimer := t, timers := timers, thread := .popped } } := by
        simp only [IttiHistory.step, IttiMw.timerManagerStep, hthread, htimers]
      rw [hstep]
      exact hi.pop hthread htimers
  | popped =>
    by_cases hlt : h.itti.now < h.itti.currentTimer.timeOut
    · have hstep : h.step boot (.timerThread notified) =
          { h with itti := { h.itti with thread := .waiting h.itti.currentTimer.timeOut } } := by
        simp only [IttiHistory.step, IttiMw.timerManagerStep, hthread, if_pos hlt]
      rw [hstep]
      exact hi.move _ _ (by simp [hthread])
    · have hstep : h.step boot (.timerThread notified) = { h with itti := { h.itti with thread := .expired } } := by
        simp only [IttiHistory.step, IttiMw.timerManagerStep, hthread, if_neg hlt]
      rw [hstep]
      exact hi.move _ _ (by simp [hthread])
  | waiting deadline =>
    by_cases hn : notified = true
    · have hstep : h.step boot (.timerThread notified) = { h with itti := { h.itti with thread := .woken } } := by
        simp only [IttiHistory.step, IttiMw.timerManagerStep, hthread, if_pos hn]
      rw [hstep]
      exact hi.move _ _ (by simp [hthread])
    · by_cases hle : deadline ≤ h.itti.now
      · have hstep : h.step boot (.timerThread notified) =
            { h with itti := { h.itti with thread := .expired } } := by
          simp only [IttiHistory.step, IttiMw.timerManagerStep, hthread, if_neg hn, if_pos hle]
        rw [hstep]
        exact hi.move _ _ (by simp [hthread])
      · have hstep : h.step boot (.timerThread notified) = h := by
          simp only [IttiHistory.step, IttiMw.timerManagerStep, hthread, if_neg hn, if_neg hle]
        rwa [hstep]
  | woken =>
    have hstep : h.step boot (.timerThread notified) = { h with itti := { h.itti with
        timers := if h.itti.currentTimer.id ≠ ITTI_INVALID_TIMER_ID then
          insertTimer h.itti.currentTimer h.itti.timers else h.itti.timers
        currentTimer := nullTimer boot
        thread := .idle } } := by
      simp only [IttiHistory.step, IttiMw.timerManagerStep, hthread]
    rw [hstep]
    exact hi.putBack hthread (hown hthread)
  | expired =>
    by_cases hne : h.itti.currentTimer.id = ITTI_INVALID_TIMER_ID
    · have hstep : h.step boot (.timerThread notified) = { h with itti := { h.itti with thread := .idle } } := by
        simp only [IttiHistory.step, IttiMw.timerManagerStep, hthread, if_pos hne]
      rw [hstep]
      exact { hi with current := fun h => absurd hne h }
    · have hstep : h.step boot (.timerThread notified) = { h with
          itti := { h.itti with thread := .idle }
          reported := h.itti.currentTimer.id :: h.reported
          late := if h.itti.currentTimer.id ∈ h.removed then h.itti.currentTimer.id :: h.late
            else h.late } := by
        simp only [IttiHistory.step, IttiMw.timerManagerStep, hthread, if_neg hne]
      rw [hstep]
      exact hi.signal hthread hne

/-- **A step of its own instant keeps the timers.** -/
theorem step (hi : IttiInv h) (e : IttiEvent) (hids : IdsLeft h e) (hown : OwnInstant h e) :
    IttiInv (h.step boot e) := by
  cases e with
  | timerSetup sec us task arg1 arg2 =>
    cases htask : task.hasTimers with
    | false => rwa [step_timerSetup_of_not htask]
    | true =>
      rw [step_timerSetup htask hids]
      exact hi.timerSetup rfl hids (hown htask)
  | timerRemove id => exact hi.timerRemove id
  | clock elapsed => exact hi.move _ h.itti.thread Iff.rfl
  | timerThread notified => exact hi.timerThread notified hown

/-- **Any other step loses a timer.** -/
theorem not_timersKept_of_not_ownInstant (hi : IttiInv h) (e : IttiEvent) (hids : IdsLeft h e)
    (hown : ¬ OwnInstant h e) : ¬ TimersKept (h.step boot e) := by
  intro hkept
  cases e with
  | timerSetup sec us task arg1 arg2 =>
    unfold OwnInstant at hown
    push Not at hown
    obtain ⟨htask, hused⟩ := hown
    rw [step_timerSetup htask hids, insertTimer_eq_self hi.sorted hused] at hkept
    have hnew := hi.next_notMem hids
    obtain ⟨t, ht, heq⟩ | hcur := hkept.kept (h.itti.timerId + 1) List.mem_cons_self
      (fun hmem => (hi.removed _ hmem).elim (next_ne_invalid hids) hnew) fun hmem => hnew (hi.reported _ hmem)
    · exact hnew (heq ▸ (hi.stored t ht).1)
    · dsimp only at hcur
      have hne : h.itti.currentTimer.id ≠ ITTI_INVALID_TIMER_ID := hcur ▸ next_ne_invalid hids
      exact hnew (hcur ▸ (hi.current hne).1)
  | timerRemove id => exact hown trivial
  | clock elapsed => exact hown trivial
  | timerThread notified =>
    unfold OwnInstant at hown
    push Not at hown
    obtain ⟨hthread, hne, hused⟩ := hown
    have hstep : h.step boot (.timerThread notified) = { h with itti := { h.itti with
        timers := h.itti.timers, currentTimer := nullTimer boot, thread := .idle } } := by
      simp only [IttiHistory.step, IttiMw.timerManagerStep, hthread, if_pos hne,
        insertTimer_eq_self hi.sorted hused]
    rw [hstep] at hkept
    obtain ⟨h1, h2, h3, h4⟩ := hi.current hne
    have hrep : h.itti.currentTimer.id ∉ h.reported := fun hmem => by
      have := h4.mp hmem
      rw [hthread] at this
      cases this
    obtain ⟨t, ht, heq⟩ | hcur := hkept.kept _ h1 h2 hrep
    · exact h3 t ht heq
    · exact hne hcur.symm

end IttiInv

/-! ## Runs -/

/-- **ITTI keeps its timers in a run** exactly when each timer that goes into the set finds none of its
instant there. -/
theorem timersKept_iff (boot : ℕ) (es : List IttiEvent)
    (hids : Along (IttiHistory.step boot) IdsLeft (.init boot) es) :
    (∀ pre, pre <+: es → TimersKept (run (IttiHistory.step boot) (.init boot) pre)) ↔
      Along (IttiHistory.step boot) OwnInstant (.init boot) es :=
  Along.iff_forall_prefix_under (I := IttiInv) (J := TimersKept) (D := IdsLeft)
    (fun _ hi => hi.toTimersKept) (fun _ e hi hids hown => hi.step e hids hown)
    (fun _ e hi hids hown => hi.not_timersKept_of_not_ownInstant e hids hown) .init hids

/-- Two timers, one second apart. -/
def twoTimers : List IttiEvent :=
  [.timerSetup 1 0 .upfN4 0 0, .timerSetup 2 0 .upfN4 0 0, .timerThread false]

theorem timersKept_twoTimers :
    (∀ pre, pre <+: twoTimers → TimersKept (run (IttiHistory.step 0) (.init 0) pre)) ↔
      Along (IttiHistory.step 0) OwnInstant (.init 0) twoTimers :=
  timersKept_iff 0 twoTimers ⟨by decide, by decide, trivial, trivial⟩

/-- Of two timers of one instant, the second is not stored. -/
theorem not_timersKept_sameInstant : ¬ ∀ (boot : ℕ) (es : List IttiEvent),
    Along (IttiHistory.step boot) IdsLeft (.init boot) es →
      ∀ pre, pre <+: es → TimersKept (run (IttiHistory.step boot) (.init boot) pre) := by
  intro h
  have hkept := h 0 [.timerSetup 1 0 .upfN4 0 0, .timerSetup 1 0 .upfN4 0 0] ⟨by decide, by decide, trivial⟩
    _ (List.prefix_refl _)
  have hlost := hkept.kept 2 (by decide) (by decide) (by decide)
  revert hlost
  decide

end Oai5g.Upf
