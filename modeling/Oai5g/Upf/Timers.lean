import Oai5g.Upf.Transactions

/-!
# The tables of the transaction layer

* `TablesAgree`: each table of transactions and timers names pending procedures that know the entry.
* `OwnTimers`: a timer that fires finds the procedure it was started for.
* `KeepsTables`: the calls that keep the tables. No procedure ends in them.
* `TablesInv`: the invariant, which also finds the cleanup timer of each pending procedure, so that the
  condition is exact (`not_tablesAgree_of_not_keepsTables`).
* **`tablesConsistent_iff`**: the runs whose states all have such tables.
-/

namespace Oai5g.Upf

/-! ## Calls -/

/-- A call of the stack; a timer may fire at any time, and again. -/
inductive L4Call
  | handleReceiveMessageCb (msg : PfcpMsg)
  | sendRequest (dest : Endpoint) (type : SentType)
  | sendResponse (trxnId : ℕ)
  | timeOutEvent (id : ℕ)

/-- One call. -/
def stackStep (s : PfcpL4Stack) : L4Call → PfcpL4Stack
  | .handleReceiveMessageCb msg => (s.handleReceiveMessageCb msg).1
  | .sendRequest dest type => s.sendRequest dest type
  | .sendResponse trxnId => s.sendResponse trxnId
  | .timeOutEvent id => s.timeOutEvent id

/-- The transaction of the procedure for which a call starts timers. -/
def startedFor (s : PfcpL4Stack) : L4Call → Option ℕ
  | .handleReceiveMessageCb _ => some s.nextTrxnId
  | .sendRequest _ _ => some s.nextTrxnId
  | .sendResponse _ => none
  | .timeOutEvent id =>
    (s.msgOutRetryTimers id).bind fun n => (s.pendingProcedures n).map PfcpProcedure.trxnId

/-- The stack with the transaction that each timer was started for. -/
structure OwnedStack where
  stack : PfcpL4Stack
  owner : ℕ → Option ℕ

/-- No timer has an owner. -/
def OwnedStack.init (seqNum : UInt32) : OwnedStack := ⟨.init seqNum, fun _ => none⟩

/-- One call, with the owners of the timers that it starts. -/
def ownedStep (s : OwnedStack) (c : L4Call) : OwnedStack :=
  let stack := stackStep s.stack c
  ⟨stack, fun id => if s.stack.timerGenerator < id ∧ id ≤ stack.timerGenerator then startedFor s.stack c
    else s.owner id⟩

/-! ## The property -/

/-- **The four tables agree.** -/
structure TablesAgree (s : PfcpL4Stack) : Prop where
  trxn : ∀ t n, s.trxnId2seqNum t = some n ↔ ∃ p, s.pendingProcedures n = some p ∧ p.trxnId = t
  retry : ∀ id n, s.msgOutRetryTimers id = some n →
    ∃ p, s.pendingProcedures n = some p ∧ p.retryTimerId = id
  cleanup : ∀ id n, s.procCleanupTimers id = some n →
    ∃ p, s.pendingProcedures n = some p ∧ p.procCleanupTimerId = id

/-- Nothing is left when nothing is pending. -/
def EmptyWhenIdle (s : PfcpL4Stack) : Prop :=
  (∀ n, s.pendingProcedures n = none) → (∀ t, s.trxnId2seqNum t = none) ∧
    (∀ id, s.msgOutRetryTimers id = none) ∧ ∀ id, s.procCleanupTimers id = none

/-- A timer finds no other procedure than the one it was started for. -/
def OwnTimers (s : OwnedStack) : Prop :=
  ∀ id n p, s.stack.msgOutRetryTimers id = some n ∨ s.stack.procCleanupTimers id = some n →
    s.stack.pendingProcedures n = some p → s.owner id = some p.trxnId

/-- **What should hold of every state.** -/
structure TablesConsistent (s : OwnedStack) : Prop extends TablesAgree s.stack where
  idle : EmptyWhenIdle s.stack
  own : OwnTimers s

theorem TablesAgree.emptyWhenIdle {s : PfcpL4Stack} (h : TablesAgree s) : EmptyWhenIdle s := by
  intro hidle
  refine ⟨fun t => ?_, fun id => ?_, fun id => ?_⟩ <;> rw [Option.eq_none_iff_forall_ne_some] <;>
    intro n hn
  · obtain ⟨p, hp, -⟩ := (h.trxn t n).mp hn
    rw [hidle] at hp
    cases hp
  · obtain ⟨p, hp, -⟩ := h.retry id n hn
    rw [hidle] at hp
    cases hp
  · obtain ⟨p, hp, -⟩ := h.cleanup id n hn
    rw [hidle] at hp
    cases hp

/-! ## The condition -/

/-- **No procedure ends, and no request takes a number under which one is pending.** -/
def KeepsTables (s : PfcpL4Stack) : L4Call → Prop
  | .handleReceiveMessageCb _ => True
  | .sendRequest _ _ => s.pendingProcedures s.nextMessageNumber = none
  | .sendResponse trxnId => s.trxnId2seqNum trxnId = none
  | .timeOutEvent id => s.procCleanupTimers id = none

/-! ## The invariant -/

/-- The tables agree, and their ids were given by the generators. -/
structure TablesInv (s : OwnedStack) : Prop extends TablesAgree s.stack where
  trxnGen : ∀ n p, s.stack.pendingProcedures n = some p → p.trxnId ≤ s.stack.trxnIdGenerator
  retryGen : ∀ n p, s.stack.pendingProcedures n = some p → p.retryTimerId ≤ s.stack.timerGenerator
  cleanupGen : ∀ n p, s.stack.pendingProcedures n = some p →
    p.procCleanupTimerId ≤ s.stack.timerGenerator
  /-- The cleanup timer of a pending procedure is in its table, and in no other. -/
  armed : ∀ n p, s.stack.pendingProcedures n = some p →
    s.stack.procCleanupTimers p.procCleanupTimerId = some n
  apart : ∀ id n, s.stack.msgOutRetryTimers id = some n → s.stack.procCleanupTimers id = none
  notZero : s.stack.msgOutRetryTimers 0 = none
  /-- A procedure with a retry timer has a message to repeat, under its own number. -/
  repeats : ∀ id n p, s.stack.msgOutRetryTimers id = some n → s.stack.pendingProcedures n = some p →
    ∃ type, p.retryMsg = some ⟨type, n⟩
  own : OwnTimers s

theorem TablesInv.init (seqNum : UInt32) : TablesInv (.init seqNum) where
  trxn _ _ := by
    refine ⟨(fun h => nomatch h), ?_⟩
    rintro ⟨_, h, -⟩
    cases h
  retry _ _ h := nomatch h
  cleanup _ _ h := nomatch h
  trxnGen _ _ h := nomatch h
  retryGen _ _ h := nomatch h
  cleanupGen _ _ h := nomatch h
  armed _ _ h := nomatch h
  apart _ _ h := nomatch h
  notZero := rfl
  repeats _ _ _ h := nomatch h
  own _ _ _ _ h := nomatch h

section

variable {s s' : OwnedStack} {n : UInt32} {p : PfcpProcedure}

theorem TablesInv.trxn_fresh (hs : TablesInv s) : s.stack.trxnId2seqNum s.stack.nextTrxnId = none := by
  rw [Option.eq_none_iff_forall_ne_some]
  intro n hn
  obtain ⟨p, hp, ht⟩ := (hs.trxn _ n).mp hn
  have hle := hs.trxnGen n p hp
  simp only [PfcpL4Stack.nextTrxnId] at ht
  omega

theorem TablesInv.retry_le (hs : TablesInv s) {id : ℕ} (h : s.stack.msgOutRetryTimers id = some n) :
    id ≤ s.stack.timerGenerator := by
  obtain ⟨p, hp, rfl⟩ := hs.retry id n h
  exact hs.retryGen n p hp

theorem TablesInv.cleanup_le (hs : TablesInv s) {id : ℕ} (h : s.stack.procCleanupTimers id = some n) :
    id ≤ s.stack.timerGenerator := by
  obtain ⟨p, hp, rfl⟩ := hs.cleanup id n h
  exact hs.cleanupGen n p hp

theorem TablesInv.consistent (hs : TablesInv s) : TablesConsistent s :=
  { hs.toTablesAgree with idle := hs.emptyWhenIdle, own := hs.own }

/-- **A procedure is opened**, with new timers and a new transaction. -/
theorem TablesInv.opened (hs : TablesInv s) (hn : s.stack.pendingProcedures n = none)
    (htrxnId : p.trxnId = s.stack.nextTrxnId)
    (hgen : s'.stack.trxnIdGenerator = s.stack.nextTrxnId)
    (htgen : s.stack.timerGenerator ≤ s'.stack.timerGenerator)
    (hpending : s'.stack.pendingProcedures =
      Function.update s.stack.pendingProcedures n (some p))
    (htrxn : s'.stack.trxnId2seqNum =
      Function.update s.stack.trxnId2seqNum s.stack.nextTrxnId (some n))
    (hcleanup : s'.stack.procCleanupTimers =
      Function.update s.stack.procCleanupTimers p.procCleanupTimerId (some n))
    (hcid : s.stack.timerGenerator < p.procCleanupTimerId ∧
      p.procCleanupTimerId ≤ s'.stack.timerGenerator)
    (hrid : p.retryTimerId ≤ s'.stack.timerGenerator)
    (hretry : ∀ id m, s'.stack.msgOutRetryTimers id = some m →
      s.stack.msgOutRetryTimers id = some m ∨ m = n ∧ id = p.retryTimerId ∧
        s.stack.timerGenerator < id ∧ id ≠ p.procCleanupTimerId ∧
          ∃ type, p.retryMsg = some ⟨type, n⟩)
    (howner : ∀ id, s'.owner id =
      if s.stack.timerGenerator < id ∧ id ≤ s'.stack.timerGenerator then some p.trxnId
      else s.owner id) : TablesInv s' := by
  have hself : s'.stack.pendingProcedures n = some p := by rw [hpending, Function.update_self]
  have hold {m : UInt32} {q : PfcpProcedure} (hq : s.stack.pendingProcedures m = some q) :
      s'.stack.pendingProcedures m = some q := by
    rw [hpending, Function.update_of_ne, hq]
    rintro rfl
    rw [hn] at hq
    cases hq
  have hcases {m : UInt32} {q : PfcpProcedure} (hq : s'.stack.pendingProcedures m = some q) :
      m = n ∧ p = q ∨ m ≠ n ∧ s.stack.pendingProcedures m = some q := by
    rw [hpending] at hq
    exact update_some_eq_some.mp hq
  refine
    { trxn := fun t m => ⟨fun ht => ?named, ?known⟩
      retry := fun id m hid => ?retry
      cleanup := fun id m hid => ?cleanup
      trxnGen := fun m q hq => ?trxnGen
      retryGen := fun m q hq => ?retryGen
      cleanupGen := fun m q hq => ?cleanupGen
      armed := fun m q hq => ?armed
      apart := fun id m hid => ?apart
      notZero := ?notZero
      repeats := fun id m q hid hq => ?repeats
      own := fun id m q hid hq => ?own }
  case named =>
    rw [htrxn, update_some_eq_some] at ht
    rcases ht with ⟨rfl, rfl⟩ | ⟨-, ht⟩
    · exact ⟨p, hself, htrxnId⟩
    · obtain ⟨q, hq, hqt⟩ := (hs.trxn t m).mp ht
      exact ⟨q, hold hq, hqt⟩
  case known =>
    rintro ⟨q, hq, rfl⟩
    rw [htrxn, update_some_eq_some]
    rcases hcases hq with ⟨rfl, rfl⟩ | ⟨-, hq⟩
    · exact .inl ⟨htrxnId, rfl⟩
    · refine .inr ⟨?_, (hs.trxn _ m).mpr ⟨q, hq, rfl⟩⟩
      have hle := hs.trxnGen m q hq
      simp only [PfcpL4Stack.nextTrxnId]
      omega
  case retry =>
    rcases hretry id m hid with hid | ⟨rfl, rfl, -⟩
    · obtain ⟨q, hq, hqid⟩ := hs.retry id m hid
      exact ⟨q, hold hq, hqid⟩
    · exact ⟨p, hself, rfl⟩
  case cleanup =>
    rw [hcleanup, update_some_eq_some] at hid
    rcases hid with ⟨rfl, rfl⟩ | ⟨-, hid⟩
    · exact ⟨p, hself, rfl⟩
    · obtain ⟨q, hq, hqid⟩ := hs.cleanup id m hid
      exact ⟨q, hold hq, hqid⟩
  case trxnGen =>
    rw [hgen]
    rcases hcases hq with ⟨rfl, rfl⟩ | ⟨-, hq⟩
    · exact htrxnId.le
    · exact Nat.le_succ_of_le (hs.trxnGen m q hq)
  case retryGen =>
    rcases hcases hq with ⟨rfl, rfl⟩ | ⟨-, hq⟩
    · exact hrid
    · exact (hs.retryGen m q hq).trans htgen
  case cleanupGen =>
    rcases hcases hq with ⟨rfl, rfl⟩ | ⟨-, hq⟩
    · exact hcid.2
    · exact (hs.cleanupGen m q hq).trans htgen
  case armed =>
    rw [hcleanup, update_some_eq_some]
    rcases hcases hq with ⟨rfl, rfl⟩ | ⟨-, hq⟩
    · exact .inl ⟨rfl, rfl⟩
    · refine .inr ⟨?_, hs.armed m q hq⟩
      have hle := hs.cleanupGen m q hq
      omega
  case apart =>
    rw [hcleanup]
    rcases hretry id m hid with hid | ⟨-, -, hlt, hne, -⟩
    · have hle := hs.retry_le hid
      rw [Function.update_of_ne (by omega)]
      exact hs.apart id m hid
    · rw [Function.update_of_ne hne, Option.eq_none_iff_forall_ne_some]
      intro k hk
      have hle := hs.cleanup_le hk
      omega
  case notZero =>
    rw [Option.eq_none_iff_forall_ne_some]
    intro m hm
    rcases hretry 0 m hm with hm | ⟨-, -, hlt, -⟩
    · rw [hs.notZero] at hm
      cases hm
    · omega
  case repeats =>
    rcases hretry id m hid with hid | ⟨rfl, -, -, -, hmsg⟩
    · obtain ⟨r, hr, -⟩ := hs.retry id m hid
      obtain rfl := Option.some.inj ((hold hr).symm.trans hq)
      exact hs.repeats id m r hid hr
    · obtain rfl := Option.some.inj (hself.symm.trans hq)
      exact hmsg
  case own =>
    rw [howner]
    -- an old timer is of an old procedure
    have holdTimer (hid : s.stack.msgOutRetryTimers id = some m ∨
        s.stack.procCleanupTimers id = some m) :
        (if s.stack.timerGenerator < id ∧ id ≤ s'.stack.timerGenerator then some p.trxnId
          else s.owner id) = some q.trxnId := by
      have hle : id ≤ s.stack.timerGenerator := hid.elim hs.retry_le hs.cleanup_le
      have hr : ∃ r, s.stack.pendingProcedures m = some r := by
        rcases hid with hid | hid
        · exact (hs.retry id m hid).imp fun _ h => h.1
        · exact (hs.cleanup id m hid).imp fun _ h => h.1
      obtain ⟨r, hr⟩ := hr
      obtain rfl := Option.some.inj ((hold hr).symm.trans hq)
      rw [if_neg (by omega)]
      exact hs.own id m r hid hr
    rcases hid with hid | hid
    · rcases hretry id m hid with hid | ⟨rfl, rfl, hlt, -⟩
      · exact holdTimer (.inl hid)
      · obtain rfl := Option.some.inj (hself.symm.trans hq)
        rw [if_pos ⟨hlt, hrid⟩]
    · rw [hcleanup, update_some_eq_some] at hid
      rcases hid with ⟨rfl, rfl⟩ | ⟨-, hid⟩
      · obtain rfl := Option.some.inj (hself.symm.trans hq)
        rw [if_pos hcid]
      · exact holdTimer (.inr hid)

/-- **A pending procedure changes**: at most it gets a new retry timer, and its old one is gone. -/
theorem TablesInv.changed (hs : TablesInv s) {q : PfcpProcedure}
    (hp : s.stack.pendingProcedures n = some p) (htrxnId : q.trxnId = p.trxnId)
    (hqid : q.procCleanupTimerId = p.procCleanupTimerId)
    (hgen : s'.stack.trxnIdGenerator = s.stack.trxnIdGenerator)
    (htgen : s.stack.timerGenerator ≤ s'.stack.timerGenerator)
    (hpending : s'.stack.pendingProcedures =
      Function.update s.stack.pendingProcedures n (some q))
    (htrxn : s'.stack.trxnId2seqNum = s.stack.trxnId2seqNum)
    (hcleanup : s'.stack.procCleanupTimers = s.stack.procCleanupTimers)
    (hrid : q.retryTimerId ≤ s'.stack.timerGenerator)
    (hretry : ∀ id m, s'.stack.msgOutRetryTimers id = some m →
      (s.stack.msgOutRetryTimers id = some m ∧ id ≠ p.retryTimerId) ∨ m = n ∧ id = q.retryTimerId ∧
        s.stack.timerGenerator < id ∧ ∃ type, q.retryMsg = some ⟨type, n⟩)
    (howner : ∀ id, s'.owner id =
      if s.stack.timerGenerator < id ∧ id ≤ s'.stack.timerGenerator then some p.trxnId
      else s.owner id) : TablesInv s' := by
  have hself : s'.stack.pendingProcedures n = some q := by rw [hpending, Function.update_self]
  have hcases {m : UInt32} {r : PfcpProcedure} (hr : s'.stack.pendingProcedures m = some r) :
      m = n ∧ q = r ∨ m ≠ n ∧ s.stack.pendingProcedures m = some r := by
    rw [hpending] at hr
    exact update_some_eq_some.mp hr
  have hother {m : UInt32} {r : PfcpProcedure} (hr : s.stack.pendingProcedures m = some r)
      (hm : m ≠ n) : s'.stack.pendingProcedures m = some r := by
    rw [hpending, Function.update_of_ne hm, hr]
  -- an old retry timer that is left is not the one of the procedure
  have hne {id : ℕ} {m : UInt32} (hid : s.stack.msgOutRetryTimers id = some m)
      (h : id ≠ p.retryTimerId) : m ≠ n := by
    rintro rfl
    obtain ⟨r, hr, hrid⟩ := hs.retry id m hid
    obtain rfl := Option.some.inj (hr.symm.trans hp)
    exact h hrid.symm
  refine
    { trxn := fun t m => ?trxn
      retry := fun id m hid => ?retry
      cleanup := fun id m hid => ?cleanup
      trxnGen := fun m r hr => ?trxnGen
      retryGen := fun m r hr => ?retryGen
      cleanupGen := fun m r hr => ?cleanupGen
      armed := fun m r hr => ?armed
      apart := fun id m hid => ?apart
      notZero := ?notZero
      repeats := fun id m r hid hr => ?repeats
      own := fun id m r hid hr => ?own }
  case trxn =>
    rw [htrxn, hs.trxn]
    constructor
    · rintro ⟨r, hr, rfl⟩
      by_cases hm : m = n
      · subst hm
        obtain rfl := Option.some.inj (hr.symm.trans hp)
        exact ⟨q, hself, htrxnId⟩
      · exact ⟨r, hother hr hm, rfl⟩
    · rintro ⟨r, hr, rfl⟩
      rcases hcases hr with ⟨rfl, rfl⟩ | ⟨-, hr⟩
      · exact ⟨p, hp, htrxnId.symm⟩
      · exact ⟨r, hr, rfl⟩
  case retry =>
    rcases hretry id m hid with ⟨hid, h⟩ | ⟨rfl, rfl, -⟩
    · obtain ⟨r, hr, hrid⟩ := hs.retry id m hid
      exact ⟨r, hother hr (hne hid h), hrid⟩
    · exact ⟨q, hself, rfl⟩
  case cleanup =>
    rw [hcleanup] at hid
    obtain ⟨r, hr, hrid⟩ := hs.cleanup id m hid
    by_cases hm : m = n
    · subst hm
      obtain rfl := Option.some.inj (hr.symm.trans hp)
      exact ⟨q, hself, hqid.trans hrid⟩
    · exact ⟨r, hother hr hm, hrid⟩
  case trxnGen =>
    rw [hgen]
    rcases hcases hr with ⟨rfl, rfl⟩ | ⟨-, hr⟩
    · exact htrxnId ▸ hs.trxnGen m p hp
    · exact hs.trxnGen m r hr
  case retryGen =>
    rcases hcases hr with ⟨rfl, rfl⟩ | ⟨-, hr⟩
    · exact hrid
    · exact (hs.retryGen m r hr).trans htgen
  case cleanupGen =>
    rcases hcases hr with ⟨rfl, rfl⟩ | ⟨-, hr⟩
    · exact hqid ▸ (hs.cleanupGen m p hp).trans htgen
    · exact (hs.cleanupGen m r hr).trans htgen
  case armed =>
    rw [hcleanup]
    rcases hcases hr with ⟨rfl, rfl⟩ | ⟨-, hr⟩
    · exact hqid ▸ hs.armed m p hp
    · exact hs.armed m r hr
  case apart =>
    rw [hcleanup]
    rcases hretry id m hid with ⟨hid, -⟩ | ⟨-, -, hlt, -⟩
    · exact hs.apart id m hid
    · rw [Option.eq_none_iff_forall_ne_some]
      intro k hk
      have hle := hs.cleanup_le hk
      omega
  case notZero =>
    rw [Option.eq_none_iff_forall_ne_some]
    intro m hm
    rcases hretry 0 m hm with ⟨hm, -⟩ | ⟨-, -, hlt, -⟩
    · rw [hs.notZero] at hm
      cases hm
    · omega
  case repeats =>
    rcases hretry id m hid with ⟨hid, h⟩ | ⟨rfl, -, -, hmsg⟩
    · rcases hcases hr with ⟨hm, -⟩ | ⟨-, hr⟩
      · exact absurd hm (hne hid h)
      · exact hs.repeats id m r hid hr
    · obtain rfl := Option.some.inj (hself.symm.trans hr)
      exact hmsg
  case own =>
    rw [howner]
    rcases hcases hr with ⟨rfl, rfl⟩ | ⟨hm, hr⟩
    · rw [htrxnId]
      split_ifs with h
      · rfl
      · refine hs.own id m p ?_ hp
        rcases hid with hid | hid
        · rcases hretry id m hid with ⟨hid, -⟩ | ⟨-, rfl, hlt, -⟩
          · exact .inl hid
          · exact absurd ⟨hlt, hrid⟩ h
        · exact .inr (hcleanup ▸ hid)
    · have hid' : s.stack.msgOutRetryTimers id = some m ∨ s.stack.procCleanupTimers id = some m := by
        rcases hid with hid | hid
        · rcases hretry id m hid with ⟨hid, -⟩ | ⟨h, -⟩
          · exact .inl hid
          · exact absurd h hm
        · exact .inr (hcleanup ▸ hid)
      have hle : id ≤ s.stack.timerGenerator := hid'.elim hs.retry_le hs.cleanup_le
      rw [if_neg (by omega)]
      exact hs.own id m r hid' hr

end

/-! ## The calls -/

section

variable {s : OwnedStack} {c : L4Call}

theorem ownedStep_eq {stack : PfcpL4Stack} (h : stackStep s.stack c = stack)
    (hgen : stack.timerGenerator = s.stack.timerGenerator) : ownedStep s c = ⟨stack, s.owner⟩ := by
  unfold ownedStep
  dsimp only
  rw [h, hgen]
  congr 1
  funext id
  rw [if_neg]
  omega

theorem sendRequest_msgOutRetryTimers (stack : PfcpL4Stack) (dest : Endpoint) (type : SentType) :
    (stack.sendRequest dest type).msgOutRetryTimers =
      Function.update stack.msgOutRetryTimers stack.nextTimerId (some stack.nextMessageNumber) := by
  unfold PfcpL4Stack.sendRequest PfcpL4Stack.insertTrxn PfcpL4Stack.insertPending
  dsimp only
  split <;> split <;> rfl

theorem TablesInv.handleReceiveMessageCb (hs : TablesInv s) (msg : PfcpMsg) :
    TablesInv (ownedStep s (.handleReceiveMessageCb msg)) := by
  cases hp : s.stack.pendingProcedures msg.sequenceNumber with
  | none =>
    have hstep := handleReceiveMessageCb_of_none hp hs.trxn_fresh
    by_cases hcheck : checkRequestType msg.messageType = true
    · rw [if_pos hcheck] at hstep
      have hstack : (ownedStep s (.handleReceiveMessageCb msg)).stack = s.stack.opened
          msg.sequenceNumber (s.stack.receivedProcedure msg.messageType) := congrArg Prod.fst hstep
      refine hs.opened hp (p := s.stack.receivedProcedure msg.messageType) rfl ?_ ?_ ?_ ?_ ?_
        ⟨Nat.lt_succ_self _, ?_⟩ (Nat.zero_le _) (fun id m hid => ?_) fun id => rfl
      · rw [hstack]
        rfl
      · rw [hstack]
        exact Nat.le_succ _
      · rw [hstack]
        rfl
      · rw [hstack]
        rfl
      · rw [hstack]
        rfl
      · rw [hstack]
        exact le_rfl
      · rw [hstack] at hid
        exact .inl hid
    · rw [if_neg hcheck] at hstep
      rw [ownedStep_eq (c := .handleReceiveMessageCb msg) (congrArg Prod.fst hstep) rfl]
      exact hs
  | some p =>
    have hstep := handleReceiveMessageCb_of_some hp
    by_cases hcheck : checkResponseType p.checkInitialMsgType msg.messageType = true
    · rw [if_pos hcheck] at hstep
      have hgen : ((if p.retryTimerId = 0 then s.stack else s.stack.stopTimer p.retryTimerId).setPending
          msg.sequenceNumber (p.respond msg.messageType)).timerGenerator = s.stack.timerGenerator := by
        split_ifs <;> rfl
      rw [ownedStep_eq (c := .handleReceiveMessageCb msg) (congrArg Prod.fst hstep) hgen]
      refine hs.changed hp (q := p.respond msg.messageType) rfl rfl ?_ hgen.ge ?_ ?_ ?_ (Nat.zero_le _)
        (fun id m hid => .inl ?_) fun id => ?_
      · split_ifs <;> rfl
      · split_ifs <;> rfl
      · split_ifs <;> rfl
      · split_ifs <;> rfl
      · dsimp only at hid
        split_ifs at hid with hzero
        · refine ⟨hid, ?_⟩
          rintro rfl
          replace hid : s.stack.msgOutRetryTimers p.retryTimerId = some m := hid
          rw [hzero, hs.notZero] at hid
          cases hid
        · exact update_none_eq_some.mp hid
      · exact (if_neg fun h => h.1.not_ge (h.2.trans hgen.le)).symm
    · rw [if_neg hcheck] at hstep
      rw [ownedStep_eq (c := .handleReceiveMessageCb msg) (congrArg Prod.fst hstep) rfl]
      exact hs

theorem TablesInv.sendRequest (hs : TablesInv s) (dest : Endpoint) (type : SentType)
    (hn : s.stack.pendingProcedures s.stack.nextMessageNumber = none) :
    TablesInv (ownedStep s (.sendRequest dest type)) := by
  obtain ⟨hgen, htgen, -, htrxn, hcleanup, hpending, -⟩ :=
    @sendRequest_fields s.stack dest type hn hs.trxn_fresh
  have hretry := sendRequest_msgOutRetryTimers s.stack dest type
  have hle : s.stack.nextTimerId + 1 ≤ (s.stack.sendRequest dest type).timerGenerator := htgen.ge
  have hlt : s.stack.timerGenerator < s.stack.nextTimerId := Nat.lt_succ_self _
  refine hs.opened hn (p := s.stack.sentProcedure dest type) rfl hgen ?_ hpending htrxn hcleanup
    ⟨Nat.lt_succ_of_lt hlt, hle⟩ ((Nat.le_succ _).trans hle) (fun id m hid => ?_) fun id => rfl
  · exact (hlt.trans (Nat.lt_succ_self _)).le.trans hle
  · replace hid : (s.stack.sendRequest dest type).msgOutRetryTimers id = some m := hid
    rw [hretry, update_some_eq_some] at hid
    rcases hid with ⟨rfl, rfl⟩ | ⟨-, hid⟩
    · exact .inr ⟨rfl, rfl, hlt, (Nat.lt_succ_self _).ne, type.messageType, rfl⟩
    · exact .inl hid

theorem TablesInv.timeOutEvent (hs : TablesInv s) (id : ℕ)
    (hid : s.stack.procCleanupTimers id = none) : TablesInv (ownedStep s (.timeOutEvent id)) := by
  cases hm : s.stack.msgOutRetryTimers id with
  | none =>
    have hstack : stackStep s.stack (.timeOutEvent id) = s.stack.timerRemove id := by
      simp only [stackStep, PfcpL4Stack.timeOutEvent, hm, hid]
    rw [ownedStep_eq hstack rfl]
    exact ⟨⟨hs.trxn, hs.retry, hs.cleanup⟩, hs.trxnGen, hs.retryGen, hs.cleanupGen, hs.armed, hs.apart,
      hs.notZero, hs.repeats, hs.own⟩
  | some n =>
    obtain ⟨p, hp, rfl⟩ := hs.retry id n hm
    obtain ⟨type, hmsg⟩ := hs.repeats _ n p hm hp
    by_cases hcount : p.retryCount < PFCP_N1_REQUESTS
    · -- the request is sent again, with a new timer
      have hstack : (ownedStep s (.timeOutEvent p.retryTimerId)).stack =
          (({ s.stack.timerRemove p.retryTimerId with
              msgOutRetryTimers := Function.update s.stack.msgOutRetryTimers p.retryTimerId none
            } : PfcpL4Stack).startMsgRetryTimer n).setPending n (p.retried s.stack.nextTimerId) := by
        simp only [ownedStep, stackStep, PfcpL4Stack.timeOutEvent, hm, hp, PfcpL4Stack.retry,
          if_pos hcount, hmsg]
        rfl
      have hlt : s.stack.timerGenerator < s.stack.nextTimerId := Nat.lt_succ_self _
      refine hs.changed hp (q := p.retried s.stack.nextTimerId) rfl rfl ?_ ?_ ?_ ?_ ?_ ?_
        (fun id m hid => ?_) fun id => ?_
      · rw [hstack]
        rfl
      · rw [hstack]
        exact hlt.le
      · rw [hstack]
        rfl
      · rw [hstack]
        rfl
      · rw [hstack]
        rfl
      · rw [hstack]
        exact le_rfl
      · rw [hstack] at hid
        rcases update_some_eq_some.mp hid with ⟨rfl, rfl⟩ | ⟨-, hid⟩
        · exact .inr ⟨rfl, rfl, hlt, type, hmsg⟩
        · exact .inl (update_none_eq_some.mp hid)
      · have hfor : startedFor s.stack (.timeOutEvent p.retryTimerId) = some p.trxnId := by
          simp only [startedFor, hm, Option.bind_some, hp, Option.map_some]
        rw [← hfor]
        rfl
    · have hstack : stackStep s.stack (.timeOutEvent p.retryTimerId) =
          { s.stack.timerRemove p.retryTimerId with
            msgOutRetryTimers := Function.update s.stack.msgOutRetryTimers p.retryTimerId none } := by
        simp only [stackStep, PfcpL4Stack.timeOutEvent, hm, hp, PfcpL4Stack.retry, if_neg hcount]
        rfl
      rw [ownedStep_eq hstack rfl]
      refine hs.changed hp (q := p) rfl rfl rfl le_rfl (Function.update_eq_self_iff.mpr hp.symm).symm rfl
        rfl (hs.retryGen n p hp) (fun id m hid => .inl (update_none_eq_some.mp hid)) fun id => ?_
      rw [if_neg]
      exact fun h => h.1.not_ge h.2

/-- **One call.** -/
theorem TablesInv.ownedStep (hs : TablesInv s) (h : KeepsTables s.stack c) :
    TablesInv (ownedStep s c) := by
  cases c with
  | handleReceiveMessageCb msg => exact hs.handleReceiveMessageCb msg
  | sendRequest dest type => exact hs.sendRequest dest type h
  | timeOutEvent id => exact hs.timeOutEvent id h
  | sendResponse trxnId =>
    have hstack : stackStep s.stack (.sendResponse trxnId) = s.stack := by
      replace h : s.stack.trxnId2seqNum trxnId = none := h
      simp only [stackStep, PfcpL4Stack.sendResponse, h]
    rw [ownedStep_eq hstack rfl]
    exact hs

/-- **Every other call leaves tables that do not agree.** -/
theorem not_tablesAgree_of_not_keepsTables (hs : TablesInv s) (h : ¬ KeepsTables s.stack c) :
    ¬ TablesAgree (stackStep s.stack c) := by
  intro hagree
  cases c with
  | handleReceiveMessageCb msg => exact h trivial
  | sendRequest dest type =>
    -- the retry timer of the request is filed under the procedure that was there
    obtain ⟨p, hp⟩ := Option.ne_none_iff_exists'.mp h
    have hpending : (s.stack.sendRequest dest type).pendingProcedures s.stack.nextMessageNumber =
        some p := by
      simp only [PfcpL4Stack.sendRequest, PfcpL4Stack.insertTrxn, PfcpL4Stack.insertPending,
        PfcpL4Stack.startProcCleanupTimer, PfcpL4Stack.startMsgRetryTimer, PfcpL4Stack.timerSetup,
        PfcpL4Stack.takeTrxnId, PfcpL4Stack.takeSeqNum, hp]
      split <;> exact hp
    have hentry : (s.stack.sendRequest dest type).msgOutRetryTimers s.stack.nextTimerId =
        some s.stack.nextMessageNumber := by
      rw [sendRequest_msgOutRetryTimers, Function.update_self]
    obtain ⟨q, hq, hid⟩ := hagree.retry _ _ hentry
    obtain rfl := Option.some.inj (hpending.symm.trans hq)
    have hle := hs.retryGen _ p hp
    simp only [PfcpL4Stack.nextTimerId] at hid
    omega
  | sendResponse trxnId =>
    -- the cleanup timer of the procedure that ended is still in its table
    obtain ⟨n, hn⟩ := Option.ne_none_iff_exists'.mp h
    obtain ⟨p, hp, -⟩ := (hs.trxn trxnId n).mp hn
    have hstack : stackStep s.stack (.sendResponse trxnId) =
        ((s.stack.stopTimer p.procCleanupTimerId).erasePending n).eraseTrxn trxnId := by
      simp only [stackStep, PfcpL4Stack.sendResponse, hn, hp]
    rw [hstack] at hagree
    obtain ⟨q, hq, -⟩ := hagree.cleanup p.procCleanupTimerId n (hs.armed n p hp)
    exact (update_none_eq_some.mp hq).2 rfl
  | timeOutEvent id =>
    -- the transaction of the procedure that ended is still in its table
    obtain ⟨n, hn⟩ := Option.ne_none_iff_exists'.mp h
    obtain ⟨p, hp, -⟩ := hs.cleanup id n hn
    have hm : s.stack.msgOutRetryTimers id = none := by
      rw [Option.eq_none_iff_forall_ne_some]
      intro m hm
      rw [hs.apart id m hm] at hn
      cases hn
    have htrxn : (stackStep s.stack (.timeOutEvent id)).trxnId2seqNum p.trxnId = some n := by
      simp only [stackStep, PfcpL4Stack.timeOutEvent, hm, hn]
      exact (hs.trxn _ n).mpr ⟨p, hp, rfl⟩
    have hpending : (stackStep s.stack (.timeOutEvent id)).pendingProcedures n = none := by
      simp only [stackStep, PfcpL4Stack.timeOutEvent, hm, hn]
      exact Function.update_self ..
    obtain ⟨q, hq, -⟩ := (hagree.trxn _ n).mp htrxn
    rw [hpending] at hq
    cases hq

end

/-! ## Runs -/

/-- **The tables are consistent in every state of a run exactly when every call of it keeps them.** -/
theorem tablesConsistent_iff (seqNum : UInt32) (calls : List L4Call) :
    (∀ pre, pre <+: calls → TablesConsistent (run ownedStep (.init seqNum) pre)) ↔
      Along ownedStep (fun s c => KeepsTables s.stack c) (.init seqNum) calls :=
  Along.iff_forall_prefix (I := TablesInv) (J := TablesConsistent) (fun _ hs => hs.consistent)
    (fun _ _ hs h => hs.ownedStep h)
    (fun _ _ hs h hc => not_tablesAgree_of_not_keepsTables hs h hc.toTablesAgree) (.init seqNum)

/-- **A heartbeat request that is answered leaves its cleanup timer behind.** -/
theorem not_tablesConsistent_answered : ¬ TablesConsistent (run ownedStep (.init 0)
    [.handleReceiveMessageCb ⟨PFCP_HEARTBEAT_REQUEST, 7⟩, .sendResponse 1]) := by
  intro h
  obtain ⟨p, hp, -⟩ := h.cleanup 1 7 rfl
  cases hp

end Oai5g.Upf
