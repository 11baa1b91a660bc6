/-
**Two payments of one user at the same time.**

Two deliveries of `apply_midtrans_webhook` run in transactions of their own, statement by
statement, under read committed.  `SELECT … FOR UPDATE` on `telegram_subscriptions` makes the
second delivery wait for the first when the user has a row, and does nothing when there is none:
then both deliveries compute the period of a first payment, and the one that commits last
overwrites the other.

Main definitions:

* `Gt06.WebhookThread` — where a delivery stands, and `Gt06.WebhookThread.step` its next statement;
* `Gt06.Race` — two deliveries over one store, and `Gt06.Race.run` their runs;
* `Gt06.Overlaps` — both deliveries have read the subscription and neither has committed.

Main results:

* `Gt06.Race.run_phase` — what holds of the deliveries along every run;
* `Gt06.race_serializable_iff` — **when the period end of a run is that of a serial one**;
* `Gt06.firstPayments_lost` — a run that loses a first payment.
-/

import Mathlib
import Gt06Server.RowLocks
import Gt06Server.MidtransLedger

set_option relaxedAutoImplicit false
set_option autoImplicit false

namespace Gt06

open RowLocks

/-! ### The tables as a store -/

/-- A row that a delivery names. -/
inductive BillingKey where
  | paymentEvent (orderId : String)
  | subscription (telegramUserId : ℤ)
  | sanction (subscriptionId : ℤ)
  deriving DecidableEq

@[reducible] def BillingKey.Row : BillingKey → Type
  | .paymentEvent _ => PaymentEvent
  | .subscription _ => Subscription
  | .sanction _ => Sanction

/-- The rows of the database, with transactions numbered by `Bool`. -/
abbrev BillingStore : Type := Store BillingKey Bool BillingKey.Row

def Database.toStore (db : Database) : BillingStore where
  committed := fun
    | .paymentEvent orderId => db.paymentEventOf orderId
    | .subscription telegramUserId => db.subscriptionOf telegramUserId
    | .sanction subscriptionId => db.sanctionOf subscriptionId
  held := fun _ => none

/-! ### One delivery -/

/-- Where a delivery stands: the statement it runs next, with what it has read. -/
inductive WebhookThread where
  | selectPaymentEvent
  | noteClosed (event : PaymentEvent)
  | writeStatus (event : PaymentEvent)
  | selectSubscription (event : PaymentEvent)
  | upsertSubscription (event : PaymentEvent) (existing : Option Subscription)
  | markPaid (event : PaymentEvent) (record : MidtransSubscriptionRecord)
  | resolveSanction (record : MidtransSubscriptionRecord)
  | commit (outcome : MidtransWebhookApplyOutcome)
  | rollback (error : SqlError)
  | finished (result : Except SqlError MidtransWebhookApplyOutcome)

/-- The statement after the order was looked up. -/
def WebhookThread.afterLookup (call : WebhookCall) : Option PaymentEvent → WebhookThread
  | none => .commit .unknownOrder
  | some event =>
      if event.paymentStatus = .paid then .commit .ignored
      else if event.paymentStatus ≠ .pending then .noteClosed event
      else if call.mappedStatus ≠ .paid then .writeStatus event
      else
        match notifiedGrossAmount call.notification with
        | none => .rollback .rowNotFound
        | some amount =>
            if amount < event.grossAmountIdr then .commit .ignored else .selectSubscription event

/-- The row of a user's first payment; `newId` is the id the insert gives it. -/
def firstSubscription (newId : ℤ) (event : PaymentEvent) (periodStart periodEnd : ℤ) :
    Subscription where
  id := newId
  telegramUserId := event.telegramUserId
  chatId := event.chatId
  planCode := event.planCode
  status := .active
  currentPeriodStartAt := some periodStart
  currentPeriodEndAt := some periodEnd

/-- The row an upsert leaves, given the row it finds. -/
def upsertedRow (newId : ℤ) (event : PaymentEvent) (period : ℤ × ℤ) :
    Option Subscription → Subscription
  | some row => row.renewed event.chatId event.planCode period.1 period.2
  | none => firstSubscription newId event period.1 period.2

theorem currentPeriodEndAt_upsertedRow (newId : ℤ) (event : PaymentEvent) (period : ℤ × ℤ)
    (existing : Option Subscription) :
    (upsertedRow newId event period existing).currentPeriodEndAt = some period.2 := by
  cases existing with
  | none => rfl
  | some row => rfl

/-- What the upsert returns to the delivery. -/
def Subscription.record (row : Subscription) (planCode : String) : MidtransSubscriptionRecord where
  id := row.id
  telegramUserId := row.telegramUserId
  chatId := row.chatId
  planCode := planCode
  currentPeriodEndAt := row.currentPeriodEndAt

/-- The next statement of a delivery, if it does not have to wait. -/
def WebhookThread.step (call : WebhookCall) (newId : ℤ) (t : Bool) (store : BillingStore) :
    WebhookThread → Option (WebhookThread × BillingStore)
  | .selectPaymentEvent => do
      let (found, store) ← store.selectForUpdate t (.paymentEvent call.notification.orderId)
      return (afterLookup call found, store)
  | .noteClosed event => do
      let store ← store.update t (.paymentEvent event.providerOrderId)
        fun e : PaymentEvent => e.noted call.notification
      return (.commit .ignored, store)
  | .writeStatus event => do
      let store ← store.update t (.paymentEvent event.providerOrderId)
        fun e : PaymentEvent => e.closed call.notification call.mappedStatus.paymentStatus
      return (.commit .ignored, store)
  | .selectSubscription event => do
      let (existing, store) ← store.selectForUpdate t (.subscription event.telegramUserId)
      return (.upsertSubscription event existing, store)
  | .upsertSubscription event existing => do
      let period := nextPeriod existing call.receivedAt event.periodDays
      let (row, store) ← store.upsert t (.subscription event.telegramUserId)
        (upsertedRow newId event period)
      return (.markPaid event (Subscription.record row event.planCode), store)
  | .markPaid event record => do
      let store ← store.update t (.paymentEvent event.providerOrderId)
        fun e : PaymentEvent => e.settled call.notification record.id call.receivedAt
      return (.resolveSanction record, store)
  | .resolveSanction record => do
      let store ← store.update t (.sanction record.id) fun row : Sanction => row.resolved call.now
      return (.commit (.paid record), store)
  | .commit outcome => some (.finished (.ok outcome), store.commit t)
  | .rollback error => some (.finished (.error error), store.rollback t)
  | .finished _ => none

/-- The result of a delivery that is over. -/
def WebhookThread.result :
    WebhookThread → Option (Except SqlError MidtransWebhookApplyOutcome)
  | .finished result => some result
  | _ => none

/-! ### Two deliveries -/

/-- Two deliveries over one store. -/
structure Race where
  store : BillingStore
  threads : Bool → WebhookThread

namespace Race

/-- Both deliveries are about to begin. -/
def start (db : Database) : Race where
  store := db.toStore
  threads := fun _ => .selectPaymentEvent

/-- The deliveries after a statement of `t`. -/
def advance (race : Race) (t : Bool) (thread : WebhookThread) (store : BillingStore) : Race where
  store := store
  threads := Function.update race.threads t thread

@[simp] theorem store_advance (race : Race) (t : Bool) (thread : WebhookThread)
    (store : BillingStore) : (race.advance t thread store).store = store := rfl

@[simp] theorem threads_advance_self (race : Race) (t : Bool) (thread : WebhookThread)
    (store : BillingStore) : (race.advance t thread store).threads t = thread :=
  Function.update_self ..

theorem threads_advance_of_ne (race : Race) {t u : Bool} (h : u ≠ t) (thread : WebhookThread)
    (store : BillingStore) : (race.advance t thread store).threads u = race.threads u :=
  Function.update_of_ne h ..

section Run

variable (calls : Bool → WebhookCall) (newId : Bool → ℤ)

/-- The next statement of the delivery `t`. -/
def step (race : Race) (t : Bool) : Option Race := do
  let (thread, store) ← (race.threads t).step (calls t) (newId t) t race.store
  return race.advance t thread store

/-- The statements in the order the schedule names their deliveries. -/
def run (race : Race) : List Bool → Option Race
  | [] => some race
  | t :: schedule => (race.step calls newId t).bind fun race => race.run schedule

theorem run_concat (race : Race) (schedule : List Bool) (t : Bool) :
    race.run calls newId (schedule ++ [t]) =
      (race.run calls newId schedule).bind fun race => race.step calls newId t := by
  induction schedule generalizing race with
  | nil => simp [run]
  | cons u schedule ih =>
      rw [List.cons_append, run, run]
      cases race.step calls newId u with
      | none => rfl
      | some race' => exact ih race'

end Run

/-- The committed period end of a user. -/
def periodEndOf (race : Race) (telegramUserId : ℤ) : Option ℤ :=
  (race.store.committed (.subscription telegramUserId)).bind Subscription.currentPeriodEndAt

/-- The delivery has committed or rolled back. -/
def Done (race : Race) (t : Bool) : Prop := ∃ result, race.threads t = .finished result

theorem done_iff (race : Race) (t : Bool) :
    race.Done t ↔ (race.threads t).result.isSome = true := by
  rw [Done]
  cases race.threads t <;> simp [WebhookThread.result]

instance (race : Race) (t : Bool) : Decidable (race.Done t) :=
  decidable_of_iff _ (race.done_iff t).symm

end Race

/-- At some moment both deliveries have read the subscription, which is their second statement, and
neither has committed, which is their sixth. -/
def Overlaps (schedule : List Bool) : Prop :=
  ∃ pre, pre <+: schedule ∧ ∀ t, 2 ≤ pre.count t ∧ pre.count t < 6

theorem overlaps_concat (schedule : List Bool) (t : Bool) :
    Overlaps (schedule ++ [t]) ↔ Overlaps schedule ∨
      ∀ u, 2 ≤ (schedule ++ [t]).count u ∧ (schedule ++ [t]).count u < 6 := by
  constructor
  · rintro ⟨pre, hpre, hcount⟩
    rcases List.prefix_concat_iff.1 hpre with rfl | hpre
    · exact Or.inr hcount
    · exact Or.inl ⟨pre, hpre, hcount⟩
  · rintro (⟨pre, hpre, hcount⟩ | hcount)
    · exact ⟨pre, hpre.trans (List.prefix_append ..), hcount⟩
    · exact ⟨_, List.prefix_rfl, hcount⟩

/-- Deliveries that overlap have both read the subscription. -/
theorem Overlaps.two_le_count {schedule : List Bool} (h : Overlaps schedule) (t : Bool) :
    2 ≤ schedule.count t := by
  obtain ⟨pre, hpre, hcount⟩ := h
  exact (hcount t).1.trans (hpre.sublist.count_le t)

/-! ### Two sufficient payments -/

/-- The deliveries bring sufficient payments for two pending orders of one user. -/
structure TwoPayments (db : Database) (user : ℤ) (calls : Bool → WebhookCall)
    (events : Bool → PaymentEvent) : Prop where
  found : ∀ t, db.paymentEventOf (calls t).notification.orderId = some (events t)
  orders : ∀ t, (calls (!t)).notification.orderId ≠ (calls t).notification.orderId
  user : ∀ t, (events t).telegramUserId = user
  pending : ∀ t, (events t).paymentStatus = .pending
  sufficient : ∀ t, IsSufficient (events t).grossAmountIdr (calls t)
  succeeds : ∀ t, (calls t).Succeeds

section Race

variable {db : Database} {user : ℤ} {calls : Bool → WebhookCall} {newId : Bool → ℤ}
  {events : Bool → PaymentEvent}

/-- The period end a delivery writes after it has read a row. -/
def writtenEnd (calls : Bool → WebhookCall) (events : Bool → PaymentEvent) (t : Bool)
    (read : Option Subscription) : ℤ :=
  extendPeriod (read.bind Subscription.currentPeriodEndAt) (calls t).receivedAt
    (events t).periodDays

/-- The delivery holds the user's row with the period end it has computed. -/
def HoldsWritten (calls : Bool → WebhookCall) (events : Bool → PaymentEvent) (user : ℤ)
    (store : BillingStore) (t : Bool) (read : Option Subscription) : Prop :=
  ∃ row : Subscription, store.held (.subscription user) = some (t, row) ∧
    row.currentPeriodEndAt = some (writtenEnd calls events t read)

/-- The delivery does not hold the user's row. -/
def HoldsNothing (user : ℤ) (store : BillingStore) (t : Bool) : Prop :=
  ∀ row, store.held (.subscription user) ≠ some (t, row)

/-- Where a delivery stands after some of its statements, the second of which read `read`. -/
inductive StandsAt (calls : Bool → WebhookCall) (events : Bool → PaymentEvent) (user : ℤ)
    (store : BillingStore) (t : Bool) (read : Option Subscription) : ℕ → WebhookThread → Prop where
  | selectPaymentEvent
      (hevent : store.committed (.paymentEvent (calls t).notification.orderId) = some (events t))
      (hfree : store.held (.paymentEvent (calls t).notification.orderId) = none)
      (hnothing : HoldsNothing user store t) :
      StandsAt calls events user store t read 0 .selectPaymentEvent
  | selectSubscription (hnothing : HoldsNothing user store t) :
      StandsAt calls events user store t read 1 (.selectSubscription (events t))
  | upsertSubscription
      (hlocked : read ≠ none → ∃ row, store.held (.subscription user) = some (t, row)) :
      StandsAt calls events user store t read 2 (.upsertSubscription (events t) read)
  | markPaid (record : MidtransSubscriptionRecord)
      (hwritten : HoldsWritten calls events user store t read) :
      StandsAt calls events user store t read 3 (.markPaid (events t) record)
  | resolveSanction (record : MidtransSubscriptionRecord)
      (hwritten : HoldsWritten calls events user store t read) :
      StandsAt calls events user store t read 4 (.resolveSanction record)
  | commit (outcome : MidtransWebhookApplyOutcome)
      (hwritten : HoldsWritten calls events user store t read) :
      StandsAt calls events user store t read 5 (.commit outcome)

/-- What the statements of the other delivery leave alone. -/
structure LeavesAlone (calls : Bool → WebhookCall) (store store' : BillingStore) (t : Bool) :
    Prop where
  event : store.held (.paymentEvent (calls t).notification.orderId) = none →
    store'.held (.paymentEvent (calls t).notification.orderId) = none ∧
      store'.committed (.paymentEvent (calls t).notification.orderId) =
        store.committed (.paymentEvent (calls t).notification.orderId)
  held : ∀ user (row : Subscription), store'.held (.subscription user) = some (t, row) ↔
    store.held (.subscription user) = some (t, row)

theorem StandsAt.kept {store store' : BillingStore} {t : Bool} {read : Option Subscription}
    {n : ℕ} {thread : WebhookThread}
    (h : StandsAt calls events user store t read n thread)
    (hkept : LeavesAlone calls store store' t) :
    StandsAt calls events user store' t read n thread := by
  have hnothing : HoldsNothing user store t → HoldsNothing user store' t := by
    intro hnothing row hheld
    exact hnothing row ((hkept.held user row).1 hheld)
  have hwritten : HoldsWritten calls events user store t read →
      HoldsWritten calls events user store' t read := by
    rintro ⟨row, hheld, hend⟩
    exact ⟨row, (hkept.held user row).2 hheld, hend⟩
  cases h with
  | selectPaymentEvent hevent hfree hfresh =>
      obtain ⟨hfree', hcommitted⟩ := hkept.event hfree
      exact .selectPaymentEvent (hcommitted.trans hevent) hfree' (hnothing hfresh)
  | selectSubscription hfresh => exact .selectSubscription (hnothing hfresh)
  | upsertSubscription hlocked =>
      refine .upsertSubscription ?_
      intro hread
      obtain ⟨row, hheld⟩ := hlocked hread
      exact ⟨row, (hkept.held user row).2 hheld⟩
  | markPaid record hheld => exact .markPaid record (hwritten hheld)
  | resolveSanction record hheld => exact .resolveSanction record (hwritten hheld)
  | commit outcome hheld => exact .commit outcome (hwritten hheld)

theorem leavesAlone_of_writes {store store' : BillingStore} {t : Bool} {k : BillingKey}
    (h : Store.Writes store (!t) k store') (hk : .paymentEvent (calls t).notification.orderId ≠ k) :
    LeavesAlone calls store store' t := by
  refine ⟨?_, ?_⟩
  · intro hfree
    exact ⟨(h.held_of_ne _ hk).trans hfree, by rw [h.committed]⟩
  · intro user row
    exact h.held_iff t (.subscription user) row (by cases t <;> simp)

theorem leavesAlone_of_commit (store : BillingStore) (t : Bool) :
    LeavesAlone calls store (store.commit (!t)) t := by
  refine ⟨?_, ?_⟩
  · intro hfree
    refine ⟨?_, ?_⟩
    · simp only [Store.commit, hfree, Option.filter_none]
    · exact Store.committed_commit_of_ne (by simp [hfree])
  · intro user row
    exact Store.held_commit_of_ne (by cases t <;> simp)

/-- The order of a sufficient payment is found pending, so the subscription is read next. -/
theorem afterLookup_eq (hpayments : TwoPayments db user calls events) (t : Bool) :
    WebhookThread.afterLookup (calls t) (some (events t)) = .selectSubscription (events t) := by
  obtain ⟨hmapped, amount, hamount, henough⟩ := hpayments.sufficient t
  have hamount : notifiedGrossAmount (calls t).notification = some amount := hamount
  have hpending := hpayments.pending t
  simp only [WebhookThread.afterLookup, hpending, hmapped, hamount, if_neg (not_lt.2 henough),
    reduceCtorEq, ne_eq, not_true_eq_false, if_false]

/-- What the next statement of a delivery does. -/
theorem StandsAt.step (hpayments : TwoPayments db user calls events) {store store' : BillingStore}
    {t : Bool} {read : Option Subscription} {n : ℕ} {thread thread' : WebhookThread}
    (h : StandsAt calls events user store t read n thread)
    (hstep : thread.step (calls t) (newId t) t store = some (thread', store')) :
    (∃ read', StandsAt calls events user store' t read' (n + 1) thread' ∧
        (n = 1 → read' = store.view t (.subscription user)) ∧ (n ≠ 1 → read' = read) ∧
        store'.committed = store.committed ∧ LeavesAlone calls store store' (!t)) ∨
      (n = 5 ∧ (∃ result, thread' = .finished result) ∧ store' = store.commit t ∧
        HoldsWritten calls events user store t read) := by
  have hother : ∀ {k : BillingKey}, Store.Writes store t k store' →
      .paymentEvent (calls (!t)).notification.orderId ≠ k →
        LeavesAlone calls store store' (!t) := by
    intro k hwrites hk
    exact leavesAlone_of_writes (by rwa [Bool.not_not]) hk
  have horder : (events t).providerOrderId = (calls t).notification.orderId :=
    (db.mem_of_paymentEventOf (hpayments.found t)).2
  have horders : BillingKey.paymentEvent (calls (!t)).notification.orderId ≠
      .paymentEvent (calls t).notification.orderId := by
    intro hkeys
    exact hpayments.orders t (BillingKey.paymentEvent.inj hkeys)
  obtain rfl := hpayments.user t
  have hkept : ∀ {k : BillingKey}, Store.Writes store t k store' →
      .subscription (events t).telegramUserId ≠ k →
      HoldsWritten calls events (events t).telegramUserId store t read →
        HoldsWritten calls events (events t).telegramUserId store' t read := by
    rintro k hwrites hk ⟨row, hheld, hend⟩
    exact ⟨row, (hwrites.held_of_ne _ hk).trans hheld, hend⟩
  cases h with
  | selectPaymentEvent hevent hfree hnothing =>
      -- the event is its own, so nobody has written it
      simp only [WebhookThread.step, Option.bind_eq_bind, Option.bind_eq_some_iff,
        Option.pure_def, Option.some_inj, Prod.mk.injEq, Prod.exists] at hstep
      obtain ⟨found, store₁, hselect, rfl, rfl⟩ := hstep
      obtain ⟨hview, hwrites, _, _⟩ := Store.selectForUpdate_eq_some hselect
      have hread : found = some (events t) := by
        rw [hview, Store.view_of_not_held (by simp [hfree])]
        exact hevent
      refine Or.inl ⟨read, ?_, by simp, fun _ => rfl, hwrites.committed, hother hwrites horders⟩
      rw [hread, afterLookup_eq hpayments]
      refine .selectSubscription ?_
      intro row hheld
      rw [hwrites.held_of_ne _ (by simp)] at hheld
      exact hnothing row hheld
  | selectSubscription hnothing =>
      -- a row is locked from here on; without one there is nothing to lock
      simp only [WebhookThread.step, Option.bind_eq_bind, Option.bind_eq_some_iff,
        Option.pure_def, Option.some_inj, Prod.mk.injEq, Prod.exists] at hstep
      obtain ⟨found, store₁, hselect, rfl, rfl⟩ := hstep
      obtain ⟨hview, hwrites, hlocked, _⟩ := Store.selectForUpdate_eq_some hselect
      refine Or.inl ⟨found, .upsertSubscription ?_, fun _ => hview, by simp, hwrites.committed,
        hother hwrites (by simp)⟩
      intro hfound
      obtain ⟨row, hrow⟩ := Option.ne_none_iff_exists'.1 hfound
      exact ⟨row, hlocked row hrow⟩
  | upsertSubscription hlocked =>
      simp only [WebhookThread.step, Option.bind_eq_bind, Option.bind_eq_some_iff,
        Option.pure_def, Option.some_inj, Prod.mk.injEq, Prod.exists] at hstep
      obtain ⟨row, store₁, hupsert, rfl, rfl⟩ := hstep
      obtain ⟨hrow, hwrites, hheld, _⟩ := Store.upsert_eq_some hupsert
      refine Or.inl ⟨read, .markPaid _ ⟨row, hheld, ?_⟩, by simp, fun _ => rfl, hwrites.committed,
        hother hwrites (by simp)⟩
      rw [hrow, currentPeriodEndAt_upsertedRow, nextPeriod_snd]
      rfl
  | markPaid record hwritten =>
      simp only [WebhookThread.step, Option.bind_eq_bind, Option.bind_eq_some_iff,
        Option.pure_def, Option.some_inj, Prod.mk.injEq] at hstep
      obtain ⟨store₁, hupdate, rfl, rfl⟩ := hstep
      have hwrites := Store.update_eq_some hupdate
      refine Or.inl ⟨read, .resolveSanction record (hkept hwrites (by simp) hwritten), by simp,
        fun _ => rfl, hwrites.committed, hother hwrites ?_⟩
      rw [horder]
      exact horders
  | resolveSanction record hwritten =>
      simp only [WebhookThread.step, Option.bind_eq_bind, Option.bind_eq_some_iff,
        Option.pure_def, Option.some_inj, Prod.mk.injEq] at hstep
      obtain ⟨store₁, hupdate, rfl, rfl⟩ := hstep
      have hwrites := Store.update_eq_some hupdate
      refine Or.inl ⟨read, .commit _ (hkept hwrites (by simp) hwritten), by simp,
        fun _ => rfl, hwrites.committed, hother hwrites (by simp)⟩
  | commit outcome hwritten =>
      simp only [WebhookThread.step, Option.some_inj, Prod.mk.injEq] at hstep
      obtain ⟨rfl, rfl⟩ := hstep
      exact Or.inr ⟨rfl, ⟨_, rfl⟩, rfl, hwritten⟩

/-! ### The phases of a run -/

/-- No delivery has committed: both have read, if at all, what was there at the start. -/
structure Running (db : Database) (user : ℤ) (calls : Bool → WebhookCall)
    (events : Bool → PaymentEvent) (race : Race) (schedule : List Bool) : Prop where
  committed : race.store.committed (.subscription user) = db.subscriptionOf user
  stands : ∀ t, StandsAt calls events user race.store t (db.subscriptionOf user)
    (schedule.count t) (race.threads t)

/-- What the delivery that did not commit first has read: what the other one wrote, or, when they
overlapped, that there is no row. -/
def ReadOf (db : Database) (user : ℤ) (schedule : List Bool) (written read : Option Subscription) :
    Prop :=
  (read = written ∧ ¬ Overlaps schedule) ∨
    (read = none ∧ db.subscriptionOf user = none ∧ Overlaps schedule)

/-- The delivery `t` has committed and the other one has not. -/
structure HalfDone (db : Database) (user : ℤ) (calls : Bool → WebhookCall)
    (events : Bool → PaymentEvent) (race : Race) (schedule : List Bool) (t : Bool) : Prop where
  count : schedule.count t = 6
  thread : race.Done t
  committed : ∃ row : Subscription, race.store.committed (.subscription user) = some row ∧
    row.currentPeriodEndAt = some (writtenEnd calls events t (db.subscriptionOf user))
  other : ∃ read, StandsAt calls events user race.store (!t) read (schedule.count (!t))
      (race.threads (!t)) ∧
    (schedule.count (!t) < 2 → ¬ Overlaps schedule) ∧
    (2 ≤ schedule.count (!t) →
      ReadOf db user schedule (race.store.committed (.subscription user)) read)

/-- Both deliveries have committed, `t` after the other. -/
structure BothDone (db : Database) (user : ℤ) (calls : Bool → WebhookCall)
    (events : Bool → PaymentEvent) (race : Race) (schedule : List Bool) (t : Bool) : Prop where
  last : schedule.getLast? = some t
  threads : ∀ u, race.Done u
  periodEnd : ∃ written read : Option Subscription,
    written.bind Subscription.currentPeriodEndAt =
        some (writtenEnd calls events (!t) (db.subscriptionOf user)) ∧
      ReadOf db user schedule written read ∧
      race.periodEndOf user = some (writtenEnd calls events t read)

/-- What holds after the statements of a schedule. -/
inductive Phase (db : Database) (user : ℤ) (calls : Bool → WebhookCall)
    (events : Bool → PaymentEvent) (race : Race) (schedule : List Bool) : Prop where
  | running (h : Running db user calls events race schedule)
  | halfDone (t : Bool) (h : HalfDone db user calls events race schedule t)
  | bothDone (t : Bool) (h : BothDone db user calls events race schedule t)

/-- A delivery that stands at one of its statements is not done. -/
theorem StandsAt.not_done {race : Race} {t : Bool} {read : Option Subscription} {n : ℕ}
    (h : StandsAt calls events user race.store t read n (race.threads t)) : ¬ race.Done t := by
  rintro ⟨result, hresult⟩
  rw [hresult] at h
  cases h

theorem StandsAt.le_five {store : BillingStore} {t : Bool} {read : Option Subscription} {n : ℕ}
    {thread : WebhookThread} (h : StandsAt calls events user store t read n thread) : n ≤ 5 := by
  cases h <;> omega

/-- A delivery that has read a row holds it. -/
theorem StandsAt.exists_held {store : BillingStore} {t : Bool} {read : Option Subscription}
    {n : ℕ} {thread : WebhookThread} (h : StandsAt calls events user store t read n thread)
    (hn : 2 ≤ n) (hread : read ≠ none) :
    ∃ row, store.held (.subscription user) = some (t, row) := by
  cases h with
  | selectPaymentEvent _ _ _ => omega
  | selectSubscription _ => omega
  | upsertSubscription hlocked => exact hlocked hread
  | markPaid _ hwritten => exact hwritten.imp fun _ h => h.1
  | resolveSanction _ hwritten => exact hwritten.imp fun _ h => h.1
  | commit _ hwritten => exact hwritten.imp fun _ h => h.1

/-- A delivery that has not read the subscription sees what is committed. -/
theorem StandsAt.view_eq {store : BillingStore} {t : Bool} {read : Option Subscription}
    {thread : WebhookThread} (h : StandsAt calls events user store t read 1 thread) :
    store.view t (.subscription user) = store.committed (.subscription user) := by
  cases h with
  | selectSubscription hnothing => exact Store.view_of_not_held hnothing

/-! ### One step of a run -/

theorem Race.step_eq_some {race race' : Race} {t : Bool}
    (h : race.step calls newId t = some race') :
    ∃ thread store, (race.threads t).step (calls t) (newId t) t race.store = some (thread, store) ∧
      race' = race.advance t thread store := by
  simp only [Race.step, Option.bind_eq_bind, Option.bind_eq_some_iff, Option.pure_def,
    Option.some_inj, Prod.exists] at h
  obtain ⟨thread, store, hstep, rfl⟩ := h
  exact ⟨thread, store, hstep, rfl⟩

/-- A delivery that is done has no next statement. -/
theorem Race.step_of_done {race : Race} {t : Bool} (h : race.Done t) :
    race.step calls newId t = none := by
  obtain ⟨result, hresult⟩ := h
  cases hstep : race.step calls newId t with
  | none => rfl
  | some race' =>
      obtain ⟨thread, store, hthread, _⟩ := Race.step_eq_some hstep
      rw [hresult] at hthread
      exact absurd hthread (by simp [WebhookThread.step])

theorem count_concat_self (schedule : List Bool) (t : Bool) :
    (schedule ++ [t]).count t = schedule.count t + 1 := by simp

theorem count_concat_of_ne (schedule : List Bool) {t u : Bool} (h : u ≠ t) :
    (schedule ++ [t]).count u = schedule.count u := by
  simp [Ne.symm h]

theorem Running.step (hpayments : TwoPayments db user calls events) {race race' : Race}
    {schedule : List Bool} {t : Bool} (h : Running db user calls events race schedule)
    (hstep : race.step calls newId t = some race') :
    Phase db user calls events race' (schedule ++ [t]) := by
  obtain ⟨thread, store, hthread, rfl⟩ := Race.step_eq_some hstep
  have hne : (!t) ≠ t := by cases t <;> simp
  have hother : ∀ u, u ≠ t → u = !t := by
    intro u hu
    cases t <;> cases u <;> simp_all
  rcases (h.stands t).step hpayments hthread with
    ⟨read', hstands, hfirst, hlater, hcommitted, hleaves⟩ | ⟨hfive, ⟨result, rfl⟩, rfl, hwritten⟩
  · -- A statement before the commit: the delivery goes one further, the other stays.
    refine .running ⟨(congrFun hcommitted _).trans h.committed, ?_⟩
    have hread : read' = db.subscriptionOf user := by
      by_cases hn : schedule.count t = 1
      · have hstands := h.stands t
        rw [hn] at hstands
        rw [hfirst hn, hstands.view_eq, h.committed]
      · exact hlater hn
    intro u
    by_cases hu : u = t
    · subst hu
      rw [count_concat_self, Race.threads_advance_self, ← hread]
      exact hstands
    · obtain rfl := hother u hu
      rw [count_concat_of_ne _ hu, Race.threads_advance_of_ne _ hu]
      exact (h.stands _).kept hleaves
  · -- The first commit.
    obtain ⟨row, hheld, hend⟩ := hwritten
    refine .halfDone t ⟨?_, ?_, ⟨row, Store.committed_commit_of_held hheld, hend⟩,
      db.subscriptionOf user, ?_, ?_, ?_⟩
    · rw [count_concat_self, hfive]
    · exact ⟨result, Race.threads_advance_self ..⟩
    · rw [count_concat_of_ne _ hne, Race.threads_advance_of_ne _ hne]
      refine (h.stands _).kept ?_
      have hleaves : LeavesAlone calls race.store (race.store.commit (!!t)) (!t) :=
        leavesAlone_of_commit race.store (!t)
      rwa [Bool.not_not] at hleaves
    · intro hcount hoverlaps
      exact absurd (hoverlaps.two_le_count (!t)) (not_le.2 hcount)
    · intro hcount
      rw [count_concat_of_ne _ hne] at hcount
      have hnone : db.subscriptionOf user = none := by
        by_contra hsome
        -- Both deliveries would hold the row.
        obtain ⟨row', hheld'⟩ := (h.stands (!t)).exists_held hcount hsome
        rw [hheld, Option.some_inj, Prod.mk.injEq] at hheld'
        exact hne hheld'.1.symm
      refine Or.inr ⟨hnone, hnone, (overlaps_concat ..).2 (Or.inl ⟨schedule, List.prefix_rfl, ?_⟩)⟩
      intro u
      have hfive' := (h.stands u).le_five
      by_cases hu : u = t
      · subst hu
        omega
      · obtain rfl := hother u hu
        omega

/-- After the first commit the deliveries overlap no more than they did. -/
theorem HalfDone.overlaps_concat {race : Race} {schedule : List Bool} {t : Bool}
    (h : HalfDone db user calls events race schedule t) :
    Overlaps (schedule ++ [!t]) ↔ Overlaps schedule := by
  rw [Gt06.overlaps_concat]
  refine or_iff_left ?_
  intro hcount
  have hsix := (hcount t).2
  rw [count_concat_of_ne _ (by cases t <;> simp), h.count] at hsix
  exact absurd hsix (lt_irrefl 6)

theorem HalfDone.step (hpayments : TwoPayments db user calls events) {race race' : Race}
    {schedule : List Bool} {t u : Bool} (h : HalfDone db user calls events race schedule t)
    (hstep : race.step calls newId u = some race') :
    Phase db user calls events race' (schedule ++ [u]) := by
  have hne : t ≠ !t := by cases t <;> simp
  by_cases hu : u = t
  · subst hu
    rw [Race.step_of_done h.thread] at hstep
    exact absurd hstep (by simp)
  obtain rfl : u = !t := by cases t <;> cases u <;> simp_all
  have hoverlaps := h.overlaps_concat
  obtain ⟨thread, store, hthread, rfl⟩ := Race.step_eq_some hstep
  obtain ⟨read, hstands, hbefore, hafter⟩ := h.other
  rcases hstands.step hpayments hthread with
    ⟨read', hstands', hfirst, hlater, hcommitted, hleaves⟩ | ⟨hfive, ⟨result, rfl⟩, rfl, hwritten⟩
  · obtain ⟨row, hrow, hend⟩ := h.committed
    obtain ⟨result, hresult⟩ := h.thread
    have hcommittedRow := congrFun hcommitted (.subscription user)
    refine .halfDone t ⟨?_, ⟨result, ?_⟩, ⟨row, hcommittedRow.trans hrow, hend⟩, read', ?_, ?_, ?_⟩
    · rw [count_concat_of_ne _ hne, h.count]
    · exact (Race.threads_advance_of_ne _ hne ..).trans hresult
    · rw [count_concat_self, Race.threads_advance_self]
      exact hstands'
    · intro hcount hover
      exact absurd (hover.two_le_count (!t)) (not_le.2 hcount)
    · intro hcount
      rw [count_concat_self] at hcount
      rw [ReadOf, hoverlaps, Race.store_advance, hcommittedRow]
      by_cases hn : schedule.count (!t) = 1
      · -- It reads the subscription now, after the commit of the other one.
        refine Or.inl ⟨?_, hbefore (by omega)⟩
        rw [hn] at hstands
        rw [hfirst hn, hstands.view_eq]
      · rw [hlater hn]
        exact hafter (by omega)
  · obtain ⟨row, hheld, hend⟩ := hwritten
    obtain ⟨written, hrow, hwrittenEnd⟩ := h.committed
    obtain ⟨result', hresult⟩ := h.thread
    refine .bothDone (!t) ⟨by simp, ?_, some written, read, ?_, ?_, ?_⟩
    · intro v
      by_cases hv : v = t
      · subst hv
        exact ⟨result', (Race.threads_advance_of_ne _ hne ..).trans hresult⟩
      · obtain rfl : v = !t := by cases t <;> cases v <;> simp_all
        exact ⟨result, Race.threads_advance_self ..⟩
    · rw [Bool.not_not]
      exact hwrittenEnd
    · have hread := hafter (by omega)
      rw [hrow] at hread
      rw [ReadOf, hoverlaps]
      exact hread
    · rw [Race.periodEndOf]
      exact (congrArg (fun r : Option Subscription => r.bind Subscription.currentPeriodEndAt)
        (Store.committed_commit_of_held hheld)).trans hend

/-- Every statement leads from a phase to a phase. -/
theorem Phase.step (hpayments : TwoPayments db user calls events) {race race' : Race}
    {schedule : List Bool} {t : Bool} (h : Phase db user calls events race schedule)
    (hstep : race.step calls newId t = some race') :
    Phase db user calls events race' (schedule ++ [t]) := by
  cases h with
  | running h => exact h.step hpayments hstep
  | halfDone u h => exact h.step hpayments hstep
  | bothDone u h =>
      rw [Race.step_of_done (h.threads t)] at hstep
      exact absurd hstep (by simp)

theorem Phase.start (hpayments : TwoPayments db user calls events) :
    Phase db user calls events (Race.start db) [] :=
  .running ⟨rfl, fun t => .selectPaymentEvent (hpayments.found t) rfl fun _ => by
    simp [Race.start, Database.toStore]⟩

/-- What holds along every run. -/
theorem Race.run_phase (hpayments : TwoPayments db user calls events) {schedule : List Bool}
    {race : Race} (hrun : (Race.start db).run calls newId schedule = some race) :
    Phase db user calls events race schedule := by
  induction schedule using List.reverseRecOn generalizing race with
  | nil =>
      obtain rfl : Race.start db = race := Option.some_inj.1 hrun
      exact Phase.start hpayments
  | append_singleton schedule t ih =>
      rw [Race.run_concat, Option.bind_eq_some_iff] at hrun
      obtain ⟨before, hbefore, hstep⟩ := hrun
      exact (ih hbefore).step hpayments hstep

/-! ### The serial runs -/

/-- The period end after the deliveries `t` and then the other one, each on its own. -/
def serialEnd (db : Database) (user : ℤ) (calls : Bool → WebhookCall) (t : Bool) : Option ℤ :=
  (db.deliver [calls t, calls (!t)]).periodEndOf user

theorem serialEnd_eq (hpayments : TwoPayments db user calls events) (t : Bool) :
    serialEnd db user calls t =
      some (extendPeriod (some (writtenEnd calls events t (db.subscriptionOf user)))
        (calls (!t)).receivedAt (events (!t)).periodDays) := by
  have hfirst := applyMidtransWebhook_of_isSufficient (hpayments.found t) (hpayments.pending t)
    (hpayments.succeeds t) (hpayments.sufficient t)
  have hfound : (db.credited (calls t) (events t)).paymentEventOf
      (calls (!t)).notification.orderId = some (events (!t)) := by
    rw [paymentEventOf_credited (hpayments.found t), if_neg (hpayments.orders t)]
    exact hpayments.found _
  have hsecond := applyMidtransWebhook_of_isSufficient hfound (hpayments.pending _)
    (hpayments.succeeds _) (hpayments.sufficient _)
  rw [serialEnd, Database.deliver, Database.deliver, Database.deliver, hfirst, hsecond,
    periodEndOf_credited, if_pos (hpayments.user _).symm, periodEndOf_credited,
    if_pos (hpayments.user _).symm]
  rfl

/-- **When the period end of a run is that of a serial one**: the user had a row, or one delivery
read it after the other had committed, or the period of the first payment was over when the second
was received. -/
theorem race_serializable_iff (hpayments : TwoPayments db user calls events)
    {schedule : List Bool} {last : Bool} {race : Race}
    (hrun : (Race.start db).run calls newId (schedule ++ [last]) = some race)
    (hdone : ∀ t, race.Done t) :
    (∃ t, race.periodEndOf user = serialEnd db user calls t) ↔
      db.subscriptionOf user ≠ none ∨ ¬ Overlaps (schedule ++ [last]) ∨
        (calls (!last)).receivedAt + days (events (!last)).periodDays ≤
          (calls last).receivedAt := by
  cases Race.run_phase hpayments hrun with
  | running h => exact absurd (hdone last) (h.stands last).not_done
  | halfDone t h =>
      obtain ⟨read, hstands, _⟩ := h.other
      exact absurd (hdone _) hstands.not_done
  | bothDone t h =>
      obtain rfl : last = t := by simpa using h.last
      obtain ⟨written, read, hwritten, hread, hend⟩ := h.periodEnd
      rcases hread with ⟨rfl, hserial⟩ | ⟨rfl, hnone, hoverlaps⟩
      · -- The last delivery has read what the other one wrote.
        refine ⟨fun _ => Or.inr (Or.inl hserial), fun _ => ⟨!last, ?_⟩⟩
        rw [hend, serialEnd_eq hpayments, Bool.not_not, writtenEnd, hwritten]
      · -- Both have read that there is no row.
        have hlast : race.periodEndOf user =
            some ((calls last).receivedAt + days (events last).periodDays) := hend
        have hserial : ∀ t, serialEnd db user calls t =
            some ((if (calls (!t)).receivedAt < (calls t).receivedAt + days (events t).periodDays
              then (calls t).receivedAt + days (events t).periodDays
              else (calls (!t)).receivedAt) + days (events (!t)).periodDays) := by
          intro t
          rw [serialEnd_eq hpayments, hnone]
          rfl
        have hpos := fun t => days_pos (events t).periodDays_pos
        constructor
        · rintro ⟨t, ht⟩
          refine Or.inr (Or.inr ?_)
          rw [hlast, hserial, Option.some_inj] at ht
          have hposLast := hpos last
          have hposOther := hpos (!last)
          by_cases htlast : t = last
          · subst htlast
            split at ht <;> omega
          · obtain rfl : t = !last := by cases t <;> cases last <;> simp_all
            rw [Bool.not_not] at ht
            split at ht <;> omega
        · rintro (hsome | hserial' | hlate)
          · exact absurd hnone hsome
          · exact absurd hoverlaps hserial'
          · refine ⟨!last, ?_⟩
            rw [hlast, hserial, Bool.not_not, if_neg (not_lt.2 hlate)]

end Race

/-! ### Two first payments -/

/-- A second order of the user of `pendingEvent`. -/
def secondEvent : PaymentEvent :=
  { pendingEvent with
    id := 2
    providerOrderId := "hb-12345-1777111201000" }

/-- Both orders are pending and the user has no subscription yet. -/
def twoOrders : Database where
  paymentEvents := [pendingEvent, secondEvent]
  subscriptions := []
  sanctions := []
  lastSubscriptionId := 0
  paymentEvents_id := by decide
  paymentEvents_providerOrderId := by decide
  subscriptions_id := List.nodup_nil
  subscriptions_telegramUserId := List.nodup_nil
  subscriptions_id_le := subscriptions_id_le_nil
  sanctions_subscriptionId := List.nodup_nil

def twoEvents : Bool → PaymentEvent
  | false => pendingEvent
  | true => secondEvent

def twoCalls : Bool → WebhookCall
  | false => settledCall
  | true =>
      { settledCall with
        notification := { settledNotification with orderId := "hb-12345-1777111201000" } }

def newIds : Bool → ℤ
  | false => 1
  | true => 2

theorem twoPayments : TwoPayments twoOrders 12345 twoCalls twoEvents where
  found := by decide +kernel
  orders := by decide +kernel
  user := by decide
  pending := by decide
  sufficient := by decide +kernel
  succeeds := fun t _ => by cases t <;> rfl

/-- Both deliveries look for the subscription before either inserts it; the last commit is left
out. -/
def bothReadFirst : List Bool :=
  [false, false, true, true, false, false, false, false, true, true, true]

theorem run_bothReadFirst :
    ∃ race, (Race.start twoOrders).run twoCalls newIds (bothReadFirst ++ [true]) = some race ∧
      (∀ t, race.Done t) ∧
      race.periodEndOf 12345 = some (1777111320000000 + days 30) := by
  have hrun : ((Race.start twoOrders).run twoCalls newIds (bothReadFirst ++ [true])).any
      (fun race => (∀ t, race.Done t) ∧
        race.periodEndOf 12345 = some (1777111320000000 + days 30)) = true := by
    decide +kernel
  obtain ⟨race, hrun, hrace⟩ := (Option.any_eq_true _ _).1 hrun
  exact ⟨race, hrun, by simpa using hrace⟩

/-- One of two first payments is lost: the period ends thirty days after it began, and sixty in
either serial run. -/
theorem firstPayments_lost :
    ∃ race, (Race.start twoOrders).run twoCalls newIds (bothReadFirst ++ [true]) = some race ∧
      (∀ t, race.Done t) ∧
      ¬ ∃ t, race.periodEndOf 12345 = serialEnd twoOrders 12345 twoCalls t := by
  obtain ⟨race, hrun, hdone, hend⟩ := run_bothReadFirst
  refine ⟨race, hrun, hdone, ?_⟩
  rw [hend]
  decide +kernel

theorem race_serializable_iff_bothReadFirst :
    ∃ race, (Race.start twoOrders).run twoCalls newIds (bothReadFirst ++ [true]) = some race ∧
      ((∃ t, race.periodEndOf 12345 = serialEnd twoOrders 12345 twoCalls t) ↔
        twoOrders.subscriptionOf 12345 ≠ none ∨ ¬ Overlaps (bothReadFirst ++ [true]) ∨
          (twoCalls false).receivedAt + days (twoEvents false).periodDays ≤
            (twoCalls true).receivedAt) := by
  obtain ⟨race, hrun, hdone, _⟩ := run_bothReadFirst
  exact ⟨race, hrun, race_serializable_iff twoPayments hrun hdone⟩

end Gt06
