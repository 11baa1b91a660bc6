/-
**The payment webhook.**

`apply_midtrans_webhook` settles one notification of the payment provider in one transaction: it
looks the order up, closes it or credits the user's subscription, and lifts the sanction of a user
who paid.  A statement that fails takes every write of the transaction back.  What one call can do
is said once, by the cases of `Gt06.WebhookStep`.

Main definitions:

* `Gt06.mapMidtransStatus` — the status a transaction status stands for;
* `Gt06.nextPeriod` — the paid period after one more payment;
* `Gt06.applyMidtransWebhook` — one call;
* `Gt06.WebhookStep` — what a call can do.

Main results:

* `Gt06.applyMidtransWebhook_step` — every call is one of the cases.
-/

import Mathlib
import Gt06Server.Binary64
import Gt06Server.Billing

set_option relaxedAutoImplicit false
set_option autoImplicit false

namespace Gt06

/-! ### Statuses -/

inductive MidtransPaymentStatus where
  | pending
  | paid
  | expired
  | failed
  | refunded
  deriving DecidableEq, Repr

def mapMidtransStatus (transactionStatus : String) : Option MidtransPaymentStatus :=
  if transactionStatus = "settlement" ∨ transactionStatus = "capture" then some .paid
  else if transactionStatus = "pending" then some .pending
  else if transactionStatus = "expire" then some .expired
  else if transactionStatus = "deny" ∨ transactionStatus = "cancel" ∨
      transactionStatus = "failure" then some .failed
  else if transactionStatus = "refund" ∨ transactionStatus = "partial_refund" then some .refunded
  else none

/-- The `new_status` of a call: the column value of a mapped status. -/
def MidtransPaymentStatus.paymentStatus : MidtransPaymentStatus → PaymentStatus
  | .pending => .pending
  | .paid => .paid
  | .expired => .expired
  | .failed => .failed
  | .refunded => .refunded

/-- The amount of a notification in rupiah: the text as an `f64`, rounded. -/
def notifiedGrossAmount (notification : MidtransWebhookNotification) : Option ℤ :=
  (Binary64.parse notification.grossAmount.toList).map fun value => value.round.toI64

/-! ### Periods -/

/-- The period written for a payment received at `receivedAt`: a running period is extended, and
any other starts anew. -/
def nextPeriod (existing : Option Subscription) (receivedAt periodDays : ℤ) : ℤ × ℤ :=
  match existing with
  | some row =>
      match row.currentPeriodEndAt with
      | some periodEnd =>
          if receivedAt < periodEnd then
            (row.currentPeriodStartAt.getD receivedAt, periodEnd + days periodDays)
          else (receivedAt, receivedAt + days periodDays)
      | none => (receivedAt, receivedAt + days periodDays)
  | none => (receivedAt, receivedAt + days periodDays)

/-- The period end after a payment, from the one before it. -/
def extendPeriod (periodEnd : Option ℤ) (receivedAt periodDays : ℤ) : ℤ :=
  match periodEnd with
  | some periodEnd =>
      (if receivedAt < periodEnd then periodEnd else receivedAt) + days periodDays
  | none => receivedAt + days periodDays

theorem nextPeriod_snd (existing : Option Subscription) (receivedAt periodDays : ℤ) :
    (nextPeriod existing receivedAt periodDays).2 =
      extendPeriod (existing.bind Subscription.currentPeriodEndAt) receivedAt periodDays := by
  cases existing with
  | none => rfl
  | some row =>
      simp only [nextPeriod, Option.bind_some]
      cases row.currentPeriodEndAt with
      | none => rfl
      | some periodEnd =>
          simp only [extendPeriod]
          split
          · rfl
          · rfl

/-- A payment moves the period end forward. -/
theorem lt_extendPeriod {periodEnd receivedAt periodDays : ℤ} (hdays : 0 < periodDays) :
    periodEnd < extendPeriod (some periodEnd) receivedAt periodDays := by
  have hpos := days_pos hdays
  simp only [extendPeriod]
  split <;> omega

/-! ### Writes of a call -/

/-- What every update of a call records of the notification. -/
def PaymentEvent.noted (event : PaymentEvent) (notification : MidtransWebhookNotification) :
    PaymentEvent :=
  { event with
    providerTransactionId := notification.transactionId.or event.providerTransactionId
    paymentType := notification.paymentType.or event.paymentType
    rawWebhookNotification := some notification }

/-- An event that the notification gives the status. -/
def PaymentEvent.closed (event : PaymentEvent) (notification : MidtransWebhookNotification)
    (status : PaymentStatus) : PaymentEvent :=
  { event.noted notification with paymentStatus := status }

/-- An event that the notification paid. -/
def PaymentEvent.settled (event : PaymentEvent) (notification : MidtransWebhookNotification)
    (subscriptionId receivedAt : ℤ) : PaymentEvent :=
  { event.noted notification with
    subscriptionId := some subscriptionId
    paymentStatus := .paid
    paidAt := some receivedAt }

section Keys

variable (notification : MidtransWebhookNotification) (event : PaymentEvent)

@[simp] theorem PaymentEvent.id_noted : (event.noted notification).id = event.id := rfl

@[simp] theorem PaymentEvent.providerOrderId_noted :
    (event.noted notification).providerOrderId = event.providerOrderId := rfl

@[simp] theorem PaymentEvent.id_closed (status : PaymentStatus) :
    (event.closed notification status).id = event.id := rfl

@[simp] theorem PaymentEvent.providerOrderId_closed (status : PaymentStatus) :
    (event.closed notification status).providerOrderId = event.providerOrderId := rfl

@[simp] theorem PaymentEvent.id_settled (subscriptionId receivedAt : ℤ) :
    (event.settled notification subscriptionId receivedAt).id = event.id := rfl

@[simp] theorem PaymentEvent.providerOrderId_settled (subscriptionId receivedAt : ℤ) :
    (event.settled notification subscriptionId receivedAt).providerOrderId =
      event.providerOrderId := rfl

end Keys

/-! ### One call -/

/-- The statements of the transaction, each of which may fail. -/
inductive WebhookStatement where
  | beginTransaction
  | selectPaymentEvent
  | updatePaymentEvent
  | selectSubscription
  | upsertSubscription
  | resolveSanction
  | commit
  deriving DecidableEq, Repr

inductive SqlError where
  | rowNotFound
  | statement (failed : WebhookStatement)
  deriving DecidableEq, Repr

/-- What the caller learns of the subscription it paid for. -/
structure MidtransSubscriptionRecord where
  id : ℤ
  telegramUserId : ℤ
  chatId : ℤ
  planCode : String
  currentPeriodEndAt : Option ℤ
  deriving DecidableEq, Repr

inductive MidtransWebhookApplyOutcome where
  | paid (subscription : MidtransSubscriptionRecord)
  | ignored
  | unknownOrder
  deriving DecidableEq, Repr

/-- A call of the webhook: its arguments, the time `now` of the transaction, and which of its
statements fail. -/
structure WebhookCall where
  notification : MidtransWebhookNotification
  mappedStatus : MidtransPaymentStatus
  receivedAt : ℤ
  now : ℤ
  fails : WebhookStatement → Bool := fun _ => false

namespace WebhookCall

/-- No statement of the call fails. -/
def Succeeds (call : WebhookCall) : Prop := ∀ statement, call.fails statement = false

/-- A statement of the transaction that writes `f`. -/
def execute (call : WebhookCall) (statement : WebhookStatement) (f : Database → Database) :
    StateT Database (Except SqlError) Unit :=
  if call.fails statement then throw (.statement statement) else modify f

/-- A statement of the transaction that reads `f`. -/
def fetch {α : Type} (call : WebhookCall) (statement : WebhookStatement) (f : Database → α) :
    StateT Database (Except SqlError) α :=
  if call.fails statement then throw (.statement statement) else return f (← get)

/-- `COMMIT` and the answer to the caller. -/
def commit (call : WebhookCall) (outcome : MidtransWebhookApplyOutcome) :
    StateT Database (Except SqlError) MidtransWebhookApplyOutcome := do
  call.execute .commit id
  return outcome

/-- An update of the event that keeps its keys. -/
def update (call : WebhookCall) (event : PaymentEvent) (f : PaymentEvent → PaymentEvent)
    (hid : ∀ e, (f e).id = e.id) (horder : ∀ e, (f e).providerOrderId = e.providerOrderId) :
    StateT Database (Except SqlError) Unit :=
  call.execute .updatePaymentEvent fun db => db.updatePaymentEvent event.id f hid horder

/-- The statements after the amount was found sufficient. -/
def credit (call : WebhookCall) (event : PaymentEvent) :
    StateT Database (Except SqlError) MidtransWebhookApplyOutcome := do
  let existing ← call.fetch .selectSubscription fun db => db.subscriptionOf event.telegramUserId
  let (periodStart, periodEnd) := nextPeriod existing call.receivedAt event.periodDays
  let row ← call.fetch .upsertSubscription fun db =>
    db.upsertedSubscription event.telegramUserId event.chatId event.planCode periodStart periodEnd
  modify fun db =>
    db.upsertSubscription event.telegramUserId event.chatId event.planCode periodStart periodEnd
  let subscription : MidtransSubscriptionRecord :=
    { id := row.id
      telegramUserId := row.telegramUserId
      chatId := row.chatId
      planCode := event.planCode
      currentPeriodEndAt := row.currentPeriodEndAt }
  call.update event (fun e => e.settled call.notification subscription.id call.receivedAt)
    (fun e => e.id_settled _ _ _) fun e => e.providerOrderId_settled _ _ _
  call.execute .resolveSanction fun db => db.resolveSubscriptionSanction subscription.id call.now
  call.commit (.paid subscription)

/-- The statements after the order was looked up. -/
def settle (call : WebhookCall) :
    Option PaymentEvent → StateT Database (Except SqlError) MidtransWebhookApplyOutcome
  | none => call.commit .unknownOrder
  | some event => do
      if event.paymentStatus = .paid then call.commit .ignored
      else if event.paymentStatus ≠ .pending then
        call.update event (fun e => e.noted call.notification) (fun e => e.id_noted _)
          fun e => e.providerOrderId_noted _
        call.commit .ignored
      else if call.mappedStatus ≠ .paid then
        call.update event (fun e => e.closed call.notification call.mappedStatus.paymentStatus)
          (fun e => e.id_closed _ _) fun e => e.providerOrderId_closed _ _
        call.commit .ignored
      else
        match notifiedGrossAmount call.notification with
        | none => throw .rowNotFound
        | some amount =>
            if amount < event.grossAmountIdr then call.commit .ignored
            else call.credit event

/-- The statements of the transaction. -/
def statements (call : WebhookCall) :
    StateT Database (Except SqlError) MidtransWebhookApplyOutcome := do
  call.execute .beginTransaction id
  let found ← call.fetch .selectPaymentEvent fun db =>
    db.paymentEventOf call.notification.orderId
  call.settle found

end WebhookCall

/-- `apply_midtrans_webhook`: a transaction that does not commit leaves the database alone. -/
def applyMidtransWebhook (db : Database) (call : WebhookCall) :
    Except SqlError MidtransWebhookApplyOutcome × Database :=
  match call.statements db with
  | .ok (outcome, db') => (.ok outcome, db')
  | .error error => (.error error, db)

/-! ### What a call can do -/

/-- The database after a call that credits `event`. -/
def Database.credited (db : Database) (call : WebhookCall) (event : PaymentEvent) : Database :=
  let (periodStart, periodEnd) :=
    nextPeriod (db.subscriptionOf event.telegramUserId) call.receivedAt event.periodDays
  let row := db.upsertedSubscription event.telegramUserId event.chatId event.planCode periodStart
    periodEnd
  ((db.upsertSubscription event.telegramUserId event.chatId event.planCode periodStart
        periodEnd).updatePaymentEvent event.id
      (fun e => e.settled call.notification row.id call.receivedAt)
      (fun e => e.id_settled _ _ _)
      fun e => e.providerOrderId_settled _ _ _).resolveSubscriptionSanction row.id call.now

/-- The answer of a call that credits `event`. -/
def Database.creditRecord (db : Database) (call : WebhookCall) (event : PaymentEvent) :
    MidtransSubscriptionRecord :=
  let (periodStart, periodEnd) :=
    nextPeriod (db.subscriptionOf event.telegramUserId) call.receivedAt event.periodDays
  let row := db.upsertedSubscription event.telegramUserId event.chatId event.planCode periodStart
    periodEnd
  { id := row.id
    telegramUserId := row.telegramUserId
    chatId := row.chatId
    planCode := event.planCode
    currentPeriodEndAt := row.currentPeriodEndAt }

/-- What a call can do, and under which conditions. -/
inductive WebhookStep (db : Database) (call : WebhookCall) :
    Except SqlError MidtransWebhookApplyOutcome → Database → Prop where
  | unknownOrder (hfound : db.paymentEventOf call.notification.orderId = none) :
      WebhookStep db call (.ok .unknownOrder) db
  | alreadyPaid (event : PaymentEvent)
      (hfound : db.paymentEventOf call.notification.orderId = some event)
      (hstatus : event.paymentStatus = .paid) :
      WebhookStep db call (.ok .ignored) db
  | alreadyClosed (event : PaymentEvent)
      (hfound : db.paymentEventOf call.notification.orderId = some event)
      (hpaid : event.paymentStatus ≠ .paid) (hpending : event.paymentStatus ≠ .pending) :
      WebhookStep db call (.ok .ignored)
        (db.updatePaymentEvent event.id (fun e => e.noted call.notification)
          (fun e => e.id_noted _) fun e => e.providerOrderId_noted _)
  | closes (event : PaymentEvent)
      (hfound : db.paymentEventOf call.notification.orderId = some event)
      (hstatus : event.paymentStatus = .pending) (hmapped : call.mappedStatus ≠ .paid) :
      WebhookStep db call (.ok .ignored)
        (db.updatePaymentEvent event.id
          (fun e => e.closed call.notification call.mappedStatus.paymentStatus)
          (fun e => e.id_closed _ _) fun e => e.providerOrderId_closed _ _)
  | notANumber (event : PaymentEvent)
      (hfound : db.paymentEventOf call.notification.orderId = some event)
      (hstatus : event.paymentStatus = .pending) (hmapped : call.mappedStatus = .paid)
      (hamount : notifiedGrossAmount call.notification = none) :
      WebhookStep db call (.error .rowNotFound) db
  | underpaid (event : PaymentEvent) (amount : ℤ)
      (hfound : db.paymentEventOf call.notification.orderId = some event)
      (hstatus : event.paymentStatus = .pending) (hmapped : call.mappedStatus = .paid)
      (hamount : notifiedGrossAmount call.notification = some amount)
      (hless : amount < event.grossAmountIdr) :
      WebhookStep db call (.ok .ignored) db
  | paid (event : PaymentEvent) (amount : ℤ)
      (hfound : db.paymentEventOf call.notification.orderId = some event)
      (hstatus : event.paymentStatus = .pending) (hmapped : call.mappedStatus = .paid)
      (hamount : notifiedGrossAmount call.notification = some amount)
      (henough : event.grossAmountIdr ≤ amount) :
      WebhookStep db call (.ok (.paid (db.creditRecord call event))) (db.credited call event)
  | failed (statement : WebhookStatement) (hfails : call.fails statement = true) :
      WebhookStep db call (.error (.statement statement)) db

namespace WebhookCall

variable {call : WebhookCall} {α β : Type}

/-- The statements `x` have the result `r` on `db`, unless one of them fails. -/
def Yields (call : WebhookCall) (x : StateT Database (Except SqlError) α) (db : Database)
    (r : Except SqlError (α × Database)) : Prop :=
  x db = r ∨ ∃ statement, call.fails statement = true ∧ x db = .error (.statement statement)

theorem Yields.bind {x : StateT Database (Except SqlError) α}
    {f : α → StateT Database (Except SqlError) β} {db db' : Database} {a : α}
    {r : Except SqlError (β × Database)} (hx : call.Yields x db (.ok (a, db')))
    (hf : call.Yields (f a) db' r) : call.Yields (x >>= f) db r := by
  have hbind : (x >>= f) db = (x db).bind fun p => f p.1 p.2 := rfl
  rcases hx with hx | ⟨statement, hfails, hx⟩
  · have hnext : (x >>= f) db = f a db' := by rw [hbind, hx]; rfl
    rcases hf with hf | ⟨statement, hfails, hf⟩
    · exact Or.inl (hnext.trans hf)
    · exact Or.inr ⟨statement, hfails, hnext.trans hf⟩
  · refine Or.inr ⟨statement, hfails, ?_⟩
    rw [hbind, hx]
    rfl

theorem yields_execute (call : WebhookCall) (statement : WebhookStatement)
    (f : Database → Database) (db : Database) :
    call.Yields (call.execute statement f) db (.ok ((), f db)) := by
  unfold execute
  cases h : call.fails statement with
  | false => exact Or.inl rfl
  | true => exact Or.inr ⟨statement, h, rfl⟩

theorem yields_fetch (call : WebhookCall) (statement : WebhookStatement) (f : Database → α)
    (db : Database) : call.Yields (call.fetch statement f) db (.ok (f db, db)) := by
  unfold fetch
  cases h : call.fails statement with
  | false => exact Or.inl rfl
  | true => exact Or.inr ⟨statement, h, rfl⟩

theorem yields_commit (call : WebhookCall) (outcome : MidtransWebhookApplyOutcome)
    (db : Database) : call.Yields (call.commit outcome) db (.ok (outcome, db)) :=
  (call.yields_execute .commit id db).bind (Or.inl rfl)

theorem yields_update_commit (call : WebhookCall) (event : PaymentEvent) (db : Database)
    (f : PaymentEvent → PaymentEvent) (hid : ∀ e, (f e).id = e.id)
    (horder : ∀ e, (f e).providerOrderId = e.providerOrderId) :
    call.Yields (do call.update event f hid horder; call.commit .ignored) db
      (.ok (.ignored, db.updatePaymentEvent event.id f hid horder)) :=
  (call.yields_execute _ _ db).bind (call.yields_commit _ _)

theorem yields_credit (call : WebhookCall) (event : PaymentEvent) (db : Database) :
    call.Yields (call.credit event) db
      (.ok (.paid (db.creditRecord call event), db.credited call event)) := by
  unfold credit
  refine (call.yields_fetch _ _ db).bind ?_
  refine (call.yields_fetch _ _ db).bind ?_
  have hmodify : ∀ f : Database → Database,
      call.Yields (modify f) db (.ok ((), f db)) := fun _ => Or.inl rfl
  refine (hmodify _).bind ?_
  refine (call.yields_execute _ _ _).bind ?_
  refine (call.yields_execute _ _ _).bind ?_
  exact call.yields_commit _ _

/-- The part of a transaction that has found its order. -/
theorem yields_statements {db : Database} {found : Option PaymentEvent}
    {r : Except SqlError (MidtransWebhookApplyOutcome × Database)}
    (hfound : db.paymentEventOf call.notification.orderId = found)
    (h : call.Yields (call.settle found) db r) : call.Yields call.statements db r := by
  subst hfound
  unfold statements
  exact (call.yields_execute _ _ db).bind ((call.yields_fetch _ _ db).bind h)

/-- What a transaction yields when it does not fail is what the call does. -/
theorem Yields.step {db db' : Database} {found : Option PaymentEvent}
    {outcome : MidtransWebhookApplyOutcome}
    (hfound : db.paymentEventOf call.notification.orderId = found)
    (h : call.Yields (call.settle found) db (.ok (outcome, db')))
    (hstep : WebhookStep db call (.ok outcome) db') :
    WebhookStep db call (applyMidtransWebhook db call).1 (applyMidtransWebhook db call).2 := by
  unfold applyMidtransWebhook
  rcases yields_statements hfound h with h | ⟨statement, hfails, h⟩
  · rw [h]
    exact hstep
  · rw [h]
    exact .failed statement hfails

/-- A transaction that ends in an error is rolled back. -/
theorem Yields.step_error {db : Database} {found : Option PaymentEvent} {error : SqlError}
    (hfound : db.paymentEventOf call.notification.orderId = found)
    (h : call.Yields (call.settle found) db (.error error))
    (hstep : WebhookStep db call (.error error) db) :
    WebhookStep db call (applyMidtransWebhook db call).1 (applyMidtransWebhook db call).2 := by
  unfold applyMidtransWebhook
  rcases yields_statements hfound h with h | ⟨statement, hfails, h⟩
  · rw [h]
    exact hstep
  · rw [h]
    exact .failed statement hfails

end WebhookCall

/-- **Every call is one of the cases.** -/
theorem applyMidtransWebhook_step (db : Database) (call : WebhookCall) :
    WebhookStep db call (applyMidtransWebhook db call).1 (applyMidtransWebhook db call).2 := by
  cases hfound : db.paymentEventOf call.notification.orderId with
  | none => exact WebhookCall.Yields.step hfound (call.yields_commit _ db) (.unknownOrder hfound)
  | some event =>
      by_cases hpaid : event.paymentStatus = .paid
      · refine WebhookCall.Yields.step hfound ?_ (.alreadyPaid event hfound hpaid)
        rw [WebhookCall.settle, if_pos hpaid]
        exact call.yields_commit .ignored db
      by_cases hpending : event.paymentStatus ≠ .pending
      · refine WebhookCall.Yields.step hfound ?_ (.alreadyClosed event hfound hpaid hpending)
        rw [WebhookCall.settle, if_neg hpaid, if_pos hpending]
        exact call.yields_update_commit event db _ _ _
      have hstatus := not_not.1 hpending
      by_cases hmapped : call.mappedStatus ≠ .paid
      · refine WebhookCall.Yields.step hfound ?_ (.closes event hfound hstatus hmapped)
        rw [WebhookCall.settle, if_neg hpaid, if_neg hpending, if_pos hmapped]
        exact call.yields_update_commit event db _ _ _
      have hmappedPaid := not_not.1 hmapped
      cases hamount : notifiedGrossAmount call.notification with
      | none =>
          refine WebhookCall.Yields.step_error hfound ?_
            (.notANumber event hfound hstatus hmappedPaid hamount)
          rw [WebhookCall.settle, if_neg hpaid, if_neg hpending, if_neg hmapped, hamount]
          exact Or.inl rfl
      | some amount =>
          by_cases hless : amount < event.grossAmountIdr
          · refine WebhookCall.Yields.step hfound ?_
              (.underpaid event amount hfound hstatus hmappedPaid hamount hless)
            rw [WebhookCall.settle, if_neg hpaid, if_neg hpending, if_neg hmapped, hamount]
            simp only [if_pos hless]
            exact call.yields_commit .ignored db
          · refine WebhookCall.Yields.step hfound ?_
              (.paid event amount hfound hstatus hmappedPaid hamount (not_lt.1 hless))
            rw [WebhookCall.settle, if_neg hpaid, if_neg hpending, if_neg hmapped, hamount]
            simp only [if_neg hless]
            exact call.yields_credit event db

end Gt06
