/-
**The tables of payments and subscriptions.**

The rows of `telegram_payment_events`, `telegram_subscriptions` and
`telegram_subscription_sanctions`, and a database that holds them.  A row carries the `CHECK`
constraints of its table and the database carries the unique keys, so every statement below has
to show that it keeps them.

Main definitions:

* `Gt06.PaymentEvent`, `Gt06.Subscription`, `Gt06.Sanction` — the rows;
* `Gt06.Database` — the three tables with their keys;
* `Gt06.Database.updatePaymentEvent`, `Gt06.Database.upsertSubscription`,
  `Gt06.Database.resolveSubscriptionSanction` — the statements.

Main results:

* `Gt06.Database.subscriptionOf_upsertSubscription` — what an upsert leaves to be read;
* `Gt06.Database.paymentEventOf_updatePaymentEvent` — what an update of an event leaves to be read.
-/

import Mathlib
import Gt06Server.Relational
import Gt06Server.Primitives

set_option relaxedAutoImplicit false
set_option autoImplicit false

namespace Gt06

open Relational

/-! ### Rows -/

/-- The values `telegram_payment_events_status_check` admits. -/
inductive PaymentStatus where
  | pending
  | paid
  | expired
  | failed
  | refunded
  deriving DecidableEq, Repr

/-- The values `telegram_subscriptions_status_check` admits. -/
inductive SubscriptionStatus where
  | active
  | expired
  | canceled
  | pastDue
  deriving DecidableEq, Repr

/-- The fields a notification of the payment provider carries. -/
structure MidtransWebhookNotification where
  orderId : String
  statusCode : String
  grossAmount : String
  signatureKey : String
  transactionStatus : String
  transactionId : Option String := none
  paymentType : Option String := none
  fraudStatus : Option String := none
  deriving DecidableEq, Repr

/-- A row of `telegram_payment_events`. -/
structure PaymentEvent where
  id : ℤ
  telegramUserId : ℤ
  chatId : ℤ
  subscriptionId : Option ℤ
  paymentStatus : PaymentStatus
  planCode : String
  grossAmountIdr : ℤ
  periodDays : ℤ
  providerOrderId : String
  providerTransactionId : Option String
  paymentType : Option String
  paidAt : Option ℤ
  /-- The last notification written to the row, kept as JSON by the source. -/
  rawWebhookNotification : Option MidtransWebhookNotification
  grossAmountIdr_pos : 0 < grossAmountIdr
  periodDays_pos : 0 < periodDays
  deriving DecidableEq, Repr

/-- A row of `telegram_subscriptions`. -/
structure Subscription where
  id : ℤ
  telegramUserId : ℤ
  chatId : ℤ
  planCode : String
  status : SubscriptionStatus
  currentPeriodStartAt : Option ℤ
  currentPeriodEndAt : Option ℤ
  deriving DecidableEq, Repr

/-- A row of `telegram_subscription_sanctions`. -/
structure Sanction where
  subscriptionId : ℤ
  telegramUserId : ℤ
  chatId : ℤ
  lastPreExpiryRemindedForPeriodEndAt : Option ℤ
  lastPreExpiryRemindedDay : Option ℤ
  lastOverdueRemindedDay : Option ℤ
  fineAmountIdr : ℤ
  withdrawalRequired : Bool
  withdrawalRequiredAt : Option ℤ
  resolvedAt : Option ℤ
  lastPreExpiryRemindedDay_mem : ∀ day ∈ lastPreExpiryRemindedDay, 0 ≤ day ∧ day ≤ 5
  lastOverdueRemindedDay_pos : ∀ day ∈ lastOverdueRemindedDay, 1 ≤ day
  fineAmountIdr_nonneg : 0 ≤ fineAmountIdr
  deriving DecidableEq, Repr

/-- The three tables.  A subscription gets the number after the last one given out, so its id is
fresh. -/
structure Database where
  paymentEvents : List PaymentEvent
  subscriptions : List Subscription
  sanctions : List Sanction
  lastSubscriptionId : ℤ
  paymentEvents_id : UniqueOn PaymentEvent.id paymentEvents
  paymentEvents_providerOrderId : UniqueOn PaymentEvent.providerOrderId paymentEvents
  subscriptions_id : UniqueOn Subscription.id subscriptions
  subscriptions_telegramUserId : UniqueOn Subscription.telegramUserId subscriptions
  subscriptions_id_le : ∀ s ∈ subscriptions, s.id ≤ lastSubscriptionId
  sanctions_subscriptionId : UniqueOn Sanction.subscriptionId sanctions

/-- A table without subscriptions has given out no id. -/
theorem subscriptions_id_le_nil : ∀ s ∈ ([] : List Subscription), s.id ≤ 0 := by simp

/-- The row after `ON CONFLICT (telegram_user_id) DO UPDATE` of the insert that a payment makes. -/
def Subscription.renewed (row : Subscription) (chatId : ℤ) (planCode : String)
    (periodStart periodEnd : ℤ) : Subscription :=
  { row with
    chatId := chatId
    planCode := planCode
    status := .active
    currentPeriodStartAt := some periodStart
    currentPeriodEndAt := some periodEnd }

/-- The row after `resolve_subscription_sanction`. -/
def Sanction.resolved (row : Sanction) (now : ℤ) : Sanction :=
  { row with
    lastPreExpiryRemindedForPeriodEndAt := none
    lastPreExpiryRemindedDay := none
    lastOverdueRemindedDay := none
    fineAmountIdr := 0
    withdrawalRequired := false
    withdrawalRequiredAt := none
    resolvedAt := some now
    lastPreExpiryRemindedDay_mem := by simp
    lastOverdueRemindedDay_pos := by simp
    fineAmountIdr_nonneg := le_rfl }

namespace Database

variable (db : Database)

/-- `SELECT … FROM telegram_payment_events WHERE provider_order_id = $1`. -/
def paymentEventOf (orderId : String) : Option PaymentEvent :=
  rowAt PaymentEvent.providerOrderId orderId db.paymentEvents

/-- `SELECT … FROM telegram_subscriptions WHERE telegram_user_id = $1`. -/
def subscriptionOf (telegramUserId : ℤ) : Option Subscription :=
  rowAt Subscription.telegramUserId telegramUserId db.subscriptions

/-- The sanction row of a subscription. -/
def sanctionOf (subscriptionId : ℤ) : Option Sanction :=
  rowAt Sanction.subscriptionId subscriptionId db.sanctions

/-- The `current_period_end_at` of a user, if there is a row that has one. -/
def periodEndOf (telegramUserId : ℤ) : Option ℤ :=
  (db.subscriptionOf telegramUserId).bind Subscription.currentPeriodEndAt

/-! ### Payment events -/

/-- `UPDATE telegram_payment_events SET f WHERE id = $1`, for an update that leaves the keys
alone. -/
def updatePaymentEvent (id : ℤ) (f : PaymentEvent → PaymentEvent) (hid : ∀ e, (f e).id = e.id)
    (horder : ∀ e, (f e).providerOrderId = e.providerOrderId) : Database :=
  { db with
    paymentEvents := updateAt PaymentEvent.id id f db.paymentEvents
    paymentEvents_id := db.paymentEvents_id.updateAt _ _ hid
    paymentEvents_providerOrderId := db.paymentEvents_providerOrderId.updateAt _ _ horder }

theorem mem_of_paymentEventOf {orderId : String} {event : PaymentEvent}
    (h : db.paymentEventOf orderId = some event) :
    event ∈ db.paymentEvents ∧ event.providerOrderId = orderId := mem_of_rowAt h

theorem paymentEventOf_eq_some_iff {orderId : String} {event : PaymentEvent} :
    db.paymentEventOf orderId = some event ↔
      event ∈ db.paymentEvents ∧ event.providerOrderId = orderId :=
  rowAt_eq_some_iff db.paymentEvents_providerOrderId

section UpdatePaymentEvent

variable {id : ℤ} {f : PaymentEvent → PaymentEvent} {hid : ∀ e, (f e).id = e.id}
  {horder : ∀ e, (f e).providerOrderId = e.providerOrderId}

@[simp] theorem subscriptions_updatePaymentEvent :
    (db.updatePaymentEvent id f hid horder).subscriptions = db.subscriptions := rfl

@[simp] theorem sanctions_updatePaymentEvent :
    (db.updatePaymentEvent id f hid horder).sanctions = db.sanctions := rfl

@[simp] theorem periodEndOf_updatePaymentEvent (telegramUserId : ℤ) :
    (db.updatePaymentEvent id f hid horder).periodEndOf telegramUserId =
      db.periodEndOf telegramUserId := rfl

/-- Reading an order after an update of the event of an order. -/
theorem paymentEventOf_updatePaymentEvent {orderId : String} {event : PaymentEvent}
    (hfound : db.paymentEventOf orderId = some event) (order : String) :
    (db.updatePaymentEvent event.id f hid horder).paymentEventOf order =
      if order = orderId then some (f event) else db.paymentEventOf order := by
  have hread : (db.updatePaymentEvent event.id f hid horder).paymentEventOf order =
      (db.paymentEventOf order).map fun e => if e.id = event.id then f e else e :=
    rowAt_updateAt horder _ _ _
  obtain ⟨hevent, hkey⟩ := db.mem_of_paymentEventOf hfound
  rw [hread]
  by_cases horders : order = orderId
  · rw [if_pos horders, horders, hfound]
    exact congrArg some (if_pos rfl)
  · rw [if_neg horders]
    cases hother : db.paymentEventOf order with
    | none => rfl
    | some other =>
        obtain ⟨hmem, hotherKey⟩ := db.mem_of_paymentEventOf hother
        have hne : other.id ≠ event.id := by
          intro hid'
          rw [db.paymentEvents_id.eq_of_key_eq hmem hevent hid'] at hotherKey
          exact horders (hotherKey.symm.trans hkey)
        exact congrArg some (if_neg hne)

end UpdatePaymentEvent

/-! ### Subscriptions -/

theorem telegramUserId_of_subscriptionOf {telegramUserId : ℤ} {row : Subscription}
    (h : db.subscriptionOf telegramUserId = some row) : row.telegramUserId = telegramUserId :=
  key_of_rowAt (show rowAt Subscription.telegramUserId _ _ = _ from h)

/-- A row is in the table exactly when it is read for its user. -/
theorem mem_subscriptions_iff {row : Subscription} :
    row ∈ db.subscriptions ↔ db.subscriptionOf row.telegramUserId = some row :=
  ⟨fun h => (rowAt_eq_some_iff db.subscriptions_telegramUserId).2 ⟨h, rfl⟩,
    fun h => (mem_of_rowAt (show rowAt Subscription.telegramUserId _ _ = _ from h)).1⟩

/-- The row an upsert of `telegram_subscriptions` returns: the user's row renewed, or a new one. -/
def upsertedSubscription (telegramUserId chatId : ℤ) (planCode : String)
    (periodStart periodEnd : ℤ) : Subscription :=
  match db.subscriptionOf telegramUserId with
  | some row => row.renewed chatId planCode periodStart periodEnd
  | none =>
      { id := db.lastSubscriptionId + 1
        telegramUserId := telegramUserId
        chatId := chatId
        planCode := planCode
        status := .active
        currentPeriodStartAt := some periodStart
        currentPeriodEndAt := some periodEnd }

/-- `INSERT INTO telegram_subscriptions … ON CONFLICT (telegram_user_id) DO UPDATE …`. -/
def upsertSubscription (telegramUserId chatId : ℤ) (planCode : String)
    (periodStart periodEnd : ℤ) : Database :=
  if h : db.subscriptionOf telegramUserId = none then
    { db with
      subscriptions := db.subscriptions ++
        [db.upsertedSubscription telegramUserId chatId planCode periodStart periodEnd]
      lastSubscriptionId := db.lastSubscriptionId + 1
      subscriptions_id := db.subscriptions_id.append fun s hs => by
        have hle := db.subscriptions_id_le s hs
        simp only [upsertedSubscription, h]
        omega
      subscriptions_telegramUserId := db.subscriptions_telegramUserId.append fun s hs => by
        simp only [upsertedSubscription, h]
        exact rowAt_eq_none_iff.1 h s hs
      subscriptions_id_le := fun s hs => by
        rcases List.mem_append.1 hs with hs | hs
        · have hle := db.subscriptions_id_le s hs
          omega
        · rw [List.mem_singleton.1 hs]
          simp only [upsertedSubscription, h]
          exact le_rfl }
  else
    { db with
      subscriptions := updateAt Subscription.telegramUserId telegramUserId
        (fun row => row.renewed chatId planCode periodStart periodEnd) db.subscriptions
      subscriptions_id := db.subscriptions_id.updateAt _ _ fun _ => rfl
      subscriptions_telegramUserId := db.subscriptions_telegramUserId.updateAt _ _ fun _ => rfl
      subscriptions_id_le := fun s hs => by
        obtain ⟨r, hr, rfl⟩ := mem_updateAt.1 hs
        have hle := db.subscriptions_id_le r hr
        split
        · exact hle
        · exact hle }

section UpsertSubscription

variable (telegramUserId chatId : ℤ) (planCode : String) (periodStart periodEnd : ℤ)

@[simp] theorem paymentEvents_upsertSubscription :
    (db.upsertSubscription telegramUserId chatId planCode periodStart periodEnd).paymentEvents =
      db.paymentEvents := by
  unfold upsertSubscription
  split
  · rfl
  · rfl

@[simp] theorem sanctions_upsertSubscription :
    (db.upsertSubscription telegramUserId chatId planCode periodStart periodEnd).sanctions =
      db.sanctions := by
  unfold upsertSubscription
  split
  · rfl
  · rfl

@[simp] theorem upsertedSubscription_telegramUserId :
    (db.upsertedSubscription telegramUserId chatId planCode periodStart periodEnd).telegramUserId =
      telegramUserId := by
  unfold upsertedSubscription
  cases h : db.subscriptionOf telegramUserId with
  | none => rfl
  | some row =>
      have hrow : row.telegramUserId = telegramUserId := db.telegramUserId_of_subscriptionOf h
      exact hrow

@[simp] theorem upsertedSubscription_currentPeriodEndAt :
    (db.upsertedSubscription telegramUserId chatId planCode periodStart
      periodEnd).currentPeriodEndAt = some periodEnd := by
  unfold upsertedSubscription
  cases db.subscriptionOf telegramUserId with
  | none => rfl
  | some row => rfl

@[simp] theorem upsertedSubscription_status :
    (db.upsertedSubscription telegramUserId chatId planCode periodStart periodEnd).status =
      .active := by
  unfold upsertedSubscription
  cases db.subscriptionOf telegramUserId with
  | none => rfl
  | some row => rfl

/-- What an upsert leaves to be read: the row it returned, and the rows of the other users. -/
theorem subscriptionOf_upsertSubscription (user : ℤ) :
    (db.upsertSubscription telegramUserId chatId planCode periodStart periodEnd).subscriptionOf
        user =
      if user = telegramUserId then
        some (db.upsertedSubscription telegramUserId chatId planCode periodStart periodEnd)
      else db.subscriptionOf user := by
  have hkey := db.upsertedSubscription_telegramUserId telegramUserId chatId planCode periodStart
    periodEnd
  unfold upsertSubscription
  by_cases hnone : db.subscriptionOf telegramUserId = none
  · rw [dif_pos hnone]
    simp only [subscriptionOf, rowAt_append, rowAt_cons, rowAt_nil, hkey]
    by_cases huser : user = telegramUserId
    · subst huser
      rw [show rowAt Subscription.telegramUserId user db.subscriptions = none from hnone]
      simp
    · simp [huser, Ne.symm huser]
  · rw [dif_neg hnone]
    obtain ⟨row, hrow⟩ := Option.ne_none_iff_exists'.1 hnone
    have hrenewed : ∀ r : Subscription,
        (r.renewed chatId planCode periodStart periodEnd).telegramUserId = r.telegramUserId :=
      fun _ => rfl
    by_cases huser : user = telegramUserId
    · subst huser
      have hread : rowAt Subscription.telegramUserId user db.subscriptions = some row := hrow
      rw [if_pos rfl, upsertedSubscription, hrow, subscriptionOf, rowAt_updateAt_self hrenewed,
        hread]
      rfl
    · rw [if_neg huser, subscriptionOf, rowAt_updateAt_of_ne hrenewed huser]
      rfl

/-- The rows after an upsert: the one it returned, and those of the other users. -/
theorem mem_upsertSubscription {row : Subscription} :
    row ∈ (db.upsertSubscription telegramUserId chatId planCode periodStart
        periodEnd).subscriptions ↔
      row = db.upsertedSubscription telegramUserId chatId planCode periodStart periodEnd ∨
        (row ∈ db.subscriptions ∧ row.telegramUserId ≠ telegramUserId) := by
  have hread := db.subscriptionOf_upsertSubscription telegramUserId chatId planCode periodStart
    periodEnd row.telegramUserId
  rw [show row ∈ (db.upsertSubscription telegramUserId chatId planCode periodStart
      periodEnd).subscriptions ↔ _ from mem_subscriptions_iff _, hread]
  by_cases huser : row.telegramUserId = telegramUserId
  · rw [if_pos huser, Option.some_inj]
    constructor
    · exact fun h => Or.inl h.symm
    · rintro (h | ⟨_, hne⟩)
      · exact h.symm
      · exact absurd huser hne
  · rw [if_neg huser, ← mem_subscriptions_iff]
    constructor
    · exact fun h => Or.inr ⟨h, huser⟩
    · rintro (rfl | ⟨h, _⟩)
      · exact absurd (db.upsertedSubscription_telegramUserId ..) huser
      · exact h

theorem periodEndOf_upsertSubscription (user : ℤ) :
    (db.upsertSubscription telegramUserId chatId planCode periodStart periodEnd).periodEndOf user =
      if user = telegramUserId then some periodEnd else db.periodEndOf user := by
  unfold periodEndOf
  rw [subscriptionOf_upsertSubscription]
  split
  · simp
  · rfl

end UpsertSubscription

/-! ### Sanctions -/

/-- `resolve_subscription_sanction`, at the transaction's time `now`. -/
def resolveSubscriptionSanction (subscriptionId now : ℤ) : Database :=
  { db with
    sanctions := updateAt Sanction.subscriptionId subscriptionId (fun row => row.resolved now)
      db.sanctions
    sanctions_subscriptionId := db.sanctions_subscriptionId.updateAt _ _ fun _ => rfl }

@[simp] theorem paymentEvents_resolveSubscriptionSanction (subscriptionId now : ℤ) :
    (db.resolveSubscriptionSanction subscriptionId now).paymentEvents = db.paymentEvents := rfl

@[simp] theorem subscriptionOf_resolveSubscriptionSanction (subscriptionId now user : ℤ) :
    (db.resolveSubscriptionSanction subscriptionId now).subscriptionOf user =
      db.subscriptionOf user := rfl

@[simp] theorem periodEndOf_resolveSubscriptionSanction (subscriptionId now user : ℤ) :
    (db.resolveSubscriptionSanction subscriptionId now).periodEndOf user =
      db.periodEndOf user := rfl

end Database

end Gt06
