/-
**The page of the subscriptions.**

The operator's page joins every subscription with its user, the device and the customer, the first
payment and the sanction, and works out the stage by the date; it does not look at the status.  The
bot's gate looks at the status and the instant.  The two are computed apart, and what the page says
of a subscriber must still be what the bot does.

Main definitions:

* `Gt06.SortOrder.parse`, `Gt06.OperatorTables` — what the page is asked for, and what it reads;
* `Gt06.OperatorTables.getSubscriptions` — the page;
* `Gt06.SubscriptionResponse.AgreesWithGate` — a line says what the bot does.

Main results:

* `Gt06.firstSubscribedAt_of_run` — once there is a first payment, no later one takes its place;
* `Gt06.OperatorTables.subscriptionLines_perm` — every subscription is on one line;
* `Gt06.page_agrees_with_gate` — **the page and the gate agree in every run**.
-/

import Gt06Server.SubscriptionAccess

set_option relaxedAutoImplicit false
set_option autoImplicit false

namespace Gt06

open Relational Await

/-! ### The page -/

inductive SortOrder where
  | asc
  | desc
  deriving DecidableEq, Repr

/-- No result is `InvalidSortOrder`. -/
def SortOrder.parse (value : Option String) : Option SortOrder :=
  let value := (value.getD "asc").toLower
  if value = "asc" then some .asc
  else if value = "desc" then some .desc
  else none

/-- `ASC NULLS LAST`, or `DESC NULLS LAST`. -/
def SortOrder.endsBefore (order : SortOrder) : Option ℤ → Option ℤ → Bool
  | some a, some b =>
      match order with
      | .asc => a < b
      | .desc => b < a
  | some _, none => true
  | none, _ => false

/-- The order of two subscriptions: by their period ends, and then by their users. -/
def SortOrder.le (order : SortOrder) (a b : Subscription) : Bool :=
  order.endsBefore a.currentPeriodEndAt b.currentPeriodEndAt ||
    decide (a.currentPeriodEndAt = b.currentPeriodEndAt ∧ a.telegramUserId ≤ b.telegramUserId)

/-- A row of `customers`, as far as the pages show it. -/
structure CustomerRow where
  id : ℕ
  name : String
  phoneNumber : String
  imei : String
  updatedAt : ℤ
  deriving DecidableEq, Repr

/-- The customer that the pages show for a device: `ORDER BY updated_at DESC, id DESC LIMIT 1`. -/
def customerOf (customers : List CustomerRow) (imei : String) : Option CustomerRow :=
  ((customers.filter fun customer => customer.imei = imei).mergeSort fun a b =>
    b.updatedAt < a.updatedAt ∨ a.updatedAt = b.updatedAt ∧ b.id ≤ a.id).head?

/-- What the page reads; every subscription refers to a user. -/
structure OperatorTables where
  db : Database
  registry : Registry
  customers : List CustomerRow
  subscriptions_telegramUserId : ∀ row ∈ db.subscriptions,
    row.telegramUserId ∈ registry.telegramUsers.map TelegramUserRow.telegramUserId

/-- The instants are those of the texts that the source makes of them. -/
structure SubscriptionResponse where
  telegramUserId : ℤ
  chatId : ℤ
  boundImei : Option String
  customerName : Option String
  customerPhoneNumber : Option String
  pricingTier : String
  planCode : String
  status : SubscriptionStatus
  currentPeriodStartAt : Option ℤ
  currentPeriodEndAt : Option ℤ
  firstSubscribedAt : Option ℤ
  subscribedDays : Option ℤ
  lifecycleStage : SubscriptionLifecycleStage
  lifecycleDay : Option ℤ
  reminderSent : Option Bool
  fineAmountIdr : ℤ
  withdrawalRequired : Bool
  deriving DecidableEq, Repr

def completeSubscribedDays (firstSubscribedAt now : ℤ) : ℤ :=
  max ((now - firstSubscribedAt).tdiv microsPerDay) 0

/-- `SELECT MIN(paid_at) … WHERE payment_status = 'paid' … GROUP BY telegram_user_id`. -/
def Database.firstSubscribedAt (db : Database) (telegramUserId : ℤ) : Option ℤ :=
  ((db.paymentEvents.filter fun event =>
    event.telegramUserId = telegramUserId ∧ event.paymentStatus = .paid).filterMap
      PaymentEvent.paidAt).min?

namespace OperatorTables

variable (tables : OperatorTables)

/-- A line of the page: a subscription joined with its user. -/
def subscriptionResponse (now : ℤ) (row : Subscription) (user : TelegramUserRow) :
    SubscriptionResponse :=
  let customer := user.boundImei.bind (customerOf tables.customers)
  let firstSubscribedAt := tables.db.firstSubscribedAt row.telegramUserId
  let sanction := tables.db.sanctionOf row.id
  let lifecycle := subscriptionLifecycleState row.currentPeriodEndAt now
    (sanction.bind Sanction.lastPreExpiryRemindedForPeriodEndAt)
    (sanction.bind Sanction.lastPreExpiryRemindedDay)
    (sanction.bind Sanction.lastOverdueRemindedDay)
    ((sanction.map Sanction.withdrawalRequired).getD false) (sanction.bind Sanction.resolvedAt)
  { telegramUserId := row.telegramUserId
    chatId := row.chatId
    boundImei := user.boundImei
    customerName := customer.map CustomerRow.name
    customerPhoneNumber := customer.map CustomerRow.phoneNumber
    pricingTier := ((tables.registry.boundDeviceOf user).map PricedDevice.pricingTier).getD "basic"
    planCode := row.planCode
    status := row.status
    currentPeriodStartAt := row.currentPeriodStartAt
    currentPeriodEndAt := row.currentPeriodEndAt
    firstSubscribedAt := firstSubscribedAt
    subscribedDays := firstSubscribedAt.map fun first => completeSubscribedDays first now
    lifecycleStage := lifecycle.stage
    lifecycleDay := lifecycle.day
    reminderSent := lifecycle.reminderSent
    fineAmountIdr := lifecycle.fineAmountIdr
    withdrawalRequired := lifecycle.withdrawalRequired }

/-- The user of the `JOIN`. -/
def userOf (row : Subscription) : Option TelegramUserRow :=
  rowAt TelegramUserRow.telegramUserId row.telegramUserId tables.registry.telegramUsers

/-- The lines of the page, in one of the two orders. -/
def subscriptionLines (order : SortOrder) (now : ℤ) : List SubscriptionResponse :=
  (tables.db.subscriptions.mergeSort order.le).filterMap fun row =>
    (tables.userOf row).map (tables.subscriptionResponse now row)

/-- The page for the text of the query; no page is `InvalidSortOrder`. -/
def getSubscriptions (sortOrder : Option String) (now : ℤ) : Option (List SubscriptionResponse) :=
  (SortOrder.parse sortOrder).map fun order => tables.subscriptionLines order now

end OperatorTables

/-! ### The first payment -/

section FirstPayment

variable {db db' : Database} {user paidAt first : ℤ}

/-- The user has paid at that time. -/
def Database.Billed (db : Database) (user paidAt : ℤ) : Prop :=
  ∃ event ∈ db.paymentEvents, event.telegramUserId = user ∧ event.paymentStatus = .paid ∧
    event.paidAt = some paidAt

theorem billed_congr (h : db'.paymentEvents = db.paymentEvents) :
    db'.Billed user paidAt ↔ db.Billed user paidAt := by
  rw [Database.Billed, h]
  rfl

theorem firstSubscribedAt_eq_some_iff :
    db.firstSubscribedAt user = some first ↔
      db.Billed user first ∧ ∀ paidAt, db.Billed user paidAt → first ≤ paidAt := by
  have hmem : ∀ paidAt, paidAt ∈ (db.paymentEvents.filter fun event =>
      event.telegramUserId = user ∧ event.paymentStatus = .paid).filterMap PaymentEvent.paidAt ↔
        db.Billed user paidAt := by
    intro paidAt
    simp only [List.mem_filterMap, List.mem_filter, decide_eq_true_eq, Database.Billed, and_assoc]
  rw [Database.firstSubscribedAt, List.min?_eq_some_iff, hmem]
  simp only [hmem]

/-- An update of an event that was not paid can only add a payment by it. -/
theorem billed_updatePaymentEvent {event : PaymentEvent} {f : PaymentEvent → PaymentEvent}
    {hid : ∀ e, (f e).id = e.id} {horder : ∀ e, (f e).providerOrderId = e.providerOrderId}
    (hevent : event ∈ db.paymentEvents) (hunpaid : event.paymentStatus ≠ .paid)
    (huser : ∀ e, (f e).telegramUserId = e.telegramUserId) :
    (db.updatePaymentEvent event.id f hid horder).Billed user paidAt ↔
      db.Billed user paidAt ∨ event.telegramUserId = user ∧ (f event).paymentStatus = .paid ∧
        (f event).paidAt = some paidAt := by
  constructor
  · rintro ⟨updated, hupdated, hpayer, hpaid, hat⟩
    obtain ⟨stored, hstored, rfl⟩ := mem_updateAt.1 hupdated
    by_cases hkey : stored.id = event.id
    · obtain rfl := db.paymentEvents_id.eq_of_key_eq hstored hevent hkey
      rw [if_pos hkey] at hpayer hpaid hat
      exact Or.inr ⟨(huser stored).symm.trans hpayer, hpaid, hat⟩
    · rw [if_neg hkey] at hpayer hpaid hat
      exact Or.inl ⟨stored, hstored, hpayer, hpaid, hat⟩
  · rintro (⟨stored, hstored, hpayer, hpaid, hat⟩ | ⟨hpayer, hpaid, hat⟩)
    · refine ⟨stored, mem_updateAt.2 ⟨stored, hstored, if_neg fun hkey => hunpaid ?_⟩, hpayer,
        hpaid, hat⟩
      rw [← db.paymentEvents_id.eq_of_key_eq hstored hevent hkey]
      exact hpaid
    · exact ⟨f event, mem_updateAt.2 ⟨event, hevent, if_pos rfl⟩, (huser event).trans hpayer, hpaid,
        hat⟩

/-- A webhook keeps the payments, and adds at most one at the time it was received. -/
theorem billed_webhook (db : Database) (call : WebhookCall) (user paidAt : ℤ) :
    (db.Billed user paidAt → (applyMidtransWebhook db call).2.Billed user paidAt) ∧
      ((applyMidtransWebhook db call).2.Billed user paidAt →
        db.Billed user paidAt ∨ paidAt = call.receivedAt) := by
  have hstep := applyMidtransWebhook_step db call
  generalize applyMidtransWebhook db call = applied at hstep
  obtain ⟨result, db'⟩ := applied
  cases hstep with
  | alreadyClosed event hfound hpaid hpending =>
      have hiff : (db.updatePaymentEvent event.id (fun e => e.noted call.notification)
          (fun e => e.id_noted _) fun e => e.providerOrderId_noted _).Billed user paidAt ↔ _ :=
        billed_updatePaymentEvent (db.mem_of_paymentEventOf hfound).1 hpaid fun _ => rfl
      refine ⟨fun hbilled => hiff.2 (Or.inl hbilled), fun hbilled => ?_⟩
      rcases hiff.1 hbilled with hbilled | ⟨-, hstatus, -⟩
      · exact Or.inl hbilled
      · exact absurd hstatus hpaid
  | closes event hfound hstatus hmapped =>
      have hunpaid : event.paymentStatus ≠ .paid := by simp [hstatus]
      have hiff : (db.updatePaymentEvent event.id
          (fun e => e.closed call.notification call.mappedStatus.paymentStatus)
          (fun e => e.id_closed _ _) fun e => e.providerOrderId_closed _ _).Billed user paidAt ↔
            _ :=
        billed_updatePaymentEvent (db.mem_of_paymentEventOf hfound).1 hunpaid fun _ => rfl
      refine ⟨fun hbilled => hiff.2 (Or.inl hbilled), fun hbilled => ?_⟩
      rcases hiff.1 hbilled with hbilled | ⟨-, hclosed, -⟩
      · exact Or.inl hbilled
      · refine absurd ?_ hmapped
        cases hcase : call.mappedStatus with
        | paid => rfl
        | _ => simp [PaymentEvent.closed, hcase, MidtransPaymentStatus.paymentStatus] at hclosed
  | paid event amount hfound hstatus hmapped hamount henough =>
      have hunpaid : event.paymentStatus ≠ .paid := by simp [hstatus]
      have hiff : (db.updatePaymentEvent event.id
          (fun e => e.settled call.notification (db.creditRecord call event).id call.receivedAt)
          (fun e => e.id_settled _ _ _)
          fun e => e.providerOrderId_settled _ _ _).Billed user paidAt ↔ _ :=
        billed_updatePaymentEvent (db.mem_of_paymentEventOf hfound).1 hunpaid fun _ => rfl
      have hevents := (billed_congr paymentEvents_credited).trans hiff
      refine ⟨fun hbilled => hevents.2 (Or.inl hbilled), fun hbilled => ?_⟩
      rcases hevents.1 hbilled with hbilled | ⟨-, -, hat⟩
      · exact Or.inl hbilled
      · exact Or.inr (Option.some.inj hat).symm
  | _ => exact ⟨fun hbilled => hbilled, Or.inl⟩

/-- The time at which an event of a run can bill somebody. -/
def AccountEvent.billedAt : AccountEvent → Option ℤ
  | .maintained (.webhook call) => some call.receivedAt
  | _ => none

theorem billed_step {event : AccountEvent} (hstep : db.accounted event = some db')
    (user paidAt : ℤ) :
    (db.Billed user paidAt → db'.Billed user paidAt) ∧
      (db'.Billed user paidAt → db.Billed user paidAt ∨ event.billedAt = some paidAt) := by
  cases event with
  | createPendingMidtransPayment event =>
      rw [Database.accounted] at hstep
      split at hstep
      · next haccepts =>
          obtain rfl := Option.some.inj hstep
          constructor
          · rintro ⟨paid, hmem, hpaid⟩
            exact ⟨paid, List.mem_append_left _ hmem, hpaid⟩
          · rintro ⟨paid, hmem, hpaid⟩
            rcases List.mem_append.1 hmem with hmem | hmem
            · exact Or.inl ⟨paid, hmem, hpaid⟩
            · -- the order that is stored is not paid yet
              obtain rfl := List.mem_singleton.1 hmem
              rw [haccepts.2.1] at hpaid
              exact absurd hpaid.2.1 (by decide)
      · cases hstep
  | maintained event =>
      cases event with
      | pass now calls =>
          obtain rfl := Option.some.inj hstep
          unfold Database.Billed passUpTo
          rw [paymentEvents_runUntilFailure]
          exact ⟨fun hbilled => hbilled, Or.inl⟩
      | webhook call =>
          obtain rfl := Option.some.inj hstep
          obtain ⟨hkept, hadded⟩ := billed_webhook db call user paidAt
          refine ⟨hkept, fun hbilled => ?_⟩
          rcases hadded hbilled with hbilled | rfl
          · exact Or.inl hbilled
          · exact Or.inr rfl

/-- Once there is a first payment, no later one takes its place. -/
theorem firstSubscribedAt_of_run {tr : List (Database × AccountEvent)}
    (run : Run Database.accounted db tr db') (hfirst : db.firstSubscribedAt user = some first)
    (hlater : ∀ p ∈ tr, ∀ paidAt ∈ p.2.billedAt, first ≤ paidAt) :
    db'.firstSubscribedAt user = some first := by
  refine (run.invariant (I := fun db => db.firstSubscribedAt user = some first)
    (G := fun _ event => ∀ paidAt ∈ event.billedAt, first ≤ paidAt) ?_ hfirst hlater).2
  intro db₁ event db₂ hkept hbilledAt hstep
  rw [firstSubscribedAt_eq_some_iff] at hkept ⊢
  refine ⟨(billed_step hstep user first).1 hkept.1, fun paidAt hbilled => ?_⟩
  rcases (billed_step hstep user paidAt).2 hbilled with hbilled | hat
  · exact hkept.2 paidAt hbilled
  · exact hbilledAt paidAt hat

end FirstPayment

/-! ### The sanctions of a run -/

section Sanctions

variable {db db' : Database} {tr : List (Database × AccountEvent)}

/-- The times of the passes and the period ends they find are instants. -/
def HeldInstants (p : Database × AccountEvent) : Prop :=
  match p.2 with
  | .maintained event => HoldsInstants (p.1, event)
  | .createPendingMidtransPayment _ => True

instance (p : Database × AccountEvent) : Decidable (HeldInstants p) := by
  unfold HeldInstants
  exact match p.2 with
  | .maintained event => inferInstanceAs (Decidable (HoldsInstants (p.1, event)))
  | .createPendingMidtransPayment _ => inferInstanceAs (Decidable True)

/-- The sanctions of every run are consistent and dated by its passes, or by earlier ones. -/
theorem sanctionKept_of_run {earlier : List ℤ} {subscriptionId : ℤ}
    (hstart : (db.account subscriptionId).SanctionKept earlier)
    (run : Run Database.accounted db tr db')
    (hordered : (earlier ++ accountTimes tr).Pairwise (· ≤ ·))
    (hinstants : ∀ p ∈ tr, HeldInstants p) :
    (db'.account subscriptionId).SanctionKept (earlier ++ accountTimes tr) := by
  induction run with
  | nil => exact hstart.mono (List.subset_append_left _ _)
  | @snoc tr db₁ db₂ event _ hstep ih =>
      rw [accountTimes_snoc, ← List.append_assoc] at hordered ⊢
      obtain ⟨hbefore, -, hlast⟩ := List.pairwise_append.1 hordered
      have hkept := ih hbefore fun p hp => hinstants p (List.mem_append_left _ hp)
      have hinstant := hinstants (db₁, event) (List.mem_append_right _ (List.mem_singleton_self _))
      cases event with
      | createPendingMidtransPayment event =>
          rw [Database.accounted] at hstep
          split at hstep
          · obtain rfl := Option.some.inj hstep
            exact hkept.mono (List.subset_append_left _ _)
          · cases hstep
      | maintained event =>
          refine sanctionKept_step hkept hstep ?_ hinstant
          intro now hnow time htime
          exact hlast time htime now (Option.mem_toList.2 hnow)

end Sanctions

/-! ### The stages and the instant -/

section Stages

variable {record : MaintenanceRecord} {now : ℤ}

theorem lifecycleState_withdrawalRequired (record : MaintenanceRecord) (now : ℤ) :
    (record.lifecycleState now).withdrawalRequired = record.withdrawalRequired := by
  rcases daysUntilExpiry_cases record now with h | ⟨days, hdays, hpos, hle⟩ | hdays |
    ⟨days, hdays, hpos, hle⟩ | ⟨days, hdays, hlate⟩
  · rw [lifecycleState_early h]
  · rw [lifecycleState_preExpiry hdays hpos hle]
  · rw [lifecycleState_expiryDay hdays]
  · rw [lifecycleState_overdue hdays hpos hle]
  · rw [lifecycleState_withdrawal hdays hlate]

/-- The first two stages are before the day of the period end. -/
theorem wibDate_lt_of_stage (h : (record.lifecycleState now).stage = .active ∨
    (record.lifecycleState now).stage = .preExpiry) :
    wibDate now < wibDate record.currentPeriodEndAt := by
  have hdaysEq := daysUntilExpiryWib_eq record.currentPeriodEndAt now
  rcases daysUntilExpiry_cases record now with hearly | ⟨days, hdays, hpos, hle⟩ | hdays |
    ⟨days, hdays, hpos, hle⟩ | ⟨days, hdays, hlate⟩
  · omega
  · omega
  · simp [lifecycleState_expiryDay hdays] at h
  · simp [lifecycleState_overdue hdays hpos hle] at h
  · simp [lifecycleState_withdrawal hdays hlate] at h

/-- The last two stages are after the day of the period end. -/
theorem wibDate_gt_of_stage (h : (record.lifecycleState now).stage = .overdue ∨
    (record.lifecycleState now).stage = .withdrawalRequired) :
    wibDate record.currentPeriodEndAt < wibDate now := by
  have hdaysEq := daysUntilExpiryWib_eq record.currentPeriodEndAt now
  rcases daysUntilExpiry_cases record now with hearly | ⟨days, hdays, hpos, hle⟩ | hdays |
    ⟨days, hdays, hpos, hle⟩ | ⟨days, hdays, hlate⟩
  · simp [lifecycleState_early hearly] at h
  · simp [lifecycleState_preExpiry hdays hpos hle] at h
  · simp [lifecycleState_expiryDay hdays] at h
  · omega
  · omega

theorem lt_of_wibDate_lt {a b : ℤ} (h : wibDate a < wibDate b) : a < b := by
  by_contra hle
  exact absurd (wibDate_mono (not_lt.1 hle)) (not_le.2 h)

/-- Up to the period end there is no fine. -/
theorem fineAmountIdr_eq_zero (h : now ≤ record.currentPeriodEndAt) :
    (record.lifecycleState now).fineAmountIdr = 0 := by
  have hdate := wibDate_mono h
  rw [lifecycleState_fineAmountIdr]
  unfold fineAmountForOverdueDays overdueDaysWib subscriptionMaxFineDays subscriptionDailyFineIdr
  omega

end Stages

/-! ### A line of the page -/

/-- A line says what the bot's gate does with its user. -/
structure SubscriptionResponse.AgreesWithGate (line : SubscriptionResponse) (now : ℤ)
    (isOpen : Bool) : Prop where
  period : isOpen = true ↔ ∃ periodEnd ∈ line.currentPeriodEndAt, now < periodEnd
  ahead : line.lifecycleStage = .active ∨ line.lifecycleStage = .preExpiry → isOpen = true
  behind : line.lifecycleStage = .overdue ∨ line.lifecycleStage = .withdrawalRequired →
    isOpen = false
  clear : isOpen = true → line.fineAmountIdr = 0 ∧ line.withdrawalRequired = false

namespace OperatorTables

variable {tables : OperatorTables} {times : List ℤ} {now : ℤ} {row : Subscription}

/-- While the period runs no withdrawal is on record. -/
theorem withdrawalRequired_eq_false
    (hkept : (tables.db.account row.id).SanctionKept times) (hrow : row ∈ tables.db.subscriptions)
    {periodEnd : ℤ} (hend : row.currentPeriodEndAt = some periodEnd) (hlt : now < periodEnd)
    (hnow : ∀ time ∈ times, time ≤ now) :
    ((tables.db.sanctionOf row.id).map Sanction.withdrawalRequired).getD false = false := by
  cases hsanction : tables.db.sanctionOf row.id with
  | none => rfl
  | some sanction =>
      obtain ⟨hconsistent, hdated⟩ := hkept sanction hsanction
      have hread : (tables.db.account row.id).periodEnd = some periodEnd := by
        have haccount : (tables.db.account row.id).subscription = some row :=
          (rowAt_eq_some_iff tables.db.subscriptions_id).2 ⟨hrow, rfl⟩
        rw [Account.periodEnd, haccount]
        exact hend
      rw [hread] at hconsistent
      by_contra hflag
      obtain ⟨day, hday, hlate⟩ := hconsistent.withdrawal.1 (by simpa using hflag)
      -- the overdue day is that of a pass, which would have come after the period end
      have hle := hdated.overdueDay_le hconsistent hnow day hday
      have hdate := wibDate_mono hlt.le
      omega

/-- The line of a subscription agrees with the gate. -/
theorem agreesWithGate_subscriptionResponse (hserved : Served times tables.db)
    (hkept : (tables.db.account row.id).SanctionKept times)
    (hnow : ∀ time ∈ times, time ≤ now) (hrow : row ∈ tables.db.subscriptions)
    (user : TelegramUserRow) :
    (tables.subscriptionResponse now row user).AgreesWithGate now
      (hasActiveSubscription tables.db.subscriptions row.telegramUserId now) := by
  obtain ⟨-, periodEnd, hend, -⟩ := hserved.subscriptions row hrow
  have hread : tables.db.periodEndOf row.telegramUserId = some periodEnd :=
    mem_periodEndOf_iff.2 ⟨row, hrow, rfl, hend⟩
  have hgate : hasActiveSubscription tables.db.subscriptions row.telegramUserId now = true ↔
      now < periodEnd := by
    rw [hserved.gate_iff hnow, hread]
    exact ⟨fun ⟨_, h, hlt⟩ => Option.some.inj h ▸ hlt, fun hlt => ⟨periodEnd, rfl, hlt⟩⟩
  -- the stage is that of the record a pass would read
  obtain ⟨record, hrecord⟩ : ∃ record, maintenanceRecord row (tables.db.sanctionOf row.id) =
      some record := ⟨_, congrArg (Option.map _) hend⟩
  have hperiodEnd : record.currentPeriodEndAt = periodEnd := by
    obtain ⟨recorded, hrecorded, rfl⟩ := Option.map_eq_some_iff.1 hrecord
    exact Option.some.inj (hrecorded.symm.trans hend)
  have hstate : subscriptionLifecycleState row.currentPeriodEndAt now
      ((tables.db.sanctionOf row.id).bind Sanction.lastPreExpiryRemindedForPeriodEndAt)
      ((tables.db.sanctionOf row.id).bind Sanction.lastPreExpiryRemindedDay)
      ((tables.db.sanctionOf row.id).bind Sanction.lastOverdueRemindedDay)
      (((tables.db.sanctionOf row.id).map Sanction.withdrawalRequired).getD false)
      ((tables.db.sanctionOf row.id).bind Sanction.resolvedAt) = record.lifecycleState now := by
    obtain ⟨recorded, hrecorded, rfl⟩ := Option.map_eq_some_iff.1 hrecord
    rw [hrecorded]
    rfl
  have hflag : record.withdrawalRequired =
      ((tables.db.sanctionOf row.id).map Sanction.withdrawalRequired).getD false := by
    obtain ⟨recorded, -, rfl⟩ := Option.map_eq_some_iff.1 hrecord
    rfl
  refine ⟨?_, ?_, ?_, ?_⟩
  · rw [hgate]
    exact ⟨fun hlt => ⟨periodEnd, hend, hlt⟩, fun ⟨_, h, hlt⟩ =>
      Option.some.inj (hend.symm.trans h) ▸ hlt⟩
  · intro hstage
    simp only [subscriptionResponse, hstate] at hstage
    rw [hgate, ← hperiodEnd]
    exact lt_of_wibDate_lt (wibDate_lt_of_stage hstage)
  · intro hstage
    simp only [subscriptionResponse, hstate] at hstage
    rw [← Bool.not_eq_true, hgate, ← hperiodEnd, not_lt]
    exact (lt_of_wibDate_lt (wibDate_gt_of_stage hstage)).le
  · intro hopen
    have hlt := hgate.1 hopen
    simp only [subscriptionResponse, hstate, lifecycleState_withdrawalRequired, hflag]
    exact ⟨fineAmountIdr_eq_zero (hperiodEnd.symm ▸ hlt.le),
      withdrawalRequired_eq_false hkept hrow hend hlt hnow⟩

end OperatorTables

/-! ### The lines of the page -/

section Lines

variable {order : SortOrder}

theorem SortOrder.le_trans (a b c : Subscription) (hab : order.le a b = true)
    (hbc : order.le b c = true) : order.le a c = true := by
  unfold SortOrder.le at *
  cases ha : a.currentPeriodEndAt with
  | none =>
      cases hb : b.currentPeriodEndAt with
      | none =>
          simp only [ha, hb, SortOrder.endsBefore, Bool.false_or, decide_eq_true_eq, true_and] at *
          exact ⟨hbc.1, hab.trans hbc.2⟩
      | some y => simp [ha, hb, SortOrder.endsBefore] at hab
  | some x =>
      cases hb : b.currentPeriodEndAt with
      | none =>
          cases hc : c.currentPeriodEndAt with
          | none => simp [SortOrder.endsBefore]
          | some z => simp [hb, hc, SortOrder.endsBefore] at hbc
      | some y =>
          cases hc : c.currentPeriodEndAt with
          | none => simp [SortOrder.endsBefore]
          | some z =>
              cases order with
              | asc =>
                  simp only [ha, hb, hc, SortOrder.endsBefore, Bool.or_eq_true, decide_eq_true_eq,
                    Option.some_inj] at *
                  omega
              | desc =>
                  simp only [ha, hb, hc, SortOrder.endsBefore, Bool.or_eq_true, decide_eq_true_eq,
                    Option.some_inj] at *
                  omega

theorem SortOrder.le_total (a b : Subscription) : (order.le a b || order.le b a) = true := by
  unfold SortOrder.le
  cases ha : a.currentPeriodEndAt with
  | none =>
      cases hb : b.currentPeriodEndAt with
      | none =>
          simp only [SortOrder.endsBefore, Bool.false_or, Bool.or_eq_true, decide_eq_true_eq,
            true_and]
          exact Int.le_total _ _
      | some y => simp [SortOrder.endsBefore]
  | some x =>
      cases hb : b.currentPeriodEndAt with
      | none => simp [SortOrder.endsBefore]
      | some y =>
          cases order with
          | asc =>
              simp only [SortOrder.endsBefore, Bool.or_eq_true, decide_eq_true_eq, Option.some_inj]
              omega
          | desc =>
              simp only [SortOrder.endsBefore, Bool.or_eq_true, decide_eq_true_eq, Option.some_inj]
              omega

/-- A line stands before another: by the period ends, the missing ones last, then by the users. -/
def SortOrder.Before (order : SortOrder) (a b : SubscriptionResponse) : Prop :=
  order.endsBefore a.currentPeriodEndAt b.currentPeriodEndAt = true ∨
    a.currentPeriodEndAt = b.currentPeriodEndAt ∧ a.telegramUserId ≤ b.telegramUserId

end Lines

namespace OperatorTables

variable {tables : OperatorTables} {order : SortOrder} {now : ℤ}

theorem exists_userOf {row : Subscription} (hrow : row ∈ tables.db.subscriptions) :
    ∃ user, tables.userOf row = some user := by
  obtain ⟨user, huser, hid⟩ := List.mem_map.1 (tables.subscriptions_telegramUserId row hrow)
  cases hread : tables.userOf row with
  | none => exact absurd hid (rowAt_eq_none_iff.1 hread user huser)
  | some found => exact ⟨found, rfl⟩

theorem mem_subscriptionLines {line : SubscriptionResponse} :
    line ∈ tables.subscriptionLines order now ↔
      ∃ row ∈ tables.db.subscriptions, ∃ user, tables.userOf row = some user ∧
        tables.subscriptionResponse now row user = line := by
  simp only [subscriptionLines, List.mem_filterMap, List.mem_mergeSort, Option.map_eq_some_iff]

/-- What a line has of its subscription is that of the sorted subscriptions. -/
theorem map_subscriptionLines {α : Type} {f : SubscriptionResponse → α} {g : Subscription → α}
    (hfg : ∀ row user, f (tables.subscriptionResponse now row user) = g row) :
    (tables.subscriptionLines order now).map f =
      (tables.db.subscriptions.mergeSort order.le).map g := by
  rw [subscriptionLines, List.map_filterMap, ← List.filterMap_eq_map]
  refine List.filterMap_congr fun row hrow => ?_
  obtain ⟨user, huser⟩ := exists_userOf (List.mem_mergeSort.1 hrow)
  rw [huser]
  exact congrArg some (hfg row user)

/-- Every subscription is on one line. -/
theorem subscriptionLines_perm :
    ((tables.subscriptionLines order now).map SubscriptionResponse.telegramUserId).Perm
      (tables.db.subscriptions.map Subscription.telegramUserId) := by
  rw [map_subscriptionLines fun _ _ => rfl]
  exact (List.mergeSort_perm _ _).map _

theorem pairwise_subscriptionLines :
    (tables.subscriptionLines order now).Pairwise order.Before := by
  have hsorted : (tables.db.subscriptions.mergeSort order.le).Pairwise fun a b =>
      order.le a b = true := List.pairwise_mergeSort SortOrder.le_trans SortOrder.le_total _
  have hkeys : (tables.subscriptionLines order now).map
      (fun line => (line.currentPeriodEndAt, line.telegramUserId)) =
        (tables.db.subscriptions.mergeSort order.le).map
          fun row => (row.currentPeriodEndAt, row.telegramUserId) :=
    map_subscriptionLines fun _ _ => rfl
  have hpairs : ((tables.db.subscriptions.mergeSort order.le).map
      fun row => (row.currentPeriodEndAt, row.telegramUserId)).Pairwise fun a b =>
        order.endsBefore a.1 b.1 = true ∨ a.1 = b.1 ∧ a.2 ≤ b.2 := by
    refine List.pairwise_map.2 (hsorted.imp fun {a b} hab => ?_)
    simpa [SortOrder.le] using hab
  rw [← hkeys] at hpairs
  exact (List.pairwise_map.1 hpairs).imp fun hab => hab

end OperatorTables

/-- **The page and the gate agree**: in every run of orders, of passes in the order of their times,
each ending wherever a call fails, and of webhooks, from what earlier passes have left, the page
that is shown after the passes has every subscription on one line, in the order that was asked for;
its stages, its fine and its flag are those of a user who gets through exactly while the period on
the line runs; and the first payment on a line stays the first, as long as none is received before
it. -/
theorem page_agrees_with_gate {db : Database} {tables : OperatorTables}
    {tr : List (Database × AccountEvent)} {earlier : List ℤ} {now : ℤ}
    (hserved : Served earlier db)
    (hkept : ∀ subscriptionId, (db.account subscriptionId).SanctionKept earlier)
    (run : Run Database.accounted db tr tables.db)
    (hordered : (earlier ++ accountTimes tr).Pairwise (· ≤ ·))
    (hinstants : ∀ p ∈ tr, HeldInstants p) (hnow : ∀ time ∈ earlier ++ accountTimes tr, time ≤ now)
    {sortOrder : Option String} {lines : List SubscriptionResponse}
    (hpage : tables.getSubscriptions sortOrder now = some lines) :
    (∃ order, SortOrder.parse sortOrder = some order ∧ lines.Pairwise order.Before) ∧
      (lines.map SubscriptionResponse.telegramUserId).Perm
        (tables.db.subscriptions.map Subscription.telegramUserId) ∧
      ∀ line ∈ lines,
        line.AgreesWithGate now
            (hasActiveSubscription tables.db.subscriptions line.telegramUserId now) ∧
          ∀ first ∈ line.firstSubscribedAt, ∀ tr' db',
            Run Database.accounted tables.db tr' db' →
              (∀ p ∈ tr', ∀ paidAt ∈ p.2.billedAt, first ≤ paidAt) →
                db'.firstSubscribedAt line.telegramUserId = some first := by
  obtain ⟨order, horder, rfl⟩ := Option.map_eq_some_iff.1 hpage
  refine ⟨⟨order, horder, tables.pairwise_subscriptionLines⟩, tables.subscriptionLines_perm,
    fun line hline => ?_⟩
  obtain ⟨row, hrow, user, -, rfl⟩ := OperatorTables.mem_subscriptionLines.1 hline
  refine ⟨?_, ?_⟩
  · exact OperatorTables.agreesWithGate_subscriptionResponse (served_of_run hserved run)
      (sanctionKept_of_run (hkept row.id) run hordered hinstants) hnow hrow user
  · intro first hfirst tr' db' run' hlater
    exact firstSubscribedAt_of_run run' hfirst hlater

/-- A user whose subscription is overdue, paid, and overdue again, bound to a device. -/
def operatorRegistry : Registry where
  telegramUsers := [⟨12345, 12345, some "866221070478388", "bound"⟩]
  devices := [⟨1, "866221070478388", "ojol", none, none⟩]
  telegramUsers_telegramUserId := List.nodup_singleton _
  devices_id := List.nodup_singleton _
  devices_imei := List.nodup_singleton _

theorem replay_paidAfterExpiry_operator :
    (replay (fun db event =>
        if decide (HeldInstants (db, event)) then Database.accounted db event else none)
      pastDueDatabase paidAfterExpiry).any (fun db => decide
        (db.subscriptions.map Subscription.telegramUserId = [12345])) = true := by
  decide +kernel

/-- The day after the last pass the page has one line, and it agrees with the gate. -/
theorem page_agrees_with_gate_paidAfterExpiry :
    ∃ tr, ∃ tables : OperatorTables, tr.map Prod.snd = paidAfterExpiry ∧
      Run Database.accounted pastDueDatabase tr tables.db ∧
      ∃ line, tables.getSubscriptions (some "DESC") (1777111200000000 + days 2) = some [line] ∧
        line.telegramUserId = 12345 ∧
        line.AgreesWithGate (1777111200000000 + days 2)
          (hasActiveSubscription tables.db.subscriptions 12345 (1777111200000000 + days 2)) := by
  obtain ⟨tr, db, hevents, run, hinstants, husers⟩ :=
    run_of_replay_checked replay_paidAfterExpiry_operator
  have husers := of_decide_eq_true husers
  have htimes : accountTimes tr = paidAfterExpiry.filterMap AccountEvent.passTime := by
    rw [← hevents, List.filterMap_map]
    rfl
  have hknown : ∀ row ∈ db.subscriptions, row.telegramUserId ∈
      operatorRegistry.telegramUsers.map TelegramUserRow.telegramUserId := by
    intro row hrow
    have hmem := List.mem_map_of_mem (f := Subscription.telegramUserId) hrow
    rwa [husers] at hmem
  have hkept : ∀ subscriptionId,
      (pastDueDatabase.account subscriptionId).SanctionKept [1777111200000000 - days 1] := by
    intro subscriptionId sanction hsanction
    cases hsanction
  have hordered : ([1777111200000000 - days 1] ++ accountTimes tr).Pairwise (· ≤ ·) := by
    rw [htimes]
    decide
  have hnow : ∀ time ∈ [1777111200000000 - days 1] ++ accountTimes tr,
      time ≤ 1777111200000000 + days 2 := by
    rw [htimes]
    decide
  have hpage : (OperatorTables.mk db operatorRegistry [] hknown).getSubscriptions (some "DESC")
      (1777111200000000 + days 2) = some _ := congrArg (Option.map _)
    (show SortOrder.parse (some "DESC") = some .desc by decide +kernel)
  have run' : Run Database.accounted pastDueDatabase tr
      (OperatorTables.mk db operatorRegistry [] hknown).db := run
  obtain ⟨-, hperm, hlines⟩ := page_agrees_with_gate served_pastDueDatabase hkept run' hordered
    (fun p hp => of_decide_eq_true (hinstants p hp)) hnow hpage
  rw [husers, List.perm_singleton] at hperm
  obtain ⟨line, hline, huser⟩ := List.map_eq_singleton_iff.1 hperm
  refine ⟨tr, ⟨db, operatorRegistry, [], hknown⟩, hevents, run, line, ?_, huser, ?_⟩
  · rw [hpage, hline]
  · have hagrees := (hlines line (hline ▸ List.mem_singleton_self line)).1
    rwa [huser] at hagrees

end Gt06
