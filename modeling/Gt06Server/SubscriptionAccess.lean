/-
**What a payment buys.**

The bot's commands are gated by the status of a subscription and by its period end.  The webhook
sets both, and the daily job sets the status, by the date, as far as it comes before a call fails.
So the two columns need not agree: a subscription may still be active after its period end, if the
job has not come to it, and it would be locked out before its period end, if the job ever marked it
too early.

Main definitions:

* `Gt06.AccountEvent`, `Gt06.Database.accounted` — orders, passes that may end early, and webhooks,
  one after the other;
* `Gt06.Subscription.Served` — the status is that of the period;
* `Gt06.Served` — what every run keeps, and where one may begin.

Main results:

* `Gt06.mem_subscriptions_passUpTo` — what a pass makes of the subscriptions;
* `Gt06.served_step` — **every event keeps the statuses with the periods**;
* `Gt06.access_until_period_end` — **the gate is open up to the period end and no longer**, and a
  payment keeps it open for the period it is for, whatever comes later.
-/

import Gt06Server.SanctionRows
import Gt06Server.ShipmentFee

set_option relaxedAutoImplicit false
set_option autoImplicit false

namespace Gt06

open Relational Await

/-! ### Runs -/

/-- A plan that the gate knows. -/
def IsOfferedPlan (planCode : String) : Prop :=
  planCode = midtransBasicPlanCode ∨ planCode = midtransOjolPlanCode

instance (planCode : String) : Decidable (IsOfferedPlan planCode) :=
  inferInstanceAs (Decidable (_ ∨ _))

inductive AccountEvent where
  | createPendingMidtransPayment (event : PaymentEvent)
  | maintained (event : SanctionEvent)

/-- The row is one that a tap stores: pending, with new keys and a plan that is offered. -/
def Database.Accepts (db : Database) (event : PaymentEvent) : Prop :=
  ((∀ e ∈ db.paymentEvents, e.id ≠ event.id) ∧
      ∀ e ∈ db.paymentEvents, e.providerOrderId ≠ event.providerOrderId) ∧
    event.paymentStatus = .pending ∧ event.paidAt = none ∧ IsOfferedPlan event.planCode

instance (db : Database) (event : PaymentEvent) : Decidable (db.Accepts event) :=
  inferInstanceAs (Decidable (_ ∧ _))

def Database.accounted (db : Database) : AccountEvent → Option Database
  | .createPendingMidtransPayment event =>
      if h : db.Accepts event then some (db.insertPaymentEvent event h.1.1 h.1.2) else none
  | .maintained event => db.maintained event

def AccountEvent.passTime : AccountEvent → Option ℤ
  | .createPendingMidtransPayment _ => none
  | .maintained event => event.passTime

/-- The times of the passes of a run. -/
def accountTimes (tr : List (Database × AccountEvent)) : List ℤ :=
  tr.filterMap fun p => p.2.passTime

/-! ### What a pass makes of the subscriptions -/

section Pass

variable {db₀ db db' : Database} {now subscriptionId : ℤ} {statement : MaintenanceStatement}
  {statements : List MaintenanceStatement} {status : SubscriptionStatus}

/-- The period of the subscription ended on an earlier day. -/
def Database.Overdue (db : Database) (now subscriptionId : ℤ) : Prop :=
  ∃ row ∈ db.subscriptions, row.id = subscriptionId ∧
    ∃ periodEnd ∈ row.currentPeriodEndAt, wibDate periodEnd < wibDate now

/-- The row is as it was, or past due because its period has ended. -/
def Database.Marks (db : Database) (now : ℤ) (row : Subscription) : Prop :=
  row ∈ db.subscriptions ∨
    ∃ stored ∈ db.subscriptions, row = { stored with status := .pastDue } ∧
      db.Overdue now stored.id

/-- Only after the expiry a status is set. -/
theorem overdue_of_setSubscriptionStatus {record : MaintenanceRecord}
    (h : .setSubscriptionStatus subscriptionId status ∈ record.statements now) :
    status = .pastDue ∧ record.subscriptionId = subscriptionId ∧
      wibDate record.currentPeriodEndAt < wibDate now := by
  have hdaysEq := daysUntilExpiryWib_eq record.currentPeriodEndAt now
  unfold MaintenanceRecord.statements at h
  rcases daysUntilExpiry_cases record now with hearly | ⟨days, hdays, hpos, hle⟩ | hdays |
    ⟨days, hdays, hpos, hle⟩ | ⟨days, hdays, hlate⟩
  · simp [action_early hearly] at h
  · rw [action_preExpiry hdays hpos hle] at h
    by_cases hsent : record.PreExpirySent days
    · simp [hsent] at h
    · simp [hsent, markPreExpiryReminderSent, upsertSanctionState] at h
  · rw [action_expiryDay hdays] at h
    by_cases hsent : record.PreExpirySent 0
    · simp [hsent] at h
    · simp [hsent, markPreExpiryReminderSent, upsertSanctionState] at h
  · rw [action_overdue hdays hpos hle] at h
    by_cases hsent : record.judgedOverdueDay = some days
    · simp [hsent] at h
    · simp [hsent, markOverdueReminderSent, upsertSanctionState] at h
      exact ⟨h.2, h.1.symm, by omega⟩
  · rw [action_withdrawal hdays hlate] at h
    by_cases hflag : record.withdrawalRequired = true
    · simp [hflag] at h
    · simp [hflag, markWithdrawalRequired, upsertSanctionState] at h
      exact ⟨h.2, h.1.symm, by omega⟩

/-- A pass sets no status but that of a subscription whose period has ended. -/
theorem overdue_of_mem_maintenanceStatements
    (h : .setSubscriptionStatus subscriptionId status ∈
      maintenanceStatements now (fetchSubscriptionMaintenanceRecords db)) :
    status = .pastDue ∧ db.Overdue now subscriptionId := by
  obtain ⟨record, hrecord, hstatement⟩ := List.mem_flatMap.1 h
  obtain ⟨hstatus, rfl, hdate⟩ := overdue_of_setSubscriptionStatus hstatement
  obtain ⟨row, hrow, -, hread⟩ := mem_fetchSubscriptionMaintenanceRecords.1 hrecord
  refine ⟨hstatus, row, hrow, (subscriptionId_maintenanceRecord hread).symm, ?_⟩
  obtain ⟨periodEnd, hend, rfl⟩ := Option.map_eq_some_iff.1 hread
  exact ⟨periodEnd, hend, hdate⟩

theorem marks_execute (hrows : ∀ row ∈ db.subscriptions, db₀.Marks now row)
    (hset : ∀ id status, statement = .setSubscriptionStatus id status →
      status = .pastDue ∧ db₀.Overdue now id)
    (hstep : statement.execute db = some db') :
    ∀ row ∈ db'.subscriptions, db₀.Marks now row := by
  cases statement with
  | sendMessage chatId message =>
      obtain rfl : db = db' := Option.some.inj hstep
      exact hrows
  | setSubscriptionStatus id status =>
      obtain rfl : db.setSubscriptionStatus id status = db' := Option.some.inj hstep
      obtain ⟨rfl, hoverdue⟩ := hset id status rfl
      intro row hrow
      obtain ⟨stored, hstored, rfl⟩ := mem_setSubscriptionStatus.1 hrow
      by_cases hid : stored.id = id
      · subst hid
        rw [if_pos rfl]
        rcases hrows stored hstored with hmem | ⟨first, hmem, rfl, hdue⟩
        · exact Or.inr ⟨stored, hmem, rfl, hoverdue⟩
        · exact Or.inr ⟨first, hmem, rfl, hdue⟩
      · rw [if_neg hid]
        exact hrows stored hstored
  | upsertSanctionState values =>
      obtain ⟨excluded, -, rfl⟩ := Option.map_eq_some_iff.1 hstep
      rw [subscriptions_upsertSanction]
      exact hrows

/-- Wherever the calls fail, the statuses that were set are those of ended periods. -/
theorem marks_runUntilFailure {fails : MaintenanceStatement → Bool}
    (hrows : ∀ row ∈ db.subscriptions, db₀.Marks now row)
    (hset : ∀ id status, .setSubscriptionStatus id status ∈ statements →
      status = .pastDue ∧ db₀.Overdue now id) :
    ∀ row ∈ (runUntilFailure fails statements db).subscriptions, db₀.Marks now row := by
  induction statements generalizing db with
  | nil => exact hrows
  | cons statement statements ih =>
      have hrest : ∀ id status, .setSubscriptionStatus id status ∈ statements →
          status = .pastDue ∧ db₀.Overdue now id :=
        fun id status h => hset id status (List.mem_cons_of_mem _ h)
      rw [runUntilFailure]
      split
      · exact hrows
      · cases hstep : statement.execute db with
        | none => exact hrows
        | some db' =>
            refine ih (marks_execute hrows ?_ hstep) hrest
            rintro id status rfl
            exact hset id status List.mem_cons_self

/-- A pass leaves a subscription as it was, or marks it as past due once its period has ended. -/
theorem mem_subscriptions_passUpTo {calls : ℕ} {row : Subscription}
    (h : row ∈ (passUpTo calls db now).subscriptions) : db.Marks now row := by
  refine marks_runUntilFailure (fun row hrow => Or.inl hrow) ?_ row h
  intro id status hmem
  exact overdue_of_mem_maintenanceStatements (List.mem_of_mem_take hmem)

theorem periodEndOf_execute (hstep : statement.execute db = some db') (user : ℤ) :
    db'.periodEndOf user = db.periodEndOf user := by
  cases statement with
  | sendMessage chatId message => rw [← Option.some.inj hstep]
  | setSubscriptionStatus id status =>
      obtain rfl : db.setSubscriptionStatus id status = db' := Option.some.inj hstep
      have hkey : ∀ row : Subscription,
          { row with status := status }.telegramUserId = row.telegramUserId := fun _ => rfl
      have hread : (db.setSubscriptionStatus id status).subscriptionOf user =
          (db.subscriptionOf user).map fun row =>
            if row.id = id then { row with status := status } else row :=
        rowAt_updateAt hkey _ _ _
      unfold Database.periodEndOf
      rw [hread]
      cases db.subscriptionOf user with
      | none => rfl
      | some row =>
          simp only [Option.map_some, Option.bind_some]
          split
          · rfl
          · rfl
  | upsertSanctionState values =>
      obtain ⟨excluded, -, rfl⟩ := Option.map_eq_some_iff.1 hstep
      simp only [Database.periodEndOf, Database.subscriptionOf, subscriptions_upsertSanction]

/-- A pass moves no period end. -/
theorem periodEndOf_runUntilFailure (fails : MaintenanceStatement → Bool) (user : ℤ) :
    (runUntilFailure fails statements db).periodEndOf user = db.periodEndOf user := by
  induction statements generalizing db with
  | nil => rfl
  | cons statement statements ih =>
      rw [runUntilFailure]
      split
      · rfl
      · cases hstep : statement.execute db with
        | none => rfl
        | some db' => exact ih.trans (periodEndOf_execute hstep user)

end Pass

/-! ### What every run keeps -/

/-- The status is that of the period: active, or past due once a pass has come after its end. -/
def Subscription.Served (times : List ℤ) (row : Subscription) : Prop :=
  IsOfferedPlan row.planCode ∧ ∃ periodEnd ∈ row.currentPeriodEndAt,
    row.status = .active ∨
      row.status = .pastDue ∧ ∃ time ∈ times, wibDate periodEnd < wibDate time

theorem Subscription.Served.mono {times times' : List ℤ} {row : Subscription}
    (h : row.Served times) (hsubset : times ⊆ times') : row.Served times' := by
  obtain ⟨hplan, periodEnd, hend, hactive | ⟨hstatus, time, htime, hdate⟩⟩ := h
  · exact ⟨hplan, periodEnd, hend, Or.inl hactive⟩
  · exact ⟨hplan, periodEnd, hend, Or.inr ⟨hstatus, time, hsubset htime, hdate⟩⟩

/-- The orders are for plans that are offered, and every subscription is served by its period. -/
structure Served (times : List ℤ) (db : Database) : Prop where
  events : ∀ event ∈ db.paymentEvents, IsOfferedPlan event.planCode
  subscriptions : ∀ row ∈ db.subscriptions, row.Served times

theorem Served.mono {times times' : List ℤ} {db : Database} (h : Served times db)
    (hsubset : times ⊆ times') : Served times' db :=
  ⟨h.events, fun row hrow => (h.subscriptions row hrow).mono hsubset⟩

section Step

variable {db db' : Database} {times : List ℤ}

theorem paymentEvents_execute {statement : MaintenanceStatement}
    (hstep : statement.execute db = some db') : db'.paymentEvents = db.paymentEvents := by
  cases statement with
  | sendMessage chatId message => rw [← Option.some.inj hstep]
  | setSubscriptionStatus id status =>
      rw [← Option.some.inj hstep]
      rfl
  | upsertSanctionState values =>
      obtain ⟨excluded, -, rfl⟩ := Option.map_eq_some_iff.1 hstep
      unfold Database.upsertSanction
      split
      · rfl
      · rfl

theorem paymentEvents_runUntilFailure (fails : MaintenanceStatement → Bool)
    (statements : List MaintenanceStatement) (db : Database) :
    (runUntilFailure fails statements db).paymentEvents = db.paymentEvents := by
  induction statements generalizing db with
  | nil => rfl
  | cons statement statements ih =>
      rw [runUntilFailure]
      split
      · rfl
      · cases hstep : statement.execute db with
        | none => rfl
        | some db' => exact (ih db').trans (paymentEvents_execute hstep)

theorem Served.pass (h : Served times db) (now : ℤ) (calls : ℕ) :
    Served (times ++ [now]) (passUpTo calls db now) := by
  refine ⟨?_, fun row hrow => ?_⟩
  · rw [passUpTo, paymentEvents_runUntilFailure]
    exact h.events
  · rcases mem_subscriptions_passUpTo hrow with hmem | ⟨stored, hstored, rfl, hoverdue⟩
    · exact (h.subscriptions row hmem).mono (List.subset_append_left _ _)
    · -- the period end is that of the row the pass has read
      obtain ⟨read, hread, hid, periodEnd, hend, hdate⟩ := hoverdue
      rw [db.subscriptions_id.eq_of_key_eq hread hstored hid] at hend
      refine ⟨(h.subscriptions stored hstored).1, periodEnd, hend, Or.inr ⟨rfl, now, ?_, hdate⟩⟩
      exact List.mem_append_right _ (List.mem_singleton_self now)

theorem planCode_creditedRow (call : WebhookCall) (event : PaymentEvent) :
    (db.creditedRow call event).planCode = event.planCode := by
  unfold Database.creditedRow Database.upsertedSubscription
  cases db.subscriptionOf event.telegramUserId with
  | none => rfl
  | some row => rfl

theorem planCodes_webhook (db : Database) (call : WebhookCall) :
    (applyMidtransWebhook db call).2.paymentEvents.map PaymentEvent.planCode =
      db.paymentEvents.map PaymentEvent.planCode :=
  db.map_applyMidtransWebhook _ call (fun _ => rfl) (fun _ _ => rfl) fun _ _ _ => rfl

theorem forall_planCode_iff {events : List PaymentEvent} :
    (∀ event ∈ events, IsOfferedPlan event.planCode) ↔
      ∀ planCode ∈ events.map PaymentEvent.planCode, IsOfferedPlan planCode :=
  List.forall_mem_map.symm

/-- A webhook leaves the subscriptions alone, or renews that of the payer. -/
theorem mem_subscriptions_webhook {call : WebhookCall} {row : Subscription}
    (h : row ∈ (applyMidtransWebhook db call).2.subscriptions) :
    row ∈ db.subscriptions ∨ ∃ event ∈ db.paymentEvents, row = db.creditedRow call event := by
  rcases (applyMidtransWebhook_step db call).ledger with ⟨-, -, hsubscriptions, -⟩ |
    ⟨event, amount, hfound, -, -, -, -, -, hcredited⟩
  · rw [hsubscriptions] at h
    exact Or.inl h
  · rw [hcredited] at h
    rcases mem_subscriptions_credited.1 h with rfl | ⟨hmem, -⟩
    · exact Or.inr ⟨event, (db.mem_of_paymentEventOf hfound).1, rfl⟩
    · exact Or.inl hmem

theorem Served.webhook (h : Served times db) (call : WebhookCall) :
    Served times (applyMidtransWebhook db call).2 := by
  refine ⟨?_, fun row hrow => ?_⟩
  · rw [forall_planCode_iff, planCodes_webhook, ← forall_planCode_iff]
    exact h.events
  · rcases mem_subscriptions_webhook hrow with hmem | ⟨event, hevent, rfl⟩
    · exact h.subscriptions row hmem
    · refine ⟨?_, _, currentPeriodEndAt_creditedRow, Or.inl ?_⟩
      · rw [planCode_creditedRow]
        exact h.events event hevent
      · exact db.upsertedSubscription_status ..

/-- **Every event keeps the statuses with the periods.** -/
theorem served_step {event : AccountEvent} (h : Served times db)
    (hstep : db.accounted event = some db') : Served (times ++ event.passTime.toList) db' := by
  cases event with
  | createPendingMidtransPayment event =>
      rw [Database.accounted] at hstep
      split at hstep
      · next haccepts =>
          obtain rfl := Option.some.inj hstep
          refine ⟨?_, ?_⟩
          · intro e he
            rcases List.mem_append.1 he with he | he
            · exact h.events e he
            · rw [List.mem_singleton.1 he]
              exact haccepts.2.2.2
          · intro row hrow
            exact (h.subscriptions row hrow).mono (List.subset_append_left _ _)
      · cases hstep
  | maintained event =>
      cases event with
      | pass now calls =>
          obtain rfl := Option.some.inj hstep
          exact h.pass now calls
      | webhook call =>
          obtain rfl := Option.some.inj hstep
          have hnil : (AccountEvent.maintained (.webhook call)).passTime.toList = [] := rfl
          rw [hnil, List.append_nil]
          exact h.webhook call

theorem accountTimes_snoc (tr : List (Database × AccountEvent)) (p : Database × AccountEvent) :
    accountTimes (tr ++ [p]) = accountTimes tr ++ p.2.passTime.toList := by
  rw [accountTimes, List.filterMap_append, accountTimes]
  cases htime : p.2.passTime with
  | none => simp [htime]
  | some now => simp [htime]

/-- A run goes on from what earlier passes have left. -/
theorem served_of_run {tr : List (Database × AccountEvent)} {earlier : List ℤ}
    (hserved : Served earlier db) (run : Run Database.accounted db tr db') :
    Served (earlier ++ accountTimes tr) db' := by
  induction run with
  | nil => exact hserved.mono (List.subset_append_left _ _)
  | snoc _ hstep ih =>
      rw [accountTimes_snoc, ← List.append_assoc]
      exact served_step ih hstep

end Step

/-! ### The gate -/

section Gate

variable {db db' : Database} {times : List ℤ} {now user : ℤ}

theorem hasActiveSubscription_iff {rows : List Subscription} :
    hasActiveSubscription rows user now = true ↔
      ∃ row ∈ rows, row.telegramUserId = user ∧ IsOfferedPlan row.planCode ∧
        row.status = .active ∧ ∃ periodEnd ∈ row.currentPeriodEndAt, now < periodEnd := by
  simp only [hasActiveSubscription, List.any_eq_true, decide_eq_true_eq, IsOfferedPlan]

theorem mem_periodEndOf_iff {periodEnd : ℤ} :
    periodEnd ∈ db.periodEndOf user ↔
      ∃ row ∈ db.subscriptions, row.telegramUserId = user ∧ periodEnd ∈ row.currentPeriodEndAt := by
  rw [Option.mem_def, Database.periodEndOf, Option.bind_eq_some_iff]
  constructor
  · rintro ⟨row, hrow, hend⟩
    obtain ⟨hmem, huser⟩ := mem_of_rowAt (show rowAt Subscription.telegramUserId _ _ = _ from hrow)
    exact ⟨row, hmem, huser, hend⟩
  · rintro ⟨row, hrow, rfl, hend⟩
    exact ⟨row, db.mem_subscriptions_iff.1 hrow, hend⟩

/-- After the passes the gate is open exactly while the period runs. -/
theorem Served.gate_iff (h : Served times db) (hnow : ∀ time ∈ times, time ≤ now) :
    hasActiveSubscription db.subscriptions user now = true ↔
      ∃ periodEnd ∈ db.periodEndOf user, now < periodEnd := by
  rw [hasActiveSubscription_iff]
  constructor
  · rintro ⟨row, hrow, huser, -, -, periodEnd, hend, hlt⟩
    exact ⟨periodEnd, mem_periodEndOf_iff.2 ⟨row, hrow, huser, hend⟩, hlt⟩
  · rintro ⟨periodEnd, hend, hlt⟩
    obtain ⟨row, hrow, huser, hend⟩ := mem_periodEndOf_iff.1 hend
    obtain ⟨hplan, served, hserved, hstatus⟩ := h.subscriptions row hrow
    obtain rfl : periodEnd = served := Option.some.inj (hend.symm.trans hserved)
    rcases hstatus with hactive | ⟨-, time, htime, hdate⟩
    · exact ⟨row, hrow, huser, hplan, hactive, periodEnd, hend, hlt⟩
    · -- a pass that comes after the end of the period is no later than now
      have hle := wibDate_mono (hlt.le.trans' (hnow time htime))
      omega

/-- No event takes anything of a period back. -/
theorem periodEndOf_step {event : AccountEvent} (hstep : db.accounted event = some db') :
    ∀ periodEnd ∈ db.periodEndOf user, ∃ later ∈ db'.periodEndOf user, periodEnd ≤ later := by
  intro periodEnd hend
  cases event with
  | createPendingMidtransPayment event =>
      rw [Database.accounted] at hstep
      split at hstep
      · rw [← Option.some.inj hstep]
        exact ⟨periodEnd, hend, le_rfl⟩
      · cases hstep
  | maintained event =>
      cases event with
      | pass now calls =>
          obtain rfl := Option.some.inj hstep
          rw [passUpTo, periodEndOf_runUntilFailure]
          exact ⟨periodEnd, hend, le_rfl⟩
      | webhook call =>
          obtain rfl := Option.some.inj hstep
          rcases (applyMidtransWebhook_step db call).ledger with ⟨-, -, hsubscriptions, -⟩ |
            ⟨event, amount, -, -, -, -, -, -, hcredited⟩
          · rw [Database.periodEndOf, Database.subscriptionOf, hsubscriptions]
            exact ⟨periodEnd, hend, le_rfl⟩
          · rw [hcredited, periodEndOf_credited]
            split
            · rw [Option.mem_def.1 hend]
              exact ⟨_, rfl, (lt_extendPeriod event.periodDays_pos).le⟩
            · exact ⟨periodEnd, hend, le_rfl⟩

/-- The answer to a payment is the period end that is stored. -/
theorem periodEndOf_of_paid {call : WebhookCall} {record : MidtransSubscriptionRecord}
    (h : (applyMidtransWebhook db call).1 = .ok (.paid record)) :
    (applyMidtransWebhook db call).2.periodEndOf record.telegramUserId =
      record.currentPeriodEndAt := by
  rcases (applyMidtransWebhook_step db call).ledger with ⟨hnone, -⟩ |
    ⟨event, amount, hfound, -, -, -, -, hresult, hcredited⟩
  · exact absurd h (hnone record)
  · rw [hresult] at h
    obtain rfl : db.creditRecord call event = record := by
      injection h with h
      injection h with h
    have huser : (db.creditRecord call event).telegramUserId = event.telegramUserId :=
      db.upsertedSubscription_telegramUserId ..
    rw [hcredited, periodEndOf_credited, huser, if_pos rfl]
    exact currentPeriodEndAt_creditedRow.symm

/-- What was paid for is still to come, or over. -/
theorem periodEnd_of_paid {tr : List (Database × AccountEvent)}
    (run : Run Database.accounted db tr db') {before : Database} {call : WebhookCall}
    (hcall : (before, .maintained (.webhook call)) ∈ tr) {record : MidtransSubscriptionRecord}
    (hpaid : (applyMidtransWebhook before call).1 = .ok (.paid record)) :
    ∀ periodEnd ∈ record.currentPeriodEndAt,
      ∃ later ∈ db'.periodEndOf record.telegramUserId, periodEnd ≤ later := by
  intro periodEnd hend
  induction run with
  | nil => cases hcall
  | @snoc tr db₁ db₂ event _ hstep ih =>
      rcases List.mem_append.1 hcall with hcall | hcall
      · obtain ⟨later, hlater, hle⟩ := ih hcall
        obtain ⟨latest, hlatest, hle'⟩ := periodEndOf_step hstep later hlater
        exact ⟨latest, hlatest, hle.trans hle'⟩
      · obtain ⟨rfl, rfl⟩ := Prod.mk.inj (List.mem_singleton.1 hcall)
        obtain rfl := Option.some.inj hstep
        rw [periodEndOf_of_paid hpaid]
        exact ⟨periodEnd, hend, le_rfl⟩

/-- **The gate is open up to the period end and no longer**: in every run of orders, of passes that
end wherever a call fails, and of webhooks, from what earlier passes have left, a user gets through
at a time after the passes exactly while the period of the user's subscription runs; and whoever
has paid gets through until the period end that the payment was answered with, whatever comes
later. -/
theorem access_until_period_end {tr : List (Database × AccountEvent)} {earlier : List ℤ}
    (hserved : Served earlier db) (run : Run Database.accounted db tr db')
    (hnow : ∀ time ∈ earlier ++ accountTimes tr, time ≤ now) :
    (∀ user, hasActiveSubscription db'.subscriptions user now = true ↔
        ∃ periodEnd ∈ db'.periodEndOf user, now < periodEnd) ∧
      ∀ before call record, (before, .maintained (.webhook call)) ∈ tr →
        (applyMidtransWebhook before call).1 = .ok (.paid record) →
          ∀ periodEnd ∈ record.currentPeriodEndAt, now < periodEnd →
            hasActiveSubscription db'.subscriptions record.telegramUserId now = true := by
  have hserved' := served_of_run hserved run
  refine ⟨fun user => hserved'.gate_iff hnow, ?_⟩
  intro before call record hcall hpaid periodEnd hend hlt
  obtain ⟨later, hlater, hle⟩ := periodEnd_of_paid run hcall hpaid periodEnd hend
  exact (hserved'.gate_iff hnow).2 ⟨later, hlater, hlt.trans_le hle⟩

end Gate

/-- A subscription that a pass has marked on the day after its expiry. -/
def pastDueDatabase : Database := overdueDatabase.setSubscriptionStatus 1 .pastDue

theorem served_pastDueDatabase : Served [1777111200000000 - days 1] pastDueDatabase := by
  refine ⟨by decide, fun row hrow => ?_⟩
  obtain rfl := List.mem_singleton.1 hrow
  exact ⟨Or.inl rfl, _, rfl, Or.inr ⟨rfl, _, List.mem_singleton_self _, by decide⟩⟩

/-- Two days after the expiry a pass comes to the subscription again, the order is paid, and the
next day a pass ends at its first call. -/
def paidAfterExpiry : List AccountEvent :=
  [.maintained (.pass 1777111200000000 3), .maintained (.webhook settledCall),
    .maintained (.pass (1777111200000000 + days 1) 0)]

theorem replay_paidAfterExpiry :
    (replay Database.accounted pastDueDatabase paidAfterExpiry).any (fun db =>
      db.periodEndOf 12345 = some (1777111320000000 + days 30)) = true := by
  decide +kernel

/-- The payer gets through up to the last second, and not at the period end. -/
theorem access_until_period_end_paidAfterExpiry :
    ∃ tr db, tr.map Prod.snd = paidAfterExpiry ∧ Run Database.accounted pastDueDatabase tr db ∧
      hasActiveSubscription db.subscriptions 12345 (1777111319999999 + days 30) = true ∧
      ¬ hasActiveSubscription db.subscriptions 12345 (1777111320000000 + days 30) = true := by
  obtain ⟨tr, db, hevents, run, hend⟩ := run_of_replay_any replay_paidAfterExpiry
  have htimes : accountTimes tr = paidAfterExpiry.filterMap AccountEvent.passTime := by
    rw [← hevents, List.filterMap_map]
    rfl
  have hlast : ∀ time ∈ [1777111200000000 - days 1] ++ accountTimes tr,
      time ≤ 1777111319999999 + days 30 := by
    rw [htimes]
    decide
  have hend' : ∀ time ∈ [1777111200000000 - days 1] ++ accountTimes tr,
      time ≤ 1777111320000000 + days 30 := by
    rw [htimes]
    decide
  have hbefore := (access_until_period_end served_pastDueDatabase run hlast).1 12345
  have hafter := (access_until_period_end served_pastDueDatabase run hend').1 12345
  rw [of_decide_eq_true hend] at hbefore hafter
  refine ⟨tr, db, hevents, run, hbefore.2 ⟨_, rfl, by decide⟩, fun hopen => ?_⟩
  obtain ⟨periodEnd, hperiodEnd, hlt⟩ := hafter.1 hopen
  obtain rfl := Option.some.inj hperiodEnd
  exact lt_irrefl _ hlt

end Gt06
