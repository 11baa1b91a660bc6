/-
**One reminder a day.**

The daily job tells from the sanction of a subscription what it has sent.  The sanction holds one
date at a time: the day of the last reminder, counted from the period end it is stamped with.  As
the days go by and payments move the period end forward, that one date is enough: a subscriber gets
one reminder on every day of the window on which the job runs, and one withdrawal after it.

Main definitions:

* `Gt06.Database.daily` — a pass or a webhook, one after the other;
* `Gt06.remindersFor`, `Gt06.withdrawalsFor` — what a run sends and marks for a period end;
* `Gt06.expectedReminder` — the reminder of a date;
* `Gt06.Noted` — the date a sanction holds;
* `Gt06.dueAction` — what is due on a date, by the date held.

Main results:

* `Gt06.Noted.action_eq` — what is due is told from the date held;
* `Gt06.Noted.pass` — a pass replaces the date held;
* `Gt06.remind_once` — **exactly one reminder on every day of the window**.
-/

import Mathlib
import Gt06Server.Await
import Gt06Server.SubscriptionAccount

set_option relaxedAutoImplicit false
set_option autoImplicit false

namespace Gt06

open Relational Await

/-! ### Runs of the daily job -/

inductive DailyEvent where
  | pass (now : ℤ)
  | webhook (call : WebhookCall)

/-- A pass in which every call succeeds, or a webhook. -/
def Database.daily (db : Database) : DailyEvent → Option Database
  | .pass now => runSubscriptionMaintenance db now
  | .webhook call => some (applyMidtransWebhook db call).2

def DailyEvent.passTime : DailyEvent → Option ℤ
  | .pass now => some now
  | .webhook _ => none

/-- The times of the passes of a run. -/
def passTimes (tr : List (Database × DailyEvent)) : List ℤ :=
  tr.filterMap fun p => p.2.passTime

/-- The statements of a pass for a subscription with a period end. -/
def statementsFor (db : Database) (now subscriptionId periodEnd : ℤ) : List MaintenanceStatement :=
  maintenanceStatements now ((fetchSubscriptionMaintenanceRecords db).filter fun record =>
    record.subscriptionId = subscriptionId ∧ record.currentPeriodEndAt = periodEnd)

def MaintenanceStatement.message : MaintenanceStatement → Option MaintenanceMessage
  | .sendMessage _ message => some message
  | _ => none

/-- The statement marks a withdrawal. -/
def MaintenanceStatement.marksWithdrawal : MaintenanceStatement → Bool
  | .upsertSanctionState values => values.withdrawalRequired
  | _ => false

/-- The reminders sent for a subscription and a period end on a date. -/
def remindersFor (subscriptionId periodEnd date : ℤ) (tr : List (Database × DailyEvent)) :
    List MaintenanceMessage :=
  tr.flatMap fun p =>
    match p.2 with
    | .pass now =>
        if wibDate now = date then
          (statementsFor p.1 now subscriptionId periodEnd).filterMap MaintenanceStatement.message
        else []
    | .webhook _ => []

/-- How often a withdrawal is marked for a subscription and a period end. -/
def withdrawalsFor (subscriptionId periodEnd : ℤ) (tr : List (Database × DailyEvent)) : ℕ :=
  (tr.map fun p =>
    match p.2 with
    | .pass now =>
        (statementsFor p.1 now subscriptionId periodEnd).countP MaintenanceStatement.marksWithdrawal
    | .webhook _ => 0).sum

/-- A plan the job looks at. -/
def Subscription.HasKnownPlan (row : Subscription) : Prop :=
  row.planCode = midtransBasicPlanCode ∨ row.planCode = midtransOjolPlanCode

/-- A pass runs on the date while the subscription has the period end and a known plan. -/
def PassRuns (subscriptionId periodEnd date : ℤ) (tr : List (Database × DailyEvent)) : Prop :=
  ∃ p ∈ tr, ∃ now, p.2 = .pass now ∧ wibDate now = date ∧
    ∃ row ∈ p.1.subscriptions, row.id = subscriptionId ∧ row.HasKnownPlan ∧
      row.currentPeriodEndAt = some periodEnd

/-- The reminder of a date: from five days before the expiry to seven days after it. -/
def expectedReminder (periodEnd date : ℤ) : List MaintenanceMessage :=
  if date < wibDate periodEnd - 5 then []
  else if date < wibDate periodEnd then [.preExpiryReminder]
  else if date = wibDate periodEnd then [.expiryDayReminder]
  else if date ≤ wibDate periodEnd + 7 then
    [.overdueReminder (fineAmountForOverdueDays (date - wibDate periodEnd))]
  else []

/-- Every day of the window on which a pass runs has its reminder, and the days after it have one
withdrawal. -/
structure RemindsOnce (subscriptionId : ℤ) (tr : List (Database × DailyEvent)) : Prop where
  reminder : ∀ periodEnd date, PassRuns subscriptionId periodEnd date tr →
    remindersFor subscriptionId periodEnd date tr = expectedReminder periodEnd date
  silent : ∀ periodEnd date, ¬ PassRuns subscriptionId periodEnd date tr →
    remindersFor subscriptionId periodEnd date tr = []
  withdrawal : ∀ periodEnd date, PassRuns subscriptionId periodEnd date tr →
    wibDate periodEnd + 7 < date → withdrawalsFor subscriptionId periodEnd tr = 1
  spared : ∀ periodEnd, (∀ date, PassRuns subscriptionId periodEnd date tr →
    date ≤ wibDate periodEnd + 7) → withdrawalsFor subscriptionId periodEnd tr = 0

/-! ### What is due, by the date held -/

/-- The period end of the subscription. -/
def Account.periodEnd (account : Account) : Option ℤ :=
  account.subscription.bind Subscription.currentPeriodEndAt

/-- The date of the last reminder or withdrawal that the sanction holds for the period end. -/
inductive Noted (account : Account) : Option ℤ → Prop where
  | fresh (h : ∀ sanction ∈ account.sanction,
      sanction.lastPreExpiryRemindedForPeriodEndAt = none ∧ sanction.withdrawalRequired = false) :
      Noted account none
  | reminded {sanction : Sanction} {periodEnd date : ℤ}
      (hsanction : account.sanction = some sanction)
      (hperiodEnd : account.periodEnd = some periodEnd)
      (hstamp : sanction.lastPreExpiryRemindedForPeriodEndAt = some periodEnd)
      (hflag : sanction.withdrawalRequired = false)
      (hday : sanction.lastPreExpiryRemindedDay = some (wibDate periodEnd - date))
      (hoverdue : sanction.lastOverdueRemindedDay = none) (hdate : date ≤ wibDate periodEnd) :
      Noted account (some date)
  | overdue {sanction : Sanction} {periodEnd date : ℤ}
      (hsanction : account.sanction = some sanction)
      (hperiodEnd : account.periodEnd = some periodEnd)
      (hstamp : sanction.lastPreExpiryRemindedForPeriodEndAt = some periodEnd)
      (hflag : sanction.withdrawalRequired = false) (hresolved : sanction.resolvedAt = none)
      (hday : sanction.lastOverdueRemindedDay = some (date - wibDate periodEnd))
      (hdate : wibDate periodEnd < date) (hlast : date ≤ wibDate periodEnd + 7) :
      Noted account (some date)
  | withdrawn {sanction : Sanction} {periodEnd date : ℤ}
      (hsanction : account.sanction = some sanction)
      (hperiodEnd : account.periodEnd = some periodEnd)
      (hflag : sanction.withdrawalRequired = true) (hdate : wibDate periodEnd + 7 < date) :
      Noted account (some date)

/-- The reminder of a date of the window. -/
def reminderAction (periodEnd date : ℤ) : SubscriptionMaintenanceAction :=
  if date < wibDate periodEnd then .preExpiryReminder (wibDate periodEnd - date)
  else if date = wibDate periodEnd then .expiryDayReminder
  else .overdueReminder (date - wibDate periodEnd)
    (fineAmountForOverdueDays (date - wibDate periodEnd))

/-- What is due on a date, by the date held. -/
def dueAction (periodEnd date : ℤ) (noted : Option ℤ) : SubscriptionMaintenanceAction :=
  if date < wibDate periodEnd - 5 then .none
  else if date ≤ wibDate periodEnd + 7 then
    if noted = some date then .none else reminderAction periodEnd date
  else if noted.any fun last => wibDate periodEnd + 7 < last then .none
  else .markWithdrawalRequired (date - wibDate periodEnd)
    (fineAmountForOverdueDays (date - wibDate periodEnd))

section Due

variable {account : Account} {record : MaintenanceRecord} {noted : Option ℤ} {now : ℤ}

/-- What a record says of its account. -/
theorem Account.record_fields (h : account.record = some record) :
    account.periodEnd = some record.currentPeriodEndAt ∧
    record.lastPreExpiryRemindedForPeriodEndAt =
      account.sanction.bind Sanction.lastPreExpiryRemindedForPeriodEndAt ∧
    record.lastPreExpiryRemindedDay = account.sanction.bind Sanction.lastPreExpiryRemindedDay ∧
    record.lastOverdueRemindedDay = account.sanction.bind Sanction.lastOverdueRemindedDay ∧
    record.withdrawalRequired = (account.sanction.map Sanction.withdrawalRequired).getD false ∧
    record.resolvedAt = account.sanction.bind Sanction.resolvedAt := by
  obtain ⟨row, hrow, hrecord⟩ := Option.bind_eq_some_iff.1 h
  split at hrecord
  · obtain ⟨periodEnd, hperiodEnd, rfl⟩ := Option.map_eq_some_iff.1 hrecord
    refine ⟨?_, rfl, rfl, rfl, rfl, rfl⟩
    rw [Account.periodEnd, hrow, Option.bind_some, hperiodEnd]
  · cases hrecord

/-- The period end of the account is that of its record. -/
theorem Account.periodEnd_eq (h : account.record = some record) {periodEnd : ℤ}
    (hperiodEnd : account.periodEnd = some periodEnd) : periodEnd = record.currentPeriodEndAt :=
  Option.some.inj (hperiodEnd.symm.trans (Account.record_fields h).1)

theorem daysUntilExpiryWib_eq (periodEnd now : ℤ) :
    daysUntilExpiryWib periodEnd now = wibDate periodEnd - wibDate now := rfl

theorem daysUntilExpiryWib_eq_neg (periodEnd now : ℤ) :
    daysUntilExpiryWib periodEnd now = -(wibDate now - wibDate periodEnd) := by
  rw [daysUntilExpiryWib_eq, neg_sub]

/-- Up to the expiry a reminder is on record exactly when its date is the one held. -/
theorem Noted.preExpirySent_iff (h : Noted account noted) (hrecord : account.record = some record)
    {date : ℤ} (hle : ∀ last ∈ noted, last ≤ date)
    (hdate : date ≤ wibDate record.currentPeriodEndAt) :
    record.PreExpirySent (wibDate record.currentPeriodEndAt - date) ↔ noted = some date := by
  obtain ⟨-, hstamp, hday, -, -, -⟩ := Account.record_fields hrecord
  unfold MaintenanceRecord.PreExpirySent
  rw [hstamp, hday]
  cases h with
  | fresh hfresh =>
      cases hsanction : account.sanction with
      | none => simp
      | some sanction => simp [(hfresh sanction hsanction).1]
  | @reminded sanction periodEnd last hsanction hperiodEnd hstamp' hflag hday' hoverdue hlast =>
      obtain rfl := Account.periodEnd_eq hrecord hperiodEnd
      simp only [hsanction, Option.bind_some, hstamp', hday', Option.some.injEq, true_and,
        reduceCtorEq, false_and, or_false]
      omega
  | @overdue sanction periodEnd last hsanction hperiodEnd hstamp' hflag hresolved hday' hafter =>
      obtain rfl := Account.periodEnd_eq hrecord hperiodEnd
      have hlast := hle last rfl
      omega
  | @withdrawn sanction periodEnd last hsanction hperiodEnd hflag hafter =>
      obtain rfl := Account.periodEnd_eq hrecord hperiodEnd
      have hlast := hle last rfl
      omega

/-- Up to the expiry a sanction of the period has no overdue day. -/
theorem Noted.overdueDay_none (h : Noted account noted) (hrecord : account.record = some record)
    {date : ℤ} (hle : ∀ last ∈ noted, last ≤ date)
    (hdate : date ≤ wibDate record.currentPeriodEndAt) : ∀ stored ∈ account.sanction,
      stored.lastPreExpiryRemindedForPeriodEndAt = some record.currentPeriodEndAt →
        stored.lastOverdueRemindedDay = none := by
  intro stored hstored hstamp
  cases h with
  | fresh hfresh =>
      rw [(hfresh stored hstored).1] at hstamp
      cases hstamp
  | @reminded sanction periodEnd last hsanction hperiodEnd hstamp' hflag hday hoverdue hlast =>
      obtain rfl : sanction = stored := Option.some.inj (hsanction.symm.trans hstored)
      exact hoverdue
  | @overdue sanction periodEnd last hsanction hperiodEnd hstamp' hflag hresolved hday hafter =>
      obtain rfl := Account.periodEnd_eq hrecord hperiodEnd
      have hlast := hle last rfl
      omega
  | @withdrawn sanction periodEnd last hsanction hperiodEnd hflag hafter =>
      obtain rfl := Account.periodEnd_eq hrecord hperiodEnd
      have hlast := hle last rfl
      omega

/-- In the week after the expiry the overdue day is judged to be that of the date held. -/
theorem Noted.judgedOverdueDay_iff (h : Noted account noted)
    (hrecord : account.record = some record) {date : ℤ} (hle : ∀ last ∈ noted, last ≤ date)
    (hafter : wibDate record.currentPeriodEndAt < date)
    (hlate : date ≤ wibDate record.currentPeriodEndAt + 7) :
    record.judgedOverdueDay = some (date - wibDate record.currentPeriodEndAt) ↔
      noted = some date := by
  obtain ⟨-, hstamp, -, hday, -, hresolvedAt⟩ := Account.record_fields hrecord
  unfold MaintenanceRecord.judgedOverdueDay
  rw [hstamp, hday, hresolvedAt]
  cases h with
  | fresh hfresh =>
      cases hsanction : account.sanction with
      | none => simp
      | some sanction => simp [(hfresh sanction hsanction).1]
  | @reminded sanction periodEnd last hsanction hperiodEnd hstamp' hflag hday' hoverdue hlast =>
      obtain rfl := Account.periodEnd_eq hrecord hperiodEnd
      simp only [hsanction, Option.bind_some, hoverdue, ite_self, reduceCtorEq, false_iff,
        Option.some.injEq]
      omega
  | @overdue sanction periodEnd last hsanction hperiodEnd hstamp' hflag hresolved hday' hbefore =>
      obtain rfl := Account.periodEnd_eq hrecord hperiodEnd
      rw [if_neg (by simp [hsanction, hresolved, hstamp'])]
      simp only [hsanction, Option.bind_some, hday', Option.some.injEq]
      omega
  | @withdrawn sanction periodEnd last hsanction hperiodEnd hflag hbefore =>
      obtain rfl := Account.periodEnd_eq hrecord hperiodEnd
      have hlast := hle last rfl
      omega

/-- A withdrawal is on record exactly when the date held is after the week. -/
theorem Noted.withdrawalRequired_eq (h : Noted account noted)
    (hrecord : account.record = some record) :
    record.withdrawalRequired =
      noted.any fun last => wibDate record.currentPeriodEndAt + 7 < last := by
  obtain ⟨-, -, -, -, hflag, -⟩ := Account.record_fields hrecord
  rw [hflag]
  cases h with
  | fresh hfresh =>
      cases hsanction : account.sanction with
      | none => rfl
      | some sanction => exact (hfresh sanction hsanction).2
  | @reminded sanction periodEnd last hsanction hperiodEnd hstamp' hflag' hday' hoverdue hlast =>
      obtain rfl := Account.periodEnd_eq hrecord hperiodEnd
      simp only [hsanction, Option.map_some, Option.getD_some, hflag', Option.any_some]
      exact (decide_eq_false (by omega)).symm
  | @overdue sanction periodEnd last hsanction hperiodEnd hstamp' hflag' hresolved hday' hbefore
      hlast =>
      obtain rfl := Account.periodEnd_eq hrecord hperiodEnd
      simp only [hsanction, Option.map_some, Option.getD_some, hflag', Option.any_some]
      exact (decide_eq_false (by omega)).symm
  | @withdrawn sanction periodEnd last hsanction hperiodEnd hflag' hbefore =>
      obtain rfl := Account.periodEnd_eq hrecord hperiodEnd
      simp only [hsanction, Option.map_some, Option.getD_some, hflag', Option.any_some]
      exact (decide_eq_true hbefore).symm

/-- What is due is told from the date held. -/
theorem Noted.action_eq (h : Noted account noted) (hrecord : account.record = some record)
    (hle : ∀ last ∈ noted, last ≤ wibDate now) :
    record.action now = dueAction record.currentPeriodEndAt (wibDate now) noted := by
  unfold dueAction
  rcases lt_or_ge (wibDate now) (wibDate record.currentPeriodEndAt - 5) with hearly | hearly
  · rw [if_pos hearly, action_early]
    rw [daysUntilExpiryWib_eq]
    omega
  rw [if_neg (not_lt.2 hearly)]
  rcases lt_or_ge (wibDate record.currentPeriodEndAt + 7) (wibDate now) with hlate | hlate
  · have hdays := daysUntilExpiryWib_eq_neg record.currentPeriodEndAt now
    rw [if_neg (not_le.2 hlate), action_withdrawal hdays (by omega),
      h.withdrawalRequired_eq hrecord]
  rw [if_pos hlate]
  unfold reminderAction
  rcases lt_trichotomy (wibDate now) (wibDate record.currentPeriodEndAt)
    with hbefore | hday | hafter
  · rw [if_pos hbefore, action_preExpiry (daysUntilExpiryWib_eq _ _) (by omega) (by omega)]
    exact if_congr (h.preExpirySent_iff hrecord hle hbefore.le) rfl rfl
  · have hsent := h.preExpirySent_iff hrecord hle hday.le
    have hdays : daysUntilExpiryWib record.currentPeriodEndAt now = 0 := by
      rw [daysUntilExpiryWib_eq]
      omega
    rw [← daysUntilExpiryWib_eq, hdays] at hsent
    rw [if_neg hday.not_lt, if_pos hday, action_expiryDay hdays]
    exact if_congr hsent rfl rfl
  · have hdays := daysUntilExpiryWib_eq_neg record.currentPeriodEndAt now
    rw [if_neg hafter.not_gt, if_neg hafter.ne', action_overdue hdays (by omega) (by omega)]
    exact if_congr (h.judgedOverdueDay_iff hrecord hle hafter hlate) rfl rfl

end Due

/-! ### What a pass leaves -/

section Upserted

variable {sanction : Option Sanction} {excluded : Sanction} {value : ℤ}

/-- The sanction after an upsert. -/
def upserted (sanction : Option Sanction) (excluded : Sanction) : Sanction :=
  sanction.elim excluded fun stored => stored.merged excluded

theorem keptDay_some {excludedPeriod storedPeriod storedDay : Option ℤ} :
    keptDay excludedPeriod storedPeriod (some value) storedDay = some value := by
  unfold keptDay
  split
  · rfl
  · rfl

theorem upserted_period (h : excluded.lastPreExpiryRemindedForPeriodEndAt = some value) :
    (upserted sanction excluded).lastPreExpiryRemindedForPeriodEndAt = some value := by
  cases sanction with
  | none => exact h
  | some stored => simp [upserted, Sanction.merged, h]

theorem upserted_preExpiryDay (h : excluded.lastPreExpiryRemindedDay = some value) :
    (upserted sanction excluded).lastPreExpiryRemindedDay = some value := by
  cases sanction with
  | none => exact h
  | some stored => simp [upserted, Sanction.merged, h, keptDay_some]

theorem upserted_overdueDay (h : excluded.lastOverdueRemindedDay = some value) :
    (upserted sanction excluded).lastOverdueRemindedDay = some value := by
  cases sanction with
  | none => exact h
  | some stored => simp [upserted, Sanction.merged, h, keptDay_some]

/-- No overdue day comes from a stored row that has none for the period. -/
theorem upserted_overdueDay_none (h : excluded.lastOverdueRemindedDay = none)
    (hperiod : excluded.lastPreExpiryRemindedForPeriodEndAt = some value)
    (hstored : ∀ stored ∈ sanction, stored.lastPreExpiryRemindedForPeriodEndAt = some value →
      stored.lastOverdueRemindedDay = none) :
    (upserted sanction excluded).lastOverdueRemindedDay = none := by
  cases sanction with
  | none => exact h
  | some stored =>
      simp only [upserted, Option.elim_some, Sanction.merged, keptDay, h, hperiod]
      split
      · rfl
      · rename_i hsame
        rw [hstored stored rfl (not_not.1 hsame).symm]
        rfl

theorem upserted_flag : (upserted sanction excluded).withdrawalRequired =
    excluded.withdrawalRequired := by
  cases sanction with
  | none => rfl
  | some stored => rfl

theorem upserted_resolvedAt (h : excluded.resolvedAt = none) :
    (upserted sanction excluded).resolvedAt = none := by
  cases sanction with
  | none => exact h
  | some stored => rfl

/-- A row that passes the checks holds the values, and no resolution. -/
theorem SanctionValues.fields_of_row {values : SanctionValues} (h : values.row = some excluded) :
    excluded.lastPreExpiryRemindedForPeriodEndAt = values.lastPreExpiryRemindedForPeriodEndAt ∧
    excluded.lastPreExpiryRemindedDay = values.lastPreExpiryRemindedDay ∧
    excluded.lastOverdueRemindedDay = values.lastOverdueRemindedDay ∧
    excluded.withdrawalRequired = values.withdrawalRequired ∧ excluded.resolvedAt = none := by
  unfold SanctionValues.row at h
  split at h
  · rw [← Option.some.inj h]
    exact ⟨rfl, rfl, rfl, rfl, rfl⟩
  · cases h

end Upserted

section Pass

variable {account account' : Account} {record : MaintenanceRecord} {noted : Option ℤ} {now : ℤ}

/-- The subscription with a status. -/
def Account.withStatus (account : Account) (status : SubscriptionStatus) : Account :=
  { account with subscription := account.subscription.map fun row => { row with status := status } }

theorem Account.foldlM_sendMessage (chatId : ℤ) (message : MaintenanceMessage)
    (statements : List MaintenanceStatement) :
    (.sendMessage chatId message :: statements).foldlM Account.execute account =
      statements.foldlM Account.execute account := rfl

theorem Account.foldlM_setSubscriptionStatus (subscriptionId : ℤ) (status : SubscriptionStatus)
    (statements : List MaintenanceStatement) :
    (.setSubscriptionStatus subscriptionId status :: statements).foldlM Account.execute account =
      statements.foldlM Account.execute (account.withStatus status) := rfl

theorem Account.foldlM_upsert {values : SanctionValues}
    (h : [MaintenanceStatement.upsertSanctionState values].foldlM Account.execute account =
      some account') :
    ∃ excluded, values.row = some excluded ∧
      account' = { account with sanction := some (upserted account.sanction excluded) } := by
  rw [List.foldlM_cons] at h
  obtain ⟨account₁, hupsert, hnil⟩ := Option.bind_eq_some_iff.1 h
  obtain rfl : account₁ = account' := Option.some.inj hnil
  obtain ⟨excluded, hrow, rfl⟩ := Option.map_eq_some_iff.1 hupsert
  exact ⟨excluded, hrow, rfl⟩

theorem Account.periodEnd_withStatus (status : SubscriptionStatus) :
    (account.withStatus status).periodEnd = account.periodEnd := by
  unfold Account.periodEnd Account.withStatus
  cases account.subscription with
  | none => rfl
  | some row => rfl

/-- The sanction gets the day of a reminder up to the expiry. -/
def Account.Reminded (account : Account) (periodEnd days : ℤ) (account' : Account) : Prop :=
  ∃ excluded : Sanction, excluded.lastPreExpiryRemindedForPeriodEndAt = some periodEnd ∧
    excluded.lastPreExpiryRemindedDay = some (asI32 days) ∧
    excluded.lastOverdueRemindedDay = none ∧ excluded.withdrawalRequired = false ∧
    account' = { account with sanction := some (upserted account.sanction excluded) }

/-- The subscription is past due, and the sanction gets the overdue day and the flag. -/
def Account.Overdue (account : Account) (periodEnd days : ℤ) (flag : Bool) (account' : Account) :
    Prop :=
  ∃ excluded : Sanction, excluded.lastPreExpiryRemindedForPeriodEndAt = some periodEnd ∧
    excluded.lastOverdueRemindedDay = some (asI32 days) ∧ excluded.resolvedAt = none ∧
    excluded.withdrawalRequired = flag ∧
    account' = { account.withStatus .pastDue with
      sanction := some (upserted account.sanction excluded) }

/-- What a pass does to an account, by what is due. -/
def Account.Marked (account : Account) (periodEnd : ℤ) (account' : Account) :
    SubscriptionMaintenanceAction → Prop
  | .none => account' = account
  | .preExpiryReminder days => account.Reminded periodEnd days account'
  | .expiryDayReminder => account.Reminded periodEnd 0 account'
  | .overdueReminder days _ => account.Overdue periodEnd days false account'
  | .markWithdrawalRequired days _ => account.Overdue periodEnd days true account'

theorem Account.marked_of_pass (hrecord : account.record = some record)
    (hpass : account.pass now = some account') :
    account.Marked record.currentPeriodEndAt account' (record.action now) := by
  cases haction : record.action now with
  | none =>
      simp only [Account.pass, hrecord, MaintenanceRecord.statements, haction] at hpass
      exact (Option.some.inj hpass).symm
  | preExpiryReminder days =>
      simp only [Account.pass, hrecord, MaintenanceRecord.statements, haction] at hpass
      rw [Account.foldlM_sendMessage] at hpass
      obtain ⟨excluded, hrow, rfl⟩ := Account.foldlM_upsert hpass
      obtain ⟨hperiod, hday, hoverdue, hflag, -⟩ := SanctionValues.fields_of_row hrow
      exact ⟨excluded, hperiod, hday, hoverdue, hflag, rfl⟩
  | expiryDayReminder =>
      simp only [Account.pass, hrecord, MaintenanceRecord.statements, haction] at hpass
      rw [Account.foldlM_sendMessage] at hpass
      obtain ⟨excluded, hrow, rfl⟩ := Account.foldlM_upsert hpass
      obtain ⟨hperiod, hday, hoverdue, hflag, -⟩ := SanctionValues.fields_of_row hrow
      exact ⟨excluded, hperiod, hday, hoverdue, hflag, rfl⟩
  | overdueReminder days fine =>
      simp only [Account.pass, hrecord, MaintenanceRecord.statements, haction] at hpass
      rw [Account.foldlM_sendMessage, markOverdueReminderSent,
        Account.foldlM_setSubscriptionStatus] at hpass
      obtain ⟨excluded, hrow, rfl⟩ := Account.foldlM_upsert hpass
      obtain ⟨hperiod, -, hday, hflag, hresolved⟩ := SanctionValues.fields_of_row hrow
      exact ⟨excluded, hperiod, hday, hresolved, hflag, rfl⟩
  | markWithdrawalRequired days fine =>
      simp only [Account.pass, hrecord, MaintenanceRecord.statements, haction] at hpass
      rw [markWithdrawalRequired, Account.foldlM_setSubscriptionStatus] at hpass
      obtain ⟨excluded, hrow, rfl⟩ := Account.foldlM_upsert hpass
      obtain ⟨hperiod, -, hday, hflag, hresolved⟩ := SanctionValues.fields_of_row hrow
      exact ⟨excluded, hperiod, hday, hresolved, hflag, rfl⟩

/-- A pass changes of a subscription at most the status. -/
theorem Account.subscription_of_pass (hpass : account.pass now = some account') :
    account'.subscription = account.subscription ∨
      account'.subscription = (account.withStatus .pastDue).subscription := by
  cases hrecord : account.record with
  | none =>
      rw [Account.pass, hrecord] at hpass
      exact Or.inl (by rw [Option.some.inj hpass])
  | some record =>
      have hmarked := Account.marked_of_pass hrecord hpass
      cases haction : record.action now with
      | none =>
          rw [haction] at hmarked
          exact Or.inl (congrArg Account.subscription hmarked)
      | preExpiryReminder days =>
          rw [haction] at hmarked
          obtain ⟨excluded, -, -, -, -, rfl⟩ := hmarked
          exact Or.inl rfl
      | expiryDayReminder =>
          rw [haction] at hmarked
          obtain ⟨excluded, -, -, -, -, rfl⟩ := hmarked
          exact Or.inl rfl
      | overdueReminder days fine =>
          rw [haction] at hmarked
          obtain ⟨excluded, -, -, -, -, rfl⟩ := hmarked
          exact Or.inr rfl
      | markWithdrawalRequired days fine =>
          rw [haction] at hmarked
          obtain ⟨excluded, -, -, -, -, rfl⟩ := hmarked
          exact Or.inr rfl

theorem Account.periodEnd_of_pass (hpass : account.pass now = some account') :
    account'.periodEnd = account.periodEnd := by
  rcases Account.subscription_of_pass hpass with hsame | hstatus
  · rw [Account.periodEnd, hsame]
    rfl
  · rw [Account.periodEnd, hstatus]
    exact Account.periodEnd_withStatus .pastDue

/-- What is due on a date, with what the date held says. -/
theorem dueAction_cases (periodEnd date : ℤ) (noted : Option ℤ) :
    (dueAction periodEnd date noted = .none ∧ (date < wibDate periodEnd - 5 ∨
      date ≤ wibDate periodEnd + 7 ∧ noted = some date ∨
      wibDate periodEnd + 7 < date ∧ ∃ last ∈ noted, wibDate periodEnd + 7 < last)) ∨
    (dueAction periodEnd date noted = .preExpiryReminder (wibDate periodEnd - date) ∧
      wibDate periodEnd - 5 ≤ date ∧ date < wibDate periodEnd ∧ noted ≠ some date) ∨
    (dueAction periodEnd date noted = .expiryDayReminder ∧ date = wibDate periodEnd ∧
      noted ≠ some date) ∨
    (dueAction periodEnd date noted = .overdueReminder (date - wibDate periodEnd)
        (fineAmountForOverdueDays (date - wibDate periodEnd)) ∧
      wibDate periodEnd < date ∧ date ≤ wibDate periodEnd + 7 ∧ noted ≠ some date) ∨
    (dueAction periodEnd date noted = .markWithdrawalRequired (date - wibDate periodEnd)
        (fineAmountForOverdueDays (date - wibDate periodEnd)) ∧
      wibDate periodEnd + 7 < date ∧ ∀ last ∈ noted, last ≤ wibDate periodEnd + 7) := by
  -- before the window, behind it, done for today, and the three kinds of days inside it
  unfold dueAction reminderAction
  rcases lt_or_ge date (wibDate periodEnd - 5) with hearly | hearly
  · exact Or.inl ⟨if_pos hearly, Or.inl hearly⟩
  rw [if_neg (not_lt.2 hearly)]
  rcases lt_or_ge (wibDate periodEnd + 7) date with hlate | hlate
  · rw [if_neg (not_le.2 hlate)]
    cases hany : noted.any fun last => decide (wibDate periodEnd + 7 < last) with
    | true =>
        obtain ⟨last, hlast, hafter⟩ := (Option.any_eq_true _ _).1 hany
        exact Or.inl ⟨rfl, Or.inr (Or.inr ⟨hlate, last, hlast, of_decide_eq_true hafter⟩)⟩
    | false =>
        refine Or.inr (Or.inr (Or.inr (Or.inr ⟨rfl, hlate, ?_⟩)))
        intro last hlast
        obtain rfl : noted = some last := hlast
        exact not_lt.1 (of_decide_eq_false hany)
  rw [if_pos hlate]
  by_cases hnoted : noted = some date
  · exact Or.inl ⟨if_pos hnoted, Or.inr (Or.inl ⟨hlate, hnoted⟩)⟩
  rw [if_neg hnoted]
  rcases lt_trichotomy date (wibDate periodEnd) with hbefore | hday | hafter
  · exact Or.inr (Or.inl ⟨if_pos hbefore, hearly, hbefore, hnoted⟩)
  · refine Or.inr (Or.inr (Or.inl ⟨?_, hday, hnoted⟩))
    rw [if_neg (by omega), if_pos hday]
  · refine Or.inr (Or.inr (Or.inr (Or.inl ⟨?_, hafter, hlate, hnoted⟩)))
    rw [if_neg (by omega), if_neg (by omega)]

/-- A pass that has something to do replaces the date held. -/
theorem Noted.pass (h : Noted account noted) (hrecord : account.record = some record)
    (hpass : account.pass now = some account') (hle : ∀ last ∈ noted, last ≤ wibDate now)
    (hdue : record.action now ≠ .none) : Noted account' (some (wibDate now)) := by
  have hperiodEnd : account'.periodEnd = some record.currentPeriodEndAt := by
    rw [Account.periodEnd_of_pass hpass]
    exact (Account.record_fields hrecord).1
  have hmarked := Account.marked_of_pass hrecord hpass
  rw [h.action_eq hrecord hle] at hdue hmarked
  rcases dueAction_cases record.currentPeriodEndAt (wibDate now) noted with ⟨haction, _⟩ |
    ⟨haction, hearly, hbefore, -⟩ | ⟨haction, hday, -⟩ | ⟨haction, hafter, hlate, -⟩ |
    ⟨haction, hlate, -⟩
  · exact absurd haction hdue
  · rw [haction] at hmarked
    obtain ⟨excluded, hperiod, hdays, hoverdue, hflag, rfl⟩ := hmarked
    rw [asI32_of_lt (by omega) (by omega)] at hdays
    refine .reminded rfl hperiodEnd (upserted_period hperiod) (upserted_flag.trans hflag)
      (upserted_preExpiryDay hdays) (upserted_overdueDay_none hoverdue hperiod ?_) hbefore.le
    exact h.overdueDay_none hrecord hle hbefore.le
  · rw [haction] at hmarked
    obtain ⟨excluded, hperiod, hdays, hoverdue, hflag, rfl⟩ := hmarked
    refine .reminded rfl hperiodEnd (upserted_period hperiod) (upserted_flag.trans hflag)
      (upserted_preExpiryDay ?_) (upserted_overdueDay_none hoverdue hperiod ?_) hday.le
    · rw [hdays, hday, sub_self]
      rfl
    · exact h.overdueDay_none hrecord hle hday.le
  · rw [haction] at hmarked
    obtain ⟨excluded, hperiod, hdays, hresolved, hflag, rfl⟩ := hmarked
    rw [asI32_of_lt (by omega) (by omega)] at hdays
    exact .overdue rfl hperiodEnd (upserted_period hperiod) (upserted_flag.trans hflag)
      (upserted_resolvedAt hresolved) (upserted_overdueDay hdays) hafter hlate
  · rw [haction] at hmarked
    obtain ⟨excluded, -, -, -, hflag, rfl⟩ := hmarked
    exact .withdrawn rfl hperiodEnd (upserted_flag.trans hflag) hlate

end Pass

/-! ### What a pass sends -/

def SubscriptionMaintenanceAction.messages :
    SubscriptionMaintenanceAction → List MaintenanceMessage
  | .preExpiryReminder _ => [.preExpiryReminder]
  | .expiryDayReminder => [.expiryDayReminder]
  | .overdueReminder _ fineAmountIdr => [.overdueReminder fineAmountIdr]
  | _ => []

def SubscriptionMaintenanceAction.withdrawals : SubscriptionMaintenanceAction → ℕ
  | .markWithdrawalRequired _ _ => 1
  | _ => 0

theorem filterMap_message_statements (now : ℤ) (record : MaintenanceRecord) :
    (record.statements now).filterMap MaintenanceStatement.message =
      (record.action now).messages := by
  unfold MaintenanceRecord.statements
  cases record.action now with
  | none => rfl
  | preExpiryReminder days => rfl
  | expiryDayReminder => rfl
  | overdueReminder days fine => rfl
  | markWithdrawalRequired days fine => rfl

theorem countP_marksWithdrawal_statements (now : ℤ) (record : MaintenanceRecord) :
    (record.statements now).countP MaintenanceStatement.marksWithdrawal =
      (record.action now).withdrawals := by
  unfold MaintenanceRecord.statements
  cases record.action now with
  | none => rfl
  | preExpiryReminder days => rfl
  | expiryDayReminder => rfl
  | overdueReminder days fine => rfl
  | markWithdrawalRequired days fine => rfl

section Traces

variable {subscriptionId periodEnd date : ℤ} {tr : List (Database × DailyEvent)}
  {p : Database × DailyEvent} {db : Database} {now : ℤ}

theorem statementsFor_eq : statementsFor db now subscriptionId periodEnd =
    maintenanceStatements now ((db.account subscriptionId).record.toList.filter fun record =>
      record.currentPeriodEndAt = periodEnd) := by
  rw [statementsFor, ← filter_fetchSubscriptionMaintenanceRecords, List.filter_filter]
  congr 1
  refine List.filter_congr ?_
  intro record _
  rw [Bool.decide_and, Bool.and_comm]

theorem statementsFor_none (hrecord : (db.account subscriptionId).record = none) :
    statementsFor db now subscriptionId periodEnd = [] := by
  rw [statementsFor_eq, hrecord]
  rfl

theorem statementsFor_some {record : MaintenanceRecord}
    (hrecord : (db.account subscriptionId).record = some record) :
    statementsFor db now subscriptionId periodEnd =
      if record.currentPeriodEndAt = periodEnd then record.statements now else [] := by
  rw [statementsFor_eq, hrecord, Option.toList_some, List.filter_singleton]
  by_cases hperiodEnd : record.currentPeriodEndAt = periodEnd
  · simp [hperiodEnd, maintenanceStatements]
  · simp [hperiodEnd, maintenanceStatements]

theorem passRuns_snoc : PassRuns subscriptionId periodEnd date (tr ++ [p]) ↔
    PassRuns subscriptionId periodEnd date tr ∨ PassRuns subscriptionId periodEnd date [p] := by
  unfold PassRuns
  simp only [List.mem_append]
  constructor
  · rintro ⟨q, hq | hq, hrest⟩
    · exact Or.inl ⟨q, hq, hrest⟩
    · exact Or.inr ⟨q, hq, hrest⟩
  · rintro (⟨q, hq, hrest⟩ | ⟨q, hq, hrest⟩)
    · exact ⟨q, Or.inl hq, hrest⟩
    · exact ⟨q, Or.inr hq, hrest⟩

theorem remindersFor_snoc : remindersFor subscriptionId periodEnd date (tr ++ [p]) =
    remindersFor subscriptionId periodEnd date tr ++
      remindersFor subscriptionId periodEnd date [p] := List.flatMap_append

theorem withdrawalsFor_snoc : withdrawalsFor subscriptionId periodEnd (tr ++ [p]) =
    withdrawalsFor subscriptionId periodEnd tr + withdrawalsFor subscriptionId periodEnd [p] := by
  simp [withdrawalsFor]

theorem exists_passTime_of_passRuns (h : PassRuns subscriptionId periodEnd date tr) :
    ∃ time ∈ passTimes tr, wibDate time = date := by
  obtain ⟨q, hq, now, hpass, hdate, -⟩ := h
  exact ⟨now, List.mem_filterMap.2 ⟨q, hq, by rw [hpass]; rfl⟩, hdate⟩

/-- An event that is no pass over the subscription. -/
structure Quiet (subscriptionId : ℤ) (p : Database × DailyEvent) : Prop where
  passRuns : ∀ periodEnd date, ¬ PassRuns subscriptionId periodEnd date [p]
  reminders : ∀ periodEnd date, remindersFor subscriptionId periodEnd date [p] = []
  withdrawals : ∀ periodEnd, withdrawalsFor subscriptionId periodEnd [p] = 0

theorem quiet_webhook (db : Database) (call : WebhookCall) :
    Quiet subscriptionId (db, .webhook call) where
  passRuns := by
    rintro periodEnd date ⟨q, hq, now, hpass, -⟩
    rw [List.mem_singleton.1 hq] at hpass
    cases hpass
  reminders := fun _ _ => rfl
  withdrawals := fun _ => rfl

/-- The subscriptions a pass reads have one of the two statuses. -/
def Kept (account : Account) : Prop :=
  ∀ row ∈ account.subscription, row.status = .active ∨ row.status = .pastDue

/-- A pass runs over a subscription exactly when it reads a record of it. -/
theorem passRuns_singleton (hkept : Kept (db.account subscriptionId)) :
    PassRuns subscriptionId periodEnd date [(db, .pass now)] ↔
      wibDate now = date ∧ ∃ record, (db.account subscriptionId).record = some record ∧
        record.currentPeriodEndAt = periodEnd := by
  constructor
  · rintro ⟨q, hq, now', hpass, hdate, row, hrow, hid, hplan, hperiodEnd⟩
    obtain rfl := List.mem_singleton.1 hq
    obtain rfl : now = now' := DailyEvent.pass.inj hpass
    have hread : (db.account subscriptionId).subscription = some row :=
      (rowAt_eq_some_iff db.subscriptions_id).2 ⟨hrow, hid⟩
    have hmaintained : row.IsMaintained := ⟨hplan, hkept row hread⟩
    rw [Account.record, hread, Option.bind_some, if_pos hmaintained, maintenanceRecord, hperiodEnd]
    exact ⟨hdate, _, rfl, rfl⟩
  · rintro ⟨hdate, record, hrecord, hperiodEnd⟩
    obtain ⟨row, hrow, hrecord⟩ := Option.bind_eq_some_iff.1 hrecord
    obtain ⟨hmem, hid⟩ := mem_of_rowAt (show rowAt Subscription.id _ _ = some row from hrow)
    split at hrecord
    · rename_i hmaintained
      obtain ⟨current, hcurrent, rfl⟩ := Option.map_eq_some_iff.1 hrecord
      refine ⟨_, List.mem_singleton_self _, now, rfl, hdate, row, hmem, hid, hmaintained.1, ?_⟩
      rw [hcurrent, ← hperiodEnd]
    · cases hrecord

theorem quiet_pass (hkept : Kept (db.account subscriptionId))
    (hrecord : (db.account subscriptionId).record = none) :
    Quiet subscriptionId (db, .pass now) where
  passRuns := by
    intro periodEnd date h
    obtain ⟨-, record, hsome, -⟩ := (passRuns_singleton hkept).1 h
    rw [hrecord] at hsome
    cases hsome
  reminders := by
    intro periodEnd date
    simp [remindersFor, statementsFor_none hrecord]
  withdrawals := by
    intro periodEnd
    simp [withdrawalsFor, statementsFor_none hrecord]

theorem RemindsOnce.quiet (h : RemindsOnce subscriptionId tr) (hp : Quiet subscriptionId p) :
    RemindsOnce subscriptionId (tr ++ [p]) := by
  have hruns : ∀ periodEnd date, PassRuns subscriptionId periodEnd date (tr ++ [p]) ↔
      PassRuns subscriptionId periodEnd date tr := by
    intro periodEnd date
    rw [passRuns_snoc, or_iff_left (hp.passRuns periodEnd date)]
  refine ⟨?_, ?_, ?_, ?_⟩
  · intro periodEnd date hrun
    rw [remindersFor_snoc, hp.reminders, List.append_nil]
    exact h.reminder periodEnd date ((hruns _ _).1 hrun)
  · intro periodEnd date hrun
    rw [remindersFor_snoc, hp.reminders, List.append_nil]
    exact h.silent periodEnd date fun hrun' => hrun ((hruns _ _).2 hrun')
  · intro periodEnd date hrun hlate
    rw [withdrawalsFor_snoc, hp.withdrawals, add_zero]
    exact h.withdrawal periodEnd date ((hruns _ _).1 hrun) hlate
  · intro periodEnd hspared
    rw [withdrawalsFor_snoc, hp.withdrawals, add_zero]
    exact h.spared periodEnd fun date hrun => hspared date ((hruns _ _).2 hrun)

/-- What a pass over the subscription sends for a period end and a date. -/
theorem remindersFor_pass {record : MaintenanceRecord}
    (hrecord : (db.account subscriptionId).record = some record) (periodEnd date : ℤ) :
    remindersFor subscriptionId periodEnd date [(db, .pass now)] =
      if wibDate now = date ∧ record.currentPeriodEndAt = periodEnd then
        (record.action now).messages else [] := by
  simp only [remindersFor, List.flatMap_cons, List.flatMap_nil, List.append_nil,
    statementsFor_some hrecord, ite_and]
  split
  · split
    · exact filterMap_message_statements now record
    · rfl
  · rfl

/-- The withdrawals a pass over the subscription marks for a period end. -/
theorem withdrawalsFor_pass {record : MaintenanceRecord}
    (hrecord : (db.account subscriptionId).record = some record) (periodEnd : ℤ) :
    withdrawalsFor subscriptionId periodEnd [(db, .pass now)] =
      if record.currentPeriodEndAt = periodEnd then (record.action now).withdrawals else 0 := by
  simp only [withdrawalsFor, List.map_cons, List.map_nil, List.sum_cons, List.sum_nil, add_zero,
    statementsFor_some hrecord]
  split
  · exact countP_marksWithdrawal_statements now record
  · rfl

/-- A pass over the subscription that sends what is missing. -/
theorem RemindsOnce.visit (h : RemindsOnce subscriptionId tr)
    (hkept : Kept (db.account subscriptionId)) {record : MaintenanceRecord}
    (hrecord : (db.account subscriptionId).record = some record)
    (hnew : ¬ PassRuns subscriptionId record.currentPeriodEndAt (wibDate now) tr →
      (record.action now).messages = expectedReminder record.currentPeriodEndAt (wibDate now))
    (hold : PassRuns subscriptionId record.currentPeriodEndAt (wibDate now) tr →
      (record.action now).messages = [])
    (hmark : wibDate record.currentPeriodEndAt + 7 < wibDate now →
      (∀ date, PassRuns subscriptionId record.currentPeriodEndAt date tr →
        date ≤ wibDate record.currentPeriodEndAt + 7) → (record.action now).withdrawals = 1)
    (hspare : (wibDate now ≤ wibDate record.currentPeriodEndAt + 7 ∨
      ∃ date, PassRuns subscriptionId record.currentPeriodEndAt date tr ∧
        wibDate record.currentPeriodEndAt + 7 < date) → (record.action now).withdrawals = 0) :
    RemindsOnce subscriptionId (tr ++ [(db, .pass now)]) := by
  have hvisit : ∀ periodEnd date, PassRuns subscriptionId periodEnd date [(db, .pass now)] ↔
      wibDate now = date ∧ record.currentPeriodEndAt = periodEnd := by
    intro periodEnd date
    rw [passRuns_singleton hkept]
    simp [hrecord]
  refine ⟨?_, ?_, ?_, ?_⟩
  · -- the day and the period end of this pass are new, or have had their reminder before
    intro periodEnd date hrun
    rw [remindersFor_snoc, remindersFor_pass hrecord]
    by_cases hhere : wibDate now = date ∧ record.currentPeriodEndAt = periodEnd
    · obtain ⟨rfl, rfl⟩ := hhere
      rw [if_pos ⟨rfl, rfl⟩]
      by_cases hran : PassRuns subscriptionId record.currentPeriodEndAt (wibDate now) tr
      · rw [hold hran, List.append_nil]
        exact h.reminder _ _ hran
      · rw [hnew hran, h.silent _ _ hran, List.nil_append]
    · rw [if_neg hhere, List.append_nil]
      rw [passRuns_snoc, hvisit, or_iff_left hhere] at hrun
      exact h.reminder _ _ hrun
  · intro periodEnd date hrun
    rw [passRuns_snoc, hvisit, not_or] at hrun
    rw [remindersFor_snoc, remindersFor_pass hrecord, if_neg hrun.2, List.append_nil]
    exact h.silent _ _ hrun.1
  · intro periodEnd date hrun hlate
    rw [passRuns_snoc, hvisit] at hrun
    rw [withdrawalsFor_snoc, withdrawalsFor_pass hrecord]
    by_cases hhere : record.currentPeriodEndAt = periodEnd
    · subst hhere
      rw [if_pos rfl]
      by_cases hran : ∃ date, PassRuns subscriptionId record.currentPeriodEndAt date tr ∧
          wibDate record.currentPeriodEndAt + 7 < date
      · obtain ⟨date', hran', hlate'⟩ := hran
        rw [hspare (Or.inr ⟨date', hran', hlate'⟩), add_zero]
        exact h.withdrawal _ _ hran' hlate'
      · push Not at hran
        rcases hrun with hrun | ⟨rfl, -⟩
        · exact absurd (hran date hrun) (not_le.2 hlate)
        · rw [hmark hlate hran, h.spared _ hran]
    · rw [if_neg hhere, add_zero]
      rcases hrun with hrun | ⟨-, hhere'⟩
      · exact h.withdrawal _ _ hrun hlate
      · exact absurd hhere' hhere
  · intro periodEnd hspared
    rw [withdrawalsFor_snoc, withdrawalsFor_pass hrecord]
    have hran : ∀ date, PassRuns subscriptionId periodEnd date tr → date ≤ wibDate periodEnd + 7 :=
      fun date hrun => hspared date (passRuns_snoc.2 (Or.inl hrun))
    rw [h.spared periodEnd hran, zero_add]
    split
    · rename_i hhere
      subst hhere
      refine hspare (Or.inl ?_)
      exact hspared _ (passRuns_snoc.2 (Or.inr ((hvisit _ _).2 ⟨rfl, rfl⟩)))
    · rfl

end Traces

/-! ### What every run keeps -/

/-- What is kept of a subscription: its status, the order of the period ends, the date held, and
the reminders sent. -/
structure DailyInv (subscriptionId : ℤ) (tr : List (Database × DailyEvent)) (account : Account) :
    Prop where
  kept : Kept account
  behind : ∀ periodEnd date, PassRuns subscriptionId periodEnd date tr →
    ∃ current ∈ account.periodEnd, periodEnd ≤ current
  noted : ∃ noted, Noted account noted ∧ ∀ current ∈ account.periodEnd,
    (∀ last ∈ noted, PassRuns subscriptionId current last tr) ∧
    ∀ date, PassRuns subscriptionId current date tr → wibDate current - 5 ≤ date →
      ∃ last ∈ noted, date ≤ last ∨ wibDate current + 7 < last
  once : RemindsOnce subscriptionId tr

section Invariant

variable {subscriptionId now : ℤ} {tr : List (Database × DailyEvent)} {db : Database}
  {account : Account}

theorem remindsOnce_nil : RemindsOnce subscriptionId [] where
  reminder := fun _ _ ⟨_, hp, _⟩ => absurd hp List.not_mem_nil
  silent := fun _ _ _ => rfl
  withdrawal := fun _ _ ⟨_, hp, _⟩ => absurd hp List.not_mem_nil
  spared := fun _ _ => rfl

theorem dailyInv_nil (hkept : Kept (db.account subscriptionId))
    (hsanction : db.sanctionOf subscriptionId = none) :
    DailyInv subscriptionId [] (db.account subscriptionId) where
  kept := hkept
  behind := fun _ _ ⟨_, hp, _⟩ => absurd hp List.not_mem_nil
  noted := by
    refine ⟨none, .fresh ?_, ?_⟩
    · intro sanction hmem
      have hnone : (db.account subscriptionId).sanction = none := hsanction
      rw [hnone] at hmem
      cases hmem
    · intro current _
      exact ⟨by simp, fun _ ⟨_, hp, _⟩ => absurd hp List.not_mem_nil⟩
  once := remindsOnce_nil

/-- An event that leaves the account alone and is no pass over it. -/
theorem DailyInv.quiet (h : DailyInv subscriptionId tr account) {p : Database × DailyEvent}
    (hp : Quiet subscriptionId p) : DailyInv subscriptionId (tr ++ [p]) account := by
  have hruns : ∀ periodEnd date, PassRuns subscriptionId periodEnd date (tr ++ [p]) ↔
      PassRuns subscriptionId periodEnd date tr := by
    intro periodEnd date
    rw [passRuns_snoc, or_iff_left (hp.passRuns periodEnd date)]
  obtain ⟨noted, hnoted, hdates⟩ := h.noted
  refine ⟨h.kept, ?_, ⟨noted, hnoted, ?_⟩, h.once.quiet hp⟩
  · intro periodEnd date hrun
    exact h.behind periodEnd date ((hruns _ _).1 hrun)
  · intro current hcurrent
    obtain ⟨hran, hcovers⟩ := hdates current hcurrent
    refine ⟨?_, ?_⟩
    · intro last hlast
      exact (hruns _ _).2 (hran last hlast)
    · intro date hrun
      exact hcovers date ((hruns _ _).1 hrun)

/-- A payment begins a period for which nothing has been sent. -/
theorem DailyInv.renew (h : DailyInv subscriptionId tr account) {row : Subscription}
    {periodEnd at' : ℤ} (hstatus : row.status = .active)
    (hperiodEnd : row.currentPeriodEndAt = some periodEnd)
    (hlater : ∀ before ∈ account.periodEnd, before < periodEnd) :
    DailyInv subscriptionId tr ⟨some row, account.sanction.map fun s => s.resolved at'⟩ := by
  have hcurrent : Account.periodEnd ⟨some row, account.sanction.map fun s => s.resolved at'⟩ =
      some periodEnd := hperiodEnd
  refine ⟨?_, ?_, ⟨none, .fresh ?_, ?_⟩, h.once⟩
  · intro row' hrow'
    obtain rfl : row = row' := Option.some.inj hrow'
    exact Or.inl hstatus
  · intro earlier date hrun
    obtain ⟨before, hbefore, hle⟩ := h.behind earlier date hrun
    exact ⟨periodEnd, hcurrent, hle.trans (hlater before hbefore).le⟩
  · intro sanction hsanction
    obtain ⟨stored, -, rfl⟩ := Option.map_eq_some_iff.1 hsanction
    exact ⟨rfl, rfl⟩
  · intro current hmem
    obtain rfl : periodEnd = current := Option.some.inj (hcurrent.symm.trans hmem)
    refine ⟨by simp, ?_⟩
    intro date hrun
    obtain ⟨before, hbefore, hle⟩ := h.behind periodEnd date hrun
    exact absurd (hlater before hbefore) (not_lt.2 hle)

theorem Kept.pass {account' : Account} (h : Kept account)
    (hpass : account.pass now = some account') : Kept account' := by
  intro row hrow
  rcases Account.subscription_of_pass hpass with hsame | hstatus
  · rw [hsame] at hrow
    exact h row hrow
  · rw [hstatus] at hrow
    obtain ⟨stored, -, rfl⟩ := Option.map_eq_some_iff.1 hrow
    exact Or.inr rfl

/-- What is due by the date held is what is missing. -/
theorem RemindsOnce.due (h : RemindsOnce subscriptionId tr)
    (hkept : Kept (db.account subscriptionId)) {record : MaintenanceRecord}
    (hrecord : (db.account subscriptionId).record = some record) {noted : Option ℤ}
    (haction : record.action now = dueAction record.currentPeriodEndAt (wibDate now) noted)
    (hle : ∀ last ∈ noted, last ≤ wibDate now)
    (hran : ∀ last ∈ noted, PassRuns subscriptionId record.currentPeriodEndAt last tr)
    (hcovers : ∀ date, PassRuns subscriptionId record.currentPeriodEndAt date tr →
      wibDate record.currentPeriodEndAt - 5 ≤ date →
        ∃ last ∈ noted, date ≤ last ∨ wibDate record.currentPeriodEndAt + 7 < last) :
    RemindsOnce subscriptionId (tr ++ [(db, .pass now)]) := by
  -- On a day of the window that has had its pass, the date held is that day.
  have hheld : noted ≠ some (wibDate now) →
      wibDate record.currentPeriodEndAt - 5 ≤ wibDate now →
      wibDate now ≤ wibDate record.currentPeriodEndAt + 7 →
      ¬ PassRuns subscriptionId record.currentPeriodEndAt (wibDate now) tr := by
    intro hne hfirst hlast hrun
    obtain ⟨last, hmem, hcover⟩ := hcovers _ hrun hfirst
    have hle' := hle last hmem
    have heq : last = wibDate now := by omega
    exact hne (heq ▸ hmem)
  rcases dueAction_cases record.currentPeriodEndAt (wibDate now) noted with
    ⟨hdue, hnone⟩ | ⟨hdue, hfirst, hbefore, hne⟩ | ⟨hdue, hday, hne⟩ |
    ⟨hdue, hafter, hlast, hne⟩ | ⟨hdue, hlate, hnone⟩
  · rw [hdue] at haction
    refine h.visit hkept hrecord ?_ ?_ ?_ ?_
    · intro hnew
      rw [haction, expectedReminder]
      rcases hnone with hearly | ⟨-, hlast⟩ | ⟨hlate, -⟩
      · rw [if_pos hearly]
        rfl
      · exact absurd (hran _ hlast) hnew
      · rw [if_neg (by omega), if_neg (by omega), if_neg (by omega), if_neg (by omega)]
        rfl
    · intro _
      rw [haction]
      rfl
    · intro hlate hspared
      rcases hnone with hearly | ⟨hweek, -⟩ | ⟨-, last, hmem, hlast⟩
      · omega
      · omega
      · exact absurd (hspared last (hran last hmem)) (not_le.2 hlast)
    · intro _
      rw [haction]
      rfl
  · rw [hdue] at haction
    refine h.visit hkept hrecord ?_ ?_ (fun hlate => by omega) (fun _ => by rw [haction]; rfl)
    · intro _
      rw [haction, expectedReminder, if_neg (by omega), if_pos hbefore]
      rfl
    · intro hrun
      exact absurd hrun (hheld hne hfirst (by omega))
  · rw [hdue] at haction
    refine h.visit hkept hrecord ?_ ?_ (fun hlate => by omega) (fun _ => by rw [haction]; rfl)
    · intro _
      rw [haction, expectedReminder, if_neg (by omega), if_neg (by omega), if_pos hday]
      rfl
    · intro hrun
      exact absurd hrun (hheld hne (by omega) (by omega))
  · rw [hdue] at haction
    refine h.visit hkept hrecord ?_ ?_ (fun hlate => by omega) (fun _ => by rw [haction]; rfl)
    · intro _
      rw [haction, expectedReminder, if_neg (by omega), if_neg (by omega), if_neg (by omega),
        if_pos hlast]
      rfl
    · intro hrun
      exact absurd hrun (hheld hne (by omega) hlast)
  · rw [hdue] at haction
    refine h.visit hkept hrecord ?_ (fun _ => by rw [haction]; rfl)
      (fun _ _ => by rw [haction]; rfl)
      ?_
    · intro _
      rw [haction, expectedReminder, if_neg (by omega), if_neg (by omega), if_neg (by omega),
        if_neg (by omega)]
      rfl
    · rintro (hweek | ⟨date, hrun, hdate⟩)
      · omega
      · obtain ⟨last, hmem, hcover⟩ := hcovers date hrun (by omega)
        have hlast := hnone last hmem
        omega

/-- Nothing is due on a day of the window only if the date held covers the day. -/
theorem covered_of_dueAction_eq_none {periodEnd date : ℤ} {noted : Option ℤ}
    (hdue : dueAction periodEnd date noted = .none) (hwindow : wibDate periodEnd - 5 ≤ date) :
    ∃ last ∈ noted, date ≤ last ∨ wibDate periodEnd + 7 < last := by
  rcases dueAction_cases periodEnd date noted with
    ⟨-, hearly | ⟨-, hlast⟩ | ⟨-, last, hlast, hlate⟩⟩ | ⟨hother, -⟩ | ⟨hother, -⟩ |
    ⟨hother, -⟩ | ⟨hother, -⟩
  · omega
  · exact ⟨_, hlast, Or.inl le_rfl⟩
  · exact ⟨last, hlast, Or.inr hlate⟩
  all_goals
    rw [hdue] at hother
    cases hother

/-- A pass over the subscription, no earlier than those before it. -/
theorem DailyInv.visit (h : DailyInv subscriptionId tr (db.account subscriptionId))
    {record : MaintenanceRecord} (hrecord : (db.account subscriptionId).record = some record)
    (hpass : (db.account subscriptionId).pass now = some account)
    (htimes : ∀ time ∈ passTimes tr, time ≤ now) :
    DailyInv subscriptionId (tr ++ [(db, .pass now)]) account := by
  obtain ⟨noted, hnoted, hdates⟩ := h.noted
  have hperiodEnd : (db.account subscriptionId).periodEnd = some record.currentPeriodEndAt :=
    (Account.record_fields hrecord).1
  obtain ⟨hran, hcovers⟩ := hdates record.currentPeriodEndAt hperiodEnd
  have hbefore : ∀ periodEnd date, PassRuns subscriptionId periodEnd date tr →
      date ≤ wibDate now := by
    intro periodEnd date hrun
    obtain ⟨time, htime, rfl⟩ := exists_passTime_of_passRuns hrun
    exact wibDate_mono (htimes time htime)
  have hle : ∀ last ∈ noted, last ≤ wibDate now := fun last hlast => hbefore _ _ (hran last hlast)
  have haction := hnoted.action_eq hrecord hle
  have hvisit : PassRuns subscriptionId record.currentPeriodEndAt (wibDate now)
      (tr ++ [(db, .pass now)]) :=
    passRuns_snoc.2 (Or.inr ((passRuns_singleton h.kept).2 ⟨rfl, record, hrecord, rfl⟩))
  have honly : ∀ periodEnd date, PassRuns subscriptionId periodEnd date (tr ++ [(db, .pass now)]) →
      PassRuns subscriptionId periodEnd date tr ∨
        periodEnd = record.currentPeriodEndAt ∧ date = wibDate now := by
    intro periodEnd date hrun
    rcases passRuns_snoc.1 hrun with hrun | hrun
    · exact Or.inl hrun
    · obtain ⟨rfl, record', hrecord', rfl⟩ := (passRuns_singleton h.kept).1 hrun
      obtain rfl : record = record' := Option.some.inj (hrecord.symm.trans hrecord')
      exact Or.inr ⟨rfl, rfl⟩
  refine ⟨?_, ?_, ?_, ?_⟩
  · exact h.kept.pass hpass
  · intro periodEnd date hrun
    rw [Account.periodEnd_of_pass hpass]
    rcases honly periodEnd date hrun with hrun | ⟨rfl, -⟩
    · exact h.behind periodEnd date hrun
    · exact ⟨_, hperiodEnd, le_rfl⟩
  · rw [Account.periodEnd_of_pass hpass]
    by_cases hdue : record.action now = .none
    · -- Nothing is due: the date held covers the new one, or the new one is too early.
      have hsame : account = db.account subscriptionId := by
        have hmarked := Account.marked_of_pass hrecord hpass
        rw [hdue] at hmarked
        exact hmarked
      refine ⟨noted, hsame ▸ hnoted, ?_⟩
      intro current hcurrent
      obtain rfl : record.currentPeriodEndAt = current :=
        Option.some.inj (hperiodEnd.symm.trans hcurrent)
      refine ⟨fun last hlast => passRuns_snoc.2 (Or.inl (hran last hlast)), ?_⟩
      intro date hrun hwindow
      rcases honly _ date hrun with hrun | ⟨-, rfl⟩
      · exact hcovers date hrun hwindow
      · exact covered_of_dueAction_eq_none (haction.symm.trans hdue) hwindow
    · refine ⟨some (wibDate now), hnoted.pass hrecord hpass hle hdue, ?_⟩
      intro current hcurrent
      obtain rfl : record.currentPeriodEndAt = current :=
        Option.some.inj (hperiodEnd.symm.trans hcurrent)
      refine ⟨?_, ?_⟩
      · intro last hlast
        obtain rfl : wibDate now = last := Option.some.inj hlast
        exact hvisit
      · intro date hrun _
        refine ⟨wibDate now, rfl, Or.inl ?_⟩
        rcases honly _ date hrun with hrun | ⟨-, rfl⟩
        · exact hbefore _ date hrun
        · exact le_rfl
  · exact h.once.due h.kept hrecord haction hle hran hcovers

/-- Every event keeps the invariant. -/
theorem DailyInv.step {db' : Database} {event : DailyEvent}
    (h : DailyInv subscriptionId tr (db.account subscriptionId)) (hstep : db.daily event = some db')
    (htimes : ∀ now ∈ event.passTime, ∀ time ∈ passTimes tr, time ≤ now) :
    DailyInv subscriptionId (tr ++ [(db, event)]) (db'.account subscriptionId) := by
  cases event with
  | pass now =>
      have hpass := account_pass hstep subscriptionId
      cases hrecord : (db.account subscriptionId).record with
      | none =>
          have hsame : db'.account subscriptionId = db.account subscriptionId := by
            rw [Account.pass, hrecord] at hpass
            exact (Option.some.inj hpass).symm
          rw [hsame]
          exact h.quiet (quiet_pass h.kept hrecord)
      | some record => exact h.visit hrecord hpass (htimes now rfl)
  | webhook call =>
      obtain rfl : (applyMidtransWebhook db call).2 = db' := Option.some.inj hstep
      refine DailyInv.quiet ?_ (quiet_webhook db call)
      rcases account_webhook db call subscriptionId with
        hsame | ⟨row, periodEnd, haccount, hstatus, hperiodEnd, hlater⟩
      · rw [hsame]
        exact h
      · rw [haccount]
        refine h.renew hstatus hperiodEnd ?_
        intro before hbefore
        obtain ⟨stored, hstored, hend⟩ := Option.bind_eq_some_iff.1 hbefore
        exact hlater stored hstored before hend

end Invariant

/-- The run keeps the invariant, if its passes are in the order of their times. -/
theorem dailyInv_run {db db' : Database} {tr : List (Database × DailyEvent)} {subscriptionId : ℤ}
    (hkept : Kept (db.account subscriptionId)) (hsanction : db.sanctionOf subscriptionId = none)
    (run : Run Database.daily db tr db') (htimes : (passTimes tr).Pairwise (· ≤ ·)) :
    DailyInv subscriptionId tr (db'.account subscriptionId) := by
  induction run with
  | nil => exact dailyInv_nil hkept hsanction
  | @snoc tr db₁ db₂ event _ hstep ih =>
      rw [passTimes, List.filterMap_append, List.pairwise_append] at htimes
      obtain ⟨hbefore, -, hlast⟩ := htimes
      refine (ih hbefore).step hstep ?_
      intro now hnow time htime
      refine hlast time htime now ?_
      exact List.mem_filterMap.2 ⟨(db₁, event), List.mem_singleton_self _, hnow⟩

/-- **Exactly one reminder on every day of the window**: in every run of passes, in the order of
their times, and webhooks, a subscription that has no sanction at the start gets, for every period
end and every date on which a pass runs while it has that period end, exactly the reminder of the
date, and none outside the window; and once a pass runs after the window, exactly one withdrawal is
marked for the period end. -/
theorem remind_once {db db' : Database} {tr : List (Database × DailyEvent)} {subscriptionId : ℤ}
    (run : Run Database.daily db tr db')
    (hstatus : ∀ row ∈ db.subscriptions, row.id = subscriptionId →
      row.status = .active ∨ row.status = .pastDue)
    (hsanction : db.sanctionOf subscriptionId = none)
    (htimes : (passTimes tr).Pairwise (· ≤ ·)) : RemindsOnce subscriptionId tr := by
  refine (dailyInv_run ?_ hsanction run htimes).once
  intro row hrow
  obtain ⟨hmem, hid⟩ := mem_of_rowAt (show rowAt Subscription.id _ _ = some row from hrow)
  exact hstatus row hmem hid

/-- Two days after the expiry the job runs twice, the order is paid, and the job runs again at the
end of the new period. -/
def twicePaidAndAgain : List DailyEvent :=
  [.pass 1777111200000000, .pass (1777111200000000 + 3600000000), .webhook settledCall,
    .pass (1777111200000000 + days 27)]

theorem replay_twicePaidAndAgain :
    (replay Database.daily overdueDatabase twicePaidAndAgain).any (fun db =>
      decide (db.subscriptions.length = 1)) = true := by
  decide +kernel

theorem remind_once_twicePaidAndAgain :
    ∃ tr db, tr.map Prod.snd = twicePaidAndAgain ∧ Run Database.daily overdueDatabase tr db ∧
      RemindsOnce 1 tr := by
  obtain ⟨tr, db, hevents, run, -⟩ := run_of_replay_any replay_twicePaidAndAgain
  refine ⟨tr, db, hevents, run, remind_once run ?_ rfl ?_⟩
  · intro row hrow _
    exact Or.inl (by rw [List.mem_singleton.1 hrow])
  · have htimes : passTimes tr = twicePaidAndAgain.filterMap DailyEvent.passTime := by
      rw [← hevents, List.filterMap_map]
      rfl
    rw [htimes]
    decide

end Gt06
