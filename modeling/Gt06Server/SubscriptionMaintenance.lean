/-
**The daily subscription job.**

`run_subscription_maintenance` reads the subscriptions once, decides for each of them what is due
that day, and carries it out with a message and one or two statements.  A pass is the list of the
statements it is going to run; a statement that fails ends it.

Main definitions:

* `Gt06.resolveSubscriptionMaintenanceAction` — what is due for a subscription;
* `Gt06.MaintenanceRecord`, `Gt06.fetchSubscriptionMaintenanceRecords` — what a pass reads;
* `Gt06.MaintenanceStatement`, `Gt06.MaintenanceStatement.execute` — the statements of a pass;
* `Gt06.maintenanceStatements` — the statements for the records read.

Main results:

* `Gt06.mem_fetchSubscriptionMaintenanceRecords` — which subscriptions a pass reads;
* `Gt06.action_preExpiry`, `Gt06.action_expiryDay`, `Gt06.action_overdue`,
  `Gt06.action_withdrawal` — what is due, by the day;
* `Gt06.sanctionKeys_maintenanceStatements_nodup` — a pass writes at most one sanction of a
  subscription.
-/

import Mathlib
import Gt06Server.Billing

set_option relaxedAutoImplicit false
set_option autoImplicit false

namespace Gt06

open Relational

/-! ### Days -/

def midtransBasicPlanCode : String := "monthly_basic"

def midtransOjolPlanCode : String := "monthly_ojol"

def subscriptionPreExpiryReminderDays : ℤ := 5

def subscriptionDailyFineIdr : ℤ := 1000

def subscriptionMaxFineDays : ℤ := 7

/-- The cast `as i32`. -/
def asI32 (n : ℤ) : ℤ := n.bmod (2 ^ 32)

def daysUntilExpiryWib (currentPeriodEndAt now : ℤ) : ℤ := wibDate currentPeriodEndAt - wibDate now

def overdueDaysWib (currentPeriodEndAt now : ℤ) : ℤ :=
  max (wibDate now - wibDate currentPeriodEndAt) 0

def fineAmountForOverdueDays (overdueDays : ℤ) : ℤ :=
  min (max overdueDays 0) subscriptionMaxFineDays * subscriptionDailyFineIdr

theorem fineAmountForOverdueDays_pos {overdueDays : ℤ} (h : 0 < overdueDays) :
    0 < fineAmountForOverdueDays overdueDays := by
  unfold fineAmountForOverdueDays subscriptionMaxFineDays subscriptionDailyFineIdr
  omega

/-! ### What is due -/

inductive SubscriptionMaintenanceAction where
  | none
  | preExpiryReminder (daysUntilExpiry : ℤ)
  | expiryDayReminder
  | overdueReminder (overdueDays fineAmountIdr : ℤ)
  | markWithdrawalRequired (overdueDays fineAmountIdr : ℤ)
  deriving DecidableEq, Repr

/-- The last branches: nothing, a fine, or the withdrawal of the device. -/
def resolveOverdueAction (overdueDays : ℤ) (lastOverdueRemindedDay : Option ℤ)
    (withdrawalRequired : Bool) : SubscriptionMaintenanceAction :=
  if overdueDays = 0 then .none
  else if overdueDays ≤ subscriptionMaxFineDays then
    if lastOverdueRemindedDay ≠ some (asI32 overdueDays) then
      .overdueReminder overdueDays (fineAmountForOverdueDays overdueDays)
    else .none
  else if !withdrawalRequired then
    .markWithdrawalRequired overdueDays (fineAmountForOverdueDays overdueDays)
  else .none

def resolveSubscriptionMaintenanceAction (currentPeriodEndAt now : ℤ)
    (lastPreExpiryRemindedForPeriodEndAt lastPreExpiryRemindedDay lastOverdueRemindedDay : Option ℤ)
    (withdrawalRequired : Bool) : SubscriptionMaintenanceAction :=
  let daysUntilExpiry := daysUntilExpiryWib currentPeriodEndAt now
  let reminderWasSentForPeriod := lastPreExpiryRemindedForPeriodEndAt = some currentPeriodEndAt
  let reminderWasSentForDay := lastPreExpiryRemindedDay = some (asI32 daysUntilExpiry)
  -- Rows from before the daily reminders have no day, but the first reminder of the period.
  let legacyDMinusFiveWasSent := reminderWasSentForPeriod ∧ lastPreExpiryRemindedDay = none ∧
    daysUntilExpiry = subscriptionPreExpiryReminderDays
  if (1 ≤ daysUntilExpiry ∧ daysUntilExpiry ≤ subscriptionPreExpiryReminderDays) ∧
      (¬ reminderWasSentForPeriod ∨ (¬ reminderWasSentForDay ∧ ¬ legacyDMinusFiveWasSent)) then
    .preExpiryReminder daysUntilExpiry
  else if daysUntilExpiry = 0 ∧
      (¬ reminderWasSentForPeriod ∨ lastPreExpiryRemindedDay ≠ some 0) then
    .expiryDayReminder
  else resolveOverdueAction (overdueDaysWib currentPeriodEndAt now) lastOverdueRemindedDay
    withdrawalRequired

/-! ### What a pass reads -/

structure MaintenanceRecord where
  subscriptionId : ℤ
  telegramUserId : ℤ
  chatId : ℤ
  currentPeriodEndAt : ℤ
  lastPreExpiryRemindedForPeriodEndAt : Option ℤ
  lastPreExpiryRemindedDay : Option ℤ
  lastOverdueRemindedDay : Option ℤ
  withdrawalRequired : Bool
  resolvedAt : Option ℤ
  deriving DecidableEq, Repr

/-- The plans and statuses a pass looks at. -/
def Subscription.IsMaintained (row : Subscription) : Prop :=
  (row.planCode = midtransBasicPlanCode ∨ row.planCode = midtransOjolPlanCode) ∧
    (row.status = .active ∨ row.status = .pastDue)

instance (row : Subscription) : Decidable row.IsMaintained := inferInstanceAs (Decidable (_ ∧ _))

/-- A subscription joined with its sanction, if it has a period end. -/
def maintenanceRecord (row : Subscription) (sanction : Option Sanction) :
    Option MaintenanceRecord :=
  row.currentPeriodEndAt.map fun periodEnd =>
    { subscriptionId := row.id
      telegramUserId := row.telegramUserId
      chatId := row.chatId
      currentPeriodEndAt := periodEnd
      lastPreExpiryRemindedForPeriodEndAt :=
        sanction.bind Sanction.lastPreExpiryRemindedForPeriodEndAt
      lastPreExpiryRemindedDay := sanction.bind Sanction.lastPreExpiryRemindedDay
      lastOverdueRemindedDay := sanction.bind Sanction.lastOverdueRemindedDay
      withdrawalRequired := (sanction.map Sanction.withdrawalRequired).getD false
      resolvedAt := sanction.bind Sanction.resolvedAt }

/-- `ORDER BY ts.current_period_end_at ASC, ts.id ASC`. -/
def MaintenanceRecord.le (r s : MaintenanceRecord) : Bool :=
  r.currentPeriodEndAt < s.currentPeriodEndAt ∨
    (r.currentPeriodEndAt = s.currentPeriodEndAt ∧ r.subscriptionId ≤ s.subscriptionId)

def fetchSubscriptionMaintenanceRecords (db : Database) : List MaintenanceRecord :=
  ((db.subscriptions.filter fun row => row.IsMaintained).filterMap fun row =>
    maintenanceRecord row (db.sanctionOf row.id)).mergeSort MaintenanceRecord.le

/-- Which subscriptions a pass reads. -/
theorem mem_fetchSubscriptionMaintenanceRecords {db : Database} {record : MaintenanceRecord} :
    record ∈ fetchSubscriptionMaintenanceRecords db ↔
      ∃ row ∈ db.subscriptions, row.IsMaintained ∧
        maintenanceRecord row (db.sanctionOf row.id) = some record := by
  simp only [fetchSubscriptionMaintenanceRecords, List.mem_mergeSort, List.mem_filterMap,
    List.mem_filter, decide_eq_true_eq, and_assoc]

theorem subscriptionId_maintenanceRecord {row : Subscription} {sanction : Option Sanction}
    {record : MaintenanceRecord} (h : maintenanceRecord row sanction = some record) :
    record.subscriptionId = row.id := by
  obtain ⟨periodEnd, _, rfl⟩ := Option.map_eq_some_iff.1 h
  rfl

/-- A pass reads a subscription at most once. -/
theorem fetchSubscriptionMaintenanceRecords_nodup (db : Database) :
    ((fetchSubscriptionMaintenanceRecords db).map MaintenanceRecord.subscriptionId).Nodup := by
  have hsublist : ∀ rows : List Subscription, ((rows.filterMap fun row =>
      maintenanceRecord row (db.sanctionOf row.id)).map MaintenanceRecord.subscriptionId).Sublist
      (rows.map Subscription.id) := by
    intro rows
    induction rows with
    | nil => exact List.Sublist.refl _
    | cons row rows ih =>
        cases hrecord : maintenanceRecord row (db.sanctionOf row.id) with
        | none =>
            simp only [List.filterMap_cons, hrecord]
            exact ih.cons _
        | some record =>
            simp only [List.filterMap_cons, hrecord, List.map_cons,
              subscriptionId_maintenanceRecord hrecord]
            exact ih.cons_cons _
  have hperm : (fetchSubscriptionMaintenanceRecords db).Perm _ := List.mergeSort_perm _ _
  refine (hperm.map _).nodup_iff.2 (List.Nodup.sublist (hsublist _) ?_)
  exact List.Nodup.sublist (List.filter_sublist.map _) db.subscriptions_id

/-! ### Statements -/

/-- The messages of a pass. -/
inductive MaintenanceMessage where
  | preExpiryReminder
  | expiryDayReminder
  | overdueReminder (fineAmountIdr : ℤ)
  deriving DecidableEq, Repr

/-- The values of an insert into `telegram_subscription_sanctions`. -/
structure SanctionValues where
  subscriptionId : ℤ
  telegramUserId : ℤ
  chatId : ℤ
  lastPreExpiryRemindedForPeriodEndAt : Option ℤ
  lastPreExpiryRemindedDay : Option ℤ
  lastOverdueRemindedDay : Option ℤ
  fineAmountIdr : ℤ
  withdrawalRequired : Bool
  withdrawalRequiredAt : Option ℤ
  deriving DecidableEq, Repr

/-- The row of the values, if it passes the checks of the table. -/
def SanctionValues.row (values : SanctionValues) : Option Sanction :=
  if h : (∀ day ∈ values.lastPreExpiryRemindedDay, 0 ≤ day ∧ day ≤ 5) ∧
      (∀ day ∈ values.lastOverdueRemindedDay, 1 ≤ day) ∧ 0 ≤ values.fineAmountIdr then
    some
      { subscriptionId := values.subscriptionId
        telegramUserId := values.telegramUserId
        chatId := values.chatId
        lastPreExpiryRemindedForPeriodEndAt := values.lastPreExpiryRemindedForPeriodEndAt
        lastPreExpiryRemindedDay := values.lastPreExpiryRemindedDay
        lastOverdueRemindedDay := values.lastOverdueRemindedDay
        fineAmountIdr := values.fineAmountIdr
        withdrawalRequired := values.withdrawalRequired
        withdrawalRequiredAt := values.withdrawalRequiredAt
        resolvedAt := none
        lastPreExpiryRemindedDay_mem := h.1
        lastOverdueRemindedDay_pos := h.2.1
        fineAmountIdr_nonneg := h.2.2 }
  else none

/-- A day of the stored row stays only with the period it belongs to. -/
def keptDay (excludedPeriod storedPeriod excludedDay storedDay : Option ℤ) : Option ℤ :=
  if excludedPeriod ≠ storedPeriod then excludedDay else excludedDay.or storedDay

theorem mem_keptDay {excludedPeriod storedPeriod excludedDay storedDay : Option ℤ} {day : ℤ}
    (h : day ∈ keptDay excludedPeriod storedPeriod excludedDay storedDay) :
    day ∈ excludedDay ∨ day ∈ storedDay := by
  unfold keptDay at h
  split at h
  · exact Or.inl h
  · cases hday : excludedDay with
    | none =>
        rw [hday, Option.none_or] at h
        exact Or.inr h
    | some day' =>
        rw [hday, Option.some_or] at h
        exact Or.inl h

/-- The row after `ON CONFLICT (subscription_id) DO UPDATE`. -/
def Sanction.merged (stored excluded : Sanction) : Sanction :=
  { stored with
    telegramUserId := excluded.telegramUserId
    chatId := excluded.chatId
    lastPreExpiryRemindedForPeriodEndAt :=
      excluded.lastPreExpiryRemindedForPeriodEndAt.or stored.lastPreExpiryRemindedForPeriodEndAt
    lastPreExpiryRemindedDay := keptDay excluded.lastPreExpiryRemindedForPeriodEndAt
      stored.lastPreExpiryRemindedForPeriodEndAt excluded.lastPreExpiryRemindedDay
      stored.lastPreExpiryRemindedDay
    lastOverdueRemindedDay := keptDay excluded.lastPreExpiryRemindedForPeriodEndAt
      stored.lastPreExpiryRemindedForPeriodEndAt excluded.lastOverdueRemindedDay
      stored.lastOverdueRemindedDay
    fineAmountIdr := excluded.fineAmountIdr
    withdrawalRequired := excluded.withdrawalRequired
    withdrawalRequiredAt := excluded.withdrawalRequiredAt.or stored.withdrawalRequiredAt
    resolvedAt := none
    lastPreExpiryRemindedDay_mem := fun day hday => (mem_keptDay hday).elim
      (excluded.lastPreExpiryRemindedDay_mem day) (stored.lastPreExpiryRemindedDay_mem day)
    lastOverdueRemindedDay_pos := fun day hday => (mem_keptDay hday).elim
      (excluded.lastOverdueRemindedDay_pos day) (stored.lastOverdueRemindedDay_pos day)
    fineAmountIdr_nonneg := excluded.fineAmountIdr_nonneg }

/-- `INSERT INTO telegram_subscription_sanctions … ON CONFLICT (subscription_id) DO UPDATE …`. -/
def Database.upsertSanction (db : Database) (excluded : Sanction) : Database :=
  if h : db.sanctionOf excluded.subscriptionId = none then
    { db with
      sanctions := db.sanctions ++ [excluded]
      sanctions_subscriptionId :=
        db.sanctions_subscriptionId.append fun s hs => rowAt_eq_none_iff.1 h s hs }
  else
    { db with
      sanctions := updateAt Sanction.subscriptionId excluded.subscriptionId
        (fun stored => stored.merged excluded) db.sanctions
      sanctions_subscriptionId := db.sanctions_subscriptionId.updateAt _ _ fun _ => rfl }

/-- `UPDATE telegram_subscriptions SET status = $2 WHERE id = $1`. -/
def Database.setSubscriptionStatus (db : Database) (subscriptionId : ℤ)
    (status : SubscriptionStatus) : Database :=
  { db with
    subscriptions := updateAt Subscription.id subscriptionId
      (fun row => { row with status := status }) db.subscriptions
    subscriptions_id := db.subscriptions_id.updateAt _ _ fun _ => rfl
    subscriptions_telegramUserId := db.subscriptions_telegramUserId.updateAt _ _ fun _ => rfl
    subscriptions_id_le := fun s hs => by
      obtain ⟨r, hr, rfl⟩ := mem_updateAt.1 hs
      have hle := db.subscriptions_id_le r hr
      split
      · exact hle
      · exact hle }

/-- A message or a statement of a pass. -/
inductive MaintenanceStatement where
  | sendMessage (chatId : ℤ) (message : MaintenanceMessage)
  | setSubscriptionStatus (subscriptionId : ℤ) (status : SubscriptionStatus)
  | upsertSanctionState (values : SanctionValues)
  deriving DecidableEq, Repr

/-- What a statement does, unless the row it would write fails a check. -/
def MaintenanceStatement.execute (db : Database) : MaintenanceStatement → Option Database
  | .sendMessage _ _ => some db
  | .setSubscriptionStatus subscriptionId status =>
      some (db.setSubscriptionStatus subscriptionId status)
  | .upsertSanctionState values => values.row.map db.upsertSanction

/-! ### A pass -/

def upsertSanctionState (record : MaintenanceRecord)
    (lastPreExpiryRemindedForPeriodEndAt lastPreExpiryRemindedDay lastOverdueRemindedDay : Option ℤ)
    (fineAmountIdr : ℤ) (withdrawalRequired : Bool) (withdrawalRequiredAt : Option ℤ) :
    MaintenanceStatement :=
  .upsertSanctionState
    { subscriptionId := record.subscriptionId
      telegramUserId := record.telegramUserId
      chatId := record.chatId
      lastPreExpiryRemindedForPeriodEndAt := lastPreExpiryRemindedForPeriodEndAt
      lastPreExpiryRemindedDay := lastPreExpiryRemindedDay
      lastOverdueRemindedDay := lastOverdueRemindedDay
      fineAmountIdr := fineAmountIdr
      withdrawalRequired := withdrawalRequired
      withdrawalRequiredAt := withdrawalRequiredAt }

def markPreExpiryReminderSent (record : MaintenanceRecord) (periodEndAt daysUntilExpiry : ℤ) :
    List MaintenanceStatement :=
  [upsertSanctionState record (some periodEndAt) (some (asI32 daysUntilExpiry)) none 0 false none]

/-- The pre-expiry day a record keeps: the one of its own period. -/
def MaintenanceRecord.keptPreExpiryDay (record : MaintenanceRecord) : Option ℤ :=
  if record.lastPreExpiryRemindedForPeriodEndAt = some record.currentPeriodEndAt then
    record.lastPreExpiryRemindedDay
  else none

def markOverdueReminderSent (record : MaintenanceRecord) (overdueDays fineAmountIdr : ℤ) :
    List MaintenanceStatement :=
  [.setSubscriptionStatus record.subscriptionId .pastDue,
    upsertSanctionState record (some record.currentPeriodEndAt) record.keptPreExpiryDay
      (some (asI32 overdueDays)) fineAmountIdr false none]

def markWithdrawalRequired (record : MaintenanceRecord) (overdueDays fineAmountIdr now : ℤ) :
    List MaintenanceStatement :=
  [.setSubscriptionStatus record.subscriptionId .pastDue,
    upsertSanctionState record (some record.currentPeriodEndAt) record.keptPreExpiryDay
      (some (asI32 overdueDays)) fineAmountIdr true (some now)]

/-- The overdue day a record is judged by: only one of an unresolved row of its own period. -/
def MaintenanceRecord.judgedOverdueDay (record : MaintenanceRecord) : Option ℤ :=
  if record.resolvedAt.isSome ∨
      record.lastPreExpiryRemindedForPeriodEndAt ≠ some record.currentPeriodEndAt then none
  else record.lastOverdueRemindedDay

def MaintenanceRecord.action (record : MaintenanceRecord) (now : ℤ) :
    SubscriptionMaintenanceAction :=
  resolveSubscriptionMaintenanceAction record.currentPeriodEndAt now
    record.lastPreExpiryRemindedForPeriodEndAt record.lastPreExpiryRemindedDay
    record.judgedOverdueDay record.withdrawalRequired

/-! ### What is due, by the day -/

section Due

variable {record : MaintenanceRecord} {now days : ℤ}

/-- The reminder of a day until the expiry is on record; the first one may be without its day. -/
def MaintenanceRecord.PreExpirySent (record : MaintenanceRecord) (daysUntilExpiry : ℤ) : Prop :=
  record.lastPreExpiryRemindedForPeriodEndAt = some record.currentPeriodEndAt ∧
    (record.lastPreExpiryRemindedDay = some daysUntilExpiry ∨
      record.lastPreExpiryRemindedDay = none ∧ daysUntilExpiry = subscriptionPreExpiryReminderDays)

instance (record : MaintenanceRecord) (daysUntilExpiry : ℤ) :
    Decidable (record.PreExpirySent daysUntilExpiry) :=
  inferInstanceAs (Decidable (_ ∧ _))

theorem asI32_of_lt {n : ℤ} (hle : -(2 ^ 31) ≤ n) (hlt : n < 2 ^ 31) : asI32 n = n :=
  Int.bmod_eq_of_le_mul_two (by omega) (by omega)

theorem overdueDaysWib_eq (periodEnd now : ℤ) :
    overdueDaysWib periodEnd now = max (-daysUntilExpiryWib periodEnd now) 0 := by
  unfold overdueDaysWib daysUntilExpiryWib
  omega

/-- Before the expiry nothing but a reminder can be due. -/
theorem resolveOverdueAction_of_le {overdueDay : Option ℤ} {withdrawalRequired : Bool}
    {periodEnd : ℤ} (h : 0 ≤ daysUntilExpiryWib periodEnd now) :
    resolveOverdueAction (overdueDaysWib periodEnd now) overdueDay withdrawalRequired = .none := by
  have hzero : overdueDaysWib periodEnd now = 0 := by
    rw [overdueDaysWib_eq]
    omega
  rw [resolveOverdueAction, if_pos hzero]

/-- The days an expiry lies ahead or behind, as both sides divide them. -/
theorem daysUntilExpiry_cases (record : MaintenanceRecord) (now : ℤ) :
    5 < daysUntilExpiryWib record.currentPeriodEndAt now ∨
    (∃ days, daysUntilExpiryWib record.currentPeriodEndAt now = days ∧ 1 ≤ days ∧ days ≤ 5) ∨
    daysUntilExpiryWib record.currentPeriodEndAt now = 0 ∨
    (∃ days, daysUntilExpiryWib record.currentPeriodEndAt now = -days ∧ 1 ≤ days ∧ days ≤ 7) ∨
    ∃ days, daysUntilExpiryWib record.currentPeriodEndAt now = -days ∧ 7 < days := by
  generalize daysUntilExpiryWib record.currentPeriodEndAt now = days
  rcases lt_or_ge 5 days with h | h
  · exact Or.inl h
  rcases lt_or_ge 0 days with h' | h'
  · exact Or.inr (Or.inl ⟨days, rfl, h', h⟩)
  rcases eq_or_lt_of_le h' with h' | h'
  · exact Or.inr (Or.inr (Or.inl h'))
  rcases lt_or_ge 7 (-days) with h'' | h''
  · exact Or.inr (Or.inr (Or.inr (Or.inr ⟨-days, (neg_neg days).symm, h''⟩)))
  · exact Or.inr (Or.inr (Or.inr (Or.inl ⟨-days, (neg_neg days).symm, by omega, h''⟩)))

theorem action_early (h : 5 < daysUntilExpiryWib record.currentPeriodEndAt now) :
    record.action now = .none := by
  unfold MaintenanceRecord.action resolveSubscriptionMaintenanceAction
    subscriptionPreExpiryReminderDays
  rw [if_neg (by omega), if_neg (by omega)]
  exact resolveOverdueAction_of_le (by omega)

theorem action_preExpiry (hdays : daysUntilExpiryWib record.currentPeriodEndAt now = days)
    (hpos : 1 ≤ days) (hle : days ≤ 5) :
    record.action now = if record.PreExpirySent days then .none else .preExpiryReminder days := by
  have hcast : asI32 days = days := asI32_of_lt (by omega) (by omega)
  unfold MaintenanceRecord.action resolveSubscriptionMaintenanceAction
  simp only [hdays, hcast]
  by_cases hsent : record.PreExpirySent days
  · obtain ⟨hperiod, hday⟩ := hsent
    rw [if_neg, if_neg, resolveOverdueAction_of_le (by omega), if_pos ⟨hperiod, hday⟩]
    · omega
    · rintro ⟨_, hperiod' | ⟨hday', hlegacy⟩⟩
      · exact hperiod' hperiod
      · rcases hday with hday | ⟨hnone, hfive⟩
        · exact hday' hday
        · exact hlegacy ⟨hperiod, hnone, hfive⟩
  · rw [if_pos, if_neg hsent]
    refine ⟨⟨hpos, hle⟩, ?_⟩
    by_cases hperiod : record.lastPreExpiryRemindedForPeriodEndAt = some record.currentPeriodEndAt
    · refine Or.inr ⟨?_, ?_⟩
      · intro hday
        exact hsent ⟨hperiod, Or.inl hday⟩
      · rintro ⟨_, hnone, hfive⟩
        exact hsent ⟨hperiod, Or.inr ⟨hnone, hfive⟩⟩
    · exact Or.inl hperiod

theorem action_expiryDay (hdays : daysUntilExpiryWib record.currentPeriodEndAt now = 0) :
    record.action now = if record.PreExpirySent 0 then .none else .expiryDayReminder := by
  unfold MaintenanceRecord.action resolveSubscriptionMaintenanceAction
  simp only [hdays]
  rw [if_neg (by omega)]
  by_cases hsent : record.PreExpirySent 0
  · have hday : record.lastPreExpiryRemindedDay = some 0 := by
      rcases hsent.2 with hday | ⟨_, hfive⟩
      · exact hday
      · exact absurd hfive (by decide)
    rw [if_neg, resolveOverdueAction_of_le (by omega), if_pos hsent]
    rintro ⟨_, hperiod | hday'⟩
    · exact hperiod hsent.1
    · exact hday' hday
  · rw [if_pos, if_neg hsent]
    refine ⟨trivial, ?_⟩
    by_contra h
    push Not at h
    exact hsent ⟨h.1, Or.inl h.2⟩

/-- After the expiry the last branches decide. -/
theorem action_expired (hdays : daysUntilExpiryWib record.currentPeriodEndAt now = -days)
    (hpos : 1 ≤ days) :
    record.action now = resolveOverdueAction days record.judgedOverdueDay
      record.withdrawalRequired := by
  have hoverdue : overdueDaysWib record.currentPeriodEndAt now = days := by
    rw [overdueDaysWib_eq, hdays]
    omega
  unfold MaintenanceRecord.action resolveSubscriptionMaintenanceAction
  simp only [hdays, hoverdue]
  rw [if_neg (by omega), if_neg (by omega)]

theorem action_overdue (hdays : daysUntilExpiryWib record.currentPeriodEndAt now = -days)
    (hpos : 1 ≤ days) (hle : days ≤ 7) :
    record.action now = if record.judgedOverdueDay = some days then .none
      else .overdueReminder days (fineAmountForOverdueDays days) := by
  have hcast : asI32 days = days := asI32_of_lt (by omega) (by omega)
  rw [action_expired hdays hpos, resolveOverdueAction, subscriptionMaxFineDays,
    if_neg (by omega), if_pos hle, hcast]
  exact ite_not _ _ _

theorem action_withdrawal (hdays : daysUntilExpiryWib record.currentPeriodEndAt now = -days)
    (hlate : 7 < days) :
    record.action now = if record.withdrawalRequired then .none
      else .markWithdrawalRequired days (fineAmountForOverdueDays days) := by
  rw [action_expired hdays (by omega), resolveOverdueAction, subscriptionMaxFineDays,
    if_neg (by omega), if_neg (not_le.2 hlate)]
  cases record.withdrawalRequired with
  | false => rfl
  | true => rfl

end Due

/-- The body of the loop over the records. -/
def MaintenanceRecord.statements (now : ℤ) (record : MaintenanceRecord) :
    List MaintenanceStatement :=
  match record.action now with
  | .none => []
  | .preExpiryReminder daysUntilExpiry =>
      .sendMessage record.chatId .preExpiryReminder ::
        markPreExpiryReminderSent record record.currentPeriodEndAt daysUntilExpiry
  | .expiryDayReminder =>
      .sendMessage record.chatId .expiryDayReminder ::
        markPreExpiryReminderSent record record.currentPeriodEndAt 0
  | .overdueReminder overdueDays fineAmountIdr =>
      .sendMessage record.chatId (.overdueReminder fineAmountIdr) ::
        markOverdueReminderSent record overdueDays fineAmountIdr
  | .markWithdrawalRequired overdueDays fineAmountIdr =>
      markWithdrawalRequired record overdueDays fineAmountIdr now

/-- The statements of a pass over the records. -/
def maintenanceStatements (now : ℤ) (records : List MaintenanceRecord) :
    List MaintenanceStatement :=
  records.flatMap fun record => record.statements now

/-! ### What a pass writes -/

/-- The subscription whose sanction the statement writes. -/
def MaintenanceStatement.sanctionKey : MaintenanceStatement → Option ℤ
  | .upsertSanctionState values => some values.subscriptionId
  | _ => none

/-- The body of the loop writes at most one sanction, that of its record. -/
theorem sanctionKeys_statements (now : ℤ) (record : MaintenanceRecord) :
    (record.statements now).filterMap MaintenanceStatement.sanctionKey = [] ∨
      (record.statements now).filterMap MaintenanceStatement.sanctionKey =
        [record.subscriptionId] := by
  unfold MaintenanceRecord.statements
  cases record.action now with
  | none => exact Or.inl rfl
  | _ => exact Or.inr rfl

/-- A pass writes at most one sanction of a subscription. -/
theorem sanctionKeys_maintenanceStatements_nodup (now : ℤ) {records : List MaintenanceRecord}
    (h : (records.map MaintenanceRecord.subscriptionId).Nodup) :
    ((maintenanceStatements now records).filterMap MaintenanceStatement.sanctionKey).Nodup := by
  refine List.Nodup.sublist ?_ h
  unfold maintenanceStatements
  clear h
  induction records with
  | nil => exact List.Sublist.refl _
  | cons record records ih =>
      rw [List.flatMap_cons, List.filterMap_append, List.map_cons]
      rcases sanctionKeys_statements now record with hkeys | hkeys
      · rw [hkeys]
        exact ih.cons _
      · rw [hkeys]
        exact ih.cons_cons _

end Gt06
