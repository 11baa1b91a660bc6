/-
**What a sanction row says.**

Three merge rules share the upsert of `telegram_subscription_sanctions`: the fine and the flag are
overwritten, the period end and the time of the withdrawal stay unless there are new ones, and the
days stay with the period end they belong to.  Nothing in the statement ties the columns together.
What ties them is the calendar: an overdue day is counted from the period end the row is stamped
with, and the passes come in the order of their times, so that what a pass keeps of the stored row
is never older than what it writes.

Main definitions:

* `Gt06.passUpTo` — a pass that ends at a call that fails, wherever it is;
* `Gt06.Database.maintained` — such passes and webhooks, one after the other;
* `Gt06.Sanction.Consistent` — what the columns of a row say of each other;
* `Gt06.Sanction.Dated` — the overdue day is that of a pass;
* `Gt06.PassWrites` — the row a pass inserts.

Main results:

* `Gt06.Account.writes_of_pass` — what a pass writes, by the calendar;
* `Gt06.account_passUpTo` — a pass that ends early leaves a sanction as it was, or as a whole pass;
* `Gt06.sanction_consistent` — **every sanction row of every run is consistent.**
-/

import Gt06Server.MaintenanceFailures

set_option relaxedAutoImplicit false
set_option autoImplicit false

namespace Gt06

open Relational Await

/-! ### Runs -/

inductive SanctionEvent where
  /-- The calls of the pass succeed up to a number of them, and the next one fails. -/
  | pass (now : ℤ) (calls : ℕ)
  | webhook (call : WebhookCall)

/-- `run_subscription_maintenance` when the call after some others fails. -/
def passUpTo (calls : ℕ) (db : Database) (now : ℤ) : Database :=
  runUntilFailure noFailure
    ((maintenanceStatements now (fetchSubscriptionMaintenanceRecords db)).take calls) db

def Database.maintained (db : Database) : SanctionEvent → Option Database
  | .pass now calls => some (passUpTo calls db now)
  | .webhook call => some (applyMidtransWebhook db call).2

def SanctionEvent.passTime : SanctionEvent → Option ℤ
  | .pass now _ => some now
  | .webhook _ => none

/-- The times of the passes of a run. -/
def maintenanceTimes (tr : List (Database × SanctionEvent)) : List ℤ :=
  tr.filterMap fun p => p.2.passTime

/-- A `DateTime<Utc>`, whose `timestamp_micros` is an `i64`. -/
def IsInstant (micros : ℤ) : Prop := -(2 ^ 63) ≤ micros ∧ micros < 2 ^ 63

instance (micros : ℤ) : Decidable (IsInstant micros) := inferInstanceAs (Decidable (_ ∧ _))

/-- The time of a pass and the period ends in the database are instants. -/
def HoldsInstants (p : Database × SanctionEvent) : Prop :=
  ∀ now ∈ p.2.passTime, IsInstant now ∧
    ∀ row ∈ p.1.subscriptions, ∀ periodEnd ∈ row.currentPeriodEndAt, IsInstant periodEnd

instance (p : Database × SanctionEvent) : Decidable (HoldsInstants p) :=
  inferInstanceAs (Decidable (∀ now ∈ p.2.passTime, _ ∧ _))

/-- The days between two instants fit an `i32`. -/
theorem inRange_of_instants {db : Database} {event : SanctionEvent} {now : ℤ}
    (h : HoldsInstants (db, event)) (hnow : event.passTime = some now) : InRange db now := by
  obtain ⟨hinstant, hends⟩ := h now hnow
  intro row hrow periodEnd hperiodEnd
  have hend := hends row hrow periodEnd hperiodEnd
  unfold IsInstant at hinstant hend
  unfold wibDate wibOffsetSeconds microsPerDay microsPerSecond
  omega

/-! ### The columns of a row -/

/-- What the columns of a sanction say of each other and of the period end of its subscription, and
the checks of the table. -/
structure Sanction.Consistent (periodEnd : Option ℤ) (sanction : Sanction) : Prop where
  fine : sanction.fineAmountIdr = 1000 * min 7 (sanction.lastOverdueRemindedDay.getD 0)
  withdrawal : sanction.withdrawalRequired = true ↔
    ∃ day ∈ sanction.lastOverdueRemindedDay, 7 < day
  withdrawalAt : sanction.withdrawalRequired = true ↔ sanction.withdrawalRequiredAt ≠ none
  stamp : ∀ stamp ∈ sanction.lastPreExpiryRemindedForPeriodEndAt, periodEnd = some stamp
  preExpiryDay : ∀ day ∈ sanction.lastPreExpiryRemindedDay, 0 ≤ day ∧ day ≤ 5
  overdueDay : ∀ day ∈ sanction.lastOverdueRemindedDay, 1 ≤ day
  fine_nonneg : 0 ≤ sanction.fineAmountIdr

/-- The overdue day is that of one of the passes, counted from the stamp. -/
def Sanction.Dated (times : List ℤ) (sanction : Sanction) : Prop :=
  ∀ day ∈ sanction.lastOverdueRemindedDay,
    ∃ stamp ∈ sanction.lastPreExpiryRemindedForPeriodEndAt,
      ∃ time ∈ times, wibDate stamp + day = wibDate time

/-- What a pass inserts for a period end: a reminder up to it, or the days since. -/
inductive PassWrites (periodEnd now : ℤ) (excluded : Sanction) : Prop
  | reminder (hdate : wibDate now ≤ wibDate periodEnd)
      (hstamp : excluded.lastPreExpiryRemindedForPeriodEndAt = some periodEnd)
      (hday : excluded.lastOverdueRemindedDay = none) (hfine : excluded.fineAmountIdr = 0)
      (hflag : excluded.withdrawalRequired = false) (hat : excluded.withdrawalRequiredAt = none)
  | overdue {days : ℤ} (hdate : wibDate now = wibDate periodEnd + days) (hpos : 1 ≤ days)
      (hstamp : excluded.lastPreExpiryRemindedForPeriodEndAt = some periodEnd)
      (hday : excluded.lastOverdueRemindedDay = some (asI32 days))
      (hfine : excluded.fineAmountIdr = fineAmountForOverdueDays days)
      (hflag : excluded.withdrawalRequired = decide (7 < days))
      (hat : excluded.withdrawalRequiredAt = if 7 < days then some now else none)

section Upsert

variable {sanction : Option Sanction} {stored excluded : Sanction} {periodEnd now : ℤ}
  {times : List ℤ}

theorem upserted_fine : (upserted sanction excluded).fineAmountIdr = excluded.fineAmountIdr := by
  cases sanction with
  | none => rfl
  | some stored => rfl

theorem upserted_withdrawalRequiredAt : (upserted sanction excluded).withdrawalRequiredAt =
    excluded.withdrawalRequiredAt.or (sanction.bind Sanction.withdrawalRequiredAt) := by
  cases sanction with
  | none => simp [upserted]
  | some stored => rfl

/-- The stored day is not later than the pass. -/
theorem Sanction.Dated.overdueDay_le (h : stored.Dated times)
    (hconsistent : stored.Consistent (some periodEnd)) (htimes : ∀ time ∈ times, time ≤ now) :
    ∀ day ∈ stored.lastOverdueRemindedDay, wibDate periodEnd + day ≤ wibDate now := by
  intro day hday
  obtain ⟨stamp, hstamp, time, htime, hdate⟩ := h day hday
  obtain rfl : periodEnd = stamp := Option.some.inj (hconsistent.stamp stamp hstamp)
  rw [hdate]
  exact wibDate_mono (htimes time htime)

/-- In the week after the expiry, and before, no time of a withdrawal is stored. -/
theorem withdrawalRequiredAt_eq_none
    (h : ∀ stored ∈ sanction, stored.Consistent (some periodEnd) ∧ stored.Dated times)
    (htimes : ∀ time ∈ times, time ≤ now) (hweek : wibDate now ≤ wibDate periodEnd + 7) :
    sanction.bind Sanction.withdrawalRequiredAt = none := by
  cases sanction with
  | none => rfl
  | some stored =>
      obtain ⟨hconsistent, hdated⟩ := h stored rfl
      by_contra hat
      -- it would come with an overdue day above seven, which no pass has reached yet
      obtain ⟨day, hday, hlate⟩ := hconsistent.withdrawal.1 (hconsistent.withdrawalAt.2 hat)
      have hle := hdated.overdueDay_le hconsistent htimes day hday
      omega

/-- Up to the expiry no overdue day of the period end is stored. -/
theorem overdueDay_eq_none
    (h : ∀ stored ∈ sanction, stored.Consistent (some periodEnd) ∧ stored.Dated times)
    (htimes : ∀ time ∈ times, time ≤ now) (hdate : wibDate now ≤ wibDate periodEnd) :
    ∀ stored ∈ sanction, stored.lastOverdueRemindedDay = none := by
  intro stored hstored
  obtain ⟨hconsistent, hdated⟩ := h stored hstored
  cases hday : stored.lastOverdueRemindedDay with
  | none => rfl
  | some day =>
      have hpos := stored.lastOverdueRemindedDay_pos day hday
      have hle := hdated.overdueDay_le hconsistent htimes day hday
      omega

/-- The upsert of a pass keeps the columns together. -/
theorem PassWrites.keeps (hwrites : PassWrites periodEnd now excluded)
    (h : ∀ stored ∈ sanction, stored.Consistent (some periodEnd) ∧ stored.Dated times)
    (htimes : ∀ time ∈ times, time ≤ now)
    (hrange : wibDate now - wibDate periodEnd < 2 ^ 31) :
    (upserted sanction excluded).Consistent (some periodEnd) ∧
      (upserted sanction excluded).Dated (times ++ [now]) := by
  cases hwrites with
  | reminder hdate hstamp hday hfine hflag hat =>
      have hnone : (upserted sanction excluded).lastOverdueRemindedDay = none :=
        upserted_overdueDay_none hday hstamp fun stored hstored _ =>
          overdueDay_eq_none h htimes hdate stored hstored
      have hatNone : (upserted sanction excluded).withdrawalRequiredAt = none := by
        rw [upserted_withdrawalRequiredAt, hat, Option.none_or]
        exact withdrawalRequiredAt_eq_none h htimes (by omega)
      refine ⟨⟨?_, ?_, ?_, ?_, Sanction.lastPreExpiryRemindedDay_mem _,
        Sanction.lastOverdueRemindedDay_pos _, Sanction.fineAmountIdr_nonneg _⟩, ?_⟩
      · rw [upserted_fine, hfine, hnone]
        rfl
      · rw [upserted_flag, hflag, hnone]
        simp
      · rw [upserted_flag, hflag, hatNone]
        simp
      · intro stamp hmem
        rw [upserted_period hstamp] at hmem
        exact hmem
      · intro day hmem
        rw [hnone] at hmem
        cases hmem
  | @overdue days hdate hpos hstamp hday hfine hflag hat =>
      rw [asI32_of_lt (by omega) (by omega)] at hday
      have hsome : (upserted sanction excluded).lastOverdueRemindedDay = some days :=
        upserted_overdueDay hday
      refine ⟨⟨?_, ?_, ?_, ?_, Sanction.lastPreExpiryRemindedDay_mem _,
        Sanction.lastOverdueRemindedDay_pos _, Sanction.fineAmountIdr_nonneg _⟩, ?_⟩
      · rw [upserted_fine, hfine, hsome, Option.getD_some]
        unfold fineAmountForOverdueDays subscriptionMaxFineDays subscriptionDailyFineIdr
        omega
      · rw [upserted_flag, hflag, hsome]
        simp
      · rw [upserted_flag, hflag, upserted_withdrawalRequiredAt, hat]
        by_cases hlate : 7 < days
        · simp [hlate]
        · -- the time is merged with the stored one, which is that of no withdrawal
          rw [if_neg hlate, Option.none_or, withdrawalRequiredAt_eq_none h htimes (by omega)]
          simp [hlate]
      · intro stamp hmem
        rw [upserted_period hstamp] at hmem
        exact hmem
      · intro day hmem
        obtain rfl : days = day := Option.some.inj (hsome.symm.trans hmem)
        exact ⟨periodEnd, upserted_period hstamp, now, List.mem_append_right _
          (List.mem_singleton_self _), hdate.symm⟩

end Upsert

/-! ### A pass over one subscription -/

section Pass

variable {account account' : Account} {record : MaintenanceRecord} {now : ℤ} {times : List ℤ}

/-- The other columns of a row that passes the checks. -/
theorem SanctionValues.fine_of_row {values : SanctionValues} {excluded : Sanction}
    (h : values.row = some excluded) : excluded.fineAmountIdr = values.fineAmountIdr ∧
      excluded.withdrawalRequiredAt = values.withdrawalRequiredAt := by
  unfold SanctionValues.row at h
  split at h
  · rw [← Option.some.inj h]
    exact ⟨rfl, rfl⟩
  · cases h

/-- A reminder before the period end is noted, once the message is sent. -/
theorem Account.writes_of_reminder {chatId days : ℤ} {message : MaintenanceMessage}
    (hdate : wibDate now ≤ wibDate record.currentPeriodEndAt)
    (h : (.sendMessage chatId message ::
      markPreExpiryReminderSent record record.currentPeriodEndAt days).foldlM Account.execute
        account = some account') :
    ∃ excluded, PassWrites record.currentPeriodEndAt now excluded ∧
      account'.sanction = some (upserted account.sanction excluded) := by
  rw [Account.foldlM_sendMessage] at h
  obtain ⟨excluded, hrow, rfl⟩ := Account.foldlM_upsert h
  obtain ⟨hstamp, -, hday, hflag, -⟩ := SanctionValues.fields_of_row hrow
  obtain ⟨hfine, hat⟩ := SanctionValues.fine_of_row hrow
  exact ⟨excluded, .reminder hdate hstamp hday hfine hflag hat, rfl⟩

/-- What a pass writes about a period end that has passed. -/
theorem passWrites_overdue {days : ℤ} {flag : Bool} {flagAt : Option ℤ} {excluded : Sanction}
    (hdate : wibDate now = wibDate record.currentPeriodEndAt + days) (hpos : 1 ≤ days)
    (hflag : flag = decide (7 < days)) (hat : flagAt = if 7 < days then some now else none)
    (h : SanctionValues.row
      { subscriptionId := record.subscriptionId
        telegramUserId := record.telegramUserId
        chatId := record.chatId
        lastPreExpiryRemindedForPeriodEndAt := some record.currentPeriodEndAt
        lastPreExpiryRemindedDay := record.keptPreExpiryDay
        lastOverdueRemindedDay := some (asI32 days)
        fineAmountIdr := fineAmountForOverdueDays days
        withdrawalRequired := flag
        withdrawalRequiredAt := flagAt } = some excluded) :
    PassWrites record.currentPeriodEndAt now excluded := by
  obtain ⟨hstamp, -, hday, hset, -⟩ := SanctionValues.fields_of_row h
  obtain ⟨hfine, hsetAt⟩ := SanctionValues.fine_of_row h
  exact .overdue hdate hpos hstamp hday hfine (hset.trans hflag) (hsetAt.trans hat)

/-- A pass leaves an account alone, or writes what the calendar says. -/
theorem Account.writes_of_pass (hrecord : account.record = some record)
    (hpass : account.pass now = some account') :
    account' = account ∨ ∃ excluded, PassWrites record.currentPeriodEndAt now excluded ∧
      account'.sanction = some (upserted account.sanction excluded) := by
  have hdaysEq := daysUntilExpiryWib_eq record.currentPeriodEndAt now
  simp only [Account.pass, hrecord, MaintenanceRecord.statements] at hpass
  rcases daysUntilExpiry_cases record now with h | ⟨days, hdays, hpos, hle⟩ | hdays |
    ⟨days, hdays, hpos, hle⟩ | ⟨days, hdays, hlate⟩
  · rw [action_early h] at hpass
    exact Or.inl (Option.some.inj hpass).symm
  · rw [action_preExpiry hdays hpos hle] at hpass
    by_cases hsent : record.PreExpirySent days
    · rw [if_pos hsent] at hpass
      exact Or.inl (Option.some.inj hpass).symm
    · rw [if_neg hsent] at hpass
      exact Or.inr (Account.writes_of_reminder (by omega) hpass)
  · rw [action_expiryDay hdays] at hpass
    by_cases hsent : record.PreExpirySent 0
    · rw [if_pos hsent] at hpass
      exact Or.inl (Option.some.inj hpass).symm
    · rw [if_neg hsent] at hpass
      exact Or.inr (Account.writes_of_reminder (by omega) hpass)
  · rw [action_overdue hdays hpos hle] at hpass
    by_cases hsent : record.judgedOverdueDay = some days
    · rw [if_pos hsent] at hpass
      exact Or.inl (Option.some.inj hpass).symm
    · rw [if_neg hsent] at hpass
      rw [Account.foldlM_sendMessage, markOverdueReminderSent,
        Account.foldlM_setSubscriptionStatus] at hpass
      obtain ⟨excluded, hrow, rfl⟩ := Account.foldlM_upsert hpass
      refine Or.inr ⟨excluded, passWrites_overdue (by omega) hpos ?_ ?_ hrow, rfl⟩
      · exact (decide_eq_false (not_lt.2 hle)).symm
      · rw [if_neg (not_lt.2 hle)]
  · rw [action_withdrawal hdays hlate] at hpass
    cases hflag : record.withdrawalRequired with
    | true =>
        rw [hflag] at hpass
        exact Or.inl (Option.some.inj hpass).symm
    | false =>
        rw [hflag] at hpass
        simp only [Bool.false_eq_true, if_false] at hpass
        rw [markWithdrawalRequired, Account.foldlM_setSubscriptionStatus] at hpass
        obtain ⟨excluded, hrow, rfl⟩ := Account.foldlM_upsert hpass
        refine Or.inr ⟨excluded, passWrites_overdue (by omega) (by omega) ?_ ?_ hrow, rfl⟩
        · exact (decide_eq_true hlate).symm
        · rw [if_pos hlate]

/-- What is kept of an account: its sanction is consistent and dated by the passes. -/
def Account.SanctionKept (times : List ℤ) (account : Account) : Prop :=
  ∀ sanction ∈ account.sanction, sanction.Consistent account.periodEnd ∧ sanction.Dated times

theorem Sanction.Dated.mono {sanction : Sanction} {times' : List ℤ} (h : sanction.Dated times)
    (hsubset : times ⊆ times') : sanction.Dated times' := by
  intro day hday
  obtain ⟨stamp, hstamp, time, htime, hdate⟩ := h day hday
  exact ⟨stamp, hstamp, time, hsubset htime, hdate⟩

theorem Account.SanctionKept.mono {times' : List ℤ} (h : account.SanctionKept times)
    (hsubset : times ⊆ times') : account.SanctionKept times' := by
  intro sanction hsanction
  obtain ⟨hconsistent, hdated⟩ := h sanction hsanction
  exact ⟨hconsistent, hdated.mono hsubset⟩

/-- A pass keeps it, no earlier than the passes before. -/
theorem Account.SanctionKept.pass (h : account.SanctionKept times)
    (hpass : account.pass now = some account') (htimes : ∀ time ∈ times, time ≤ now)
    (hrange : ∀ periodEnd ∈ account.periodEnd, wibDate now - wibDate periodEnd < 2 ^ 31) :
    account'.SanctionKept (times ++ [now]) := by
  have hmono := h.mono (List.subset_append_left times [now])
  cases hrecord : account.record with
  | none =>
      rw [Account.pass, hrecord] at hpass
      rw [← Option.some.inj hpass]
      exact hmono
  | some record =>
      rcases Account.writes_of_pass hrecord hpass with rfl | ⟨excluded, hwrites, hsanction⟩
      · exact hmono
      · have hperiodEnd : account.periodEnd = some record.currentPeriodEndAt :=
          (Account.record_fields hrecord).1
        unfold Account.SanctionKept at h
        rw [hperiodEnd] at h
        intro sanction hmem
        rw [Account.periodEnd_of_pass hpass, hperiodEnd]
        obtain rfl := Option.some.inj (hsanction.symm.trans hmem)
        exact hwrites.keeps h htimes (hrange _ hperiodEnd)

/-- A payment resolves the sanction: nothing is left in it. -/
theorem Account.SanctionKept.renew {sanction : Option Sanction} {row : Subscription} {at' : ℤ} :
    Account.SanctionKept times ⟨some row, sanction.map fun s => s.resolved at'⟩ := by
  intro resolved hresolved
  obtain ⟨stored, -, rfl⟩ := Option.map_eq_some_iff.1 hresolved
  refine ⟨⟨rfl, ?_, ?_, ?_, Sanction.lastPreExpiryRemindedDay_mem _,
    Sanction.lastOverdueRemindedDay_pos _, Sanction.fineAmountIdr_nonneg _⟩, ?_⟩
  · simp [Sanction.resolved]
  · simp [Sanction.resolved]
  · intro stamp hstamp
    cases hstamp
  · intro day hday
    cases hday

end Pass

/-! ### A pass that ends early -/

section Prefix

variable {account account' : Account} {record : MaintenanceRecord} {now : ℤ}

/-- The statement writes no sanction. -/
def MaintenanceStatement.LeavesSanction (statement : MaintenanceStatement) : Prop :=
  ∀ values, statement ≠ .upsertSanctionState values

/-- Without an upsert the sanction and the period end stay. -/
theorem Account.foldlM_leavesSanction {statements : List MaintenanceStatement}
    (hleaves : ∀ statement ∈ statements, statement.LeavesSanction)
    (h : statements.foldlM Account.execute account = some account') :
    account'.sanction = account.sanction ∧ account'.periodEnd = account.periodEnd := by
  induction statements generalizing account with
  | nil =>
      obtain rfl : account = account' := Option.some.inj h
      exact ⟨rfl, rfl⟩
  | cons statement statements ih =>
      have hrest : ∀ s ∈ statements, s.LeavesSanction :=
        fun s hs => hleaves s (List.mem_cons_of_mem _ hs)
      cases statement with
      | sendMessage chatId message =>
          rw [Account.foldlM_sendMessage] at h
          exact ih hrest h
      | setSubscriptionStatus subscriptionId status =>
          rw [Account.foldlM_setSubscriptionStatus] at h
          obtain ⟨hsanction, hperiodEnd⟩ := ih hrest h
          exact ⟨hsanction, hperiodEnd.trans (Account.periodEnd_withStatus status)⟩
      | upsertSanctionState values => exact absurd rfl (hleaves _ List.mem_cons_self values)

/-- The upsert is the last statement for a record. -/
theorem statements_eq_concat (record : MaintenanceRecord) (now : ℤ) :
    record.statements now = [] ∨ ∃ first values,
      record.statements now = first ++ [.upsertSanctionState values] ∧
        ∀ statement ∈ first, statement.LeavesSanction := by
  unfold MaintenanceRecord.statements
  cases record.action now with
  | none => exact Or.inl rfl
  | preExpiryReminder days =>
      refine Or.inr ⟨[_], _, rfl, List.forall_mem_singleton.2 ?_⟩
      exact fun _ h => by cases h
  | expiryDayReminder =>
      refine Or.inr ⟨[_], _, rfl, List.forall_mem_singleton.2 ?_⟩
      exact fun _ h => by cases h
  | overdueReminder days fine =>
      refine Or.inr ⟨[_, _], _, rfl, List.forall_mem_cons.2 ⟨?_, List.forall_mem_singleton.2 ?_⟩⟩
      · exact fun _ h => by cases h
      · exact fun _ h => by cases h
  | markWithdrawalRequired days fine =>
      refine Or.inr ⟨[_], _, rfl, List.forall_mem_singleton.2 ?_⟩
      exact fun _ h => by cases h

/-- Of the statements for a record, some first ones leave the sanction, or they are all. -/
theorem prefix_filter_statements {p : MaintenanceStatement → Bool}
    {statements : List MaintenanceStatement}
    (h : statements <+: (record.statements now).filter p) :
    (∀ statement ∈ statements, statement.LeavesSanction) ∨
      statements = (record.statements now).filter p := by
  rcases statements_eq_concat record now with hnil | ⟨first, values, hconcat, hfirst⟩
  · rw [hnil, List.filter_nil, List.prefix_nil] at h
    rw [h, hnil]
    exact Or.inr rfl
  rw [hconcat, List.filter_append, List.filter_singleton] at h ⊢
  cases hp : p (.upsertSanctionState values) with
  | false =>
      rw [hp, cond_false, List.append_nil] at h
      exact Or.inl fun statement hmem => hfirst statement (List.mem_of_mem_filter (h.subset hmem))
  | true =>
      rw [hp, cond_true] at h
      rw [cond_true]
      rcases List.prefix_concat_iff.1 h with hall | hsome
      · exact Or.inr hall
      · exact Or.inl fun statement hmem =>
          hfirst statement (List.mem_of_mem_filter (hsome.subset hmem))

/-- A pass that ends early leaves the sanction of a subscription as it was, or as a whole pass
does. -/
theorem account_passUpTo {db : Database} (hrange : InRange db now) (calls : ℕ)
    (subscriptionId : ℤ) :
    ((passUpTo calls db now).account subscriptionId).sanction =
        (db.account subscriptionId).sanction ∧
      ((passUpTo calls db now).account subscriptionId).periodEnd =
        (db.account subscriptionId).periodEnd ∨
    (db.account subscriptionId).pass now =
      some ((passUpTo calls db now).account subscriptionId) := by
  have hchecked : ∀ statement ∈ (maintenanceStatements now
      (fetchSubscriptionMaintenanceRecords db)).take calls, statement.Checked :=
    fun statement hmem => checked_maintenanceStatements hrange statement (List.mem_of_mem_take hmem)
  have hrun := @foldlM_takeWhile noFailure db _ hchecked
  have hnone : ∀ statement ∈ (maintenanceStatements now
      (fetchSubscriptionMaintenanceRecords db)).take calls, (!noFailure statement) = true :=
    fun _ _ => rfl
  rw [List.takeWhile_eq_self_iff.2 hnone] at hrun
  have hfold := account_foldlM hrun subscriptionId
  have hprefix := (List.take_prefix calls (maintenanceStatements now
    (fetchSubscriptionMaintenanceRecords db))).filter
      fun statement => statement.subject = some subscriptionId
  rw [filter_maintenanceStatements, filter_fetchSubscriptionMaintenanceRecords] at hprefix
  cases hrecord : (db.account subscriptionId).record with
  | none =>
      rw [hrecord] at hprefix
      rw [List.prefix_nil.1 hprefix] at hfold
      refine Or.inr ?_
      rw [Account.pass, hrecord]
      exact hfold
  | some record =>
      obtain rfl := subscriptionId_of_record hrecord
      rw [hrecord] at hprefix
      simp only [Option.toList_some, maintenanceStatements, List.flatMap_cons, List.flatMap_nil,
        List.append_nil] at hprefix
      -- the pass ends before the upsert for this subscription, or has made it
      rcases prefix_filter_statements hprefix with hleaves | hall
      · exact Or.inl (Account.foldlM_leavesSanction hleaves hfold)
      · refine Or.inr ?_
        rw [Account.pass, hrecord]
        rw [maintenanceStatements, hall, foldlM_filter_subject fun _ => subject_statements] at hfold
        exact hfold

end Prefix

/-! ### Every run -/

section Run

variable {db db' : Database} {tr : List (Database × SanctionEvent)} {subscriptionId : ℤ}

/-- Every event keeps it. -/
theorem sanctionKept_step {event : SanctionEvent} {times : List ℤ}
    (h : (db.account subscriptionId).SanctionKept times) (hstep : db.maintained event = some db')
    (htimes : ∀ now ∈ event.passTime, ∀ time ∈ times, time ≤ now)
    (hinstants : HoldsInstants (db, event)) :
    (db'.account subscriptionId).SanctionKept (times ++ event.passTime.toList) := by
  cases event with
  | pass now calls =>
      obtain rfl := Option.some.inj hstep
      have hrange := inRange_of_instants hinstants rfl
      rcases account_passUpTo hrange calls subscriptionId with ⟨hsanction, hperiodEnd⟩ | hpass
      · unfold Account.SanctionKept
        rw [hsanction, hperiodEnd]
        exact h.mono (List.subset_append_left _ _)
      · refine h.pass hpass (htimes now rfl) ?_
        intro periodEnd hperiodEnd
        obtain ⟨row, hrow, hend⟩ := Option.bind_eq_some_iff.1 hperiodEnd
        exact hrange row (mem_of_rowAt (show rowAt Subscription.id _ _ = some row from hrow)).1
          periodEnd hend
  | webhook call =>
      obtain rfl := Option.some.inj hstep
      rw [show (SanctionEvent.webhook call).passTime.toList = [] from rfl, List.append_nil]
      rcases account_webhook db call subscriptionId with hsame | ⟨row, periodEnd, haccount, -⟩
      · rw [hsame]
        exact h
      · rw [haccount]
        exact .renew

theorem sanctionKept_run (hsanction : db.sanctionOf subscriptionId = none)
    (run : Run Database.maintained db tr db') (htimes : (maintenanceTimes tr).Pairwise (· ≤ ·))
    (hinstants : ∀ p ∈ tr, HoldsInstants p) :
    (db'.account subscriptionId).SanctionKept (maintenanceTimes tr) := by
  induction run with
  | nil =>
      intro sanction hmem
      have hnone : (db.account subscriptionId).sanction = none := hsanction
      rw [hnone] at hmem
      cases hmem
  | @snoc tr db₁ db₂ event _ hstep ih =>
      have hevent : maintenanceTimes [(db₁, event)] = event.passTime.toList := by
        rw [maintenanceTimes, List.filterMap_cons, List.filterMap_nil]
        cases event.passTime with
        | none => rfl
        | some now => rfl
      rw [maintenanceTimes, List.filterMap_append, List.pairwise_append] at htimes
      -- the pass that comes last is no earlier than those the sanction is dated by
      obtain ⟨hbefore, -, hlast⟩ := htimes
      rw [maintenanceTimes, List.filterMap_append]
      have hkept := ih hbefore fun p hp => hinstants p (List.mem_append_left _ hp)
      have hinstant := hinstants (db₁, event) (List.mem_append_right _ (List.mem_singleton_self _))
      have hnext := sanctionKept_step hkept hstep ?_ hinstant
      · rw [← hevent] at hnext
        exact hnext
      · intro now hnow time htime
        refine hlast time htime now ?_
        exact List.mem_filterMap.2 ⟨(db₁, event), List.mem_singleton_self _, hnow⟩

/-- **Every sanction row is consistent**: in every run of passes, in the order of their times and
each ending wherever a call fails, and of webhooks, the sanction of a subscription that had none at
the start has the fine of its overdue day, the flag and the time of a withdrawal exactly after the
seventh day, and no stamp but the current period end; and no statement of a pass violates a check
of the table. -/
theorem sanction_consistent (hsanction : db.sanctionOf subscriptionId = none)
    (run : Run Database.maintained db tr db') (htimes : (maintenanceTimes tr).Pairwise (· ≤ ·))
    (hinstants : ∀ p ∈ tr, HoldsInstants p) :
    (∀ sanction ∈ db'.sanctionOf subscriptionId,
      sanction.Consistent (db'.account subscriptionId).periodEnd) ∧
    ∀ p ∈ tr, ∀ now ∈ p.2.passTime, ∀ statement ∈
      maintenanceStatements now (fetchSubscriptionMaintenanceRecords p.1), statement.Checked := by
  constructor
  · intro sanction hmem
    exact (sanctionKept_run hsanction run htimes hinstants sanction hmem).1
  · rintro ⟨before, event⟩ hp now hnow
    exact checked_maintenanceStatements (inRange_of_instants (hinstants _ hp) hnow)

end Run

/-- Two days after the expiry a pass ends before its upsert and another one does not, and the next
one is six days later. -/
def overdueThenWithdrawn : List SanctionEvent :=
  [.pass 1777111200000000 2, .pass 1777111200000000 3, .pass (1777111200000000 + days 6) 3]

theorem replay_overdueThenWithdrawn :
    (replay (fun db event =>
        if decide (HoldsInstants (db, event)) then Database.maintained db event else none)
      overdueDatabase overdueThenWithdrawn).any (fun db => decide
        ((db.sanctionOf 1).map (fun sanction => (sanction.lastOverdueRemindedDay,
          sanction.fineAmountIdr, sanction.withdrawalRequired)) = some (some 8, 7000, true))) =
      true := by
  decide +kernel

theorem sanction_consistent_overdueThenWithdrawn :
    ∃ tr db, tr.map Prod.snd = overdueThenWithdrawn ∧
      Run Database.maintained overdueDatabase tr db ∧
      (db.sanctionOf 1).map (fun sanction => (sanction.lastOverdueRemindedDay,
        sanction.fineAmountIdr, sanction.withdrawalRequired)) = some (some 8, 7000, true) ∧
      ∀ sanction ∈ db.sanctionOf 1, sanction.Consistent (db.account 1).periodEnd := by
  obtain ⟨tr, db, hevents, run, hinstants, hrow⟩ :=
    run_of_replay_checked replay_overdueThenWithdrawn
  refine ⟨tr, db, hevents, run, of_decide_eq_true hrow,
    (sanction_consistent rfl run ?_ fun p hp => of_decide_eq_true (hinstants p hp)).1⟩
  have htimes : maintenanceTimes tr = overdueThenWithdrawn.filterMap SanctionEvent.passTime := by
    rw [← hevents, List.filterMap_map]
    rfl
  rw [htimes]
  decide

end Gt06
