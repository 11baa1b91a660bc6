/-
**A pass with calls that fail.**

The loop over the records leaves `run_subscription_maintenance` at the first call that fails, be it
a message to a subscriber who has blocked the bot.  The records before that one are carried out, and
those after it are not looked at.

Main definitions:

* `Gt06.runUntilFailure`, `Gt06.passWith` — a pass in which some calls fail;
* `Gt06.MaintenanceRecord.CallsSucceed` — the calls of a record succeed;
* `Gt06.FailuresIsolated` — no record is worse off for the failures of others;
* `Gt06.ReachesDue` — nothing is due behind a failure.

Main results:

* `Gt06.checked_statements` — the rows a pass writes pass the checks of the table;
* `Gt06.Account.pass_eq_self_iff` — a pass leaves an account alone exactly when nothing is due;
* `Gt06.failuresIsolated_iff` — **failures are isolated exactly when nothing is due behind them**;
* `Gt06.blocked_chat_stops_pass` — a subscriber who has blocked the bot stops the others.
-/

import Mathlib
import Gt06Server.DailyReminders
import Gt06Server.SubscriptionLifecycle

set_option relaxedAutoImplicit false
set_option autoImplicit false

namespace Gt06

open Relational

/-! ### Passes with failures -/

/-- The statements run up to the first that fails, or whose row fails a check. -/
def runUntilFailure (fails : MaintenanceStatement → Bool) :
    List MaintenanceStatement → Database → Database
  | [], db => db
  | statement :: statements, db =>
      if fails statement then db
      else
        match statement.execute db with
        | some db' => runUntilFailure fails statements db'
        | none => db

/-- `run_subscription_maintenance` when the given calls fail. -/
def passWith (fails : MaintenanceStatement → Bool) (db : Database) (now : ℤ) : Database :=
  runUntilFailure fails (maintenanceStatements now (fetchSubscriptionMaintenanceRecords db)) db

/-- No call fails. -/
def noFailure : MaintenanceStatement → Bool := fun _ => false

/-- `send_telegram_message` fails for some chats. -/
def blockedChats (chats : List ℤ) : MaintenanceStatement → Bool
  | .sendMessage chatId _ => chatId ∈ chats
  | _ => false

/-- The calls of a record succeed. -/
def MaintenanceRecord.CallsSucceed (fails : MaintenanceStatement → Bool) (now : ℤ)
    (record : MaintenanceRecord) : Prop :=
  ∀ statement ∈ record.statements now, fails statement = false

instance (fails : MaintenanceStatement → Bool) (now : ℤ) (record : MaintenanceRecord) :
    Decidable (record.CallsSucceed fails now) :=
  inferInstanceAs (Decidable (∀ statement ∈ record.statements now, fails statement = false))

/-- Every record whose own calls succeed ends as if no call had failed. -/
def FailuresIsolated (fails : MaintenanceStatement → Bool) (db : Database) (now : ℤ) : Prop :=
  ∀ record ∈ fetchSubscriptionMaintenanceRecords db, record.CallsSucceed fails now →
    (passWith fails db now).account record.subscriptionId =
      (passWith noFailure db now).account record.subscriptionId

/-- Before a record for which something is due, and whose own calls succeed, no call fails. -/
def ReachesDue (fails : MaintenanceStatement → Bool) (db : Database) (now : ℤ) : Prop :=
  ∀ before record after, fetchSubscriptionMaintenanceRecords db = before ++ record :: after →
    record.CallsSucceed fails now → record.action now ≠ .none →
      ∀ earlier ∈ before, earlier.CallsSucceed fails now

/-! ### Checks -/

/-- The values pass the checks of `telegram_subscription_sanctions`. -/
def SanctionValues.Checked (values : SanctionValues) : Prop :=
  (∀ day ∈ values.lastPreExpiryRemindedDay, 0 ≤ day ∧ day ≤ 5) ∧
    (∀ day ∈ values.lastOverdueRemindedDay, 1 ≤ day) ∧ 0 ≤ values.fineAmountIdr

def MaintenanceStatement.Checked : MaintenanceStatement → Prop
  | .upsertSanctionState values => values.Checked
  | _ => True

theorem MaintenanceStatement.Checked.execute {statement : MaintenanceStatement}
    (h : statement.Checked) (db : Database) : ∃ db', statement.execute db = some db' := by
  cases statement with
  | sendMessage chatId message => exact ⟨db, rfl⟩
  | setSubscriptionStatus subscriptionId status => exact ⟨_, rfl⟩
  | upsertSanctionState values =>
      obtain ⟨row, hrow⟩ : ∃ row, values.row = some row := ⟨_, dif_pos h⟩
      exact ⟨db.upsertSanction row, by rw [MaintenanceStatement.execute, hrow, Option.map_some]⟩

/-- The rows a pass writes pass the checks, while the overdue days fit an `i32`. -/
theorem checked_statements {now : ℤ} {record : MaintenanceRecord}
    (hday : ∀ day ∈ record.lastPreExpiryRemindedDay, 0 ≤ day ∧ day ≤ 5)
    (hrange : wibDate now - wibDate record.currentPeriodEndAt < 2 ^ 31) :
    ∀ statement ∈ record.statements now, statement.Checked := by
  have hkept : ∀ day ∈ record.keptPreExpiryDay, 0 ≤ day ∧ day ≤ 5 := by
    intro day hmem
    unfold MaintenanceRecord.keptPreExpiryDay at hmem
    split at hmem
    · exact hday day hmem
    · cases hmem
  -- The writes of the two overdue branches differ in the flag only.
  have hoverdue : ∀ {days fine : ℤ} {flag : Bool} {flagAt : Option ℤ}, 1 ≤ days →
      days < 2 ^ 31 → 0 ≤ fine → (upsertSanctionState record (some record.currentPeriodEndAt)
        record.keptPreExpiryDay (some (asI32 days)) fine flag flagAt).Checked := by
    intro days fine flag flagAt hpos hlt hfine
    refine ⟨hkept, ?_, hfine⟩
    intro day hmem
    rw [asI32_of_lt (by omega) hlt] at hmem
    rw [← Option.some.inj hmem]
    exact hpos
  have hreminded : ∀ {days : ℤ}, 0 ≤ days → days ≤ 5 →
      (upsertSanctionState record (some record.currentPeriodEndAt) (some (asI32 days)) none 0 false
        none).Checked := by
    intro days hpos hle
    refine ⟨?_, by simp, le_rfl⟩
    intro day hmem
    rw [asI32_of_lt (by omega) (by omega)] at hmem
    rw [← Option.some.inj hmem]
    exact ⟨hpos, hle⟩
  have hdaysEq := daysUntilExpiryWib_eq record.currentPeriodEndAt now
  unfold MaintenanceRecord.statements
  rcases daysUntilExpiry_cases record now with h | ⟨days, hdays, hpos, hle⟩ | hdays |
    ⟨days, hdays, hpos, hle⟩ | ⟨days, hdays, hlate⟩
  · simp [action_early h]
  · rw [action_preExpiry hdays hpos hle]
    by_cases hsent : record.PreExpirySent days
    · simp [hsent]
    · rw [if_neg hsent]
      refine List.forall_mem_cons.2 ⟨trivial, List.forall_mem_singleton.2 ?_⟩
      exact hreminded (by omega) hle
  · rw [action_expiryDay hdays]
    by_cases hsent : record.PreExpirySent 0
    · simp [hsent]
    · rw [if_neg hsent]
      refine List.forall_mem_cons.2 ⟨trivial, List.forall_mem_singleton.2 ?_⟩
      exact hreminded le_rfl (by omega)
  · rw [action_overdue hdays hpos hle]
    by_cases hsent : record.judgedOverdueDay = some days
    · simp [hsent]
    · rw [if_neg hsent]
      refine List.forall_mem_cons.2 ⟨trivial, List.forall_mem_cons.2 ⟨trivial,
        List.forall_mem_singleton.2 ?_⟩⟩
      exact hoverdue hpos (by omega) (fineAmountForOverdueDays_pos hpos).le
  · rw [action_withdrawal hdays hlate]
    cases record.withdrawalRequired with
    | true => simp
    | false =>
        refine List.forall_mem_cons.2 ⟨trivial, List.forall_mem_singleton.2 ?_⟩
        exact hoverdue (by omega) (by omega) (fineAmountForOverdueDays_pos (by omega)).le

/-! ### What is carried out -/

section Executed

variable {fails : MaintenanceStatement → Bool} {db : Database} {now : ℤ}

/-- Statements that pass their checks are carried out up to the first failure. -/
theorem foldlM_takeWhile {statements : List MaintenanceStatement}
    (h : ∀ statement ∈ statements, statement.Checked) :
    (statements.takeWhile fun statement => !fails statement).foldlM
        MaintenanceStatement.execute db =
      some (runUntilFailure fails statements db) := by
  induction statements generalizing db with
  | nil => rfl
  | cons statement statements ih =>
      obtain ⟨db', hdb'⟩ := (h statement List.mem_cons_self).execute db
      cases hfails : fails statement with
      | true =>
          rw [List.takeWhile_cons_of_neg (by simp [hfails]), runUntilFailure, if_pos hfails]
          rfl
      | false =>
          rw [List.takeWhile_cons_of_pos (by simp [hfails]), List.foldlM_cons, hdb',
            runUntilFailure, if_neg (by simp [hfails]), hdb']
          exact ih fun s hs => h s (List.mem_cons_of_mem _ hs)

/-- The statements for other records are about other subscriptions. -/
theorem subject_ne_of_mem {records : List MaintenanceRecord} {subscriptionId : ℤ}
    (hne : ∀ record ∈ records, record.subscriptionId ≠ subscriptionId)
    {statement : MaintenanceStatement} (h : statement ∈ maintenanceStatements now records) :
    statement.subject ≠ some subscriptionId := by
  obtain ⟨record, hrecord, hmem⟩ := List.mem_flatMap.1 h
  intro hsubject
  rcases subject_statements hmem with hnone | hsome
  · rw [hnone] at hsubject
    cases hsubject
  · exact hne record hrecord (Option.some.inj (hsome.symm.trans hsubject))

/-- A key of one of some rows with different keys is none of the others'. -/
theorem key_ne_of_nodup {before after : List MaintenanceRecord} {record : MaintenanceRecord}
    (hnodup : ((before ++ record :: after).map MaintenanceRecord.subscriptionId).Nodup) :
    (∀ other ∈ before, other.subscriptionId ≠ record.subscriptionId) ∧
      ∀ other ∈ after, other.subscriptionId ≠ record.subscriptionId := by
  rw [List.map_append, List.map_cons, List.nodup_append] at hnodup
  obtain ⟨-, hafter, hdisjoint⟩ := hnodup
  refine ⟨?_, ?_⟩
  · intro other hother
    exact hdisjoint _ (List.mem_map_of_mem hother) _ List.mem_cons_self
  · intro other hother hkey
    refine (List.nodup_cons.1 hafter).1 ?_
    rw [← hkey]
    exact List.mem_map_of_mem hother

section Position

variable {before after : List MaintenanceRecord} {record : MaintenanceRecord}

theorem maintenanceStatements_split : maintenanceStatements now (before ++ record :: after) =
    maintenanceStatements now before ++ (record.statements now ++
      maintenanceStatements now after) := by
  simp [maintenanceStatements]

/-- Behind calls that succeed the statements of a record are carried out. -/
theorem filter_takeWhile_of_succeed
    (hnodup : ((before ++ record :: after).map MaintenanceRecord.subscriptionId).Nodup)
    (hbefore : ∀ earlier ∈ before, earlier.CallsSucceed fails now)
    (hown : record.CallsSucceed fails now) :
    (((maintenanceStatements now (before ++ record :: after)).takeWhile fun statement =>
        !fails statement).filter fun statement => statement.subject = some record.subscriptionId) =
      (record.statements now).filter fun statement =>
        statement.subject = some record.subscriptionId := by
  obtain ⟨hfirst, hlast⟩ := key_ne_of_nodup hnodup
  have hbeforeSucceed : ∀ statement ∈ maintenanceStatements now before,
      (!fails statement) = true := by
    intro statement hmem
    obtain ⟨earlier, hearlier, hmem⟩ := List.mem_flatMap.1 hmem
    rw [hbefore earlier hearlier statement hmem]
    rfl
  have hownSucceed : ∀ statement ∈ record.statements now, (!fails statement) = true := by
    intro statement hmem
    rw [hown statement hmem]
    rfl
  rw [maintenanceStatements_split, List.takeWhile_append_of_pos hbeforeSucceed,
    List.takeWhile_append_of_pos hownSucceed, List.filter_append, List.filter_append]
  have hnone : ∀ {statements : List MaintenanceStatement} {records : List MaintenanceRecord},
      (∀ statement ∈ statements, statement ∈ maintenanceStatements now records) →
      (∀ other ∈ records, other.subscriptionId ≠ record.subscriptionId) →
      (statements.filter fun statement =>
        statement.subject = some record.subscriptionId) = [] := by
    intro statements records hsubset hne
    refine List.filter_eq_nil_iff.2 ?_
    intro statement hmem hsubject
    exact subject_ne_of_mem hne (hsubset statement hmem) (of_decide_eq_true hsubject)
  rw [hnone (fun _ hmem => hmem) hfirst, hnone (fun _ hmem => List.takeWhile_subset _ hmem) hlast,
    List.nil_append, List.append_nil]

/-- Behind a call that fails the statements of a record are not reached. -/
theorem filter_takeWhile_of_failure
    (hnodup : ((before ++ record :: after).map MaintenanceRecord.subscriptionId).Nodup)
    (hfailure : ∃ earlier ∈ before, ¬ earlier.CallsSucceed fails now) :
    (((maintenanceStatements now (before ++ record :: after)).takeWhile fun statement =>
        !fails statement).filter fun statement =>
          statement.subject = some record.subscriptionId) = [] := by
  obtain ⟨hfirst, -⟩ := key_ne_of_nodup hnodup
  obtain ⟨earlier, hearlier, hfails⟩ := hfailure
  have hlength : ((maintenanceStatements now before).takeWhile fun statement =>
      !fails statement).length ≠ (maintenanceStatements now before).length := by
    intro hlength
    refine hfails ?_
    intro statement hmem
    have hall := List.takeWhile_eq_self_iff.1
      ((List.takeWhile_prefix _).eq_of_length hlength) statement
      (List.mem_flatMap.2 ⟨earlier, hearlier, hmem⟩)
    simpa using hall
  rw [maintenanceStatements_split, List.takeWhile_append, if_neg hlength]
  refine List.filter_eq_nil_iff.2 ?_
  intro statement hmem hsubject
  exact subject_ne_of_mem hfirst (List.takeWhile_subset _ hmem) (of_decide_eq_true hsubject)

end Position

/-- The overdue days of every subscription fit an `i32`, as those between two instants of `chrono`
do. -/
def InRange (db : Database) (now : ℤ) : Prop :=
  ∀ row ∈ db.subscriptions, ∀ periodEnd ∈ row.currentPeriodEndAt,
    wibDate now - wibDate periodEnd < 2 ^ 31

theorem checked_maintenanceStatements (hrange : InRange db now) :
    ∀ statement ∈ maintenanceStatements now (fetchSubscriptionMaintenanceRecords db),
      statement.Checked := by
  intro statement hmem
  obtain ⟨record, hrecord, hmem⟩ := List.mem_flatMap.1 hmem
  obtain ⟨row, hrow, -, hread⟩ := mem_fetchSubscriptionMaintenanceRecords.1 hrecord
  obtain ⟨periodEnd, hperiodEnd, hfields⟩ := Option.map_eq_some_iff.1 hread
  have hend : record.currentPeriodEndAt = periodEnd := by rw [← hfields]
  have hday : record.lastPreExpiryRemindedDay =
      (db.sanctionOf row.id).bind Sanction.lastPreExpiryRemindedDay := by rw [← hfields]
  refine checked_statements ?_ ?_ statement hmem
  · intro day hmemDay
    rw [hday] at hmemDay
    obtain ⟨sanction, -, hread⟩ := Option.bind_eq_some_iff.1 hmemDay
    exact sanction.lastPreExpiryRemindedDay_mem day hread
  · rw [hend]
    exact hrange row hrow periodEnd hperiodEnd

section Reached

variable {before after : List MaintenanceRecord} {record : MaintenanceRecord}

variable (fails) in
/-- The statements a pass reaches. -/
theorem foldlM_reached (hrange : InRange db now) :
    ((maintenanceStatements now (fetchSubscriptionMaintenanceRecords db)).takeWhile
      fun statement => !fails statement).foldlM MaintenanceStatement.execute db =
        some (runUntilFailure fails
          (maintenanceStatements now (fetchSubscriptionMaintenanceRecords db)) db) :=
  foldlM_takeWhile (checked_maintenanceStatements hrange)

/-- A record behind calls that succeed is carried out as if nothing failed. -/
theorem account_passWith_of_succeed (hrange : InRange db now)
    (hfetch : fetchSubscriptionMaintenanceRecords db = before ++ record :: after)
    (hbefore : ∀ earlier ∈ before, earlier.CallsSucceed fails now)
    (hown : record.CallsSucceed fails now) :
    (db.account record.subscriptionId).pass now =
      some ((passWith fails db now).account record.subscriptionId) := by
  have hnodup := fetchSubscriptionMaintenanceRecords_nodup db
  have hfold := account_foldlM (foldlM_reached fails hrange) record.subscriptionId
  have hrecord : (db.account record.subscriptionId).record = some record := by
    rw [← rowAt_fetchSubscriptionMaintenanceRecords]
    exact (rowAt_eq_some_iff hnodup).2 ⟨by simp [hfetch], rfl⟩
  rw [hfetch] at hnodup
  rw [show (maintenanceStatements now (fetchSubscriptionMaintenanceRecords db)) =
    maintenanceStatements now (before ++ record :: after) by rw [hfetch],
    filter_takeWhile_of_succeed hnodup hbefore hown,
    foldlM_filter_subject fun _ => subject_statements] at hfold
  rw [Account.pass, hrecord, passWith, hfetch]
  exact hfold

/-- A record behind a call that fails is left as it was. -/
theorem account_passWith_of_failure (hrange : InRange db now)
    (hfetch : fetchSubscriptionMaintenanceRecords db = before ++ record :: after)
    (hfailure : ∃ earlier ∈ before, ¬ earlier.CallsSucceed fails now) :
    (passWith fails db now).account record.subscriptionId = db.account record.subscriptionId := by
  have hnodup := fetchSubscriptionMaintenanceRecords_nodup db
  have hfold := account_foldlM (foldlM_reached fails hrange) record.subscriptionId
  rw [hfetch] at hnodup
  rw [show (maintenanceStatements now (fetchSubscriptionMaintenanceRecords db)) =
    maintenanceStatements now (before ++ record :: after) by rw [hfetch],
    filter_takeWhile_of_failure hnodup hfailure] at hfold
  rw [passWith, hfetch]
  exact (Option.some.inj hfold).symm

end Reached

end Executed

/-! ### Isolation -/

section Isolation

variable {account account' : Account} {record : MaintenanceRecord} {now : ℤ}

/-- A reminder that changes nothing has been sent before. -/
theorem preExpirySent_of_reminded {days : ℤ} (hrecord : account.record = some record)
    (hdays : asI32 days = days)
    (h : account.Reminded record.currentPeriodEndAt days account) : record.PreExpirySent days := by
  obtain ⟨-, hstamp, hpreExpiry, -⟩ := Account.record_fields hrecord
  obtain ⟨excluded, hperiod, hday, -, -, hsame⟩ := h
  have hsanction := congrArg Account.sanction hsame
  rw [hdays] at hday
  refine ⟨?_, Or.inl ?_⟩
  · rw [hstamp, hsanction, Option.bind_some, upserted_period hperiod]
  · rw [hpreExpiry, hsanction, Option.bind_some, upserted_preExpiryDay hday]

/-- The same for an overdue reminder. -/
theorem judgedOverdueDay_of_overdue {days : ℤ} (hrecord : account.record = some record)
    (hdays : asI32 days = days)
    (h : account.Overdue record.currentPeriodEndAt days false account) :
    record.judgedOverdueDay = some days := by
  obtain ⟨-, hstamp, -, hoverdue, -, hresolved⟩ := Account.record_fields hrecord
  obtain ⟨excluded, hperiod, hday, hunresolved, -, hsame⟩ := h
  have hsanction := congrArg Account.sanction hsame
  rw [hdays] at hday
  refine judgedOverdueDay_eq_some_iff.2 ⟨?_, ?_, ?_⟩
  · rw [hresolved, hsanction, Option.bind_some, upserted_resolvedAt hunresolved]
  · rw [hstamp, hsanction, Option.bind_some, upserted_period hperiod]
  · rw [hoverdue, hsanction, Option.bind_some, upserted_overdueDay hday]

/-- The same for a withdrawal. -/
theorem withdrawalRequired_of_overdue {periodEnd days : ℤ} (hrecord : account.record = some record)
    (h : account.Overdue periodEnd days true account) : record.withdrawalRequired = true := by
  obtain ⟨-, -, -, -, hflag, -⟩ := Account.record_fields hrecord
  obtain ⟨excluded, -, -, -, hset, hsame⟩ := h
  have hsanction := congrArg Account.sanction hsame
  rw [hflag, hsanction, Option.map_some, Option.getD_some, upserted_flag, hset]

/-- A pass leaves an account alone exactly when nothing is due: what it writes about a reminder or
a withdrawal is what would have kept it from being due. -/
theorem Account.pass_eq_self_iff (hrecord : account.record = some record)
    (hpass : account.pass now = some account') :
    account' = account ↔ record.action now = .none := by
  have hmarked := Account.marked_of_pass hrecord hpass
  constructor
  · rintro rfl
    -- the days of the calendar, as the job tells them apart
    rcases daysUntilExpiry_cases record now with h | ⟨days, hdays, hpos, hle⟩ | hdays |
      ⟨days, hdays, hpos, hle⟩ | ⟨days, hdays, hlate⟩
    · exact action_early h
    · have haction := action_preExpiry hdays hpos hle
      by_cases hsent : record.PreExpirySent days
      · rw [haction, if_pos hsent]
      · rw [haction, if_neg hsent] at hmarked
        have hday : asI32 days = days := asI32_of_lt (by omega) (by omega)
        exact absurd (preExpirySent_of_reminded hrecord hday hmarked) hsent
    · have haction := action_expiryDay hdays
      by_cases hsent : record.PreExpirySent 0
      · rw [haction, if_pos hsent]
      · rw [haction, if_neg hsent] at hmarked
        exact absurd (preExpirySent_of_reminded hrecord rfl hmarked) hsent
    · have haction := action_overdue hdays hpos hle
      by_cases hsent : record.judgedOverdueDay = some days
      · rw [haction, if_pos hsent]
      · rw [haction, if_neg hsent] at hmarked
        have hday : asI32 days = days := asI32_of_lt (by omega) (by omega)
        exact absurd (judgedOverdueDay_of_overdue hrecord hday hmarked) hsent
    · have haction := action_withdrawal hdays hlate
      by_cases hwithdrawal : record.withdrawalRequired = true
      · rw [haction, if_pos hwithdrawal]
      · rw [haction, if_neg hwithdrawal] at hmarked
        exact absurd (withdrawalRequired_of_overdue hrecord hmarked) hwithdrawal
  · intro haction
    rw [haction] at hmarked
    exact hmarked

end Isolation

/-- **Failures are isolated exactly when nothing is due behind them**: for every database, every
instant and any calls that fail, every record whose own calls succeed ends as if no call had
failed, if and only if no record with a call that fails comes before one whose calls succeed and for
which something is due. -/
theorem failuresIsolated_iff (fails : MaintenanceStatement → Bool) {db : Database} {now : ℤ}
    (hrange : InRange db now) : FailuresIsolated fails db now ↔ ReachesDue fails db now := by
  have hfree : ∀ before record after,
      fetchSubscriptionMaintenanceRecords db = before ++ record :: after →
        (db.account record.subscriptionId).pass now =
          some ((passWith noFailure db now).account record.subscriptionId) :=
    fun before record after hfetch => account_passWith_of_succeed hrange hfetch
      (fun _ _ _ _ => rfl) fun _ _ => rfl
  have hread : ∀ record ∈ fetchSubscriptionMaintenanceRecords db,
      (db.account record.subscriptionId).record = some record := by
    intro record hmem
    rw [← rowAt_fetchSubscriptionMaintenanceRecords]
    exact (rowAt_eq_some_iff (fetchSubscriptionMaintenanceRecords_nodup db)).2 ⟨hmem, rfl⟩
  constructor
  · intro hisolated before record after hfetch hown hdue
    by_contra hfailure
    push Not at hfailure
    have hmem : record ∈ fetchSubscriptionMaintenanceRecords db := by simp [hfetch]
    have hsame := hisolated record hmem hown
    rw [account_passWith_of_failure hrange hfetch hfailure] at hsame
    have hpass := hfree before record after hfetch
    exact hdue ((Account.pass_eq_self_iff (hread record hmem) hpass).1 hsame.symm)
  · intro hreaches record hmem hown
    obtain ⟨before, after, hfetch⟩ := List.append_of_mem hmem
    have hpass := hfree before record after hfetch
    by_cases hdue : record.action now = .none
    · have hsame := (Account.pass_eq_self_iff (hread record hmem) hpass).2 hdue
      rw [hsame]
      by_cases hbefore : ∀ earlier ∈ before, earlier.CallsSucceed fails now
      · have hreached := account_passWith_of_succeed hrange hfetch hbefore hown
        exact (Account.pass_eq_self_iff (hread record hmem) hreached).2 hdue
      · push Not at hbefore
        exact account_passWith_of_failure hrange hfetch hbefore
    · have hreached := account_passWith_of_succeed hrange hfetch
        (hreaches before record after hfetch hown hdue) hown
      exact Option.some.inj (hreached.symm.trans hpass)

/-! ### A subscriber who has blocked the bot -/

/-- Two subscriptions, which ended three days and two days before the pass. -/
def twoOverdue : Database :=
  { overdueDatabase with
    subscriptions :=
      [{ id := 1
         telegramUserId := 12345
         chatId := 12345
         planCode := midtransBasicPlanCode
         status := .active
         currentPeriodStartAt := some (1777111200000000 - days 33)
         currentPeriodEndAt := some (1777111200000000 - days 3) },
       { id := 2
         telegramUserId := 67890
         chatId := 67890
         planCode := midtransOjolPlanCode
         status := .active
         currentPeriodStartAt := some (1777111200000000 - days 32)
         currentPeriodEndAt := some (1777111200000000 - days 2) }]
    lastSubscriptionId := 2
    subscriptions_id := by decide
    subscriptions_telegramUserId := by decide
    subscriptions_id_le := by decide }

def twoOverdueRecords : List MaintenanceRecord :=
  [⟨1, 12345, 12345, 1777111200000000 - days 3, none, none, none, false, none⟩,
    ⟨2, 67890, 67890, 1777111200000000 - days 2, none, none, none, false, none⟩]

/-- The one whose period ended first comes first. -/
theorem fetch_twoOverdue : fetchSubscriptionMaintenanceRecords twoOverdue = twoOverdueRecords := by
  have hread : ((twoOverdue.subscriptions.filter fun row => row.IsMaintained).filterMap fun row =>
      maintenanceRecord row (twoOverdue.sanctionOf row.id)) = twoOverdueRecords := by
    decide +kernel
  rw [fetchSubscriptionMaintenanceRecords, hread]
  exact List.mergeSort_of_pairwise (by decide +kernel)

theorem inRange_twoOverdue : InRange twoOverdue 1777111200000000 := by
  unfold InRange
  decide +kernel

/-- The first subscriber has blocked the bot: the second gets no reminder and no fine. -/
theorem blocked_chat_stops_pass :
    ¬ FailuresIsolated (blockedChats [12345]) twoOverdue 1777111200000000 := by
  intro hisolated
  have hsecond := hisolated ⟨2, 67890, 67890, 1777111200000000 - days 2, none, none, none, false,
    none⟩ (by rw [fetch_twoOverdue]; exact List.mem_cons_of_mem _ (List.mem_singleton_self _))
    (by decide +kernel)
  have hsanctions := congrArg (fun account => account.sanction.map Sanction.fineAmountIdr) hsecond
  revert hsanctions
  simp only [passWith, fetch_twoOverdue]
  decide +kernel

/-- The other way round the first gets them all the same: nothing is due behind the failure. -/
theorem failuresIsolated_iff_lastBlocked :
    FailuresIsolated (blockedChats [67890]) twoOverdue 1777111200000000 := by
  refine (failuresIsolated_iff _ inRange_twoOverdue).2 ?_
  intro before record after hfetch hown hdue
  rw [fetch_twoOverdue] at hfetch
  cases before with
  | nil => exact fun _ hmem => absurd hmem List.not_mem_nil
  | cons first before =>
      -- Only the second record has one before it, and its own message fails.
      have hmem : record ∈ twoOverdueRecords.tail := by
        rw [hfetch]
        exact List.mem_append_right _ List.mem_cons_self
      rw [List.mem_singleton.1 hmem] at hown
      exact absurd hown (by decide +kernel)

end Gt06
