/-
**One subscription in the daily job.**

A statement of a pass is about one subscription, and a pass has at most one record of each.  So what
a pass does to a subscription can be told from the row of the subscription and its sanction alone:
the record is read off them, and the statements of the record are run on them.

Main definitions:

* `Gt06.Account`, `Gt06.Database.account` — a subscription and its sanction;
* `Gt06.Account.record` — the record a pass reads of it;
* `Gt06.Account.pass` — a pass in which every call succeeds;
* `Gt06.runSubscriptionMaintenance` — the same pass over the whole database.

Main results:

* `Gt06.filter_fetchSubscriptionMaintenanceRecords` — a pass reads of a subscription its record;
* `Gt06.account_foldlM` — statements do to a subscription what those about it do;
* `Gt06.account_pass` — **a pass does to every subscription what it does to its account**;
* `Gt06.account_webhook` — what a webhook does to an account.
-/

import Mathlib
import Gt06Server.MaintenanceRace

set_option relaxedAutoImplicit false
set_option autoImplicit false

namespace Gt06

open Relational

/-! ### Accounts -/

/-- A subscription and its sanction. -/
structure Account where
  subscription : Option Subscription
  sanction : Option Sanction

def Database.account (db : Database) (subscriptionId : ℤ) : Account where
  subscription := rowAt Subscription.id subscriptionId db.subscriptions
  sanction := db.sanctionOf subscriptionId

/-- The record a pass reads of the subscription, if it selects it. -/
def Account.record (account : Account) : Option MaintenanceRecord :=
  account.subscription.bind fun row =>
    if row.IsMaintained then maintenanceRecord row account.sanction else none

/-- The subscription a statement writes to. -/
def MaintenanceStatement.subject : MaintenanceStatement → Option ℤ
  | .sendMessage _ _ => none
  | .setSubscriptionStatus subscriptionId _ => some subscriptionId
  | .upsertSanctionState values => some values.subscriptionId

/-- What a statement about the subscription does. -/
def Account.execute (account : Account) : MaintenanceStatement → Option Account
  | .sendMessage _ _ => some account
  | .setSubscriptionStatus _ status =>
      some { account with
        subscription := account.subscription.map fun row => { row with status := status } }
  | .upsertSanctionState values =>
      values.row.map fun excluded =>
        { account with
          sanction := some (account.sanction.elim excluded fun stored => stored.merged excluded) }

/-- A pass over the subscription in which every call succeeds. -/
def Account.pass (now : ℤ) (account : Account) : Option Account :=
  match account.record with
  | none => some account
  | some record => (record.statements now).foldlM Account.execute account

/-- `run_subscription_maintenance`, when every call succeeds. -/
def runSubscriptionMaintenance (db : Database) (now : ℤ) : Option Database :=
  (maintenanceStatements now (fetchSubscriptionMaintenanceRecords db)).foldlM
    MaintenanceStatement.execute db

/-! ### What a pass reads of a subscription -/

section Read

variable {db : Database} {subscriptionId : ℤ}

theorem rowAt_fetchSubscriptionMaintenanceRecords :
    rowAt MaintenanceRecord.subscriptionId subscriptionId (fetchSubscriptionMaintenanceRecords db) =
      (db.account subscriptionId).record := by
  refine Option.ext ?_
  intro record
  have hunique : UniqueOn MaintenanceRecord.subscriptionId
      (fetchSubscriptionMaintenanceRecords db) := fetchSubscriptionMaintenanceRecords_nodup db
  rw [rowAt_eq_some_iff hunique, mem_fetchSubscriptionMaintenanceRecords]
  constructor
  · rintro ⟨⟨row, hrow, hmaintained, hrecord⟩, hid⟩
    obtain rfl : row.id = subscriptionId :=
      (subscriptionId_maintenanceRecord hrecord).symm.trans hid
    have hread : rowAt Subscription.id row.id db.subscriptions = some row :=
      (rowAt_eq_some_iff db.subscriptions_id).2 ⟨hrow, rfl⟩
    simpa [Account.record, Database.account, hread, hmaintained] using hrecord
  · intro hrecord
    obtain ⟨row, hread, hrecord⟩ := Option.bind_eq_some_iff.1 hrecord
    obtain ⟨hrow, hid⟩ := mem_of_rowAt (show rowAt Subscription.id _ _ = some row from hread)
    subst hid
    split at hrecord
    · rename_i hmaintained
      exact ⟨⟨row, hrow, hmaintained, hrecord⟩, subscriptionId_maintenanceRecord hrecord⟩
    · cases hrecord

/-- A pass reads of a subscription its record. -/
theorem filter_fetchSubscriptionMaintenanceRecords :
    ((fetchSubscriptionMaintenanceRecords db).filter fun record =>
        record.subscriptionId = subscriptionId) =
      (db.account subscriptionId).record.toList := by
  have hunique : UniqueOn MaintenanceRecord.subscriptionId
      (fetchSubscriptionMaintenanceRecords db) := fetchSubscriptionMaintenanceRecords_nodup db
  rw [hunique.filter_eq_rowAt, rowAt_fetchSubscriptionMaintenanceRecords]

theorem subscriptionId_of_record {record : MaintenanceRecord}
    (h : (db.account subscriptionId).record = some record) :
    record.subscriptionId = subscriptionId := by
  rw [← rowAt_fetchSubscriptionMaintenanceRecords] at h
  exact key_of_rowAt h

end Read

/-! ### What a statement does to a subscription -/

section Statements

variable {db db' : Database} {subscriptionId : ℤ} {statement : MaintenanceStatement}

theorem sanctionOf_upsertSanction (db : Database) (excluded : Sanction) (subscriptionId : ℤ) :
    (db.upsertSanction excluded).sanctionOf subscriptionId =
      if subscriptionId = excluded.subscriptionId then
        some ((db.sanctionOf subscriptionId).elim excluded fun stored => stored.merged excluded)
      else db.sanctionOf subscriptionId := by
  have hmerged : ∀ stored : Sanction,
      (stored.merged excluded).subscriptionId = stored.subscriptionId := fun _ => rfl
  unfold Database.upsertSanction
  by_cases hnone : db.sanctionOf excluded.subscriptionId = none
  · rw [dif_pos hnone]
    simp only [Database.sanctionOf, rowAt_append, rowAt_cons, rowAt_nil]
    by_cases hid : subscriptionId = excluded.subscriptionId
    · subst hid
      rw [show rowAt Sanction.subscriptionId excluded.subscriptionId db.sanctions = none from hnone]
      simp
    · simp [hid, Ne.symm hid]
  · rw [dif_neg hnone]
    by_cases hid : subscriptionId = excluded.subscriptionId
    · subst hid
      obtain ⟨stored, hstored⟩ := Option.ne_none_iff_exists'.1 hnone
      rw [if_pos rfl, Database.sanctionOf, rowAt_updateAt_self hmerged, hstored]
      rw [show rowAt Sanction.subscriptionId _ _ = some stored from hstored]
      rfl
    · rw [if_neg hid, Database.sanctionOf, rowAt_updateAt_of_ne hmerged hid]
      rfl

theorem account_setSubscriptionStatus (db : Database) (id : ℤ) (status : SubscriptionStatus)
    (subscriptionId : ℤ) :
    (db.setSubscriptionStatus id status).account subscriptionId =
      if subscriptionId = id then
        { db.account subscriptionId with
          subscription := (db.account subscriptionId).subscription.map fun row =>
            { row with status := status } }
      else db.account subscriptionId := by
  have hkey : ∀ row : Subscription, { row with status := status }.id = row.id := fun _ => rfl
  by_cases hid : subscriptionId = id
  · subst hid
    rw [if_pos rfl]
    simp only [Database.account, Database.setSubscriptionStatus, rowAt_updateAt_self hkey]
    rfl
  · rw [if_neg hid]
    simp only [Database.account, Database.setSubscriptionStatus, rowAt_updateAt_of_ne hkey hid]
    rfl

theorem account_upsertSanction (db : Database) (excluded : Sanction) (subscriptionId : ℤ) :
    (db.upsertSanction excluded).account subscriptionId =
      if subscriptionId = excluded.subscriptionId then
        { db.account subscriptionId with
          sanction := some ((db.account subscriptionId).sanction.elim excluded fun stored =>
            stored.merged excluded) }
      else db.account subscriptionId := by
  unfold Database.account
  rw [subscriptions_upsertSanction, sanctionOf_upsertSanction]
  split
  · rfl
  · rfl

theorem subscriptionId_row {values : SanctionValues} {row : Sanction} (h : values.row = some row) :
    row.subscriptionId = values.subscriptionId := by
  unfold SanctionValues.row at h
  split at h
  · rw [← Option.some.inj h]
  · cases h

/-- A statement does to its subscription what it does to the account, and leaves the others. -/
theorem account_execute (h : statement.execute db = some db') (subscriptionId : ℤ) :
    if statement.subject = some subscriptionId then
      (db.account subscriptionId).execute statement = some (db'.account subscriptionId)
    else db'.account subscriptionId = db.account subscriptionId := by
  cases statement with
  | sendMessage chatId message =>
      obtain rfl : db = db' := Option.some.inj h
      exact rfl
  | setSubscriptionStatus id status =>
      obtain rfl : db.setSubscriptionStatus id status = db' := Option.some.inj h
      rw [account_setSubscriptionStatus]
      by_cases hid : subscriptionId = id
      · simp [MaintenanceStatement.subject, Account.execute, hid]
      · simp [MaintenanceStatement.subject, hid, Ne.symm hid]
  | upsertSanctionState values =>
      obtain ⟨excluded, hrow, rfl⟩ := Option.map_eq_some_iff.1 h
      rw [account_upsertSanction, subscriptionId_row hrow]
      by_cases hid : subscriptionId = values.subscriptionId
      · simp [MaintenanceStatement.subject, Account.execute, hid, hrow]
      · simp [MaintenanceStatement.subject, hid, Ne.symm hid]

/-- Statements do to a subscription what those about it do. -/
theorem account_foldlM {statements : List MaintenanceStatement}
    (h : statements.foldlM MaintenanceStatement.execute db = some db') (subscriptionId : ℤ) :
    (statements.filter fun statement => statement.subject = some subscriptionId).foldlM
      Account.execute (db.account subscriptionId) = some (db'.account subscriptionId) := by
  induction statements generalizing db with
  | nil =>
      obtain rfl : db = db' := Option.some.inj h
      rfl
  | cons statement statements ih =>
      obtain ⟨db₁, hstatement, hrest⟩ := Option.bind_eq_some_iff.1 h
      have haccount := account_execute hstatement subscriptionId
      rw [List.filter_cons]
      by_cases hsubject : statement.subject = some subscriptionId
      · rw [if_pos hsubject] at haccount
        rw [if_pos (by simpa using hsubject), List.foldlM_cons, haccount]
        exact ih hrest
      · rw [if_neg hsubject] at haccount
        rw [if_neg (by simpa using hsubject), ← haccount]
        exact ih hrest

/-- A message does nothing to an account. -/
theorem foldlM_filter_subject {statements : List MaintenanceStatement}
    (h : ∀ statement ∈ statements, statement.subject = none ∨
      statement.subject = some subscriptionId) (account : Account) :
    (statements.filter fun statement => statement.subject = some subscriptionId).foldlM
      Account.execute account = statements.foldlM Account.execute account := by
  induction statements generalizing account with
  | nil => rfl
  | cons statement statements ih =>
      have hrest := ih fun s hs => h s (List.mem_cons_of_mem _ hs)
      rw [List.filter_cons]
      rcases h statement List.mem_cons_self with hnone | hsome
      · rw [if_neg (by simp [hnone]), hrest]
        cases statement with
        | sendMessage chatId message => rfl
        | setSubscriptionStatus id status => cases hnone
        | upsertSanctionState values => cases hnone
      · rw [if_pos (by simpa using hsome), List.foldlM_cons, List.foldlM_cons]
        exact bind_congr fun account' => hrest account'

end Statements

/-! ### A pass -/

/-- The statements for a record are about its subscription. -/
theorem subject_statements {now : ℤ} {record : MaintenanceRecord}
    {statement : MaintenanceStatement} (h : statement ∈ record.statements now) :
    statement.subject = none ∨ statement.subject = some record.subscriptionId := by
  unfold MaintenanceRecord.statements at h
  split at h
  · cases h
  all_goals
    simp only [markPreExpiryReminderSent, markOverdueReminderSent, markWithdrawalRequired,
      upsertSanctionState, List.mem_cons, List.not_mem_nil, or_false] at h
  · rcases h with rfl | rfl
    · exact Or.inl rfl
    · exact Or.inr rfl
  · rcases h with rfl | rfl
    · exact Or.inl rfl
    · exact Or.inr rfl
  · rcases h with rfl | rfl | rfl
    · exact Or.inl rfl
    · exact Or.inr rfl
    · exact Or.inr rfl
  · rcases h with rfl | rfl
    · exact Or.inr rfl
    · exact Or.inr rfl

/-- The statements about a subscription are those for its record. -/
theorem filter_maintenanceStatements (now : ℤ) (records : List MaintenanceRecord)
    (subscriptionId : ℤ) :
    ((maintenanceStatements now records).filter fun statement =>
        statement.subject = some subscriptionId) =
      (maintenanceStatements now
        (records.filter fun record => record.subscriptionId = subscriptionId)).filter
          fun statement => statement.subject = some subscriptionId := by
  unfold maintenanceStatements
  induction records with
  | nil => rfl
  | cons record records ih =>
      rw [List.flatMap_cons, List.filter_append, ih, List.filter_cons]
      by_cases hid : record.subscriptionId = subscriptionId
      · rw [if_pos (by simpa using hid), List.flatMap_cons, List.filter_append]
      · have hnone : ((record.statements now).filter fun statement =>
            statement.subject = some subscriptionId) = [] := by
          refine List.filter_eq_nil_iff.2 ?_
          intro statement hstatement hsubject
          rcases subject_statements hstatement with hnone | hsome
          · simp [hnone] at hsubject
          · simp [hsome, hid] at hsubject
        rw [if_neg (by simpa using hid), hnone, List.nil_append]

/-- **A pass does to every subscription what it does to its account.** -/
theorem account_pass {db db' : Database} {now : ℤ}
    (h : runSubscriptionMaintenance db now = some db') (subscriptionId : ℤ) :
    (db.account subscriptionId).pass now = some (db'.account subscriptionId) := by
  have hfold := account_foldlM h subscriptionId
  rw [filter_maintenanceStatements, filter_fetchSubscriptionMaintenanceRecords] at hfold
  unfold Account.pass
  cases hrecord : (db.account subscriptionId).record with
  | none =>
      rw [hrecord] at hfold
      exact hfold
  | some record =>
      obtain rfl := subscriptionId_of_record hrecord
      rw [hrecord] at hfold
      simp only [Option.toList_some, maintenanceStatements, List.flatMap_cons, List.flatMap_nil,
        List.append_nil] at hfold
      rwa [foldlM_filter_subject fun _ => subject_statements] at hfold

/-! ### Webhooks -/

theorem Database.account_of_sameAbout {db db' : Database} {subscriptionId : ℤ}
    (h : SameAbout db db' subscriptionId) :
    db'.account subscriptionId = db.account subscriptionId := by
  have hsubscription : rowAt Subscription.id subscriptionId db'.subscriptions =
      rowAt Subscription.id subscriptionId db.subscriptions := by
    refine Option.ext ?_
    intro row
    rw [rowAt_eq_some_iff db'.subscriptions_id, rowAt_eq_some_iff db.subscriptions_id]
    exact and_congr_left fun hid => h.subscriptions row hid
  have hsanction : db'.sanctionOf subscriptionId = db.sanctionOf subscriptionId := by
    refine Option.ext ?_
    intro row
    rw [Database.sanctionOf, Database.sanctionOf, rowAt_eq_some_iff db'.sanctions_subscriptionId,
      rowAt_eq_some_iff db.sanctions_subscriptionId]
    exact and_congr_left fun hid => h.sanctions row hid
  rw [Database.account, hsubscription, hsanction]
  rfl

section Credited

variable {db : Database} {call : WebhookCall} {event : PaymentEvent}

theorem account_credited : (db.credited call event).account (db.creditRecord call event).id =
    ⟨some (db.creditedRow call event),
      (db.account (db.creditRecord call event).id).sanction.map fun s => s.resolved call.now⟩ := by
  have hsubscription : rowAt Subscription.id (db.creditRecord call event).id
      (db.credited call event).subscriptions = some (db.creditedRow call event) :=
    (rowAt_eq_some_iff (db.credited call event).subscriptions_id).2
      ⟨mem_subscriptions_credited.2 (Or.inl rfl), rfl⟩
  have hresolved : ∀ s : Sanction, (s.resolved call.now).subscriptionId = s.subscriptionId :=
    fun _ => rfl
  have hsanctions : (db.credited call event).sanctions =
      updateAt Sanction.subscriptionId (db.creditRecord call event).id
        (fun stored => stored.resolved call.now) db.sanctions := by
    rw [← db.sanctions_upsertSubscription event.telegramUserId event.chatId event.planCode]
    rfl
  simp only [Database.account, hsubscription, Database.sanctionOf, hsanctions,
    rowAt_updateAt_self hresolved]

/-- The subscription that is credited is the one its payer had. -/
theorem subscriptionOf_of_credited {stored : Subscription}
    (h : (db.account (db.creditRecord call event).id).subscription = some stored) :
    db.subscriptionOf event.telegramUserId = some stored := by
  obtain ⟨hmem, hid⟩ := mem_of_rowAt (show rowAt Subscription.id _ _ = some stored from h)
  cases hrow : db.subscriptionOf event.telegramUserId with
  | none =>
      -- A new subscription has a number that none had before.
      have hnew : (db.creditRecord call event).id = db.lastSubscriptionId + 1 := by
        simp only [Database.creditRecord, Database.upsertedSubscription, hrow]
      have hle := db.subscriptions_id_le stored hmem
      omega
  | some row =>
      have hold : (db.creditRecord call event).id = row.id := by
        simp only [Database.creditRecord, Database.upsertedSubscription, hrow,
          Subscription.renewed]
      have hrowMem : row ∈ db.subscriptions :=
        (mem_of_rowAt (show rowAt Subscription.telegramUserId _ _ = _ from hrow)).1
      rw [db.subscriptions_id.eq_of_key_eq hmem hrowMem (hid.trans hold)]

theorem currentPeriodEndAt_creditedRow : (db.creditedRow call event).currentPeriodEndAt =
    some (extendPeriod ((db.subscriptionOf event.telegramUserId).bind
      Subscription.currentPeriodEndAt) call.receivedAt event.periodDays) := by
  rw [Database.creditedRow, db.upsertedSubscription_currentPeriodEndAt, nextPeriod_snd]

end Credited

/-- A webhook leaves an account alone, or renews the subscription for a later period end and
resolves the sanction. -/
theorem account_webhook (db : Database) (call : WebhookCall) (subscriptionId : ℤ) :
    (applyMidtransWebhook db call).2.account subscriptionId = db.account subscriptionId ∨
      ∃ row periodEnd, (applyMidtransWebhook db call).2.account subscriptionId =
          ⟨some row, (db.account subscriptionId).sanction.map fun s => s.resolved call.now⟩ ∧
        row.status = .active ∧ row.currentPeriodEndAt = some periodEnd ∧
        ∀ stored ∈ (db.account subscriptionId).subscription,
          ∀ before ∈ stored.currentPeriodEndAt, before < periodEnd := by
  rcases (applyMidtransWebhook_step db call).ledger with
    ⟨_, _, hsubscriptions, hsanctions⟩ | ⟨event, _, _, _, _, _, _, _, hdb⟩
  · refine Or.inl (Database.account_of_sameAbout ⟨?_, ?_⟩)
    · intro row _
      rw [hsubscriptions]
    · intro row _
      rw [hsanctions]
  · rw [hdb]
    by_cases hid : subscriptionId = (db.creditRecord call event).id
    · subst hid
      refine Or.inr ⟨_, _, account_credited, db.upsertedSubscription_status ..,
        currentPeriodEndAt_creditedRow, ?_⟩
      intro stored hstored before hbefore
      rw [subscriptionOf_of_credited hstored, Option.bind_some, hbefore]
      exact lt_extendPeriod event.periodDays_pos
    · exact Or.inl (Database.account_of_sameAbout (sameAbout_credited hid))

end Gt06
