/-
**Payments during the daily job.**

A pass of `run_subscription_maintenance` reads its records once and then sends slow messages
between its statements, each a transaction of its own.  Webhooks commit in between.  The pass
writes what was due by its records, so a payment that came after they were read is overwritten by
the statements the pass still has for that subscription.

Main definitions:

* `Gt06.Pass` — the database, what is left of the pass, and the payments and overdue writes so far;
* `Gt06.Pass.step` — a webhook, the next statement of the pass, or its failure;
* `Gt06.lastAbout` — the last payment or overdue write of a subscription;
* `Gt06.Clean` — the subscription is active and carries no fine.

Main results:

* `Gt06.Pass.run_inv` — what every run keeps;
* `Gt06.maintenance_race_iff` — **payments survive exactly when they come last**;
* `Gt06.payment_overwritten` — a run that overwrites a payment.
-/

import Mathlib
import Gt06Server.MidtransLedger
import Gt06Server.SubscriptionMaintenance

set_option relaxedAutoImplicit false
set_option autoImplicit false

namespace Gt06

open Relational

/-! ### Runs of a pass -/

/-- What happened to a subscription: a payment, or a write that it is overdue. -/
inductive PassEvent where
  | payment (subscriptionId : ℤ)
  | overdueWrite (subscriptionId : ℤ)
  deriving DecidableEq, Repr

def PassEvent.subscriptionId : PassEvent → ℤ
  | .payment subscriptionId => subscriptionId
  | .overdueWrite subscriptionId => subscriptionId

/-- The overdue writes among the statements: the status, and a fine or a withdrawal. -/
def MaintenanceStatement.events : MaintenanceStatement → List PassEvent
  | .sendMessage _ _ => []
  | .setSubscriptionStatus subscriptionId status =>
      if status = .active then [] else [.overdueWrite subscriptionId]
  | .upsertSanctionState values =>
      if values.fineAmountIdr = 0 ∧ values.withdrawalRequired = false then []
      else [.overdueWrite values.subscriptionId]

/-- The payment a webhook turned an order paid with. -/
def paymentEvents : Except SqlError MidtransWebhookApplyOutcome → List PassEvent
  | .ok (.paid subscription) => [.payment subscription.id]
  | _ => []

/-- A pass under way, with what has happened since it read its records. -/
structure Pass where
  db : Database
  remaining : List MaintenanceStatement
  trace : List PassEvent

/-- A pass that has just read its records. -/
def Pass.begin (db : Database) (now : ℤ) : Pass where
  db := db
  remaining := maintenanceStatements now (fetchSubscriptionMaintenanceRecords db)
  trace := []

/-- What happens next: a webhook commits, the pass runs its next statement, or that one fails. -/
inductive PassStep where
  | webhook (call : WebhookCall)
  | statement
  | failure

def Pass.step (pass : Pass) : PassStep → Pass
  | .webhook call =>
      { pass with
        db := (applyMidtransWebhook pass.db call).2
        trace := pass.trace ++ paymentEvents (applyMidtransWebhook pass.db call).1 }
  | .statement =>
      match pass.remaining with
      | [] => pass
      | statement :: remaining =>
          match statement.execute pass.db with
          | some db =>
              { db := db, remaining := remaining, trace := pass.trace ++ statement.events }
          | none => { pass with remaining := [] }
  | .failure => { pass with remaining := [] }

/-- The pass after some steps. -/
def Pass.run (db : Database) (now : ℤ) (steps : List PassStep) : Pass :=
  steps.foldl Pass.step (Pass.begin db now)

/-- The last payment or overdue write of a subscription. -/
def lastAbout (subscriptionId : ℤ) (trace : List PassEvent) : Option PassEvent :=
  (trace.filter fun event => event.subscriptionId = subscriptionId).getLast?

section LastAbout

variable {subscriptionId : ℤ} {trace : List PassEvent} {event : PassEvent}

theorem lastAbout_concat_self (h : event.subscriptionId = subscriptionId) :
    lastAbout subscriptionId (trace ++ [event]) = some event := by
  rw [lastAbout, List.filter_append, List.filter_cons_of_pos (by simpa using h), List.filter_nil,
    List.getLast?_concat]

theorem lastAbout_concat_of_ne (h : event.subscriptionId ≠ subscriptionId) :
    lastAbout subscriptionId (trace ++ [event]) = lastAbout subscriptionId trace := by
  rw [lastAbout, List.filter_append, List.filter_cons_of_neg (by simpa using h), List.filter_nil,
    List.append_nil]
  rfl

/-- A subscription that was paid has a last event. -/
theorem lastAbout_of_mem (h : .payment subscriptionId ∈ trace) :
    lastAbout subscriptionId trace = some (.payment subscriptionId) ∨
      lastAbout subscriptionId trace = some (.overdueWrite subscriptionId) := by
  have hmem : PassEvent.payment subscriptionId ∈
      trace.filter fun event => event.subscriptionId = subscriptionId :=
    List.mem_filter.2 ⟨h, by simp [PassEvent.subscriptionId]⟩
  cases hlast : lastAbout subscriptionId trace with
  | none =>
      rw [lastAbout, List.getLast?_eq_none_iff] at hlast
      rw [hlast] at hmem
      exact absurd hmem List.not_mem_nil
  | some event =>
      have hevent := (List.mem_filter.1 (List.mem_of_getLast? hlast)).2
      cases event with
      | payment id =>
          obtain rfl : id = subscriptionId := of_decide_eq_true hevent
          exact Or.inl rfl
      | overdueWrite id =>
          obtain rfl : id = subscriptionId := of_decide_eq_true hevent
          exact Or.inr rfl

end LastAbout

/-! ### What is written about one subscription -/

/-- The subscription is active and carries no fine. -/
structure Clean (db : Database) (subscriptionId : ℤ) : Prop where
  status : ∀ row ∈ db.subscriptions, row.id = subscriptionId → row.status = .active
  sanction : ∀ row ∈ db.sanctions, row.subscriptionId = subscriptionId →
    row.fineAmountIdr = 0 ∧ row.withdrawalRequired = false

/-- The databases agree on the rows of the subscription. -/
structure SameAbout (db db' : Database) (subscriptionId : ℤ) : Prop where
  subscriptions : ∀ row : Subscription, row.id = subscriptionId →
    (row ∈ db'.subscriptions ↔ row ∈ db.subscriptions)
  sanctions : ∀ row : Sanction, row.subscriptionId = subscriptionId →
    (row ∈ db'.sanctions ↔ row ∈ db.sanctions)

theorem Clean.of_sameAbout {db db' : Database} {subscriptionId : ℤ} (h : Clean db subscriptionId)
    (hsame : SameAbout db db' subscriptionId) : Clean db' subscriptionId := by
  refine ⟨?_, ?_⟩
  · intro row hrow hid
    exact h.status row ((hsame.subscriptions row hid).1 hrow) hid
  · intro row hrow hid
    exact h.sanction row ((hsame.sanctions row hid).1 hrow) hid

section Credited

variable {db : Database} {call : WebhookCall} {event : PaymentEvent}

/-- The row a credit leaves. -/
def Database.creditedRow (db : Database) (call : WebhookCall) (event : PaymentEvent) :
    Subscription :=
  let period := nextPeriod (db.subscriptionOf event.telegramUserId) call.receivedAt event.periodDays
  db.upsertedSubscription event.telegramUserId event.chatId event.planCode period.1 period.2

theorem mem_subscriptions_credited {row : Subscription} :
    row ∈ (db.credited call event).subscriptions ↔
      row = db.creditedRow call event ∨
        (row ∈ db.subscriptions ∧ row.telegramUserId ≠ event.telegramUserId) :=
  db.mem_upsertSubscription ..

theorem mem_sanctions_credited {row : Sanction} :
    row ∈ (db.credited call event).sanctions ↔
      ∃ stored ∈ db.sanctions, (if stored.subscriptionId = (db.creditRecord call event).id then
        stored.resolved call.now else stored) = row := by
  have hsanctions : (db.credited call event).sanctions =
      updateAt Sanction.subscriptionId (db.creditRecord call event).id
        (fun stored => stored.resolved call.now) db.sanctions := by
    rw [← db.sanctions_upsertSubscription event.telegramUserId event.chatId event.planCode]
    rfl
  rw [hsanctions, mem_updateAt]

/-- A credit leaves its subscription active and without a fine. -/
theorem clean_credited : Clean (db.credited call event) (db.creditRecord call event).id := by
  have hrow : db.creditedRow call event ∈ (db.credited call event).subscriptions :=
    mem_subscriptions_credited.2 (Or.inl rfl)
  refine ⟨?_, ?_⟩
  · intro row hmem hid
    rw [(db.credited call event).subscriptions_id.eq_of_key_eq hmem hrow hid]
    exact db.upsertedSubscription_status ..
  · intro row hmem hid
    obtain ⟨stored, _, rfl⟩ := mem_sanctions_credited.1 hmem
    by_cases hkey : stored.subscriptionId = (db.creditRecord call event).id
    · rw [if_pos hkey]
      exact ⟨rfl, rfl⟩
    · rw [if_neg hkey] at hid
      exact absurd hid hkey

/-- A credit leaves the rows of the other subscriptions alone. -/
theorem sameAbout_credited {subscriptionId : ℤ}
    (hne : subscriptionId ≠ (db.creditRecord call event).id) :
    SameAbout db (db.credited call event) subscriptionId := by
  refine ⟨?_, ?_⟩
  · intro row hid
    rw [mem_subscriptions_credited]
    constructor
    · rintro (rfl | ⟨hrow, _⟩)
      · exact absurd hid.symm hne
      · exact hrow
    · intro hrow
      refine Or.inr ⟨hrow, ?_⟩
      -- The row of the payer is the one that is credited.
      intro huser
      have hread := db.mem_subscriptions_iff.1 hrow
      rw [huser] at hread
      have hcredited : (db.creditRecord call event).id = row.id := by
        simp only [Database.creditRecord, Database.upsertedSubscription, hread,
          Subscription.renewed]
      exact hne (hid.symm.trans hcredited.symm)
  · intro row hid
    rw [mem_sanctions_credited]
    constructor
    · rintro ⟨stored, hstored, rfl⟩
      by_cases hkey : stored.subscriptionId = (db.creditRecord call event).id
      · rw [if_pos hkey] at hid
        exact absurd (hid.symm.trans hkey) hne
      · rw [if_neg hkey]
        exact hstored
    · intro hrow
      exact ⟨row, hrow, if_neg fun hkey => hne (hid.symm.trans hkey)⟩

end Credited

section Statements

variable {db : Database} {subscriptionId : ℤ}

theorem mem_setSubscriptionStatus {status : SubscriptionStatus} {row : Subscription} :
    row ∈ (db.setSubscriptionStatus subscriptionId status).subscriptions ↔
      ∃ stored ∈ db.subscriptions,
        (if stored.id = subscriptionId then { stored with status := status } else stored) = row :=
  mem_updateAt

theorem sameAbout_setSubscriptionStatus {status : SubscriptionStatus} {id : ℤ}
    (hne : id ≠ subscriptionId) :
    SameAbout db (db.setSubscriptionStatus subscriptionId status) id := by
  refine ⟨?_, fun _ _ => Iff.rfl⟩
  intro row hid
  rw [mem_setSubscriptionStatus]
  constructor
  · rintro ⟨stored, hstored, rfl⟩
    by_cases hkey : stored.id = subscriptionId
    · rw [if_pos hkey] at hid
      exact absurd (hid.symm.trans hkey) hne
    · rw [if_neg hkey]
      exact hstored
  · intro hrow
    exact ⟨row, hrow, if_neg fun hkey => hne (hid.symm.trans hkey)⟩

/-- The row of a sanction after an upsert of it. -/
theorem exists_mem_upsertSanction (db : Database) (excluded : Sanction) :
    ∃ row ∈ (db.upsertSanction excluded).sanctions,
      row.subscriptionId = excluded.subscriptionId ∧
        row.fineAmountIdr = excluded.fineAmountIdr ∧
        row.withdrawalRequired = excluded.withdrawalRequired := by
  unfold Database.upsertSanction
  split
  · exact ⟨excluded, List.mem_append_right _ (List.mem_singleton_self _), rfl, rfl, rfl⟩
  · next hsome =>
      obtain ⟨stored, hstored⟩ := Option.ne_none_iff_exists'.1 hsome
      obtain ⟨hmem, hkey⟩ := mem_of_rowAt
        (show rowAt Sanction.subscriptionId _ _ = some stored from hstored)
      exact ⟨stored.merged excluded, mem_updateAt.2 ⟨stored, hmem, if_pos hkey⟩, hkey, rfl, rfl⟩

theorem sameAbout_upsertSanction {excluded : Sanction} {id : ℤ}
    (hne : id ≠ excluded.subscriptionId) : SameAbout db (db.upsertSanction excluded) id := by
  unfold Database.upsertSanction
  split
  · refine ⟨fun _ _ => Iff.rfl, ?_⟩
    intro row hid
    refine List.mem_append.trans (or_iff_left ?_)
    intro hrow
    rw [List.mem_singleton.1 hrow] at hid
    exact hne hid.symm
  · refine ⟨fun _ _ => Iff.rfl, ?_⟩
    intro row hid
    refine mem_updateAt.trans ?_
    constructor
    · rintro ⟨stored, hstored, rfl⟩
      by_cases hkey : stored.subscriptionId = excluded.subscriptionId
      · rw [if_pos hkey] at hid
        exact absurd (hid.symm.trans hkey) hne
      · rw [if_neg hkey]
        exact hstored
    · intro hrow
      exact ⟨row, hrow, if_neg fun hkey => hne (hid.symm.trans hkey)⟩

theorem subscriptions_upsertSanction (db : Database) (excluded : Sanction) :
    (db.upsertSanction excluded).subscriptions = db.subscriptions := by
  unfold Database.upsertSanction
  split
  · rfl
  · rfl

end Statements

/-! ### What a run keeps -/

/-- The subscriptions whose sanction a list of statements writes. -/
def sanctionKeys (statements : List MaintenanceStatement) : List ℤ :=
  statements.filterMap MaintenanceStatement.sanctionKey

/-- An overdue write of the subscription stands, and the pass will not write its sanction again. -/
def Stale (pass : Pass) (subscriptionId : ℤ) : Prop :=
  (∃ row ∈ pass.db.subscriptions, row.id = subscriptionId ∧ row.status ≠ .active) ∨
    ((∃ row ∈ pass.db.sanctions, row.subscriptionId = subscriptionId ∧
        ¬ (row.fineAmountIdr = 0 ∧ row.withdrawalRequired = false)) ∧
      subscriptionId ∉ sanctionKeys pass.remaining)

/-- What every run keeps. -/
structure PassInv (pass : Pass) : Prop where
  keys : (sanctionKeys pass.remaining).Nodup
  pastDue : ∀ subscriptionId status,
    .setSubscriptionStatus subscriptionId status ∈ pass.remaining → status = .pastDue
  known : ∀ subscriptionId, .payment subscriptionId ∈ pass.trace →
    ∃ row ∈ pass.db.subscriptions, row.id = subscriptionId
  clean : ∀ subscriptionId, lastAbout subscriptionId pass.trace = some (.payment subscriptionId) →
    Clean pass.db subscriptionId
  stale : ∀ subscriptionId, .payment subscriptionId ∈ pass.trace →
    lastAbout subscriptionId pass.trace = some (.overdueWrite subscriptionId) →
    Stale pass subscriptionId

/-- The statements of a pass set no other status than past due. -/
theorem status_of_mem_maintenanceStatements {now : ℤ} {records : List MaintenanceRecord}
    {subscriptionId : ℤ} {status : SubscriptionStatus}
    (h : .setSubscriptionStatus subscriptionId status ∈ maintenanceStatements now records) :
    status = .pastDue := by
  obtain ⟨record, _, hstatement⟩ := List.mem_flatMap.1 h
  unfold MaintenanceRecord.statements at hstatement
  cases haction : record.action now with
  | none => simp [haction] at hstatement
  | preExpiryReminder daysUntilExpiry =>
      simp [haction, markPreExpiryReminderSent, upsertSanctionState] at hstatement
  | expiryDayReminder =>
      simp [haction, markPreExpiryReminderSent, upsertSanctionState] at hstatement
  | overdueReminder overdueDays fineAmountIdr =>
      simp [haction, markOverdueReminderSent, upsertSanctionState] at hstatement
      exact hstatement.2
  | markWithdrawalRequired overdueDays fineAmountIdr =>
      simp [haction, markWithdrawalRequired, upsertSanctionState] at hstatement
      exact hstatement.2

theorem passInv_begin (db : Database) (now : ℤ) : PassInv (Pass.begin db now) where
  keys := sanctionKeys_maintenanceStatements_nodup now
    (fetchSubscriptionMaintenanceRecords_nodup db)
  pastDue := fun _ _ h => status_of_mem_maintenanceStatements h
  known := by simp [Pass.begin]
  clean := by simp [Pass.begin, lastAbout]
  stale := by simp [Pass.begin]

theorem Stale.of_sameAbout {pass : Pass} {db' : Database} {trace : List PassEvent}
    {subscriptionId : ℤ} (h : Stale pass subscriptionId)
    (hsame : SameAbout pass.db db' subscriptionId) :
    Stale { pass with db := db', trace := trace } subscriptionId := by
  rcases h with ⟨row, hrow, hid, hstatus⟩ | ⟨⟨row, hrow, hid, hfine⟩, hkeys⟩
  · exact Or.inl ⟨row, (hsame.subscriptions row hid).2 hrow, hid, hstatus⟩
  · exact Or.inr ⟨⟨row, (hsame.sanctions row hid).2 hrow, hid, hfine⟩, hkeys⟩

/-- Statements that are dropped change nothing. -/
theorem PassInv.drop {pass : Pass} (h : PassInv pass) {remaining : List MaintenanceStatement}
    (hsuffix : remaining <:+ pass.remaining) : PassInv { pass with remaining := remaining } := by
  have hkeys : (sanctionKeys remaining).Sublist (sanctionKeys pass.remaining) :=
    hsuffix.sublist.filterMap _
  refine ⟨h.keys.sublist hkeys, ?_, h.known, h.clean, ?_⟩
  · intro subscriptionId status hmem
    exact h.pastDue subscriptionId status (hsuffix.subset hmem)
  · intro subscriptionId hpaid hlast
    rcases h.stale subscriptionId hpaid hlast with hstatus | ⟨hfine, hnone⟩
    · exact Or.inl hstatus
    · exact Or.inr ⟨hfine, fun hmem => hnone (hkeys.subset hmem)⟩

/-- A step that is about one subscription, of which it leaves a payment or an overdue write. -/
theorem PassInv.about {pass : Pass} (h : PassInv pass) (db' : Database) (event : PassEvent)
    (hsame : ∀ id, id ≠ event.subscriptionId → SameAbout pass.db db' id)
    (hknown : (event = .payment event.subscriptionId ∨
        ∃ row ∈ pass.db.subscriptions, row.id = event.subscriptionId) →
      ∃ row ∈ db'.subscriptions, row.id = event.subscriptionId)
    (hclean : event = .payment event.subscriptionId → Clean db' event.subscriptionId)
    (hstale : event = .overdueWrite event.subscriptionId →
      (∃ row ∈ pass.db.subscriptions, row.id = event.subscriptionId) →
        Stale { pass with db := db', trace := pass.trace ++ [event] } event.subscriptionId) :
    PassInv { pass with db := db', trace := pass.trace ++ [event] } := by
  -- an event about another subscription is no payment of this one
  have hbefore : ∀ id, id ≠ event.subscriptionId → .payment id ∈ pass.trace ++ [event] →
      .payment id ∈ pass.trace := by
    intro id hid hpaid
    rcases List.mem_append.1 hpaid with hpaid | hpaid
    · exact hpaid
    · rw [← List.mem_singleton.1 hpaid] at hid
      exact absurd rfl hid
  refine ⟨h.keys, h.pastDue, ?_, ?_, ?_⟩
  · intro id hpaid
    by_cases hid : id = event.subscriptionId
    · subst hid
      refine hknown ?_
      rcases List.mem_append.1 hpaid with hpaid | hpaid
      · exact Or.inr (h.known _ hpaid)
      · exact Or.inl (List.mem_singleton.1 hpaid).symm
    · obtain ⟨row, hrow, hrowId⟩ := h.known id (hbefore id hid hpaid)
      exact ⟨row, ((hsame id hid).subscriptions row hrowId).2 hrow, hrowId⟩
  · intro id hlast
    by_cases hid : id = event.subscriptionId
    · subst hid
      rw [lastAbout_concat_self rfl, Option.some_inj] at hlast
      exact hclean hlast
    · rw [lastAbout_concat_of_ne (Ne.symm hid)] at hlast
      exact (h.clean id hlast).of_sameAbout (hsame id hid)
  · intro id hpaid hlast
    by_cases hid : id = event.subscriptionId
    · subst hid
      rw [lastAbout_concat_self rfl, Option.some_inj] at hlast
      refine hstale hlast ?_
      rcases List.mem_append.1 hpaid with hpaid | hpaid
      · exact h.known _ hpaid
      · exact absurd ((List.mem_singleton.1 hpaid).trans hlast) (by simp)
    · rw [lastAbout_concat_of_ne (Ne.symm hid)] at hlast
      exact (h.stale id (hbefore id hid hpaid) hlast).of_sameAbout (hsame id hid)

theorem PassInv.webhook {pass : Pass} (h : PassInv pass) (call : WebhookCall) :
    PassInv (pass.step (.webhook call)) := by
  rcases (applyMidtransWebhook_step pass.db call).ledger with
    ⟨hresult, _, hsubscriptions, hsanctions⟩ | ⟨event, _, _, _, _, _, _, hresult, hdb⟩
  · have hevents : paymentEvents (applyMidtransWebhook pass.db call).1 = [] := by
      cases houtcome : (applyMidtransWebhook pass.db call).1 with
      | error error => rfl
      | ok outcome =>
          cases outcome with
          | paid record => exact absurd houtcome (hresult record)
          | ignored => rfl
          | unknownOrder => rfl
    have hsame : ∀ id, SameAbout pass.db (applyMidtransWebhook pass.db call).2 id := by
      intro id
      exact ⟨fun row _ => by rw [hsubscriptions], fun row _ => by rw [hsanctions]⟩
    rw [Pass.step, hevents, List.append_nil]
    refine ⟨h.keys, h.pastDue, ?_, ?_, ?_⟩
    · intro id hpaid
      obtain ⟨row, hrow, hid⟩ := h.known id hpaid
      exact ⟨row, ((hsame id).subscriptions row hid).2 hrow, hid⟩
    · intro id hlast
      exact (h.clean id hlast).of_sameAbout (hsame id)
    · intro id hpaid hlast
      exact (h.stale id hpaid hlast).of_sameAbout (hsame id)
  · rw [Pass.step, hresult, hdb]
    refine h.about _ (.payment (pass.db.creditRecord call event).id) ?_ ?_ ?_ ?_
    · intro id hne
      exact sameAbout_credited hne
    · intro _
      exact ⟨_, mem_subscriptions_credited.2 (Or.inl rfl), rfl⟩
    · intro _
      exact clean_credited
    · intro hevent
      exact absurd hevent (by simp)

theorem PassInv.setSubscriptionStatus {pass : Pass} (h : PassInv pass) {subscriptionId : ℤ}
    {status : SubscriptionStatus} (hstatus : status ≠ .active) :
    PassInv { pass with
      db := pass.db.setSubscriptionStatus subscriptionId status
      trace := pass.trace ++ [.overdueWrite subscriptionId] } := by
  have hrow : ∀ row ∈ pass.db.subscriptions, row.id = subscriptionId →
      { row with status := status } ∈
        (pass.db.setSubscriptionStatus subscriptionId status).subscriptions :=
    fun row hrow hid => mem_setSubscriptionStatus.2 ⟨row, hrow, if_pos hid⟩
  refine h.about _ (.overdueWrite subscriptionId) ?_ ?_ ?_ ?_
  · intro id hne
    exact sameAbout_setSubscriptionStatus hne
  · rintro (hevent | ⟨row, hmem, hid⟩)
    · exact absurd hevent (by simp)
    · exact ⟨_, hrow row hmem hid, hid⟩
  · intro hevent
    exact absurd hevent (by simp)
  · rintro _ ⟨row, hmem, hid⟩
    exact Or.inl ⟨_, hrow row hmem hid, hid, hstatus⟩

/-- What the row of an insert has of its values. -/
theorem SanctionValues.of_row {values : SanctionValues} {excluded : Sanction}
    (h : values.row = some excluded) :
    excluded.subscriptionId = values.subscriptionId ∧
      excluded.fineAmountIdr = values.fineAmountIdr ∧
      excluded.withdrawalRequired = values.withdrawalRequired := by
  unfold SanctionValues.row at h
  split at h
  · obtain rfl := Option.some_inj.1 h
    exact ⟨rfl, rfl, rfl⟩
  · exact absurd h (by simp)

theorem PassInv.upsertSanction {pass : Pass} {values : SanctionValues}
    {remaining : List MaintenanceStatement} {excluded : Sanction} (h : PassInv pass)
    (hremaining : pass.remaining = .upsertSanctionState values :: remaining)
    (hrow : values.row = some excluded) :
    PassInv
      { db := pass.db.upsertSanction excluded
        remaining := remaining
        trace := pass.trace ++ (MaintenanceStatement.upsertSanctionState values).events } := by
  obtain ⟨hkey, hfine, hwithdrawal⟩ := SanctionValues.of_row hrow
  have hkeys : sanctionKeys pass.remaining = values.subscriptionId :: sanctionKeys remaining := by
    rw [hremaining]
    rfl
  have hfresh : values.subscriptionId ∉ sanctionKeys remaining := by
    have hnodup := h.keys
    rw [hkeys] at hnodup
    exact (List.nodup_cons.1 hnodup).1
  have htail : PassInv { pass with remaining := remaining } :=
    h.drop (hremaining ▸ List.suffix_cons ..)
  have hsame : ∀ id, id ≠ values.subscriptionId →
      SameAbout pass.db (pass.db.upsertSanction excluded) id := by
    intro id hne
    rw [← hkey] at hne
    exact sameAbout_upsertSanction hne
  have hsubscriptions := subscriptions_upsertSanction pass.db excluded
  obtain ⟨written, hwritten, hwrittenKey, hwrittenFine, hwrittenWithdrawal⟩ :=
    exists_mem_upsertSanction pass.db excluded
  by_cases hzero : values.fineAmountIdr = 0 ∧ values.withdrawalRequired = false
  · -- No fine: nothing new happened to the subscription, and its sanction is now clean.
    simp only [MaintenanceStatement.events, if_pos hzero, List.append_nil]
    refine ⟨htail.keys, htail.pastDue, ?_, ?_, ?_⟩
    · intro id hpaid
      rw [hsubscriptions]
      exact h.known id hpaid
    · intro id hlast
      by_cases hid : id = values.subscriptionId
      · refine ⟨?_, ?_⟩
        · rw [hsubscriptions]
          exact (h.clean id hlast).status
        · intro row hmem hrowId
          rw [(pass.db.upsertSanction excluded).sanctions_subscriptionId.eq_of_key_eq hmem
            hwritten (hrowId.trans (hid.trans (hkey.symm.trans hwrittenKey.symm))),
            hwrittenFine, hwrittenWithdrawal, hfine, hwithdrawal]
          exact hzero
      · exact (h.clean id hlast).of_sameAbout (hsame id hid)
    · intro id hpaid hlast
      by_cases hid : id = values.subscriptionId
      · rcases h.stale id hpaid hlast with hstatus | ⟨_, hnone⟩
        · rw [← hsubscriptions] at hstatus
          exact Or.inl hstatus
        · rw [hkeys, hid] at hnone
          exact absurd (List.mem_cons_self ..) hnone
      · exact (htail.stale id hpaid hlast).of_sameAbout (hsame id hid)
  · simp only [MaintenanceStatement.events, if_neg hzero]
    refine htail.about _ (.overdueWrite values.subscriptionId) hsame ?_ ?_ ?_
    · rintro (hevent | hknown)
      · exact absurd hevent (by simp)
      · rw [hsubscriptions]
        exact hknown
    · intro hevent
      exact absurd hevent (by simp)
    · intro _ _
      refine Or.inr ⟨⟨written, hwritten, hwrittenKey.trans hkey, ?_⟩, hfresh⟩
      rw [hwrittenFine, hwrittenWithdrawal, hfine, hwithdrawal]
      exact hzero

theorem PassInv.statement {pass : Pass} (h : PassInv pass) : PassInv (pass.step .statement) := by
  unfold Pass.step
  cases hremaining : pass.remaining with
  | nil => exact h
  | cons statement remaining =>
      have htail : PassInv { pass with remaining := remaining } :=
        h.drop (hremaining ▸ List.suffix_cons ..)
      cases statement with
      | sendMessage chatId message =>
          simp only [MaintenanceStatement.execute, MaintenanceStatement.events, List.append_nil]
          exact htail
      | setSubscriptionStatus subscriptionId status =>
          have hstatus : status ≠ .active := by
            rw [h.pastDue subscriptionId status (hremaining ▸ List.mem_cons_self ..)]
            simp
          simp only [MaintenanceStatement.execute, MaintenanceStatement.events, if_neg hstatus]
          exact htail.setSubscriptionStatus hstatus
      | upsertSanctionState values =>
          cases hrow : values.row with
          | none =>
              simp only [MaintenanceStatement.execute, hrow, Option.map_none]
              exact h.drop (List.nil_suffix)
          | some excluded =>
              simp only [MaintenanceStatement.execute, hrow, Option.map_some]
              exact h.upsertSanction hremaining hrow

/-- Every step keeps the invariant. -/
theorem PassInv.step {pass : Pass} (h : PassInv pass) (step : PassStep) :
    PassInv (pass.step step) := by
  cases step with
  | webhook call => exact h.webhook call
  | statement => exact h.statement
  | failure => exact h.drop List.nil_suffix

/-- What every run keeps. -/
theorem Pass.run_inv (db : Database) (now : ℤ) (steps : List PassStep) :
    PassInv (Pass.run db now steps) :=
  List.foldlRecOn steps Pass.step (passInv_begin db now) fun _ h step _ => h.step step

/-- **Payments survive exactly when they come last**: after every run, each subscription that was
paid since the pass read its records is active and without a fine, if and only if the last payment
or overdue write of each such subscription is a payment. -/
theorem maintenance_race_iff (db : Database) (now : ℤ) (steps : List PassStep) :
    (∀ row ∈ (Pass.run db now steps).db.subscriptions,
        .payment row.id ∈ (Pass.run db now steps).trace →
          row.status = .active ∧ ∀ sanction ∈ (Pass.run db now steps).db.sanctions,
            sanction.subscriptionId = row.id →
              sanction.fineAmountIdr = 0 ∧ sanction.withdrawalRequired = false) ↔
      ∀ subscriptionId, .payment subscriptionId ∈ (Pass.run db now steps).trace →
        lastAbout subscriptionId (Pass.run db now steps).trace =
          some (.payment subscriptionId) := by
  have hinv := Pass.run_inv db now steps
  generalize Pass.run db now steps = pass at hinv
  constructor
  · intro h subscriptionId hpaid
    rcases lastAbout_of_mem hpaid with hlast | hlast
    · exact hlast
    · obtain ⟨row, hrow, rfl⟩ := hinv.known subscriptionId hpaid
      obtain ⟨hactive, hfine⟩ := h row hrow hpaid
      rcases hinv.stale row.id hpaid hlast with ⟨row', hrow', hid, hstatus⟩ |
        ⟨⟨sanction, hsanction, hkey, hnonzero⟩, _⟩
      · rw [pass.db.subscriptions_id.eq_of_key_eq hrow' hrow hid] at hstatus
        exact absurd hactive hstatus
      · exact absurd (hfine sanction hsanction hkey) hnonzero
  · intro h row hrow hpaid
    have hclean := hinv.clean row.id (h row.id hpaid)
    exact ⟨hclean.status row hrow rfl, hclean.sanction⟩

/-! ### A payment between the message and the write -/

/-- A subscription that ended two days before the pass, with an order waiting to be paid. -/
def overdueDatabase : Database :=
  { pendingDatabase with
    subscriptions :=
      [{ id := 1
         telegramUserId := 12345
         chatId := 12345
         planCode := midtransBasicPlanCode
         status := .active
         currentPeriodStartAt := some (1777111200000000 - days 32)
         currentPeriodEndAt := some (1777111200000000 - days 2) }]
    lastSubscriptionId := 1
    subscriptions_id := List.nodup_singleton _
    subscriptions_telegramUserId := List.nodup_singleton _
    subscriptions_id_le := by simp }

/-- The pass sends its message, the payment arrives, and the pass goes on to the end. -/
def paidAfterMessage : List PassStep :=
  [.statement, .webhook settledCall, .statement, .statement]

/-- The pass ends with the paid subscription past due and fined. -/
theorem payment_overwritten :
    (Pass.run overdueDatabase 1777111200000000 paidAfterMessage).remaining = [] ∧
      ¬ ∀ row ∈ (Pass.run overdueDatabase 1777111200000000 paidAfterMessage).db.subscriptions,
        .payment row.id ∈ (Pass.run overdueDatabase 1777111200000000 paidAfterMessage).trace →
          row.status = .active ∧
            ∀ sanction ∈
              (Pass.run overdueDatabase 1777111200000000 paidAfterMessage).db.sanctions,
              sanction.subscriptionId = row.id →
                sanction.fineAmountIdr = 0 ∧ sanction.withdrawalRequired = false := by
  decide +kernel

end Gt06
