/-
**One subscription per user, for databases that have several.**

Up to migration 0014 a user may have one subscription for each plan.  Migration 0015 keeps the
subscription that is paid the longest, sends the payment events of the others to it, deletes the
others and makes the user the unique key.  Two more tables name subscriptions: the sanctions,
whose rows go with their subscription, and the payments of the time of Telegram Stars, a table
that migration 0010 renamed and that kept its foreign key.

Columns that neither the migration nor a key of the schema reads are left out: the URLs and JSON
of the payments and the reminder columns of a sanction.  The unique constraint the migration adds
is not there before it, since no earlier migration adds it.

Main definitions:

* `Gt06.SubscriptionTables`, `Gt06.Database0014` — the tables, and the tables with the keys of the
  schema after migration 0014;
* `Gt06.SubscriptionTables.singleSubscriptionPerUser` — **the migration**, with the foreign key
  checks of the server;
* `Gt06.Deduplicated` — what it is for;
* `Gt06.SubscriptionTables.LegacyNamesFirst` — no legacy payment names a subscription that goes.

Main results:

* `Gt06.Database0014.rewritePaymentEvents_eq` — sending the payment events never fails;
* `Gt06.Database0014.deduplicated_iff` — **the migration does its work exactly when no legacy
  payment names a subscription that goes.**
-/

import Mathlib
import Gt06Server.Billing
import Gt06Server.ForeignKeys

set_option relaxedAutoImplicit false
set_option autoImplicit false

namespace Gt06

open Relational

/-! ### The tables after migration 0014 -/

/-- A row of `telegram_subscriptions`, with the column that breaks ties of its period. -/
structure SubscriptionRow extends Subscription where
  updatedAt : ℤ
  deriving DecidableEq, Repr

/-- A row of `telegram_payment_events_legacy_stars`. -/
structure LegacyPayment where
  id : ℤ
  telegramUserId : ℤ
  chatId : ℤ
  subscriptionId : Option ℤ
  planCode : String
  starsAmount : ℤ
  periodDays : ℤ
  invoicePayload : Option String
  telegramPaymentChargeId : Option String
  starsAmount_pos : 0 < starsAmount
  periodDays_pos : 0 < periodDays
  deriving Repr

/-- A row of `telegram_subscription_sanctions` as far as keys go. -/
structure SanctionRow where
  id : ℤ
  subscriptionId : ℤ
  telegramUserId : ℤ
  deriving DecidableEq, Repr

/-- The tables that hold subscriptions and the tables that name them. -/
structure SubscriptionTables where
  telegramUserIds : List ℤ
  subscriptions : List SubscriptionRow
  paymentEvents : List PaymentEvent
  legacyPayments : List LegacyPayment
  sanctions : List SanctionRow
  deriving Repr

/-- `current_period_end_at DESC NULLS LAST, updated_at DESC, id DESC`, read in descending order. -/
def SubscriptionRow.sortKey (s : SubscriptionRow) : WithBot ℤ ×ₗ ℤ ×ₗ ℤ :=
  toLex (s.currentPeriodEndAt, toLex (s.updatedAt, s.id))

/-- The subscription of its owner that the migration keeps. -/
abbrev SubscriptionTables.First (t : SubscriptionTables) (s : SubscriptionRow) : Prop :=
  FirstIn (fun s => s.telegramUserId) SubscriptionRow.sortKey t.subscriptions s

/-- The keys after migration 0014, with those of the renamed table. -/
structure SubscriptionTables.Schema0014 (t : SubscriptionTables) : Prop where
  telegramUserIds : t.telegramUserIds.Nodup
  subscriptions_id : UniqueOn (fun s => s.id) t.subscriptions
  subscriptions_plan : UniqueOn (fun s => (s.telegramUserId, s.planCode)) t.subscriptions
  subscriptions_user : RefersTo (fun s => some s.telegramUserId) t.subscriptions t.telegramUserIds
  paymentEvents_id : UniqueOn PaymentEvent.id t.paymentEvents
  paymentEvents_order : UniqueOn PaymentEvent.providerOrderId t.paymentEvents
  paymentEvents_transaction : (t.paymentEvents.filterMap PaymentEvent.providerTransactionId).Nodup
  paymentEvents_user :
    RefersTo (fun e => some e.telegramUserId) t.paymentEvents t.telegramUserIds
  paymentEvents_subscription :
    RefersTo PaymentEvent.subscriptionId t.paymentEvents (t.subscriptions.map fun s => s.id)
  legacyPayments_id : UniqueOn LegacyPayment.id t.legacyPayments
  legacyPayments_invoice : (t.legacyPayments.filterMap LegacyPayment.invoicePayload).Nodup
  legacyPayments_charge :
    (t.legacyPayments.filterMap LegacyPayment.telegramPaymentChargeId).Nodup
  legacyPayments_user :
    RefersTo (fun p => some p.telegramUserId) t.legacyPayments t.telegramUserIds
  legacyPayments_subscription :
    RefersTo LegacyPayment.subscriptionId t.legacyPayments (t.subscriptions.map fun s => s.id)
  sanctions_id : UniqueOn SanctionRow.id t.sanctions
  sanctions_subscriptionId : UniqueOn SanctionRow.subscriptionId t.sanctions
  sanctions_subscription :
    RefersTo (fun s => some s.subscriptionId) t.sanctions (t.subscriptions.map fun s => s.id)
  sanctions_user : RefersTo (fun s => some s.telegramUserId) t.sanctions t.telegramUserIds

/-- A database that the schema after migration 0014 allows. -/
structure Database0014 where
  tables : SubscriptionTables
  schema : tables.Schema0014

/-! ### The statements of the migration -/

/-- What makes the server refuse a statement; the migration is then rolled back and the service
does not start. -/
inductive MigrationError where
  | foreignKeyViolation
  | uniqueViolation
  deriving DecidableEq, Repr

namespace SubscriptionTables

variable (t : SubscriptionTables)

/-- `row_num` of `ranked_subscriptions`. -/
def rowNum (s : SubscriptionRow) : ℕ :=
  rowNumber (fun s => s.telegramUserId) SubscriptionRow.sortKey t.subscriptions s

/-- `subscription_rewrites`: the id of a duplicate with that of its owner's first row. -/
def subscriptionRewrites : List (ℤ × ℤ) :=
  (t.subscriptions.filter fun loser => 1 < t.rowNum loser).flatMap fun loser =>
    (t.subscriptions.filter fun winner =>
      winner.telegramUserId = loser.telegramUserId ∧ t.rowNum winner = 1).map fun winner =>
        (loser.id, winner.id)

/-- `UPDATE telegram_payment_events … FROM subscription_rewrites`. -/
def rewritePaymentEvents : Except MigrationError SubscriptionTables :=
  let paymentEvents := t.paymentEvents.map fun e =>
    { e with subscriptionId := e.subscriptionId.map (rewriteTo t.subscriptionRewrites) }
  if RefersTo PaymentEvent.subscriptionId paymentEvents (t.subscriptions.map fun s => s.id) then
    .ok { t with paymentEvents := paymentEvents }
  else
    .error .foreignKeyViolation

/-- The ids of `duplicates`. -/
def duplicates : List ℤ :=
  (t.subscriptions.filter fun s => 1 < t.rowNum s).map fun s => s.id

/-- `DELETE FROM telegram_subscriptions … USING duplicates`.  Sanctions of a deleted row go with
it; a payment that still names one makes the statement fail, in either table of payments. -/
def deleteDuplicates : Except MigrationError SubscriptionTables :=
  let subscriptions := t.subscriptions.filter fun s => s.id ∉ t.duplicates
  let ids := subscriptions.map fun s => s.id
  if RefersTo PaymentEvent.subscriptionId t.paymentEvents ids ∧
      RefersTo LegacyPayment.subscriptionId t.legacyPayments ids then
    .ok { t with
      subscriptions := subscriptions
      sanctions := t.sanctions.filter fun s => s.subscriptionId ∉ t.duplicates }
  else
    .error .foreignKeyViolation

/-- `ADD CONSTRAINT telegram_subscriptions_telegram_user_unique`. -/
def addTelegramUserUnique : Except MigrationError SubscriptionTables :=
  if UniqueOn (fun s => s.telegramUserId) t.subscriptions then
    .ok t
  else
    .error .uniqueViolation

/-- **Migration 0015.** -/
def singleSubscriptionPerUser : Except MigrationError SubscriptionTables := do
  let t ← t.rewritePaymentEvents
  let t ← t.deleteDuplicates
  t.addTelegramUserUnique

end SubscriptionTables

/-! ### What the migration is for -/

/-- What a column that names a subscription holds before and after: nothing twice, or the row that
stays of the subscription's owner. -/
def NamesSurvivor (t t' : SubscriptionTables) : Option ℤ → Option ℤ → Prop
  | none, new => new = none
  | some k, new => ∃ s ∈ t.subscriptions, s.id = k ∧
      ∃ w ∈ t'.subscriptions, w.telegramUserId = s.telegramUserId ∧ new = some w.id

/-- **The tables without duplicates**: of each owner the first row stays, no payment is lost or
changed but for the subscription it names, and that is the owner's row. -/
structure Deduplicated (t t' : SubscriptionTables) : Prop where
  survivors : ∀ s, s ∈ t'.subscriptions ↔ t.First s
  one_row : UniqueOn (fun s => s.telegramUserId) t'.subscriptions
  paymentEvents : List.Forall₂ (fun e e' => e' = { e with subscriptionId := e'.subscriptionId } ∧
    NamesSurvivor t t' e.subscriptionId e'.subscriptionId) t.paymentEvents t'.paymentEvents
  legacyPayments : List.Forall₂ (fun p p' => p' = { p with subscriptionId := p'.subscriptionId } ∧
    NamesSurvivor t t' p.subscriptionId p'.subscriptionId) t.legacyPayments t'.legacyPayments

/-- No legacy payment names a subscription that is not the first of its owner. -/
def SubscriptionTables.LegacyNamesFirst (t : SubscriptionTables) : Prop :=
  ∀ p ∈ t.legacyPayments, ∀ s ∈ t.subscriptions, p.subscriptionId = some s.id → t.First s

/-! ### Each statement -/

namespace Database0014

variable (db : Database0014)

/-- No two subscriptions tie: the last sort column is the id. -/
theorem sortKey_unique : UniqueOn SubscriptionRow.sortKey db.tables.subscriptions := by
  have hids : UniqueOn (fun s => s.id) db.tables.subscriptions := db.schema.subscriptions_id
  have hcomp : (fun s : SubscriptionRow => s.id) =
      (fun k => (ofLex (ofLex k).2).2) ∘ SubscriptionRow.sortKey := rfl
  rw [UniqueOn, hcomp, ← List.map_map] at hids
  exact hids.of_map _

theorem eq_of_id_eq {s s' : SubscriptionRow} (hs : s ∈ db.tables.subscriptions)
    (hs' : s' ∈ db.tables.subscriptions) (hid : s.id = s'.id) : s = s' :=
  db.schema.subscriptions_id.eq_of_key_eq hs hs' hid

theorem rowNum_eq_one_iff {s : SubscriptionRow} (hs : s ∈ db.tables.subscriptions) :
    db.tables.rowNum s = 1 ↔ db.tables.First s := rowNumber_eq_one_iff hs

theorem one_lt_rowNum_iff {s : SubscriptionRow} (hs : s ∈ db.tables.subscriptions) :
    1 < db.tables.rowNum s ↔ ¬ db.tables.First s := one_lt_rowNumber_iff hs

/-- The pairs of the rewriting: a duplicate, and the first row of its owner. -/
theorem mem_subscriptionRewrites_iff {old new : ℤ} :
    (old, new) ∈ db.tables.subscriptionRewrites ↔
      ∃ s ∈ db.tables.subscriptions, ¬ db.tables.First s ∧ s.id = old ∧
        ∃ w, db.tables.First w ∧ w.telegramUserId = s.telegramUserId ∧ w.id = new := by
  rw [SubscriptionTables.subscriptionRewrites, List.mem_flatMap]
  constructor
  · rintro ⟨s, hs, hpair⟩
    obtain ⟨hs, hrow⟩ := List.mem_filter.1 hs
    obtain ⟨w, hw, hids⟩ := List.mem_map.1 hpair
    obtain ⟨hw, hwinner⟩ := List.mem_filter.1 hw
    obtain ⟨howner, hfirst⟩ := of_decide_eq_true hwinner
    obtain ⟨hold, hnew⟩ := Prod.mk.inj hids
    exact ⟨s, hs, (db.one_lt_rowNum_iff hs).1 (of_decide_eq_true hrow), hold, w,
      (db.rowNum_eq_one_iff hw).1 hfirst, howner, hnew⟩
  · rintro ⟨s, hs, hnot, rfl, w, hfirst, howner, rfl⟩
    refine ⟨s, List.mem_filter.2 ⟨hs, decide_eq_true ((db.one_lt_rowNum_iff hs).2 hnot)⟩, ?_⟩
    refine List.mem_map.2 ⟨w, List.mem_filter.2 ⟨hfirst.1, decide_eq_true ⟨howner, ?_⟩⟩, rfl⟩
    exact (db.rowNum_eq_one_iff hfirst.1).2 hfirst

/-- The rewriting sends what a payment names to the first row of the owner. -/
theorem rewriteTo_subscriptionRewrites {s w : SubscriptionRow}
    (hs : s ∈ db.tables.subscriptions) (hw : db.tables.First w)
    (howner : w.telegramUserId = s.telegramUserId) :
    rewriteTo db.tables.subscriptionRewrites s.id = w.id := by
  by_cases hfirst : db.tables.First s
  · obtain rfl : w = s := hw.unique db.sortKey_unique hfirst howner
    refine rewriteTo_of_not_mem fun new hmem => ?_
    obtain ⟨s', hs', hnot, hid, -⟩ := db.mem_subscriptionRewrites_iff.1 hmem
    rw [db.eq_of_id_eq hs' hs hid] at hnot
    exact hnot hfirst
  · refine rewriteTo_of_mem ?_ fun new hmem => ?_
    · exact db.mem_subscriptionRewrites_iff.2 ⟨s, hs, hfirst, rfl, w, hw, howner, rfl⟩
    · obtain ⟨s', hs', -, hid, w', hw', howner', rfl⟩ := db.mem_subscriptionRewrites_iff.1 hmem
      rw [db.eq_of_id_eq hs' hs hid] at howner'
      rw [hw'.unique db.sortKey_unique hw (howner'.trans howner.symm)]

/-- What a payment names is rewritten to the id of a first row, the one of the same owner. -/
theorem exists_first_of_named {k : ℤ} (hk : k ∈ db.tables.subscriptions.map fun s => s.id) :
    ∃ s ∈ db.tables.subscriptions, s.id = k ∧ ∃ w, db.tables.First w ∧
      w.telegramUserId = s.telegramUserId ∧
      rewriteTo db.tables.subscriptionRewrites k = w.id := by
  obtain ⟨s, hs, rfl⟩ := List.mem_map.1 hk
  obtain ⟨w, hw, howner⟩ := exists_firstIn (fun s : SubscriptionRow => s.telegramUserId)
    SubscriptionRow.sortKey hs
  exact ⟨s, hs, rfl, w, hw, howner, db.rewriteTo_subscriptionRewrites hs hw howner⟩

/-- The tables once the payment events name first rows. -/
def rewritten : SubscriptionTables :=
  let rewrite := rewriteTo db.tables.subscriptionRewrites
  { db.tables with
    paymentEvents := db.tables.paymentEvents.map fun e =>
      { e with subscriptionId := e.subscriptionId.map rewrite } }

/-- Sending the payment events to the first rows never fails. -/
theorem rewritePaymentEvents_eq : db.tables.rewritePaymentEvents = .ok db.rewritten := by
  refine if_pos ?_
  intro renamed he k hk
  obtain ⟨event, hevent, rfl⟩ := List.mem_map.1 he
  obtain ⟨j, hj, rfl⟩ := Option.map_eq_some_iff.1 hk
  obtain ⟨-, -, -, w, hw, -, hid⟩ :=
    db.exists_first_of_named (db.schema.paymentEvents_subscription event hevent j hj)
  rw [hid]
  exact List.mem_map.2 ⟨w, hw.1, rfl⟩

/-- The rows that are deleted are those that are not the first of their owner. -/
theorem mem_duplicates_iff {s : SubscriptionRow} (hs : s ∈ db.tables.subscriptions) :
    s.id ∈ db.rewritten.duplicates ↔ ¬ db.tables.First s := by
  rw [SubscriptionTables.duplicates, List.mem_map]
  constructor
  · rintro ⟨s', hs', hid⟩
    obtain ⟨hs', hrow⟩ := List.mem_filter.1 hs'
    obtain rfl := db.eq_of_id_eq hs' hs hid
    exact (db.one_lt_rowNum_iff hs).1 (of_decide_eq_true hrow)
  · intro hnot
    exact ⟨s, List.mem_filter.2 ⟨hs, decide_eq_true ((db.one_lt_rowNum_iff hs).2 hnot)⟩, rfl⟩

/-- The rows that stay. -/
def survivors : List SubscriptionRow :=
  db.tables.subscriptions.filter fun s => s.id ∉ db.rewritten.duplicates

theorem mem_survivors_iff {s : SubscriptionRow} : s ∈ db.survivors ↔ db.tables.First s := by
  rw [survivors, List.mem_filter, decide_eq_true_eq]
  constructor
  · rintro ⟨hs, hkept⟩
    rw [db.mem_duplicates_iff hs, not_not] at hkept
    exact hkept
  · intro hfirst
    refine ⟨hfirst.1, ?_⟩
    rw [db.mem_duplicates_iff hfirst.1, not_not]
    exact hfirst

/-- One row stays of each owner. -/
theorem survivors_telegramUserId : UniqueOn (fun s => s.telegramUserId) db.survivors := by
  have hids : UniqueOn (fun s => s.id) db.survivors :=
    db.schema.subscriptions_id.sublist (List.filter_sublist.map _)
  refine List.Nodup.map_on ?_ (List.Nodup.of_map _ hids)
  intro s hs s' hs' howner
  exact (db.mem_survivors_iff.1 hs).unique db.sortKey_unique (db.mem_survivors_iff.1 hs') howner

/-- A payment names a row that stays exactly when what it names is first. -/
theorem mem_survivors_ids_iff {k : ℤ} :
    k ∈ (db.survivors.map fun s => s.id) ↔ ∃ s, db.tables.First s ∧ s.id = k := by
  rw [List.mem_map]
  exact exists_congr fun s => and_congr_left fun _ => db.mem_survivors_iff

/-- What the payment events name after the rewriting stays. -/
theorem rewritten_refersTo :
    RefersTo PaymentEvent.subscriptionId db.rewritten.paymentEvents
      (db.survivors.map fun s => s.id) := by
  intro renamed he k hk
  obtain ⟨event, hevent, rfl⟩ := List.mem_map.1 he
  obtain ⟨j, hj, rfl⟩ := Option.map_eq_some_iff.1 hk
  obtain ⟨-, -, -, w, hw, -, hid⟩ :=
    db.exists_first_of_named (db.schema.paymentEvents_subscription event hevent j hj)
  exact db.mem_survivors_ids_iff.2 ⟨w, hw, hid.symm⟩

/-- What the legacy payments name stays exactly when it is first. -/
theorem legacy_refersTo_iff :
    RefersTo LegacyPayment.subscriptionId db.tables.legacyPayments
      (db.survivors.map fun s => s.id) ↔ db.tables.LegacyNamesFirst := by
  constructor
  · intro hrefers p hp s hs hnamed
    obtain ⟨w, hw, hid⟩ := db.mem_survivors_ids_iff.1 (hrefers p hp s.id hnamed)
    rw [← db.eq_of_id_eq hw.1 hs hid]
    exact hw
  · intro hfirst p hp k hk
    obtain ⟨s, hs, rfl⟩ := db.schema.legacyPayments_subscription.exists_row hp hk
    exact db.mem_survivors_ids_iff.2 ⟨s, hfirst p hp s hs hk, rfl⟩

/-! ### The migration -/

/-- The tables after the migration. -/
def deduplicated : SubscriptionTables :=
  { db.rewritten with
    subscriptions := db.survivors
    sanctions := db.tables.sanctions.filter fun s =>
      s.subscriptionId ∉ db.rewritten.duplicates }

/-- **The migration, in one equation**: the rows that stay, or a foreign key violation. -/
theorem singleSubscriptionPerUser_eq [Decidable db.tables.LegacyNamesFirst] :
    db.tables.singleSubscriptionPerUser =
      if db.tables.LegacyNamesFirst then .ok db.deduplicated
      else .error .foreignKeyViolation := by
  have hdelete : db.rewritten.deleteDuplicates =
      if db.tables.LegacyNamesFirst then .ok db.deduplicated
      else .error .foreignKeyViolation := by
    refine if_congr ?_ rfl rfl
    rw [← db.legacy_refersTo_iff]
    exact and_iff_right db.rewritten_refersTo
  rw [SubscriptionTables.singleSubscriptionPerUser, db.rewritePaymentEvents_eq]
  change db.rewritten.deleteDuplicates >>= _ = _
  rw [hdelete]
  split
  · exact if_pos db.survivors_telegramUserId
  · rfl

/-- A column that names a subscription, once rewritten, names the row that stays. -/
theorem namesSurvivor_rewritten {old : Option ℤ}
    (hold : ∀ k ∈ old, k ∈ db.tables.subscriptions.map fun s => s.id) :
    NamesSurvivor db.tables db.deduplicated old
      (old.map (rewriteTo db.tables.subscriptionRewrites)) := by
  cases old with
  | none => rfl
  | some k =>
      obtain ⟨s, hs, hid, w, hw, howner, hrewrite⟩ := db.exists_first_of_named (hold k rfl)
      exact ⟨s, hs, hid, w, db.mem_survivors_iff.2 hw, howner, congrArg some hrewrite⟩

/-- A column that names first rows only may stay as it is. -/
theorem namesSurvivor_first {old : Option ℤ}
    (hold : ∀ k ∈ old, ∃ s, db.tables.First s ∧ s.id = k) :
    NamesSurvivor db.tables db.deduplicated old old := by
  cases old with
  | none => rfl
  | some k =>
      obtain ⟨s, hfirst, rfl⟩ := hold k rfl
      exact ⟨s, hfirst.1, rfl, s, db.mem_survivors_iff.2 hfirst, rfl, rfl⟩

/-- When no legacy payment names a duplicate, the tables after the migration are what it is for. -/
theorem deduplicated_of_legacyNamesFirst (h : db.tables.LegacyNamesFirst) :
    Deduplicated db.tables db.deduplicated where
  survivors _ := db.mem_survivors_iff
  one_row := db.survivors_telegramUserId
  paymentEvents := by
    refine List.forall₂_map_right_iff.2 (List.forall₂_same.2 ?_)
    intro e he
    exact ⟨rfl, db.namesSurvivor_rewritten (db.schema.paymentEvents_subscription e he)⟩
  legacyPayments := by
    refine List.forall₂_same.2 ?_
    intro p hp
    refine ⟨rfl, db.namesSurvivor_first ?_⟩
    exact fun k hk => db.mem_survivors_ids_iff.1 (db.legacy_refersTo_iff.2 h p hp k hk)

/-- **The migration does its work exactly when no legacy payment names a subscription that
goes.** -/
theorem deduplicated_iff :
    (∃ t, db.tables.singleSubscriptionPerUser = .ok t ∧ Deduplicated db.tables t) ↔
      db.tables.LegacyNamesFirst := by
  classical
  rw [db.singleSubscriptionPerUser_eq]
  constructor
  · rintro ⟨t, hok, -⟩
    by_contra hnot
    rw [if_neg hnot] at hok
    cases hok
  · intro h
    exact ⟨db.deduplicated, if_pos h, db.deduplicated_of_legacyNamesFirst h⟩

end Database0014

/-! ### A user of the time of Stars who changed plans -/

/-- A payment in Stars renewed the first subscription of a user, who now has one for another
plan. -/
def switchedPlanTables : SubscriptionTables where
  telegramUserIds := [7]
  subscriptions :=
    [{ id := 1
       telegramUserId := 7
       chatId := 70
       planCode := "monthly_basic"
       status := .expired
       currentPeriodStartAt := some 100
       currentPeriodEndAt := some 200
       updatedAt := 100 },
     { id := 2
       telegramUserId := 7
       chatId := 70
       planCode := "monthly_ojol"
       status := .active
       currentPeriodStartAt := some 300
       currentPeriodEndAt := some 400
       updatedAt := 300 }]
  paymentEvents := []
  legacyPayments :=
    [{ id := 1
       telegramUserId := 7
       chatId := 70
       subscriptionId := some 1
       planCode := "monthly_stars"
       starsAmount := 50
       periodDays := 30
       invoicePayload := some "stars-1"
       telegramPaymentChargeId := some "charge-1"
       starsAmount_pos := by decide
       periodDays_pos := (by decide : (30 : ℤ) > 0) }]
  sanctions := []

def switchedPlan : Database0014 where
  tables := switchedPlanTables
  schema :=
    { telegramUserIds := by decide +kernel
      subscriptions_id := by decide +kernel
      subscriptions_plan := by decide +kernel
      subscriptions_user := by decide +kernel
      paymentEvents_id := by decide +kernel
      paymentEvents_order := by decide +kernel
      paymentEvents_transaction := by decide +kernel
      paymentEvents_user := by decide +kernel
      paymentEvents_subscription := by decide +kernel
      legacyPayments_id := by decide +kernel
      legacyPayments_invoice := by decide +kernel
      legacyPayments_charge := by decide +kernel
      legacyPayments_user := by decide +kernel
      legacyPayments_subscription := by decide +kernel
      sanctions_id := by decide +kernel
      sanctions_subscriptionId := by decide +kernel
      sanctions_subscription := by decide +kernel
      sanctions_user := by decide +kernel }

/-- The old payment keeps the migration from deleting the old subscription, so no service
starts. -/
theorem switchedPlan_foreignKeyViolation :
    switchedPlan.tables.singleSubscriptionPerUser = .error .foreignKeyViolation ∧
      ¬ ∃ t, switchedPlan.tables.singleSubscriptionPerUser = .ok t ∧
        Deduplicated switchedPlan.tables t := by
  have hnone : switchedPlan.tables.singleSubscriptionPerUser.toOption.isNone = true := by
    decide +kernel
  have hfails : switchedPlan.tables.singleSubscriptionPerUser = .error .foreignKeyViolation := by
    classical
    rw [switchedPlan.singleSubscriptionPerUser_eq] at hnone ⊢
    refine if_neg fun hfirst => ?_
    rw [if_pos hfirst] at hnone
    cases hnone
  refine ⟨hfails, ?_⟩
  rintro ⟨t, hok, -⟩
  rw [hfails] at hok
  cases hok

end Gt06
