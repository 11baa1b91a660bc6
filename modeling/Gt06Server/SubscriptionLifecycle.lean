/-
**What the operator sees of a subscription.**

The daily job, the view of the operator and the quote of a payment each compute from the period end
and the day how far a subscription is overdue.  The view also says whether the reminder of the day
has been sent, which the job decides by branches in another order, with the overdue day it has
filtered before.  Here the three are compared for every record and every instant.

Main definitions:

* `Gt06.subscriptionLifecycleState` — the stage of a subscription, and what is on record;
* `Gt06.buildSubscriptionPaymentQuote` — the amounts a payment is made of;
* `Gt06.LifecycleAgrees` — what the agreement of the three says.

Main results:

* `Gt06.fineAmountIdr_mono`, `Gt06.fineAmountIdr_pos_iff` — how a fine grows;
* `Gt06.lifecycle_agrees` — **the view, the job and the quote agree**.
-/

import Mathlib
import Gt06Server.SubscriptionMaintenance

set_option relaxedAutoImplicit false
set_option autoImplicit false

namespace Gt06

/-! ### The view -/

inductive SubscriptionLifecycleStage where
  | active
  | preExpiry
  | expiryDay
  | overdue
  | withdrawalRequired
  deriving DecidableEq, Repr

structure SubscriptionLifecycleState where
  stage : SubscriptionLifecycleStage
  day : Option ℤ
  reminderSent : Option Bool
  fineAmountIdr : ℤ
  withdrawalRequired : Bool
  deriving DecidableEq, Repr

def subscriptionLifecycleState (currentPeriodEndAt : Option ℤ) (now : ℤ)
    (lastPreExpiryRemindedForPeriodEndAt lastPreExpiryRemindedDay lastOverdueRemindedDay : Option ℤ)
    (withdrawalRequired : Bool) (resolvedAt : Option ℤ) : SubscriptionLifecycleState :=
  match currentPeriodEndAt with
  | none => ⟨.active, none, none, 0, withdrawalRequired⟩
  | some periodEnd =>
      let daysUntilExpiry := daysUntilExpiryWib periodEnd now
      let reminderMatchesPeriod := lastPreExpiryRemindedForPeriodEndAt = some periodEnd
      if daysUntilExpiry > subscriptionPreExpiryReminderDays then
        ⟨.active, none, none, 0, withdrawalRequired⟩
      else if daysUntilExpiry > 0 then
        let legacyDMinusFiveWasSent := reminderMatchesPeriod ∧ lastPreExpiryRemindedDay = none ∧
          daysUntilExpiry = subscriptionPreExpiryReminderDays
        let reminderSent := legacyDMinusFiveWasSent ∨
          (reminderMatchesPeriod ∧ lastPreExpiryRemindedDay = some (asI32 daysUntilExpiry))
        ⟨.preExpiry, some daysUntilExpiry, some (decide reminderSent), 0, withdrawalRequired⟩
      else if daysUntilExpiry = 0 then
        ⟨.expiryDay, some 0,
          some (decide (reminderMatchesPeriod ∧ lastPreExpiryRemindedDay = some 0)), 0,
          withdrawalRequired⟩
      else
        let overdueDays := overdueDaysWib periodEnd now
        let fineAmountIdr := fineAmountForOverdueDays overdueDays
        if overdueDays ≤ subscriptionMaxFineDays then
          let reminderSent := resolvedAt = none ∧ reminderMatchesPeriod ∧
            lastOverdueRemindedDay = some (asI32 overdueDays)
          ⟨.overdue, some overdueDays, some (decide reminderSent), fineAmountIdr,
            withdrawalRequired⟩
        else ⟨.withdrawalRequired, some overdueDays, none, fineAmountIdr, withdrawalRequired⟩

/-- The view of a subscription that a pass would read as `record`. -/
def MaintenanceRecord.lifecycleState (record : MaintenanceRecord) (now : ℤ) :
    SubscriptionLifecycleState :=
  subscriptionLifecycleState (some record.currentPeriodEndAt) now
    record.lastPreExpiryRemindedForPeriodEndAt record.lastPreExpiryRemindedDay
    record.lastOverdueRemindedDay record.withdrawalRequired record.resolvedAt

/-! ### The quote -/

def customerReferencedDeviceFeeIdr : ℤ := 10000

structure SubscriptionPaymentQuote where
  baseAmountIdr : ℤ
  customerReferenceFeeIdr : ℤ
  shipmentFeeIdr : ℤ
  fineAmountIdr : ℤ
  totalAmountIdr : ℤ
  overdueDays : ℤ
  withdrawalRequired : Bool
  deriving DecidableEq, Repr

/-- A user joined with the device bound to it, if there is one. -/
structure QuoteDeviceRow where
  id : Option ℤ
  hasCustomerReferencedDevice : Bool
  shipmentFeeIdr : Option ℤ
  deriving DecidableEq, Repr

/-- The answers of the database to the queries of a quote. -/
structure QuoteQueries (ε : Type) where
  deviceRow : Except ε (Option QuoteDeviceRow)
  paidPaymentExists : ℤ → Except ε Bool
  /-- The row of the user and its `current_period_end_at`. -/
  subscriptionRow : Except ε (Option (Option ℤ))

def buildSubscriptionPaymentQuote {ε : Type} (queries : QuoteQueries ε) (planPriceIdr now : ℤ) :
    Except ε SubscriptionPaymentQuote := do
  let deviceRow ← queries.deviceRow
  let hasCustomerReferencedDevice :=
    (deviceRow.map QuoteDeviceRow.hasCustomerReferencedDevice).getD false
  let shipmentFeeIdr := (deviceRow.bind QuoteDeviceRow.shipmentFeeIdr).getD 0
  let priorPaidPaymentExists ←
    match deviceRow.bind QuoteDeviceRow.id with
    | some deviceId => queries.paidPaymentExists deviceId
    | none => pure false
  let currentPeriodEndAt := (← queries.subscriptionRow).join
  let overdueDays := (currentPeriodEndAt.map fun periodEnd => overdueDaysWib periodEnd now).getD 0
  let fineAmountIdr := fineAmountForOverdueDays overdueDays
  let customerReferenceFeeIdr :=
    if hasCustomerReferencedDevice then customerReferencedDeviceFeeIdr else 0
  let shipmentFeeIdr := if priorPaidPaymentExists then 0 else shipmentFeeIdr
  return {
    baseAmountIdr := planPriceIdr
    customerReferenceFeeIdr := customerReferenceFeeIdr
    shipmentFeeIdr := shipmentFeeIdr
    fineAmountIdr := fineAmountIdr
    totalAmountIdr := planPriceIdr + customerReferenceFeeIdr + shipmentFeeIdr + fineAmountIdr
    overdueDays := overdueDays
    withdrawalRequired := decide (overdueDays > subscriptionMaxFineDays) }

/-! ### The fine -/

section Fine

variable {periodEnd now later : ℤ}

theorem fineAmountIdr_mono (h : now ≤ later) :
    fineAmountForOverdueDays (overdueDaysWib periodEnd now) ≤
      fineAmountForOverdueDays (overdueDaysWib periodEnd later) := by
  have hdate := wibDate_mono h
  unfold fineAmountForOverdueDays overdueDaysWib subscriptionMaxFineDays subscriptionDailyFineIdr
  omega

/-- There is a fine from the day after the expiry on. -/
theorem fineAmountIdr_pos_iff :
    0 < fineAmountForOverdueDays (overdueDaysWib periodEnd now) ↔
      wibDate periodEnd < wibDate now := by
  unfold fineAmountForOverdueDays overdueDaysWib subscriptionMaxFineDays subscriptionDailyFineIdr
  omega

theorem fineAmountForOverdueDays_mem (overdueDays : ℤ) :
    0 ≤ fineAmountForOverdueDays overdueDays ∧ fineAmountForOverdueDays overdueDays ≤ 7000 := by
  unfold fineAmountForOverdueDays subscriptionMaxFineDays subscriptionDailyFineIdr
  omega

end Fine

/-- A quote charges the fine of the period end it has read. -/
theorem fineAmountIdr_buildSubscriptionPaymentQuote {ε : Type} {queries : QuoteQueries ε}
    {periodEnd planPriceIdr now : ℤ} {quote : SubscriptionPaymentQuote}
    (hread : queries.subscriptionRow = .ok (some (some periodEnd)))
    (hquote : buildSubscriptionPaymentQuote queries planPriceIdr now = .ok quote) :
    quote.fineAmountIdr = fineAmountForOverdueDays (overdueDaysWib periodEnd now) := by
  unfold buildSubscriptionPaymentQuote at hquote
  cases hdevice : queries.deviceRow with
  | error error => simp [hdevice, bind, Except.bind] at hquote
  | ok deviceRow =>
      rw [hdevice, hread] at hquote
      cases hid : deviceRow.bind QuoteDeviceRow.id with
      | none =>
          simp only [hid, bind, Except.bind, pure, Except.pure] at hquote
          rw [← Except.ok.inj hquote]
          rfl
      | some deviceId =>
          cases hpaid : queries.paidPaymentExists deviceId with
          | error error =>
              simp only [hid, hpaid, bind, Except.bind] at hquote
              cases hquote
          | ok paid =>
              simp only [hid, hpaid, bind, Except.bind, pure, Except.pure] at hquote
              rw [← Except.ok.inj hquote]
              rfl

/-! ### The agreement -/

/-- The stage and the day of the reminder an action sends. -/
def SubscriptionMaintenanceAction.reminder :
    SubscriptionMaintenanceAction → Option (SubscriptionLifecycleStage × ℤ)
  | .preExpiryReminder daysUntilExpiry => some (.preExpiry, daysUntilExpiry)
  | .expiryDayReminder => some (.expiryDay, 0)
  | .overdueReminder overdueDays _ => some (.overdue, overdueDays)
  | _ => .none

/-- The fine an action writes to the sanction. -/
def SubscriptionMaintenanceAction.fineAmountIdr : SubscriptionMaintenanceAction → Option ℤ
  | .overdueReminder _ fineAmountIdr => some fineAmountIdr
  | .markWithdrawalRequired _ fineAmountIdr => some fineAmountIdr
  | _ => .none

def SubscriptionMaintenanceAction.MarksWithdrawal : SubscriptionMaintenanceAction → Prop
  | .markWithdrawalRequired _ _ => True
  | _ => False

/-- The stages a reminder belongs to. -/
def SubscriptionLifecycleStage.Reminds (stage : SubscriptionLifecycleStage) : Prop :=
  stage = .preExpiry ∨ stage = .expiryDay ∨ stage = .overdue

/-- The view, the job and the quote agree about a record at an instant. -/
structure LifecycleAgrees (record : MaintenanceRecord) (now : ℤ) : Prop where
  sent : (record.lifecycleState now).reminderSent = some true ↔
    (record.lifecycleState now).stage.Reminds ∧ record.action now = .none
  due : (record.lifecycleState now).reminderSent = some false ↔
    ∃ day, (record.lifecycleState now).day = some day ∧
      (record.action now).reminder = some ((record.lifecycleState now).stage, day)
  /-- At the last stage the withdrawal is due, or would be without the flag. -/
  withdrawal : (record.lifecycleState now).stage = .withdrawalRequired ↔
    (record.action now).MarksWithdrawal ∨
      record.action now = .none ∧ record.withdrawalRequired = true ∧
        ({ record with withdrawalRequired := false }.action now).MarksWithdrawal
  actionFine : ∀ fine ∈ (record.action now).fineAmountIdr,
    (record.lifecycleState now).fineAmountIdr = fine
  quotedFine : ∀ (ε : Type) (queries : QuoteQueries ε) (planPriceIdr : ℤ)
    (quote : SubscriptionPaymentQuote),
    queries.subscriptionRow = .ok (some (some record.currentPeriodEndAt)) →
    buildSubscriptionPaymentQuote queries planPriceIdr now = .ok quote →
    quote.fineAmountIdr = (record.lifecycleState now).fineAmountIdr
  fine_mono : ∀ later, now ≤ later →
    (record.lifecycleState now).fineAmountIdr ≤ (record.lifecycleState later).fineAmountIdr
  fine_pos : 0 < (record.lifecycleState now).fineAmountIdr ↔
    wibDate record.currentPeriodEndAt < wibDate now
  fine_mem : 0 ≤ (record.lifecycleState now).fineAmountIdr ∧
    (record.lifecycleState now).fineAmountIdr ≤ 7000

section View

variable {record : MaintenanceRecord} {now days : ℤ}

theorem lifecycleState_early (h : 5 < daysUntilExpiryWib record.currentPeriodEndAt now) :
    record.lifecycleState now = ⟨.active, none, none, 0, record.withdrawalRequired⟩ := by
  unfold MaintenanceRecord.lifecycleState subscriptionLifecycleState
  exact if_pos h

theorem lifecycleState_preExpiry
    (hdays : daysUntilExpiryWib record.currentPeriodEndAt now = days) (hpos : 1 ≤ days)
    (hle : days ≤ 5) :
    record.lifecycleState now =
      ⟨.preExpiry, some days, some (decide (record.PreExpirySent days)), 0,
      record.withdrawalRequired⟩ := by
  have hcast : asI32 days = days := asI32_of_lt (by omega) (by omega)
  have hsent : (record.lastPreExpiryRemindedForPeriodEndAt = some record.currentPeriodEndAt ∧
        record.lastPreExpiryRemindedDay = none ∧ days = subscriptionPreExpiryReminderDays ∨
      record.lastPreExpiryRemindedForPeriodEndAt = some record.currentPeriodEndAt ∧
        record.lastPreExpiryRemindedDay = some days) ↔ record.PreExpirySent days := by
    unfold MaintenanceRecord.PreExpirySent
    tauto
  unfold MaintenanceRecord.lifecycleState subscriptionLifecycleState
  simp only [hdays, hcast]
  rw [if_neg (by unfold subscriptionPreExpiryReminderDays; omega), if_pos (by omega),
    decide_eq_decide.2 hsent]

theorem lifecycleState_expiryDay
    (hdays : daysUntilExpiryWib record.currentPeriodEndAt now = 0) :
    record.lifecycleState now = ⟨.expiryDay, some 0, some (decide (record.PreExpirySent 0)), 0,
      record.withdrawalRequired⟩ := by
  have hsent : (record.lastPreExpiryRemindedForPeriodEndAt = some record.currentPeriodEndAt ∧
      record.lastPreExpiryRemindedDay = some 0) ↔ record.PreExpirySent 0 := by
    have hfive : ¬ (0 : ℤ) = subscriptionPreExpiryReminderDays := by decide
    unfold MaintenanceRecord.PreExpirySent
    tauto
  unfold MaintenanceRecord.lifecycleState subscriptionLifecycleState
  simp only [hdays]
  rw [if_neg (by decide), if_neg (by decide), if_pos trivial, decide_eq_decide.2 hsent]

/-- The view looks at the resolution and the period where the job has filtered the day. -/
theorem judgedOverdueDay_eq_some_iff {day : ℤ} :
    record.judgedOverdueDay = some day ↔ record.resolvedAt = none ∧
      record.lastPreExpiryRemindedForPeriodEndAt = some record.currentPeriodEndAt ∧
      record.lastOverdueRemindedDay = some day := by
  unfold MaintenanceRecord.judgedOverdueDay
  cases record.resolvedAt with
  | some resolvedAt => simp
  | none => simp

theorem lifecycleState_overdue (hdays : daysUntilExpiryWib record.currentPeriodEndAt now = -days)
    (hpos : 1 ≤ days) (hle : days ≤ 7) :
    record.lifecycleState now = ⟨.overdue, some days,
      some (decide (record.judgedOverdueDay = some days)), fineAmountForOverdueDays days,
      record.withdrawalRequired⟩ := by
  have hcast : asI32 days = days := asI32_of_lt (by omega) (by omega)
  have hoverdue : overdueDaysWib record.currentPeriodEndAt now = days := by
    rw [overdueDaysWib_eq, hdays]
    omega
  unfold MaintenanceRecord.lifecycleState subscriptionLifecycleState
  simp only [hdays, hoverdue, hcast]
  rw [if_neg (by unfold subscriptionPreExpiryReminderDays; omega), if_neg (by omega),
    if_neg (by omega), if_pos (show days ≤ subscriptionMaxFineDays from hle),
    decide_eq_decide.2 judgedOverdueDay_eq_some_iff.symm]

theorem lifecycleState_withdrawal
    (hdays : daysUntilExpiryWib record.currentPeriodEndAt now = -days) (hlate : 7 < days) :
    record.lifecycleState now = ⟨.withdrawalRequired, some days, none,
      fineAmountForOverdueDays days, record.withdrawalRequired⟩ := by
  have hoverdue : overdueDaysWib record.currentPeriodEndAt now = days := by
    rw [overdueDaysWib_eq, hdays]
    omega
  unfold MaintenanceRecord.lifecycleState subscriptionLifecycleState
  simp only [hdays, hoverdue]
  rw [if_neg (by unfold subscriptionPreExpiryReminderDays; omega), if_neg (by omega),
    if_neg (by omega), if_neg (show ¬ days ≤ subscriptionMaxFineDays from not_le.2 hlate)]

end View

section Agreement

variable (record : MaintenanceRecord) (now : ℤ)

theorem lifecycleState_fineAmountIdr : (record.lifecycleState now).fineAmountIdr =
    fineAmountForOverdueDays (overdueDaysWib record.currentPeriodEndAt now) := by
  have hzero : ∀ {n : ℤ}, n ≤ 0 → fineAmountForOverdueDays (max n 0) = 0 := by
    intro n hn
    rw [max_eq_right hn]
    rfl
  rw [overdueDaysWib_eq]
  rcases daysUntilExpiry_cases record now with h | ⟨days, hdays, hpos, hle⟩ | hdays |
    ⟨days, hdays, hpos, hle⟩ | ⟨days, hdays, hlate⟩
  · rw [lifecycleState_early h, hzero (by omega)]
  · rw [lifecycleState_preExpiry hdays hpos hle, hzero (by omega)]
  · rw [lifecycleState_expiryDay hdays, hzero (by omega)]
  · rw [lifecycleState_overdue hdays hpos hle, hdays, neg_neg, max_eq_left (by omega)]
  · rw [lifecycleState_withdrawal hdays hlate, hdays, neg_neg, max_eq_left (by omega)]

theorem reminderSent_eq_true_iff : (record.lifecycleState now).reminderSent = some true ↔
    (record.lifecycleState now).stage.Reminds ∧ record.action now = .none := by
  unfold SubscriptionLifecycleStage.Reminds
  rcases daysUntilExpiry_cases record now with h | ⟨days, hdays, hpos, hle⟩ | hdays |
    ⟨days, hdays, hpos, hle⟩ | ⟨days, hdays, hlate⟩
  · simp [lifecycleState_early h]
  · simp [lifecycleState_preExpiry hdays hpos hle, action_preExpiry hdays hpos hle]
  · simp [lifecycleState_expiryDay hdays, action_expiryDay hdays]
  · simp [lifecycleState_overdue hdays hpos hle, action_overdue hdays hpos hle]
  · simp [lifecycleState_withdrawal hdays hlate]

/-- A reminder not sent is due, at the stage and the day of the view. -/
theorem reminderSent_eq_false_iff : (record.lifecycleState now).reminderSent = some false ↔
    ∃ day, (record.lifecycleState now).day = some day ∧
      (record.action now).reminder = some ((record.lifecycleState now).stage, day) := by
  rcases daysUntilExpiry_cases record now with h | ⟨days, hdays, hpos, hle⟩ | hdays |
    ⟨days, hdays, hpos, hle⟩ | ⟨days, hdays, hlate⟩
  · simp [lifecycleState_early h]
  · rw [lifecycleState_preExpiry hdays hpos hle, action_preExpiry hdays hpos hle]
    by_cases hsent : record.PreExpirySent days
    · simp [hsent, SubscriptionMaintenanceAction.reminder]
    · simp [hsent, SubscriptionMaintenanceAction.reminder]
  · rw [lifecycleState_expiryDay hdays, action_expiryDay hdays]
    by_cases hsent : record.PreExpirySent 0
    · simp [hsent, SubscriptionMaintenanceAction.reminder]
    · simp [hsent, SubscriptionMaintenanceAction.reminder]
  · rw [lifecycleState_overdue hdays hpos hle, action_overdue hdays hpos hle]
    by_cases hsent : record.judgedOverdueDay = some days
    · simp [hsent, SubscriptionMaintenanceAction.reminder]
    · simp [hsent, SubscriptionMaintenanceAction.reminder]
  · rw [lifecycleState_withdrawal hdays hlate, action_withdrawal hdays hlate]
    cases record.withdrawalRequired with
    | false => simp [SubscriptionMaintenanceAction.reminder]
    | true => simp [SubscriptionMaintenanceAction.reminder]

theorem stage_eq_withdrawalRequired_iff :
    (record.lifecycleState now).stage = .withdrawalRequired ↔
      daysUntilExpiryWib record.currentPeriodEndAt now < -7 := by
  rcases daysUntilExpiry_cases record now with h | ⟨days, hdays, hpos, hle⟩ | hdays |
    ⟨days, hdays, hpos, hle⟩ | ⟨days, hdays, hlate⟩
  · simp only [lifecycleState_early h, reduceCtorEq, false_iff]
    omega
  · simp only [lifecycleState_preExpiry hdays hpos hle, reduceCtorEq, false_iff]
    omega
  · simp only [lifecycleState_expiryDay hdays, reduceCtorEq, false_iff]
    omega
  · simp only [lifecycleState_overdue hdays hpos hle, reduceCtorEq, false_iff]
    omega
  · simp only [lifecycleState_withdrawal hdays hlate, true_iff]
    omega

theorem marksWithdrawal_iff : (record.action now).MarksWithdrawal ↔
    daysUntilExpiryWib record.currentPeriodEndAt now < -7 ∧
      record.withdrawalRequired = false := by
  rcases daysUntilExpiry_cases record now with h | ⟨days, hdays, hpos, hle⟩ | hdays |
    ⟨days, hdays, hpos, hle⟩ | ⟨days, hdays, hlate⟩
  · rw [action_early h]
    exact iff_of_false not_false (by omega)
  · rw [action_preExpiry hdays hpos hle]
    refine iff_of_false ?_ (by omega)
    split
    · exact not_false
    · exact not_false
  · rw [action_expiryDay hdays]
    refine iff_of_false ?_ (by omega)
    split
    · exact not_false
    · exact not_false
  · rw [action_overdue hdays hpos hle]
    refine iff_of_false ?_ (by omega)
    split
    · exact not_false
    · exact not_false
  · rw [action_withdrawal hdays hlate]
    cases record.withdrawalRequired with
    | false => exact iff_of_true trivial ⟨by omega, rfl⟩
    | true => exact iff_of_false not_false fun h => Bool.noConfusion h.2

/-- With the flag set nothing is due at the last stage. -/
theorem action_eq_none_of_withdrawalRequired
    (h : daysUntilExpiryWib record.currentPeriodEndAt now < -7)
    (hflag : record.withdrawalRequired = true) : record.action now = .none := by
  rw [action_withdrawal (neg_neg _).symm (by omega), if_pos hflag]

/-- Only the last branches set a fine. -/
theorem fine_of_resolveOverdueAction {overdueDays fine : ℤ} {overdueDay : Option ℤ} {flag : Bool}
    (h : fine ∈ (resolveOverdueAction overdueDays overdueDay flag).fineAmountIdr) :
    fineAmountForOverdueDays overdueDays = fine := by
  unfold resolveOverdueAction at h
  split at h
  · cases h
  · split at h
    · split at h
      · exact Option.some.inj h
      · cases h
    · split at h
      · exact Option.some.inj h
      · cases h

theorem actionFine_eq : ∀ fine ∈ (record.action now).fineAmountIdr,
    fineAmountForOverdueDays (overdueDaysWib record.currentPeriodEndAt now) = fine := by
  intro fine hfine
  simp only [MaintenanceRecord.action, resolveSubscriptionMaintenanceAction] at hfine
  split at hfine
  · cases hfine
  · split at hfine
    · cases hfine
    · exact fine_of_resolveOverdueAction hfine

end Agreement

/-- **The view, the job and the quote agree**: for every record, with any values on record, and at
every instant, the view of the operator says that a reminder is sent exactly when none is due, the
withdrawal is due at its last stage only, and all three charge the same fine. -/
theorem lifecycle_agrees (record : MaintenanceRecord) (now : ℤ) : LifecycleAgrees record now := by
  have hfine := lifecycleState_fineAmountIdr record
  refine ⟨reminderSent_eq_true_iff record now, reminderSent_eq_false_iff record now, ?_, ?_, ?_, ?_,
    ?_, ?_⟩
  · rw [stage_eq_withdrawalRequired_iff, marksWithdrawal_iff, marksWithdrawal_iff]
    constructor
    · intro hlate
      cases hflag : record.withdrawalRequired with
      | false => exact Or.inl ⟨hlate, rfl⟩
      | true =>
          refine Or.inr ⟨?_, rfl, hlate, rfl⟩
          exact action_eq_none_of_withdrawalRequired record now hlate hflag
    · rintro (⟨hlate, _⟩ | ⟨_, _, hlate, _⟩)
      · exact hlate
      · exact hlate
  · intro fine hmem
    rw [hfine]
    exact actionFine_eq record now fine hmem
  · intro ε queries planPriceIdr quote hread hquote
    rw [fineAmountIdr_buildSubscriptionPaymentQuote hread hquote, hfine]
  · intro later hlater
    rw [hfine, hfine]
    exact fineAmountIdr_mono hlater
  · rw [hfine]
    exact fineAmountIdr_pos_iff
  · rw [hfine]
    exact fineAmountForOverdueDays_mem _

end Gt06
