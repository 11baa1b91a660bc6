/-
**The payment ledger over whole runs of the webhook.**

Notifications are delivered one after another, in any order, any number of times, for any orders.
The ledger of a run is the list of the events that turned paid, each with the time its
notification was received.  The period end of every user is the fold of the ledger, and no order
enters it twice.

Main definitions:

* `Gt06.Database.deliver` — the database after some calls;
* `Gt06.turnedPaid`, `Gt06.Database.credits` — the events a call turns paid, and the ledger;
* `Gt06.CallLaw` — what holds of every single call;
* `Gt06.IsSufficient`, `Gt06.Decides` — the notifications that decide a pending order.

Main results:

* `Gt06.periodEndOf_deliver` — **the period end is the fold of the ledger**;
* `Gt06.credits_nodup` — no order is credited twice;
* `Gt06.webhook_ledger` — the laws of the ledger together;
* `Gt06.deliver_order` — **the first notification that decides a pending order settles it**.
-/

import Mathlib
import Gt06Server.MidtransSignature

set_option relaxedAutoImplicit false
set_option autoImplicit false

namespace Gt06

open Relational

/-! ### Statuses -/

/-- The status of an order, if it is known. -/
def Database.statusOf (db : Database) (orderId : String) : Option PaymentStatus :=
  (db.paymentEventOf orderId).map PaymentEvent.paymentStatus

/-- The order of a call had the status and gets another, or keeps it. -/
theorem statusOf_updatePaymentEvent {db : Database} {orderId : String} {event : PaymentEvent}
    {f : PaymentEvent → PaymentEvent} {hid : ∀ e, (f e).id = e.id}
    {horder : ∀ e, (f e).providerOrderId = e.providerOrderId}
    (hfound : db.paymentEventOf orderId = some event) (order : String) :
    (db.updatePaymentEvent event.id f hid horder).statusOf order =
      if order = orderId then some (f event).paymentStatus else db.statusOf order := by
  rw [Database.statusOf, Database.paymentEventOf_updatePaymentEvent _ hfound]
  split
  · rfl
  · rfl

/-- Noting a notification leaves every status alone. -/
theorem statusOf_noted {db : Database} {orderId : String} {event : PaymentEvent}
    {notification : MidtransWebhookNotification}
    (hfound : db.paymentEventOf orderId = some event) (order : String) :
    (db.updatePaymentEvent event.id (fun e => e.noted notification) (fun e => e.id_noted _)
      fun e => e.providerOrderId_noted _).statusOf order = db.statusOf order := by
  rw [statusOf_updatePaymentEvent hfound]
  split
  · next horder =>
      rw [horder, Database.statusOf, hfound]
      rfl
  · rfl

/-! ### The writes of a credit -/

section Credited

variable {db : Database} {call : WebhookCall} {event : PaymentEvent}

/-- The event as a call that credits it leaves it. -/
def Database.settledEvent (db : Database) (call : WebhookCall) (event : PaymentEvent) :
    PaymentEvent :=
  event.settled call.notification (db.creditRecord call event).id call.receivedAt

theorem paymentEvents_credited :
    (db.credited call event).paymentEvents =
      updateAt PaymentEvent.id event.id
        (fun e => e.settled call.notification (db.creditRecord call event).id call.receivedAt)
        db.paymentEvents := by
  have hevents := db.paymentEvents_upsertSubscription event.telegramUserId event.chatId
    event.planCode
  rw [← hevents _ _]
  rfl

theorem paymentEventOf_credited (hfound : db.paymentEventOf call.notification.orderId = some event)
    (order : String) :
    (db.credited call event).paymentEventOf order =
      if order = call.notification.orderId then some (db.settledEvent call event)
      else db.paymentEventOf order := by
  have hread : (db.credited call event).paymentEventOf order =
      (db.updatePaymentEvent event.id
        (fun e => e.settled call.notification (db.creditRecord call event).id call.receivedAt)
        (fun e => e.id_settled _ _ _)
        fun e => e.providerOrderId_settled _ _ _).paymentEventOf order :=
    congrArg (rowAt PaymentEvent.providerOrderId order) paymentEvents_credited
  rw [hread, Database.paymentEventOf_updatePaymentEvent _ hfound]
  rfl

theorem statusOf_credited (hfound : db.paymentEventOf call.notification.orderId = some event)
    (order : String) :
    (db.credited call event).statusOf order =
      if order = call.notification.orderId then some .paid else db.statusOf order := by
  rw [Database.statusOf, paymentEventOf_credited hfound]
  split
  · rfl
  · rfl

theorem periodEndOf_credited (user : ℤ) :
    (db.credited call event).periodEndOf user =
      if user = event.telegramUserId then
        some (extendPeriod (db.periodEndOf user) call.receivedAt event.periodDays)
      else db.periodEndOf user := by
  have hupsert := db.periodEndOf_upsertSubscription event.telegramUserId event.chatId event.planCode
    (nextPeriod (db.subscriptionOf event.telegramUserId) call.receivedAt event.periodDays).1
    (nextPeriod (db.subscriptionOf event.telegramUserId) call.receivedAt event.periodDays).2 user
  have hread : (db.credited call event).periodEndOf user = _ := hupsert
  rw [hread, nextPeriod_snd]
  split
  · next huser => rw [huser]; rfl
  · rfl

end Credited

/-! ### What one call changes -/

/-- The events that turned paid between two databases. -/
def turnedPaid (before after : Database) : List PaymentEvent :=
  after.paymentEvents.filter fun event =>
    event.paymentStatus = .paid ∧ before.statusOf event.providerOrderId ≠ some .paid

theorem mem_turnedPaid {before after : Database} {event : PaymentEvent} :
    event ∈ turnedPaid before after ↔
      event ∈ after.paymentEvents ∧ event.paymentStatus = .paid ∧
        before.statusOf event.providerOrderId ≠ some .paid := by
  simp [turnedPaid]

theorem statusOf_of_mem {db : Database} {event : PaymentEvent} (h : event ∈ db.paymentEvents) :
    db.statusOf event.providerOrderId = some event.paymentStatus := by
  rw [Database.statusOf, (db.paymentEventOf_eq_some_iff).2 ⟨h, rfl⟩]
  rfl

/-- When no order turned paid, no event did. -/
theorem turnedPaid_eq_nil {before after : Database}
    (h : ∀ order, after.statusOf order = some .paid → before.statusOf order = some .paid) :
    turnedPaid before after = [] := by
  rw [List.eq_nil_iff_forall_not_mem]
  intro event hevent
  obtain ⟨hmem, hpaid, hbefore⟩ := mem_turnedPaid.1 hevent
  exact hbefore (h _ (by rw [statusOf_of_mem hmem, hpaid]))

/-- A call that credits an event turns that event paid and no other. -/
theorem turnedPaid_credited {db : Database} {call : WebhookCall} {event : PaymentEvent}
    (hfound : db.paymentEventOf call.notification.orderId = some event)
    (hstatus : event.paymentStatus = .pending) :
    turnedPaid db (db.credited call event) = [db.settledEvent call event] := by
  obtain ⟨hevent, horder⟩ := db.mem_of_paymentEventOf hfound
  rw [turnedPaid, paymentEvents_credited]
  refine filter_updateAt_eq_singleton db.paymentEvents_id hevent ?_ ?_
  · have hbefore : db.statusOf event.providerOrderId = some .pending := by
      rw [statusOf_of_mem hevent, hstatus]
    have hkeep : (event.settled call.notification (db.creditRecord call event).id
        call.receivedAt).providerOrderId = event.providerOrderId := rfl
    rw [decide_eq_true_iff, hkeep, hbefore]
    exact ⟨rfl, by simp⟩
  · intro other hother _
    rw [decide_eq_false_iff_not, statusOf_of_mem hother]
    rintro ⟨hpaid, hbefore⟩
    exact hbefore (congrArg some hpaid)

section Step

variable {db db' : Database} {call : WebhookCall}
  {result : Except SqlError MidtransWebhookApplyOutcome}

/-- A call moves an order only from pending, and only the order it names. -/
theorem WebhookStep.statusOf (h : WebhookStep db call result db') (order : String) :
    db'.statusOf order = db.statusOf order ∨
      (order = call.notification.orderId ∧ db.statusOf order = some .pending ∧
        db'.statusOf order = some call.mappedStatus.paymentStatus) := by
  cases h with
  | alreadyClosed event hfound hpaid hpending =>
      exact Or.inl (statusOf_noted hfound order)
  | closes event hfound hstatus hmapped =>
      rw [statusOf_updatePaymentEvent hfound]
      by_cases horder : order = call.notification.orderId
      · subst horder
        refine Or.inr ⟨rfl, ?_, if_pos rfl⟩
        rw [Database.statusOf, hfound, Option.map_some, hstatus]
      · exact Or.inl (if_neg horder)
  | paid event amount hfound hstatus hmapped hamount henough =>
      rw [statusOf_credited hfound]
      by_cases horder : order = call.notification.orderId
      · subst horder
        refine Or.inr ⟨rfl, ?_, ?_⟩
        · rw [Database.statusOf, hfound, Option.map_some, hstatus]
        · rw [if_pos rfl, hmapped]
          rfl
      · exact Or.inl (if_neg horder)
  | _ => exact Or.inl rfl

/-- A status other than pending never changes. -/
theorem WebhookStep.statusOf_kept (h : WebhookStep db call result db') {order : String}
    (hclosed : db.statusOf order ≠ some .pending) : db'.statusOf order = db.statusOf order := by
  rcases h.statusOf order with hkept | ⟨_, hpending, _⟩
  · exact hkept
  · exact absurd hpending hclosed

/-- What a call does to the ledger: nothing, or it credits the pending event of its order. -/
theorem WebhookStep.ledger (h : WebhookStep db call result db') :
    ((∀ record, result ≠ .ok (.paid record)) ∧ turnedPaid db db' = [] ∧
        db'.subscriptions = db.subscriptions ∧ db'.sanctions = db.sanctions) ∨
      ∃ event amount, db.paymentEventOf call.notification.orderId = some event ∧
        event.paymentStatus = .pending ∧ call.mappedStatus = .paid ∧
        notifiedGrossAmount call.notification = some amount ∧ event.grossAmountIdr ≤ amount ∧
        result = .ok (.paid (db.creditRecord call event)) ∧ db' = db.credited call event := by
  have hself : turnedPaid db db = [] := turnedPaid_eq_nil fun _ hpaid => hpaid
  have hstatus := h.statusOf
  cases h with
  | unknownOrder hfound => exact Or.inl ⟨by simp, hself, rfl, rfl⟩
  | alreadyPaid event hfound hpaid => exact Or.inl ⟨by simp, hself, rfl, rfl⟩
  | alreadyClosed event hfound hpaid hpending =>
      refine Or.inl ⟨by simp, turnedPaid_eq_nil ?_, rfl, rfl⟩
      intro order hafter
      rwa [statusOf_noted hfound] at hafter
  | closes event hfound hpending hmapped =>
      refine Or.inl ⟨by simp, turnedPaid_eq_nil ?_, rfl, rfl⟩
      intro order hafter
      rcases hstatus order with hkept | ⟨_, _, hmoved⟩
      · rwa [hkept] at hafter
      · rw [hmoved] at hafter
        cases hmappedStatus : call.mappedStatus with
        | paid => exact absurd hmappedStatus hmapped
        | _ => simp [hmappedStatus, MidtransPaymentStatus.paymentStatus] at hafter
  | notANumber event hfound hpending hmapped hamount => exact Or.inl ⟨by simp, hself, rfl, rfl⟩
  | underpaid event amount hfound hpending hmapped hamount hless =>
      exact Or.inl ⟨by simp, hself, rfl, rfl⟩
  | paid event amount hfound hpending hmapped hamount henough =>
      exact Or.inr ⟨event, amount, hfound, hpending, hmapped, hamount, henough, rfl, rfl⟩
  | failed statement hfails => exact Or.inl ⟨by simp, hself, rfl, rfl⟩

/-- A call that is not about a payment leaves the ledger alone. -/
theorem WebhookStep.untouched (h : WebhookStep db call result db')
    (hmapped : call.mappedStatus ≠ .paid) :
    turnedPaid db db' = [] ∧ db'.subscriptions = db.subscriptions ∧
      db'.sanctions = db.sanctions := by
  rcases h.ledger with ⟨_, hturned, hsubscriptions, hsanctions⟩ | ⟨_, _, _, _, hpaid, _⟩
  · exact ⟨hturned, hsubscriptions, hsanctions⟩
  · exact absurd hpaid hmapped

end Step

/-! ### Runs -/

/-- The database after the calls, one after another. -/
def Database.deliver (db : Database) : List WebhookCall → Database
  | [] => db
  | call :: calls => (applyMidtransWebhook db call).2.deliver calls

/-- An event that turned paid, and when its notification was received. -/
structure Credit where
  event : PaymentEvent
  receivedAt : ℤ

/-- The ledger of a run: the events that turned paid, call after call. -/
def Database.credits (db : Database) : List WebhookCall → List Credit
  | [] => []
  | call :: calls =>
      let after := (applyMidtransWebhook db call).2
      (turnedPaid db after).map (fun event => ⟨event, call.receivedAt⟩) ++ after.credits calls

/-- The part of a ledger that is about one user. -/
def creditsOf (user : ℤ) (credits : List Credit) : List Credit :=
  credits.filter fun credit => credit.event.telegramUserId = user

/-- The period end after one more credit. -/
def Credit.extend (periodEnd : Option ℤ) (credit : Credit) : Option ℤ :=
  some (extendPeriod periodEnd credit.receivedAt credit.event.periodDays)

theorem creditsOf_append (user : ℤ) (credits credits' : List Credit) :
    creditsOf user (credits ++ credits') = creditsOf user credits ++ creditsOf user credits' :=
  List.filter_append ..

/-- One call extends the period of every user by its own credits. -/
theorem periodEndOf_applyMidtransWebhook (db : Database) (call : WebhookCall) (user : ℤ) :
    (applyMidtransWebhook db call).2.periodEndOf user =
      (creditsOf user ((turnedPaid db (applyMidtransWebhook db call).2).map
        fun event => ⟨event, call.receivedAt⟩)).foldl Credit.extend (db.periodEndOf user) := by
  rcases (applyMidtransWebhook_step db call).ledger with ⟨_, hturned, hsubscriptions, _⟩ |
    ⟨event, amount, hfound, hpending, _, _, _, _, hdb⟩
  · rw [hturned, Database.periodEndOf, Database.subscriptionOf, hsubscriptions]
    rfl
  · rw [hdb, turnedPaid_credited hfound hpending, periodEndOf_credited]
    by_cases huser : user = event.telegramUserId
    · have hsettled : (db.settledEvent call event).telegramUserId = user := huser.symm
      simp only [creditsOf, List.map_cons, List.map_nil, hsettled, decide_true,
        List.filter_cons_of_pos, List.filter_nil, List.foldl_cons, List.foldl_nil, if_pos huser]
      rfl
    · have hsettled : (db.settledEvent call event).telegramUserId ≠ user := Ne.symm huser
      simp [creditsOf, hsettled, huser]

/-- **The period end is the fold of the ledger.** -/
theorem periodEndOf_deliver (db : Database) (calls : List WebhookCall) (user : ℤ) :
    (db.deliver calls).periodEndOf user =
      (creditsOf user (db.credits calls)).foldl Credit.extend (db.periodEndOf user) := by
  induction calls generalizing db with
  | nil => rfl
  | cons call calls ih =>
      rw [Database.deliver, ih, Database.credits, creditsOf_append, List.foldl_append,
        ← periodEndOf_applyMidtransWebhook]

/-- A status other than pending never changes again. -/
theorem statusOf_deliver (db : Database) (calls : List WebhookCall) {order : String}
    (hclosed : db.statusOf order ≠ some .pending) :
    (db.deliver calls).statusOf order = db.statusOf order := by
  induction calls generalizing db with
  | nil => rfl
  | cons call calls ih =>
      have hkept := (applyMidtransWebhook_step db call).statusOf_kept hclosed
      rw [Database.deliver, ih _ (by rwa [hkept]), hkept]

/-- An order of the ledger was not paid before the run. -/
theorem statusOf_of_mem_credits {db : Database} {calls : List WebhookCall} {credit : Credit}
    (h : credit ∈ db.credits calls) : db.statusOf credit.event.providerOrderId ≠ some .paid := by
  induction calls generalizing db with
  | nil => exact absurd h (by simp [Database.credits])
  | cons call calls ih =>
      rcases List.mem_append.1 h with h | h
      · obtain ⟨event, hevent, rfl⟩ := List.mem_map.1 h
        exact (mem_turnedPaid.1 hevent).2.2
      · intro hpaid
        have hclosed : db.statusOf credit.event.providerOrderId ≠ some .pending := by
          rw [hpaid]
          simp
        exact ih h (((applyMidtransWebhook_step db call).statusOf_kept hclosed).trans hpaid)

/-- At most one event turns paid in a call. -/
theorem turnedPaid_eq_nil_or_singleton (db : Database) (call : WebhookCall) :
    turnedPaid db (applyMidtransWebhook db call).2 = [] ∨
      ∃ event, turnedPaid db (applyMidtransWebhook db call).2 = [event] := by
  rcases (applyMidtransWebhook_step db call).ledger with ⟨_, hturned, _⟩ |
    ⟨event, amount, hfound, hpending, _, _, _, _, hdb⟩
  · exact Or.inl hturned
  · rw [hdb]
    exact Or.inr ⟨_, turnedPaid_credited hfound hpending⟩

/-- No order is credited twice. -/
theorem credits_nodup (db : Database) (calls : List WebhookCall) :
    ((db.credits calls).map fun credit => credit.event.providerOrderId).Nodup := by
  induction calls generalizing db with
  | nil => exact List.nodup_nil
  | cons call calls ih =>
      rw [Database.credits, List.map_append, List.nodup_append]
      refine ⟨?_, ih _, ?_⟩
      · rcases turnedPaid_eq_nil_or_singleton db call with hturned | ⟨event, hturned⟩
        · rw [hturned]
          exact List.nodup_nil
        · rw [hturned]
          exact List.nodup_singleton _
      · rintro order hhead order' htail rfl
        -- The order is paid after this call, so no later call turns it paid.
        rw [List.map_map] at hhead
        obtain ⟨event, hevent, rfl⟩ := List.mem_map.1 hhead
        obtain ⟨credit, hcredit, horder⟩ := List.mem_map.1 htail
        obtain ⟨hmem, hpaid, _⟩ := mem_turnedPaid.1 hevent
        refine statusOf_of_mem_credits hcredit ?_
        rw [horder]
        exact (statusOf_of_mem hmem).trans (congrArg some hpaid)

/-- The orders of the ledger are those that turned paid in the run. -/
theorem exists_mem_credits_iff (db : Database) (calls : List WebhookCall) (order : String) :
    (∃ credit ∈ db.credits calls, credit.event.providerOrderId = order) ↔
      db.statusOf order ≠ some .paid ∧ (db.deliver calls).statusOf order = some .paid := by
  induction calls generalizing db with
  | nil => simp [Database.credits, Database.deliver]
  | cons call calls ih =>
      constructor
      · rintro ⟨credit, hcredit, rfl⟩
        refine ⟨statusOf_of_mem_credits hcredit, ?_⟩
        rcases List.mem_append.1 hcredit with hhead | htail
        · obtain ⟨event, hevent, rfl⟩ := List.mem_map.1 hhead
          obtain ⟨hmem, hpaid, _⟩ := mem_turnedPaid.1 hevent
          have hafter := (statusOf_of_mem hmem).trans (congrArg some hpaid)
          rw [Database.deliver, statusOf_deliver _ _ (by rw [hafter]; simp), hafter]
        · exact ((ih _).1 ⟨credit, htail, rfl⟩).2
      · rintro ⟨hbefore, hafter⟩
        by_cases hnow : (applyMidtransWebhook db call).2.statusOf order = some .paid
        · obtain ⟨event, hevent, hpaid⟩ := Option.map_eq_some_iff.1 hnow
          obtain ⟨hmem, rfl⟩ := Database.mem_of_paymentEventOf _ hevent
          have hturned := mem_turnedPaid.2 ⟨hmem, hpaid, hbefore⟩
          exact ⟨_, List.mem_append_left _ (List.mem_map_of_mem hturned), rfl⟩
        · obtain ⟨credit, hcredit, horder⟩ := (ih _).2 ⟨hnow, hafter⟩
          exact ⟨credit, List.mem_append_right _ hcredit, horder⟩

/-- What holds of every single call. -/
structure CallLaw (before : Database) (call : WebhookCall) : Prop where
  /-- A status moves only from pending, and to one of the four others. -/
  status : ∀ order,
    (applyMidtransWebhook before call).2.statusOf order = before.statusOf order ∨
      (before.statusOf order = some .pending ∧
        ∃ status ∈ [PaymentStatus.paid, .expired, .failed, .refunded],
          (applyMidtransWebhook before call).2.statusOf order = some status)
  /-- An event turns paid only through a paid notification of at least the stored amount. -/
  sufficient : ∀ event ∈ turnedPaid before (applyMidtransWebhook before call).2,
    call.mappedStatus = .paid ∧
      ∃ stored amount, before.paymentEventOf call.notification.orderId = some stored ∧
        stored.id = event.id ∧ stored.paymentStatus = .pending ∧
        notifiedGrossAmount call.notification = some amount ∧ stored.grossAmountIdr ≤ amount
  /-- An event that turns paid moves the period end of its user forward. -/
  period : ∀ event ∈ turnedPaid before (applyMidtransWebhook before call).2,
    ∃ periodEnd',
      (applyMidtransWebhook before call).2.periodEndOf event.telegramUserId = some periodEnd' ∧
      ∀ periodEnd, before.periodEndOf event.telegramUserId = some periodEnd →
        periodEnd < periodEnd'
  /-- A call with another answer leaves subscriptions and sanctions as they were. -/
  untouched : (∀ record, (applyMidtransWebhook before call).1 ≠ .ok (.paid record)) →
    (applyMidtransWebhook before call).2.subscriptions = before.subscriptions ∧
      (applyMidtransWebhook before call).2.sanctions = before.sanctions

theorem callLaw (before : Database) (call : WebhookCall) : CallLaw before call := by
  have hstep := applyMidtransWebhook_step before call
  have hstatus : ∀ order,
      (applyMidtransWebhook before call).2.statusOf order = before.statusOf order ∨
        (before.statusOf order = some .pending ∧
          ∃ status ∈ [PaymentStatus.paid, .expired, .failed, .refunded],
            (applyMidtransWebhook before call).2.statusOf order = some status) := by
    intro order
    rcases hstep.statusOf order with hkept | ⟨_, hpending, hmoved⟩
    · exact Or.inl hkept
    · cases hmapped : call.mappedStatus with
      | pending =>
          rw [hmapped] at hmoved
          exact Or.inl (hmoved.trans hpending.symm)
      | _ =>
          rw [hmapped] at hmoved
          exact Or.inr ⟨hpending, _, by simp [MidtransPaymentStatus.paymentStatus], hmoved⟩
  -- either nothing turns paid, or one event does and its user is credited
  rcases hstep.ledger with ⟨hresult, hturned, hsubscriptions, hsanctions⟩ |
    ⟨event, amount, hfound, hpending, hmapped, hamount, henough, hresult, hdb⟩
  · refine ⟨hstatus, ?_, ?_, fun _ => ⟨hsubscriptions, hsanctions⟩⟩
    · intro event hevent
      rw [hturned] at hevent
      exact absurd hevent (List.not_mem_nil)
    · intro event hevent
      rw [hturned] at hevent
      exact absurd hevent (List.not_mem_nil)
  · have hturned : ∀ credited ∈ turnedPaid before (applyMidtransWebhook before call).2,
        credited = before.settledEvent call event := by
      intro credited hcredited
      rw [hdb, turnedPaid_credited hfound hpending] at hcredited
      exact List.mem_singleton.1 hcredited
    refine ⟨hstatus, ?_, ?_, fun hother => absurd hresult (hother _)⟩
    · intro credited hcredited
      rw [hturned credited hcredited]
      exact ⟨hmapped, event, amount, hfound, rfl, hpending, hamount, henough⟩
    · intro credited hcredited
      have huser : credited.telegramUserId = event.telegramUserId := by
        rw [hturned credited hcredited]
        rfl
      rw [hdb, periodEndOf_credited, if_pos huser]
      refine ⟨_, rfl, ?_⟩
      intro periodEnd hend
      rw [hend]
      exact lt_extendPeriod event.periodDays_pos

/-- **The laws of the ledger**, for every run of calls from any database. -/
theorem webhook_ledger (db : Database) (calls : List WebhookCall) :
    (∀ calls₁ call calls₂, calls = calls₁ ++ call :: calls₂ → CallLaw (db.deliver calls₁) call) ∧
      (∀ order, db.statusOf order ≠ some .pending →
        (db.deliver calls).statusOf order = db.statusOf order) ∧
      (∀ user, (db.deliver calls).periodEndOf user =
        (creditsOf user (db.credits calls)).foldl Credit.extend (db.periodEndOf user)) ∧
      (∀ order, (∃ credit ∈ db.credits calls, credit.event.providerOrderId = order) ↔
        db.statusOf order ≠ some .paid ∧ (db.deliver calls).statusOf order = some .paid) ∧
      ((db.credits calls).map fun credit => credit.event.providerOrderId).Nodup := by
  refine ⟨?_, ?_, periodEndOf_deliver db calls, exists_mem_credits_iff db calls,
    credits_nodup db calls⟩
  · intro calls₁ call calls₂ _
    exact callLaw _ _
  · intro order hclosed
    exact statusOf_deliver db calls hclosed

/-! ### The notifications of one order -/

/-- A paid notification of at least the amount. -/
def IsSufficient (grossAmountIdr : ℤ) (call : WebhookCall) : Prop :=
  call.mappedStatus = .paid ∧
    ∃ amount ∈ notifiedGrossAmount call.notification, grossAmountIdr ≤ amount

/-- A notification of an order that expired, failed or was refunded. -/
def Closes (call : WebhookCall) : Prop := call.mappedStatus ≠ .paid ∧ call.mappedStatus ≠ .pending

/-- A notification that ends the pending status of its order. -/
def Decides (grossAmountIdr : ℤ) (call : WebhookCall) : Prop :=
  IsSufficient grossAmountIdr call ∨ Closes call

instance (grossAmountIdr : ℤ) (call : WebhookCall) : Decidable (IsSufficient grossAmountIdr call) :=
  inferInstanceAs (Decidable (_ ∧ _))

instance (call : WebhookCall) : Decidable (Closes call) := inferInstanceAs (Decidable (_ ∧ _))

instance (grossAmountIdr : ℤ) (call : WebhookCall) : Decidable (Decides grossAmountIdr call) :=
  inferInstanceAs (Decidable (_ ∨ _))

/-- An order that is not pending is not credited by any notification. -/
theorem deliver_of_not_pending {db : Database} {order : String} {calls : List WebhookCall}
    (horder : ∀ call ∈ calls, call.notification.orderId = order)
    (hclosed : db.statusOf order ≠ some .pending) :
    db.credits calls = [] ∧ (db.deliver calls).subscriptions = db.subscriptions ∧
      (db.deliver calls).sanctions = db.sanctions := by
  induction calls generalizing db with
  | nil => exact ⟨rfl, rfl, rfl⟩
  | cons call calls ih =>
      have hstep := applyMidtransWebhook_step db call
      have hcall : call.notification.orderId = order := horder call (List.mem_cons_self ..)
      rcases hstep.ledger with ⟨_, hturned, hsubscriptions, hsanctions⟩ |
        ⟨event, _, hfound, hpending, _⟩
      · obtain ⟨hcredits, hsubscriptions', hsanctions'⟩ :=
          ih (fun c hc => horder c (List.mem_cons_of_mem _ hc))
            (by rwa [hstep.statusOf_kept hclosed])
        refine ⟨?_, hsubscriptions'.trans hsubscriptions, hsanctions'.trans hsanctions⟩
        rw [Database.credits, hturned, hcredits]
        rfl
      · rw [hcall] at hfound
        exact absurd (by rw [Database.statusOf, hfound, Option.map_some, hpending]) hclosed

/-- What a notification of a pending order does when no statement fails: it credits the order,
leaves everything alone or writes the status it maps to. -/
theorem applyMidtransWebhook_of_pending {db : Database} {call : WebhookCall}
    {event : PaymentEvent} (hfound : db.paymentEventOf call.notification.orderId = some event)
    (hpending : event.paymentStatus = .pending) (hsucceeds : call.Succeeds) :
    (IsSufficient event.grossAmountIdr call ∧
        (applyMidtransWebhook db call).2 = db.credited call event) ∨
      (¬ IsSufficient event.grossAmountIdr call ∧ call.mappedStatus = .paid ∧
        (applyMidtransWebhook db call).2 = db) ∨
      (call.mappedStatus ≠ .paid ∧ (applyMidtransWebhook db call).2 =
        db.updatePaymentEvent event.id
          (fun e => e.closed call.notification call.mappedStatus.paymentStatus)
          (fun e => e.id_closed _ _) fun e => e.providerOrderId_closed _ _) := by
  have hsame : ∀ event', db.paymentEventOf call.notification.orderId = some event' →
      event' = event := fun event' hfound' => Option.some_inj.1 (hfound'.symm.trans hfound)
  have hstep := applyMidtransWebhook_step db call
  -- a call on a pending event whose statements succeed credits, is refused, or closes the event
  generalize (applyMidtransWebhook db call).1 = result at hstep
  generalize (applyMidtransWebhook db call).2 = db' at hstep
  cases hstep with
  | unknownOrder hunknown => exact absurd hfound (by rw [hunknown]; simp)
  | alreadyPaid event' hfound' hpaid =>
      rw [hsame event' hfound', hpending] at hpaid
      exact absurd hpaid (by simp)
  | alreadyClosed event' hfound' hpaid hclosed =>
      rw [hsame event' hfound'] at hclosed
      exact absurd hpending hclosed
  | closes event' hfound' hstatus hmapped =>
      rw [hsame event' hfound']
      exact Or.inr (Or.inr ⟨hmapped, rfl⟩)
  | notANumber event' hfound' hstatus hmapped hamount =>
      refine Or.inr (Or.inl ⟨?_, hmapped, rfl⟩)
      rintro ⟨_, amount, hnotified, _⟩
      rw [hamount] at hnotified
      exact absurd hnotified (by simp)
  | underpaid event' amount hfound' hstatus hmapped hamount hless =>
      refine Or.inr (Or.inl ⟨?_, hmapped, rfl⟩)
      rintro ⟨_, amount', hnotified, henough⟩
      rw [hamount] at hnotified
      rw [hsame event' hfound', Option.mem_some_iff.1 hnotified] at hless
      exact absurd henough (not_le.2 hless)
  | paid event' amount hfound' hstatus hmapped hamount henough =>
      rw [hsame event' hfound'] at henough ⊢
      exact Or.inl ⟨⟨hmapped, amount, hamount, henough⟩, rfl⟩
  | failed statement hfails => exact absurd hfails (by rw [hsucceeds statement]; simp)

/-- A sufficient payment of a pending order credits it. -/
theorem applyMidtransWebhook_of_isSufficient {db : Database} {call : WebhookCall}
    {event : PaymentEvent} (hfound : db.paymentEventOf call.notification.orderId = some event)
    (hpending : event.paymentStatus = .pending) (hsucceeds : call.Succeeds)
    (hsufficient : IsSufficient event.grossAmountIdr call) :
    (applyMidtransWebhook db call).2 = db.credited call event := by
  rcases applyMidtransWebhook_of_pending hfound hpending hsucceeds with ⟨_, hdb⟩ |
    ⟨hinsufficient, _⟩ | ⟨hmapped, _⟩
  · exact hdb
  · exact absurd hsufficient hinsufficient
  · exact absurd hsufficient.1 hmapped

/-- The order was paid and credited once, for the time `receivedAt`. -/
structure CreditedOnce (db : Database) (calls : List WebhookCall) (event : PaymentEvent)
    (receivedAt : ℤ) : Prop where
  status : (db.deliver calls).statusOf event.providerOrderId = some .paid
  once : ∃ credit, db.credits calls = [credit] ∧ credit.event.id = event.id ∧
    credit.receivedAt = receivedAt
  period : (db.deliver calls).periodEndOf event.telegramUserId =
    some (extendPeriod (db.periodEndOf event.telegramUserId) receivedAt event.periodDays)

/-- The order was not paid, and nobody's subscription changed. -/
structure NeverCredited (db : Database) (calls : List WebhookCall) (event : PaymentEvent) :
    Prop where
  status : (db.deliver calls).statusOf event.providerOrderId ≠ some .paid
  credits : db.credits calls = []
  subscriptions : (db.deliver calls).subscriptions = db.subscriptions
  sanctions : (db.deliver calls).sanctions = db.sanctions

/-- A credit followed by notifications that can no longer change anything. -/
theorem creditedOnce_cons {db : Database} {call : WebhookCall} {calls : List WebhookCall}
    {event : PaymentEvent} (hfound : db.paymentEventOf call.notification.orderId = some event)
    (hpending : event.paymentStatus = .pending)
    (hdb : (applyMidtransWebhook db call).2 = db.credited call event)
    (horder : ∀ c ∈ calls, c.notification.orderId = call.notification.orderId) :
    CreditedOnce db (call :: calls) event call.receivedAt := by
  have hkey := (db.mem_of_paymentEventOf hfound).2
  have hstatus : (db.credited call event).statusOf call.notification.orderId = some .paid := by
    rw [statusOf_credited hfound, if_pos rfl]
  have hclosed : (db.credited call event).statusOf call.notification.orderId ≠ some .pending := by
    rw [hstatus]
    simp
  obtain ⟨hcredits, _, _⟩ := deliver_of_not_pending horder hclosed
  refine ⟨?_, ⟨⟨db.settledEvent call event, call.receivedAt⟩, ?_, rfl, rfl⟩, ?_⟩
  · rw [Database.deliver, hdb, hkey, statusOf_deliver _ _ hclosed, hstatus]
  · rw [Database.credits, hdb, hcredits, turnedPaid_credited hfound hpending]
    rfl
  · rw [Database.deliver, hdb, periodEndOf_deliver, hcredits, periodEndOf_credited, if_pos rfl]
    rfl

/-- A closing notification followed by any others. -/
theorem neverCredited_cons {db : Database} {call : WebhookCall} {calls : List WebhookCall}
    {event : PaymentEvent} (hfound : db.paymentEventOf call.notification.orderId = some event)
    (hpending : event.paymentStatus = .pending) (hsucceeds : call.Succeeds)
    (hcloses : Closes call)
    (horder : ∀ c ∈ calls, c.notification.orderId = call.notification.orderId) :
    NeverCredited db (call :: calls) event := by
  have hkey := (db.mem_of_paymentEventOf hfound).2
  obtain ⟨hturned, hsubscriptions, hsanctions⟩ :=
    (applyMidtransWebhook_step db call).untouched hcloses.1
  obtain ⟨hmapped, hmappedPending⟩ := hcloses
  have hclosed : call.mappedStatus.paymentStatus ≠ .pending ∧
      call.mappedStatus.paymentStatus ≠ .paid := by
    cases hstatus : call.mappedStatus with
    | pending => exact absurd hstatus hmappedPending
    | paid => exact absurd hstatus hmapped
    | _ => simp [MidtransPaymentStatus.paymentStatus]
  have hstatus : (applyMidtransWebhook db call).2.statusOf call.notification.orderId =
      some call.mappedStatus.paymentStatus := by
    rcases applyMidtransWebhook_of_pending hfound hpending hsucceeds with ⟨hsufficient, _⟩ |
      ⟨_, hpaid, _⟩ | ⟨_, hdb⟩
    · exact absurd hsufficient.1 hmapped
    · exact absurd hpaid hmapped
    · rw [hdb, statusOf_updatePaymentEvent hfound, if_pos rfl]
      rfl
  have hstays : (applyMidtransWebhook db call).2.statusOf call.notification.orderId ≠
      some .pending := by simpa [hstatus] using hclosed.1
  obtain ⟨hcredits, hsubscriptions', hsanctions'⟩ := deliver_of_not_pending horder hstays
  refine ⟨?_, ?_, hsubscriptions'.trans hsubscriptions, hsanctions'.trans hsanctions⟩
  · rw [Database.deliver, hkey, statusOf_deliver _ _ hstays, hstatus]
    simpa using hclosed.2
  · rw [Database.credits, hturned, hcredits]
    rfl

/-- A call before the run that leaves the ledger alone. -/
theorem CreditedOnce.cons {db : Database} {call : WebhookCall} {calls : List WebhookCall}
    {event : PaymentEvent} {receivedAt : ℤ}
    (hturned : turnedPaid db (applyMidtransWebhook db call).2 = [])
    (hsubscriptions : (applyMidtransWebhook db call).2.subscriptions = db.subscriptions)
    (h : CreditedOnce (applyMidtransWebhook db call).2 calls event receivedAt) :
    CreditedOnce db (call :: calls) event receivedAt := by
  obtain ⟨credit, hcredits, hcredit⟩ := h.once
  refine ⟨h.status, ⟨credit, ?_, hcredit⟩, ?_⟩
  · rw [Database.credits, hturned, hcredits]
    rfl
  · have hperiod := h.period
    rw [Database.periodEndOf, Database.periodEndOf, Database.subscriptionOf,
      Database.subscriptionOf, hsubscriptions] at hperiod
    exact hperiod

theorem NeverCredited.cons {db : Database} {call : WebhookCall} {calls : List WebhookCall}
    {event : PaymentEvent} (hturned : turnedPaid db (applyMidtransWebhook db call).2 = [])
    (hsubscriptions : (applyMidtransWebhook db call).2.subscriptions = db.subscriptions)
    (hsanctions : (applyMidtransWebhook db call).2.sanctions = db.sanctions)
    (h : NeverCredited (applyMidtransWebhook db call).2 calls event) :
    NeverCredited db (call :: calls) event := by
  refine ⟨h.status, ?_, h.subscriptions.trans hsubscriptions, h.sanctions.trans hsanctions⟩
  rw [Database.credits, hturned, h.credits]
  rfl

/-- **The first notification that decides a pending order settles it**: if it is a sufficient
payment the order is credited once, and otherwise never. -/
theorem deliver_order {db : Database} {event : PaymentEvent} {calls : List WebhookCall}
    (hevent : event ∈ db.paymentEvents) (hpending : event.paymentStatus = .pending)
    (horder : ∀ call ∈ calls, call.notification.orderId = event.providerOrderId)
    (hsucceeds : ∀ call ∈ calls, call.Succeeds) :
    (∀ call, calls.find? (fun call => Decides event.grossAmountIdr call) = some call →
        IsSufficient event.grossAmountIdr call → CreditedOnce db calls event call.receivedAt) ∧
      ((∀ call, calls.find? (fun call => Decides event.grossAmountIdr call) = some call →
        ¬ IsSufficient event.grossAmountIdr call) → NeverCredited db calls event) := by
  induction calls generalizing db event with
  | nil =>
      refine ⟨by simp, fun _ => ⟨?_, rfl, rfl, rfl⟩⟩
      rw [Database.deliver, statusOf_of_mem hevent, hpending]
      simp
  | cons call calls ih =>
      have hcall : call.notification.orderId = event.providerOrderId :=
        horder call (List.mem_cons_self ..)
      have hrest : ∀ c ∈ calls, c.notification.orderId = event.providerOrderId :=
        fun c hc => horder c (List.mem_cons_of_mem _ hc)
      have hsucceed : ∀ c ∈ calls, c.Succeeds :=
        fun c hc => hsucceeds c (List.mem_cons_of_mem _ hc)
      have hfound : db.paymentEventOf call.notification.orderId = some event := by
        rw [hcall]
        exact db.paymentEventOf_eq_some_iff.2 ⟨hevent, rfl⟩
      rcases applyMidtransWebhook_of_pending hfound hpending
        (hsucceeds call (List.mem_cons_self ..)) with ⟨hsufficient, hdb⟩ |
        ⟨hinsufficient, hmapped, hdb⟩ | ⟨hmapped, hdb⟩
      · -- The call credits the order, and no later one matters.
        have hfirst : (call :: calls).find? (fun call => Decides event.grossAmountIdr call) =
            some call := List.find?_cons_of_pos (decide_eq_true (Or.inl hsufficient))
        rw [hfirst]
        refine ⟨?_, fun h => absurd hsufficient (h call rfl)⟩
        rintro _ ⟨⟩ _
        exact creditedOnce_cons hfound hpending hdb fun c hc => (hrest c hc).trans hcall.symm
      · -- The amount is too small or no number: the run goes on from the same database.
        have hundecided : ¬ Decides event.grossAmountIdr call := by
          rintro (hsufficient | hcloses)
          · exact hinsufficient hsufficient
          · exact hcloses.1 hmapped
        rw [List.find?_cons_of_neg (by simpa using hundecided)]
        have hself : turnedPaid db db = [] := turnedPaid_eq_nil fun _ hpaid => hpaid
        obtain ⟨hcredited, hnever⟩ := ih hevent hpending hrest hsucceed
        constructor
        · intro c hfind hsufficient
          exact CreditedOnce.cons (by rw [hdb, hself]) (by rw [hdb])
            (by rw [hdb]; exact hcredited c hfind hsufficient)
        · intro h
          exact NeverCredited.cons (by rw [hdb, hself]) (by rw [hdb]) (by rw [hdb])
            (by rw [hdb]; exact hnever h)
      · -- The event gets the mapped status: it stays pending, or nothing can pay it any more.
        have hinsufficient : ¬ IsSufficient event.grossAmountIdr call := fun h => hmapped h.1
        obtain ⟨hturned, hsubscriptions, hsanctions⟩ :=
          (applyMidtransWebhook_step db call).untouched hmapped
        by_cases hcloses : Closes call
        · have hfirst : (call :: calls).find? (fun call => Decides event.grossAmountIdr call) =
              some call := List.find?_cons_of_pos (decide_eq_true (Or.inr hcloses))
          rw [hfirst]
          refine ⟨?_, fun _ => ?_⟩
          · rintro _ ⟨⟩ hsufficient
            exact absurd hsufficient hinsufficient
          · exact neverCredited_cons hfound hpending
              (hsucceeds call (List.mem_cons_self ..)) hcloses
              fun c hc => (hrest c hc).trans hcall.symm
        · have hmappedPending : call.mappedStatus = .pending := by
            by_contra hne
            exact hcloses ⟨hmapped, hne⟩
          have hundecided : ¬ Decides event.grossAmountIdr call := by
            rintro (hsufficient | hclosing)
            · exact hinsufficient hsufficient
            · exact hcloses hclosing
          have hafter : (applyMidtransWebhook db call).2.paymentEventOf event.providerOrderId =
              some (event.closed call.notification call.mappedStatus.paymentStatus) := by
            rw [hdb, Database.paymentEventOf_updatePaymentEvent _ hfound, if_pos hcall.symm]
          obtain ⟨hmem, _⟩ := Database.mem_of_paymentEventOf _ hafter
          obtain ⟨hcredited, hnever⟩ := ih hmem (by rw [hmappedPending]; rfl) hrest hsucceed
          rw [List.find?_cons_of_neg (by simpa using hundecided)]
          constructor
          · intro c hfind hsufficient
            have hc := hcredited c hfind hsufficient
            exact CreditedOnce.cons hturned hsubscriptions ⟨hc.status, hc.once, hc.period⟩
          · intro h
            have hn := hnever h
            exact NeverCredited.cons hturned hsubscriptions hsanctions
              ⟨hn.status, hn.credits, hn.subscriptions, hn.sanctions⟩

/-! ### A denied attempt before the settlement -/

/-- The order of the notifications below, as the bot stored it. -/
def pendingEvent : PaymentEvent where
  id := 1
  telegramUserId := 12345
  chatId := 12345
  subscriptionId := none
  paymentStatus := .pending
  planCode := "monthly_basic"
  grossAmountIdr := 2000
  periodDays := 30
  providerOrderId := "hb-12345-1777111200000"
  providerTransactionId := none
  paymentType := none
  paidAt := none
  rawWebhookNotification := none
  grossAmountIdr_pos := by decide
  periodDays_pos := by decide

def pendingDatabase : Database where
  paymentEvents := [pendingEvent]
  subscriptions := []
  sanctions := []
  lastSubscriptionId := 0
  paymentEvents_id := List.nodup_singleton _
  paymentEvents_providerOrderId := List.nodup_singleton _
  subscriptions_id := List.nodup_nil
  subscriptions_telegramUserId := List.nodup_nil
  subscriptions_id_le := subscriptions_id_le_nil
  sanctions_subscriptionId := List.nodup_nil

def deniedNotification : MidtransWebhookNotification :=
  { pendingNotification with
    statusCode := "202"
    signatureKey := "296ad56969f38178263ed561c7550a4645ac7b26ccc6a0f601dcafbea3436493de98daf936db7bd90eb19201e8ca3138c72cb61ed95377fcf4d912508540e0f5"
    transactionStatus := "deny" }

def settledNotification : MidtransWebhookNotification :=
  { pendingNotification with
    statusCode := "200"
    signatureKey := "d67b46e2c7ff39b138bbb64837df62bbb9bf8d94f883414c47d94a0848ebf1f50c468d38a6394cddab98b8152f313e63143351b796e5d16d20316432a016c246"
    transactionStatus := "settlement" }

def deniedCall : WebhookCall where
  notification := deniedNotification
  mappedStatus := .failed
  receivedAt := 1777111260000000
  now := 1777111260000000

def settledCall : WebhookCall where
  notification := settledNotification
  mappedStatus := .paid
  receivedAt := 1777111320000000
  now := 1777111320000000

/-- Both notifications are signed and the settlement is sufficient, but the order is paid only
when the settlement comes first. -/
theorem deniedCall_settledCall :
    acceptMidtransWebhook sampleSha512 (some "server-key") deniedNotification = .ok .failed ∧
      acceptMidtransWebhook sampleSha512 (some "server-key") settledNotification = .ok .paid ∧
      pendingDatabase.statusOf pendingEvent.providerOrderId = some .pending ∧
      IsSufficient pendingEvent.grossAmountIdr settledCall ∧
      ¬ ∀ calls : List WebhookCall, calls.Perm [deniedCall, settledCall] →
        (pendingDatabase.deliver calls).statusOf pendingEvent.providerOrderId = some .paid := by
  refine ⟨by decide +kernel, by decide +kernel, by decide +kernel, by decide +kernel, ?_⟩
  intro h
  exact absurd (h _ (List.Perm.refl _)) (by decide +kernel)

/-- The transaction was opened and nothing paid yet. -/
def pendingCall : WebhookCall where
  notification := pendingNotification
  mappedStatus := .pending
  receivedAt := 1777111220000000
  now := 1777111220000000

/-- A settlement of half the price. -/
def underpaidCall : WebhookCall where
  notification := { settledNotification with grossAmount := "1000.00" }
  mappedStatus := .paid
  receivedAt := 1777111240000000
  now := 1777111240000000

/-- Of four notifications the settlement of the whole price is the first that decides. -/
theorem deliver_order_fourCalls :
    CreditedOnce pendingDatabase [pendingCall, underpaidCall, settledCall, deniedCall]
      pendingEvent settledCall.receivedAt := by
  have hpending : ¬ Decides pendingEvent.grossAmountIdr pendingCall := by decide +kernel
  have hunderpaid : ¬ Decides pendingEvent.grossAmountIdr underpaidCall := by decide +kernel
  have hsettled : IsSufficient pendingEvent.grossAmountIdr settledCall := by decide +kernel
  refine (deliver_order (List.mem_singleton_self _) rfl ?_ ?_).1 settledCall ?_ hsettled
  · simp only [List.forall_mem_cons, List.not_mem_nil, false_implies, implies_true, and_true]
    exact ⟨rfl, rfl, rfl, rfl⟩
  · simp only [List.forall_mem_cons, List.not_mem_nil, false_implies, implies_true, and_true]
    exact ⟨fun _ => rfl, fun _ => rfl, fun _ => rfl, fun _ => rfl⟩
  · rw [List.find?_cons_of_neg (by simpa using hpending),
      List.find?_cons_of_neg (by simpa using hunderpaid),
      List.find?_cons_of_pos (by simpa using .inl hsettled)]

end Gt06
