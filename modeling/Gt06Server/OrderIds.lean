/-
**The ids of orders.**

The id of an order is put together from the id of the user and the millisecond the order was made
in, with dashes in between.  A webhook names its order by this id and nothing else, so that two
orders with one id would be one order to it.  Both numbers may be negative, and their sign is a dash
as well.

Main definitions:

* `Gt06.IsOrderIdOf` — the ids of a user's orders;
* `Gt06.Database.OwnOrderIds`, `Gt06.PaymentWorld.OwnOrderIds` — every row has an id of its user.

Main results:

* `Gt06.buildMidtransOrderId_inj` — an id determines the user and the millisecond;
* `Gt06.order_ids_never_collide` — **a webhook for the order of a user reaches the rows of no other
  user**;
* `Gt06.ownOrderIds_run` — the rows of every run have ids of their users.
-/

import Gt06Server.Decimals
import Gt06Server.InvoiceLines
import Gt06Server.MidtransLedger

set_option relaxedAutoImplicit false
set_option autoImplicit false

namespace Gt06

open Relational Await

/-! ### Reading an id -/

theorem toList_buildMidtransOrderId (telegramUserId createdAt : ℤ) :
    (buildMidtransOrderId telegramUserId createdAt).toList =
      "hb-".toList ++ ((toString telegramUserId).toList ++
        '-' :: (toString (timestampMillis createdAt)).toList) := by
  unfold buildMidtransOrderId
  simp only [String.toList_append, List.append_assoc]
  rfl

/-- An id determines the user and the millisecond. -/
theorem buildMidtransOrderId_inj {user user' createdAt createdAt' : ℤ} :
    buildMidtransOrderId user createdAt = buildMidtransOrderId user' createdAt' ↔
      user = user' ∧ timestampMillis createdAt = timestampMillis createdAt' := by
  constructor
  · intro h
    have hlist := congrArg String.toList h
    rw [toList_buildMidtransOrderId, toList_buildMidtransOrderId] at hlist
    obtain ⟨huser, hmillis⟩ :=
      Decimals.append_cons_inj (by decide) (List.append_cancel_left hlist)
    exact ⟨huser, Decimals.toList_toString_inj.1 hmillis⟩
  · rintro ⟨rfl, hmillis⟩
    rw [buildMidtransOrderId, hmillis]
    rfl

def IsOrderIdOf (telegramUserId : ℤ) (orderId : String) : Prop :=
  ∃ createdAt, orderId = buildMidtransOrderId telegramUserId createdAt

theorem IsOrderIdOf.eq {user user' : ℤ} {orderId : String} (h : IsOrderIdOf user orderId)
    (h' : IsOrderIdOf user' orderId) : user = user' := by
  obtain ⟨createdAt, rfl⟩ := h
  obtain ⟨createdAt', hid⟩ := h'
  exact (buildMidtransOrderId_inj.1 hid).1

/-! ### Webhooks -/

/-- Every payment event has an id of its own user. -/
def Database.OwnOrderIds (db : Database) : Prop :=
  ∀ event ∈ db.paymentEvents, IsOrderIdOf event.telegramUserId event.providerOrderId

section Webhooks

variable {db : Database} {call : WebhookCall}

/-- A webhook is about its own order. -/
theorem paymentEventOf_applyMidtransWebhook_of_ne {order : String}
    (h : order ≠ call.notification.orderId) :
    (applyMidtransWebhook db call).2.paymentEventOf order = db.paymentEventOf order := by
  have hupdate : ∀ (event : PaymentEvent) (f : PaymentEvent → PaymentEvent)
      (hid : ∀ e, (f e).id = e.id) (horder : ∀ e, (f e).providerOrderId = e.providerOrderId),
      db.paymentEventOf call.notification.orderId = some event →
        (db.updatePaymentEvent event.id f hid horder).paymentEventOf order =
          db.paymentEventOf order := by
    intro event f hid horder hfound
    rw [db.paymentEventOf_updatePaymentEvent hfound, if_neg h]
  have hstep := applyMidtransWebhook_step db call
  generalize applyMidtransWebhook db call = result at hstep
  obtain ⟨outcome, after⟩ := result
  cases hstep with
  | unknownOrder => rfl
  | alreadyPaid => rfl
  | alreadyClosed event hfound =>
      exact hupdate event _ (fun e => e.id_noted _) (fun e => e.providerOrderId_noted _) hfound
  | closes event hfound =>
      exact hupdate event _ (fun e => e.id_closed _ _) (fun e => e.providerOrderId_closed _ _)
        hfound
  | notANumber => rfl
  | underpaid => rfl
  | paid event amount hfound => exact (paymentEventOf_credited hfound order).trans (if_neg h)
  | failed => rfl

/-- The period of a user ends later only by a webhook for one of the user's events. -/
theorem periodEndOf_applyMidtransWebhook_of_ne {user : ℤ}
    (h : ∀ event, db.paymentEventOf call.notification.orderId = some event →
      event.telegramUserId ≠ user) :
    (applyMidtransWebhook db call).2.periodEndOf user = db.periodEndOf user := by
  have hstep := applyMidtransWebhook_step db call
  generalize applyMidtransWebhook db call = result at hstep
  obtain ⟨outcome, after⟩ := result
  cases hstep with
  | unknownOrder => rfl
  | alreadyPaid => rfl
  | alreadyClosed => rfl
  | closes => rfl
  | notANumber => rfl
  | underpaid => rfl
  | paid event amount hfound =>
      exact (periodEndOf_credited user).trans (if_neg (h event hfound).symm)
  | failed => rfl

end Webhooks

/-- **Orders never share an id**, whatever the users and the times, before 1970 or after: ids are
equal only for the same user and the same millisecond.  A webhook for the order of a user finds an
event of that user or none, and it leaves the events and the period of every other user as they
are. -/
theorem order_ids_never_collide (user createdAt : ℤ) :
    (∀ user' createdAt', buildMidtransOrderId user createdAt =
        buildMidtransOrderId user' createdAt' ↔
          user = user' ∧ timestampMillis createdAt = timestampMillis createdAt') ∧
      ∀ (db : Database) (call : WebhookCall), db.OwnOrderIds →
        call.notification.orderId = buildMidtransOrderId user createdAt →
          (∀ event, db.paymentEventOf call.notification.orderId = some event →
            event.telegramUserId = user) ∧
          ∀ other, other ≠ user →
            (∀ event ∈ db.paymentEvents, event.telegramUserId = other →
              event ∈ (applyMidtransWebhook db call).2.paymentEvents) ∧
            (applyMidtransWebhook db call).2.periodEndOf other = db.periodEndOf other := by
  refine ⟨fun user' createdAt' => buildMidtransOrderId_inj, ?_⟩
  intro db call hown hcall
  have hcallUser : IsOrderIdOf user call.notification.orderId := ⟨createdAt, hcall⟩
  have hfound : ∀ event, db.paymentEventOf call.notification.orderId = some event →
      event.telegramUserId = user := by
    intro event hevent
    obtain ⟨hmem, hid⟩ := db.mem_of_paymentEventOf hevent
    have hevent := hown event hmem
    rw [hid] at hevent
    exact hevent.eq hcallUser
  refine ⟨hfound, fun other hother => ⟨?_, ?_⟩⟩
  · rintro event hevent rfl
    have hne : event.providerOrderId ≠ call.notification.orderId := by
      intro hid
      have huser := hown event hevent
      rw [hid] at huser
      exact hother (huser.eq hcallUser)
    have hread : (applyMidtransWebhook db call).2.paymentEventOf event.providerOrderId =
        db.paymentEventOf event.providerOrderId := paymentEventOf_applyMidtransWebhook_of_ne hne
    rw [db.paymentEventOf_eq_some_iff.2 ⟨hevent, rfl⟩] at hread
    exact ((applyMidtransWebhook db call).2.mem_of_paymentEventOf hread).1
  · refine periodEndOf_applyMidtransWebhook_of_ne ?_
    intro event hevent huser
    exact hother (huser.symm.trans (hfound event hevent))

/-- The order of a group, whose id is negative, in the same millisecond. -/
def groupEvent : PaymentEvent :=
  { pendingEvent with
    id := 2
    telegramUserId := -12345
    chatId := -12345
    providerOrderId := "hb--12345-1777111200000" }

def twoPayersDatabase : Database :=
  { pendingDatabase with
    paymentEvents := [pendingEvent, groupEvent]
    paymentEvents_id := by decide
    paymentEvents_providerOrderId := by decide }

/-- The settlement of a user's order reaches that user's event, and leaves the other one alone. -/
theorem order_ids_never_collide_settled :
    settledCall.notification.orderId = buildMidtransOrderId 12345 1777111200000000 ∧
      (∀ event, twoPayersDatabase.paymentEventOf settledCall.notification.orderId = some event →
        event.telegramUserId = 12345) ∧
      groupEvent ∈ (applyMidtransWebhook twoPayersDatabase settledCall).2.paymentEvents ∧
      (applyMidtransWebhook twoPayersDatabase settledCall).2.periodEndOf (-12345) =
        twoPayersDatabase.periodEndOf (-12345) := by
  have hid : settledCall.notification.orderId = buildMidtransOrderId 12345 1777111200000000 := by
    decide +kernel
  have hown : twoPayersDatabase.OwnOrderIds := by
    intro event hevent
    rcases List.mem_pair.1 hevent with rfl | rfl
    · exact ⟨1777111200000000, hid⟩
    · exact ⟨1777111200000000, by decide +kernel⟩
  obtain ⟨huser, hothers⟩ := (order_ids_never_collide 12345 1777111200000000).2 twoPayersDatabase
    settledCall hown hid
  obtain ⟨hevents, hperiod⟩ := hothers (-12345) (by decide)
  exact ⟨hid, huser, hevents groupEvent (List.mem_pair.2 (Or.inr rfl)) rfl, hperiod⟩

/-! ### Every run -/

/-- Every order has an id of its own user. -/
def PaymentWorld.OwnOrderIds (w : PaymentWorld) : Prop :=
  ∀ bill ∈ w.bills, IsOrderIdOf bill.telegramUserId bill.orderId

theorem PaymentWorld.OwnOrderIds.tapHandler {midtrans : Option MidtransClient}
    {replies : TelegramUpdate → TapReplies} (update : TelegramUpdate) {w : PaymentWorld}
    (h : w.OwnOrderIds) : (exec (Gt06.tapHandler midtrans replies update) w).2.OwnOrderIds := by
  rcases tapHandler_cases midtrans replies update w with
    hsame | ⟨callbackQuery, checkout, w₁, -, hstored, hexec⟩
  · rw [hsame]
    exact h
  · rw [hexec]
    intro bill hbill
    rw [bills_finishCheckout, hstored.bills.1] at hbill
    rcases List.mem_append.1 hbill with hold | hnew
    · exact h bill hold
    · rw [List.mem_singleton.1 hnew]
      exact ⟨checkout.createdAt, (prepareCheckout_ok hstored.prepared).2⟩

/-- The rows of every run have ids of their users. -/
theorem ownOrderIds_run {batch : UpdateBatch} {w : PaymentWorld} (hw : w.OwnOrderIds)
    {tr : List (Polling PaymentWorld × TapEvent)} {p : Polling PaymentWorld}
    (run : Run tapStep (batch.start w) tr p) : p.rest.OwnOrderIds := by
  have hclose : ∀ (w : PaymentWorld) orderId status, w.OwnOrderIds →
      (w.closeOrder orderId status).OwnOrderIds := by
    intro w orderId status h bill hbill
    rw [bills_closeOrder] at hbill
    exact h bill hbill
  have hhandlers : ∀ event : TapEvent, event.HandlersKeep PaymentWorld.OwnOrderIds := by
    intro event
    cases event with
    | arrive update => trivial
    | poll midtrans calls replies => exact fun update w h => h.tapHandler update
    | webhook orderId status => trivial
  exact (Run.invariant (I := fun p => p.rest.OwnOrderIds) (G := fun _ _ => True)
    (fun _ event _ h _ hstep => invariant_tapStep hclose (hhandlers event) hstep h) hw run
    fun _ _ => trivial).2

end Gt06
