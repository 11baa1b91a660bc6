/-
**The lines of an invoice add up.**

The provider refuses a transaction whose items do not add up to its amount.  The amount is that of a
quote, which `subscription_maintenance.rs` adds up from the price of the plan and three fees; the
items are drawn up in `midtrans.rs`, from the same parts, but in a shape that depends on how large
the price is.  A row with the amount is stored before the provider is asked.

Main definitions:

* `Gt06.MidtransSnapRequest.AddsUp` — the items of a request and its amount;
* `Gt06.PaymentOrder.bill` — what a row bills, and to whom;
* `Gt06.Invoiced` — every transaction adds up, and belongs to a row with its amount.

Main results:

* `Gt06.checkout_adds_up` — **the items of an invoice add up to its amount, which is the one that is
  stored, and each has a positive price**;
* `Gt06.invoiced_run` — **and so it is for the transactions of every run**.
-/

import Gt06Server.CallbackData
import Gt06Server.PaymentTap

set_option relaxedAutoImplicit false
set_option autoImplicit false

namespace Gt06

open Relational Await

/-! ### Quotes -/

theorem exists_of_bind_ok {ε α β : Type} {x : Except ε α} {f : α → Except ε β} {b : β}
    (h : x >>= f = .ok b) : ∃ a, x = .ok a ∧ f a = .ok b := by
  cases x with
  | error error => cases h
  | ok a => exact ⟨a, rfl, h⟩

/-- No device row has a shipment fee below zero. -/
def QuoteQueries.ShipmentFeesNonneg {ε : Type} (queries : QuoteQueries ε) : Prop :=
  ∀ row, queries.deviceRow = .ok (some row) → ∀ fee ∈ row.shipmentFeeIdr, 0 ≤ fee

/-- The parts of a quote for a price. -/
structure SubscriptionPaymentQuote.For (quote : SubscriptionPaymentQuote) (planPriceIdr : ℤ) :
    Prop where
  base : quote.baseAmountIdr = planPriceIdr
  customerReference : 0 ≤ quote.customerReferenceFeeIdr
  shipment : 0 ≤ quote.shipmentFeeIdr
  fine : 0 ≤ quote.fineAmountIdr
  total : quote.totalAmountIdr = quote.baseAmountIdr + quote.customerReferenceFeeIdr +
    quote.shipmentFeeIdr + quote.fineAmountIdr

theorem quote_for {ε : Type} {queries : QuoteQueries ε} {planPriceIdr now : ℤ}
    {quote : SubscriptionPaymentQuote} (hfees : queries.ShipmentFeesNonneg)
    (h : buildSubscriptionPaymentQuote queries planPriceIdr now = .ok quote) :
    quote.For planPriceIdr := by
  unfold buildSubscriptionPaymentQuote at h
  obtain ⟨deviceRow, hdevice, h⟩ := exists_of_bind_ok h
  have hshipment : 0 ≤ (deviceRow.bind QuoteDeviceRow.shipmentFeeIdr).getD 0 := by
    cases hfee : deviceRow.bind QuoteDeviceRow.shipmentFeeIdr with
    | none => exact le_rfl
    | some fee =>
        obtain ⟨row, rfl, hrow⟩ := Option.bind_eq_some_iff.1 hfee
        exact hfees row hdevice fee hrow
  have hreference : ∀ referenced : Bool,
      0 ≤ if referenced = true then customerReferencedDeviceFeeIdr else 0 := by decide
  have hpaid : ∀ paid : Bool,
      0 ≤ if paid = true then 0 else (deviceRow.bind QuoteDeviceRow.shipmentFeeIdr).getD 0 := by
    intro paid
    split
    · exact le_rfl
    · exact hshipment
  -- the device may be missing, and then no payment for it is looked up
  dsimp only at h
  split at h
  all_goals
    obtain ⟨paid, -, h⟩ := exists_of_bind_ok h
    obtain ⟨subscriptionRow, -, h⟩ := exists_of_bind_ok h
    rw [← Except.ok.inj h]
    exact ⟨rfl, hreference _, hpaid paid, (fineAmountForOverdueDays_mem _).1, rfl⟩

/-! ### Invoices -/

def MidtransSnapRequest.AddsUp (request : MidtransSnapRequest) : Prop :=
  (request.itemDetails.map MidtransItemDetail.amount).sum = request.grossAmount

/-- The items of a positive base amount have positive prices. -/
theorem price_pos_of_mem_itemDetails {plan : SubscriptionPlan}
    {effectiveBaseAmountIdr shipmentFeeIdr fineAmountIdr : ℤ} (hbase : 0 < effectiveBaseAmountIdr)
    {item : MidtransItemDetail}
    (h : item ∈ itemDetails plan effectiveBaseAmountIdr shipmentFeeIdr fineAmountIdr) :
    0 < item.price := by
  have hif : ∀ {fee : ℤ} {id name : String},
      item ∈ (if fee > 0 then [⟨id, fee, 1, name⟩] else []) → 0 < item.price := by
    intro fee id name hitem
    split at hitem
    · next hpos => rw [List.mem_singleton.1 hitem]; exact hpos
    · cases hitem
  unfold itemDetails at h
  rw [List.mem_append, List.mem_append] at h
  rcases h with (hplan | hfine) | hshipment
  · unfold SubscriptionPlan.itemDetails at hplan
    split at hplan
    · rw [List.mem_append] at hplan
      rcases hplan with hfixed | hremainder
      · simp only [List.mem_cons, List.not_mem_nil, or_false] at hfixed
        rcases hfixed with rfl | rfl | rfl
        · decide
        · decide
        · decide
      · exact hif hremainder
    · rw [List.mem_singleton.1 hplan]
      exact hbase
  · exact hif hfine
  · exact hif hshipment

section Checkouts

variable {midtrans : Option MidtransClient} {replies : TapReplies} {telegramUserId : ℤ}
  {checkout : Checkout}

/-- Where the amounts and the id of a checkout come from. -/
theorem prepareCheckout_ok
    (h : prepareCheckout midtrans replies telegramUserId = .ok checkout) :
    buildSubscriptionPaymentQuote replies.quote checkout.plan.priceIdr checkout.createdAt =
        .ok checkout.quote ∧
      checkout.orderId = buildMidtransOrderId telegramUserId checkout.createdAt := by
  unfold prepareCheckout at h
  obtain ⟨client, -, h⟩ := exists_of_bind_ok h
  obtain ⟨found, -, h⟩ := exists_of_bind_ok h
  obtain ⟨user, -, h⟩ := exists_of_bind_ok h
  obtain ⟨boundDevice, -, h⟩ := exists_of_bind_ok h
  obtain ⟨plan, -, h⟩ := exists_of_bind_ok h
  obtain ⟨quote, hquote, h⟩ := exists_of_bind_ok h
  rw [← Except.ok.inj h]
  exact ⟨hquote, rfl⟩

theorem request_addsUp (hquote : checkout.quote.For checkout.plan.priceIdr) :
    checkout.request.AddsUp := by
  have hsum := sum_itemDetails checkout.plan
    (checkout.quote.baseAmountIdr + checkout.quote.customerReferenceFeeIdr)
    checkout.quote.shipmentFeeIdr checkout.quote.fineAmountIdr
  rw [max_eq_left hquote.fine, max_eq_left hquote.shipment] at hsum
  refine hsum.trans ?_
  change _ = checkout.quote.totalAmountIdr
  rw [hquote.total]
  ring

/-- The row that is stored for a checkout. -/
theorem of_order_eq_some {updateId chatId : ℤ} {order : PaymentOrder}
    (h : checkout.order updateId telegramUserId chatId = some order) :
    order.telegramUserId = telegramUserId ∧ order.providerOrderId = checkout.orderId ∧
      order.grossAmountIdr = checkout.request.grossAmount := by
  unfold Checkout.order at h
  split at h
  · obtain rfl := Option.some.inj h
    exact ⟨rfl, rfl, rfl⟩
  · cases h

/-- **The items of an invoice add up to its amount**, which is the amount of the row that is stored
for it.  With a positive price of the plan no item is for free.  When the price and the amount fit
the type of the amounts, so does every sum on the way. -/
theorem checkout_adds_up (hfees : replies.quote.ShipmentFeesNonneg)
    (hcheckout : prepareCheckout midtrans replies telegramUserId = .ok checkout) :
    (checkout.request.itemDetails.map fun item => item.price * item.quantity).sum =
        checkout.request.grossAmount ∧
      (∀ updateId chatId order,
        checkout.order updateId telegramUserId chatId = some order →
          order.grossAmountIdr = checkout.request.grossAmount) ∧
      (0 < checkout.plan.priceIdr → ∀ item ∈ checkout.request.itemDetails, 0 < item.price) ∧
      (FitsI64 checkout.plan.priceIdr → FitsI64 checkout.request.grossAmount →
        FitsI64 (checkout.plan.priceIdr + checkout.quote.customerReferenceFeeIdr) ∧
          FitsI64 (checkout.plan.priceIdr + checkout.quote.customerReferenceFeeIdr +
            checkout.quote.shipmentFeeIdr)) := by
  have hquote := quote_for hfees (prepareCheckout_ok hcheckout).1
  refine ⟨request_addsUp hquote, ?_, ?_, ?_⟩
  · intro updateId chatId order horder
    exact (of_order_eq_some horder).2.2
  · intro hprice item hitem
    refine price_pos_of_mem_itemDetails ?_ hitem
    have hbase := hquote.base
    have hreference := hquote.customerReference
    omega
  · intro hprice hgross
    -- every fee only adds to the price, so the sums lie between the price and the amount
    have htotal : checkout.request.grossAmount = _ := hquote.total
    rw [htotal, hquote.base] at hgross
    have hreference := hquote.customerReference
    have hshipment := hquote.shipment
    have hfine := hquote.fine
    unfold FitsI64 at hprice hgross ⊢
    omega

end Checkouts

/-- A customer brought the device, which is still to be sent out. -/
def referencedReplyAt (now : ℤ) : TapReplies :=
  { replyAt now with
    quote := {
      deviceRow := .ok (some ⟨some 1, true, some 25000⟩)
      paidPaymentExists := fun _ => .ok false
      subscriptionRow := .ok none } }

/-- A price that the fee for the customer just lifts to the breakdown total. -/
theorem checkout_adds_up_referenced :
    ∃ checkout, prepareCheckout (some midtransDefaults) (referencedReplyAt 0) 5 = .ok checkout ∧
      (checkout.request.itemDetails.map fun item => item.price * item.quantity).sum = 70000 := by
  have hfees : (referencedReplyAt 0).quote.ShipmentFeesNonneg := by
    intro row hrow fee hfee
    obtain rfl := Option.some.inj (Except.ok.inj hrow)
    obtain rfl := Option.some.inj hfee
    decide
  obtain ⟨checkout, hcheckout, hgross⟩ :
      ∃ checkout, prepareCheckout (some midtransDefaults) (referencedReplyAt 0) 5 = .ok checkout ∧
        checkout.request.grossAmount = 70000 := ⟨_, rfl, rfl⟩
  exact ⟨checkout, hcheckout, (checkout_adds_up hfees hcheckout).1.trans hgross⟩

/-! ### Every run -/

/-- What nothing changes about a row once it is stored. -/
structure Bill where
  telegramUserId : ℤ
  orderId : String
  amountIdr : ℤ

def PaymentOrder.bill (order : PaymentOrder) : Bill :=
  ⟨order.telegramUserId, order.providerOrderId, order.grossAmountIdr⟩

def PaymentWorld.bills (w : PaymentWorld) : List Bill := w.orders.map PaymentOrder.bill

theorem bills_updateOrder {w : PaymentWorld} {orderId : String} {f : PaymentOrder → PaymentOrder}
    (hf : ∀ order, (f order).providerOrderId = order.providerOrderId)
    (hbill : ∀ order, (f order).bill = order.bill) :
    (w.updateOrder orderId f hf).bills = w.bills :=
  map_updateAt hbill PaymentOrder.providerOrderId orderId w.orders

theorem bills_closeOrder (w : PaymentWorld) (orderId : String) (status : PaymentStatus) :
    (w.closeOrder orderId status).bills = w.bills := by
  refine bills_updateOrder _ ?_
  exact fun _ => rfl

theorem bills_finishCheckout {replies : TapReplies} {updateId : ℤ} (checkout : Checkout)
    (w : PaymentWorld) :
    (exec (finishCheckout replies updateId checkout) w).2.bills = w.bills := by
  refine finishCheckout_keeps (g := PaymentWorld.bills) checkout (fun _ _ => rfl) ?_
  intro w created
  refine bills_updateOrder _ ?_
  exact fun _ => rfl

/-- What a delivery bills: nothing, or what its checkout comes to. -/
theorem CheckoutStored.bills {midtrans : Option MidtransClient} {replies : TapReplies}
    {updateId : ℤ} {callbackQuery : TelegramCallbackQuery} {checkout : Checkout}
    {w w₁ : PaymentWorld}
    (h : CheckoutStored midtrans replies updateId callbackQuery checkout w w₁) :
    w₁.bills = w.bills ++
        [⟨callbackQuery.fromId, checkout.orderId, checkout.request.grossAmount⟩] ∧
      w₁.transactions = w.transactions := by
  obtain ⟨message, order, -, horder, hinsert⟩ := h.inserted
  obtain ⟨horders, htransactions⟩ := PaymentWorld.insert_eq_some hinsert
  obtain ⟨huser, hid, hamount⟩ := of_order_eq_some horder
  refine ⟨?_, htransactions⟩
  rw [PaymentWorld.bills, horders, List.map_append, List.map_singleton, PaymentOrder.bill, huser,
    hid, hamount]
  rfl

/-- The handlers of a poll keep `I`. -/
def TapEvent.HandlersKeep (I : PaymentWorld → Prop) : TapEvent → Prop
  | .poll midtrans _ replies =>
      ∀ update w, I w → I (exec (tapHandler midtrans replies update) w).2
  | _ => True

/-- What the handlers and the webhooks keep, every event keeps. -/
theorem invariant_tapStep {I : PaymentWorld → Prop}
    (hclose : ∀ w orderId status, I w → I (w.closeOrder orderId status))
    {p p' : Polling PaymentWorld} {event : TapEvent} (hhandlers : event.HandlersKeep I)
    (hstep : tapStep p event = some p') (h : I p.rest) : I p'.rest := by
  cases event with
  | arrive update =>
      simp only [tapStep, Polling.step, Option.ite_none_right_eq_some] at hstep
      obtain rfl := Option.some.inj hstep.2
      exact h
  | poll midtrans calls replies =>
      obtain rfl := Option.some.inj hstep
      exact rest_poll hhandlers h
  | webhook orderId status =>
      obtain rfl := Option.some.inj hstep
      exact hclose p.rest orderId status h

/-- Every transaction adds up, and there is a row for it that bills its amount. -/
def Invoiced (w : PaymentWorld) : Prop :=
  ∀ transaction ∈ w.transactions, transaction.request.AddsUp ∧
    ∃ bill ∈ w.bills, bill.orderId = transaction.request.orderId ∧
      bill.amountIdr = transaction.request.grossAmount

/-- The replies of a poll have no shipment fee below zero. -/
def TapEvent.ShipmentFeesNonneg : TapEvent → Prop
  | .poll _ _ replies => ∀ update, (replies update).quote.ShipmentFeesNonneg
  | _ => True

theorem Invoiced.tapHandler {midtrans : Option MidtransClient}
    {replies : TelegramUpdate → TapReplies}
    (hfees : ∀ update, (replies update).quote.ShipmentFeesNonneg) (update : TelegramUpdate)
    {w : PaymentWorld} (h : Invoiced w) :
    Invoiced (exec (Gt06.tapHandler midtrans replies update) w).2 := by
  rcases tapHandler_cases midtrans replies update w with
    hsame | ⟨callbackQuery, checkout, w₁, -, hstored, hexec⟩
  · rw [hsame]
    exact h
  · obtain ⟨hbills, htransactions⟩ := hstored.bills
    have hadds : checkout.request.AddsUp :=
      request_addsUp (quote_for (hfees update) (prepareCheckout_ok hstored.prepared).1)
    rw [hexec]
    intro transaction htransaction
    rw [bills_finishCheckout, hbills]
    rw [transactions_finishCheckout, htransactions] at htransaction
    have hcases : transaction ∈ w.transactions ∨
        transaction = ⟨update.updateId, checkout.request⟩ := by
      split at htransaction
      · exact (List.mem_append.1 htransaction).imp_right List.mem_singleton.1
      · exact .inl htransaction
    rcases hcases with hold | rfl
    · obtain ⟨hsum, bill, hbill, hid⟩ := h transaction hold
      exact ⟨hsum, bill, List.mem_append_left _ hbill, hid⟩
    · exact ⟨hadds, _, List.mem_append_right _ (List.mem_singleton_self _), rfl, rfl⟩

/-- **The transactions of every run add up**, each to the amount of the row that was stored for
it. -/
theorem invoiced_run {batch : UpdateBatch} {w : PaymentWorld} (hw : w.transactions = [])
    {tr : List (Polling PaymentWorld × TapEvent)} {p : Polling PaymentWorld}
    (run : Run tapStep (batch.start w) tr p) (hfees : ∀ e ∈ tr, e.2.ShipmentFeesNonneg) :
    Invoiced p.rest := by
  have hclose : ∀ w orderId status, Invoiced w → Invoiced (w.closeOrder orderId status) := by
    intro w orderId status h transaction htransaction
    rw [bills_closeOrder]
    exact h transaction htransaction
  have hhandlers : ∀ event : TapEvent, event.ShipmentFeesNonneg →
      event.HandlersKeep Invoiced := by
    intro event hevent
    cases event with
    | arrive update => trivial
    | poll midtrans calls replies => exact fun update w h => h.tapHandler hevent update
    | webhook orderId status => trivial
  have hstart : Invoiced (batch.start w).rest := by
    intro transaction htransaction
    rw [show (batch.start w).rest.transactions = [] from hw] at htransaction
    cases htransaction
  exact (Run.invariant (I := fun p => Invoiced p.rest)
    (fun _ event _ h hevent hstep =>
      invariant_tapStep hclose (hhandlers event hevent) hstep h) hstart run hfees).2

end Gt06
