/-
**The shipment fee.**

A device may carry a fee for its shipment, which is to be charged once.  A tap on the button that
subscribes asks whether the device has been paid for, and puts the fee into the amount of its
order when it has not.  The amount is fixed with the order; whether the device has been paid for is
decided later, by webhooks, and a user may have several orders to choose from.

Main definitions:

* `Gt06.Registry` — who is bound to which device, which payments do not change;
* `Gt06.ChargeWorld` — the payment tables, with the quote each order was stored for;
* `Gt06.SubscribeRequest`, `Gt06.ChargeWorld.answer` — the requests of a tap and their answers;
* `Gt06.handleSubscribeAction` — a tap;
* `Gt06.FeeInv` — at most one paid order with the fee, and none that could become another;
* `Gt06.feeNotPending` — no tap asks whether a device has been paid for while an order that
  charges the fee is waiting for its payment.

Main results:

* `Gt06.shipment_fee_charged_once` — **taps that keep the condition charge the fee once, with the
  first payment**;
* `Gt06.two_links_charge_twice` — two links that are both paid.
-/

import Gt06Server.ChatRequests
import Gt06Server.MidtransLedger
import Gt06Server.PaymentTap

set_option relaxedAutoImplicit false
set_option autoImplicit false

namespace Gt06

open Relational Await

/-! ### Devices and their users -/

/-- A row of `devices`, as far as payments read it. -/
structure PricedDevice where
  id : ℤ
  imei : String
  pricingTier : String
  referencedByCustomerId : Option ℤ
  shipmentFeeIdr : Option ℤ
  deriving DecidableEq, Repr

/-- Who is bound to which device. -/
structure Registry where
  telegramUsers : List TelegramUserRow
  devices : List PricedDevice
  telegramUsers_telegramUserId : UniqueOn TelegramUserRow.telegramUserId telegramUsers
  devices_id : UniqueOn PricedDevice.id devices
  devices_imei : UniqueOn PricedDevice.imei devices

namespace Registry

variable (registry : Registry)

/-- `SELECT … FROM devices WHERE imei = $1 LIMIT 1`. -/
def deviceOf (imei : String) : Option PricedDevice := rowAt PricedDevice.imei imei registry.devices

/-- The device of the `LEFT JOIN` of a quote. -/
def boundDeviceOf (user : TelegramUserRow) : Option PricedDevice :=
  user.boundImei.bind registry.deviceOf

def quoteDeviceRow (telegramUserId : ℤ) : Option QuoteDeviceRow :=
  (rowAt TelegramUserRow.telegramUserId telegramUserId registry.telegramUsers).map fun user =>
    { id := (registry.boundDeviceOf user).map PricedDevice.id
      hasCustomerReferencedDevice :=
        ((registry.boundDeviceOf user).bind PricedDevice.referencedByCustomerId).isSome
      shipmentFeeIdr := (registry.boundDeviceOf user).bind PricedDevice.shipmentFeeIdr }

/-- The device has a fee. -/
def HasFee (deviceId : ℤ) : Prop :=
  ∃ device ∈ registry.devices, device.id = deviceId ∧ ∃ fee ∈ device.shipmentFeeIdr, 0 < fee

end Registry

/-! ### Orders -/

/-- The columns of an order that only its tap writes, and the quote it was stored for. -/
structure OrderColumns where
  providerOrderId : String
  deviceId : Option ℤ
  imei : String
  expiresAt : ℤ
  quote : SubscriptionPaymentQuote
  deriving DecidableEq, Repr

/-- The fee is part of the amount. -/
def OrderColumns.ChargesFee (order : OrderColumns) : Prop := 0 < order.quote.shipmentFeeIdr

instance (order : OrderColumns) : Decidable order.ChargesFee :=
  inferInstanceAs (Decidable (_ < _))

/-- The payment tables: each row of `telegram_payment_events` is in two parts. -/
structure ChargeWorld where
  now : ℤ
  db : Database
  orders : List OrderColumns
  lastPaymentEventId : ℤ
  orders_providerOrderId : orders.map OrderColumns.providerOrderId =
    db.paymentEvents.map PaymentEvent.providerOrderId
  paymentEvents_id_le : ∀ id ∈ db.paymentEvents.map PaymentEvent.id, id ≤ lastPaymentEventId

namespace ChargeWorld

variable (w : ChargeWorld)

/-- The order is an order of the device and has the status. -/
def HasStatus (deviceId : ℤ) (status : PaymentStatus) (order : OrderColumns) : Prop :=
  order ∈ w.orders ∧ order.deviceId = some deviceId ∧
    w.db.statusOf order.providerOrderId = some status

instance (deviceId : ℤ) (status : PaymentStatus) (order : OrderColumns) :
    Decidable (w.HasStatus deviceId status order) := inferInstanceAs (Decidable (_ ∧ _))

/-- `SELECT EXISTS (… WHERE device_id = $1 AND payment_status = 'paid')`. -/
def paidPaymentExists (deviceId : ℤ) : Bool :=
  w.orders.any fun order => w.HasStatus deviceId .paid order

theorem paidPaymentExists_iff (deviceId : ℤ) :
    w.paidPaymentExists deviceId = true ↔ ∃ order, w.HasStatus deviceId .paid order := by
  simp only [paidPaymentExists, List.any_eq_true, decide_eq_true_iff]
  constructor
  · rintro ⟨order, -, horder⟩
    exact ⟨order, horder⟩
  · rintro ⟨order, horder⟩
    exact ⟨order, horder.1, horder⟩

/-- The rows change in columns other than the keys. -/
def withDatabase (db : Database)
    (horder : db.paymentEvents.map PaymentEvent.providerOrderId =
      w.db.paymentEvents.map PaymentEvent.providerOrderId)
    (hid : db.paymentEvents.map PaymentEvent.id = w.db.paymentEvents.map PaymentEvent.id) :
    ChargeWorld :=
  { w with
    db := db
    orders_providerOrderId := w.orders_providerOrderId.trans horder.symm
    paymentEvents_id_le := hid ▸ w.paymentEvents_id_le }

/-- The row that a tap stores. -/
def pendingEvent (telegramUserId chatId : ℤ) (checkout : Checkout)
    (h : 0 < checkout.quote.totalAmountIdr) : PaymentEvent where
  id := w.lastPaymentEventId + 1
  telegramUserId := telegramUserId
  chatId := chatId
  subscriptionId := none
  paymentStatus := .pending
  planCode := checkout.plan.planCode
  grossAmountIdr := checkout.quote.totalAmountIdr
  periodDays := midtransPeriodDays
  providerOrderId := checkout.orderId
  providerTransactionId := none
  paymentType := none
  paidAt := none
  rawWebhookNotification := none
  grossAmountIdr_pos := h
  periodDays_pos := by decide

end ChargeWorld

/-- The other columns of the row. -/
def Checkout.columns (checkout : Checkout) : OrderColumns where
  providerOrderId := checkout.orderId
  deviceId := some checkout.boundDevice.id
  imei := checkout.boundDevice.imei
  expiresAt := checkout.expiresAt
  quote := checkout.quote

/-- What `mark_midtrans_payment_created` writes. -/
def PaymentEvent.created (event : PaymentEvent) (created : MidtransCreatedPayment) :
    PaymentEvent :=
  { event with
    providerTransactionId := created.transactionId
    paymentType := created.paymentType }

@[simp] theorem PaymentEvent.id_created (event : PaymentEvent) (created : MidtransCreatedPayment) :
    (event.created created).id = event.id := rfl

@[simp] theorem PaymentEvent.providerOrderId_created (event : PaymentEvent)
    (created : MidtransCreatedPayment) :
    (event.created created).providerOrderId = event.providerOrderId := rfl

namespace Database

variable (db : Database)

/-- `INSERT`, for a row whose keys are new. -/
def insertPaymentEvent (event : PaymentEvent) (hid : ∀ e ∈ db.paymentEvents, e.id ≠ event.id)
    (horder : ∀ e ∈ db.paymentEvents, e.providerOrderId ≠ event.providerOrderId) : Database :=
  { db with
    paymentEvents := db.paymentEvents ++ [event]
    paymentEvents_id := db.paymentEvents_id.append hid
    paymentEvents_providerOrderId := db.paymentEvents_providerOrderId.append horder }

/-- `UPDATE telegram_payment_events … WHERE provider_order_id = $1`. -/
def markCreated (created : MidtransCreatedPayment) : Database :=
  match db.paymentEventOf created.orderId with
  | some event =>
      db.updatePaymentEvent event.id (fun e => e.created created) (fun e => e.id_created _)
        fun e => e.providerOrderId_created _
  | none => db

theorem map_updatePaymentEvent {α : Type} (key : PaymentEvent → α) (id : ℤ)
    {f : PaymentEvent → PaymentEvent} (hid : ∀ e, (f e).id = e.id)
    (horder : ∀ e, (f e).providerOrderId = e.providerOrderId) (hkey : ∀ e, key (f e) = key e) :
    (db.updatePaymentEvent id f hid horder).paymentEvents.map key = db.paymentEvents.map key :=
  map_updateAt hkey _ _ _

theorem map_markCreated {α : Type} (key : PaymentEvent → α) (created : MidtransCreatedPayment)
    (hkey : ∀ e : PaymentEvent, key (e.created created) = key e) :
    (db.markCreated created).paymentEvents.map key = db.paymentEvents.map key := by
  unfold markCreated
  split
  · exact db.map_updatePaymentEvent key _ _ _ hkey
  · rfl

/-- A webhook leaves the keys alone, and whatever else it does not write. -/
theorem map_applyMidtransWebhook {α : Type} (key : PaymentEvent → α) (call : WebhookCall)
    (hnoted : ∀ e : PaymentEvent, key (e.noted call.notification) = key e)
    (hclosed : ∀ (e : PaymentEvent) status, key (e.closed call.notification status) = key e)
    (hsettled : ∀ (e : PaymentEvent) subscriptionId receivedAt,
      key (e.settled call.notification subscriptionId receivedAt) = key e) :
    (applyMidtransWebhook db call).2.paymentEvents.map key = db.paymentEvents.map key := by
  have hstep := applyMidtransWebhook_step db call
  generalize applyMidtransWebhook db call = applied at hstep
  obtain ⟨result, db'⟩ := applied
  cases hstep with
  | alreadyClosed event hfound hpaid hpending =>
      exact db.map_updatePaymentEvent key _ (fun e => e.id_noted _)
        (fun e => e.providerOrderId_noted _) hnoted
  | closes event hfound hstatus hmapped =>
      exact db.map_updatePaymentEvent key _ (fun e => e.id_closed _ _)
        (fun e => e.providerOrderId_closed _ _) fun e => hclosed e _
  | paid event amount hfound hstatus hmapped hamount henough =>
      have hkeys := db.map_updatePaymentEvent key event.id
        (fun e => e.id_settled call.notification (db.creditRecord call event).id call.receivedAt)
        (fun e => e.providerOrderId_settled _ _ _) fun e => hsettled e _ _
      rw [← hkeys]
      exact congrArg (List.map key) paymentEvents_credited
  | _ => rfl

end Database

namespace ChargeWorld

variable (w : ChargeWorld)

/-- `INSERT INTO telegram_payment_events`, which the check of the amount or the unique key may
refuse. -/
def insertOrder (telegramUserId chatId : ℤ) (checkout : Checkout) : Option ChargeWorld :=
  if h : 0 < checkout.quote.totalAmountIdr ∧
      ∀ e ∈ w.db.paymentEvents, e.providerOrderId ≠ checkout.orderId then
    some {
      now := w.now
      db := w.db.insertPaymentEvent (w.pendingEvent telegramUserId chatId checkout h.1)
        (fun e he => by
          have hle := w.paymentEvents_id_le e.id (List.mem_map_of_mem he)
          simp only [pendingEvent]
          omega) h.2
      orders := w.orders ++ [checkout.columns]
      lastPaymentEventId := w.lastPaymentEventId + 1
      orders_providerOrderId := by
        simp only [Database.insertPaymentEvent, List.map_append, w.orders_providerOrderId]
        rfl
      paymentEvents_id_le := by
        intro id hid
        simp only [Database.insertPaymentEvent, List.map_append, List.mem_append,
          List.map_cons, List.map_nil, List.mem_singleton] at hid
        rcases hid with hid | rfl
        · have hle := w.paymentEvents_id_le id hid
          omega
        · exact le_rfl }
  else none

def markMidtransPaymentCreated (created : MidtransCreatedPayment) : ChargeWorld :=
  w.withDatabase (w.db.markCreated created)
    (w.db.map_markCreated _ created fun _ => rfl) (w.db.map_markCreated _ created fun _ => rfl)

/-- A webhook of the payment provider. -/
def webhook (call : WebhookCall) : ChargeWorld :=
  w.withDatabase (applyMidtransWebhook w.db call).2
    (w.db.map_applyMidtransWebhook _ call (fun _ => rfl) (fun _ _ => rfl) fun _ _ _ => rfl)
    (w.db.map_applyMidtransWebhook _ call (fun _ => rfl) (fun _ _ => rfl) fun _ _ _ => rfl)

end ChargeWorld

/-! ### The requests of a tap -/

inductive SubscribeRequest where
  | fetchTelegramUserByUserId (telegramUserId : ℤ)
  | fetchBoundDevice (imei : String)
  | fetchPricingTier (imei : String)
  | utcNow
  | fetchQuoteDevice (telegramUserId : ℤ)
  | paidPaymentExists (deviceId : ℤ)
  | fetchCurrentPeriodEnd (telegramUserId : ℤ)
  | createPendingMidtransPayment (telegramUserId chatId : ℤ) (checkout : Checkout)
  | createSnapTransaction (request : MidtransSnapRequest)
  | markMidtransPaymentCreated (created : MidtransCreatedPayment)
  | answerCallbackQuery (callbackQueryId text : String)
  | sendPaymentLink (chatId : ℤ) (checkout : Checkout) (created : MidtransCreatedPayment)
  | clearInlineKeyboard (chatId messageId : ℤ)

namespace SubscribeRequest

abbrev Reply : SubscribeRequest → Type
  | .fetchTelegramUserByUserId _ => Option TelegramUserRecord
  | .fetchBoundDevice _ => Option BoundDeviceRecord
  | .fetchPricingTier _ => Option String
  | .utcNow => ℤ
  | .fetchQuoteDevice _ => Option QuoteDeviceRow
  | .paidPaymentExists _ => Bool
  | .fetchCurrentPeriodEnd _ => Option (Option ℤ)
  | .createSnapTransaction _ => SnapReply
  | _ => Unit

def canFail : SubscribeRequest → Bool
  | .utcNow => false
  -- the reply says how the call of the provider ended
  | .createSnapTransaction _ => false
  | _ => true

end SubscribeRequest

/-- What is left open about an answer. -/
structure SubscribeOutcome where
  fails : Bool
  snap : SnapReply

namespace ChargeWorld

variable (registry : Registry) (w : ChargeWorld)

/-- A request that does not fail on the way to the database. -/
def execute (outcome : SubscribeOutcome) : (r : SubscribeRequest) → Option r.Reply × ChargeWorld
  | .fetchTelegramUserByUserId telegramUserId =>
      (some (Gt06.fetchTelegramUserByUserId registry.telegramUsers telegramUserId), w)
  | .fetchBoundDevice imei =>
      (some ((registry.deviceOf imei).map fun device => ⟨device.id, device.imei⟩), w)
  | .fetchPricingTier imei => (some ((registry.deviceOf imei).map PricedDevice.pricingTier), w)
  | .utcNow => (some w.now, w)
  | .fetchQuoteDevice telegramUserId => (some (registry.quoteDeviceRow telegramUserId), w)
  | .paidPaymentExists deviceId => (some (w.paidPaymentExists deviceId), w)
  | .fetchCurrentPeriodEnd telegramUserId =>
      (some ((w.db.subscriptionOf telegramUserId).map Subscription.currentPeriodEndAt), w)
  | .createPendingMidtransPayment telegramUserId chatId checkout =>
      match w.insertOrder telegramUserId chatId checkout with
      | some w' => (some (), w')
      | none => (none, w)
  | .createSnapTransaction _ => (some outcome.snap, w)
  | .markMidtransPaymentCreated created => (some (), w.markMidtransPaymentCreated created)
  | .answerCallbackQuery _ _ => (some (), w)
  | .sendPaymentLink _ _ _ => (some (), w)
  | .clearInlineKeyboard _ _ => (some (), w)

def answer (outcome : SubscribeOutcome) (r : SubscribeRequest) : Option r.Reply × ChargeWorld :=
  if outcome.fails && r.canFail then (none, w) else w.execute registry outcome r

end ChargeWorld

/-! ### A tap -/

abbrev SubscribeM := Prog SubscribeRequest SubscribeRequest.Reply

abbrev askCharge (r : SubscribeRequest) : SubscribeM r.Reply := request r

/-- A value that has to be there. -/
def required {α : Type} : Option α → SubscribeM α
  | some a => .done a
  | none => .fail

def ensureBound (callbackQuery : TelegramCallbackQuery) : SubscribeM Bool := do
  let user ← askCharge (.fetchTelegramUserByUserId callbackQuery.fromId)
  let isBound := (user.map TelegramUserRecord.isBound).getD false
  if isBound then pure true
  else do
    askCharge (.answerCallbackQuery callbackQuery.id "Hubungkan perangkat dulu lewat /start ya.")
    pure false

def askBoundDevice (user : TelegramUserRecord) : SubscribeM BoundDeviceRecord := do
  let imei ← required user.boundImei
  let device ← askCharge (.fetchBoundDevice imei)
  required device

def askSubscriptionPlan (midtrans : MidtransClient) (user : TelegramUserRecord) :
    SubscribeM SubscriptionPlan := do
  let boundDevice ← askBoundDevice user
  let pricingTier ← askCharge (.fetchPricingTier boundDevice.imei)
  let pricingTier ← required pricingTier
  let tier ← required (PricingTier.parse pricingTier)
  pure (midtrans.subscriptionPlanForTier tier)

def askPaidPaymentExists (deviceRow : Option QuoteDeviceRow) : SubscribeM Bool :=
  match deviceRow.bind QuoteDeviceRow.id with
  | some deviceId => askCharge (.paidPaymentExists deviceId)
  | none => pure false

/-- The answers the quote is made of. -/
def answeredQueries (deviceRow : Option QuoteDeviceRow) (paid : Bool)
    (subscriptionRow : Option (Option ℤ)) : QuoteQueries Unit where
  deviceRow := .ok deviceRow
  paidPaymentExists := fun _ => .ok paid
  subscriptionRow := .ok subscriptionRow

def askQuote (telegramUserId planPriceIdr now : ℤ) : SubscribeM SubscriptionPaymentQuote := do
  let deviceRow ← askCharge (.fetchQuoteDevice telegramUserId)
  let paid ← askPaidPaymentExists deviceRow
  let subscriptionRow ← askCharge (.fetchCurrentPeriodEnd telegramUserId)
  let quote := buildSubscriptionPaymentQuote (answeredQueries deviceRow paid subscriptionRow)
    planPriceIdr now
  required quote.toOption

/-- What is known when the order is stored. -/
def askCheckout (midtrans : Option MidtransClient) (telegramUserId : ℤ) :
    SubscribeM Checkout := do
  let midtrans ← required midtrans
  let user ← askCharge (.fetchTelegramUserByUserId telegramUserId)
  let user ← required user
  let boundDevice ← askBoundDevice user
  let plan ← askSubscriptionPlan midtrans user
  let createdAt ← askCharge .utcNow
  let quote ← askQuote telegramUserId plan.priceIdr createdAt
  pure {
    midtrans := midtrans
    boundDevice := boundDevice
    plan := plan
    createdAt := createdAt
    orderId := buildMidtransOrderId telegramUserId createdAt
    expiresAt := createdAt + hours midtrans.expiryHours
    quote := quote }

/-- The calls behind the stored order. -/
def sendCheckout (callbackQuery : TelegramCallbackQuery) (message : TelegramMessage)
    (checkout : Checkout) : SubscribeM Unit := do
  let reply ← askCharge (.createSnapTransaction checkout.request)
  let created ← required (checkout.createdPayment reply).toOption
  askCharge (.markMidtransPaymentCreated created)
  askCharge (.answerCallbackQuery callbackQuery.id "")
  askCharge (.sendPaymentLink message.chatId checkout created)
  -- a keyboard that cannot be cleared is only logged
  let _ ← (askCharge (.clearInlineKeyboard message.chatId (message.messageId.getD 0))).attempt
  pure ()

def payCheckout (midtrans : Option MidtransClient) (callbackQuery : TelegramCallbackQuery)
    (message : TelegramMessage) : SubscribeM Unit := do
  let checkout ← askCheckout midtrans callbackQuery.fromId
  askCharge (.createPendingMidtransPayment callbackQuery.fromId message.chatId checkout)
  sendCheckout callbackQuery message checkout

/-- `handle_payment_action` for the action that subscribes. -/
def handleSubscribeAction (midtrans : Option MidtransClient)
    (callbackQuery : TelegramCallbackQuery) : SubscribeM Unit :=
  match callbackQuery.message with
  | none =>
      askCharge (.answerCallbackQuery callbackQuery.id
        "Buka chat bot-nya dulu lalu coba lagi ya.")
  | some message => do
      let isBound ← ensureBound callbackQuery
      if isBound then payCheckout midtrans callbackQuery message else pure ()

/-- What others do between two requests: time passes, and webhooks come. -/
inductive ChargeEvent where
  | tick (duration : ℕ)
  | webhook (call : WebhookCall)

def ChargeWorld.env (w : ChargeWorld) : ChargeEvent → ChargeWorld
  | .tick duration => { w with now := w.now + duration }
  | .webhook call => w.webhook call

/-- The taps of a bot among webhooks. -/
def chargeBot (registry : Registry) (midtrans : Option MidtransClient) :
    System SubscribeRequest SubscribeRequest.Reply ChargeWorld ChargeEvent SubscribeOutcome
      TelegramCallbackQuery where
  env := fun event w => some (w.env event)
  answer := fun outcome w r => w.answer registry outcome r
  main := handleSubscribeAction midtrans

/-! ### Statuses -/

namespace ChargeWorld

variable {w : ChargeWorld} {deviceId : ℤ}

theorem mem_paymentEvents_of_order {order : OrderColumns} (h : order ∈ w.orders) :
    ∃ event ∈ w.db.paymentEvents, event.providerOrderId = order.providerOrderId := by
  have hkey : order.providerOrderId ∈ w.orders.map OrderColumns.providerOrderId :=
    List.mem_map_of_mem h
  rw [w.orders_providerOrderId] at hkey
  exact List.mem_map.1 hkey

theorem HasStatus.unique {status status' : PaymentStatus} {order : OrderColumns}
    (h : w.HasStatus deviceId status order) (h' : w.HasStatus deviceId status' order) :
    status = status' := Option.some.inj (h.2.2.symm.trans h'.2.2)

@[simp] theorem orders_webhook (call : WebhookCall) : (w.webhook call).orders = w.orders := rfl

@[simp] theorem orders_markMidtransPaymentCreated (created : MidtransCreatedPayment) :
    (w.markMidtransPaymentCreated created).orders = w.orders := rfl

/-- A webhook moves the order it names, when it is pending. -/
theorem statusOf_webhook (call : WebhookCall) (orderId : String) :
    (w.webhook call).db.statusOf orderId = w.db.statusOf orderId ∨
      (orderId = call.notification.orderId ∧ w.db.statusOf orderId = some .pending) := by
  have hstep : WebhookStep w.db call (applyMidtransWebhook w.db call).1
      (w.webhook call).db := applyMidtransWebhook_step w.db call
  rcases hstep.statusOf orderId with hkept | ⟨horder, hpending, -⟩
  · exact Or.inl hkept
  · exact Or.inr ⟨horder, hpending⟩

theorem statusOf_markMidtransPaymentCreated (created : MidtransCreatedPayment)
    (orderId : String) :
    (w.markMidtransPaymentCreated created).db.statusOf orderId = w.db.statusOf orderId := by
  have hdb : (w.markMidtransPaymentCreated created).db = w.db.markCreated created := rfl
  rw [hdb, Database.markCreated]
  split
  · next event hfound =>
    rw [statusOf_updatePaymentEvent hfound]
    split
    · next horder =>
      rw [horder, Database.statusOf, hfound]
      rfl
    · rfl
  · rfl

/-- What has been paid stays paid. -/
theorem HasStatus.webhook {order : OrderColumns} (h : w.HasStatus deviceId .paid order)
    (call : WebhookCall) : (w.webhook call).HasStatus deviceId .paid order := by
  refine ⟨h.1, h.2.1, ?_⟩
  rcases statusOf_webhook (w := w) call order.providerOrderId with hkept | ⟨-, hpending⟩
  · exact hkept.trans h.2.2
  · exact absurd (h.2.2.symm.trans hpending) (by simp)

/-- An order with a status after a webhook had it before, or was the pending one it names. -/
theorem HasStatus.of_webhook {call : WebhookCall} {status : PaymentStatus} {order : OrderColumns}
    (h : (w.webhook call).HasStatus deviceId status order) :
    w.HasStatus deviceId status order ∨
      (order.providerOrderId = call.notification.orderId ∧
        w.HasStatus deviceId .pending order) := by
  rcases statusOf_webhook (w := w) call order.providerOrderId with hkept | ⟨horder, hpending⟩
  · exact Or.inl ⟨h.1, h.2.1, hkept.symm.trans h.2.2⟩
  · exact Or.inr ⟨horder, h.1, h.2.1, hpending⟩

theorem hasStatus_markMidtransPaymentCreated {created : MidtransCreatedPayment}
    {status : PaymentStatus} {order : OrderColumns} :
    (w.markMidtransPaymentCreated created).HasStatus deviceId status order ↔
      w.HasStatus deviceId status order := by
  simp only [HasStatus, orders_markMidtransPaymentCreated, statusOf_markMidtransPaymentCreated]

section Insert

variable {w' : ChargeWorld} {telegramUserId chatId : ℤ} {checkout : Checkout}

/-- What an insertion adds. -/
theorem insertOrder_eq_some (h : w.insertOrder telegramUserId chatId checkout = some w') :
    (∀ e ∈ w.db.paymentEvents, e.providerOrderId ≠ checkout.orderId) ∧
      w'.orders = w.orders ++ [checkout.columns] ∧
      ∃ hamount, w'.db.paymentEvents =
        w.db.paymentEvents ++ [w.pendingEvent telegramUserId chatId checkout hamount] := by
  unfold insertOrder at h
  split at h
  · next hcheck =>
    obtain rfl := Option.some.inj h
    exact ⟨hcheck.2, rfl, hcheck.1, rfl⟩
  · cases h

theorem statusOf_insertOrder (h : w.insertOrder telegramUserId chatId checkout = some w')
    (orderId : String) :
    w'.db.statusOf orderId =
      if orderId = checkout.orderId then some .pending else w.db.statusOf orderId := by
  obtain ⟨hfresh, -, hamount, hevents⟩ := insertOrder_eq_some h
  rw [Database.statusOf, Database.paymentEventOf, hevents, rowAt_append]
  have hlast : rowAt PaymentEvent.providerOrderId orderId
      [w.pendingEvent telegramUserId chatId checkout hamount] =
        if checkout.orderId = orderId then
          some (w.pendingEvent telegramUserId chatId checkout hamount) else none :=
    rowAt_cons _ _ _ _
  rw [hlast]
  by_cases horder : orderId = checkout.orderId
  · have hnone : rowAt PaymentEvent.providerOrderId orderId w.db.paymentEvents = none := by
      rw [rowAt_eq_none_iff, horder]
      exact hfresh
    rw [hnone, if_pos horder, if_pos horder.symm]
    rfl
  · rw [if_neg horder, if_neg fun heq => horder heq.symm, Option.or_none]
    rfl

/-- The new order is pending, and the others keep their statuses. -/
theorem hasStatus_insertOrder (h : w.insertOrder telegramUserId chatId checkout = some w')
    {status : PaymentStatus} {order : OrderColumns} :
    w'.HasStatus deviceId status order ↔
      w.HasStatus deviceId status order ∨
        (order = checkout.columns ∧ checkout.boundDevice.id = deviceId ∧ status = .pending) := by
  obtain ⟨hfresh, horders, -⟩ := insertOrder_eq_some h
  have hne : ∀ order ∈ w.orders, order.providerOrderId ≠ checkout.orderId := by
    intro order horder
    obtain ⟨event, hevent, hkey⟩ := mem_paymentEvents_of_order horder
    rw [← hkey]
    exact hfresh event hevent
  unfold HasStatus
  rw [horders, List.mem_append, List.mem_singleton, statusOf_insertOrder h]
  constructor
  · rintro ⟨horder | rfl, hdevice, hstatus⟩
    · rw [if_neg (hne order horder)] at hstatus
      exact Or.inl ⟨horder, hdevice, hstatus⟩
    · have hnew : (if checkout.columns.providerOrderId = checkout.orderId then
          some PaymentStatus.pending else w.db.statusOf checkout.columns.providerOrderId) =
            some .pending := if_pos rfl
      exact Or.inr ⟨rfl, Option.some.inj hdevice, Option.some.inj (hstatus.symm.trans hnew)⟩
  · rintro (⟨horder, hdevice, hstatus⟩ | ⟨rfl, rfl, rfl⟩)
    · exact ⟨Or.inl horder, hdevice, (if_neg (hne order horder)).trans hstatus⟩
    · exact ⟨Or.inr rfl, rfl, if_pos rfl⟩

end Insert

end ChargeWorld

/-! ### The invariant -/

/-- An order with the status that charges the fee. -/
def ChargeWorld.Charges (w : ChargeWorld) (deviceId : ℤ) (status : PaymentStatus)
    (order : OrderColumns) : Prop := w.HasStatus deviceId status order ∧ order.ChargesFee

/-- Some order of the device has been paid. -/
def ChargeWorld.HasPaid (w : ChargeWorld) (deviceId : ℤ) : Prop :=
  ∃ order, w.HasStatus deviceId .paid order

/-- No order of the device is paid or may be. -/
def ChargeWorld.Idle (w : ChargeWorld) (deviceId : ℤ) : Prop :=
  ∀ order, ¬ w.HasStatus deviceId .paid order ∧ ¬ w.HasStatus deviceId .pending order

/-- The parts that a quote adds up. -/
def SubscriptionPaymentQuote.sum (quote : SubscriptionPaymentQuote) : ℤ :=
  quote.baseAmountIdr + quote.customerReferenceFeeIdr + quote.shipmentFeeIdr + quote.fineAmountIdr

/-- At most one order with the fee is paid or may be, and there is no order without it before. -/
structure FeeInv (deviceId : ℤ) (w : ChargeWorld) : Prop where
  amount : ∀ order ∈ w.orders, order.deviceId = some deviceId → ∀ event ∈ w.db.paymentEvents,
    event.providerOrderId = order.providerOrderId → event.grossAmountIdr = order.quote.sum
  settled : ∀ order ∈ w.orders, order.deviceId = some deviceId → ¬ order.ChargesFee →
    ∃ first, w.Charges deviceId .paid first
  unique : ∀ status status' order order', status = .pending ∨ status = .paid →
    status' = .pending ∨ status' = .paid → w.Charges deviceId status order →
      w.Charges deviceId status' order' → order = order'

/-- The quote of an order that may be stored now. -/
structure QuoteFits (deviceId : ℤ) (w : ChargeWorld) (quote : SubscriptionPaymentQuote) :
    Prop where
  amount : quote.totalAmountIdr = quote.sum
  charges : 0 < quote.shipmentFeeIdr → w.Idle deviceId
  free : ¬ 0 < quote.shipmentFeeIdr → w.HasPaid deviceId

/-- What a request owes. -/
def feePre (deviceId : ℤ) (w : ChargeWorld) : SubscribeRequest → Prop
  | .createPendingMidtransPayment _ _ checkout =>
      checkout.boundDevice.id = deviceId → QuoteFits deviceId w checkout.quote
  | _ => True

/-- No tap asks whether the device has been paid for while an order that charges the fee waits for
its payment. -/
def feeNotPending (deviceId : ℤ) :
    Guard SubscribeRequest ChargeWorld ChargeEvent SubscribeOutcome where
  env := fun _ _ => True
  call := fun w r _ => r = .paidPaymentExists deviceId →
    ∀ order, ¬ w.Charges deviceId .pending order

section Steps

variable {deviceId : ℤ} {w w' : ChargeWorld}

/-- The first payment carried the fee. -/
theorem FeeInv.first (h : FeeInv deviceId w) (hpaid : w.HasPaid deviceId) :
    ∃ order, w.Charges deviceId .paid order := by
  obtain ⟨order, horder⟩ := hpaid
  by_cases hfee : order.ChargesFee
  · exact ⟨order, horder, hfee⟩
  · exact h.settled order horder.1 horder.2.1 hfee

theorem ChargeWorld.HasPaid.webhook (h : w.HasPaid deviceId) (call : WebhookCall) :
    (w.webhook call).HasPaid deviceId := by
  obtain ⟨order, horder⟩ := h
  exact ⟨order, horder.webhook call⟩

theorem ChargeWorld.Idle.webhook (h : w.Idle deviceId) (call : WebhookCall) :
    (w.webhook call).Idle deviceId := by
  -- a webhook moves pending orders, and there is none
  have hnone : ∀ status order, ¬ w.HasStatus deviceId status order →
      ¬ (w.webhook call).HasStatus deviceId status order := by
    intro status order hbefore hafter
    rcases hafter.of_webhook with hkept | ⟨-, hpending⟩
    · exact hbefore hkept
    · exact (h order).2 hpending
  intro order
  exact ⟨hnone _ _ (h order).1, hnone _ _ (h order).2⟩

theorem QuoteFits.webhook {quote : SubscriptionPaymentQuote} (h : QuoteFits deviceId w quote)
    (call : WebhookCall) : QuoteFits deviceId (w.webhook call) quote where
  amount := h.amount
  charges := fun hfee => (h.charges hfee).webhook call
  free := fun hfee => (h.free hfee).webhook call

/-- Amounts and order ids that stay as they are. -/
theorem FeeInv.amount_of_map (h : FeeInv deviceId w) (horders : w'.orders = w.orders)
    (hevents : (w'.db.paymentEvents.map fun e => (e.providerOrderId, e.grossAmountIdr)) =
      w.db.paymentEvents.map fun e => (e.providerOrderId, e.grossAmountIdr)) :
    ∀ order ∈ w'.orders, order.deviceId = some deviceId → ∀ event ∈ w'.db.paymentEvents,
      event.providerOrderId = order.providerOrderId → event.grossAmountIdr = order.quote.sum := by
  intro order horder hdevice event hevent hkey
  rw [horders] at horder
  have hmem : (event.providerOrderId, event.grossAmountIdr) ∈
      w'.db.paymentEvents.map fun e => (e.providerOrderId, e.grossAmountIdr) :=
    List.mem_map_of_mem hevent
  rw [hevents] at hmem
  obtain ⟨event', hevent', heq⟩ := List.mem_map.1 hmem
  obtain ⟨hid, hamount⟩ := Prod.mk.inj heq
  rw [← hamount]
  exact h.amount order horder hdevice event' hevent' (hid.trans hkey)

/-- The order that a webhook pays is the one that charges the fee, or comes after it. -/
theorem FeeInv.charges_of_webhook (h : FeeInv deviceId w) {call : WebhookCall}
    {order : OrderColumns} (horder : (w.webhook call).Charges deviceId .paid order) :
    w.Charges deviceId .paid order ∨
      w.Charges deviceId .pending order ∧ ¬ w.HasPaid deviceId := by
  obtain ⟨hstatus, hfee⟩ := horder
  rcases hstatus.of_webhook with hkept | ⟨-, hpending⟩
  · exact Or.inl ⟨hkept, hfee⟩
  · refine Or.inr ⟨⟨hpending, hfee⟩, ?_⟩
    intro hpaid
    obtain ⟨first, hfirst⟩ := h.first hpaid
    obtain rfl := h.unique _ _ _ _ (Or.inl rfl) (Or.inr rfl) ⟨hpending, hfee⟩ hfirst
    exact absurd (hpending.unique hfirst.1) (by simp)

theorem feeInv_webhook (h : FeeInv deviceId w) (call : WebhookCall) :
    FeeInv deviceId (w.webhook call) where
  amount := h.amount_of_map rfl
    (w.db.map_applyMidtransWebhook _ call (fun _ => rfl) (fun _ _ => rfl) fun _ _ _ => rfl)
  settled := by
    intro order horder hdevice hfee
    obtain ⟨first, hfirst⟩ := h.settled order horder hdevice hfee
    exact ⟨first, hfirst.1.webhook call, hfirst.2⟩
  unique := by
    -- what is pending or paid afterwards was pending or paid before
    have hlive : ∀ status order, status = .pending ∨ status = .paid →
        (w.webhook call).Charges deviceId status order →
          ∃ before, (before = .pending ∨ before = .paid) ∧ w.Charges deviceId before order := by
      rintro status order hstatus ⟨horder, hfee⟩
      rcases horder.of_webhook with hkept | ⟨-, hpending⟩
      · exact ⟨status, hstatus, hkept, hfee⟩
      · exact ⟨.pending, Or.inl rfl, hpending, hfee⟩
    intro status status' order order' hstatus hstatus' horder horder'
    obtain ⟨before, hbefore, hcharges⟩ := hlive status order hstatus horder
    obtain ⟨before', hbefore', hcharges'⟩ := hlive status' order' hstatus' horder'
    exact h.unique _ _ _ _ hbefore hbefore' hcharges hcharges'

theorem feeInv_mark (h : FeeInv deviceId w) (created : MidtransCreatedPayment) :
    FeeInv deviceId (w.markMidtransPaymentCreated created) where
  amount := h.amount_of_map rfl (w.db.map_markCreated _ created fun _ => rfl)
  settled := by
    intro order horder hdevice hfee
    obtain ⟨first, hfirst⟩ := h.settled order horder hdevice hfee
    exact ⟨first, ChargeWorld.hasStatus_markMidtransPaymentCreated.2 hfirst.1, hfirst.2⟩
  unique := by
    intro status status' order order' hstatus hstatus' horder horder'
    exact h.unique _ _ _ _ hstatus hstatus'
      ⟨ChargeWorld.hasStatus_markMidtransPaymentCreated.1 horder.1, horder.2⟩
      ⟨ChargeWorld.hasStatus_markMidtransPaymentCreated.1 horder'.1, horder'.2⟩

section Insert

variable {telegramUserId chatId : ℤ} {checkout : Checkout}

theorem hasPaid_insertOrder (hw : w.insertOrder telegramUserId chatId checkout = some w')
    {order : OrderColumns} :
    w'.HasStatus deviceId .paid order ↔ w.HasStatus deviceId .paid order := by
  rw [ChargeWorld.hasStatus_insertOrder hw]
  constructor
  · rintro (hpaid | ⟨-, -, hstatus⟩)
    · exact hpaid
    · cases hstatus
  · exact Or.inl

theorem amount_insertOrder (h : FeeInv deviceId w)
    (hw : w.insertOrder telegramUserId chatId checkout = some w')
    (hfits : checkout.boundDevice.id = deviceId → QuoteFits deviceId w checkout.quote) :
    ∀ order ∈ w'.orders, order.deviceId = some deviceId → ∀ event ∈ w'.db.paymentEvents,
      event.providerOrderId = order.providerOrderId → event.grossAmountIdr = order.quote.sum := by
  obtain ⟨hfresh, horders, hamount, hevents⟩ := ChargeWorld.insertOrder_eq_some hw
  intro order horder hdevice event hevent hkey
  rw [horders, List.mem_append, List.mem_singleton] at horder
  rw [hevents, List.mem_append, List.mem_singleton] at hevent
  rcases horder with horder | rfl
  · obtain ⟨old, hold, holdKey⟩ := ChargeWorld.mem_paymentEvents_of_order horder
    rcases hevent with hevent | rfl
    · exact h.amount order horder hdevice event hevent hkey
    · exact absurd (holdKey.trans hkey.symm) (hfresh old hold)
  · rcases hevent with hevent | rfl
    · exact absurd hkey (hfresh event hevent)
    · exact (hfits (Option.some.inj hdevice)).amount

theorem feeInv_insertOrder (h : FeeInv deviceId w)
    (hw : w.insertOrder telegramUserId chatId checkout = some w')
    (hfits : checkout.boundDevice.id = deviceId → QuoteFits deviceId w checkout.quote) :
    FeeInv deviceId w' where
  amount := amount_insertOrder h hw hfits
  settled := by
    intro order horder hdevice hfee
    obtain ⟨-, horders, -⟩ := ChargeWorld.insertOrder_eq_some hw
    rw [horders, List.mem_append, List.mem_singleton] at horder
    rcases horder with horder | rfl
    · obtain ⟨first, hfirst⟩ := h.settled order horder hdevice hfee
      exact ⟨first, (hasPaid_insertOrder hw).2 hfirst.1, hfirst.2⟩
    · obtain ⟨first, hfirst⟩ := h.first ((hfits (Option.some.inj hdevice)).free hfee)
      exact ⟨first, (hasPaid_insertOrder hw).2 hfirst.1, hfirst.2⟩
  unique := by
    -- a new order with the fee finds none that is paid or may be
    have hnew : checkout.boundDevice.id = deviceId → checkout.columns.ChargesFee →
        ∀ status order, status = .pending ∨ status = .paid →
          ¬ w.HasStatus deviceId status order := by
      intro hid hfee status order hstatus
      have hidle := (hfits hid).charges hfee order
      rcases hstatus with rfl | rfl
      · exact hidle.2
      · exact hidle.1
    intro status status' order order' hstatus hstatus' ⟨horder, hfee⟩ ⟨horder', hfee'⟩
    rw [ChargeWorld.hasStatus_insertOrder hw] at horder horder'
    rcases horder with horder | ⟨rfl, hid, -⟩
    · rcases horder' with horder' | ⟨rfl, hid', -⟩
      · exact h.unique _ _ _ _ hstatus hstatus' ⟨horder, hfee⟩ ⟨horder', hfee'⟩
      · exact absurd horder (hnew hid' hfee' status order hstatus)
    · rcases horder' with horder' | ⟨rfl, -, -⟩
      · exact absurd horder' (hnew hid hfee status' order' hstatus')
      · rfl

end Insert

/-! ### Payments one after the other -/

/-- What has been paid stays paid, and an order with the fee is not paid after another. -/
structure ChargeWorld.PaysFirst (deviceId : ℤ) (w w' : ChargeWorld) : Prop where
  kept : ∀ order, w.HasStatus deviceId .paid order → w'.HasStatus deviceId .paid order
  first : w.HasPaid deviceId → ∀ order, w'.Charges deviceId .paid order →
    w.Charges deviceId .paid order

theorem ChargeWorld.PaysFirst.refl (deviceId : ℤ) (w : ChargeWorld) : w.PaysFirst deviceId w :=
  ⟨fun _ horder => horder, fun _ _ horder => horder⟩

theorem ChargeWorld.PaysFirst.trans {w₁ w₂ w₃ : ChargeWorld} (h : w₁.PaysFirst deviceId w₂)
    (h' : w₂.PaysFirst deviceId w₃) : w₁.PaysFirst deviceId w₃ where
  kept := fun order horder => h'.kept order (h.kept order horder)
  first := by
    rintro ⟨paid, hpaid⟩ order horder
    exact h.first ⟨paid, hpaid⟩ order (h'.first ⟨paid, h.kept paid hpaid⟩ order horder)

/-- Statuses that stay as they are. -/
theorem paysFirst_of_iff (h : ∀ order, w'.HasStatus deviceId .paid order ↔
    w.HasStatus deviceId .paid order) : w.PaysFirst deviceId w' :=
  ⟨fun order => (h order).2, fun _ order horder => ⟨(h order).1 horder.1, horder.2⟩⟩

theorem paysFirst_webhook (h : FeeInv deviceId w) (call : WebhookCall) :
    w.PaysFirst deviceId (w.webhook call) where
  kept := fun _ horder => horder.webhook call
  first := by
    intro hpaid order horder
    rcases h.charges_of_webhook horder with hkept | ⟨-, hnone⟩
    · exact hkept
    · exact absurd hpaid hnone

theorem env_feeInv (h : FeeInv deviceId w) (event : ChargeEvent) :
    FeeInv deviceId (w.env event) ∧ w.PaysFirst deviceId (w.env event) := by
  cases event with
  | tick duration => exact ⟨⟨h.amount, h.settled, h.unique⟩, paysFirst_of_iff fun _ => Iff.rfl⟩
  | webhook call => exact ⟨feeInv_webhook h call, paysFirst_webhook h call⟩

variable {registry : Registry}

theorem ChargeWorld.answer_cases (w : ChargeWorld) (registry : Registry)
    (outcome : SubscribeOutcome) (r : SubscribeRequest) :
    w.answer registry outcome r = (none, w) ∨
      w.answer registry outcome r = w.execute registry outcome r := by
  unfold ChargeWorld.answer
  split
  · exact Or.inl rfl
  · exact Or.inr rfl

theorem execute_feeInv (h : FeeInv deviceId w) (outcome : SubscribeOutcome)
    {r : SubscribeRequest} (hpre : feePre deviceId w r) :
    FeeInv deviceId (w.execute registry outcome r).2 ∧
      w.PaysFirst deviceId (w.execute registry outcome r).2 := by
  cases r with
  | createPendingMidtransPayment telegramUserId chatId checkout =>
      simp only [ChargeWorld.execute]
      split
      · next w' hw =>
        exact ⟨feeInv_insertOrder h hw hpre, paysFirst_of_iff fun _ => hasPaid_insertOrder hw⟩
      · exact ⟨h, .refl deviceId w⟩
  | markMidtransPaymentCreated created =>
      exact ⟨feeInv_mark h created,
        paysFirst_of_iff fun _ => ChargeWorld.hasStatus_markMidtransPaymentCreated⟩
  | _ => exact ⟨h, .refl deviceId w⟩

theorem answer_feeInv (h : FeeInv deviceId w) (outcome : SubscribeOutcome)
    {r : SubscribeRequest} (hpre : feePre deviceId w r) :
    FeeInv deviceId (w.answer registry outcome r).2 ∧
      w.PaysFirst deviceId (w.answer registry outcome r).2 := by
  rcases w.answer_cases registry outcome r with hnone | hexecute
  · rw [hnone]
    exact ⟨h, .refl deviceId w⟩
  · rw [hexecute]
    exact execute_feeInv h outcome hpre

end Steps

/-! ### What a tap owes -/

section Taps

variable (registry : Registry) (midtrans : Option MidtransClient) (deviceId : ℤ)

/-- The terms of a tap. -/
abbrev chargeContract : Contract SubscribeRequest SubscribeRequest.Reply ChargeWorld :=
  (chargeBot registry midtrans).contract (feeNotPending deviceId) (FeeInv deviceId)
    (feePre deviceId)

variable {registry midtrans deviceId} {w w' : ChargeWorld}

/-- What a value of the program guarantees. -/
abbrev Gives {α : Type} (registry : Registry) (midtrans : Option MidtransClient) (deviceId : ℤ)
    (p : SubscribeM α) (Q : α → ChargeWorld → Prop) (w : ChargeWorld) : Prop :=
  (chargeContract registry midtrans deviceId).Safe p (fun x w => ∀ a ∈ x, Q a w) w

theorem gives_done {α : Type} {Q : α → ChargeWorld → Prop} {a : α} (h : Q a w) :
    Gives registry midtrans deviceId (.done a) Q w := by
  intro b hb
  obtain rfl : a = b := Option.some.inj hb
  exact h

theorem gives_bind {α β : Type} {p : SubscribeM α} {f : α → SubscribeM β}
    {P : α → ChargeWorld → Prop} {Q : β → ChargeWorld → Prop}
    (hp : Gives registry midtrans deviceId p P w)
    (hf : ∀ a w, P a w → Gives registry midtrans deviceId (f a) Q w) :
    Gives registry midtrans deviceId (p >>= f) Q w := by
  refine Contract.safe_bind.2 (hp.mono ?_)
  intro x w hx
  cases x with
  | none => exact fun b hb => absurd hb (Option.not_mem_none b)
  | some a => exact hf a w (hx a rfl)

theorem gives_required {α : Type} {Q : α → ChargeWorld → Prop} {x : Option α}
    (h : ∀ a ∈ x, Q a w) : Gives registry midtrans deviceId (required x) Q w := by
  cases x with
  | none => exact fun b hb => absurd hb (Option.not_mem_none b)
  | some a => exact gives_done (h a rfl)

/-- One request: the assertion it is paid with, and what its answer says. -/
theorem gives_request {r : SubscribeRequest} {J : ChargeWorld → Prop}
    {Q : r.Reply → ChargeWorld → Prop} (hJ : ∀ w event, J w → J (w.env event)) (h : J w)
    (hpre : ∀ w, J w → feePre deviceId w r)
    (hanswer : ∀ w outcome x, FeeInv deviceId w → J w →
      (feeNotPending deviceId).call w r outcome →
      (w.execute registry outcome r).1 = some x → Q x (w.execute registry outcome r).2) :
    Gives registry midtrans deviceId (askCharge r) Q w := by
  refine Contract.safe_request ?_
  intro w₁ hlater hinv
  have hstable : (chargeContract registry midtrans deviceId).Stable J := by
    rintro w w' ⟨event, -, -, hw⟩ hJw
    obtain rfl : w.env event = w' := Option.some.inj hw
    exact hJ w event hJw
  have h₁ : J w₁ := hstable.later hlater h
  refine ⟨hpre w₁ h₁, ?_⟩
  rintro x w₂ ⟨outcome, hguard, hx⟩ - a rfl
  have hx : w₁.answer registry outcome r = (some a, w₂) := hx
  rcases w₁.answer_cases registry outcome r with hnone | hexecute
  · rw [hnone] at hx
    cases hx
  · rw [hexecute] at hx
    have hsome := hanswer w₁ outcome a hinv h₁ hguard (congrArg Prod.fst hx)
    rwa [hx] at hsome

/-- A request that owes nothing, and what its answer says whatever the world is. -/
theorem gives_ask {r : SubscribeRequest} {Q : r.Reply → Prop} (hpre : ∀ w, feePre deviceId w r)
    (hanswer : ∀ (w : ChargeWorld) outcome x, (w.execute registry outcome r).1 = some x → Q x) :
    Gives registry midtrans deviceId (askCharge r) (fun x _ => Q x) w :=
  gives_request (J := fun _ => True) (fun _ _ _ => trivial) trivial (fun w _ => hpre w)
    fun w outcome x _ _ _ hx => hanswer w outcome x hx

/-- The parts of a quote, from the answers it is made of. -/
theorem buildSubscriptionPaymentQuote_answered {row : QuoteDeviceRow} {rowId : ℤ}
    (hid : row.id = some rowId) (paid : Bool) (subscriptionRow : Option (Option ℤ))
    (planPriceIdr now : ℤ) {quote : SubscriptionPaymentQuote}
    (hquote : buildSubscriptionPaymentQuote (answeredQueries (some row) paid subscriptionRow)
      planPriceIdr now = .ok quote) :
    quote.totalAmountIdr = quote.sum ∧
      quote.shipmentFeeIdr = if paid then 0 else row.shipmentFeeIdr.getD 0 := by
  unfold buildSubscriptionPaymentQuote answeredQueries at hquote
  simp only [Option.bind_some, hid, bind, Except.bind, pure, Except.pure] at hquote
  rw [← Except.ok.inj hquote]
  exact ⟨rfl, rfl⟩

/-- The device of the answer to the query for it. -/
theorem askBoundDevice_gives (user : TelegramUserRecord) :
    Gives registry midtrans deviceId (askBoundDevice user) (fun boundDevice _ =>
      ∃ imei device, user.boundImei = some imei ∧ registry.deviceOf imei = some device ∧
        boundDevice.id = device.id) w := by
  refine gives_bind (P := fun imei _ => user.boundImei = some imei)
    (gives_required fun imei himei => himei) ?_
  intro imei w himei
  refine gives_bind (gives_ask (fun _ => trivial)
    (Q := fun answer => answer = (registry.deviceOf imei).map fun device =>
      ⟨device.id, device.imei⟩) ?_) ?_
  · intro w outcome x hx
    exact (Option.some.inj hx).symm
  · intro answer w hanswer
    refine gives_required ?_
    intro boundDevice hbound
    rw [hanswer] at hbound
    obtain ⟨device, hdevice, rfl⟩ := Option.map_eq_some_iff.1 hbound
    exact ⟨imei, device, himei, hdevice, rfl⟩

/-- A query whose answer is left open. -/
theorem gives_any {r : SubscribeRequest} (hpre : ∀ w, feePre deviceId w r) :
    Gives registry midtrans deviceId (askCharge r) (fun _ _ => True) w :=
  gives_ask (Q := fun _ => True) hpre fun _ _ _ _ => trivial

theorem askSubscriptionPlan_gives (client : MidtransClient) (user : TelegramUserRecord) :
    Gives registry midtrans deviceId (askSubscriptionPlan client user) (fun _ _ => True) w := by
  refine gives_bind (askBoundDevice_gives user) ?_
  intro boundDevice w _
  refine gives_bind (gives_any fun _ => trivial) ?_
  intro pricingTier w _
  refine gives_bind (P := fun _ _ => True) (gives_required fun _ _ => trivial) ?_
  intro pricingTier w _
  refine gives_bind (P := fun _ _ => True) (gives_required fun _ _ => trivial) ?_
  intro tier w _
  exact gives_done trivial

/-- The device has been paid for, or none of its orders can be. -/
def PaidKnown (deviceId : ℤ) (paid : Bool) (w : ChargeWorld) : Prop :=
  if paid then w.HasPaid deviceId else w.Idle deviceId

theorem PaidKnown.env {paid : Bool} (h : PaidKnown deviceId paid w) (event : ChargeEvent) :
    PaidKnown deviceId paid (w.env event) := by
  cases event with
  | tick duration => exact h
  | webhook call =>
      cases paid with
      | true => exact ChargeWorld.HasPaid.webhook h call
      | false => exact ChargeWorld.Idle.webhook h call

/-- What the answer to the question says, when no order with the fee waits for its payment. -/
theorem paidKnown_of_invariant (h : FeeInv deviceId w)
    (hguard : ∀ order, ¬ w.Charges deviceId .pending order) :
    PaidKnown deviceId (w.paidPaymentExists deviceId) w := by
  cases hpaid : w.paidPaymentExists deviceId with
  | true => exact (w.paidPaymentExists_iff deviceId).1 hpaid
  | false =>
      have hnone : ¬ w.HasPaid deviceId := by
        intro hsome
        rw [(w.paidPaymentExists_iff deviceId).2 hsome] at hpaid
        cases hpaid
      intro order
      refine ⟨fun horder => hnone ⟨order, horder⟩, ?_⟩
      intro horder
      by_cases hfee : order.ChargesFee
      · exact hguard order ⟨horder, hfee⟩
      · obtain ⟨first, hfirst⟩ := h.settled order horder.1 horder.2.1 hfee
        exact hnone ⟨first, hfirst.1⟩

theorem askPaidPaymentExists_gives {row : QuoteDeviceRow} {rowId : ℤ} (hid : row.id = some rowId) :
    Gives registry midtrans deviceId (askPaidPaymentExists (some row))
      (fun paid w => rowId = deviceId → PaidKnown deviceId paid w) w := by
  have hask : askPaidPaymentExists (some row) = askCharge (.paidPaymentExists rowId) := by
    simp only [askPaidPaymentExists, Option.bind_some, hid]
  rw [hask]
  refine gives_request (J := fun _ => True) (fun _ _ _ => trivial) trivial
    (fun _ _ => trivial) ?_
  rintro w outcome paid hinv - hguard hx rfl
  obtain rfl : w.paidPaymentExists rowId = paid := Option.some.inj hx
  exact paidKnown_of_invariant hinv (hguard rfl)

/-- A quote that has been told whether the device has been paid for. -/
theorem quoteFits_of_paidKnown {row : QuoteDeviceRow} {paid : Bool}
    {quote : SubscriptionPaymentQuote} (hfee : ∃ fee ∈ row.shipmentFeeIdr, 0 < fee)
    (hpaid : PaidKnown deviceId paid w)
    (hquote : quote.totalAmountIdr = quote.sum ∧
      quote.shipmentFeeIdr = if paid then 0 else row.shipmentFeeIdr.getD 0) :
    QuoteFits deviceId w quote := by
  obtain ⟨fee, hsome, hpos⟩ := hfee
  obtain ⟨hamount, hshipment⟩ := hquote
  cases paid with
  | true =>
      rw [if_pos rfl] at hshipment
      exact ⟨hamount, fun hfee => absurd hfee (by omega), fun _ => hpaid⟩
  | false =>
      rw [if_neg Bool.false_ne_true, Option.mem_def.1 hsome, Option.getD_some] at hshipment
      exact ⟨hamount, fun _ => hpaid, fun hfee => absurd (hshipment ▸ hpos) hfee⟩

theorem askQuote_gives {telegramUserId planPriceIdr now : ℤ} {row : QuoteDeviceRow} {rowId : ℤ}
    (hrow : registry.quoteDeviceRow telegramUserId = some row) (hid : row.id = some rowId)
    (hfee : rowId = deviceId → ∃ fee ∈ row.shipmentFeeIdr, 0 < fee) :
    Gives registry midtrans deviceId (askQuote telegramUserId planPriceIdr now)
      (fun quote w => rowId = deviceId → QuoteFits deviceId w quote) w := by
  refine gives_bind (gives_ask (Q := fun answer => answer = some row) (fun _ => trivial) ?_) ?_
  · intro w outcome x hx
    exact (Option.some.inj hx).symm.trans hrow
  rintro _ w rfl
  refine gives_bind (askPaidPaymentExists_gives hid) ?_
  intro paid w hpaid
  refine gives_bind (P := fun _ w => rowId = deviceId → PaidKnown deviceId paid w)
    (gives_request (J := fun w => rowId = deviceId → PaidKnown deviceId paid w)
      (fun w event h heq => (h heq).env event) hpaid (fun _ _ => trivial) ?_) ?_
  · intro w outcome x _ h _ _
    exact h
  intro subscriptionRow w hpaid
  refine gives_required ?_
  intro quote hquote heq
  cases hbuild : buildSubscriptionPaymentQuote
      (answeredQueries (some row) paid subscriptionRow) planPriceIdr now with
  | error error => simp [hbuild, Except.toOption] at hquote
  | ok built =>
      simp only [hbuild, Except.toOption, Option.mem_def, Option.some.injEq] at hquote
      subst hquote
      exact quoteFits_of_paidKnown (hfee heq) (hpaid heq)
        (buildSubscriptionPaymentQuote_answered hid paid subscriptionRow _ _ hbuild)

/-- The quote of a user is about the device the order is for. -/
theorem quoteDeviceRow_of_user {telegramUserId : ℤ} {user : TelegramUserRecord} {imei : String}
    {device : PricedDevice}
    (huser : fetchTelegramUserByUserId registry.telegramUsers telegramUserId = some user)
    (himei : user.boundImei = some imei) (hdevice : registry.deviceOf imei = some device) :
    ∃ row, registry.quoteDeviceRow telegramUserId = some row ∧ row.id = some device.id ∧
      row.shipmentFeeIdr = device.shipmentFeeIdr := by
  obtain ⟨userRow, hrow, hrecord⟩ := Option.bind_eq_some_iff.1 huser
  obtain ⟨status, -, rfl⟩ := Option.map_eq_some_iff.1 hrecord
  have hbound : registry.boundDeviceOf userRow = some device := by
    rw [Registry.boundDeviceOf]
    exact Option.bind_eq_some_iff.2 ⟨imei, himei, hdevice⟩
  refine ⟨_, by rw [Registry.quoteDeviceRow, hrow]; rfl, ?_, ?_⟩
  · simp only [hbound, Option.map_some]
  · simp only [hbound, Option.bind_some]

theorem fee_of_hasFee (hfee : registry.HasFee deviceId) {imei : String} {device : PricedDevice}
    (hdevice : registry.deviceOf imei = some device) (hid : device.id = deviceId) :
    ∃ fee ∈ device.shipmentFeeIdr, 0 < fee := by
  obtain ⟨other, hother, hotherId, hpos⟩ := hfee
  obtain ⟨hmem, -⟩ := mem_of_rowAt hdevice
  obtain rfl := registry.devices_id.eq_of_key_eq hmem hother (hid.trans hotherId.symm)
  exact hpos

theorem askCheckout_gives (hfee : registry.HasFee deviceId) (client : Option MidtransClient)
    (telegramUserId : ℤ) :
    Gives registry midtrans deviceId (askCheckout client telegramUserId)
      (fun checkout w => checkout.boundDevice.id = deviceId →
        QuoteFits deviceId w checkout.quote) w := by
  refine gives_bind (P := fun _ _ => True) (gives_required fun _ _ => trivial) ?_
  intro client w _
  refine gives_bind (gives_ask (Q := fun answer =>
    answer = fetchTelegramUserByUserId registry.telegramUsers telegramUserId)
    (fun _ => trivial) ?_) ?_
  · intro w outcome x hx
    exact (Option.some.inj hx).symm
  intro answer w hanswer
  refine gives_bind (P := fun user _ =>
    fetchTelegramUserByUserId registry.telegramUsers telegramUserId = some user)
    (gives_required fun user huser => hanswer.symm.trans huser) ?_
  intro user w huser
  refine gives_bind (askBoundDevice_gives user) ?_
  rintro boundDevice w ⟨imei, device, himei, hdevice, hbound⟩
  refine gives_bind (askSubscriptionPlan_gives client user) ?_
  intro plan w _
  refine gives_bind (gives_any fun _ => trivial) ?_
  intro createdAt w _
  obtain ⟨row, hrow, hid, hrowFee⟩ := quoteDeviceRow_of_user huser himei hdevice
  refine gives_bind (askQuote_gives hrow hid ?_) ?_
  · intro heq
    rw [hrowFee]
    exact fee_of_hasFee hfee hdevice heq
  intro quote w hquote
  refine gives_done ?_
  intro heq
  exact hquote (hbound.symm.trans heq)

/-- The requests that owe nothing. -/
def Free : SubscribeRequest → Prop
  | .createPendingMidtransPayment _ _ _ => False
  | _ => True

theorem feePre_of_free {r : SubscribeRequest} (h : Free r) (w : ChargeWorld) :
    feePre deviceId w r := by
  cases r with
  | createPendingMidtransPayment _ _ _ => exact h.elim
  | _ => trivial

theorem uses_required {α : Type} (x : Option α) : (required x).Uses Free := by
  cases x with
  | none => trivial
  | some a => trivial

theorem sendCheckout_uses (callbackQuery : TelegramCallbackQuery) (message : TelegramMessage)
    (checkout : Checkout) : (sendCheckout callbackQuery message checkout).Uses Free := by
  refine Prog.uses_bind (Prog.uses_request trivial) fun reply => ?_
  refine Prog.uses_bind (uses_required _) fun created => ?_
  refine Prog.uses_bind (Prog.uses_request trivial) fun _ => ?_
  refine Prog.uses_bind (Prog.uses_request trivial) fun _ => ?_
  refine Prog.uses_bind (Prog.uses_request trivial) fun _ => ?_
  exact Prog.uses_bind (Prog.uses_attempt (Prog.uses_request trivial)) fun _ => trivial

/-- A program that owes nothing. -/
theorem gives_of_uses {α : Type} {p : SubscribeM α} (hp : p.Uses Free) :
    Gives registry midtrans deviceId p (fun _ _ => True) w := by
  refine (Contract.safe_of_uses (J := fun _ => True) (fun _ _ _ _ => trivial)
    (fun w r hr _ _ => feePre_of_free hr w) (fun _ _ _ _ _ _ _ _ => trivial) hp trivial).mono ?_
  exact fun _ _ _ _ _ => trivial

theorem QuoteFits.env {quote : SubscriptionPaymentQuote} (h : QuoteFits deviceId w quote)
    (event : ChargeEvent) : QuoteFits deviceId (w.env event) quote := by
  cases event with
  | tick duration => exact ⟨h.amount, h.charges, h.free⟩
  | webhook call => exact h.webhook call

/-- A tap stores its order with a quote that fits. -/
theorem payCheckout_gives (hfee : registry.HasFee deviceId) (client : Option MidtransClient)
    (callbackQuery : TelegramCallbackQuery) (message : TelegramMessage) :
    Gives registry midtrans deviceId (payCheckout client callbackQuery message)
      (fun _ _ => True) w := by
  refine gives_bind (askCheckout_gives hfee client callbackQuery.fromId) ?_
  intro checkout w hfits
  refine gives_bind (P := fun _ _ => True) (gives_request
    (J := fun w => checkout.boundDevice.id = deviceId → QuoteFits deviceId w checkout.quote)
    (fun w event h heq => (h heq).env event) hfits (fun _ h => h) fun _ _ _ _ _ _ _ => trivial) ?_
  intro _ w _
  exact gives_of_uses (sendCheckout_uses callbackQuery message checkout)

theorem handleSubscribeAction_gives (hfee : registry.HasFee deviceId)
    (client : Option MidtransClient) (callbackQuery : TelegramCallbackQuery) :
    Gives registry midtrans deviceId (handleSubscribeAction client callbackQuery)
      (fun _ _ => True) w := by
  unfold handleSubscribeAction
  split
  · exact gives_any fun _ => trivial
  · next message hmessage =>
    have hbound : (ensureBound callbackQuery).Uses Free := by
      refine Prog.uses_bind (Prog.uses_request trivial) fun user => ?_
      dsimp only
      split
      · trivial
      · exact Prog.uses_bind (Prog.uses_request trivial) fun _ => trivial
    refine gives_bind (gives_of_uses hbound) ?_
    intro isBound w _
    split
    · exact payCheckout_gives hfee client callbackQuery message
    · exact gives_done trivial

theorem fee_verified (hfee : registry.HasFee deviceId) (midtrans : Option MidtransClient) :
    (chargeBot registry midtrans).Verified (feeNotPending deviceId) (FeeInv deviceId)
      (feePre deviceId) where
  env := by
    rintro event w w' h - hw
    obtain rfl : w.env event = w' := Option.some.inj hw
    exact (env_feeInv h event).1
  call := fun outcome w r h hpre _ => (answer_feeInv h outcome hpre).1
  main := fun callbackQuery w _ =>
    (handleSubscribeAction_gives hfee midtrans callbackQuery).mono fun _ _ _ => trivial

end Taps

/-! ### Runs -/

/-- The fee of a device is charged once: amounts are those of the quotes, at most one paid order
has the fee, and one has it when any has been paid. -/
structure ChargedOnce (deviceId : ℤ) (w : ChargeWorld) : Prop where
  amount : ∀ order ∈ w.orders, order.deviceId = some deviceId → ∀ event ∈ w.db.paymentEvents,
    event.providerOrderId = order.providerOrderId → event.grossAmountIdr = order.quote.sum
  unique : ∀ order order', w.Charges deviceId .paid order → w.Charges deviceId .paid order' →
    order = order'
  first : w.HasPaid deviceId → ∃ order, w.Charges deviceId .paid order

theorem FeeInv.chargedOnce {deviceId : ℤ} {w : ChargeWorld} (h : FeeInv deviceId w) :
    ChargedOnce deviceId w where
  amount := h.amount
  unique := fun _ _ horder horder' => h.unique _ _ _ _ (Or.inr rfl) (Or.inr rfl) horder horder'
  first := h.first

theorem feeInv_of_no_orders {deviceId : ℤ} {w : ChargeWorld}
    (h : ∀ order ∈ w.orders, order.deviceId ≠ some deviceId) : FeeInv deviceId w where
  amount := fun order horder hdevice => absurd hdevice (h order horder)
  settled := fun order horder hdevice => absurd hdevice (h order horder)
  unique := fun _ _ order _ _ _ horder _ => absurd horder.1.2.1 (h order horder.1.1)

/-- **Taps that wait for a payment charge the fee once.**  Take a device with a fee and without
orders, and a run of taps and webhooks, with any request failing at any point and the process
killed and started again.  If no tap asks whether the device has been paid for while an order that
charges the fee waits for its payment, then in every state of the run at most one paid order of the
device has the fee in its amount, there is one as soon as the device has been paid for, and it was
paid no later than any other. -/
theorem shipment_fee_charged_once {registry : Registry} {midtrans : Option MidtransClient}
    {deviceId : ℤ} (hfee : registry.HasFee deviceId) {w₀ : ChargeWorld}
    (hnew : ∀ order ∈ w₀.orders, order.deviceId ≠ some deviceId)
    {m : Machine SubscribeRequest SubscribeRequest.Reply ChargeWorld}
    {tr : List (Machine SubscribeRequest SubscribeRequest.Reply ChargeWorld ×
      Event ChargeEvent SubscribeOutcome TelegramCallbackQuery)}
    (run : Run (chargeBot registry midtrans).step (.idle w₀) tr m)
    (hguard : ∀ p ∈ tr, (feeNotPending deviceId).Allows p.1 p.2) :
    ((∀ p ∈ tr, ChargedOnce deviceId p.1.world) ∧ ChargedOnce deviceId m.world) ∧
      ∀ p ∈ tr, p.1.world.HasPaid deviceId → ∀ order,
        m.world.Charges deviceId .paid order → p.1.world.Charges deviceId .paid order := by
  have V := fee_verified hfee midtrans
  obtain ⟨htr, hm⟩ := V.sound_of_run (feeInv_of_no_orders hnew) run hguard
  refine ⟨⟨fun p hp => (htr p hp).1.chargedOnce, hm.1.chargedOnce⟩, ?_⟩
  have hfirst : ∀ p ∈ tr, p.1.world.PaysFirst deviceId m.world := by
    refine run.related (R := fun m m' => m.world.PaysFirst deviceId m'.world)
      (fun _ _ _ h h' => h.trans h') ?_
    intro p hp m' hm'
    refine V.step_related (ChargeWorld.PaysFirst.refl deviceId) ?_ ?_ (htr p hp) hm'
    · intro event w w' h hw
      obtain rfl : w.env event = w' := Option.some.inj hw
      exact (env_feeInv h event).2
    · intro outcome w r h hpre
      exact (answer_feeInv h outcome hpre).2
  exact fun p hp => (hfirst p hp).first

/-! ### Two links -/

/-- A user bound to a device that has a fee. -/
def shippedDevice : Registry where
  telegramUsers := [⟨5, 5, some "359586015829802", "bound"⟩]
  devices := [⟨1, "359586015829802", "basic", none, some 20000⟩]
  telegramUsers_telegramUserId := List.nodup_singleton _
  devices_id := List.nodup_singleton _
  devices_imei := List.nodup_singleton _

def noPayments : ChargeWorld where
  now := 0
  db := {
    paymentEvents := []
    subscriptions := []
    sanctions := []
    lastSubscriptionId := 0
    paymentEvents_id := List.nodup_nil
    paymentEvents_providerOrderId := List.nodup_nil
    subscriptions_id := List.nodup_nil
    subscriptions_telegramUserId := List.nodup_nil
    subscriptions_id_le := subscriptions_id_le_nil
    sanctions_subscriptionId := List.nodup_nil }
  orders := []
  lastPaymentEventId := 0
  orders_providerOrderId := rfl
  paymentEvents_id_le := by simp

abbrev shippedBot : System SubscribeRequest SubscribeRequest.Reply ChargeWorld ChargeEvent
    SubscribeOutcome TelegramCallbackQuery := chargeBot shippedDevice (some midtransDefaults)

/-- A tap whose calls all succeed. -/
def tapAnswered : List (Event ChargeEvent SubscribeOutcome TelegramCallbackQuery) :=
  .start ⟨"tap", 5, some "payment:subscribe", some ⟨5, none, none, some 30⟩⟩ ::
    List.replicate 15 (.answer ⟨false, .answered "token" "https://app.midtrans.com/snap" "answer"⟩)

/-- The provider reports that the order has been paid in full. -/
def linkPaid (orderId : String) :
    Event ChargeEvent SubscribeOutcome TelegramCallbackQuery :=
  .env (.webhook {
    notification := {
      orderId := orderId
      statusCode := "200"
      grossAmount := "55000.00"
      signatureKey := ""
      transactionStatus := "settlement" }
    mappedStatus := .paid
    receivedAt := 2000000
    now := 2000000 })

/-- A user who has lost the first link asks for another one. -/
def twoLinks : List (Event ChargeEvent SubscribeOutcome TelegramCallbackQuery) :=
  tapAnswered ++ .env (.tick 1000000) :: tapAnswered ++ [linkPaid "hb-5-0", linkPaid "hb-5-1000"]

instance (w : ChargeWorld) (deviceId : ℤ) (status : PaymentStatus) (order : OrderColumns) :
    Decidable (w.Charges deviceId status order) := inferInstanceAs (Decidable (_ ∧ _))

/-- Both links charge the fee, and both are paid. -/
theorem two_links_charge_twice :
    ∃ tr m, tr.map Prod.snd = twoLinks ∧ Run shippedBot.step (.idle noPayments) tr m ∧
      ¬ ChargedOnce 1 m.world := by
  have hreplay : (replay shippedBot.step (.idle noPayments) twoLinks).any (fun m => decide
      (∃ order ∈ m.world.orders, ∃ order' ∈ m.world.orders, order ≠ order' ∧
        m.world.Charges 1 .paid order ∧ m.world.Charges 1 .paid order')) = true := by
    decide +kernel
  obtain ⟨tr, m, hes, run, hboth⟩ := run_of_replay_any hreplay
  obtain ⟨order, -, order', -, hne, horder, horder'⟩ := of_decide_eq_true hboth
  refine ⟨tr, m, hes, run, ?_⟩
  intro honce
  exact hne (honce.unique order order' horder horder')

/-- The condition as a check of one event. -/
def waitsForPayment (m : Machine SubscribeRequest SubscribeRequest.Reply ChargeWorld) :
    Event ChargeEvent SubscribeOutcome TelegramCallbackQuery → Bool
  | .answer _ =>
      match m.task with
      | .call (.paidPaymentExists 1) _ => m.world.orders.all fun order =>
          !decide (m.world.Charges 1 .pending order)
      | _ => true
  | _ => true

theorem allows_of_waitsForPayment
    {m : Machine SubscribeRequest SubscribeRequest.Reply ChargeWorld}
    {event : Event ChargeEvent SubscribeOutcome TelegramCallbackQuery}
    (h : waitsForPayment m event = true) : (feeNotPending 1).Allows m event := by
  obtain ⟨w, task⟩ := m
  cases event with
  | answer outcome =>
      cases task with
      | call r k =>
          rintro rfl order horder
          have hall := List.all_eq_true.1 h order horder.1.1
          simp [horder] at hall
      | _ => trivial
  | _ => trivial

/-- The user pays the first link before asking for the next one. -/
def linksInTurn : List (Event ChargeEvent SubscribeOutcome TelegramCallbackQuery) :=
  tapAnswered ++ linkPaid "hb-5-0" :: .env (.tick 1000000) :: tapAnswered

/-- Only the first link charges the fee. -/
theorem shipment_fee_charged_once_in_turn :
    ∃ tr m, tr.map Prod.snd = linksInTurn ∧
      Run shippedBot.step (.idle noPayments) tr m ∧ m.world.HasPaid 1 ∧
      ChargedOnce 1 m.world := by
  have hreplay : (replay (fun m event => if waitsForPayment m event then
      shippedBot.step m event else none) (.idle noPayments) linksInTurn).any
        (fun m => m.world.paidPaymentExists 1) = true := by
    decide +kernel
  obtain ⟨tr, m, hes, run, hchecked, hpaid⟩ := run_of_replay_checked hreplay
  have hfee : shippedDevice.HasFee 1 :=
    ⟨_, List.mem_singleton_self _, rfl, 20000, rfl, by decide⟩
  have honce := shipment_fee_charged_once hfee (by simp [noPayments]) run
    fun p hp => allows_of_waitsForPayment (hchecked p hp)
  exact ⟨tr, m, hes, run, (m.world.paidPaymentExists_iff 1).1 hpaid, honce.1.2⟩

end Gt06
