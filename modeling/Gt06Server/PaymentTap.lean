/-
**Taps on the payment button.**

A tap on the button that subscribes stores a pending payment and asks the payment provider for a
transaction.  The database, the provider and Telegram are called several times afterwards, and the
first call that fails ends the delivery of the tap before its id is stored.  Telegram then delivers
the tap again, and the new delivery knows nothing of the payment that is there: the id of the order
is made from the time.

Main definitions:

* `Gt06.PaymentAction.parse` — which taps pay;
* `Gt06.PaymentOrder`, `Gt06.SnapTransaction`, `Gt06.PaymentWorld` — the rows stored and the
  transactions made, each with the update it was made for;
* `Gt06.TapReplies` — how the calls of a delivery end;
* `Gt06.handlePaymentAction`, `Gt06.tapHandler` — the handlers;
* `Gt06.KeepsLaterCalls` — no call fails after an order is stored.

Main results:

* `Gt06.tapHandler_cases`, `Gt06.exec_tapHandler` — what one delivery does, and what it adds;
* `Gt06.exec_handleCallbackQuery_of_missing` — a tap that fails whenever it is delivered;
* `Gt06.Processed.madeOnce` — what the deliveries of one poll keep;
* `Gt06.one_order_per_tap` — **one tap makes one order when no call fails behind it**;
* `Gt06.expired_query_orders_twice` — a late answer to the tap is enough for a second order.
-/

import Mathlib
import Gt06Server.Billing
import Gt06Server.SubscriptionLifecycle
import Gt06Server.UpdatePolling

set_option relaxedAutoImplicit false
set_option autoImplicit false

namespace Gt06

open Relational Await

/-! ### Actions -/

inductive PaymentAction where
  | subscribe
  deriving DecidableEq, Repr

/-- `split(':')`. -/
def splitColon (data : String) : List String := (data.toList.splitOn ':').map String.ofList

def PaymentAction.parse (data : String) : Option PaymentAction :=
  match splitColon data with
  | ["payment", "subscribe"] => some .subscribe
  | ["payment", "buy", "monthly"] => some .subscribe
  | _ => none

/-! ### What a tap makes -/

/-- A row of `telegram_payment_events`, with the update it was stored for. -/
structure PaymentOrder where
  updateId : ℤ
  telegramUserId : ℤ
  chatId : ℤ
  deviceId : ℤ
  imei : String
  paymentStatus : PaymentStatus
  planCode : String
  grossAmountIdr : ℤ
  periodDays : ℤ
  providerOrderId : String
  expiresAt : ℤ
  providerTransactionId : Option String
  paymentType : Option String
  paymentUrl : Option String
  rawCreateResponse : Option String
  grossAmountIdr_pos : 0 < grossAmountIdr
  deriving Repr

/-- A transaction the provider has, with the update it was made for. -/
structure SnapTransaction where
  updateId : ℤ
  request : MidtransSnapRequest
  deriving DecidableEq, Repr

structure PaymentWorld where
  orders : List PaymentOrder
  orders_providerOrderId : UniqueOn PaymentOrder.providerOrderId orders
  transactions : List SnapTransaction

namespace PaymentWorld

/-- `INSERT`, which the unique key may refuse. -/
def insert (w : PaymentWorld) (order : PaymentOrder) : Option PaymentWorld :=
  if h : ∀ other ∈ w.orders, other.providerOrderId ≠ order.providerOrderId then
    some { w with
      orders := w.orders ++ [order]
      orders_providerOrderId := w.orders_providerOrderId.append h }
  else none

/-- `UPDATE … WHERE provider_order_id = $1`, for an update that leaves the keys alone. -/
def updateOrder (w : PaymentWorld) (orderId : String) (f : PaymentOrder → PaymentOrder)
    (hf : ∀ order, (f order).providerOrderId = order.providerOrderId) : PaymentWorld :=
  { w with
    orders := updateAt PaymentOrder.providerOrderId orderId f w.orders
    orders_providerOrderId := w.orders_providerOrderId.updateAt _ _ hf }

/-- What a webhook does to an order. -/
def closeOrder (w : PaymentWorld) (orderId : String) (status : PaymentStatus) : PaymentWorld :=
  w.updateOrder orderId (fun order => { order with paymentStatus := status }) fun _ => rfl

def addTransaction (w : PaymentWorld) (transaction : SnapTransaction) : PaymentWorld :=
  { w with transactions := w.transactions ++ [transaction] }

/-- How many rows were stored for an update. -/
def ordersFor (w : PaymentWorld) (updateId : ℤ) : ℕ :=
  w.orders.countP fun order => order.updateId = updateId

/-- How many transactions were made for an update. -/
def transactionsFor (w : PaymentWorld) (updateId : ℤ) : ℕ :=
  w.transactions.countP fun transaction => transaction.updateId = updateId

end PaymentWorld

/-! ### The calls of a delivery -/

inductive TelegramRegistrationStatus where
  | awaitingImei
  | bound
  deriving DecidableEq, Repr

structure TelegramUserRecord where
  telegramUserId : ℤ
  chatId : ℤ
  boundImei : Option String
  registrationStatus : TelegramRegistrationStatus
  deriving DecidableEq, Repr

structure BoundDeviceRecord where
  id : ℤ
  imei : String
  deriving DecidableEq, Repr

/-- How the calls end that one delivery of an update makes. -/
structure TapReplies where
  /-- `fetch_telegram_user_by_user_id` in `ensure_bound_for_payment`. -/
  user : Except BotError (Option TelegramUserRecord)
  /-- `answer_callback_query` with a note for the user. -/
  toast : Except BotError Unit
  /-- `fetch_telegram_user_by_user_id` in `handle_payment_action`. -/
  userAgain : Except BotError (Option TelegramUserRecord)
  /-- The row of `devices` with an IMEI, for the order. -/
  device : String → Except BotError (Option BoundDeviceRecord)
  /-- The same, for the plan. -/
  deviceAgain : String → Except BotError (Option BoundDeviceRecord)
  /-- The `pricing_tier` of the device with an IMEI. -/
  pricingTier : String → Except BotError (Option String)
  now : ℤ
  quote : QuoteQueries BotError
  insertFails : Bool
  snap : SnapReply
  markFails : Bool
  callbackAnswered : Except BotError Unit
  linkSent : Except BotError Unit
  /-- The handlers of messages and of other taps, which make no order. -/
  other : Except BotError Unit

/-- A call that leaves the orders alone. -/
def answer {σ α : Type} (x : Except BotError α) : BotT σ α := ExceptT.mk (pure x)

def okOr {α : Type} (x : Option α) (error : BotError) : Except BotError α :=
  match x with
  | some a => .ok a
  | none => .error error

/-! ### Handlers -/

/-- What `handle_payment_action` has found out when it stores the order. -/
structure Checkout where
  midtrans : MidtransClient
  boundDevice : BoundDeviceRecord
  plan : SubscriptionPlan
  createdAt : ℤ
  orderId : String
  expiresAt : ℤ
  quote : SubscriptionPaymentQuote
  deriving DecidableEq, Repr

def TelegramUserRecord.isBound (user : TelegramUserRecord) : Bool :=
  user.boundImei.isSome && user.registrationStatus == .bound

def ensureBoundForPayment (replies : TapReplies) : Except BotError Bool := do
  let isBound := ((← replies.user).map TelegramUserRecord.isBound).getD false
  if !isBound then replies.toast
  return isBound

def resolveBoundDeviceForUser (device : String → Except BotError (Option BoundDeviceRecord))
    (user : TelegramUserRecord) : Except BotError BoundDeviceRecord := do
  let imei ← okOr user.boundImei (.midtrans (.invalidPricingTier "missing_bound_device"))
  okOr (← device imei) (.midtrans (.invalidPricingTier s!"missing_bound_device_record:{imei}"))

def resolveSubscriptionPlanForUser (replies : TapReplies) (midtrans : MidtransClient)
    (user : TelegramUserRecord) : Except BotError SubscriptionPlan := do
  let boundDevice ← resolveBoundDeviceForUser replies.deviceAgain user
  let imei := boundDevice.imei
  let pricingTier ← okOr (← replies.pricingTier imei)
    (.midtrans (.invalidPricingTier s!"missing_device_pricing_tier:{imei}"))
  let tier ← (parsePricingTier pricingTier).mapError .midtrans
  return midtrans.subscriptionPlanForTier tier

/-- The calls of `handle_payment_action` before the order is stored. -/
def prepareCheckout (midtrans : Option MidtransClient) (replies : TapReplies)
    (telegramUserId : ℤ) : Except BotError Checkout := do
  let midtrans ← okOr midtrans .missingMidtransConfig
  let user ← okOr (← replies.userAgain) (.midtrans (.invalidPricingTier "missing_user"))
  let boundDevice ← resolveBoundDeviceForUser replies.device user
  let plan ← resolveSubscriptionPlanForUser replies midtrans user
  let createdAt := replies.now
  let quote ← buildSubscriptionPaymentQuote replies.quote plan.priceIdr createdAt
  return {
    midtrans := midtrans
    boundDevice := boundDevice
    plan := plan
    createdAt := createdAt
    orderId := buildMidtransOrderId telegramUserId createdAt
    expiresAt := createdAt + hours midtrans.expiryHours
    quote := quote }

def midtransPeriodDays : ℤ := 30

/-- The row of a checkout, when it passes the check of its amount. -/
def Checkout.order (checkout : Checkout) (updateId telegramUserId chatId : ℤ) :
    Option PaymentOrder :=
  if h : 0 < checkout.quote.totalAmountIdr then
    some {
      updateId := updateId
      telegramUserId := telegramUserId
      chatId := chatId
      deviceId := checkout.boundDevice.id
      imei := checkout.boundDevice.imei
      paymentStatus := .pending
      planCode := checkout.plan.planCode
      grossAmountIdr := checkout.quote.totalAmountIdr
      periodDays := midtransPeriodDays
      providerOrderId := checkout.orderId
      expiresAt := checkout.expiresAt
      providerTransactionId := none
      paymentType := none
      paymentUrl := none
      rawCreateResponse := none
      grossAmountIdr_pos := h }
  else none

def createPendingMidtransPayment (replies : TapReplies) (order : Option PaymentOrder) :
    BotT PaymentWorld Unit := do
  if replies.insertFails then throw .query
  match order.bind (← get).insert with
  | some w => set w
  | none => throw .query

def Checkout.request (checkout : Checkout) : MidtransSnapRequest :=
  checkout.midtrans.snapRequest checkout.plan checkout.orderId checkout.createdAt
    (checkout.quote.baseAmountIdr + checkout.quote.customerReferenceFeeIdr)
    checkout.quote.shipmentFeeIdr checkout.quote.totalAmountIdr checkout.quote.fineAmountIdr

def Checkout.createdPayment (checkout : Checkout) (reply : SnapReply) :
    Except BotError MidtransCreatedPayment :=
  (checkout.midtrans.createdPayment checkout.orderId checkout.createdAt reply).mapError .midtrans

def createSnapTransaction (replies : TapReplies) (updateId : ℤ) (checkout : Checkout) :
    BotT PaymentWorld MidtransCreatedPayment := do
  if replies.snap.made then
    modify fun w => w.addTransaction ⟨updateId, checkout.request⟩
  answer (checkout.createdPayment replies.snap)

def PaymentOrder.created (order : PaymentOrder) (created : MidtransCreatedPayment) :
    PaymentOrder :=
  { order with
    providerTransactionId := created.transactionId
    paymentType := created.paymentType
    paymentUrl := some created.paymentUrl
    rawCreateResponse := some created.rawResponse }

def markMidtransPaymentCreated (replies : TapReplies) (created : MidtransCreatedPayment) :
    BotT PaymentWorld Unit := do
  if replies.markFails then throw .query
  modify fun w => w.updateOrder created.orderId (fun order => order.created created) fun _ => rfl

/-- The calls behind the stored order. -/
def finishCheckout (replies : TapReplies) (updateId : ℤ) (checkout : Checkout) :
    BotT PaymentWorld Unit := do
  let created ← createSnapTransaction replies updateId checkout
  markMidtransPaymentCreated replies created
  answer replies.callbackAnswered
  -- the keyboard is cleared after the link, and its failure only logged
  answer replies.linkSent

def handlePaymentAction (midtrans : Option MidtransClient) (replies : TapReplies) (updateId : ℤ)
    (callbackQuery : TelegramCallbackQuery) : PaymentAction → BotT PaymentWorld Unit
  | .subscribe => do
      match callbackQuery.message with
      | none => answer replies.toast
      | some message =>
          let telegramUserId := callbackQuery.fromId
          if ← answer (ensureBoundForPayment replies) then
            let checkout ← answer (prepareCheckout midtrans replies telegramUserId)
            createPendingMidtransPayment replies
              (checkout.order updateId telegramUserId message.chatId)
            finishCheckout replies updateId checkout

def handleCallbackQuery (midtrans : Option MidtransClient) (replies : TapReplies) (updateId : ℤ)
    (callbackQuery : TelegramCallbackQuery) : BotT PaymentWorld Unit :=
  match callbackQuery.data with
  | none => pure ()
  | some data =>
      match PaymentAction.parse data with
      | some action => handlePaymentAction midtrans replies updateId callbackQuery action
      | none => answer replies.other

/-- The handlers of the bot, as far as orders go. -/
def tapHandler (midtrans : Option MidtransClient) (replies : TelegramUpdate → TapReplies) :
    Handler PaymentWorld := fun update =>
  botHandler (fun _ => answer (replies update).other)
    (handleCallbackQuery midtrans (replies update) update.updateId) update

/-! ### What a delivery adds -/

/-- An answer with a payment page. -/
def SnapReply.Usable : SnapReply → Prop
  | .failed _ _ => False
  | .answered _ redirectUrl _ => redirectUrl.toList.all isWhitespace = false

/-- The calls behind the stored order succeed. -/
structure TapReplies.LaterCallsSucceed (replies : TapReplies) : Prop where
  snap : replies.snap.Usable
  mark : replies.markFails = false
  callbackAnswered : replies.callbackAnswered = .ok ()
  linkSent : replies.linkSent = .ok ()

/-- A delivery of a tap comes to store an order. -/
def StoresOrder (midtrans : Option MidtransClient) (replies : TapReplies) (updateId : ℤ)
    (callbackQuery : TelegramCallbackQuery) : Prop :=
  callbackQuery.data.bind PaymentAction.parse = some .subscribe ∧
    ∃ message checkout,
      callbackQuery.message = some message ∧
      ensureBoundForPayment replies = .ok true ∧
      prepareCheckout midtrans replies callbackQuery.fromId = .ok checkout ∧
      replies.insertFails = false ∧
      (checkout.order updateId callbackQuery.fromId message.chatId).isSome = true

/-- The rows and transactions for an update are `n` more and at most `n` more, and nothing is added
for any other update. -/
structure PaymentWorld.Adds (updateId : ℤ) (n : ℕ) (w w' : PaymentWorld) : Prop where
  orders : w'.ordersFor updateId = w.ordersFor updateId + n
  transactions : w'.transactionsFor updateId ≤ w.transactionsFor updateId + n
  others : ∀ other ≠ updateId,
    w'.ordersFor other = w.ordersFor other ∧ w'.transactionsFor other = w.transactionsFor other

namespace PaymentWorld

theorem Adds.refl (updateId : ℤ) (w : PaymentWorld) : w.Adds updateId 0 w :=
  ⟨rfl, le_rfl, fun _ _ => ⟨rfl, rfl⟩⟩

theorem insert_eq_some {w w' : PaymentWorld} {order : PaymentOrder}
    (h : w.insert order = some w') :
    w'.orders = w.orders ++ [order] ∧ w'.transactions = w.transactions := by
  unfold insert at h
  split at h
  · obtain rfl := Option.some.inj h
    exact ⟨rfl, rfl⟩
  · cases h

theorem ordersFor_updateOrder {w : PaymentWorld} {orderId : String}
    {f : PaymentOrder → PaymentOrder}
    (hf : ∀ order, (f order).providerOrderId = order.providerOrderId)
    (hupdate : ∀ order, (f order).updateId = order.updateId) (updateId : ℤ) :
    (w.updateOrder orderId f hf).ordersFor updateId = w.ordersFor updateId := by
  unfold ordersFor updateOrder updateAt
  rw [List.countP_map]
  refine List.countP_congr ?_
  intro order _
  simp only [Function.comp_apply]
  split
  · rw [hupdate]
  · rfl

theorem ordersFor_closeOrder {w : PaymentWorld} (orderId : String) (status : PaymentStatus)
    (updateId : ℤ) : (w.closeOrder orderId status).ordersFor updateId = w.ordersFor updateId := by
  refine ordersFor_updateOrder _ ?_ updateId
  exact fun _ => rfl

end PaymentWorld

section Statements

variable {replies : TapReplies} {updateId : ℤ} {w : PaymentWorld}

@[simp] theorem exec_answer {σ α : Type} (x : Except BotError α) (s : σ) :
    exec (answer x : BotT σ α) s = (x, s) := rfl

theorem exec_createPendingMidtransPayment (order : Option PaymentOrder) :
    exec (createPendingMidtransPayment replies order) w =
      if replies.insertFails then (.error .query, w)
      else
        match order.bind w.insert with
        | some w' => (.ok (), w')
        | none => (.error .query, w) := by
  unfold createPendingMidtransPayment
  split
  · rfl
  · simp only [exec_bind, exec_get]
    split
    · rfl
    · rfl

theorem exec_createSnapTransaction (checkout : Checkout) :
    exec (createSnapTransaction replies updateId checkout) w =
      (checkout.createdPayment replies.snap,
        if replies.snap.made then w.addTransaction ⟨updateId, checkout.request⟩ else w) := by
  unfold createSnapTransaction
  split
  · rfl
  · rfl

theorem exec_markMidtransPaymentCreated (created : MidtransCreatedPayment) :
    exec (markMidtransPaymentCreated replies created) w =
      if replies.markFails then (.error .query, w)
      else (.ok (), w.updateOrder created.orderId (fun order => order.created created)
        fun _ => rfl) := by
  unfold markMidtransPaymentCreated
  split
  · rfl
  · rfl

theorem createdPayment_of_usable {reply : SnapReply} (h : reply.Usable) (checkout : Checkout) :
    ∃ created, checkout.createdPayment reply = .ok created := by
  cases reply with
  | failed made error => exact h.elim
  | answered token redirectUrl rawResponse =>
      have hblank : redirectUrl.toList.all isWhitespace = false := h
      unfold Checkout.createdPayment MidtransClient.createdPayment
      simp only [hblank, Bool.false_eq_true, if_false]
      exact ⟨_, rfl⟩

theorem finishCheckout_ok (h : replies.LaterCallsSucceed) (checkout : Checkout) :
    (exec (finishCheckout replies updateId checkout) w).1 = .ok () := by
  obtain ⟨created, hcreated⟩ := createdPayment_of_usable h.snap checkout
  unfold finishCheckout
  simp only [exec_bind, exec_createSnapTransaction, hcreated, exec_markMidtransPaymentCreated,
    h.mark, exec_answer, h.callbackAnswered, h.linkSent, Bool.false_eq_true, if_false]

/-- The calls behind the stored order keep what neither a transaction nor the note of it
changes. -/
theorem finishCheckout_keeps {β : Type} {g : PaymentWorld → β} (checkout : Checkout)
    (htransaction : ∀ w transaction, g (w.addTransaction transaction) = g w)
    (hmark : ∀ (w : PaymentWorld) (created : MidtransCreatedPayment),
      g (w.updateOrder created.orderId (fun order => order.created created) fun _ => rfl) = g w) :
    g (exec (finishCheckout replies updateId checkout) w).2 = g w := by
  have hmade : g (if replies.snap.made then w.addTransaction ⟨updateId, checkout.request⟩ else w) =
      g w := by
    split
    · exact htransaction w _
    · rfl
  unfold finishCheckout
  simp only [exec_bind, exec_createSnapTransaction]
  generalize (if replies.snap.made then w.addTransaction ⟨updateId, checkout.request⟩ else w) = w₁
    at hmade ⊢
  cases checkout.createdPayment replies.snap with
  | error error => exact hmade
  | ok created =>
      simp only [exec_markMidtransPaymentCreated]
      cases replies.markFails with
      | true => exact hmade
      | false =>
          simp only [Bool.false_eq_true, if_false, exec_answer]
          cases replies.callbackAnswered with
          | error error => exact (hmark w₁ created).trans hmade
          | ok _ => exact (hmark w₁ created).trans hmade

/-- The calls behind the stored order leave the number of orders alone. -/
theorem ordersFor_finishCheckout (checkout : Checkout) (other : ℤ) :
    (exec (finishCheckout replies updateId checkout) w).2.ordersFor other = w.ordersFor other := by
  refine finishCheckout_keeps (g := fun w => w.ordersFor other) checkout (fun _ _ => rfl) ?_
  intro w created
  refine PaymentWorld.ordersFor_updateOrder _ ?_ other
  exact fun _ => rfl

/-- They make at most one transaction. -/
theorem transactions_finishCheckout (checkout : Checkout) :
    (exec (finishCheckout replies updateId checkout) w).2.transactions =
      if replies.snap.made then w.transactions ++ [⟨updateId, checkout.request⟩]
      else w.transactions := by
  have hmade : (if replies.snap.made then w.addTransaction ⟨updateId, checkout.request⟩
      else w).transactions =
        if replies.snap.made then w.transactions ++ [⟨updateId, checkout.request⟩]
        else w.transactions := by
    split
    · rfl
    · rfl
  unfold finishCheckout
  simp only [exec_bind, exec_createSnapTransaction]
  cases checkout.createdPayment replies.snap with
  | error error => exact hmade
  | ok created =>
      simp only [exec_markMidtransPaymentCreated]
      cases replies.markFails with
      | true => exact hmade
      | false =>
          simp only [Bool.false_eq_true, if_false, exec_answer]
          cases replies.callbackAnswered with
          | error error => exact hmade
          | ok _ => exact hmade

/-- Storing an order and going on adds one order and at most one transaction for the update. -/
theorem finishCheckout_adds {w₁ : PaymentWorld} {order : PaymentOrder}
    (hinsert : w.insert order = some w₁) (horder : order.updateId = updateId)
    (checkout : Checkout) :
    w.Adds updateId 1 (exec (finishCheckout replies updateId checkout) w₁).2 := by
  obtain ⟨horders, htransactions⟩ := PaymentWorld.insert_eq_some hinsert
  have hcount : ∀ other, w₁.ordersFor other =
      w.ordersFor other + if updateId = other then 1 else 0 := by
    intro other
    unfold PaymentWorld.ordersFor
    rw [horders, List.countP_append, List.countP_singleton, horder]
    simp
  have hmade : ∀ other,
      (exec (finishCheckout replies updateId checkout) w₁).2.transactionsFor other =
      w.transactionsFor other + if replies.snap.made ∧ updateId = other then 1 else 0 := by
    intro other
    unfold PaymentWorld.transactionsFor
    rw [transactions_finishCheckout, htransactions]
    cases replies.snap.made with
    | true => simp [List.countP_append, List.countP_singleton]
    | false => simp
  refine ⟨?_, ?_, ?_⟩
  · rw [ordersFor_finishCheckout, hcount, if_pos rfl]
  · rw [hmade]
    split
    · exact le_rfl
    · exact Nat.le_succ _
  · intro other hother
    rw [ordersFor_finishCheckout, hcount, hmade, if_neg hother.symm,
      if_neg fun h => hother.symm h.2]
    exact ⟨rfl, rfl⟩

end Statements

/-- What a delivery adds for its update: nothing, or an order that it takes to its end unless a
later call fails. -/
structure Delivered (midtrans : Option MidtransClient) (replies : TapReplies) (updateId : ℤ)
    (callbackQuery : TelegramCallbackQuery) (w : PaymentWorld)
    (result : Except BotError Unit × PaymentWorld) : Prop where
  adds : w.Adds updateId 1 result.2
  stores : StoresOrder midtrans replies updateId callbackQuery
  ok : replies.LaterCallsSucceed → result.1 = .ok ()

section Deliveries

variable {midtrans : Option MidtransClient} {updateId : ℤ} {callbackQuery : TelegramCallbackQuery}

theorem updateId_of_order {checkout : Checkout} {telegramUserId chatId : ℤ} {order : PaymentOrder}
    (h : checkout.order updateId telegramUserId chatId = some order) :
    order.updateId = updateId := by
  unfold Checkout.order at h
  split at h
  · obtain rfl := Option.some.inj h
    rfl
  · cases h

/-- A delivery comes to store the order of the checkout, which makes the world `w₁` of `w`. -/
structure CheckoutStored (midtrans : Option MidtransClient) (replies : TapReplies) (updateId : ℤ)
    (callbackQuery : TelegramCallbackQuery) (checkout : Checkout) (w w₁ : PaymentWorld) : Prop where
  subscribes : callbackQuery.data.bind PaymentAction.parse = some .subscribe
  bound : ensureBoundForPayment replies = .ok true
  prepared : prepareCheckout midtrans replies callbackQuery.fromId = .ok checkout
  insertSucceeds : replies.insertFails = false
  inserted : ∃ message order, callbackQuery.message = some message ∧
    checkout.order updateId callbackQuery.fromId message.chatId = some order ∧
    w.insert order = some w₁

theorem CheckoutStored.delivered {replies : TapReplies} {checkout : Checkout}
    {w w₁ : PaymentWorld}
    (h : CheckoutStored midtrans replies updateId callbackQuery checkout w w₁) :
    Delivered midtrans replies updateId callbackQuery w
      (exec (finishCheckout replies updateId checkout) w₁) := by
  obtain ⟨message, order, hmessage, horder, hinsert⟩ := h.inserted
  refine ⟨finishCheckout_adds hinsert (updateId_of_order horder) checkout, ⟨h.subscribes, message,
    checkout, hmessage, h.bound, h.prepared, h.insertSucceeds, ?_⟩,
    fun hlater => finishCheckout_ok hlater checkout⟩
  rw [horder]
  rfl

/-- A delivery leaves the world alone, or stores the order of a checkout and goes on from there. -/
theorem exec_handlePaymentAction (replies : TapReplies) (w : PaymentWorld)
    (haction : callbackQuery.data.bind PaymentAction.parse = some .subscribe) :
    (exec (handlePaymentAction midtrans replies updateId callbackQuery .subscribe) w).2 = w ∨
      ∃ checkout w₁, CheckoutStored midtrans replies updateId callbackQuery checkout w w₁ ∧
        exec (handlePaymentAction midtrans replies updateId callbackQuery .subscribe) w =
          exec (finishCheckout replies updateId checkout) w₁ := by
  -- every call before the order is stored may end the delivery, and nothing is made then
  unfold handlePaymentAction
  cases hmessage : callbackQuery.message with
  | none => exact .inl rfl
  | some message =>
  simp only [exec_bind, exec_answer]
  cases hbound : ensureBoundForPayment replies with
  | error error => exact .inl rfl
  | ok bound =>
  cases bound with
  | false => exact .inl rfl
  | true =>
  simp only [if_true, exec_bind, exec_answer]
  cases hcheckout : prepareCheckout midtrans replies callbackQuery.fromId with
  | error error => exact .inl rfl
  | ok checkout =>
  simp only [exec_createPendingMidtransPayment]
  cases hfails : replies.insertFails with
  | true => exact .inl rfl
  | false =>
  cases horder : checkout.order updateId callbackQuery.fromId message.chatId with
  | none => exact .inl rfl
  | some order =>
  simp only [Bool.false_eq_true, if_false, Option.bind_some]
  cases hinsert : w.insert order with
  | none => exact .inl rfl
  | some w₁ =>
  -- from here on there is an order, whatever becomes of the other calls
  exact .inr ⟨checkout, w₁, ⟨haction, hbound, hcheckout, hfails, message, order, hmessage, horder,
    hinsert⟩, rfl⟩

theorem exec_handleCallbackQuery (replies : TapReplies) (w : PaymentWorld) :
    (exec (handleCallbackQuery midtrans replies updateId callbackQuery) w).2 = w ∨
      ∃ checkout w₁, CheckoutStored midtrans replies updateId callbackQuery checkout w w₁ ∧
        exec (handleCallbackQuery midtrans replies updateId callbackQuery) w =
          exec (finishCheckout replies updateId checkout) w₁ := by
  unfold handleCallbackQuery
  cases hdata : callbackQuery.data with
  | none => exact .inl rfl
  | some data =>
      dsimp only
      cases haction : PaymentAction.parse data with
      | none => exact .inl rfl
      | some action =>
          cases action
          refine exec_handlePaymentAction replies w ?_
          rw [hdata]
          exact haction

/-- Without a configuration of the provider, the tap of a bound user fails whenever it is
delivered, and leaves everything as it was. -/
theorem exec_handleCallbackQuery_of_missing {replies : TapReplies} {message : TelegramMessage}
    (haction : callbackQuery.data.bind PaymentAction.parse = some .subscribe)
    (hmessage : callbackQuery.message = some message)
    (hbound : ensureBoundForPayment replies = .ok true) (w : PaymentWorld) :
    exec (handleCallbackQuery none replies updateId callbackQuery) w =
      (.error .missingMidtransConfig, w) := by
  obtain ⟨data, hdata, hparse⟩ := Option.bind_eq_some_iff.mp haction
  unfold handleCallbackQuery
  simp only [hdata, hparse, handlePaymentAction, hmessage, exec_bind, exec_answer, hbound, if_true]
  rfl

variable (midtrans) in
/-- The handlers of an update: those of its message make no order. -/
theorem tapHandler_cases (replies : TelegramUpdate → TapReplies) (update : TelegramUpdate)
    (w : PaymentWorld) :
    (exec (tapHandler midtrans replies update) w).2 = w ∨
      ∃ callbackQuery checkout w₁, update.callbackQuery = some callbackQuery ∧
        CheckoutStored midtrans (replies update) update.updateId callbackQuery checkout w w₁ ∧
        exec (tapHandler midtrans replies update) w =
          exec (finishCheckout (replies update) update.updateId checkout) w₁ := by
  have hquery : (exec (ifSome update.callbackQuery
        (handleCallbackQuery midtrans (replies update) update.updateId)) w).2 = w ∨
      ∃ callbackQuery checkout w₁, update.callbackQuery = some callbackQuery ∧
        CheckoutStored midtrans (replies update) update.updateId callbackQuery checkout w w₁ ∧
        exec (ifSome update.callbackQuery
            (handleCallbackQuery midtrans (replies update) update.updateId)) w =
          exec (finishCheckout (replies update) update.updateId checkout) w₁ := by
    cases update.callbackQuery with
    | none => exact .inl rfl
    | some callbackQuery =>
        refine (exec_handleCallbackQuery (replies update) w).imp_right ?_
        rintro ⟨checkout, w₁, hstored, hexec⟩
        exact ⟨callbackQuery, checkout, w₁, rfl, hstored, hexec⟩
  unfold tapHandler botHandler
  cases update.message with
  | none => exact hquery
  | some message =>
      simp only [exec_bind, ifSome, exec_answer]
      cases (replies update).other with
      | error error => exact .inl rfl
      | ok _ => exact hquery

variable (midtrans) in
/-- What a delivery adds. -/
theorem exec_tapHandler (replies : TelegramUpdate → TapReplies) (update : TelegramUpdate)
    (w : PaymentWorld) :
    w.Adds update.updateId 0 (exec (tapHandler midtrans replies update) w).2 ∨
      ∃ callbackQuery, update.callbackQuery = some callbackQuery ∧
        Delivered midtrans (replies update) update.updateId callbackQuery w
          (exec (tapHandler midtrans replies update) w) := by
  rcases tapHandler_cases midtrans replies update w with
    hsame | ⟨callbackQuery, checkout, w₁, hquery, hstored, hexec⟩
  · rw [hsame]
    exact .inl (PaymentWorld.Adds.refl update.updateId w)
  · rw [hexec]
    exact .inr ⟨callbackQuery, hquery, hstored.delivered⟩

end Deliveries

/-! ### Every run -/

/-- What happens: Telegram has another update, the bot polls, or a webhook closes an order. -/
inductive TapEvent where
  | arrive (update : TelegramUpdate)
  | poll (midtrans : Option MidtransClient) (calls : PollCalls)
      (replies : TelegramUpdate → TapReplies)
  | webhook (orderId : String) (status : PaymentStatus)

def tapStep (p : Polling PaymentWorld) : TapEvent → Option (Polling PaymentWorld)
  | .arrive update => p.step (.arrive update)
  | .poll midtrans calls replies => p.step (.poll calls (tapHandler midtrans replies))
  | .webhook orderId status => p.step (.others (p.rest.closeOrder orderId status))

/-- When a poll stores an order for the update, no call of the delivery fails afterwards, nor the
one that stores the id of the update. -/
def KeepsLaterCalls (updateId : ℤ) (p : Polling PaymentWorld) : TapEvent → Prop
  | .poll midtrans calls replies =>
      ∀ update ∈ p.pending, update.updateId = updateId →
        ∀ callbackQuery ∈ update.callbackQuery,
          StoresOrder midtrans (replies update) updateId callbackQuery →
            (replies update).LaterCallsSucceed ∧ calls.setStateFails updateId = false
  | _ => True

/-- An update has one order at most, and has one only when the bot is done with it. -/
structure MadeOnce (updateId : ℤ) (p : Polling PaymentWorld) : Prop where
  orders : p.rest.ordersFor updateId ≤ 1
  transactions : p.rest.transactionsFor updateId ≤ p.rest.ordersFor updateId
  stored : p.rest.ordersFor updateId ≠ 0 → ∃ last ∈ p.lastTelegramUpdateId, updateId ≤ last

section Runs

variable {updateId : ℤ} {midtrans : Option MidtransClient} {calls : PollCalls}
  {replies : TelegramUpdate → TapReplies}

/-- One delivery: it adds nothing for the update, or it is the first of this update and all its
calls succeed. -/
theorem MadeOnce.delivery {p : Polling PaymentWorld} (h : MadeOnce updateId p)
    {update : TelegramUpdate} (hbehind : ∀ last ∈ p.lastTelegramUpdateId, last < update.updateId)
    (hkeeps : update.updateId = updateId → ∀ callbackQuery ∈ update.callbackQuery,
      StoresOrder midtrans (replies update) updateId callbackQuery →
        (replies update).LaterCallsSucceed ∧ calls.setStateFails updateId = false)
    {outcome : Except BotError Unit} {rest : PaymentWorld}
    (hexec : exec (tapHandler midtrans replies update) p.rest = (outcome, rest)) :
    (rest.ordersFor updateId = p.rest.ordersFor updateId ∧
        rest.transactionsFor updateId ≤ p.rest.transactionsFor updateId) ∨
      (update.updateId = updateId ∧ rest.ordersFor updateId = 1 ∧
        rest.transactionsFor updateId ≤ 1 ∧ outcome = .ok () ∧
        calls.setStateFails updateId = false) := by
  have hhandler := exec_tapHandler midtrans replies update p.rest
  rw [hexec] at hhandler
  by_cases hid : update.updateId = updateId
  · subst hid
    -- nothing was made for the update before it was delivered for the last time
    have hnone : p.rest.ordersFor update.updateId = 0 := by
      by_contra hsome
      obtain ⟨last, hlast, hle⟩ := h.stored hsome
      have hlt := hbehind last hlast
      omega
    rcases hhandler with hadds | ⟨callbackQuery, hquery, hdelivered⟩
    · exact .inl ⟨hadds.orders, hadds.transactions⟩
    · obtain ⟨hlater, hset⟩ := hkeeps rfl callbackQuery hquery hdelivered.stores
      have horders : rest.ordersFor update.updateId = p.rest.ordersFor update.updateId + 1 :=
        hdelivered.adds.orders
      have htransactions : rest.transactionsFor update.updateId ≤
          p.rest.transactionsFor update.updateId + 1 := hdelivered.adds.transactions
      have hbefore := h.transactions
      refine .inr ⟨rfl, ?_, ?_, hdelivered.ok hlater, hset⟩
      · omega
      · omega
  · have hothers : ∀ n, p.rest.Adds update.updateId n rest →
        rest.ordersFor updateId = p.rest.ordersFor updateId ∧
          rest.transactionsFor updateId ≤ p.rest.transactionsFor updateId := by
      intro n hadds
      obtain ⟨horders, htransactions⟩ := hadds.others updateId (Ne.symm hid)
      exact ⟨horders, htransactions.le⟩
    rcases hhandler with hadds | ⟨callbackQuery, -, hdelivered⟩
    · exact .inl (hothers 0 hadds)
    · exact .inl (hothers 1 hdelivered.adds)

theorem MadeOnce.of_same {p p' : Polling PaymentWorld} (h : MadeOnce updateId p)
    (horders : p'.rest.ordersFor updateId = p.rest.ordersFor updateId)
    (htransactions : p'.rest.transactionsFor updateId ≤ p.rest.transactionsFor updateId)
    (hstored : ∀ last ∈ p.lastTelegramUpdateId, updateId ≤ last →
      ∃ last' ∈ p'.lastTelegramUpdateId, updateId ≤ last') : MadeOnce updateId p' := by
  refine ⟨horders.trans_le h.orders, (htransactions.trans h.transactions).trans_eq horders.symm, ?_⟩
  intro hsome
  obtain ⟨last, hlast, hle⟩ := h.stored (horders ▸ hsome)
  exact hstored last hlast hle

/-- The deliveries of one poll. -/
theorem Processed.madeOnce {updates : List TelegramUpdate} {p p' : Polling PaymentWorld}
    (hprocessed : Processed calls (tapHandler midtrans replies) updates p p')
    (hsorted : updates.Pairwise fun first second => first.updateId < second.updateId)
    (hbehind : ∀ update ∈ updates, ∀ last ∈ p.lastTelegramUpdateId, last < update.updateId)
    (hkeeps : ∀ update ∈ updates, update.updateId = updateId →
      ∀ callbackQuery ∈ update.callbackQuery,
        StoresOrder midtrans (replies update) updateId callbackQuery →
          (replies update).LaterCallsSucceed ∧ calls.setStateFails updateId = false)
    (h : MadeOnce updateId p) : MadeOnce updateId p' := by
  induction hprocessed with
  | nil => exact h
  | @failed update updates p error rest hexec =>
      -- a delivery that fails has stored nothing
      rcases h.delivery (hbehind update List.mem_cons_self) (hkeeps update List.mem_cons_self)
        hexec with ⟨horders, htransactions⟩ | ⟨-, -, -, hok, -⟩
      · exact h.of_same horders htransactions fun last hlast hle => ⟨last, hlast, hle⟩
      · cases hok
  | @unsaved update updates p rest hexec hset =>
      rcases h.delivery (hbehind update List.mem_cons_self) (hkeeps update List.mem_cons_self)
        hexec with ⟨horders, htransactions⟩ | ⟨rfl, -, -, -, hsaved⟩
      · exact h.of_same horders htransactions fun last hlast hle => ⟨last, hlast, hle⟩
      · rw [hset] at hsaved
        cases hsaved
  | @stored update updates p p' rest hexec hset _ ih =>
      obtain ⟨hfirst, hrest⟩ := List.pairwise_cons.mp hsorted
      refine ih hrest ?_ (fun other hother => hkeeps other (List.mem_cons_of_mem _ hother)) ?_
      · intro other hother last hlast
        cases hlast
        exact hfirst other hother
      rcases h.delivery (hbehind update List.mem_cons_self) (hkeeps update List.mem_cons_self)
        hexec with ⟨horders, htransactions⟩ | ⟨rfl, horders, htransactions, -, -⟩
      · refine h.of_same horders htransactions ?_
        intro last hlast hle
        exact ⟨update.updateId, rfl, hle.trans (hbehind update List.mem_cons_self last hlast).le⟩
      · exact ⟨horders.le, htransactions.trans_eq horders.symm, fun _ => ⟨_, rfl, le_rfl⟩⟩

theorem MadeOnce.poll {p : Polling PaymentWorld} (h : MadeOnce updateId p) (hinv : PollInv p)
    (hkeeps : KeepsLaterCalls updateId p (.poll midtrans calls replies)) :
    MadeOnce updateId (p.poll calls (tapHandler midtrans replies)) := by
  rcases poll_cases p with hsame | hprocessed
  · rw [hsame]
    exact h
  have hwaiting : ∀ update ∈ p.waiting.take getUpdatesLimit, update ∈ p.waiting :=
    fun _ hupdate => List.mem_of_mem_take hupdate
  refine hprocessed.madeOnce ?_ ?_ ?_ ⟨h.orders, h.transactions, h.stored⟩
  · exact (hinv.sorted.sublist (waiting_sublist p)).sublist (List.take_sublist _ _)
  · exact fun update hupdate => (mem_waiting.mp (hwaiting update hupdate)).2
  · exact fun update hupdate => hkeeps update (mem_waiting.mp (hwaiting update hupdate)).1

/-- What every event keeps. -/
theorem MadeOnce.step {p p' : Polling PaymentWorld} {event : TapEvent} (h : MadeOnce updateId p)
    (hinv : PollInv p) (hkeeps : KeepsLaterCalls updateId p event)
    (hstep : tapStep p event = some p') : MadeOnce updateId p' ∧ PollInv p' := by
  cases event with
  | arrive update =>
      unfold tapStep at hstep
      refine ⟨?_, pollInv_step hinv hstep⟩
      simp only [Polling.step, Option.ite_none_right_eq_some] at hstep
      obtain rfl := Option.some.inj hstep.2
      exact ⟨h.orders, h.transactions, h.stored⟩
  | poll midtrans calls replies =>
      unfold tapStep at hstep
      refine ⟨?_, pollInv_step hinv hstep⟩
      obtain rfl := Option.some.inj hstep
      exact h.poll hinv hkeeps
  | webhook orderId status =>
      unfold tapStep at hstep
      refine ⟨?_, pollInv_step hinv hstep⟩
      obtain rfl := Option.some.inj hstep
      refine h.of_same ?_ le_rfl fun last hlast hle => ⟨last, hlast, hle⟩
      exact PaymentWorld.ordersFor_closeOrder orderId status updateId

theorem madeOnce_run {batch : UpdateBatch} {w : PaymentWorld} (hnone : w.ordersFor updateId = 0)
    (hnone' : w.transactionsFor updateId = 0) {tr : List (Polling PaymentWorld × TapEvent)}
    {p : Polling PaymentWorld} (run : Run tapStep (batch.start w) tr p)
    (hkeeps : ∀ e ∈ tr, KeepsLaterCalls updateId e.1 e.2) : MadeOnce updateId p ∧ PollInv p := by
  have hstart : MadeOnce updateId (batch.start w) := by
    refine ⟨?_, ?_, fun hsome => absurd hnone hsome⟩
    · exact hnone.le.trans (Nat.zero_le 1)
    · exact hnone'.le.trans (Nat.zero_le _)
  exact (Run.invariant (I := fun p => MadeOnce updateId p ∧ PollInv p)
    (fun _ _ _ h hkeeps hstep => h.1.step h.2 hkeeps hstep) ⟨hstart, pollInv_start batch w⟩
    run hkeeps).2

end Runs

/-- **One tap makes one order when no call fails behind it.**  Whatever else fails, in whichever
order updates, polls and webhooks come: an update for which nothing was made before has at most one
row and at most one transaction, as long as no call fails once a delivery of it has stored its
order. -/
theorem one_order_per_tap {batch : UpdateBatch} {w : PaymentWorld} {updateId : ℤ}
    (hrow : w.ordersFor updateId = 0) (htransaction : w.transactionsFor updateId = 0)
    {tr : List (Polling PaymentWorld × TapEvent)} {p : Polling PaymentWorld}
    (run : Run tapStep (batch.start w) tr p)
    (hkeeps : ∀ e ∈ tr, KeepsLaterCalls updateId e.1 e.2) :
    p.rest.ordersFor updateId ≤ 1 ∧ p.rest.transactionsFor updateId ≤ 1 := by
  have hmade := (madeOnce_run hrow htransaction run hkeeps).1
  exact ⟨hmade.orders, hmade.transactions.trans hmade.orders⟩

/-! ### A tap -/

/-- A user taps the button that subscribes. -/
def subscribeTap : UpdateBatch where
  lastTelegramUpdateId := none
  updates := [⟨7, none, some ⟨"tap", 5, some "payment:subscribe", some ⟨5, none, none, some 30⟩⟩⟩]
  sorted := List.pairwise_singleton _ _
  behind := by simp

def emptyWorld : PaymentWorld := ⟨[], List.nodup_nil, []⟩

/-- Every call succeeds. -/
def replyAt (now : ℤ) : TapReplies where
  user := .ok (some ⟨5, 5, some "359586015829802", .bound⟩)
  toast := .ok ()
  userAgain := .ok (some ⟨5, 5, some "359586015829802", .bound⟩)
  device := fun imei => .ok (some ⟨1, imei⟩)
  deviceAgain := fun imei => .ok (some ⟨1, imei⟩)
  pricingTier := fun _ => .ok (some "basic")
  now := now
  quote := {
    deviceRow := .ok (some ⟨some 1, false, none⟩)
    paidPaymentExists := fun _ => .ok false
    subscriptionRow := .ok none }
  insertFails := false
  snap := .answered "token" "https://app.midtrans.com/snap" "answer"
  markFails := false
  callbackAnswered := .ok ()
  linkSent := .ok ()
  other := .ok ()

/-- Telegram refuses the answer to the tap. -/
def lateReplyAt (now : ℤ) : TapReplies := { replyAt now with callbackAnswered := .error .http }

def midtransDefaults : MidtransClient := ⟨35000, 30000, 24⟩

def pollAt (replies : TapReplies) : TapEvent :=
  .poll (some midtransDefaults) allCalls fun _ => replies

/-- The database does not say who has tapped, so that nothing is stored. -/
def unreadReplyAt (now : ℤ) : TapReplies := { replyAt now with userAgain := .error .query }

theorem not_storesOrder_unread (now : ℤ) (callbackQuery : TelegramCallbackQuery) :
    ¬ StoresOrder (some midtransDefaults) (unreadReplyAt now) 7 callbackQuery := by
  rintro ⟨-, message, checkout, -, -, hprepared, -⟩
  cases hprepared

theorem laterCallsSucceed_replyAt (now : ℤ) : (replyAt now).LaterCallsSucceed := by
  refine ⟨?_, rfl, rfl, rfl⟩
  change "https://app.midtrans.com/snap".toList.all isWhitespace = false
  decide +kernel

/-- The tap is delivered twice, since the first delivery fails before it stores an order. -/
theorem one_order_per_tap_answered :
    ∃ tr p, tr.map Prod.snd = [pollAt (unreadReplyAt 0), pollAt (replyAt 2000000)] ∧
      Run tapStep (subscribeTap.start emptyWorld) tr p ∧
      (p.rest.ordersFor 7 ≠ 0 ∧ p.lastTelegramUpdateId = some 7) ∧
      p.rest.ordersFor 7 ≤ 1 ∧ p.rest.transactionsFor 7 ≤ 1 := by
  have hreplay : (replay tapStep (subscribeTap.start emptyWorld)
      [pollAt (unreadReplyAt 0), pollAt (replyAt 2000000)]).any (fun p =>
        decide (p.rest.ordersFor 7 ≠ 0 ∧ p.lastTelegramUpdateId = some 7)) = true := by
    decide +kernel
  obtain ⟨tr, p, hevents, run, hp⟩ := run_of_replay_any hreplay
  refine ⟨tr, p, hevents, run, of_decide_eq_true hp, one_order_per_tap rfl rfl run ?_⟩
  rintro ⟨before, event⟩ he
  have hevent : event ∈ [pollAt (unreadReplyAt 0), pollAt (replyAt 2000000)] :=
    hevents ▸ List.mem_map_of_mem (f := Prod.snd) he
  rcases List.mem_pair.1 hevent with rfl | rfl
  · intro update _ _ callbackQuery _ hstores
    exact (not_storesOrder_unread 0 callbackQuery hstores).elim
  · intro update _ _ callbackQuery _ _
    exact ⟨laterCallsSucceed_replyAt 2000000, rfl⟩

/-- The answer to the tap comes too late, again and again: each delivery makes another order. -/
theorem expired_query_orders_twice :
    ∃ tr p, tr.map Prod.snd = [pollAt (lateReplyAt 0), pollAt (lateReplyAt 2000000)] ∧
      Run tapStep (subscribeTap.start emptyWorld) tr p ∧
      (p.rest.ordersFor 7 = 2 ∧ p.rest.transactionsFor 7 = 2 ∧
        ∀ order ∈ p.rest.orders, order.paymentStatus = .pending) := by
  have hreplay : (replay tapStep (subscribeTap.start emptyWorld)
      [pollAt (lateReplyAt 0), pollAt (lateReplyAt 2000000)]).any (fun p =>
        decide (p.rest.ordersFor 7 = 2 ∧ p.rest.transactionsFor 7 = 2 ∧
          ∀ order ∈ p.rest.orders, order.paymentStatus = .pending)) = true := by
    decide +kernel
  obtain ⟨tr, p, hevents, run, hp⟩ := run_of_replay_any hreplay
  exact ⟨tr, p, hevents, run, of_decide_eq_true hp⟩

end Gt06
