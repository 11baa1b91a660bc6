/-
**A tap on its own.**

The tap on the button that subscribes is written down twice: as a delivery whose calls end as one
pleases, for what one update may leave behind, and as a program of requests among webhooks, for what
the orders of a device add up to.  When nobody interrupts the program and its requests are answered
as the calls of a delivery end, the two are the same: they end alike, and they leave the same orders
and transactions.

Main definitions:

* `Gt06.TapState`, `Gt06.TapReplies.answer` — the calls of a delivery as answers to requests;
* `Gt06.Reads`, `Gt06.Settles` — a program, and the calls it stands for.

Main results:

* `Gt06.reads_askCheckout` — what is known when the order is stored;
* `Gt06.settles_handleSubscribeAction` — **left alone, the program does what the delivery does**.
-/

import Gt06Server.LoneRuns
import Gt06Server.ShipmentFee

set_option relaxedAutoImplicit false
set_option autoImplicit false

namespace Gt06

open Await

/-! ### The calls of a delivery -/

/-- The world of a delivery; the queries that it makes twice are counted. -/
structure TapState where
  world : PaymentWorld
  userReads : ℕ
  deviceReads : ℕ

/-- A statement of a delivery as the answer to a request. -/
def TapState.statement (s : TapState) {α : Type} (x : BotT PaymentWorld α) : Option α × TapState :=
  ((exec x s.world).1.toOption, { s with world := (exec x s.world).2 })

/-- The answers to the requests of a program, as the calls of a delivery end. -/
def TapReplies.answer (replies : TapReplies) (updateId : ℤ) (s : TapState) :
    (r : SubscribeRequest) → Option r.Reply × TapState
  | .fetchTelegramUserByUserId _ =>
      ((if s.userReads = 0 then replies.user else replies.userAgain).toOption,
        { s with userReads := s.userReads + 1 })
  | .fetchBoundDevice imei =>
      (((if s.deviceReads = 0 then replies.device else replies.deviceAgain) imei).toOption,
        { s with deviceReads := s.deviceReads + 1 })
  | .fetchPricingTier imei => ((replies.pricingTier imei).toOption, s)
  | .utcNow => (some replies.now, s)
  | .fetchQuoteDevice _ => (replies.quote.deviceRow.toOption, s)
  | .paidPaymentExists deviceId => ((replies.quote.paidPaymentExists deviceId).toOption, s)
  | .fetchCurrentPeriodEnd _ => (replies.quote.subscriptionRow.toOption, s)
  | .createPendingMidtransPayment telegramUserId chatId checkout =>
      s.statement (createPendingMidtransPayment replies
        (checkout.order updateId telegramUserId chatId))
  | .createSnapTransaction request =>
      (some replies.snap,
        { s with
          world := if replies.snap.made then s.world.addTransaction ⟨updateId, request⟩
            else s.world })
  | .markMidtransPaymentCreated created => s.statement (markMidtransPaymentCreated replies created)
  | .answerCallbackQuery _ text =>
      ((if text = "" then replies.callbackAnswered else replies.toast).toOption, s)
  | .sendPaymentLink _ _ _ => (replies.linkSent.toOption, s)
  | .clearInlineKeyboard _ _ => (some (), s)

/-! ### Requests that write nothing -/

section Reads

variable {replies : TapReplies} {updateId : ℤ} {α β : Type} {p : SubscribeM α}
  {x : Except BotError α} {s s' s'' : TapState}

/-- The program ends as the calls do and leaves the world alone; if the calls succeed, it ends in
the state `s'`. -/
def Reads (replies : TapReplies) (updateId : ℤ) (p : SubscribeM α) (x : Except BotError α)
    (s s' : TapState) : Prop :=
  ∃ t, p.outcome (replies.answer updateId) s = (x.toOption, t) ∧ t.world = s.world ∧
    ∀ a, x = .ok a → t = s'

theorem reads_pure (a : α) : Reads replies updateId (pure a) (.ok a) s s :=
  ⟨s, rfl, rfl, fun _ _ => rfl⟩

theorem reads_ask {r : SubscribeRequest} {x : Except BotError r.Reply}
    (h : replies.answer updateId s r = (x.toOption, s')) (hworld : s'.world = s.world) :
    Reads replies updateId (askCharge r) x s s' :=
  ⟨s', (Prog.outcome_request r).trans h, hworld, fun _ _ => rfl⟩

theorem reads_required {o : Option α} (h : x.toOption = o) :
    Reads replies updateId (required o) x s s := by
  subst h
  cases x with
  | error error => exact ⟨s, rfl, rfl, fun _ _ => rfl⟩
  | ok a => exact ⟨s, rfl, rfl, fun _ _ => rfl⟩

theorem Reads.bind {f : α → SubscribeM β} {g : α → Except BotError β}
    (hp : Reads replies updateId p x s s')
    (hf : ∀ a, x = .ok a → Reads replies updateId (f a) (g a) s' s'') :
    Reads replies updateId (p >>= f) (x >>= g) s s'' := by
  obtain ⟨t, houtcome, hworld, hstate⟩ := hp
  cases x with
  | error error => exact ⟨t, Prog.outcome_bind_none houtcome, hworld, fun _ h => by cases h⟩
  | ok a =>
      obtain rfl := hstate a rfl
      obtain ⟨t', houtcome', hworld', hstate'⟩ := hf a rfl
      exact ⟨t', (Prog.outcome_bind_some houtcome).trans houtcome', hworld'.trans hworld, hstate'⟩

/-- An answer that is known. -/
theorem Reads.bind_ok {a : α} {f : α → SubscribeM β} {y : Except BotError β}
    (hp : Reads replies updateId p (.ok a) s s') (hf : Reads replies updateId (f a) y s' s'') :
    Reads replies updateId (p >>= f) y s s'' := by
  refine hp.bind (g := fun _ => y) fun b hb => ?_
  obtain rfl := Except.ok.inj hb
  exact hf

theorem reads_ensureBound (callbackQuery : TelegramCallbackQuery) (hfirst : s.userReads = 0) :
    Reads replies updateId (ensureBound callbackQuery) (ensureBoundForPayment replies) s
      { s with userReads := s.userReads + 1 } := by
  have huser : Reads replies updateId
      (askCharge (.fetchTelegramUserByUserId callbackQuery.fromId)) replies.user s
      { s with userReads := s.userReads + 1 } := by
    refine reads_ask ?_ rfl
    simp only [TapReplies.answer, hfirst, if_true]
  refine huser.bind fun user _ => ?_
  dsimp only
  cases (user.map TelegramUserRecord.isBound).getD false with
  | true => exact reads_pure true
  | false =>
      have htoast : Reads replies updateId (askCharge (.answerCallbackQuery callbackQuery.id
          "Hubungkan perangkat dulu lewat /start ya.")) replies.toast
          { s with userReads := s.userReads + 1 } { s with userReads := s.userReads + 1 } :=
        reads_ask rfl rfl
      exact htoast.bind fun _ _ => reads_pure false

theorem reads_askBoundDevice {device : String → Except BotError (Option BoundDeviceRecord)}
    (hdevice : (if s.deviceReads = 0 then replies.device else replies.deviceAgain) = device)
    (user : TelegramUserRecord) :
    Reads replies updateId (askBoundDevice user) (resolveBoundDeviceForUser device user) s
      { s with deviceReads := s.deviceReads + 1 } := by
  refine Reads.bind (reads_required (s := s) ?_) fun imei _ => ?_
  · cases user.boundImei with
    | none => rfl
    | some imei => rfl
  · have hask : Reads replies updateId (askCharge (.fetchBoundDevice imei)) (device imei) s
        { s with deviceReads := s.deviceReads + 1 } := by
      refine reads_ask ?_ rfl
      simp only [TapReplies.answer, hdevice]
    refine hask.bind fun found _ => reads_required ?_
    cases found with
    | none => rfl
    | some found => rfl

theorem reads_askSubscriptionPlan (hsecond : s.deviceReads ≠ 0) (midtrans : MidtransClient)
    (user : TelegramUserRecord) :
    Reads replies updateId (askSubscriptionPlan midtrans user)
      (resolveSubscriptionPlanForUser replies midtrans user) s
      { s with deviceReads := s.deviceReads + 1 } := by
  refine (reads_askBoundDevice (if_neg hsecond) user).bind fun boundDevice _ => ?_
  generalize ({ s with deviceReads := s.deviceReads + 1 } : TapState) = t
  have htier : Reads replies updateId (askCharge (.fetchPricingTier boundDevice.imei))
      (replies.pricingTier boundDevice.imei) t t := reads_ask rfl rfl
  refine htier.bind fun pricingTier _ => ?_
  refine Reads.bind (reads_required (s := t) ?_) fun pricingTier _ => ?_
  · cases pricingTier with
    | none => rfl
    | some pricingTier => rfl
  · refine Reads.bind (reads_required (s := t) ?_) fun tier _ => reads_pure _
    unfold parsePricingTier
    cases PricingTier.parse pricingTier with
    | none => rfl
    | some tier => rfl

theorem reads_askQuote (telegramUserId planPriceIdr now : ℤ) :
    Reads replies updateId (askQuote telegramUserId planPriceIdr now)
      (buildSubscriptionPaymentQuote replies.quote planPriceIdr now) s s := by
  have hdevice : Reads replies updateId (askCharge (.fetchQuoteDevice telegramUserId))
      replies.quote.deviceRow s s := reads_ask rfl rfl
  have hsubscription : Reads replies updateId (askCharge (.fetchCurrentPeriodEnd telegramUserId))
      replies.quote.subscriptionRow s s := reads_ask rfl rfl
  unfold askQuote buildSubscriptionPaymentQuote
  refine hdevice.bind fun deviceRow _ => ?_
  cases hid : deviceRow.bind QuoteDeviceRow.id with
  | none =>
      have hpaid : Reads replies updateId (askPaidPaymentExists deviceRow) (pure false) s s := by
        simp only [askPaidPaymentExists, hid]
        exact reads_pure false
      refine hpaid.bind fun paid hfalse => ?_
      refine hsubscription.bind fun subscriptionRow _ => reads_required ?_
      obtain rfl : false = paid := Except.ok.inj hfalse
      simp only [answeredQueries, bind, Except.bind, hid]
      rfl
  | some deviceId =>
      have hpaid : Reads replies updateId (askPaidPaymentExists deviceRow)
          (replies.quote.paidPaymentExists deviceId) s s := by
        simp only [askPaidPaymentExists, hid]
        exact reads_ask rfl rfl
      refine hpaid.bind fun paid _ => hsubscription.bind fun subscriptionRow _ => reads_required ?_
      simp only [answeredQueries, bind, Except.bind, hid]
      rfl

/-- What is known when the order is stored. -/
theorem reads_askCheckout (midtrans : Option MidtransClient) (telegramUserId : ℤ)
    (huser : s.userReads ≠ 0) (hdevice : s.deviceReads = 0) :
    Reads replies updateId (askCheckout midtrans telegramUserId)
      (prepareCheckout midtrans replies telegramUserId) s
      { s with userReads := s.userReads + 1, deviceReads := s.deviceReads + 2 } := by
  unfold askCheckout prepareCheckout
  refine Reads.bind (reads_required (s := s) ?_) fun midtrans _ => ?_
  · cases midtrans with
    | none => rfl
    | some midtrans => rfl
  have hask : Reads replies updateId (askCharge (.fetchTelegramUserByUserId telegramUserId))
      replies.userAgain s { s with userReads := s.userReads + 1 } := by
    refine reads_ask ?_ rfl
    simp only [TapReplies.answer, huser, if_false]
  refine hask.bind fun user _ => ?_
  refine Reads.bind (reads_required (s := { s with userReads := s.userReads + 1 }) ?_)
    fun user _ => ?_
  · cases user with
    | none => rfl
    | some user => rfl
  have hbound : Reads replies updateId (askBoundDevice user)
      (resolveBoundDeviceForUser replies.device user) ⟨s.world, s.userReads + 1, s.deviceReads⟩
      ⟨s.world, s.userReads + 1, s.deviceReads + 1⟩ :=
    reads_askBoundDevice (s := ⟨s.world, s.userReads + 1, s.deviceReads⟩) (if_pos hdevice) user
  have hplan : Reads replies updateId (askSubscriptionPlan midtrans user)
      (resolveSubscriptionPlanForUser replies midtrans user)
      ⟨s.world, s.userReads + 1, s.deviceReads + 1⟩
      ⟨s.world, s.userReads + 1, s.deviceReads + 2⟩ :=
    reads_askSubscriptionPlan (s := ⟨s.world, s.userReads + 1, s.deviceReads + 1⟩)
      (Nat.succ_ne_zero _) midtrans user
  refine hbound.bind fun boundDevice _ => hplan.bind fun plan _ => ?_
  generalize (⟨s.world, s.userReads + 1, s.deviceReads + 2⟩ : TapState) = t
  have hnow : Reads replies updateId (askCharge .utcNow) (.ok replies.now) t t :=
    reads_ask rfl rfl
  refine hnow.bind_ok ?_
  exact (reads_askQuote telegramUserId plan.priceIdr replies.now).bind fun quote _ => reads_pure _

end Reads

/-! ### Statements -/

section Settles

variable {replies : TapReplies} {updateId : ℤ} {α β : Type} {p : SubscribeM α}
  {x : BotT PaymentWorld α} {s : TapState}

/-- The program ends as the calls do, and leaves what they leave. -/
def Settles (replies : TapReplies) (updateId : ℤ) (p : SubscribeM α) (x : BotT PaymentWorld α)
    (s : TapState) : Prop :=
  ∃ t, p.outcome (replies.answer updateId) s = ((exec x s.world).1.toOption, t) ∧
    t.world = (exec x s.world).2

theorem settles_pure (a : α) : Settles replies updateId (pure a) (pure a) s := ⟨s, rfl, rfl⟩

/-- A statement of the delivery. -/
theorem settles_ask {r : SubscribeRequest} {x : BotT PaymentWorld r.Reply}
    (h : replies.answer updateId s r = s.statement x) :
    Settles replies updateId (askCharge r) x s :=
  ⟨(s.statement x).2, (Prog.outcome_request r).trans h, rfl⟩

theorem Reads.settles {y : Except BotError α} {s' : TapState}
    (h : Reads replies updateId p y s s') : Settles replies updateId p (answer y) s := by
  obtain ⟨t, houtcome, hworld, -⟩ := h
  exact ⟨t, houtcome, hworld⟩

theorem Settles.bind {f : α → SubscribeM β} {g : α → BotT PaymentWorld β}
    (hp : Settles replies updateId p x s)
    (hf : ∀ a t, Settles replies updateId (f a) (g a) t) :
    Settles replies updateId (p >>= f) (x >>= g) s := by
  obtain ⟨t, houtcome, hworld⟩ := hp
  unfold Settles
  rw [exec_bind]
  rcases hx : exec x s.world with ⟨error | a, w⟩
  · rw [hx] at houtcome hworld
    exact ⟨t, Prog.outcome_bind_none houtcome, hworld⟩
  · rw [hx] at houtcome hworld
    obtain rfl : t.world = w := hworld
    obtain ⟨t', houtcome', hworld'⟩ := hf a t
    exact ⟨t', (Prog.outcome_bind_some houtcome).trans houtcome', hworld'⟩

/-- Queries first, in the state they leave. -/
theorem Reads.bind_settles {y : Except BotError α} {s' : TapState} {f : α → SubscribeM β}
    {g : α → BotT PaymentWorld β} (hp : Reads replies updateId p y s s')
    (hf : ∀ a, Settles replies updateId (f a) (g a) s') :
    Settles replies updateId (p >>= f) (answer y >>= g) s := by
  obtain ⟨t, houtcome, hworld, hstate⟩ := hp
  unfold Settles
  rw [exec_bind, exec_answer]
  cases y with
  | error error => exact ⟨t, Prog.outcome_bind_none houtcome, hworld⟩
  | ok a =>
      obtain rfl := hstate a rfl
      obtain ⟨t', houtcome', hworld'⟩ := hf a
      rw [hworld] at houtcome' hworld'
      exact ⟨t', (Prog.outcome_bind_some houtcome).trans houtcome', hworld'⟩

end Settles

/-! ### The whole tap -/

section Tap

variable {replies : TapReplies} {updateId : ℤ} {s : TapState}

theorem settles_createSnapTransaction (checkout : Checkout) :
    Settles replies updateId
      (askCharge (.createSnapTransaction checkout.request) >>= fun reply =>
        required (checkout.createdPayment reply).toOption)
      (createSnapTransaction replies updateId checkout) s := by
  refine ⟨(replies.answer updateId s (.createSnapTransaction checkout.request)).2, ?_, ?_⟩
  · rw [exec_createSnapTransaction]
    refine (Prog.outcome_bind_some (Prog.outcome_request _)).trans ?_
    cases checkout.createdPayment replies.snap with
    | error error => rfl
    | ok created => rfl
  · rw [exec_createSnapTransaction]
    simp only [TapReplies.answer]

/-- A keyboard that cannot be cleared is only logged. -/
theorem settles_clearInlineKeyboard (chatId messageId : ℤ) :
    Settles replies updateId
      ((askCharge (.clearInlineKeyboard chatId messageId)).attempt >>= fun _ => pure ())
      (pure ()) s :=
  ⟨s, Prog.outcome_bind_some (Prog.outcome_attempt.trans rfl), rfl⟩

theorem settles_sendCheckout (callbackQuery : TelegramCallbackQuery) (message : TelegramMessage)
    (checkout : Checkout) :
    Settles replies updateId (sendCheckout callbackQuery message checkout)
      (finishCheckout replies updateId checkout) s := by
  unfold sendCheckout finishCheckout
  rw [← Prog.bind_assoc]
  refine (settles_createSnapTransaction checkout).bind fun created t => ?_
  refine Settles.bind (settles_ask rfl) fun _ t => ?_
  have hanswered : Reads replies updateId (askCharge (.answerCallbackQuery callbackQuery.id ""))
      replies.callbackAnswered t t := reads_ask rfl rfl
  refine hanswered.settles.bind fun _ t => ?_
  have hlink : Reads replies updateId
      (askCharge (.sendPaymentLink message.chatId checkout created)) replies.linkSent t t :=
    reads_ask rfl rfl
  rw [← bind_pure_unit (x := answer replies.linkSent)]
  exact hlink.settles.bind fun _ _ => settles_clearInlineKeyboard _ _

/-- **Left alone, the program of a tap does what a delivery of the tap does.** -/
theorem settles_handleSubscribeAction (midtrans : Option MidtransClient)
    (callbackQuery : TelegramCallbackQuery) (w : PaymentWorld) :
    Settles replies updateId (handleSubscribeAction midtrans callbackQuery)
      (handlePaymentAction midtrans replies updateId callbackQuery .subscribe) ⟨w, 0, 0⟩ := by
  unfold handleSubscribeAction handlePaymentAction
  cases callbackQuery.message with
  | none =>
      have htoast : Reads replies updateId (askCharge (.answerCallbackQuery callbackQuery.id
          "Buka chat bot-nya dulu lalu coba lagi ya.")) replies.toast ⟨w, 0, 0⟩ ⟨w, 0, 0⟩ :=
        reads_ask rfl rfl
      exact htoast.settles
  | some message =>
      refine (reads_ensureBound callbackQuery rfl).bind_settles fun isBound => ?_
      cases isBound with
      | false => exact settles_pure ()
      | true =>
          refine (reads_askCheckout midtrans callbackQuery.fromId (Nat.succ_ne_zero _)
            rfl).bind_settles fun checkout => ?_
          exact Settles.bind (settles_ask rfl) fun _ t =>
            settles_sendCheckout callbackQuery message checkout

end Tap

end Gt06
