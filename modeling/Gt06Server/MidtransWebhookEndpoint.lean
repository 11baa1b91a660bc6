/-
**The webhook endpoint and its errors.**

`post_midtrans_webhook` checks a notification, applies it in a transaction, and then tells the
customer of a payment with a sticker and a message.  An error of any of these is the answer, and
the provider delivers the notification again.

The transaction takes back what it has written when one of its statements fails.  The two calls of
Telegram come after it: when one of them fails the payment stays, the notification that is
delivered again finds an order that has been paid, and nobody tells the customer.

Main definitions:

* `Gt06.postMidtransWebhook` — one request: the answer, the database, and what Telegram has been
  sent;
* `Gt06.WebhookRequest.Pays` — the requests whose transaction turns an order paid;
* `Gt06.ErrorAtomic` — an error leaves everything to the next delivery.

Main results:

* `Gt06.postMidtransWebhook_error` — what an error can leave;
* `Gt06.errorAtomic_iff` — **exactly when an error leaves everything to the next delivery**;
* `Gt06.blocked_bot_loses_message` — a customer who is never told.
-/

import Gt06Server.MidtransLedger

set_option relaxedAutoImplicit false
set_option autoImplicit false

namespace Gt06

/-! ### Transactions that pay -/

namespace WebhookCall

variable {call : WebhookCall} {α β : Type} {db db' : Database}

/-- Statements that succeed one after the other. -/
theorem bind_ok {x : StateT Database (Except SqlError) α}
    {f : α → StateT Database (Except SqlError) β} {r : β × Database}
    (h : (x >>= f) db = .ok r) : ∃ a db', x db = .ok (a, db') ∧ f a db' = .ok r := by
  have hbind : (x >>= f) db = (x db).bind fun p => f p.1 p.2 := rfl
  rw [hbind] at h
  cases hx : x db with
  | error error =>
      rw [hx] at h
      cases h
  | ok p =>
      rw [hx] at h
      exact ⟨p.1, p.2, rfl, h⟩

theorem execute_ok {statement : WebhookStatement} {f : Database → Database} {u : Unit}
    (h : call.execute statement f db = .ok (u, db')) : call.fails statement = false := by
  unfold execute at h
  cases hfails : call.fails statement with
  | false => rfl
  | true =>
      rw [hfails, if_pos rfl] at h
      cases h

theorem fetch_ok {statement : WebhookStatement} {f : Database → α} {a : α}
    (h : call.fetch statement f db = .ok (a, db')) : call.fails statement = false := by
  unfold fetch at h
  cases hfails : call.fails statement with
  | false => rfl
  | true =>
      rw [hfails, if_pos rfl] at h
      cases h

/-- Without a credit there is no payment. -/
theorem commit_ne_paid {outcome : MidtransWebhookApplyOutcome}
    {subscription : MidtransSubscriptionRecord} (hne : outcome ≠ .paid subscription) :
    call.commit outcome db ≠ .ok (.paid subscription, db') := by
  intro h
  obtain ⟨_, db₁, -, h⟩ := bind_ok h
  exact hne (Prod.mk.inj (Except.ok.inj h)).1

/-- A transaction that pays needs all of its statements. -/
theorem succeeds_of_credit {event : PaymentEvent} {subscription : MidtransSubscriptionRecord}
    (hbegin : call.fails .beginTransaction = false)
    (hselect : call.fails .selectPaymentEvent = false)
    (h : call.credit event db = .ok (.paid subscription, db')) : call.Succeeds := by
  obtain ⟨existing, db₁, hexisting, h⟩ := bind_ok h
  obtain ⟨row, db₂, hrow, h⟩ := bind_ok h
  obtain ⟨_, db₃, -, h⟩ := bind_ok h
  obtain ⟨_, db₄, hupdate, h⟩ := bind_ok h
  obtain ⟨_, db₅, hsanction, h⟩ := bind_ok h
  obtain ⟨_, db₆, hcommit, -⟩ := bind_ok h
  intro statement
  cases statement with
  | beginTransaction => exact hbegin
  | selectPaymentEvent => exact hselect
  | updatePaymentEvent => exact execute_ok hupdate
  | selectSubscription => exact fetch_ok hexisting
  | upsertSubscription => exact fetch_ok hrow
  | resolveSanction => exact execute_ok hsanction
  | commit => exact execute_ok hcommit

theorem succeeds_of_paid {subscription : MidtransSubscriptionRecord}
    (h : (applyMidtransWebhook db call).1 = .ok (.paid subscription)) : call.Succeeds := by
  obtain ⟨db', h⟩ : ∃ db', call.statements db = .ok (.paid subscription, db') := by
    unfold applyMidtransWebhook at h
    split at h
    · next outcome db' hstatements =>
      obtain rfl : outcome = .paid subscription := Except.ok.inj h
      exact ⟨db', hstatements⟩
    · cases h
  obtain ⟨_, db₁, hbegin, h⟩ := bind_ok h
  obtain ⟨found, db₂, hselect, h⟩ := bind_ok h
  have hbegins := execute_ok hbegin
  have hselects := fetch_ok hselect
  cases found with
  | none => exact absurd h (commit_ne_paid (by simp))
  | some event =>
      simp only [settle] at h
      split at h
      · exact absurd h (commit_ne_paid (by simp))
      · split at h
        · obtain ⟨_, db₃, -, h⟩ := bind_ok h
          exact absurd h (commit_ne_paid (by simp))
        · split at h
          · obtain ⟨_, db₃, -, h⟩ := bind_ok h
            exact absurd h (commit_ne_paid (by simp))
          · cases hamount : notifiedGrossAmount call.notification with
            | none =>
                simp only [hamount] at h
                cases h
            | some amount =>
                simp only [hamount] at h
                split at h
                · exact absurd h (commit_ne_paid (by simp))
                · exact succeeds_of_credit hbegins hselects h

end WebhookCall

/-! ### One request -/

/-- The keys the endpoint is configured with. -/
structure AppState where
  midtransServerKey : Option String
  telegramBotToken : Option String

/-- The calls of a request that may fail. -/
inductive WebhookFailure where
  | statement (statement : WebhookStatement)
  | sendTelegramSticker
  | sendTelegramMessage
  deriving DecidableEq, Repr

/-- A notification, the time it is received, that of the transaction, and which calls fail. -/
structure WebhookRequest where
  notification : MidtransWebhookNotification
  receivedAt : ℤ
  now : ℤ
  fails : WebhookFailure → Bool

/-- What Telegram is sent for a payment. -/
inductive PaymentNotice where
  | sticker (chatId : ℤ)
  | paymentSuccess (chatId : ℤ) (currentPeriodEndAt : Option ℤ)
  deriving DecidableEq, Repr

/-- An error of the checks, of a statement, or of Telegram. -/
inductive WebhookError where
  | api (error : ApiError)
  | http
  deriving DecidableEq, Repr

/-- The answer, the database, and what Telegram has been sent. -/
structure WebhookResult where
  response : Except WebhookError String
  db : Database
  notices : List PaymentNotice

/-- The call of `apply_midtrans_webhook` for an accepted notification. -/
def WebhookRequest.call (request : WebhookRequest) (mappedStatus : MidtransPaymentStatus) :
    WebhookCall where
  notification := request.notification
  mappedStatus := mappedStatus
  receivedAt := request.receivedAt
  now := request.now
  fails := fun statement => request.fails (.statement statement)

/-- The sticker and the message for a payment; the first that fails is the error. -/
def notifyPayment (request : WebhookRequest) (subscription : MidtransSubscriptionRecord) :
    Except WebhookError String × List PaymentNotice :=
  let sticker := PaymentNotice.sticker subscription.chatId
  if request.fails .sendTelegramSticker then (.error .http, [])
  else if request.fails .sendTelegramMessage then (.error .http, [sticker])
  else (.ok "paid",
    [sticker, .paymentSuccess subscription.chatId subscription.currentPeriodEndAt])

/-- The answer to a notification that has been applied. -/
def respond (state : AppState) (request : WebhookRequest) :
    MidtransWebhookApplyOutcome → Except WebhookError String × List PaymentNotice
  | .paid subscription =>
      match state.telegramBotToken with
      | some _ => notifyPayment request subscription
      | none => (.ok "paid", [])
  | .ignored => (.ok "ignored", [])
  | .unknownOrder => (.ok "unknown_order", [])

section Endpoint

variable (sha512 : ByteArray → List UInt8) (state : AppState)

/-- What follows the transaction. -/
def answerWebhook (request : WebhookRequest) :
    Except SqlError MidtransWebhookApplyOutcome × Database → WebhookResult
  | (.error error, db) => ⟨.error (.api (.query error)), db, []⟩
  | (.ok outcome, db) =>
      ⟨(respond state request outcome).1, db, (respond state request outcome).2⟩

def postMidtransWebhook (db : Database) (request : WebhookRequest) : WebhookResult :=
  match acceptMidtransWebhook sha512 state.midtransServerKey request.notification with
  | .error error => ⟨.error (.api error), db, []⟩
  | .ok mappedStatus =>
      answerWebhook state request (applyMidtransWebhook db (request.call mappedStatus))

/-- The same notification once more, at another time, and nothing fails. -/
def WebhookRequest.again (request : WebhookRequest) (receivedAt now : ℤ) : WebhookRequest where
  notification := request.notification
  receivedAt := receivedAt
  now := now
  fails := fun _ => false

/-- An error leaves the three tables as they were, so that the next delivery does what this one
should have done, and tells the customer. -/
structure ErrorAtomic (db : Database) (request : WebhookRequest) : Prop where
  unchanged : ∀ error, (postMidtransWebhook sha512 state db request).response = .error error →
    (postMidtransWebhook sha512 state db request).db.paymentEvents = db.paymentEvents ∧
      (postMidtransWebhook sha512 state db request).db.subscriptions = db.subscriptions ∧
      (postMidtransWebhook sha512 state db request).db.sanctions = db.sanctions
  retried : ∀ error, (postMidtransWebhook sha512 state db request).response = .error error →
    ∀ receivedAt now,
      postMidtransWebhook sha512 state (postMidtransWebhook sha512 state db request).db
          (request.again receivedAt now) =
        postMidtransWebhook sha512 state db (request.again receivedAt now)

/-! ### What a request can end with -/

/-- The transaction of the request turns an order paid. -/
structure WebhookRequest.Pays (db : Database) (request : WebhookRequest) : Prop where
  accepted : acceptMidtransWebhook sha512 state.midtransServerKey request.notification = .ok .paid
  sufficient : ∃ event amount, db.paymentEventOf request.notification.orderId = some event ∧
    event.paymentStatus = .pending ∧ notifiedGrossAmount request.notification = some amount ∧
      event.grossAmountIdr ≤ amount
  succeeds : ∀ statement, request.fails (.statement statement) = false

/-- Both calls of Telegram succeed. -/
def WebhookRequest.TellsCustomer (request : WebhookRequest) : Prop :=
  request.fails .sendTelegramSticker = false ∧ request.fails .sendTelegramMessage = false

variable {sha512 state} {db : Database} {request : WebhookRequest}

theorem respond_ok {outcome : MidtransWebhookApplyOutcome}
    (h : state.telegramBotToken = none ∨ request.TellsCustomer) :
    ∃ status, (respond state request outcome).1 = .ok status := by
  cases outcome with
  | paid subscription =>
      cases htoken : state.telegramBotToken with
      | none => exact ⟨"paid", by rw [respond, htoken]⟩
      | some token =>
          rcases h with h | ⟨hsticker, hmessage⟩
          · exact absurd (htoken.symm.trans h) (by simp)
          · exact ⟨"paid", by simp [respond, htoken, notifyPayment, hsticker, hmessage]⟩
  | ignored => exact ⟨"ignored", rfl⟩
  | unknownOrder => exact ⟨"unknown_order", rfl⟩

theorem respond_error (htoken : state.telegramBotToken ≠ none) (htells : ¬ request.TellsCustomer)
    (subscription : MidtransSubscriptionRecord) :
    ∃ error, (respond state request (.paid subscription)).1 = .error error := by
  obtain ⟨token, htoken⟩ := Option.ne_none_iff_exists'.1 htoken
  simp only [respond, htoken, notifyPayment]
  cases hsticker : request.fails .sendTelegramSticker with
  | true => exact ⟨.http, rfl⟩
  | false =>
      cases hmessage : request.fails .sendTelegramMessage with
      | true => exact ⟨.http, rfl⟩
      | false => exact absurd ⟨hsticker, hmessage⟩ htells

/-- What the transaction of a request that pays does. -/
theorem WebhookRequest.Pays.apply (h : request.Pays sha512 state db) :
    ∃ event, db.paymentEventOf request.notification.orderId = some event ∧
      event.paymentStatus = .pending ∧
      applyMidtransWebhook db (request.call .paid) =
        (.ok (.paid (db.creditRecord (request.call .paid) event)),
          db.credited (request.call .paid) event) := by
  obtain ⟨event, amount, hfound, hpending, hamount, henough⟩ := h.sufficient
  refine ⟨event, hfound, hpending, ?_⟩
  have hstep := applyMidtransWebhook_step db (request.call .paid)
  generalize applyMidtransWebhook db (request.call .paid) = applied at hstep
  obtain ⟨result, db'⟩ := applied
  -- the order is known, pending and paid in full, and nothing fails
  cases hstep with
  | unknownOrder hfound' => exact absurd (hfound.symm.trans hfound') (by simp)
  | alreadyPaid event' hfound' hpaid =>
      obtain rfl : event = event' := Option.some.inj (hfound.symm.trans hfound')
      exact absurd (hpending.symm.trans hpaid) (by decide)
  | alreadyClosed event' hfound' hpaid hclosed =>
      obtain rfl : event = event' := Option.some.inj (hfound.symm.trans hfound')
      exact absurd hpending hclosed
  | closes event' hfound' hpending' hmapped => exact absurd rfl hmapped
  | notANumber event' hfound' hpending' hmapped hamount' =>
      exact absurd (hamount.symm.trans hamount') (by simp)
  | underpaid event' amount' hfound' hpending' hmapped hamount' hless =>
      obtain rfl : event = event' := Option.some.inj (hfound.symm.trans hfound')
      obtain rfl : amount = amount' := Option.some.inj (hamount.symm.trans hamount')
      omega
  | paid event' amount' hfound' hpending' hmapped hamount' henough' =>
      obtain rfl : event = event' := Option.some.inj (hfound.symm.trans hfound')
      rfl
  | failed statement hfails =>
      have hfails : request.fails (.statement statement) = true := hfails
      rw [h.succeeds statement] at hfails
      exact absurd hfails Bool.false_ne_true

/-- What an error leaves: the database as it was, or an order that has been paid and a customer
who has not been told. -/
theorem postMidtransWebhook_error {error : WebhookError}
    (h : (postMidtransWebhook sha512 state db request).response = .error error) :
    (postMidtransWebhook sha512 state db request).db = db ∨
      request.Pays sha512 state db ∧ state.telegramBotToken ≠ none ∧ ¬ request.TellsCustomer := by
  unfold postMidtransWebhook at h ⊢
  cases haccept : acceptMidtransWebhook sha512 state.midtransServerKey request.notification with
  | error error' => exact Or.inl rfl
  | ok mappedStatus =>
      simp only [haccept] at h ⊢
      have hstep := applyMidtransWebhook_step db (request.call mappedStatus)
      have hsucceeds := fun subscription =>
        @WebhookCall.succeeds_of_paid (request.call mappedStatus) db subscription
      generalize applyMidtransWebhook db (request.call mappedStatus) = applied at hstep h hsucceeds
      obtain ⟨result, db'⟩ := applied
      cases hstep with
      | unknownOrder _ => exact Or.inl rfl
      | alreadyPaid _ _ _ => exact Or.inl rfl
      | alreadyClosed _ _ _ _ => cases h
      | closes _ _ _ _ => cases h
      | notANumber _ _ _ _ _ => exact Or.inl rfl
      | underpaid _ _ _ _ _ _ _ => exact Or.inl rfl
      | paid event amount hfound hpending hmapped hamount henough =>
          obtain rfl : mappedStatus = .paid := hmapped
          refine Or.inr ⟨⟨haccept, ⟨event, amount, hfound, hpending, hamount, henough⟩,
            hsucceeds _ rfl⟩, ?_, ?_⟩
          · intro htoken
            obtain ⟨status, hok⟩ := @respond_ok state request (.paid _) (Or.inl htoken)
            exact absurd (hok.symm.trans h) (by simp)
          · intro htells
            obtain ⟨status, hok⟩ := @respond_ok state request (.paid _) (Or.inr htells)
            exact absurd (hok.symm.trans h) (by simp)
      | failed _ _ => exact Or.inl rfl

/-- What a request that pays ends with. -/
theorem postMidtransWebhook_pays (h : request.Pays sha512 state db) :
    ∃ event, db.paymentEventOf request.notification.orderId = some event ∧
      event.paymentStatus = .pending ∧
      (postMidtransWebhook sha512 state db request).response =
        (respond state request (.paid (db.creditRecord (request.call .paid) event))).1 ∧
      (postMidtransWebhook sha512 state db request).db =
        db.credited (request.call .paid) event := by
  obtain ⟨event, hfound, hpending, happly⟩ := h.apply
  refine ⟨event, hfound, hpending, ?_⟩
  unfold postMidtransWebhook
  simp only [h.accepted, happly]
  exact ⟨rfl, rfl⟩

/-- **Exactly when an error leaves everything to the next delivery**: unless the request turns an
order paid, the bot has a token, and one of the two calls of Telegram fails. -/
theorem errorAtomic_iff (sha512 : ByteArray → List UInt8) (state : AppState) (db : Database)
    (request : WebhookRequest) :
    ErrorAtomic sha512 state db request ↔
      (request.Pays sha512 state db → state.telegramBotToken = none ∨ request.TellsCustomer) := by
  constructor
  · intro h hpays
    by_contra hfails
    obtain ⟨htoken, htells⟩ := not_or.1 hfails
    obtain ⟨event, hfound, hpending, hresult⟩ := postMidtransWebhook_pays hpays
    obtain ⟨hresponse, hdb⟩ := hresult
    obtain ⟨error, herror⟩ := respond_error htoken htells
      (db.creditRecord (request.call .paid) event)
    obtain ⟨hevents, -, -⟩ := h.unchanged error (hresponse.trans herror)
    -- the order was pending and is paid
    have hstatus : (db.credited (request.call .paid) event).statusOf
        request.notification.orderId = db.statusOf request.notification.orderId := by
      rw [hdb] at hevents
      rw [Database.statusOf, Database.paymentEventOf, hevents]
      rfl
    rw [statusOf_credited hfound, Database.statusOf, hfound] at hstatus
    have hpaid : PaymentStatus.paid = event.paymentStatus :=
      Option.some.inj ((if_pos rfl).symm.trans hstatus)
    exact absurd (hpaid.trans hpending) (by decide)
  · intro h
    have hkeeps : ∀ error,
        (postMidtransWebhook sha512 state db request).response = .error error →
          (postMidtransWebhook sha512 state db request).db = db := by
      intro error herror
      rcases postMidtransWebhook_error herror with hdb | ⟨hpays, htoken, htells⟩
      · exact hdb
      · rcases h hpays with hnone | hsome
        · exact absurd hnone htoken
        · exact absurd hsome htells
    constructor
    · intro error herror
      rw [hkeeps error herror]
      exact ⟨rfl, rfl, rfl⟩
    · intro error herror receivedAt now
      rw [hkeeps error herror]

end Endpoint

/-! ### A customer who has blocked the bot -/

def bothKeys : AppState := ⟨some "server-key", some "bot-token"⟩

/-- The sticker cannot be delivered. -/
def blockedBot : WebhookRequest where
  notification := settledNotification
  receivedAt := 1777111320000000
  now := 1777111320000000
  fails := fun call => call = .sendTelegramSticker

/-- The first delivery is answered with an error and the order is paid; the second is ignored, and
the message has never been sent. -/
theorem blocked_bot_loses_message :
    (postMidtransWebhook sampleSha512 bothKeys pendingDatabase blockedBot).response =
        .error .http ∧
      (postMidtransWebhook sampleSha512 bothKeys pendingDatabase blockedBot).db.statusOf
        pendingEvent.providerOrderId = some .paid ∧
      (postMidtransWebhook sampleSha512 bothKeys
        (postMidtransWebhook sampleSha512 bothKeys pendingDatabase blockedBot).db
        (blockedBot.again 1777111380000000 1777111380000000)).response = .ok "ignored" ∧
      (postMidtransWebhook sampleSha512 bothKeys
        (postMidtransWebhook sampleSha512 bothKeys pendingDatabase blockedBot).db
        (blockedBot.again 1777111380000000 1777111380000000)).notices = [] ∧
      ¬ ErrorAtomic sampleSha512 bothKeys pendingDatabase blockedBot := by
  have hruns : (postMidtransWebhook sampleSha512 bothKeys pendingDatabase blockedBot).response =
        .error .http ∧
      (postMidtransWebhook sampleSha512 bothKeys pendingDatabase blockedBot).db.statusOf
        pendingEvent.providerOrderId = some .paid ∧
      (postMidtransWebhook sampleSha512 bothKeys
        (postMidtransWebhook sampleSha512 bothKeys pendingDatabase blockedBot).db
        (blockedBot.again 1777111380000000 1777111380000000)).response = .ok "ignored" ∧
      (postMidtransWebhook sampleSha512 bothKeys
        (postMidtransWebhook sampleSha512 bothKeys pendingDatabase blockedBot).db
        (blockedBot.again 1777111380000000 1777111380000000)).notices = [] := by decide +kernel
  obtain ⟨herror, hpaid, hignored, hnone⟩ := hruns
  refine ⟨herror, hpaid, hignored, hnone, ?_⟩
  intro h
  obtain ⟨hevents, -, -⟩ := h.unchanged .http herror
  rw [Database.statusOf, Database.paymentEventOf, hevents] at hpaid
  exact absurd hpaid (by decide +kernel)

end Gt06
