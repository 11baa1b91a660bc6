/-
**What users without a subscription are shown.**

Reports and alerts are for subscribers.  The handlers check the subscription of the user who has
sent the message or pressed the button; a report is then about this user's device, while the button
of an alert leads to the device of a session, or of a user that the chat leads to.

A handler is followed here from the tables it starts in, and nobody else moves meanwhile.

Main definitions:

* `Gt06.ChatWorld.DeviceSubscribed` — the user of a device is a subscriber;
* `Gt06.ChatRequest.Sends` — a condition on the messages that are sent;
* `Gt06.AlertLeads` — the devices that the button of an alert may lead to;
* `Gt06.ChatWorld.LeadsToSubscribers` — the button leads to devices of subscribers.

Main results:

* `Gt06.safe_hasActiveSubscriptionNow` — the check;
* `Gt06.safe_handleMessage` — messages show only devices of subscribers;
* `Gt06.safe_handleChatCallbackQuery` — **so do buttons that lead to such devices**, and without a
  subscription a press is answered with the payment menu or with help.
-/

import Gt06Server.LoneRuns
import Gt06Server.OwnDevice

set_option relaxedAutoImplicit false
set_option autoImplicit false

namespace Gt06

open Await Relational

/-! ### What is shown -/

/-- The user bound to the device has an active subscription now. -/
def ChatWorld.DeviceSubscribed (w : ChatWorld) (imei : String) : Prop :=
  ∃ row ∈ w.telegramUsers, row.boundImei = some imei ∧ w.Subscribed row.telegramUserId

/-- The requests of `handle_message`, for given choices of what the tables leave open. -/
def ChatWorld.messageRequests (summarize : List RidePoint → RideSummary)
    (parseDate : String → Option ℤ) (w : ChatWorld) (message : TelegramMessage)
    (choices : ℕ → ChatOutcome) : List ChatRequest :=
  Prog.trace (ChatWorld.answers summarize) (handleMessage parseDate message) choices w

/-- A message that is sent satisfies the condition. -/
def ChatRequest.Sends (Allowed : ChatMessage → Prop) : ChatRequest → Prop
  | .sendMessage _ message => Allowed message
  | _ => True

/-- The message shows only devices of subscribers. -/
def ChatWorld.ShowsSubscribed (w : ChatWorld) (message : ChatMessage) : Prop :=
  ∀ imei ∈ message.device, w.DeviceSubscribed imei

/-- What a press by a user without a subscription is answered with. -/
def ChatMessage.isUnsubscribedAnswer : ChatMessage → Bool
  | .subscriptionMenu => true
  | .contactSupport => true
  | .notBoundUseStart => true
  | _ => false

/-- What a press may be answered with. -/
def ChatWorld.AnswersPress (w : ChatWorld) (telegramUserId : ℤ) (message : ChatMessage) : Prop :=
  w.ShowsSubscribed message ∧
    (¬ w.Subscribed telegramUserId → message.isUnsubscribedAnswer = true)

/-- The devices that the button of an alert may lead to: the one of the session it names, or the
one of a user of the chat. -/
def AlertLeads (w : ChatWorld) (chatId : ℤ) (action : TheftAlertAction) (imei : String) : Prop :=
  match action.sessionId with
  | some sessionId => ∃ session ∈ fetchEngineSessionById w.telegramEngineSessions sessionId,
      session.chatId = chatId ∧ session.imei = imei
  | none => ∃ row ∈ w.telegramUsers, row.chatId = chatId ∧
      row.record.bind TelegramUserRecord.boundImei = some imei

/-- There is something to show: a tracking link begins at a stored location. -/
def AlertHasContent (w : ChatWorld) (action : TheftAlertAction) (imei : String) : Prop :=
  match action with
  | .streamLocation _ => fetchLatestLocationReceivedAt w.deviceLocations imei ≠ none
  | _ => True

/-- A press that gets past the check leads to devices of subscribers. -/
def ChatWorld.LeadsToSubscribers (w : ChatWorld) (query : TelegramCallbackQuery) : Prop :=
  ∀ message action, query.theftAlert = some (message, action) →
    action.requiresActiveSubscription = true → w.Subscribed query.fromId →
      ∀ imei, AlertLeads w message.chatId action imei → AlertHasContent w action imei →
        w.DeviceSubscribed imei

section Handlers

variable {summarize : List RidePoint → RideSummary} {Allowed : ChatMessage → Prop}
  {w : ChatWorld} {chatId telegramUserId : ℤ} {imei : String} {α : Type}

theorem deviceSubscribed_of_boundTo (hbound : w.BoundTo telegramUserId imei)
    (hactive : w.Subscribed telegramUserId) : w.DeviceSubscribed imei := by
  obtain ⟨row, hrow, rfl, himei⟩ := hbound
  exact ⟨row, hrow, himei, hactive⟩

theorem showsSubscribed_of_device_eq_none {message : ChatMessage} (h : message.device = none) :
    w.ShowsSubscribed message := by
  intro imei himei
  rw [h] at himei
  cases himei

/-- The terms of a handler that sends messages of a kind. -/
abbrev messaging (summarize : List RidePoint → RideSummary) (Allowed : ChatMessage → Prop) :
    Contract ChatRequest ChatRequest.Reply ChatWorld :=
  Contract.alone (ChatWorld.answers summarize) (ChatRequest.Sends Allowed)

theorem sends_of_confined {D : String → Prop}
    (h : ∀ message : ChatMessage, (∀ imei ∈ message.device, D imei) → Allowed message)
    {r : ChatRequest} (hr : r.Confined D) : r.Sends Allowed := by
  cases r with
  | sendMessage chatId message => exact h message hr
  | _ => trivial

/-- Programs that show only some devices send messages of a kind. -/
theorem safe_of_confined {D : String → Prop}
    (h : ∀ message : ChatMessage, (∀ imei ∈ message.device, D imei) → Allowed message)
    {p : ChatM α} (hp : p.Uses (ChatRequest.Confined D)) :
    (messaging summarize Allowed).Safe p (fun _ _ => True) w :=
  Contract.alone_of_allowed (Prog.uses_mono (fun _ => sends_of_confined h) hp)

/-! ### Requests -/

/-- One request, which fails or is executed. -/
theorem messaging_ask {r : ChatRequest} {Q : Option r.Reply → ChatWorld → Prop}
    (hr : r.Sends Allowed) (hnone : Q none w)
    (hsome : ∀ outcome, Q (some (w.execute summarize outcome r).1)
      (w.execute summarize outcome r).2) :
    (messaging summarize Allowed).Safe (askChat r) Q w := by
  refine Contract.alone_request hr ?_
  intro outcome
  rcases w.answer_cases summarize outcome r with hanswer | ⟨-, hanswer⟩
  · simp only [ChatWorld.answers, hanswer]
    exact hnone
  · simp only [ChatWorld.answers, hanswer]
    exact hsome outcome

theorem messaging_ask_bind {r : ChatRequest} {f : r.Reply → ChatM α}
    {Q : Option α → ChatWorld → Prop} (hr : r.Sends Allowed) (hnone : Q none w)
    (hsome : ∀ outcome, (messaging summarize Allowed).Safe (f (w.execute summarize outcome r).1) Q
      (w.execute summarize outcome r).2) :
    (messaging summarize Allowed).Safe (askChat r >>= f) Q w :=
  Contract.safe_bind.2 (messaging_ask hr hnone hsome)

/-- What follows a program that leaves the tables alone. -/
theorem messaging_bind_same {β : Type} {p : ChatM α} {f : α → ChatM β} {J : α → Prop}
    (hp : (messaging summarize Allowed).Safe p (fun x w' => w' = w ∧ ∀ a ∈ x, J a) w)
    (hf : ∀ a, J a → (messaging summarize Allowed).Safe (f a) (fun _ _ => True) w) :
    (messaging summarize Allowed).Safe (p >>= f) (fun _ _ => True) w := by
  refine Contract.safe_bind.2 (hp.mono ?_)
  rintro x w' ⟨rfl, hx⟩
  cases x with
  | none => trivial
  | some a => exact hf a (hx a rfl)

/-- The check of the subscription. -/
theorem safe_hasActiveSubscriptionNow :
    (messaging summarize Allowed).Safe (hasActiveSubscriptionNow telegramUserId)
      (fun x w' => w' = w ∧ ∀ active ∈ x, active = true → w.Subscribed telegramUserId) w := by
  refine messaging_ask_bind trivial ⟨rfl, by simp⟩ ?_
  intro _
  refine messaging_ask trivial ⟨rfl, by simp⟩ ?_
  intro _
  refine ⟨rfl, ?_⟩
  rintro active hactive rfl
  exact Option.some.inj hactive

theorem safe_clearKeyboard (messageId : Option ℤ) :
    (messaging summarize Allowed).Safe (clearKeyboard chatId messageId)
      (fun x w' => w' = w ∧ ∀ a ∈ x, a = ()) w := by
  cases messageId with
  | none => exact ⟨rfl, fun _ _ => rfl⟩
  | some messageId =>
      refine Contract.safe_bind.2 (Contract.safe_attempt.2 (messaging_ask trivial ?_ ?_))
      · exact ⟨rfl, fun _ _ => rfl⟩
      · exact fun _ => ⟨rfl, fun _ _ => rfl⟩

/-- The gate: who gets past it is a subscriber, and the others get the payment menu. -/
theorem safe_ensureActiveSubscription (hmenu : Allowed .subscriptionMenu)
    (callbackQueryId : String) (messageId : Option ℤ) :
    (messaging summarize Allowed).Safe
      (ensureActiveSubscription callbackQueryId chatId telegramUserId messageId)
      (fun x w' => w' = w ∧ ∀ active ∈ x, active = true → w.Subscribed telegramUserId) w := by
  refine Contract.safe_bind.2 (safe_hasActiveSubscriptionNow.mono ?_)
  rintro x w' ⟨rfl, hx⟩
  cases x with
  | none => exact ⟨rfl, by simp⟩
  | some active =>
      have hactive := hx active rfl
      cases active with
      | true =>
          refine ⟨rfl, ?_⟩
          rintro _ _ _
          exact hactive rfl
      | false =>
          -- the press is acknowledged, the buttons go, and the payment menu is sent
          refine messaging_ask_bind trivial ⟨rfl, by simp⟩ fun _ => ?_
          refine Contract.safe_bind.2 ((safe_clearKeyboard messageId).mono ?_)
          rintro x w' ⟨rfl, -⟩
          cases x with
          | none => exact ⟨rfl, by simp⟩
          | some _ =>
              refine Contract.safe_bind.2 ?_
              refine messaging_ask_bind hmenu ⟨rfl, by simp⟩ fun _ => ?_
              exact ⟨rfl, by simp⟩

/-- The device of the user whose row is looked up. -/
theorem boundTo_of_fetch {imei : String}
    (h : (fetchTelegramUserByUserId w.telegramUsers telegramUserId).bind
      TelegramUserRecord.boundImei = some imei) : w.BoundTo telegramUserId imei := by
  unfold fetchTelegramUserByUserId at h
  cases hrow : rowAt TelegramUserRow.telegramUserId telegramUserId w.telegramUsers with
  | none => simp [hrow] at h
  | some row =>
      obtain ⟨hmem, hid⟩ := mem_of_rowAt hrow
      rw [hrow, Option.bind_some] at h
      exact boundTo_of_record hmem hid h

/-! ### Messages -/

theorem sendChat_sends {message : ChatMessage} (h : Allowed message) :
    (sendChat chatId message).Uses (ChatRequest.Sends Allowed) :=
  Prog.uses_bind (Prog.uses_request h) fun _ => trivial

/-- Commands show no device. -/
theorem handleCommand_uses (chatId telegramUserId : ℤ) (command : BotCommand) :
    (handleCommand chatId telegramUserId command).Uses
      (ChatRequest.Sends fun message => message.device = none) := by
  refine Prog.uses_bind (Prog.uses_request trivial) ?_
  intro user
  cases command with
  | start =>
      dsimp only [handleStart]
      split
      · refine Prog.uses_bind (Prog.uses_bind (Prog.uses_request trivial) fun _ =>
          Prog.uses_request trivial) fun isActive => ?_
        split
        · exact sendChat_sends rfl
        · exact Prog.uses_bind (Prog.uses_bind (Prog.uses_attempt (Prog.uses_request trivial))
            fun _ => trivial) fun _ => sendChat_sends rfl
      · exact Prog.uses_bind (Prog.uses_request trivial) fun _ => sendChat_sends rfl
  | help => exact sendChat_sends rfl
  | paySupport => exact sendChat_sends rfl
  | terms => exact sendChat_sends rfl
  | unknown command => exact sendChat_sends rfl

/-- Nor does the registration. -/
theorem handleImei_uses (chatId telegramUserId : ℤ) (user : TelegramUserRecord) (imei : String) :
    (handleImei chatId telegramUserId user imei).Uses
      (ChatRequest.Sends fun message => message.device = none) := by
  unfold handleImei
  split
  · exact sendChat_sends rfl
  split
  · exact sendChat_sends rfl
  refine Prog.uses_bind (Prog.uses_request trivial) fun deviceExists => ?_
  split
  · exact sendChat_sends rfl
  refine Prog.uses_bind (Prog.uses_request trivial) fun taken => ?_
  split
  · exact sendChat_sends rfl
  refine Prog.uses_bind (Prog.uses_request trivial) fun _ => ?_
  refine Prog.uses_bind (sendChat_sends rfl) fun _ => ?_
  refine Prog.uses_bind (Prog.uses_bind (Prog.uses_attempt (Prog.uses_request trivial))
    fun _ => trivial) fun _ => ?_
  exact sendChat_sends rfl

theorem safe_of_no_device {p : ChatM α}
    (hp : p.Uses (ChatRequest.Sends fun message => message.device = none)) :
    (messaging summarize w.ShowsSubscribed).Safe p (fun _ _ => True) w := by
  refine Contract.alone_of_allowed (Prog.uses_mono ?_ hp)
  intro r hr
  cases r with
  | sendMessage chatId message => exact showsSubscribed_of_device_eq_none hr
  | _ => trivial

/-- The dates of a report: the check comes before the report. -/
theorem safe_handleCustomAnalyticsInput (parseDate : String → Option ℤ) {user : TelegramUserRecord}
    (hbound : ∀ imei ∈ user.boundImei, w.BoundTo telegramUserId imei) (kind : AnalyticsKind)
    (text : String) :
    (messaging summarize w.ShowsSubscribed).Safe
      (handleCustomAnalyticsInput parseDate chatId telegramUserId user kind text)
      (fun _ _ => True) w := by
  unfold handleCustomAnalyticsInput
  cases himei : user.boundImei with
  | none =>
      refine safe_of_confined (D := fun _ => False) ?_ ?_
      · exact fun message hmessage imei h => (hmessage imei h).elim
      · exact confined_ask_bind trivial fun _ => sendChat_uses_of_none rfl
  | some imei =>
      refine messaging_bind_same safe_hasActiveSubscriptionNow ?_
      intro active hactive
      cases active with
      | false =>
          refine safe_of_confined (D := fun _ => False) ?_ ?_
          · exact fun message hmessage imei h => (hmessage imei h).elim
          · exact confined_ask_bind trivial fun _ => sendChat_uses_of_none rfl
      | true =>
          -- the report is about the device of the user who has been checked
          have hdevice : w.DeviceSubscribed imei :=
            deviceSubscribed_of_boundTo (hbound imei himei) (hactive rfl)
          refine safe_of_confined (D := w.DeviceSubscribed) (fun _ h => h) ?_
          simp only [Bool.not_true, Bool.false_eq_true, if_false]
          split
          · exact sendChat_uses_of_none (by split <;> rfl)
          · refine confined_ask_bind trivial fun _ => ?_
            exact confined_ask_bind trivial fun referenceTime =>
              sendAnalyticsReport_uses hdevice referenceTime

theorem safe_getPendingAnalyticsKind :
    (messaging summarize Allowed).Safe (getPendingAnalyticsKind chatId)
      (fun x w' => w' = w ∧ ∀ _pending ∈ x, True) w :=
  messaging_ask_bind trivial ⟨rfl, fun _ _ => trivial⟩ fun _ => ⟨rfl, fun _ _ => trivial⟩

/-- **Messages show only devices of subscribers.** -/
theorem safe_handleMessage (parseDate : String → Option ℤ) (message : TelegramMessage) :
    (messaging summarize w.ShowsSubscribed).Safe (handleMessage parseDate message)
      (fun _ _ => True) w := by
  unfold handleMessage
  split
  · next telegramUserId text _ _ =>
    split
    · exact safe_of_no_device (handleCommand_uses _ _ _)
    · refine messaging_ask_bind trivial trivial fun _ => ?_
      dsimp only [ChatWorld.execute]
      split
      · next user huser =>
        have hbound : ∀ imei ∈ user.boundImei, w.BoundTo telegramUserId imei := by
          intro imei himei
          refine boundTo_of_fetch ?_
          rw [huser, Option.bind_some]
          exact himei
        refine messaging_bind_same safe_getPendingAnalyticsKind fun pending _ => ?_
        cases pending with
        | some kind => exact safe_handleCustomAnalyticsInput parseDate hbound kind text
        | none =>
            dsimp only
            split
            · trivial
            · generalize trim text = imei
              exact safe_of_no_device (handleImei_uses message.chatId telegramUserId user imei)
      · trivial
  · trivial

/-! ### Buttons -/

/-- What a subscriber is shown of a device of a subscriber. -/
theorem answersPress_of_subscribed (hactive : w.Subscribed telegramUserId) (message : ChatMessage)
    (h : ∀ imei ∈ message.device, w.DeviceSubscribed imei) :
    w.AnswersPress telegramUserId message :=
  ⟨h, fun hnot => absurd hactive hnot⟩

theorem answersPress_of_isUnsubscribedAnswer {message : ChatMessage}
    (h : message.isUnsubscribedAnswer = true) : w.AnswersPress telegramUserId message := by
  refine ⟨showsSubscribed_of_device_eq_none ?_, fun _ => h⟩
  cases message with
  | subscriptionMenu => rfl
  | contactSupport => rfl
  | notBoundUseStart => rfl
  | _ => cases h

theorem safe_handleAnalyticsCallback {query : TelegramCallbackQuery} (message : TelegramMessage)
    (action : AnalyticsAction) :
    (messaging summarize (w.AnswersPress query.fromId)).Safe
      (handleAnalyticsCallback query message action) (fun _ _ => True) w := by
  refine messaging_bind_same (safe_ensureActiveSubscription
    (answersPress_of_isUnsubscribedAnswer rfl) query.id message.messageId) ?_
  intro active hactive
  cases active with
  | false => trivial
  | true =>
      have hsubscribed := hactive rfl
      have haction : (messaging summarize (w.AnswersPress query.fromId)).Safe
          (handleAnalyticsAction message.chatId query.fromId action) (fun _ _ => True) w := by
        refine messaging_ask_bind trivial trivial fun _ => ?_
        dsimp only [ChatWorld.execute]
        refine safe_of_confined (answersPress_of_subscribed hsubscribed) ?_
        split
        · next imei himei =>
          exact answerAnalyticsAction_uses
            (deviceSubscribed_of_boundTo (boundTo_of_fetch himei) hsubscribed) action
        · exact sendChat_uses_of_none rfl
      refine messaging_ask_bind trivial trivial fun _ => ?_
      dsimp only [ChatWorld.execute]
      split
      · exact messaging_bind_same (safe_clearKeyboard message.messageId) fun _ _ => haction
      · exact haction

theorem safe_handleSessionActionCallback {query : TelegramCallbackQuery}
    (message : TelegramMessage) (action : SessionAction) :
    (messaging summarize (w.AnswersPress query.fromId)).Safe
      (handleSessionActionCallback query message action) (fun _ _ => True) w := by
  refine messaging_bind_same (safe_ensureActiveSubscription
    (answersPress_of_isUnsubscribedAnswer rfl) query.id message.messageId) ?_
  intro active hactive
  cases active with
  | false => trivial
  | true =>
      exact safe_of_confined (D := fun _ => False)
        (fun shown hshown => answersPress_of_subscribed (hactive rfl) shown
          fun imei himei => (hshown imei himei).elim)
        (handleSessionAction_uses query.id _ action)

/-- The answer to a button that leads to a device of a subscriber, or asks for help. -/
theorem safe_answerTheftAlertAction {session : Option EngineSession} {action : TheftAlertAction}
    (hactive : action.requiresActiveSubscription = true → w.Subscribed telegramUserId)
    (hdevice : action.requiresActiveSubscription = true → AlertHasContent w action imei →
      w.DeviceSubscribed imei) :
    (messaging summarize (w.AnswersPress telegramUserId)).Safe
      (answerTheftAlertAction chatId imei session action) (fun _ _ => True) w := by
  cases action with
  | contactSupport sessionId =>
      refine Contract.alone_of_allowed (Prog.uses_bind (Prog.uses_request ?_) fun _ => trivial)
      exact answersPress_of_isUnsubscribedAnswer rfl
  | checkLatestStatus sessionId =>
      exact safe_of_confined (answersPress_of_subscribed (hactive rfl))
        (answerTheftAlertAction_uses (hdevice rfl trivial) session _)
  | streamLocation sessionId =>
      refine messaging_ask_bind trivial trivial fun _ => ?_
      dsimp only [ChatWorld.execute]
      refine safe_of_confined (answersPress_of_subscribed (hactive rfl)) (sendChat_uses ?_)
      cases hstart : fetchLatestLocationReceivedAt w.deviceLocations imei with
      | none => exact fun _ hshown => by cases hshown
      | some startAt =>
          intro shown hshown
          obtain rfl : imei = shown := Option.some.inj hshown
          refine hdevice rfl ?_
          rw [AlertHasContent, hstart]
          exact Option.some_ne_none startAt

theorem safe_handleTheftAlertAction {action : TheftAlertAction}
    (hactive : action.requiresActiveSubscription = true → w.Subscribed telegramUserId)
    (hleads : action.requiresActiveSubscription = true → ∀ imei, AlertLeads w chatId action imei →
      AlertHasContent w action imei → w.DeviceSubscribed imei) :
    (messaging summarize (w.AnswersPress telegramUserId)).Safe
      (handleTheftAlertAction chatId action) (fun _ _ => True) w := by
  refine messaging_ask_bind trivial trivial fun outcome => ?_
  dsimp only [ChatWorld.execute]
  cases hsession : action.sessionId with
  | some sessionId =>
      refine messaging_ask_bind trivial trivial fun _ => ?_
      dsimp only [ChatWorld.execute]
      split
      · next session hfilter =>
        obtain ⟨hfound, hchat⟩ := Option.filter_eq_some_iff.1 hfilter
        refine safe_answerTheftAlertAction hactive fun hrequires => hleads hrequires _ ?_
        simp only [AlertLeads, hsession]
        exact ⟨session, hfound, of_decide_eq_true hchat, rfl⟩
      · trivial
  | none =>
      dsimp only
      split
      · next imei himei =>
        refine safe_answerTheftAlertAction hactive fun hrequires => hleads hrequires _ ?_
        simp only [AlertLeads, hsession]
        cases hrow : pickRow (w.telegramUsers.filter fun row => row.chatId = chatId)
            outcome.row with
        | none => simp [fetchTelegramUserByChatId, hrow] at himei
        | some row =>
            rw [fetchTelegramUserByChatId, hrow, Option.bind_some] at himei
            obtain ⟨hmem, hchat⟩ := List.mem_filter.1 (List.mem_of_getElem? hrow)
            exact ⟨row, hmem, of_decide_eq_true hchat, himei⟩
      · refine Contract.alone_of_allowed (Prog.uses_bind (Prog.uses_request ?_) fun _ => trivial)
        exact answersPress_of_isUnsubscribedAnswer rfl

theorem safe_handleTheftAlertCallback {query : TelegramCallbackQuery} {message : TelegramMessage}
    {action : TheftAlertAction}
    (hleads : action.requiresActiveSubscription = true → w.Subscribed query.fromId →
      ∀ imei, AlertLeads w message.chatId action imei → AlertHasContent w action imei →
        w.DeviceSubscribed imei) :
    (messaging summarize (w.AnswersPress query.fromId)).Safe
      (handleTheftAlertCallback query message action) (fun _ _ => True) w := by
  -- the gate, which stands open for those who ask for help
  have hgate : (messaging summarize (w.AnswersPress query.fromId)).Safe
      (ensureTheftAlertSubscription query message action)
      (fun x w' => w' = w ∧ ∀ active ∈ x, active = true →
        action.requiresActiveSubscription = true → w.Subscribed query.fromId) w := by
    unfold ensureTheftAlertSubscription
    split
    · refine (safe_ensureActiveSubscription (answersPress_of_isUnsubscribedAnswer rfl) query.id
        message.messageId).mono ?_
      rintro x w' ⟨hsame, hx⟩
      exact ⟨hsame, fun active hmem htrue _ => hx active hmem htrue⟩
    · next hfree => exact ⟨rfl, fun _ _ _ hrequires => absurd hrequires hfree⟩
  refine messaging_bind_same hgate ?_
  intro active hactive
  cases active with
  | false => trivial
  | true =>
      refine messaging_ask_bind trivial trivial fun _ => ?_
      exact safe_handleTheftAlertAction (hactive rfl) fun hrequires =>
        hleads hrequires (hactive rfl hrequires)

/-- **Buttons show only devices of subscribers**, when those of alerts lead to such devices; and
without a subscription a press is answered with the payment menu or with help. -/
theorem safe_handleChatCallbackQuery {query : TelegramCallbackQuery}
    (h : w.LeadsToSubscribers query) :
    (messaging summarize (w.AnswersPress query.fromId)).Safe (handleChatCallbackQuery query)
      (fun _ _ => True) w := by
  unfold handleChatCallbackQuery
  cases hdata : query.data with
  | none => trivial
  | some data =>
      dsimp only
      split
      · exact messaging_ask trivial trivial fun _ => trivial
      cases hmessage : query.message with
      | none => trivial
      | some message =>
          dsimp only
          split
          · exact safe_handleAnalyticsCallback message _
          split
          · next action htheft =>
            refine safe_handleTheftAlertCallback (h message action ?_)
            rw [TelegramCallbackQuery.theftAlert, hmessage, hdata, Option.bind_some,
              Option.bind_some, htheft, Option.map_some]
          split
          · exact safe_handleSessionActionCallback message _
          · trivial

end Handlers

end Gt06
