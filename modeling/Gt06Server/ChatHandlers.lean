/-
**Messages and buttons.**

What the bot does with a message and with the tap on a button, one request after the other.  An
error ends the handler, and what has been written stays written; some errors of the Telegram API
are only logged.

Main definitions:

* `Gt06.handleMessage` — commands, the IMEI of a registration, and the dates of a report;
* `Gt06.handleChatCallbackQuery` — reports, alerts, and answers to an engine-on message;
* `Gt06.handleChatUpdate`, `Gt06.chatBot` — an update, and the bot among the other processes;
* `Gt06.Request.asChat` — a request of the loop among those of the handlers.

Main results:

* `Gt06.handleSessionActionCallback_eq` — the loop answers an engine-on message as the handlers do.
-/

import Gt06Server.ChatRequests

set_option relaxedAutoImplicit false
set_option autoImplicit false

namespace Gt06

open Await Relational

abbrev ChatM : Type → Type := Prog ChatRequest ChatRequest.Reply

abbrev askChat (r : ChatRequest) : ChatM r.Reply := request r

/-! ### Messages -/

/-- `send_message` and `send_message_internal`, when the message id does not matter. -/
def sendChat (chatId : ℤ) (message : ChatMessage) : ChatM Unit := do
  let _ ← askChat (.sendMessage chatId message)
  pure ()

def sendSubscriptionRequiredMenu (chatId : ℤ) : ChatM Unit := sendChat chatId .subscriptionMenu

/-- A request whose error is only logged. -/
def logged (r : ChatRequest) : ChatM Unit := do
  let _ ← (askChat r).attempt
  pure ()

def hasActiveSubscriptionNow (telegramUserId : ℤ) : ChatM Bool := do
  let now ← askChat .utcNow
  askChat (.hasActiveSubscription telegramUserId now)

/-! ### Notes -/

def pendingAnalyticsStateKey (chatId : ℤ) : String := s!"analytics_pending:{chatId}"

def getPendingAnalyticsKind (chatId : ℤ) : ChatM (Option AnalyticsKind) := do
  let value ← askChat (.getState (pendingAnalyticsStateKey chatId))
  pure (value.bind AnalyticsKind.parse)

def setPendingAnalyticsKind (chatId : ℤ) (kind : AnalyticsKind) : ChatM Unit :=
  askChat (.setState (pendingAnalyticsStateKey chatId) kind.callbackValue)

def clearPendingAnalyticsKind (chatId : ℤ) : ChatM Unit :=
  askChat (.deleteStateKey (pendingAnalyticsStateKey chatId))

inductive AnalyticsMessageSlot where
  | selector
  | report
  deriving DecidableEq

def AnalyticsMessageSlot.stateValue : AnalyticsMessageSlot → String
  | .selector => "selector"
  | .report => "report"

def shouldRememberAnalyticsMessage (kind : AnalyticsKind) : Bool :=
  kind = .sessions ∨ kind = .metrics

def analyticsMessageStateKey (chatId : ℤ) (kind : AnalyticsKind) (slot : AnalyticsMessageSlot) :
    String :=
  s!"analytics_message:{chatId}:{kind.callbackValue}:{slot.stateValue}"

def deleteRememberedAnalyticsMessage (chatId : ℤ) (kind : AnalyticsKind)
    (slot : AnalyticsMessageSlot) : ChatM Unit := do
  let value ← askChat (.getState (analyticsMessageStateKey chatId kind slot))
  match value.bind parseI64 with
  | some messageId => do
      logged (.deleteMessage chatId messageId)
      askChat (.deleteStateKey (analyticsMessageStateKey chatId kind slot))
  | none => pure ()

def sendRememberedAnalyticsMessage (chatId : ℤ) (kind : AnalyticsKind)
    (slot : AnalyticsMessageSlot) (message : ChatMessage) : ChatM Unit := do
  deleteRememberedAnalyticsMessage chatId kind slot
  let messageId ← askChat (.sendMessage chatId message)
  askChat (.setState (analyticsMessageStateKey chatId kind slot) (toString messageId))

/-- A message that takes the place of the last one of its kind, where these are remembered. -/
def sendSelector (chatId : ℤ) (kind : AnalyticsKind) (message : ChatMessage) : ChatM Unit :=
  if shouldRememberAnalyticsMessage kind then
    sendRememberedAnalyticsMessage chatId kind .selector message
  else sendChat chatId message

/-! ### Reports -/

/-- One ride in the report of the sessions. -/
def analyticsSessionReport (imei : String) (range : AnalyticsDateRange) (effectiveRangeEnd : ℤ)
    (session : EngineSession) : ChatM AnalyticsSessionReport := do
  let clippedStart := max session.createdAt range.startedAt
  let clippedEnd := min (session.resolvedAt.getD effectiveRangeEnd) effectiveRangeEnd
  let summary : RideSummary ←
    if clippedStart < clippedEnd then askChat (.fetchRideSummary imei clippedStart clippedEnd)
    else pure { totalDistanceKm := 0, ridingSeconds := 0 }
  pure
    { session := session
      clippedStart := clippedStart
      clippedEnd := clippedEnd
      summary := summary }

def analyticsSessionReports (imei : String) (range : AnalyticsDateRange) (effectiveRangeEnd : ℤ)
    (sessions : List EngineSession) : ChatM (List AnalyticsSessionReport) :=
  sessions.foldlM (fun reports session => do
    let report ← analyticsSessionReport imei range effectiveRangeEnd session
    pure (reports ++ [report])) []

/-- The rides that `fetch_analytics_ride_summary` adds up. -/
def fetchAnalyticsRideSummary (imei : String) (sessions : List EngineSession)
    (rangeStart rangeEnd : ℤ) : ChatM (List RideSummary) :=
  (analyticsWindows sessions rangeStart rangeEnd).foldlM (fun rides window => do
    let summary ← askChat (.fetchRideSummary imei window.1 window.2)
    pure (rides ++ [summary])) []

/-- The text of a report, from the rides of the chat. -/
def buildAnalyticsReport (chatId : ℤ) (imei : String) (kind : AnalyticsKind)
    (range : AnalyticsDateRange) (referenceTime : ℤ) : ChatM AnalyticsReport := do
  let sessions ← askChat (.fetchAnalyticsSessions imei chatId range.startedAt range.endedAt
    referenceTime)
  let effectiveRangeEnd := min referenceTime range.endedAt
  match kind with
  | .sessions => do
      let reports ← analyticsSessionReports imei range effectiveRangeEnd sessions
      pure (.drivingSessions range reports (range.endedAt - microsPerSecond) referenceTime)
  | .metrics => do
      let rides ← fetchAnalyticsRideSummary imei sessions range.startedAt effectiveRangeEnd
      pure (.metrics range rides)
  | .totalKm => do
      let rides ← fetchAnalyticsRideSummary imei sessions range.startedAt effectiveRangeEnd
      pure (.totalKm range rides)
  | .totalDrivingTime => do
      let rides ← fetchAnalyticsRideSummary imei sessions range.startedAt effectiveRangeEnd
      pure (.totalDrivingTime range rides)

def sendAnalyticsReport (chatId : ℤ) (imei : String) (kind : AnalyticsKind)
    (range : AnalyticsDateRange) (referenceTime : ℤ) : ChatM Unit := do
  let report ← buildAnalyticsReport chatId imei kind range referenceTime
  if shouldRememberAnalyticsMessage kind then do
    deleteRememberedAnalyticsMessage chatId kind .selector
    sendRememberedAnalyticsMessage chatId kind .report (.analyticsReport imei report)
  else sendChat chatId (.analyticsReport imei report)

/-! ### Messages of users -/

section Messages

/-- `is_valid_imei`: fifteen bytes, each an ASCII digit. -/
def isValidImei (value : String) : Bool :=
  value.utf8ByteSize = 15 ∧ value.toList.all Char.isDigit

variable (parseDate : String → Option ℤ)

/-- The dates of a report that a button has asked for. -/
def handleCustomAnalyticsInput (chatId telegramUserId : ℤ) (user : TelegramUserRecord)
    (kind : AnalyticsKind) (text : String) : ChatM Unit :=
  match user.boundImei with
  | none => do
      clearPendingAnalyticsKind chatId
      sendChat chatId .notBoundUseStart
  | some imei => do
      let active ← hasActiveSubscriptionNow telegramUserId
      if !active then do
        clearPendingAnalyticsKind chatId
        sendSubscriptionRequiredMenu chatId
      else
        match (parseCustomAnalyticsRange parseDate kind text).filter
            fun range => range.startedAt < range.endedAt with
        | none =>
            sendChat chatId
              (if kind = .sessions then .analyticsInvalidDate else .analyticsInvalidRange)
        | some range => do
            clearPendingAnalyticsKind chatId
            let referenceTime ← askChat .utcNow
            sendAnalyticsReport chatId imei kind range referenceTime

/-- The IMEI that a user who is not registered yet has typed. -/
def handleImei (chatId telegramUserId : ℤ) (user : TelegramUserRecord) (imei : String) :
    ChatM Unit :=
  if !isValidImei imei then sendChat chatId .bindInvalidImei
  else if user.boundImei.isSome then sendChat chatId .bindAlreadyBound
  else do
    let deviceExists ← askChat (.deviceExists imei)
    if !deviceExists then sendChat chatId .bindDeviceNotFound
    else do
      let taken ← askChat (.isDeviceBoundToAnotherUser imei telegramUserId)
      if taken then sendChat chatId .bindDeviceAlreadyTaken
      else do
        askChat (.bindTelegramUserToImei telegramUserId chatId imei)
        sendChat chatId (.bindSuccess imei)
        logged (.sendSticker chatId .bindSuccess)
        sendSubscriptionRequiredMenu chatId

/-- `BotCommand::Start`: the menu of a bound user, or the registration of another. -/
def handleStart (chatId telegramUserId : ℤ) (user : Option TelegramUserRecord) : ChatM Unit :=
  match user.filter fun user => user.boundImei.isSome with
  | some user => do
      let isActive ← hasActiveSubscriptionNow user.telegramUserId
      if isActive then sendChat chatId .startStatus
      else do
        logged (.sendSticker chatId .notSubscribed)
        sendSubscriptionRequiredMenu chatId
  | none => do
      askChat (.upsertTelegramUserRegistrationState telegramUserId chatId .awaitingImei)
      sendChat chatId .startBindPrompt

def handleCommand (chatId telegramUserId : ℤ) (command : BotCommand) : ChatM Unit := do
  let user ← askChat (.fetchTelegramUserByUserId telegramUserId)
  match command with
  | .start => handleStart chatId telegramUserId user
  | .help => sendChat chatId .help
  | .paySupport => sendChat chatId .paySupport
  | .terms => sendChat chatId .terms
  | .unknown command => sendChat chatId (.unknownCommand command)

/-- A text that is not a command, from a user the bot knows. -/
def handleText (chatId telegramUserId : ℤ) (user : TelegramUserRecord) (text : String) :
    ChatM Unit := do
  let pending ← getPendingAnalyticsKind chatId
  match pending with
  | some kind => handleCustomAnalyticsInput parseDate chatId telegramUserId user kind text
  | none =>
      if user.registrationStatus ≠ .awaitingImei then pure ()
      else handleImei chatId telegramUserId user (trim text)

def handleMessage (message : TelegramMessage) : ChatM Unit :=
  match message.fromId, message.text with
  | some telegramUserId, some text =>
      match BotCommand.parse text with
      | some command => handleCommand message.chatId telegramUserId command
      | none => do
          let user ← askChat (.fetchTelegramUserByUserId telegramUserId)
          match user with
          | some user => handleText parseDate message.chatId telegramUserId user text
          | none => pure ()
  | _, _ => pure ()

end Messages

/-! ### Buttons -/

/-- The keyboard of a message goes, if the message is known; an error is only logged. -/
def clearKeyboard (chatId : ℤ) (messageId : Option ℤ) : ChatM Unit :=
  match messageId with
  | some messageId => logged (.clearInlineKeyboard chatId messageId)
  | none => pure ()

def ensureActiveSubscription (callbackQueryId : String) (chatId telegramUserId : ℤ)
    (messageId : Option ℤ) : ChatM Bool := do
  let active ← hasActiveSubscriptionNow telegramUserId
  if active then pure true
  else do
    askChat (.answerCallbackQuery callbackQueryId .subscriptionRequired)
    clearKeyboard chatId messageId
    sendSubscriptionRequiredMenu chatId
    pure false

/-- What the button of a range does, for the device of the user. -/
def answerAnalyticsAction (chatId : ℤ) (imei : String) (action : AnalyticsAction) :
    ChatM Unit :=
  if action.range = .select then sendSelector chatId action.kind (.chooseRangeFor action.kind)
  else if action.range = .custom then do
    setPendingAnalyticsKind chatId action.kind
    sendSelector chatId action.kind
      (if action.kind = .sessions then .analyticsCustomDatePrompt else .analyticsCustomRangePrompt)
  else if action.kind = .sessions ∧ action.range = .month then
    sendRememberedAnalyticsMessage chatId action.kind .selector .analyticsSessionsMonthUnsupported
  else do
    let now ← askChat .utcNow
    match resolvePresetAnalyticsRange action.range now with
    | some range => do
        let referenceTime ← askChat .utcNow
        sendAnalyticsReport chatId imei action.kind range referenceTime
    | none => pure ()

def handleAnalyticsAction (chatId telegramUserId : ℤ) (action : AnalyticsAction) :
    ChatM Unit := do
  let user ← askChat (.fetchTelegramUserByUserId telegramUserId)
  match user.bind TelegramUserRecord.boundImei with
  | some imei => answerAnalyticsAction chatId imei action
  | none => sendChat chatId .notBoundUseStart

/-- The times of the session that a status message is about; without a session they are made up
from what is known of the device. -/
def statusSession (imei : String) (chatId : ℤ) (session : Option EngineSession)
    (heartbeat : Option StoredHeartbeat) (location : Option LatestLocation) :
    ChatM (ℤ × Option ℤ) :=
  match session with
  | some session => pure (session.createdAt, session.resolvedAt)
  | none => do
      let latest ← askChat (.fetchLatestEngineSessionForImeiChat imei chatId)
      match latest with
      | some session => pure (session.createdAt, session.resolvedAt)
      | none =>
          match (heartbeat.map StoredHeartbeat.serverReceivedAt).or
              (location.bind LatestLocation.lastSeenAt) with
          | some createdAt => pure (createdAt, none)
          | none => do
              let createdAt ← askChat .utcNow
              pure (createdAt, none)

/-- What the button of an alert does, for the device it has been resolved to. -/
def answerTheftAlertAction (chatId : ℤ) (imei : String) (session : Option EngineSession)
    (action : TheftAlertAction) : ChatM Unit :=
  match action with
  | .streamLocation _ => do
      let startAt ← askChat (.fetchLatestLocationReceivedAt imei)
      sendChat chatId (.streamLocation imei startAt)
  | .checkLatestStatus _ => do
      let location ← askChat (.fetchLatestLocationForImei imei)
      let heartbeat ← askChat (.fetchLatestHeartbeatForImei imei)
      let times ← statusSession imei chatId session heartbeat location
      let requestedAt ← askChat .utcNow
      sendChat chatId
        (.latestMotorStatus imei times.1 times.2 heartbeat location requestedAt)
  | .contactSupport _ => sendChat chatId .contactSupport

/-- The session a button names has to be one of the chat; without a name the device is the one
of the user that the chat leads to. -/
def handleTheftAlertAction (chatId : ℤ) (action : TheftAlertAction) : ChatM Unit := do
  let user ← askChat (.fetchTelegramUserByChatId chatId)
  match action.sessionId with
  | some sessionId => do
      let session ← askChat (.fetchEngineSessionById sessionId)
      match session.filter fun session => session.chatId = chatId with
      | some session => answerTheftAlertAction chatId session.imei (some session) action
      | none => pure ()
  | none =>
      match user.bind TelegramUserRecord.boundImei with
      | some imei => answerTheftAlertAction chatId imei none action
      | none => sendChat chatId .notBoundUseStart

/-- The answer to a pending session. -/
def answerSessionAction (chatId : ℤ) (session : EngineSession) (action : SessionAction) :
    ChatM Unit :=
  match action with
  | .yes => do
      sendChat chatId .rideSafe
      logged (.sendSticker chatId .engineOn)
      askChat (.updateEngineSessionStatus session.id .confirmedSafe)
  | .no => do
      sendChat chatId (.theftWarning session.id)
      logged (.sendSticker chatId .theftWarning)
      askChat (.updateEngineSessionStatus session.id .reportedTheft)

def handleSessionAction (callbackQueryId : String) (chatId promptMessageId : ℤ)
    (action : SessionAction) : ChatM Unit := do
  let session ← askChat (.fetchEngineSessionByPromptMessage chatId promptMessageId)
  match session with
  | none => askChat (.answerCallbackQuery callbackQueryId .sessionNotFound)
  | some session =>
      if session.chatId ≠ chatId ∨ session.promptMessageId ≠ promptMessageId then
        askChat (.answerCallbackQuery callbackQueryId .sessionMismatch)
      else if session.sessionStatus ≠ .pendingConfirmation then
        askChat (.answerCallbackQuery callbackQueryId .sessionAlreadyEnded)
      else do
        askChat (.answerCallbackQuery callbackQueryId .empty)
        askChat (.clearInlineKeyboard chatId promptMessageId)
        answerSessionAction chatId session action

/-- The part of `handle_callback_query` for the buttons of reports. -/
def handleAnalyticsCallback (query : TelegramCallbackQuery) (message : TelegramMessage)
    (action : AnalyticsAction) : ChatM Unit := do
  let active ← ensureActiveSubscription query.id message.chatId query.fromId message.messageId
  if active then do
    askChat (.answerCallbackQuery query.id .empty)
    if action.range ≠ .select then clearKeyboard message.chatId message.messageId
    handleAnalyticsAction message.chatId query.fromId action
  else pure ()

/-- Help is for everybody. -/
def ensureTheftAlertSubscription (query : TelegramCallbackQuery) (message : TelegramMessage)
    (action : TheftAlertAction) : ChatM Bool :=
  if action.requiresActiveSubscription then
    ensureActiveSubscription query.id message.chatId query.fromId message.messageId
  else pure true

/-- The part of `handle_callback_query` for the buttons of alerts and of the start menu. -/
def handleTheftAlertCallback (query : TelegramCallbackQuery) (message : TelegramMessage)
    (action : TheftAlertAction) : ChatM Unit := do
  let active ← ensureTheftAlertSubscription query message action
  if active then do
    askChat (.answerCallbackQuery query.id .empty)
    handleTheftAlertAction message.chatId action
  else pure ()

/-- The part of `handle_callback_query` for the buttons under an engine-on message. -/
def handleSessionActionCallback (query : TelegramCallbackQuery) (message : TelegramMessage)
    (action : SessionAction) : ChatM Unit := do
  let active ← ensureActiveSubscription query.id message.chatId query.fromId message.messageId
  if active then
    handleSessionAction query.id message.chatId (message.messageId.getD 0) action
  else pure ()

/-- `handle_callback_query`: the families of buttons are tried one after the other. -/
def handleChatCallbackQuery (query : TelegramCallbackQuery) : ChatM Unit :=
  match query.data with
  | none => pure ()
  | some data =>
      match PaymentAction.parse data with
      | some _ => askChat (.handlePaymentAction query.id query.fromId)
      | none =>
          match query.message with
          | none => pure ()
          | some message =>
              match AnalyticsAction.parse data with
              | some action => handleAnalyticsCallback query message action
              | none =>
                  match TheftAlertAction.parse data with
                  | some action => handleTheftAlertCallback query message action
                  | none =>
                      match SessionAction.parse data with
                      | some action => handleSessionActionCallback query message action
                      | none => pure ()

/-! ### The same handlers in the loop -/

/-- The message of a notice that the handlers of buttons send. -/
def Notice.chatMessage : Notice → Option ChatMessage
  | .rideSafe => some .rideSafe
  | .theftWarning sessionId => some (.theftWarning sessionId)
  | .subscriptionMenu => some .subscriptionMenu
  | _ => none

def Sticker.chatSticker : Sticker → ChatSticker
  | .engineOn => .engineOn
  | .theftWarning => .theftWarning

/-- The request of the loop, among those of the handlers; most are not requests of handlers. -/
def Request.asChat : (r : Request) → ChatM r.Reply
  | .utcNow => askChat .utcNow
  | .hasActiveSubscription telegramUserId referenceTime =>
      askChat (.hasActiveSubscription telegramUserId referenceTime)
  | .fetchEngineSessionByPromptMessage chatId promptMessageId =>
      askChat (.fetchEngineSessionByPromptMessage chatId promptMessageId)
  | .updateEngineSessionStatus sessionId status =>
      askChat (.updateEngineSessionStatus sessionId status)
  | .sendMessage chatId notice =>
      match notice.chatMessage with
      | some message => askChat (.sendMessage chatId message)
      | none => .fail
  | .sendSticker chatId sticker => do
      askChat (.sendSticker chatId sticker.chatSticker)
      -- the id of the message with the sticker is not used
      pure 0
  | .clearInlineKeyboard chatId messageId => askChat (.clearInlineKeyboard chatId messageId)
  | .answerCallbackQuery callbackQueryId toast =>
      askChat (.answerCallbackQuery callbackQueryId toast)
  | _ => .fail

section Loop

variable (query : SessionCallback)

theorem interpret_clearProtectedKeyboard (chatId : ℤ) (messageId : Option ℤ) :
    (clearProtectedKeyboard chatId messageId).interpret Request.asChat =
      clearKeyboard chatId messageId := by
  cases messageId with
  | none => rfl
  | some messageId => simp [clearProtectedKeyboard, clearKeyboard, logged, Request.asChat]

theorem interpret_ensureActiveSubscription :
    (ensureActiveSubscriptionForCallback query).interpret Request.asChat =
      ensureActiveSubscription query.id query.chatId query.telegramUserId query.messageId := by
  unfold ensureActiveSubscriptionForCallback ensureActiveSubscription hasActiveSubscriptionNow
    sendSubscriptionRequiredMenu sendChat
  simp only [Prog.bind_assoc, Prog.interpret_bind, Prog.interpret_request, Request.asChat]
  refine congrArg _ (funext fun now => congrArg _ (funext fun active => ?_))
  cases active with
  | true => rfl
  | false =>
      simp only [Bool.false_eq_true, if_false, Prog.interpret_bind, Prog.interpret_request,
        interpret_clearProtectedKeyboard, Request.asChat, Notice.chatMessage]
      rfl

theorem interpret_answerSession (session : EngineSession) :
    (answerSession query session).interpret Request.asChat =
      answerSessionAction query.chatId session query.action := by
  unfold answerSession answerSessionAction sendChat logged
  cases query.action with
  | yes =>
      simp only [Prog.bind_assoc, Prog.interpret_bind, Prog.interpret_request,
        Prog.interpret_attempt_request, Request.asChat, Notice.chatMessage, Sticker.chatSticker]
      exact congrArg _ (funext fun _ => Prog.attempt_bind_done _ _ _)
  | no =>
      simp only [Prog.bind_assoc, Prog.interpret_bind, Prog.interpret_request,
        Prog.interpret_attempt_request, Request.asChat, Notice.chatMessage, Sticker.chatSticker]
      exact congrArg _ (funext fun _ => Prog.attempt_bind_done _ _ _)

theorem interpret_handleSession :
    (ask (.fetchEngineSessionByPromptMessage query.chatId (query.messageId.getD 0)) >>=
        handleSession query (query.messageId.getD 0)).interpret Request.asChat =
      handleSessionAction query.id query.chatId (query.messageId.getD 0) query.action := by
  unfold handleSessionAction
  simp only [Prog.interpret_bind, Prog.interpret_request, Request.asChat]
  refine congrArg _ (funext fun session => ?_)
  cases session with
  | none => exact Prog.interpret_request _ _
  | some session =>
      unfold handleSession
      dsimp only
      split
      · exact Prog.interpret_request _ _
      · split
        · exact Prog.interpret_request _ _
        · simp only [Prog.interpret_bind, Prog.interpret_request, Request.asChat,
            interpret_answerSession]

end Loop

/-- The query as the loop has it. -/
def sessionCallback (query : TelegramCallbackQuery) (message : TelegramMessage)
    (action : SessionAction) : SessionCallback where
  id := query.id
  telegramUserId := query.fromId
  chatId := message.chatId
  messageId := message.messageId
  action := action

/-- **The buttons under an engine-on message do the same in the loop.** -/
theorem handleSessionActionCallback_eq (query : TelegramCallbackQuery) (message : TelegramMessage)
    (action : SessionAction) :
    handleSessionActionCallback query message action =
      (handleSessionCallback (sessionCallback query message action)).interpret Request.asChat := by
  unfold handleSessionActionCallback handleSessionCallback
  rw [Prog.interpret_bind, interpret_ensureActiveSubscription]
  refine congrArg _ (funext fun active => ?_)
  cases active with
  | true => exact (interpret_handleSession (sessionCallback query message action)).symm
  | false => rfl

/-! ### Updates -/

/-- `if let Some(..)`. -/
def whenSome {α : Type} (x : Option α) (f : α → ChatM Unit) : ChatM Unit :=
  match x with
  | some a => f a
  | none => pure ()

/-- The handlers of an update. -/
def handleChatUpdate (parseDate : String → Option ℤ) (update : TelegramUpdate) :
    ChatM Unit := do
  whenSome update.message (handleMessage parseDate)
  whenSome update.callbackQuery handleChatCallbackQuery

/-- The bot among the other processes: one update after the other. -/
def chatBot (summarize : List RidePoint → RideSummary) (parseDate : String → Option ℤ) :
    System ChatRequest ChatRequest.Reply ChatWorld ChatEvent ChatOutcome TelegramUpdate where
  env := fun event w => w.env event
  answer := fun outcome w r => w.answer summarize outcome r
  main := handleChatUpdate parseDate

/-! ### What the handlers send -/

/-- The device whose position, rides or status a message shows. -/
def ChatMessage.device : ChatMessage → Option String
  | .analyticsReport imei _ => some imei
  | .streamLocation imei (some _) => some imei
  | .latestMotorStatus imei _ _ _ _ _ => some imei
  | _ => none

/-- The request asks for nobody's registration and asks about and shows only devices of a set. -/
def ChatRequest.Confined (D : String → Prop) : ChatRequest → Prop
  | .fetchTelegramUserByUserId _ => False
  | .fetchTelegramUserByChatId _ => False
  | .upsertTelegramUserRegistrationState _ _ _ => False
  | .bindTelegramUserToImei _ _ _ => False
  | .deviceExists _ => False
  | .isDeviceBoundToAnotherUser _ _ => False
  | .fetchRideSummary imei _ _ => D imei
  | .fetchLatestLocationReceivedAt imei => D imei
  | .fetchLatestLocationForImei imei => D imei
  | .fetchLatestHeartbeatForImei imei => D imei
  | .sendMessage _ message => ∀ imei ∈ message.device, D imei
  | _ => True

/-- The request leaves the registrations alone and shows only devices of a set. -/
def ChatRequest.Quiet (D : String → Prop) : ChatRequest → Prop
  | .upsertTelegramUserRegistrationState _ _ _ => False
  | .bindTelegramUserToImei _ _ _ => False
  | .sendMessage _ message => ∀ imei ∈ message.device, D imei
  | _ => True

section Uses

variable {D : String → Prop} {chatId telegramUserId : ℤ} {imei : String} {kind : AnalyticsKind}
  {slot : AnalyticsMessageSlot} {message : ChatMessage} {range : AnalyticsDateRange}
  {user : TelegramUserRecord}

theorem confined_of_device_eq_none (h : message.device = none) :
    (ChatRequest.sendMessage chatId message).Confined D := by
  intro imei himei
  rw [h] at himei
  exact absurd himei (by simp)

theorem confined_ask_bind {α : Type} {r : ChatRequest} {f : r.Reply → ChatM α} (hr : r.Confined D)
    (hf : ∀ x, (f x).Uses (ChatRequest.Confined D)) :
    (askChat r >>= f).Uses (ChatRequest.Confined D) :=
  Prog.uses_bind (Prog.uses_request hr) hf

theorem sendChat_uses (h : ∀ imei ∈ message.device, D imei) :
    (sendChat chatId message).Uses (ChatRequest.Confined D) :=
  confined_ask_bind h fun _ => trivial

theorem sendChat_uses_of_none (h : message.device = none) :
    (sendChat chatId message).Uses (ChatRequest.Confined D) :=
  confined_ask_bind (confined_of_device_eq_none h) fun _ => trivial

theorem logged_uses {r : ChatRequest} (hr : r.Confined D) :
    (logged r).Uses (ChatRequest.Confined D) :=
  Prog.uses_bind (Prog.uses_attempt (Prog.uses_request hr)) fun _ => trivial

theorem hasActiveSubscriptionNow_uses :
    (hasActiveSubscriptionNow telegramUserId).Uses (ChatRequest.Confined D) :=
  confined_ask_bind trivial fun _ => Prog.uses_request trivial

theorem deleteRememberedAnalyticsMessage_uses :
    (deleteRememberedAnalyticsMessage chatId kind slot).Uses (ChatRequest.Confined D) := by
  refine confined_ask_bind trivial ?_
  intro value
  split
  · exact Prog.uses_bind (logged_uses trivial) fun _ => Prog.uses_request trivial
  · trivial

theorem sendRememberedAnalyticsMessage_uses (h : ∀ imei ∈ message.device, D imei) :
    (sendRememberedAnalyticsMessage chatId kind slot message).Uses (ChatRequest.Confined D) := by
  refine Prog.uses_bind deleteRememberedAnalyticsMessage_uses ?_
  intro _
  exact confined_ask_bind h fun _ => Prog.uses_request trivial

theorem sendSelector_uses (h : message.device = none) :
    (sendSelector chatId kind message).Uses (ChatRequest.Confined D) := by
  unfold sendSelector
  split
  · exact sendRememberedAnalyticsMessage_uses fun imei himei => by simp [h] at himei
  · exact sendChat_uses_of_none h

theorem analyticsSessionReport_uses (h : D imei) (effectiveRangeEnd : ℤ)
    (session : EngineSession) :
    (analyticsSessionReport imei range effectiveRangeEnd session).Uses
      (ChatRequest.Confined D) := by
  unfold analyticsSessionReport
  dsimp only
  split
  · exact confined_ask_bind h fun _ => trivial
  · trivial

theorem fetchAnalyticsRideSummary_uses (h : D imei) (sessions : List EngineSession)
    (rangeStart rangeEnd : ℤ) :
    (fetchAnalyticsRideSummary imei sessions rangeStart rangeEnd).Uses
      (ChatRequest.Confined D) := by
  refine Prog.uses_foldlM ?_
  intro rides window _
  exact confined_ask_bind h fun _ => trivial

theorem buildAnalyticsReport_uses (h : D imei) (referenceTime : ℤ) :
    (buildAnalyticsReport chatId imei kind range referenceTime).Uses (ChatRequest.Confined D) := by
  refine confined_ask_bind trivial ?_
  intro sessions
  cases kind with
  | sessions =>
      refine Prog.uses_bind ?_ fun _ => trivial
      refine Prog.uses_foldlM ?_
      intro reports session _
      exact Prog.uses_bind (analyticsSessionReport_uses h _ session) fun _ => trivial
  | metrics => exact Prog.uses_bind (fetchAnalyticsRideSummary_uses h _ _ _) fun _ => trivial
  | totalKm => exact Prog.uses_bind (fetchAnalyticsRideSummary_uses h _ _ _) fun _ => trivial
  | totalDrivingTime =>
      exact Prog.uses_bind (fetchAnalyticsRideSummary_uses h _ _ _) fun _ => trivial

theorem device_analyticsReport (h : D imei) (report : AnalyticsReport) :
    ∀ imei' ∈ (ChatMessage.analyticsReport imei report).device, D imei' := by
  intro imei' himei'
  obtain rfl : imei = imei' := Option.some.inj himei'
  exact h

/-- A report shows its own device only. -/
theorem sendAnalyticsReport_uses (h : D imei) (referenceTime : ℤ) :
    (sendAnalyticsReport chatId imei kind range referenceTime).Uses (ChatRequest.Confined D) := by
  refine Prog.uses_bind (buildAnalyticsReport_uses h referenceTime) ?_
  intro report
  split
  · refine Prog.uses_bind deleteRememberedAnalyticsMessage_uses ?_
    intro _
    exact sendRememberedAnalyticsMessage_uses (device_analyticsReport h report)
  · exact sendChat_uses (device_analyticsReport h report)

theorem handleCustomAnalyticsInput_uses (parseDate : String → Option ℤ)
    (h : ∀ imei ∈ user.boundImei, D imei) (text : String) :
    (handleCustomAnalyticsInput parseDate chatId telegramUserId user kind text).Uses
      (ChatRequest.Confined D) := by
  unfold handleCustomAnalyticsInput
  cases himei : user.boundImei with
  | none => exact confined_ask_bind trivial fun _ => sendChat_uses_of_none rfl
  | some imei =>
      refine Prog.uses_bind hasActiveSubscriptionNow_uses ?_
      intro active
      split
      · exact confined_ask_bind trivial fun _ => sendChat_uses_of_none rfl
      · split
        · exact sendChat_uses_of_none (by split <;> rfl)
        · refine confined_ask_bind trivial ?_
          intro _
          exact confined_ask_bind trivial fun referenceTime =>
            sendAnalyticsReport_uses (h imei himei) referenceTime

theorem clearKeyboard_uses (messageId : Option ℤ) :
    (clearKeyboard chatId messageId).Uses (ChatRequest.Confined D) := by
  cases messageId with
  | some messageId => exact logged_uses trivial
  | none => trivial

theorem ensureActiveSubscription_uses (callbackQueryId : String) (messageId : Option ℤ) :
    (ensureActiveSubscription callbackQueryId chatId telegramUserId messageId).Uses
      (ChatRequest.Confined D) := by
  refine Prog.uses_bind hasActiveSubscriptionNow_uses ?_
  intro active
  split
  · trivial
  · refine confined_ask_bind trivial ?_
    intro _
    refine Prog.uses_bind (clearKeyboard_uses messageId) ?_
    intro _
    exact Prog.uses_bind (sendChat_uses_of_none rfl) fun _ => trivial

theorem answerAnalyticsAction_uses (h : D imei) (action : AnalyticsAction) :
    (answerAnalyticsAction chatId imei action).Uses (ChatRequest.Confined D) := by
  unfold answerAnalyticsAction
  split
  · exact sendSelector_uses rfl
  · split
    · refine confined_ask_bind trivial ?_
      intro _
      exact sendSelector_uses (by split <;> rfl)
    · split
      · exact sendRememberedAnalyticsMessage_uses fun imei himei =>
          absurd himei (Option.not_mem_none imei)
      · refine confined_ask_bind trivial ?_
        intro now
        split
        · exact confined_ask_bind trivial fun referenceTime =>
            sendAnalyticsReport_uses h referenceTime
        · trivial

theorem statusSession_uses (session : Option EngineSession) (heartbeat : Option StoredHeartbeat)
    (location : Option LatestLocation) :
    (statusSession imei chatId session heartbeat location).Uses (ChatRequest.Confined D) := by
  cases session with
  | some session => trivial
  | none =>
      refine confined_ask_bind trivial ?_
      intro latest
      cases latest with
      | some session => trivial
      | none =>
          dsimp only
          split
          · trivial
          · exact confined_ask_bind trivial fun _ => trivial

/-- The answer to the button of an alert shows the device it is about only. -/
theorem answerTheftAlertAction_uses (h : D imei) (session : Option EngineSession)
    (action : TheftAlertAction) :
    (answerTheftAlertAction chatId imei session action).Uses (ChatRequest.Confined D) := by
  cases action with
  | streamLocation sessionId =>
      refine confined_ask_bind h ?_
      intro startAt
      refine sendChat_uses ?_
      intro imei' himei'
      cases startAt with
      | none => exact absurd himei' (by simp [ChatMessage.device])
      | some startAt =>
          obtain rfl : imei = imei' := Option.some.inj himei'
          exact h
  | checkLatestStatus sessionId =>
      refine confined_ask_bind h ?_
      intro location
      refine confined_ask_bind h ?_
      intro heartbeat
      refine Prog.uses_bind (statusSession_uses session heartbeat location) ?_
      intro times
      refine confined_ask_bind trivial ?_
      intro requestedAt
      refine sendChat_uses ?_
      intro imei' himei'
      obtain rfl : imei = imei' := Option.some.inj himei'
      exact h
  | contactSupport sessionId => exact sendChat_uses_of_none rfl

theorem answerSessionAction_uses (session : EngineSession) (action : SessionAction) :
    (answerSessionAction chatId session action).Uses (ChatRequest.Confined D) := by
  cases action with
  | yes =>
      refine Prog.uses_bind (sendChat_uses_of_none rfl) ?_
      intro _
      exact Prog.uses_bind (logged_uses trivial) fun _ => Prog.uses_request trivial
  | no =>
      refine Prog.uses_bind (sendChat_uses_of_none rfl) ?_
      intro _
      exact Prog.uses_bind (logged_uses trivial) fun _ => Prog.uses_request trivial

theorem handleSessionAction_uses (callbackQueryId : String) (promptMessageId : ℤ)
    (action : SessionAction) :
    (handleSessionAction callbackQueryId chatId promptMessageId action).Uses
      (ChatRequest.Confined D) := by
  refine confined_ask_bind trivial ?_
  intro session
  cases session with
  | none => exact Prog.uses_request trivial
  | some session =>
      dsimp only
      split
      · exact Prog.uses_request trivial
      · split
        · exact Prog.uses_request trivial
        · refine confined_ask_bind trivial ?_
          intro _
          exact confined_ask_bind trivial fun _ => answerSessionAction_uses session action

theorem quiet_of_confined {r : ChatRequest} (h : r.Confined D) : r.Quiet D := by
  cases r with
  | upsertTelegramUserRegistrationState _ _ _ => exact h
  | bindTelegramUserToImei _ _ _ => exact h
  | sendMessage _ _ => exact h
  | _ => trivial

theorem uses_quiet {α : Type} {p : ChatM α} (h : p.Uses (ChatRequest.Confined D)) :
    p.Uses (ChatRequest.Quiet D) := Prog.uses_mono (fun _ => quiet_of_confined) h

theorem quiet_ask_bind {α : Type} {r : ChatRequest} {f : r.Reply → ChatM α} (hr : r.Quiet D)
    (hf : ∀ x, (f x).Uses (ChatRequest.Quiet D)) :
    (askChat r >>= f).Uses (ChatRequest.Quiet D) :=
  Prog.uses_bind (Prog.uses_request hr) hf

end Uses

end Gt06
