/-
**What the handlers of messages and buttons ask for.**

The handlers of `bot.rs` read who a user is and which device is his, write registrations and small
notes to themselves, and send messages.  Each statement and each call of the Telegram API is a
request of its own, and each may fail.  A message is what its text is made of, so that two
messages are equal when a chat sees the same.

Main definitions:

* `Gt06.TelegramUserRow`, `Gt06.LatestLocation`, `Gt06.RidePoint`, `Gt06.StateRow` — the rows;
* `Gt06.ChatMessage` — the messages;
* `Gt06.ChatWorld` — the tables and the clock;
* `Gt06.ChatRequest`, `Gt06.ChatWorld.execute`, `Gt06.ChatWorld.answer` — the requests and what they
  do;
* `Gt06.ChatEvent`, `Gt06.ChatWorld.env` — what the other processes do.

Main results:

* `Gt06.ChatWorld.answer_cases` — a request has no effect or is executed.
-/

import Gt06Server.AnalyticsRanges
import Gt06Server.RideSessions

set_option relaxedAutoImplicit false
set_option autoImplicit false

namespace Gt06

open Await Relational

/-! ### Rows -/

/-- A row of `telegram_users`; `telegram_user_id` and `bound_imei` are unique. -/
structure TelegramUserRow where
  telegramUserId : ℤ
  chatId : ℤ
  boundImei : Option String
  registrationStatus : String
  deriving DecidableEq, Repr

def parseRegistrationStatus (value : String) : Option TelegramRegistrationStatus :=
  if value = "awaiting_imei" then some .awaitingImei
  else if value = "bound" then some .bound
  else none

def registrationStatusValue : TelegramRegistrationStatus → String
  | .awaitingImei => "awaiting_imei"
  | .bound => "bound"

/-- The record of a row whose status is known. -/
def TelegramUserRow.record (row : TelegramUserRow) : Option TelegramUserRecord :=
  (parseRegistrationStatus row.registrationStatus).map fun status =>
    { telegramUserId := row.telegramUserId
      chatId := row.chatId
      boundImei := row.boundImei
      registrationStatus := status }

/-- A row of `devices`, as far as messages show it: the `StoredLocation` of the bot. -/
structure LatestLocation where
  imei : String
  lastSeenAt : Option ℤ
  latitude : Option ℚ
  longitude : Option ℚ
  speedKph : Option ℕ
  deriving DecidableEq, Repr

/-- A row of `device_locations`, as far as reports use it. -/
structure RidePoint where
  id : ℕ
  imei : String
  serverReceivedAt : ℤ
  latitude : ℚ
  longitude : ℚ
  speedKph : ℕ
  deriving DecidableEq, Repr

/-- A row of `telegram_bot_state`, whose key is `state_key`. -/
structure StateRow where
  stateKey : String
  stateValue : String
  deriving DecidableEq, Repr

/-! ### Messages -/

/-- A ride in the report of the sessions; its route link leads to the time it covers. -/
structure AnalyticsSessionReport where
  session : EngineSession
  clippedStart : ℤ
  clippedEnd : ℤ
  summary : RideSummary
  deriving DecidableEq

/-- The reports, with what their texts are made of; the totals of three of them are those of
rides. -/
inductive AnalyticsReport where
  | drivingSessions (range : AnalyticsDateRange) (reports : List AnalyticsSessionReport)
      (fullDayRouteEnd referenceTime : ℤ)
  | metrics (range : AnalyticsDateRange) (rides : List RideSummary)
  | totalKm (range : AnalyticsDateRange) (rides : List RideSummary)
  | totalDrivingTime (range : AnalyticsDateRange) (rides : List RideSummary)
  deriving DecidableEq

/-- The messages of the handlers, with the device a message is about. -/
inductive ChatMessage where
  | bindInvalidImei
  | bindAlreadyBound
  | bindDeviceNotFound
  | bindDeviceAlreadyTaken
  | bindSuccess (imei : String)
  | notBoundUseStart
  | analyticsInvalidDate
  | analyticsInvalidRange
  | startBindPrompt
  | help
  | paySupport
  | terms
  | unknownCommand (command : String)
  | startStatus
  | subscriptionMenu
  | chooseRangeFor (kind : AnalyticsKind)
  | analyticsCustomDatePrompt
  | analyticsCustomRangePrompt
  | analyticsSessionsMonthUnsupported
  | analyticsReport (imei : String) (report : AnalyticsReport)
  | streamLocation (imei : String) (startAt : Option ℤ)
  | latestMotorStatus (imei : String) (sessionCreatedAt : ℤ) (sessionResolvedAt : Option ℤ)
      (heartbeat : Option StoredHeartbeat) (location : Option LatestLocation) (requestedAt : ℤ)
  | contactSupport
  | rideSafe
  | theftWarning (sessionId : ℕ)
  deriving DecidableEq

inductive ChatSticker where
  | engineOn
  | bindSuccess
  | notSubscribed
  | theftWarning
  deriving DecidableEq

/-! ### The world -/

/-- The tables the handlers use, and the clock. -/
structure ChatWorld where
  now : ℤ
  devices : List LatestLocation
  deviceLocations : List RidePoint
  deviceHeartbeats : List StoredHeartbeat
  telegramUsers : List TelegramUserRow
  telegramSubscriptions : List Subscription
  telegramEngineSessions : List EngineSession
  telegramBotState : List StateRow
  deriving DecidableEq

/-! ### Requests -/

/-- One statement, one call of the Telegram API, or `utcNow`, which reads the clock.  The calls of
`handle_payment_action`, which shows no position and no ride, are one request here. -/
inductive ChatRequest where
  | utcNow
  | fetchTelegramUserByUserId (telegramUserId : ℤ)
  | fetchTelegramUserByChatId (chatId : ℤ)
  | upsertTelegramUserRegistrationState (telegramUserId chatId : ℤ)
      (status : TelegramRegistrationStatus)
  | bindTelegramUserToImei (telegramUserId chatId : ℤ) (imei : String)
  | deviceExists (imei : String)
  | isDeviceBoundToAnotherUser (imei : String) (telegramUserId : ℤ)
  | hasActiveSubscription (telegramUserId referenceTime : ℤ)
  | getState (key : String)
  | setState (key value : String)
  | deleteStateKey (key : String)
  | fetchEngineSessionByPromptMessage (chatId promptMessageId : ℤ)
  | fetchEngineSessionById (sessionId : ℤ)
  | fetchLatestEngineSessionForImeiChat (imei : String) (chatId : ℤ)
  | updateEngineSessionStatus (sessionId : ℕ) (status : SessionStatus)
  | fetchAnalyticsSessions (imei : String) (chatId startedAt endedAt referenceTime : ℤ)
  | fetchRideSummary (imei : String) (startedAt endedAt : ℤ)
  | fetchLatestLocationReceivedAt (imei : String)
  | fetchLatestLocationForImei (imei : String)
  | fetchLatestHeartbeatForImei (imei : String)
  | handlePaymentAction (callbackQueryId : String) (telegramUserId : ℤ)
  | sendMessage (chatId : ℤ) (message : ChatMessage)
  | sendSticker (chatId : ℤ) (sticker : ChatSticker)
  | clearInlineKeyboard (chatId messageId : ℤ)
  | deleteMessage (chatId messageId : ℤ)
  | answerCallbackQuery (callbackQueryId : String) (toast : Toast)
  deriving DecidableEq

/-- What a request is answered with. -/
@[reducible] def ChatRequest.Reply : ChatRequest → Type
  | .utcNow => ℤ
  | .fetchTelegramUserByUserId _ => Option TelegramUserRecord
  | .fetchTelegramUserByChatId _ => Option TelegramUserRecord
  | .upsertTelegramUserRegistrationState _ _ _ => Unit
  | .bindTelegramUserToImei _ _ _ => Unit
  | .deviceExists _ => Bool
  | .isDeviceBoundToAnotherUser _ _ => Bool
  | .hasActiveSubscription _ _ => Bool
  | .getState _ => Option String
  | .setState _ _ => Unit
  | .deleteStateKey _ => Unit
  | .fetchEngineSessionByPromptMessage _ _ => Option EngineSession
  | .fetchEngineSessionById _ => Option EngineSession
  | .fetchLatestEngineSessionForImeiChat _ _ => Option EngineSession
  | .updateEngineSessionStatus _ _ => Unit
  | .fetchAnalyticsSessions _ _ _ _ _ => List EngineSession
  | .fetchRideSummary _ _ _ => RideSummary
  | .fetchLatestLocationReceivedAt _ => Option ℤ
  | .fetchLatestLocationForImei _ => Option LatestLocation
  | .fetchLatestHeartbeatForImei _ => Option StoredHeartbeat
  | .handlePaymentAction _ _ => Unit
  | .sendMessage _ _ => ℤ
  | .sendSticker _ _ => Unit
  | .clearInlineKeyboard _ _ => Unit
  | .deleteMessage _ _ => Unit
  | .answerCallbackQuery _ _ => Unit

/-- Reading the clock is not a request to another process. -/
def ChatRequest.canFail : ChatRequest → Bool
  | .utcNow => false
  | _ => true

/-- What the world leaves open about an answer: whether the request fails, the message id that
Telegram gives, and which of several rows a `LIMIT 1` without an order picks. -/
structure ChatOutcome where
  fails : Bool
  messageId : ℤ
  row : ℕ
  deriving DecidableEq

/-! ### Queries -/

/-- `LIMIT 1` without an order. -/
def pickRow {α : Type} (rows : List α) (row : ℕ) : Option α := rows[row % rows.length]?

def fetchTelegramUserByUserId (rows : List TelegramUserRow) (telegramUserId : ℤ) :
    Option TelegramUserRecord :=
  (rowAt TelegramUserRow.telegramUserId telegramUserId rows).bind TelegramUserRow.record

def fetchTelegramUserByChatId (rows : List TelegramUserRow) (chatId : ℤ) (row : ℕ) :
    Option TelegramUserRecord :=
  (pickRow (rows.filter fun user => user.chatId = chatId) row).bind TelegramUserRow.record

/-- The merge of `upsert_telegram_user_registration_state`: a bound user keeps the status. -/
def upsertTelegramUserRegistrationState (rows : List TelegramUserRow)
    (telegramUserId chatId : ℤ) (status : TelegramRegistrationStatus) : List TelegramUserRow :=
  upsertAt TelegramUserRow.telegramUserId
    { telegramUserId := telegramUserId
      chatId := chatId
      boundImei := none
      registrationStatus := registrationStatusValue status }
    (fun row => { row with
      chatId := chatId
      registrationStatus :=
        if row.boundImei = none then registrationStatusValue status else row.registrationStatus })
    rows

def isDeviceBoundToAnotherUser (rows : List TelegramUserRow) (imei : String)
    (telegramUserId : ℤ) : Bool :=
  rows.any fun row => row.boundImei = some imei ∧ row.telegramUserId ≠ telegramUserId

/-- The rows that `bind_telegram_user_to_imei` leaves. -/
def bindTelegramUserToImei (rows : List TelegramUserRow) (telegramUserId chatId : ℤ)
    (imei : String) : List TelegramUserRow :=
  updateAt TelegramUserRow.telegramUserId telegramUserId
    (fun row => { row with
      chatId := chatId
      boundImei := some imei
      registrationStatus := "bound" }) rows

def fetchEngineSessionById (rows : List EngineSession) (sessionId : ℤ) : Option EngineSession :=
  rows.find? fun row => (row.id : ℤ) = sessionId

/-- `ORDER BY created_at DESC, id DESC LIMIT 1`. -/
def fetchLatestEngineSessionForImeiChat (rows : List EngineSession) (imei : String)
    (chatId : ℤ) : Option EngineSession :=
  ((rows.filter fun row => row.imei = imei ∧ row.chatId = chatId).mergeSort fun a b =>
    b.createdAt < a.createdAt ∨ a.createdAt = b.createdAt ∧ b.id ≤ a.id).head?

/-- `ORDER BY server_received_at DESC, id DESC LIMIT 1`. -/
def fetchLatestLocationReceivedAt (rows : List RidePoint) (imei : String) : Option ℤ :=
  ((rows.filter fun row => row.imei = imei).mergeSort fun a b =>
    b.serverReceivedAt < a.serverReceivedAt ∨
      a.serverReceivedAt = b.serverReceivedAt ∧ b.id ≤ a.id).head?.map RidePoint.serverReceivedAt

def fetchLatestLocationForImei (rows : List LatestLocation) (imei : String) :
    Option LatestLocation :=
  rows.find? fun row => row.imei = imei

/-- The rows of `fetch_ride_summary`. -/
def ridePoints (rows : List RidePoint) (imei : String) (startedAt endedAt : ℤ) : List RidePoint :=
  (rows.filter fun row =>
    row.imei = imei ∧ startedAt ≤ row.serverReceivedAt ∧ row.serverReceivedAt ≤ endedAt).mergeSort
      fun a b => a.serverReceivedAt < b.serverReceivedAt ∨
        a.serverReceivedAt = b.serverReceivedAt ∧ a.id ≤ b.id

/-- Distance and riding time of a list of points are sums of numbers of the machine. -/
def fetchRideSummary (summarize : List RidePoint → RideSummary) (rows : List RidePoint)
    (imei : String) (startedAt endedAt : ℤ) : RideSummary :=
  let points := ridePoints rows imei startedAt endedAt
  if points.length < 2 then { totalDistanceKm := 0, ridingSeconds := 0 } else summarize points

def stateValue (rows : List StateRow) (key : String) : Option String :=
  (rowAt StateRow.stateKey key rows).map StateRow.stateValue

def setState (rows : List StateRow) (key value : String) : List StateRow :=
  upsertAt StateRow.stateKey ⟨key, value⟩ (fun row => { row with stateValue := value }) rows

/-! ### What requests do -/

namespace ChatWorld

section Execute

variable (summarize : List RidePoint → RideSummary) (w : ChatWorld)

/-- A request that does not fail. -/
def execute (outcome : ChatOutcome) : (r : ChatRequest) → r.Reply × ChatWorld
  | .utcNow => (w.now, w)
  | .fetchTelegramUserByUserId telegramUserId =>
      (Gt06.fetchTelegramUserByUserId w.telegramUsers telegramUserId, w)
  | .fetchTelegramUserByChatId chatId =>
      (Gt06.fetchTelegramUserByChatId w.telegramUsers chatId outcome.row, w)
  | .upsertTelegramUserRegistrationState telegramUserId chatId status =>
      ((), { w with
        telegramUsers := Gt06.upsertTelegramUserRegistrationState w.telegramUsers telegramUserId
          chatId status })
  | .bindTelegramUserToImei telegramUserId chatId imei =>
      ((), { w with
        telegramUsers := Gt06.bindTelegramUserToImei w.telegramUsers telegramUserId chatId imei })
  | .deviceExists imei => (w.devices.any fun row => row.imei = imei, w)
  | .isDeviceBoundToAnotherUser imei telegramUserId =>
      (Gt06.isDeviceBoundToAnotherUser w.telegramUsers imei telegramUserId, w)
  | .hasActiveSubscription telegramUserId referenceTime =>
      (Gt06.hasActiveSubscription w.telegramSubscriptions telegramUserId referenceTime, w)
  | .getState key => (stateValue w.telegramBotState key, w)
  | .setState key value =>
      ((), { w with telegramBotState := Gt06.setState w.telegramBotState key value })
  | .deleteStateKey key =>
      ((), { w with
        telegramBotState := w.telegramBotState.filter fun row => row.stateKey ≠ key })
  | .fetchEngineSessionByPromptMessage chatId promptMessageId =>
      (Gt06.fetchEngineSessionByPromptMessage w.telegramEngineSessions chatId promptMessageId, w)
  | .fetchEngineSessionById sessionId =>
      (Gt06.fetchEngineSessionById w.telegramEngineSessions sessionId, w)
  | .fetchLatestEngineSessionForImeiChat imei chatId =>
      (Gt06.fetchLatestEngineSessionForImeiChat w.telegramEngineSessions imei chatId, w)
  | .updateEngineSessionStatus sessionId status =>
      ((), { w with
        telegramEngineSessions := updateAt EngineSession.id sessionId
          (fun row => { row with sessionStatus := status }) w.telegramEngineSessions })
  | .fetchAnalyticsSessions imei chatId startedAt endedAt referenceTime =>
      (Gt06.fetchAnalyticsSessions w.telegramEngineSessions imei chatId startedAt endedAt
        referenceTime, w)
  | .fetchRideSummary imei startedAt endedAt =>
      (Gt06.fetchRideSummary summarize w.deviceLocations imei startedAt endedAt, w)
  | .fetchLatestLocationReceivedAt imei =>
      (Gt06.fetchLatestLocationReceivedAt w.deviceLocations imei, w)
  | .fetchLatestLocationForImei imei => (Gt06.fetchLatestLocationForImei w.devices imei, w)
  | .fetchLatestHeartbeatForImei imei =>
      (Gt06.fetchLatestHeartbeatForImei w.deviceHeartbeats imei, w)
  | .handlePaymentAction _ _ => ((), w)
  | .sendMessage _ _ => (outcome.messageId, w)
  | .sendSticker _ _ => ((), w)
  | .clearInlineKeyboard _ _ => ((), w)
  | .deleteMessage _ _ => ((), w)
  | .answerCallbackQuery _ _ => ((), w)

/-- The statement would leave two users with one device. -/
def violatesUnique : ChatRequest → Bool
  | .bindTelegramUserToImei telegramUserId _ imei =>
      w.telegramUsers.any (fun row => row.telegramUserId = telegramUserId) &&
        Gt06.isDeviceBoundToAnotherUser w.telegramUsers imei telegramUserId
  | _ => false

/-- A request is answered; one that fails has no effect. -/
def answer (outcome : ChatOutcome) (r : ChatRequest) : Option r.Reply × ChatWorld :=
  if outcome.fails && r.canFail || w.violatesUnique r then (none, w)
  else (some (w.execute summarize outcome r).1, (w.execute summarize outcome r).2)

theorem answer_cases (outcome : ChatOutcome) (r : ChatRequest) :
    w.answer summarize outcome r = (none, w) ∨
      w.violatesUnique r = false ∧ w.answer summarize outcome r =
        (some (w.execute summarize outcome r).1, (w.execute summarize outcome r).2) := by
  unfold answer
  split
  · exact Or.inl rfl
  · next h =>
    refine Or.inr ⟨?_, rfl⟩
    cases hviolates : w.violatesUnique r with
    | true => simp [hviolates] at h
    | false => rfl

end Execute

end ChatWorld

/-! ### The other processes -/

/-- The table of devices gains rows, or what is not a registration changes. -/
inductive ChatEvent where
  | setDevices (devices : List LatestLocation)
  | setOthers (others : ChatWorld)
  deriving DecidableEq

/-- The clock does not go back, devices do not go away, and only the bot registers users. -/
def ChatWorld.env (w : ChatWorld) : ChatEvent → Option ChatWorld
  | .setDevices devices =>
      if ∀ row ∈ w.devices, ∃ row' ∈ devices, row'.imei = row.imei then
        some { w with devices := devices }
      else none
  | .setOthers others =>
      if w.now ≤ others.now then
        some { others with devices := w.devices, telegramUsers := w.telegramUsers }
      else none

end Gt06
