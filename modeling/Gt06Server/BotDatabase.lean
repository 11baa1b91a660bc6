/-
**What the bot asks for.**

The bot loop of `bot.rs` is one process that talks to two others: PostgreSQL, which the TCP server
and the HTTP API write to as well, and Telegram.  Everything it does to either is one request at a
time, and every request may fail.  This module has the rows the ride notifications read and write,
the requests, and what each of them does.

The history at the end of `World` is not stored anywhere; it says what has happened to the
heartbeats so far.

Main definitions:

* `Gt06.StoredHeartbeat`, `Gt06.NotificationState`, `Gt06.EngineSession` — the rows;
* `Gt06.World` — the tables, the clock, and what has happened to the heartbeats;
* `Gt06.Request`, `Gt06.Request.Reply` — the requests and their answers;
* `Gt06.World.execute`, `Gt06.World.answer` — what a request does;
* `Gt06.EnvEvent`, `Gt06.World.env` — what the other processes do.
-/

import Gt06Server.Await
import Gt06Server.SubscriptionMaintenance

set_option relaxedAutoImplicit false
set_option autoImplicit false

namespace Gt06

open Relational

/-! ### Rows -/

/-- The engine statuses the bot notifies about. -/
inductive EngineStatus where
  | on
  | off
  deriving DecidableEq, Repr

/-- A row of `device_heartbeats`. -/
structure StoredHeartbeat where
  id : ℕ
  imei : String
  serverReceivedAt : ℤ
  engineStatusGuess : String
  deriving DecidableEq, Repr

def StoredHeartbeat.notificationStatus (heartbeat : StoredHeartbeat) : Option EngineStatus :=
  if heartbeat.engineStatusGuess = "on" then some .on
  else if heartbeat.engineStatusGuess = "off" then some .off
  else none

/-- A row of `telegram_device_notifications`, whose key is the device and the chat. -/
structure NotificationState where
  imei : String
  chatId : ℤ
  lastStatus : EngineStatus
  lastMessageId : ℤ
  lastHeartbeatId : ℕ
  deriving DecidableEq, Repr

/-- The values the bot writes to `session_status`. -/
inductive SessionStatus where
  | pendingConfirmation
  | confirmedSafe
  | reportedTheft
  | finished
  deriving DecidableEq, Repr

/-- A row of `telegram_engine_sessions`. -/
structure EngineSession where
  id : ℕ
  imei : String
  chatId : ℤ
  triggerHeartbeatId : ℕ
  promptMessageId : ℤ
  rideStatusMessageId : Option ℤ
  sessionStatus : SessionStatus
  createdAt : ℤ
  resolvedAt : Option ℤ
  deriving DecidableEq, Repr

/-- A row of `telegram_users`. -/
structure TelegramUser where
  telegramUserId : ℤ
  chatId : ℤ
  boundImei : Option String
  /-- `registration_status = 'bound'`. -/
  isBound : Bool
  deriving DecidableEq, Repr

structure NotificationRecipient where
  chatId : ℤ
  hasActiveSubscription : Bool
  deriving DecidableEq, Repr

/-- The distance is the value of the source's `f64`. -/
structure RideSummary where
  totalDistanceKm : ℚ
  ridingSeconds : ℕ
  deriving DecidableEq, Repr

/-- The session is one of those that `fetch_active_engine_sessions` asks for. -/
def SessionStatus.isActive : SessionStatus → Bool
  | .pendingConfirmation => true
  | .confirmedSafe => true
  | .reportedTheft => true
  | .finished => false

/-! ### Queries -/

/-- `fetch_new_heartbeats`: `WHERE id > $1 ORDER BY id ASC LIMIT 100`. -/
def fetchNewHeartbeats (rows : List StoredHeartbeat) (afterId : ℕ) : List StoredHeartbeat :=
  ((rows.filter fun row => afterId < row.id).mergeSort fun a b => a.id ≤ b.id).take 100

/-- `fetch_latest_heartbeat_for_imei`: `WHERE imei = $1 ORDER BY id DESC LIMIT 1`. -/
def fetchLatestHeartbeatForImei (rows : List StoredHeartbeat) (imei : String) :
    Option StoredHeartbeat :=
  ((rows.filter fun row => row.imei = imei).mergeSort fun a b => b.id ≤ a.id).head?

/-- `fetch_active_engine_sessions`: `ORDER BY created_at ASC, id ASC`. -/
def fetchActiveEngineSessions (rows : List EngineSession) (imei : String) (chatId : ℤ) :
    List EngineSession :=
  (rows.filter fun row =>
    row.imei = imei ∧ row.chatId = chatId ∧ row.sessionStatus.isActive).mergeSort fun a b =>
      a.createdAt < b.createdAt ∨ a.createdAt = b.createdAt ∧ a.id ≤ b.id

/-- `fetch_all_active_engine_sessions`:
`ORDER BY imei ASC, chat_id ASC, created_at ASC, id ASC`. -/
def fetchAllActiveEngineSessions (rows : List EngineSession) : List EngineSession :=
  (rows.filter fun row => row.sessionStatus.isActive).mergeSort fun a b =>
    a.imei < b.imei ∨ a.imei = b.imei ∧
      (a.chatId < b.chatId ∨ a.chatId = b.chatId ∧
        (a.createdAt < b.createdAt ∨ a.createdAt = b.createdAt ∧ a.id ≤ b.id))

/-- `fetch_engine_session_by_prompt_message`: `ORDER BY id DESC LIMIT 1`. -/
def fetchEngineSessionByPromptMessage (rows : List EngineSession) (chatId promptMessageId : ℤ) :
    Option EngineSession :=
  ((rows.filter fun row => row.chatId = chatId ∧ row.promptMessageId = promptMessageId).mergeSort
    fun a b => b.id ≤ a.id).head?

/-- `has_active_subscription`, and the `EXISTS` of `fetch_notification_recipients_for_imei`. -/
def hasActiveSubscription (rows : List Subscription) (telegramUserId referenceTime : ℤ) : Bool :=
  rows.any fun row =>
    row.telegramUserId = telegramUserId ∧
      (row.planCode = midtransBasicPlanCode ∨ row.planCode = midtransOjolPlanCode) ∧
      row.status = .active ∧ ∃ periodEnd ∈ row.currentPeriodEndAt, referenceTime < periodEnd

/-- `fetch_notification_recipients_for_imei`: `ORDER BY tu.chat_id ASC`. -/
def fetchNotificationRecipientsForImei (users : List TelegramUser)
    (subscriptions : List Subscription) (now : ℤ) (imei : String) : List NotificationRecipient :=
  ((users.filter fun user => user.boundImei = some imei ∧ user.isBound).mergeSort
    fun a b => a.chatId ≤ b.chatId).map fun user =>
      { chatId := user.chatId
        hasActiveSubscription := hasActiveSubscription subscriptions user.telegramUserId now }

/-! ### The world -/

/-- The tables, the clock, and what has happened to the heartbeats. -/
structure World where
  now : ℤ
  /-- The last id the sequence of `device_heartbeats` has handed out. -/
  heartbeatSequence : ℕ
  /-- The inserted heartbeats whose transactions have not ended. -/
  uncommittedHeartbeats : List StoredHeartbeat
  deviceHeartbeats : List StoredHeartbeat
  /-- The `last_notified_heartbeat_id` of `telegram_bot_state`. -/
  lastNotifiedHeartbeatId : Option ℕ
  telegramUsers : List TelegramUser
  telegramSubscriptions : List Subscription
  telegramDeviceNotifications : List NotificationState
  engineSessionSequence : ℕ
  telegramEngineSessions : List EngineSession
  /-- The ids that some `fetch_new_heartbeats` has returned. -/
  returned : List ℕ
  /-- The ids that have gone through the notification loop. -/
  notified : List ℕ
  /-- The ids that have become visible since the last `fetch_new_heartbeats`. -/
  committedSinceFetch : List ℕ

/-- The heartbeats that have been inserted, whether they are visible or not. -/
def World.heartbeats (w : World) : List StoredHeartbeat :=
  w.deviceHeartbeats ++ w.uncommittedHeartbeats

theorem World.mem_heartbeats {w : World} {row : StoredHeartbeat} :
    row ∈ w.heartbeats ↔ row ∈ w.deviceHeartbeats ∨ row ∈ w.uncommittedHeartbeats :=
  List.mem_append

/-- The tables are empty. -/
def World.empty (now : ℤ) : World where
  now := now
  heartbeatSequence := 0
  uncommittedHeartbeats := []
  deviceHeartbeats := []
  lastNotifiedHeartbeatId := none
  telegramUsers := []
  telegramSubscriptions := []
  telegramDeviceNotifications := []
  engineSessionSequence := 0
  telegramEngineSessions := []
  returned := []
  notified := []
  committedSinceFetch := []

/-! ### Requests -/

/-- The messages of the ride notifications. -/
inductive Notice where
  | engineStatus (heartbeat : StoredHeartbeat) (status : EngineStatus)
  | inactiveSubscriptionEngineStatus (status : EngineStatus)
  | engineOnConfirmation (heartbeat : StoredHeartbeat)
  | sessionFinished
  | theftEngineOff (endedAt : ℤ)
  | rideSummary (session : EngineSession) (endedAt : ℤ) (summary : Option RideSummary)
  | rideSafe
  | theftWarning (sessionId : ℕ)
  | subscriptionMenu
  deriving DecidableEq

inductive Toast where
  | empty
  | subscriptionRequired
  | sessionNotFound
  | sessionMismatch
  | sessionAlreadyEnded
  deriving DecidableEq

inductive Sticker where
  | engineOn
  | theftWarning
  deriving DecidableEq

/-- One statement, one call of the Telegram API, or `utcNow`, which reads the clock. -/
inductive Request where
  | utcNow
  | getLastNotifiedHeartbeatId
  | setLastNotifiedHeartbeatId (id : ℕ)
  | fetchNewHeartbeats (afterId : ℕ)
  | fetchHeartbeatServerReceivedAtById (id : ℕ)
  | fetchLatestHeartbeatForImei (imei : String)
  | fetchNotificationRecipientsForImei (imei : String)
  | hasActiveSubscription (telegramUserId referenceTime : ℤ)
  | fetchNotificationState (imei : String) (chatId : ℤ)
  | upsertNotificationState (state : NotificationState)
  | fetchActiveEngineSessions (imei : String) (chatId : ℤ)
  | fetchAllActiveEngineSessions
  | fetchEngineSessionByPromptMessage (chatId promptMessageId : ℤ)
  | createEngineSession (imei : String) (chatId : ℤ) (triggerHeartbeatId : ℕ)
      (promptMessageId createdAt : ℤ)
  | updateEngineSessionStatus (sessionId : ℕ) (status : SessionStatus)
  | resolveEngineSessionAt (sessionId : ℕ) (status : SessionStatus) (resolvedAt : ℤ)
  | setEngineSessionRideStatusMessageId (sessionId : ℕ) (messageId : ℤ)
  | fetchRideSummary (imei : String) (startedAt endedAt : ℤ)
  | fetchLatestLocationForImei (imei : String)
  | sendMessage (chatId : ℤ) (notice : Notice)
  | sendSticker (chatId : ℤ) (sticker : Sticker)
  | clearInlineKeyboard (chatId messageId : ℤ)
  | answerCallbackQuery (callbackQueryId : String) (toast : Toast)

/-- What a request is answered with.  The location is used for the texts of messages only. -/
@[reducible] def Request.Reply : Request → Type
  | .utcNow => ℤ
  | .getLastNotifiedHeartbeatId => Option ℕ
  | .setLastNotifiedHeartbeatId _ => Unit
  | .fetchNewHeartbeats _ => List StoredHeartbeat
  | .fetchHeartbeatServerReceivedAtById _ => Option ℤ
  | .fetchLatestHeartbeatForImei _ => Option StoredHeartbeat
  | .fetchNotificationRecipientsForImei _ => List NotificationRecipient
  | .hasActiveSubscription _ _ => Bool
  | .fetchNotificationState _ _ => Option NotificationState
  | .upsertNotificationState _ => Unit
  | .fetchActiveEngineSessions _ _ => List EngineSession
  | .fetchAllActiveEngineSessions => List EngineSession
  | .fetchEngineSessionByPromptMessage _ _ => Option EngineSession
  | .createEngineSession _ _ _ _ _ => ℕ
  | .updateEngineSessionStatus _ _ => Unit
  | .resolveEngineSessionAt _ _ _ => Unit
  | .setEngineSessionRideStatusMessageId _ _ => Unit
  | .fetchRideSummary _ _ _ => Option RideSummary
  | .fetchLatestLocationForImei _ => Unit
  | .sendMessage _ _ => ℤ
  | .sendSticker _ _ => ℤ
  | .clearInlineKeyboard _ _ => Unit
  | .answerCallbackQuery _ _ => Unit

/-- Reading the clock is not a request to another process. -/
def Request.canFail : Request → Bool
  | .utcNow => false
  | _ => true

/-- What the world leaves open about an answer: whether the request fails, the message id that
Telegram gives, and what the stored locations of a ride add up to. -/
structure Outcome where
  fails : Bool
  messageId : ℤ
  rideSummary : Option RideSummary
  deriving DecidableEq

namespace World

variable (w : World)

/-- A request that does not fail. -/
def execute (outcome : Outcome) : (r : Request) → r.Reply × World
  | .utcNow => (w.now, w)
  | .getLastNotifiedHeartbeatId => (w.lastNotifiedHeartbeatId, w)
  | .setLastNotifiedHeartbeatId id =>
      ((), { w with lastNotifiedHeartbeatId := some id, notified := w.notified ++ [id] })
  | .fetchNewHeartbeats afterId =>
      (Gt06.fetchNewHeartbeats w.deviceHeartbeats afterId,
        { w with
          returned := w.returned ++
            (Gt06.fetchNewHeartbeats w.deviceHeartbeats afterId).map StoredHeartbeat.id
          committedSinceFetch := [] })
  | .fetchHeartbeatServerReceivedAtById id =>
      ((rowAt StoredHeartbeat.id id w.deviceHeartbeats).map StoredHeartbeat.serverReceivedAt, w)
  | .fetchLatestHeartbeatForImei imei =>
      (Gt06.fetchLatestHeartbeatForImei w.deviceHeartbeats imei, w)
  | .fetchNotificationRecipientsForImei imei =>
      (Gt06.fetchNotificationRecipientsForImei w.telegramUsers w.telegramSubscriptions w.now imei,
        w)
  | .hasActiveSubscription telegramUserId referenceTime =>
      (Gt06.hasActiveSubscription w.telegramSubscriptions telegramUserId referenceTime, w)
  | .fetchNotificationState imei chatId =>
      (w.telegramDeviceNotifications.find? fun row => row.imei = imei ∧ row.chatId = chatId, w)
  | .upsertNotificationState state =>
      ((), { w with
        telegramDeviceNotifications :=
          (w.telegramDeviceNotifications.filter fun row =>
            ¬(row.imei = state.imei ∧ row.chatId = state.chatId)) ++ [state] })
  | .fetchActiveEngineSessions imei chatId =>
      (Gt06.fetchActiveEngineSessions w.telegramEngineSessions imei chatId, w)
  | .fetchAllActiveEngineSessions =>
      (Gt06.fetchAllActiveEngineSessions w.telegramEngineSessions, w)
  | .fetchEngineSessionByPromptMessage chatId promptMessageId =>
      (Gt06.fetchEngineSessionByPromptMessage w.telegramEngineSessions chatId promptMessageId, w)
  | .createEngineSession imei chatId triggerHeartbeatId promptMessageId createdAt =>
      (w.engineSessionSequence + 1, { w with
        engineSessionSequence := w.engineSessionSequence + 1
        telegramEngineSessions := w.telegramEngineSessions ++
          [{ id := w.engineSessionSequence + 1
             imei := imei
             chatId := chatId
             triggerHeartbeatId := triggerHeartbeatId
             promptMessageId := promptMessageId
             rideStatusMessageId := none
             sessionStatus := .pendingConfirmation
             createdAt := createdAt
             resolvedAt := none }] })
  | .updateEngineSessionStatus sessionId status =>
      ((), { w with
        telegramEngineSessions := updateAt EngineSession.id sessionId
          (fun row => { row with sessionStatus := status }) w.telegramEngineSessions })
  | .resolveEngineSessionAt sessionId status resolvedAt =>
      ((), { w with
        telegramEngineSessions := updateAt EngineSession.id sessionId
          (fun row => { row with sessionStatus := status, resolvedAt := some resolvedAt })
          w.telegramEngineSessions })
  | .setEngineSessionRideStatusMessageId sessionId messageId =>
      ((), { w with
        telegramEngineSessions := updateAt EngineSession.id sessionId
          (fun row => { row with rideStatusMessageId := some messageId })
          w.telegramEngineSessions })
  | .fetchRideSummary _ _ _ => (outcome.rideSummary, w)
  | .fetchLatestLocationForImei _ => ((), w)
  | .sendMessage _ _ => (outcome.messageId, w)
  | .sendSticker _ _ => (outcome.messageId, w)
  | .clearInlineKeyboard _ _ => ((), w)
  | .answerCallbackQuery _ _ => ((), w)

/-- A request is answered; one that fails has no effect. -/
def answer (outcome : Outcome) (r : Request) : Option r.Reply × World :=
  if outcome.fails && r.canFail then (none, w)
  else (some (w.execute outcome r).1, (w.execute outcome r).2)

/-- An answer comes from the execution. -/
theorem execute_of_answer {w w' : World} {outcome : Outcome} {r : Request} {x : r.Reply}
    (h : w.answer outcome r = (some x, w')) : w.execute outcome r = (x, w') := by
  unfold answer at h
  split at h
  · simp at h
  · simp only [Prod.mk.injEq, Option.some.injEq] at h
    rw [← h.1, ← h.2]

/-- No answer, no effect. -/
theorem eq_of_answer_none {w w' : World} {outcome : Outcome} {r : Request}
    (h : w.answer outcome r = (none, w')) : w' = w := by
  unfold answer at h
  split at h
  · simp only [Prod.mk.injEq, true_and] at h
    exact h.symm
  · simp at h

/-- A request has its effect or none. -/
theorem answer_cases (outcome : Outcome) (r : Request) :
    (w.answer outcome r).2 = w ∨
      (w.answer outcome r).2 = (w.execute outcome r).2 := by
  cases hanswer : w.answer outcome r with
  | mk x w' =>
      cases x with
      | none => exact Or.inl (eq_of_answer_none hanswer)
      | some x =>
          right
          rw [execute_of_answer hanswer]

/-- No request of the bot writes heartbeats. -/
theorem deviceHeartbeats_answer (outcome : Outcome) (w : World) (r : Request) :
    (w.answer outcome r).2.deviceHeartbeats = w.deviceHeartbeats := by
  rcases w.answer_cases outcome r with hsame | hexecute
  · exact congrArg World.deviceHeartbeats hsame
  · refine (congrArg World.deviceHeartbeats hexecute).trans ?_
    cases r with
    | _ => rfl

end World

/-! ### The other processes -/

/-- What happens beside the bot: time passes, `persist_event` inserts a heartbeat and its
transaction ends, and bindings and subscriptions change. -/
inductive EnvEvent where
  | tick (microseconds : ℕ)
  | insertHeartbeat (imei : String) (serverReceivedAt : ℤ) (engineStatusGuess : String)
  | commit (id : ℕ)
  | rollback (id : ℕ)
  | setTelegramUsers (users : List TelegramUser)
  | setTelegramSubscriptions (subscriptions : List Subscription)

namespace World

variable (w : World)

/-- The move of another process, when it can happen.  `server_received_at` is read off the clock
before the insert, and the transaction holds the row of its device in `devices` until it ends, so
that a second one for the device waits. -/
def env : EnvEvent → Option World
  | .tick microseconds => some { w with now := w.now + microseconds }
  | .insertHeartbeat imei serverReceivedAt engineStatusGuess =>
      if serverReceivedAt ≤ w.now ∧ ∀ row ∈ w.uncommittedHeartbeats, row.imei ≠ imei then
        some { w with
          heartbeatSequence := w.heartbeatSequence + 1
          uncommittedHeartbeats := w.uncommittedHeartbeats ++
            [{ id := w.heartbeatSequence + 1
               imei := imei
               serverReceivedAt := serverReceivedAt
               engineStatusGuess := engineStatusGuess }] }
      else none
  | .commit id =>
      (rowAt StoredHeartbeat.id id w.uncommittedHeartbeats).map fun row =>
        { w with
          uncommittedHeartbeats := w.uncommittedHeartbeats.filter fun r => r.id ≠ id
          deviceHeartbeats := w.deviceHeartbeats ++ [row]
          committedSinceFetch := w.committedSinceFetch ++ [id] }
  | .rollback id =>
      some { w with
        uncommittedHeartbeats := w.uncommittedHeartbeats.filter fun r => r.id ≠ id }
  | .setTelegramUsers users => some { w with telegramUsers := users }
  | .setTelegramSubscriptions subscriptions =>
      some { w with telegramSubscriptions := subscriptions }

theorem of_env_insertHeartbeat {w w' : World} {imei : String} {serverReceivedAt : ℤ}
    {engineStatusGuess : String}
    (h : w.env (.insertHeartbeat imei serverReceivedAt engineStatusGuess) = some w') :
    (serverReceivedAt ≤ w.now ∧ ∀ row ∈ w.uncommittedHeartbeats, row.imei ≠ imei) ∧
      w' = { w with
        heartbeatSequence := w.heartbeatSequence + 1
        uncommittedHeartbeats := w.uncommittedHeartbeats ++
          [⟨w.heartbeatSequence + 1, imei, serverReceivedAt, engineStatusGuess⟩] } := by
  simp only [env] at h
  split at h
  · exact ⟨by assumption, (Option.some.inj h).symm⟩
  · exact absurd h (by simp)

theorem of_env_commit {w w' : World} {id : ℕ} (h : w.env (.commit id) = some w') :
    ∃ row ∈ w.uncommittedHeartbeats, row.id = id ∧
      w' = { w with
        uncommittedHeartbeats := w.uncommittedHeartbeats.filter fun r => r.id ≠ id
        deviceHeartbeats := w.deviceHeartbeats ++ [row]
        committedSinceFetch := w.committedSinceFetch ++ [id] } := by
  obtain ⟨row, hrow, rfl⟩ := Option.map_eq_some_iff.1 h
  obtain ⟨hmem, hid⟩ := mem_of_rowAt hrow
  exact ⟨row, hmem, hid, rfl⟩

/-- The other processes leave the tables of the bot alone, and time does not go back. -/
structure SameBotTables (w w' : World) : Prop where
  now_le : w.now ≤ w'.now
  lastNotifiedHeartbeatId : w'.lastNotifiedHeartbeatId = w.lastNotifiedHeartbeatId
  telegramDeviceNotifications : w'.telegramDeviceNotifications = w.telegramDeviceNotifications
  engineSessionSequence : w'.engineSessionSequence = w.engineSessionSequence
  telegramEngineSessions : w'.telegramEngineSessions = w.telegramEngineSessions

theorem sameBotTables_env {w w' : World} {event : EnvEvent} (h : w.env event = some w') :
    SameBotTables w w' := by
  cases event with
  | tick microseconds =>
      obtain rfl := Option.some.inj h
      exact ⟨by simp, rfl, rfl, rfl, rfl⟩
  | insertHeartbeat imei serverReceivedAt engineStatusGuess =>
      obtain ⟨-, rfl⟩ := of_env_insertHeartbeat h
      exact ⟨le_rfl, rfl, rfl, rfl, rfl⟩
  | commit id =>
      obtain ⟨row, -, -, rfl⟩ := of_env_commit h
      exact ⟨le_rfl, rfl, rfl, rfl, rfl⟩
  | _ =>
      obtain rfl := Option.some.inj h
      exact ⟨le_rfl, rfl, rfl, rfl, rfl⟩

end World

end Gt06
