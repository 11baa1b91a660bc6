/-
**The bot loop.**

The loop of `TelegramBot::run` answers the buttons under the engine-on messages, notifies about
the new heartbeats and finishes the rides of devices that have gone quiet, over and over.  Each
part is written as a program of requests: where the source awaits, the program sends a request,
and where the source uses `?`, an error ends the part; the source logs the errors of a single chat
and of a whole part and goes on.

Main definitions:

* `Gt06.BotM` — programs of the bot;
* `Gt06.processHeartbeatNotifications`, `Gt06.processStaleEngineSessions`,
  `Gt06.handleSessionCallback` — the three parts;
* `Gt06.runIteration` — once round the loop;
* `Gt06.bot` — the bot among the other processes.
-/

import Gt06Server.BotDatabase
import Gt06Server.Primitives

set_option relaxedAutoImplicit false
set_option autoImplicit false

namespace Gt06

open Await

/-- The programs of the bot. -/
abbrev BotM : Type → Type := Prog Request Request.Reply

/-- Send one request. -/
abbrev ask (r : Request) : BotM r.Reply := request r

/-! ### Thresholds -/

def engineOnAlertCooldownSecs : ℤ := 10 * 60

def staleEngineSessionTimeoutSecs : ℤ := engineOnAlertCooldownSecs

def shouldStartNewEngineOnSession (heartbeatTime : ℤ) (previousOnHeartbeatTime : Option ℤ) :
    Bool :=
  match previousOnHeartbeatTime with
  | none => true
  | some previous => engineOnAlertCooldownSecs ≤ numSeconds (heartbeatTime - previous)

def shouldFinishStaleEngineSession (referenceTime latestHeartbeatTime : ℤ) : Bool :=
  staleEngineSessionTimeoutSecs ≤ numSeconds (referenceTime - latestHeartbeatTime)

def shouldSendRideSummary (summary : Option RideSummary) : Bool :=
  summary.any fun summary => 0 < summary.totalDistanceKm ∧ 0 < summary.ridingSeconds

/-! ### Finishing rides -/

/-- The end of the session is read off the clock. -/
def resolveEngineSession (sessionId : ℕ) (status : SessionStatus) : BotM Unit := do
  let now ← ask .utcNow
  ask (.resolveEngineSessionAt sessionId status now)

/-- The alert that the engine of a stolen vehicle went off. -/
def sendTheftEngineOffAlert (chatId : ℤ) (session : EngineSession) (endedAt : ℤ)
    (sendAlert : Bool) : BotM Unit :=
  if sendAlert ∧ session.sessionStatus = .reportedTheft then do
    let _ ← ask (.sendMessage chatId (.theftEngineOff endedAt))
    pure ()
  else pure ()

/-- The summary of a ride is sent and its message id stored, if there is anything to say. -/
def sendRideSummary (chatId : ℤ) (session : EngineSession) (endedAt : ℤ)
    (rideSummary : Option RideSummary) (sessionFinishedMessageId : ℤ) : BotM ℤ :=
  if shouldSendRideSummary rideSummary then do
    let messageId ← ask (.sendMessage chatId (.rideSummary session endedAt rideSummary))
    ask (.setEngineSessionRideStatusMessageId session.id messageId)
    pure messageId
  else pure sessionFinishedMessageId

def finishRideSessionAndSendSummary (chatId : ℤ) (imei : String) (session : EngineSession)
    (endedAt : ℤ) (sendAlert : Bool) : BotM ℤ :=
  match session.rideStatusMessageId with
  | some messageId => do
      ask (.resolveEngineSessionAt session.id .finished endedAt)
      pure messageId
  | none => do
      let sessionFinishedMessageId ← ask (.sendMessage chatId .sessionFinished)
      let rideSummary ← ask (.fetchRideSummary imei session.createdAt endedAt)
      ask (.fetchLatestLocationForImei imei)
      sendTheftEngineOffAlert chatId session endedAt sendAlert
      let messageId ←
        sendRideSummary chatId session endedAt rideSummary sessionFinishedMessageId
      resolveEngineSession session.id .finished
      pure messageId

/-- The confirmation buttons of a pending session go; an error is only logged. -/
def clearConfirmationKeyboard (chatId : ℤ) (session : EngineSession) : BotM Unit :=
  if session.sessionStatus = .pendingConfirmation then do
    let _ ← (ask (.clearInlineKeyboard chatId session.promptMessageId)).attempt
    pure ()
  else pure ()

/-- The message id of the last session finished. -/
def finishActiveEngineSessions (chatId : ℤ) (imei : String) (sessions : List EngineSession)
    (endedAt : ℤ) (sendAlert : Bool) : BotM (Option ℤ) :=
  sessions.foldlM (fun _ session => do
    clearConfirmationKeyboard chatId session
    let messageId ← finishRideSessionAndSendSummary chatId imei session endedAt sendAlert
    pure (some messageId)) none

/-- Without messages, and at the time given. -/
def finishInactiveSubscriptionSessions (imei : String) (chatId endedAt : ℤ) : BotM Unit := do
  let sessions ← ask (.fetchActiveEngineSessions imei chatId)
  forM sessions fun session => do
    clearConfirmationKeyboard chatId session
    ask (.resolveEngineSessionAt session.id .finished endedAt)

section Uses

variable {P : Request → Prop} {chatId : ℤ} {session : EngineSession}

theorem sendTheftEngineOffAlert_uses {endedAt : ℤ} {sendAlert : Bool}
    (h : sendAlert = true → P (.sendMessage chatId (.theftEngineOff endedAt))) :
    (sendTheftEngineOffAlert chatId session endedAt sendAlert).Uses P := by
  unfold sendTheftEngineOffAlert
  split
  · next halert => exact Prog.uses_bind (Prog.uses_request (h halert.1)) fun _ => trivial
  · trivial

theorem sendRideSummary_uses {endedAt : ℤ} {rideSummary : Option RideSummary}
    (hsend : P (.sendMessage chatId (.rideSummary session endedAt rideSummary)))
    (hnote : ∀ messageId, P (.setEngineSessionRideStatusMessageId session.id messageId))
    (sessionFinishedMessageId : ℤ) :
    (sendRideSummary chatId session endedAt rideSummary sessionFinishedMessageId).Uses P := by
  unfold sendRideSummary
  split
  · refine Prog.uses_bind (Prog.uses_request hsend) ?_
    intro messageId
    exact Prog.uses_bind (Prog.uses_request (hnote messageId)) fun _ => trivial
  · trivial

theorem clearConfirmationKeyboard_uses
    (h : ∀ messageId, P (.clearInlineKeyboard chatId messageId)) :
    (clearConfirmationKeyboard chatId session).Uses P := by
  unfold clearConfirmationKeyboard
  split
  · exact Prog.uses_bind (Prog.uses_attempt (Prog.uses_request (h _))) fun _ => trivial
  · trivial

end Uses

/-! ### Heartbeats -/

/-- The time of the last heartbeat notified, if that was an `on`. -/
def lastOnHeartbeatAt (existing : Option NotificationState) : BotM (Option ℤ) :=
  match existing.filter fun state => state.lastStatus = .on with
  | some state => ask (.fetchHeartbeatServerReceivedAtById state.lastHeartbeatId)
  | none => pure none

/-- A new session for an `on`, once the sessions before it are finished. -/
def startEngineSession (heartbeat : StoredHeartbeat) (chatId : ℤ)
    (activeSessions : List EngineSession) : BotM Unit := do
  let _ ← finishActiveEngineSessions chatId heartbeat.imei activeSessions
    heartbeat.serverReceivedAt false
  let messageId ← ask (.sendMessage chatId (.engineOnConfirmation heartbeat))
  let _ ← ask (.createEngineSession heartbeat.imei chatId heartbeat.id messageId
    heartbeat.serverReceivedAt)
  ask (.upsertNotificationState
    { imei := heartbeat.imei
      chatId := chatId
      lastStatus := .on
      lastMessageId := messageId
      lastHeartbeatId := heartbeat.id })

def processEngineOnNotificationForChat (heartbeat : StoredHeartbeat) (chatId : ℤ)
    (existing : Option NotificationState) : BotM Unit := do
  let activeSessions ← ask (.fetchActiveEngineSessions heartbeat.imei chatId)
  let latestPending := activeSessions.reverse.find? fun session =>
    session.sessionStatus = .pendingConfirmation
  let lastOnHeartbeatAt ← lastOnHeartbeatAt existing
  if shouldStartNewEngineOnSession heartbeat.serverReceivedAt lastOnHeartbeatAt then
    startEngineSession heartbeat chatId activeSessions
  else
    ask (.upsertNotificationState
      { imei := heartbeat.imei
        chatId := chatId
        lastStatus := .on
        lastMessageId := ((latestPending.map EngineSession.promptMessageId).or
          (existing.map NotificationState.lastMessageId)).getD 0
        lastHeartbeatId := heartbeat.id })

/-- The message of the ride finished last stands for the engine-off message. -/
def finishOrNotify (heartbeat : StoredHeartbeat) (status : EngineStatus) (chatId : ℤ)
    (activeSessions : List EngineSession) : BotM ℤ := do
  let finished ← finishActiveEngineSessions chatId heartbeat.imei activeSessions
    heartbeat.serverReceivedAt true
  match finished with
  | some messageId => pure messageId
  | none => ask (.sendMessage chatId (.engineStatus heartbeat status))

/-- An `off` that the chat has not been told about. -/
def processEngineOffNotificationForChat (heartbeat : StoredHeartbeat) (status : EngineStatus)
    (chatId : ℤ) : BotM Unit := do
  let activeSessions ← ask (.fetchActiveEngineSessions heartbeat.imei chatId)
  let messageId ← finishOrNotify heartbeat status chatId activeSessions
  ask (.upsertNotificationState
    { imei := heartbeat.imei
      chatId := chatId
      lastStatus := status
      lastMessageId := messageId
      lastHeartbeatId := heartbeat.id })

/-- The chat has been told about the status; only the heartbeat is noted. -/
def noteHeartbeat (heartbeat : StoredHeartbeat) (existing : NotificationState) : BotM Unit :=
  ask (.upsertNotificationState { existing with lastHeartbeatId := heartbeat.id })

def processHeartbeatNotificationForChat (heartbeat : StoredHeartbeat) (status : EngineStatus)
    (chatId : ℤ) : BotM Unit := do
  let existing ← ask (.fetchNotificationState heartbeat.imei chatId)
  match status with
  | .on => processEngineOnNotificationForChat heartbeat chatId existing
  | .off =>
      match existing.filter fun state => state.lastStatus = .off with
      | some existing => noteHeartbeat heartbeat existing
      | none => processEngineOffNotificationForChat heartbeat .off chatId

def processInactiveSubscriptionNotificationForChat (heartbeat : StoredHeartbeat)
    (status : EngineStatus) (chatId : ℤ) : BotM Unit := do
  let existing ← ask (.fetchNotificationState heartbeat.imei chatId)
  match existing.filter fun state => state.lastStatus = status with
  | some existing => noteHeartbeat heartbeat existing
  | none => do
      let messageId ← ask (.sendMessage chatId (.inactiveSubscriptionEngineStatus status))
      ask (.upsertNotificationState
        { imei := heartbeat.imei
          chatId := chatId
          lastStatus := status
          lastMessageId := messageId
          lastHeartbeatId := heartbeat.id })

/-- One recipient of one heartbeat.  Only the error of finishing the sessions of a chat without
a subscription ends the pass. -/
def notifyRecipient (heartbeat : StoredHeartbeat) (status : EngineStatus)
    (recipient : NotificationRecipient) : BotM Unit :=
  if recipient.hasActiveSubscription then do
    let _ ← (processHeartbeatNotificationForChat heartbeat status recipient.chatId).attempt
    pure ()
  else
    match status with
    | .off => do
        let _ ←
          (processInactiveSubscriptionNotificationForChat heartbeat .off recipient.chatId).attempt
        finishInactiveSubscriptionSessions heartbeat.imei recipient.chatId
          heartbeat.serverReceivedAt
    | .on => do
        let _ ←
          (processInactiveSubscriptionNotificationForChat heartbeat .on recipient.chatId).attempt
        pure ()

def notifyRecipients (heartbeat : StoredHeartbeat) (recipients : List NotificationRecipient) :
    BotM Unit :=
  match heartbeat.notificationStatus with
  | some status => forM recipients (notifyRecipient heartbeat status)
  | none => pure ()

/-- The body of the loop of `process_heartbeat_notifications`; without recipients there is
nothing to do but to note the heartbeat. -/
def notifyHeartbeat (heartbeat : StoredHeartbeat) : BotM Unit := do
  let recipients ← ask (.fetchNotificationRecipientsForImei heartbeat.imei)
  notifyRecipients heartbeat recipients
  ask (.setLastNotifiedHeartbeatId heartbeat.id)

def processHeartbeatNotifications : BotM Unit := do
  let lastNotified ← ask .getLastNotifiedHeartbeatId
  let heartbeats ← ask (.fetchNewHeartbeats (lastNotified.getD 0))
  forM heartbeats notifyHeartbeat

/-! ### Quiet devices -/

/-- The `BTreeMap` of the sessions: device and chat in order, with the sessions of each. -/
def sessionGroups (sessions : List EngineSession) : List ((String × ℤ) × List EngineSession) :=
  ((sessions.map fun session => (session.imei, session.chatId)).dedup.mergeSort
    fun a b => a.1 < b.1 ∨ a.1 = b.1 ∧ a.2 ≤ b.2).map fun key =>
      (key, sessions.filter fun session => (session.imei, session.chatId) = key)

def finishStaleGroup (referenceTime : ℤ) (group : (String × ℤ) × List EngineSession) :
    BotM Unit := do
  let latestHeartbeat ← ask (.fetchLatestHeartbeatForImei group.1.1)
  match latestHeartbeat.filter fun heartbeat =>
      shouldFinishStaleEngineSession referenceTime heartbeat.serverReceivedAt with
  | some heartbeat => do
      let _ ← finishActiveEngineSessions group.1.2 group.1.1 group.2
        heartbeat.serverReceivedAt false
      pure ()
  | none => pure ()

def processStaleEngineSessions : BotM Unit := do
  let sessions ← ask .fetchAllActiveEngineSessions
  let referenceTime ← ask .utcNow
  forM (sessionGroups sessions) (finishStaleGroup referenceTime)

/-! ### Answers to the engine-on messages -/

inductive SessionAction where
  | yes
  | no
  deriving DecidableEq

/-- A callback query with the data of a button under an engine-on message. -/
structure SessionCallback where
  id : String
  telegramUserId : ℤ
  chatId : ℤ
  messageId : Option ℤ
  action : SessionAction
  deriving DecidableEq

/-- The keyboard of a message goes, if the message is known; an error is only logged. -/
def clearProtectedKeyboard (chatId : ℤ) (messageId : Option ℤ) : BotM Unit :=
  match messageId with
  | some messageId => do
      let _ ← (ask (.clearInlineKeyboard chatId messageId)).attempt
      pure ()
  | none => pure ()

def ensureActiveSubscriptionForCallback (query : SessionCallback) : BotM Bool := do
  let now ← ask .utcNow
  let active ← ask (.hasActiveSubscription query.telegramUserId now)
  if active then pure true
  else do
    ask (.answerCallbackQuery query.id .subscriptionRequired)
    clearProtectedKeyboard query.chatId query.messageId
    let _ ← ask (.sendMessage query.chatId .subscriptionMenu)
    pure false

/-- The answer to a pending session. -/
def answerSession (query : SessionCallback) (session : EngineSession) : BotM Unit :=
  match query.action with
  | .yes => do
      let _ ← ask (.sendMessage query.chatId .rideSafe)
      let _ ← (ask (.sendSticker query.chatId .engineOn)).attempt
      ask (.updateEngineSessionStatus session.id .confirmedSafe)
  | .no => do
      let _ ← ask (.sendMessage query.chatId (.theftWarning session.id))
      let _ ← (ask (.sendSticker query.chatId .theftWarning)).attempt
      ask (.updateEngineSessionStatus session.id .reportedTheft)

/-- The session under the button, as the query asked for it, decides what happens. -/
def handleSession (query : SessionCallback) (promptMessageId : ℤ)
    (session : Option EngineSession) : BotM Unit :=
  match session with
  | none => ask (.answerCallbackQuery query.id .sessionNotFound)
  | some session =>
      if session.chatId ≠ query.chatId ∨ session.promptMessageId ≠ promptMessageId then
        ask (.answerCallbackQuery query.id .sessionMismatch)
      else if session.sessionStatus ≠ .pendingConfirmation then
        ask (.answerCallbackQuery query.id .sessionAlreadyEnded)
      else do
        ask (.answerCallbackQuery query.id .empty)
        ask (.clearInlineKeyboard query.chatId promptMessageId)
        answerSession query session

/-- The part of `handle_callback_query` for the buttons under an engine-on message. -/
def handleSessionCallback (query : SessionCallback) : BotM Unit := do
  let active ← ensureActiveSubscriptionForCallback query
  if active then do
    let session ←
      ask (.fetchEngineSessionByPromptMessage query.chatId (query.messageId.getD 0))
    handleSession query (query.messageId.getD 0) session
  else pure ()

/-! ### The loop -/

/-- Once round the loop of `TelegramBot::run`, with the answers Telegram has delivered. -/
def runIteration (callbacks : List SessionCallback) : BotM Unit := do
  let _ ← (forM callbacks handleSessionCallback : BotM Unit).attempt
  let _ ← processHeartbeatNotifications.attempt
  let _ ← processStaleEngineSessions.attempt
  pure ()

/-- The bot among other processes. -/
def botAmong (env : EnvEvent → World → Option World) :
    System Request Request.Reply World EnvEvent Outcome (List SessionCallback) where
  env := env
  answer := fun outcome w r => w.answer outcome r
  main := runIteration

/-- The bot among the processes of the repository. -/
def bot : System Request Request.Reply World EnvEvent Outcome (List SessionCallback) :=
  botAmong fun event w => w.env event

/-- The request under way succeeds. -/
def succeeds : Event EnvEvent Outcome (List SessionCallback) :=
  .answer { fails := false, messageId := 1, rideSummary := none }

/-- The rule for one request of the bot: it fails and has no effect, or it is executed. -/
theorem safe_ask {env : EnvEvent → World → Option World}
    {g : Guard Request World EnvEvent Outcome} {inv : World → Prop}
    {pre : World → Request → Prop} {r : Request} {Q : Option r.Reply → World → Prop} {w : World}
    (h : ∀ w₁, ((botAmong env).contract g inv pre).Later w w₁ → inv w₁ →
      pre w₁ r ∧ Q none w₁ ∧ ∀ outcome, g.call w₁ r outcome → inv (w₁.execute outcome r).2 →
        Q (some (w₁.execute outcome r).1) (w₁.execute outcome r).2) :
    ((botAmong env).contract g inv pre).Safe (ask r) Q w := by
  refine Contract.safe_request ?_
  intro w₁ hw₁ hinv
  obtain ⟨hpre, hnone, hsome⟩ := h w₁ hw₁ hinv
  refine ⟨hpre, ?_⟩
  rintro x w₂ ⟨outcome, hg, hanswer⟩ hinv₂
  have hanswer : w₁.answer outcome r = (x, w₂) := hanswer
  cases x with
  | none =>
      rw [World.eq_of_answer_none hanswer]
      exact hnone
  | some x =>
      have hexecute := World.execute_of_answer hanswer
      have hx := hsome outcome hg (by rw [hexecute]; exact hinv₂)
      rw [hexecute] at hx
      exact hx

end Gt06
