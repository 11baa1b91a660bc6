/-
**Who is told about a ride.**

Engine messages and the summaries of rides are for subscribers; others are told that the engine is
on or off and nothing more.  The notification of a heartbeat checks the subscription first.  The
pass that finishes the sessions of quiet devices does not: a ride that begins under a subscription
is summed up when it ends, be it after the subscription has.

The steps of the bot are put together here, on one set of tables: a message, a press, the
notification of a heartbeat, a pass over the sessions, and whatever the other processes do in
between.

Main definitions:

* `Gt06.World.NotifiesOf`, `Gt06.World.SumsUp` — what the two parts may send;
* `Gt06.World.QuietSubscribed` — the sessions that a pass finishes are those of subscribers;
* `Gt06.BotTables`, `Gt06.BotEvent`, `Gt06.BotTables.step` — the steps of the bot;
* `Gt06.BotTables.Gated` — a step shows only devices of subscribers;
* `Gt06.BotTables.LeadsToSubscribers` — the condition on the two steps that do not check.

Main results:

* `Gt06.notifying_notifyHeartbeat`, `Gt06.notifying_processStaleEngineSessions` — the two parts;
* `Gt06.access_gated` — **in every run of such steps only devices of subscribers are shown**;
* `Gt06.ride_summed_up_after_lapse` — the subscription ends before the ride does.
-/

import Gt06Server.Bot
import Gt06Server.ChatGates

set_option relaxedAutoImplicit false
set_option autoImplicit false

namespace Gt06

open Await Relational

/-! ### Notices -/

/-- What users without a subscription are told. -/
def Notice.isLimited : Notice → Bool
  | .inactiveSubscriptionEngineStatus _ => true
  | _ => false

/-- The session that a notice sums up. -/
def Notice.session : Notice → Option EngineSession
  | .rideSummary session _ _ => some session
  | _ => none

/-- A notice that is sent satisfies the condition. -/
def Request.Sends (Allowed : ℤ → Notice → Prop) : Request → Prop
  | .sendMessage chatId notice => Allowed chatId notice
  | _ => True

namespace World

/-- The user bound to the device has an active subscription now. -/
def DeviceSubscribed (w : World) (imei : String) : Prop :=
  ∃ user ∈ w.telegramUsers, user.boundImei = some imei ∧
    hasActiveSubscription w.telegramSubscriptions user.telegramUserId w.now = true

/-- What may be sent about a heartbeat of a device: to others than subscribers only that the engine
is on or off, and summaries of rides of the device. -/
def NotifiesOf (w : World) (imei : String) (notice : Notice) : Prop :=
  (notice.isLimited = false → w.DeviceSubscribed imei) ∧
    ∀ session ∈ notice.session, session.imei = imei

/-- The end of an open session, and its summary, of a device of a subscriber. -/
def SumsUp (w : World) (chatId : ℤ) (notice : Notice) : Prop :=
  ∃ session ∈ fetchAllActiveEngineSessions w.telegramEngineSessions,
    session.chatId = chatId ∧ w.DeviceSubscribed session.imei ∧
      (notice = .sessionFinished ∨ ∃ endedAt summary, notice = .rideSummary session endedAt summary)

/-- The open sessions of quiet devices, unless they have been summed up before, are those of
subscribers. -/
def QuietSubscribed (w : World) : Prop :=
  ∀ session ∈ fetchAllActiveEngineSessions w.telegramEngineSessions,
    session.rideStatusMessageId = none →
      ∀ heartbeat ∈ fetchLatestHeartbeatForImei w.deviceHeartbeats session.imei,
        shouldFinishStaleEngineSession w.now heartbeat.serverReceivedAt = true →
          w.DeviceSubscribed session.imei

/-- How requests are answered. -/
abbrev answers (outcome : Outcome) (w : World) (r : Request) : Option r.Reply × World :=
  w.answer outcome r

end World

/-- The terms of a part that sends notices of a kind. -/
abbrev notifying (Allowed : ℤ → Notice → Prop) : Contract Request Request.Reply World :=
  Contract.alone World.answers (Request.Sends Allowed)

section Notices

variable {Allowed : ℤ → Notice → Prop} {w : World} {chatId : ℤ} {imei : String} {α : Type}

/-! ### Finishing rides -/

/-- The messages about the end of a session are allowed. -/
structure AllowsFinish (Allowed : ℤ → Notice → Prop) (chatId : ℤ) (sendAlert : Bool)
    (session : EngineSession) : Prop where
  finished : Allowed chatId .sessionFinished
  alert : sendAlert = true → ∀ endedAt, Allowed chatId (.theftEngineOff endedAt)
  summary : ∀ endedAt summary, Allowed chatId (.rideSummary session endedAt summary)

theorem finishRideSessionAndSendSummary_sends {session : EngineSession} {sendAlert : Bool}
    (h : session.rideStatusMessageId = none → AllowsFinish Allowed chatId sendAlert session)
    (imei : String) (endedAt : ℤ) :
    (finishRideSessionAndSendSummary chatId imei session endedAt sendAlert).Uses
      (Request.Sends Allowed) := by
  unfold finishRideSessionAndSendSummary
  cases hstatus : session.rideStatusMessageId with
  | some messageId => exact Prog.uses_bind (Prog.uses_request trivial) fun _ => trivial
  | none =>
      have hallowed := h hstatus
      refine Prog.uses_bind (Prog.uses_request hallowed.finished) fun _ => ?_
      refine Prog.uses_bind (Prog.uses_request trivial) fun rideSummary => ?_
      refine Prog.uses_bind (Prog.uses_request trivial) fun _ => ?_
      refine Prog.uses_bind (sendTheftEngineOffAlert_uses fun halert =>
        hallowed.alert halert endedAt) fun _ => ?_
      refine Prog.uses_bind (sendRideSummary_uses (hallowed.summary endedAt rideSummary)
        (fun _ => trivial) _) fun _ => ?_
      refine Prog.uses_bind ?_ fun _ => trivial
      exact Prog.uses_bind (Prog.uses_request trivial) fun _ => Prog.uses_request trivial

theorem finishActiveEngineSessions_sends {sessions : List EngineSession} {sendAlert : Bool}
    (h : ∀ session ∈ sessions, session.rideStatusMessageId = none →
      AllowsFinish Allowed chatId sendAlert session) (imei : String) (endedAt : ℤ) :
    (finishActiveEngineSessions chatId imei sessions endedAt sendAlert).Uses
      (Request.Sends Allowed) := by
  refine Prog.uses_foldlM ?_
  intro _ session hsession
  refine Prog.uses_bind (clearConfirmationKeyboard_uses fun _ => trivial) fun _ => ?_
  refine Prog.uses_bind ?_ fun _ => trivial
  exact finishRideSessionAndSendSummary_sends (h session hsession) imei endedAt

/-- Without messages. -/
theorem finishInactiveSubscriptionSessions_sends (imei : String) (chatId endedAt : ℤ) :
    (finishInactiveSubscriptionSessions imei chatId endedAt).Uses (Request.Sends Allowed) := by
  refine Prog.uses_bind (Prog.uses_request trivial) fun sessions => ?_
  refine Prog.uses_forM ?_
  intro session _
  exact Prog.uses_bind (clearConfirmationKeyboard_uses fun _ => trivial) fun _ =>
    Prog.uses_request trivial

/-! ### Heartbeats -/

/-- A request that is answered has been executed. -/
theorem execute_of_answers {outcome : Outcome} {r : Request} {a : r.Reply}
    (h : (World.answers outcome w r).1 = some a) :
    w.execute outcome r = (a, (World.answers outcome w r).2) :=
  World.execute_of_answer (Prod.ext h rfl)

/-- One request, whatever it is answered with. -/
theorem notifying_ask_bind {r : Request} {f : r.Reply → BotM α} (hr : r.Sends Allowed)
    (hf : ∀ outcome w', (notifying Allowed).Safe (f (w.execute outcome r).1)
      (fun _ _ => True) w') :
    (notifying Allowed).Safe (ask r >>= f) (fun _ _ => True) w := by
  refine Contract.alone_request_bind hr (fun _ _ => trivial) ?_
  intro outcome a ha
  have hnext := hf outcome (World.answers outcome w r).2
  rw [execute_of_answers ha] at hnext
  exact hnext

/-- The sessions asked for are those of the device. -/
theorem imei_of_mem_fetchActiveEngineSessions {rows : List EngineSession} {session : EngineSession}
    (h : session ∈ fetchActiveEngineSessions rows imei chatId) : session.imei = imei := by
  rw [fetchActiveEngineSessions, List.mem_mergeSort, List.mem_filter, decide_eq_true_eq] at h
  exact h.2.1

/-- The notices to a subscriber are allowed: all but summaries, and those of the device. -/
def AllowsDevice (Allowed : ℤ → Notice → Prop) (imei : String) : Prop :=
  ∀ chatId notice, (∀ session ∈ notice.session, session.imei = imei) → Allowed chatId notice

theorem AllowsDevice.allowsFinish (h : AllowsDevice Allowed imei) {session : EngineSession}
    (himei : session.imei = imei) (sendAlert : Bool) :
    AllowsFinish Allowed chatId sendAlert session where
  finished := h _ _ fun _ hsession => by cases hsession
  alert := fun _ _ => h _ _ fun _ hsession => by cases hsession
  summary := by
    intro endedAt summary
    refine h _ _ fun other hother => ?_
    obtain rfl : session = other := Option.some.inj hother
    exact himei

theorem lastOnHeartbeatAt_sends (existing : Option NotificationState) :
    (lastOnHeartbeatAt existing).Uses (Request.Sends Allowed) := by
  unfold lastOnHeartbeatAt
  split
  · exact Prog.uses_request trivial
  · trivial

theorem notifying_processEngineOnNotificationForChat {heartbeat : StoredHeartbeat}
    (h : AllowsDevice Allowed heartbeat.imei) (existing : Option NotificationState) :
    (notifying Allowed).Safe (processEngineOnNotificationForChat heartbeat chatId existing)
      (fun _ _ => True) w := by
  refine notifying_ask_bind trivial fun outcome w' => ?_
  refine Contract.alone_of_allowed ?_
  have hfinish := @finishActiveEngineSessions_sends Allowed chatId
    (w.execute outcome (.fetchActiveEngineSessions heartbeat.imei chatId)).1 false
    (fun session hsession _ =>
      h.allowsFinish (imei_of_mem_fetchActiveEngineSessions hsession) false)
  refine Prog.uses_bind (lastOnHeartbeatAt_sends existing) fun lastOn => ?_
  split
  · refine Prog.uses_bind (hfinish _ _) fun _ => ?_
    refine Prog.uses_bind (Prog.uses_request (h _ _ fun _ hsession => by cases hsession)) ?_
    intro messageId
    exact Prog.uses_bind (Prog.uses_request trivial) fun _ => Prog.uses_request trivial
  · exact Prog.uses_request trivial

theorem notifying_processEngineOffNotificationForChat {heartbeat : StoredHeartbeat}
    (h : AllowsDevice Allowed heartbeat.imei) (status : EngineStatus) :
    (notifying Allowed).Safe (processEngineOffNotificationForChat heartbeat status chatId)
      (fun _ _ => True) w := by
  refine notifying_ask_bind trivial fun outcome w' => ?_
  refine Contract.alone_of_allowed ?_
  have hfinish := @finishActiveEngineSessions_sends Allowed chatId
    (w.execute outcome (.fetchActiveEngineSessions heartbeat.imei chatId)).1 true
    (fun session hsession _ =>
      h.allowsFinish (imei_of_mem_fetchActiveEngineSessions hsession) true)
  refine Prog.uses_bind ?_ fun _ => Prog.uses_request trivial
  refine Prog.uses_bind (hfinish _ _) fun finished => ?_
  cases finished with
  | some messageId => trivial
  | none => exact Prog.uses_request (h _ _ fun _ hsession => by cases hsession)

/-- A subscriber is notified of the device only. -/
theorem notifying_processHeartbeatNotificationForChat {heartbeat : StoredHeartbeat}
    (h : AllowsDevice Allowed heartbeat.imei) (status : EngineStatus) :
    (notifying Allowed).Safe (processHeartbeatNotificationForChat heartbeat status chatId)
      (fun _ _ => True) w := by
  refine notifying_ask_bind trivial fun outcome w' => ?_
  cases status with
  | on => exact notifying_processEngineOnNotificationForChat h _
  | off =>
      dsimp only
      split
      · exact Contract.alone_of_allowed (Prog.uses_request trivial)
      · exact notifying_processEngineOffNotificationForChat h .off

/-- The others get the limited notice. -/
theorem processInactiveSubscriptionNotificationForChat_sends {heartbeat : StoredHeartbeat}
    {status : EngineStatus} (h : Allowed chatId (.inactiveSubscriptionEngineStatus status)) :
    (processInactiveSubscriptionNotificationForChat heartbeat status chatId).Uses
      (Request.Sends Allowed) := by
  refine Prog.uses_bind (Prog.uses_request trivial) fun existing => ?_
  split
  · exact Prog.uses_request trivial
  · exact Prog.uses_bind (Prog.uses_request h) fun _ => Prog.uses_request trivial

theorem notifying_notifyRecipient {heartbeat : StoredHeartbeat} {status : EngineStatus}
    {recipient : NotificationRecipient}
    (hlimited : Allowed recipient.chatId (.inactiveSubscriptionEngineStatus status))
    (h : recipient.hasActiveSubscription = true → AllowsDevice Allowed heartbeat.imei) :
    (notifying Allowed).Safe (notifyRecipient heartbeat status recipient)
      (fun _ _ => True) w := by
  unfold notifyRecipient
  split
  · next hactive =>
    refine Contract.safe_bind.2 (Contract.safe_attempt.2 ?_)
    exact (notifying_processHeartbeatNotificationForChat (h hactive) status).mono
      fun _ _ _ => trivial
  · refine Contract.alone_of_allowed ?_
    have hnotice := @processInactiveSubscriptionNotificationForChat_sends Allowed recipient.chatId
      heartbeat status hlimited
    cases status with
    | on => exact Prog.uses_bind (Prog.uses_attempt hnotice) fun _ => trivial
    | off =>
        refine Prog.uses_bind (Prog.uses_attempt hnotice) fun _ => ?_
        exact finishInactiveSubscriptionSessions_sends _ _ _

/-- A recipient with a subscription is the user of the device. -/
theorem deviceSubscribed_of_recipient {recipient : NotificationRecipient}
    (h : recipient ∈ fetchNotificationRecipientsForImei w.telegramUsers w.telegramSubscriptions
      w.now imei) (hactive : recipient.hasActiveSubscription = true) : w.DeviceSubscribed imei := by
  obtain ⟨user, huser, rfl⟩ := List.mem_map.1 h
  rw [List.mem_mergeSort, List.mem_filter, decide_eq_true_eq] at huser
  exact ⟨user, huser.1, huser.2.1, hactive⟩

/-- **The notification of a heartbeat**: others than subscribers are told that the engine is on or
off, and summaries are of rides of the device. -/
theorem notifying_notifyHeartbeat (heartbeat : StoredHeartbeat) :
    (notifying fun _ => w.NotifiesOf heartbeat.imei).Safe (notifyHeartbeat heartbeat)
      (fun _ _ => True) w := by
  refine notifying_ask_bind trivial fun outcome w₁ => ?_
  refine Contract.safe_bind.2 ?_
  have hrest : ∀ w', (notifying fun _ => w.NotifiesOf heartbeat.imei).Safe
      (ask (.setLastNotifiedHeartbeatId heartbeat.id)) (fun _ _ => True) w' :=
    fun w' => Contract.alone_of_allowed (Prog.uses_request trivial)
  unfold notifyRecipients
  split
  · next status _ =>
    -- along the recipients: those that are left have been read as subscribers, or have not
    have hloop := Contract.safe_forM (C := notifying fun _ => w.NotifiesOf heartbeat.imei)
      (f := notifyRecipient heartbeat status)
      (fun recipients _ => ∀ recipient ∈ recipients, recipient.hasActiveSubscription = true →
        w.DeviceSubscribed heartbeat.imei) (E := fun _ => True) ?_
      (w := w₁) (l := (w.execute outcome
        (.fetchNotificationRecipientsForImei heartbeat.imei)).1)
      fun recipient hrecipient => deviceSubscribed_of_recipient hrecipient
    · refine hloop.mono ?_
      intro x w' _
      cases x with
      | none => trivial
      | some _ => exact hrest w'
    · intro recipient recipients w' hrecipients
      have hfirst := hrecipients recipient List.mem_cons_self
      refine (notifying_notifyRecipient ⟨fun h => (by cases h), fun _ h => by cases h⟩ ?_).mono ?_
      · intro hactive chatId notice hsession
        exact ⟨fun _ => hfirst hactive, hsession⟩
      · intro x w'' _
        cases x with
        | none => trivial
        | some _ => exact fun other hother => hrecipients other (List.mem_cons_of_mem _ hother)
  · exact hrest w₁

/-! ### Quiet devices -/

/-- The sessions of a group are those of its device and chat. -/
theorem mem_of_mem_sessionGroups {sessions : List EngineSession}
    {group : (String × ℤ) × List EngineSession} (h : group ∈ sessionGroups sessions)
    {session : EngineSession} (hsession : session ∈ group.2) :
    session ∈ sessions ∧ session.imei = group.1.1 ∧ session.chatId = group.1.2 := by
  obtain ⟨key, -, rfl⟩ := List.mem_map.1 h
  obtain ⟨hmem, hkey⟩ := List.mem_filter.1 hsession
  obtain ⟨himei, hchat⟩ := Prod.mk.inj (of_decide_eq_true hkey)
  exact ⟨hmem, himei, hchat⟩

/-- A group of open sessions is finished when its device is quiet. -/
theorem notifying_finishStaleGroup {w' : World} (hquiet : w.QuietSubscribed)
    (hheartbeats : w'.deviceHeartbeats = w.deviceHeartbeats)
    {group : (String × ℤ) × List EngineSession}
    (hgroup : ∀ session ∈ group.2,
      session ∈ fetchAllActiveEngineSessions w.telegramEngineSessions ∧
        session.imei = group.1.1 ∧ session.chatId = group.1.2) :
    (notifying w.SumsUp).Safe (finishStaleGroup w.now group)
      (fun _ w'' => w''.deviceHeartbeats = w.deviceHeartbeats) w' := by
  refine Contract.alone_request_bind trivial ?_ ?_
  · intro outcome _
    exact (World.deviceHeartbeats_answer outcome w' _).trans hheartbeats
  intro outcome latest hlatest
  have hread : latest = fetchLatestHeartbeatForImei w.deviceHeartbeats group.1.1 := by
    rw [← hheartbeats]
    exact (congrArg Prod.fst (execute_of_answers hlatest)).symm
  refine Contract.alone_of_uses (F := Request.Sends w.SumsUp)
    (J := fun w'' : World => w''.deviceHeartbeats = w.deviceHeartbeats) (fun _ hr => hr) ?_ ?_ ?_
  · intro outcome w'' r _ hsame
    exact (World.deviceHeartbeats_answer outcome w'' r).trans hsame
  · split
    · next heartbeat hfilter =>
      obtain ⟨hheartbeat, hstale⟩ := Option.filter_eq_some_iff.1 hfilter
      refine Prog.uses_bind (finishActiveEngineSessions_sends ?_ _ _) fun _ => trivial
      intro session hsession hstatus
      obtain ⟨hopen, himei, hchat⟩ := hgroup session hsession
      have hsubscribed := hquiet session hopen hstatus heartbeat
        (himei ▸ hread ▸ hheartbeat) hstale
      refine ⟨⟨session, hopen, hchat, hsubscribed, Or.inl rfl⟩, ?_, ?_⟩
      · intro halert
        cases halert
      · intro endedAt summary
        exact ⟨session, hopen, hchat, hsubscribed, Or.inr ⟨endedAt, summary, rfl⟩⟩
    · trivial
  · exact (World.deviceHeartbeats_answer outcome w' _).trans hheartbeats

/-- **The pass over the sessions** sums up rides of subscribers, when the sessions that it finishes
are theirs. -/
theorem notifying_processStaleEngineSessions (hquiet : w.QuietSubscribed) :
    (notifying w.SumsUp).Safe processStaleEngineSessions (fun _ _ => True) w := by
  refine Contract.alone_request_bind trivial (fun _ _ => trivial) ?_
  intro outcome sessions hsessions
  obtain ⟨rfl, hw⟩ := Prod.mk.inj (execute_of_answers hsessions)
  rw [← hw]
  refine Contract.alone_request_bind trivial (fun _ _ => trivial) ?_
  intro outcome' now hnow
  obtain ⟨rfl, hw'⟩ := Prod.mk.inj (execute_of_answers hnow)
  rw [← hw']
  -- heartbeats and clock are those of the start, so the pass finishes what was quiet then
  refine (Contract.safe_forM (C := notifying w.SumsUp)
    (fun groups w' => w'.deviceHeartbeats = w.deviceHeartbeats ∧ ∀ group ∈ groups,
      ∀ session ∈ group.2, session ∈ fetchAllActiveEngineSessions w.telegramEngineSessions ∧
        session.imei = group.1.1 ∧ session.chatId = group.1.2) (E := fun _ => True)
    ?_ ⟨rfl, ?_⟩).mono fun _ _ _ => trivial
  · rintro group groups w' ⟨hheartbeats, hgroups⟩
    refine (notifying_finishStaleGroup hquiet hheartbeats
      (hgroups group List.mem_cons_self)).mono ?_
    intro x w'' hsame
    cases x with
    | none => trivial
    | some _ => exact ⟨hsame, fun other hother => hgroups other (List.mem_cons_of_mem _ hother)⟩
  · intro group hgroup session hsession
    exact mem_of_mem_sessionGroups hgroup hsession

end Notices

/-! ### The steps of the bot -/

/-- The tables of the bot.  Both parts read the clock, users, subscriptions, sessions and heartbeats
that the handlers have. -/
structure BotTables where
  chats : ChatWorld
  rides : World

def TelegramUserRow.telegramUser (row : TelegramUserRow) : TelegramUser where
  telegramUserId := row.telegramUserId
  chatId := row.chatId
  boundImei := row.boundImei
  isBound := row.registrationStatus = "bound"

/-- The tables as the ride notifications read them. -/
def BotTables.world (t : BotTables) : World :=
  { t.rides with
    now := t.chats.now
    deviceHeartbeats := t.chats.deviceHeartbeats
    telegramUsers := t.chats.telegramUsers.map TelegramUserRow.telegramUser
    telegramSubscriptions := t.chats.telegramSubscriptions
    telegramEngineSessions := t.chats.telegramEngineSessions }

/-- The tables after the ride notifications have written sessions, and tables of their own. -/
def BotTables.afterRides (t : BotTables) (w : World) : BotTables where
  chats := { t.chats with telegramEngineSessions := w.telegramEngineSessions }
  rides := w

/-- A step of the bot, with choices of what the tables leave open and of the requests that fail, or
a move of the other processes. -/
inductive BotEvent where
  | message (message : TelegramMessage) (choices : ℕ → ChatOutcome)
  | callbackQuery (query : TelegramCallbackQuery) (choices : ℕ → ChatOutcome)
  | heartbeat (heartbeat : StoredHeartbeat) (choices : ℕ → Outcome)
  | staleSessions (choices : ℕ → Outcome)
  | tick (microseconds : ℕ)
  | others (event : ChatEvent)

section Steps

variable (summarize : List RidePoint → RideSummary) (parseDate : String → Option ℤ)

def BotTables.step (t : BotTables) : BotEvent → Option BotTables
  | .message message choices =>
      some { t with
        chats := Prog.after (ChatWorld.answers summarize) (handleMessage parseDate message) choices
          t.chats }
  | .callbackQuery query choices =>
      some { t with
        chats := Prog.after (ChatWorld.answers summarize) (handleChatCallbackQuery query) choices
          t.chats }
  | .heartbeat heartbeat choices =>
      some (t.afterRides (Prog.after World.answers (notifyHeartbeat heartbeat) choices t.world))
  | .staleSessions choices =>
      some (t.afterRides (Prog.after World.answers processStaleEngineSessions choices t.world))
  | .tick microseconds =>
      some { t with chats := { t.chats with now := t.chats.now + microseconds } }
  | .others event => (t.chats.env event).map fun chats => { t with chats := chats }

/-- The step shows only devices of subscribers; without a subscription a press is answered with the
payment menu or with help, and a heartbeat is notified with the limited notice. -/
def BotTables.Gated (t : BotTables) : BotEvent → Prop
  | .message message choices => ∀ chatId shown,
      .sendMessage chatId shown ∈ t.chats.messageRequests summarize parseDate message choices →
        t.chats.ShowsSubscribed shown
  | .callbackQuery query choices => ∀ chatId shown,
      .sendMessage chatId shown ∈ t.chats.callbackRequests summarize query choices →
        t.chats.AnswersPress query.fromId shown
  | .heartbeat heartbeat choices => ∀ chatId notice,
      .sendMessage chatId notice ∈
          Prog.trace World.answers (notifyHeartbeat heartbeat) choices t.world →
        t.world.NotifiesOf heartbeat.imei notice
  | .staleSessions choices => ∀ chatId notice,
      .sendMessage chatId notice ∈
          Prog.trace World.answers processStaleEngineSessions choices t.world →
        t.world.SumsUp chatId notice
  | .tick _ => True
  | .others _ => True

/-- The sessions that a pass finishes, and the devices that a pressed button leads to, are those of
subscribers. -/
def BotTables.LeadsToSubscribers (t : BotTables) : BotEvent → Prop
  | .callbackQuery query _ => t.chats.LeadsToSubscribers query
  | .staleSessions _ => t.world.QuietSubscribed
  | _ => True

variable {summarize parseDate}

/-- One step. -/
theorem gated_of_leadsToSubscribers {t : BotTables} {event : BotEvent}
    (h : t.LeadsToSubscribers event) : t.Gated summarize parseDate event := by
  cases event with
  | message message choices =>
      intro chatId shown hshown
      exact (safe_handleMessage parseDate message).mem_trace choices _ hshown
  | callbackQuery query choices =>
      intro chatId shown hshown
      exact (safe_handleChatCallbackQuery h).mem_trace choices _ hshown
  | heartbeat heartbeat choices =>
      intro chatId notice hnotice
      exact (notifying_notifyHeartbeat heartbeat).mem_trace choices _ hnotice
  | staleSessions choices =>
      intro chatId notice hnotice
      exact (notifying_processStaleEngineSessions h).mem_trace choices _ hnotice
  | tick microseconds => trivial
  | others event => trivial

/-! ### Runs -/

/-- The handlers keep the registrations well formed. -/
theorem bindingInv_after {w : ChatWorld} (hw : BindingInv w) {p : ChatM Unit}
    (hp : Registers summarize parseDate p w) (choices : ℕ → ChatOutcome) :
    BindingInv (Prog.after (ChatWorld.answers summarize) p choices w) := by
  refine hp.inv_after hw ?_ choices
  intro outcome w r hinv hpre
  exact ⟨⟨outcome, trivial, rfl⟩, (answer_related hinv hpre).1⟩

/-- So does every step. -/
theorem bindingInv_step {t t' : BotTables} {event : BotEvent} (h : BindingInv t.chats)
    (hstep : t.step summarize parseDate event = some t') : BindingInv t'.chats := by
  cases event with
  | message message choices =>
      obtain rfl := Option.some.inj hstep
      exact @bindingInv_after summarize parseDate _ h _ (registers_handleMessage message _) choices
  | callbackQuery query choices =>
      obtain rfl := Option.some.inj hstep
      exact @bindingInv_after summarize parseDate _ h _
        (registers_of_quiet (handleChatCallbackQuery_uses query) _) choices
  -- the other steps of the bot write no registration
  | heartbeat heartbeat choices =>
      obtain rfl := Option.some.inj hstep
      exact h.of_eq rfl fun _ hdevice => hdevice
  | staleSessions choices =>
      obtain rfl := Option.some.inj hstep
      exact h.of_eq rfl fun _ hdevice => hdevice
  | tick microseconds =>
      obtain rfl := Option.some.inj hstep
      exact h.of_eq rfl fun _ hdevice => hdevice
  | others event =>
      obtain ⟨chats, henv, rfl⟩ := Option.map_eq_some_iff.1 hstep
      obtain ⟨husers, hdevices⟩ := env_related henv
      exact h.of_eq husers hdevices

/-- **Only devices of subscribers are shown** in every step of a run in which the sessions of quiet
devices and the devices that pressed buttons lead to are those of subscribers; and a device has one
user at most. -/
theorem access_gated {t t' : BotTables} {tr : List (BotTables × BotEvent)}
    (run : Run (BotTables.step summarize parseDate) t tr t') (hbinding : BindingInv t.chats)
    (h : ∀ p ∈ tr, p.1.LeadsToSubscribers p.2) :
    ∀ p ∈ tr, p.1.Gated summarize parseDate p.2 ∧ BindingInv p.1.chats := by
  have hinv := (run.invariant (I := fun t => BindingInv t.chats) (G := fun _ _ => True)
    (fun _ _ _ hbinding _ hstep => bindingInv_step hbinding hstep) hbinding
    fun _ _ => trivial).1
  exact fun p hp => ⟨gated_of_leadsToSubscribers (h p hp), hinv p hp⟩

end Steps

/-! ### A subscription that ends before the ride -/

/-- A user with a device, whose engine has just been started, and a subscription. -/
def rideTables (currentPeriodEndAt : ℤ) : BotTables where
  chats :=
    { now := 1000000000
      devices := [⟨"866221070478388", none, none, none, none⟩]
      deviceLocations := []
      deviceHeartbeats := [⟨1, "866221070478388", 1000000000, "on"⟩]
      telegramUsers := [⟨12345, 12345, some "866221070478388", "bound"⟩]
      telegramSubscriptions :=
        [{ id := 1
           telegramUserId := 12345
           chatId := 12345
           planCode := midtransBasicPlanCode
           status := .active
           currentPeriodStartAt := none
           currentPeriodEndAt := some currentPeriodEndAt }]
      telegramEngineSessions := []
      telegramBotState := [] }
  rides := World.empty 1000000000

/-- Every request succeeds, and the ride is a kilometre long. -/
def oneKilometre : ℕ → Outcome := fun _ => ⟨false, 1, some ⟨1, 60⟩⟩

/-- The tables after the heartbeat. -/
def rideTablesStarted (currentPeriodEndAt : ℤ) : BotTables :=
  (rideTables currentPeriodEndAt).afterRides (Prog.after World.answers
    (notifyHeartbeat ⟨1, "866221070478388", 1000000000, "on"⟩) oneKilometre
    (rideTables currentPeriodEndAt).world)

/-- The tables a quarter of an hour later. -/
def rideTablesLater (currentPeriodEndAt : ℤ) : BotTables :=
  { rideTablesStarted currentPeriodEndAt with
    chats := { (rideTablesStarted currentPeriodEndAt).chats with
      now := (rideTablesStarted currentPeriodEndAt).chats.now + 900000000 } }

/-- The engine is on, a quarter of an hour goes by, and the sessions are looked through: the steps,
with the tables before each. -/
def quarterOfAnHourTrace (currentPeriodEndAt : ℤ) : List (BotTables × BotEvent) :=
  [(rideTables currentPeriodEndAt,
      .heartbeat ⟨1, "866221070478388", 1000000000, "on"⟩ oneKilometre),
    (rideTablesStarted currentPeriodEndAt, .tick 900000000),
    (rideTablesLater currentPeriodEndAt, .staleSessions oneKilometre)]

theorem run_quarterOfAnHour (summarize : List RidePoint → RideSummary)
    (parseDate : String → Option ℤ) (currentPeriodEndAt : ℤ) :
    ∃ t, Run (BotTables.step summarize parseDate) (rideTables currentPeriodEndAt)
      (quarterOfAnHourTrace currentPeriodEndAt) t := by
  have hlast : Run (BotTables.step summarize parseDate) (rideTablesLater currentPeriodEndAt)
      [(rideTablesLater currentPeriodEndAt, .staleSessions oneKilometre)] _ := .of_step rfl .nil
  have htick : Run (BotTables.step summarize parseDate) (rideTablesStarted currentPeriodEndAt)
      ((rideTablesStarted currentPeriodEndAt, .tick 900000000) :: _) _ := .of_step rfl hlast
  exact ⟨_, .of_step rfl htick⟩

theorem bindingInv_rideTables (currentPeriodEndAt : ℤ) :
    BindingInv (rideTables currentPeriodEndAt).chats where
  users_nodup := List.nodup_singleton _
  bound_iff := by
    intro row hrow
    obtain rfl := List.mem_singleton.1 hrow
    simp
  imei_unique := by
    intro row hrow row' hrow' _ _ _
    exact (List.mem_singleton.1 hrow).trans (List.mem_singleton.1 hrow').symm
  imei_valid := by
    intro row hrow imei himei
    obtain rfl := List.mem_singleton.1 hrow
    obtain rfl : "866221070478388" = imei := Option.some.inj himei
    exact ⟨imeiDigits_of_isValidImei (by decide +kernel), _, List.mem_singleton_self _, rfl⟩

/-- The subscription goes on: the pass sums up the ride of a subscriber. -/
theorem access_gated_quarterOfAnHour :
    ∃ t, Run (BotTables.step (fun _ => ⟨0, 0⟩) fun _ => none)
        (rideTables (1000000000 + days 30)) (quarterOfAnHourTrace (1000000000 + days 30)) t ∧
      ∀ p ∈ quarterOfAnHourTrace (1000000000 + days 30),
        p.1.Gated (fun _ => ⟨0, 0⟩) (fun _ => none) p.2 ∧ BindingInv p.1.chats := by
  obtain ⟨t, run⟩ := run_quarterOfAnHour (fun _ => ⟨0, 0⟩) (fun _ => none) (1000000000 + days 30)
  refine ⟨t, run, access_gated run (bindingInv_rideTables _) ?_⟩
  have hquiet : (rideTablesLater (1000000000 + days 30)).world.QuietSubscribed := by
    have hopen : ∀ session ∈ fetchAllActiveEngineSessions
        (rideTablesLater (1000000000 + days 30)).world.telegramEngineSessions,
        session.imei = "866221070478388" := by decide +kernel
    intro session hsession _ heartbeat _ _
    rw [hopen session hsession]
    exact ⟨_, List.mem_singleton_self _, rfl, by decide +kernel⟩
  intro p hp
  simp only [quarterOfAnHourTrace, List.mem_cons, List.not_mem_nil, or_false] at hp
  rcases hp with rfl | rfl | rfl
  · trivial
  · trivial
  · exact hquiet

def Request.isRideSummary : Request → Bool
  | .sendMessage 12345 (.rideSummary session _ _) => session.imei = "866221070478388"
  | _ => false

/-- The subscription ends within the quarter of an hour: the ride is summed up all the same. -/
theorem ride_summed_up_after_lapse :
    ∃ t, Run (BotTables.step (fun _ => ⟨0, 0⟩) fun _ => none)
        (rideTables 1060000000) (quarterOfAnHourTrace 1060000000) t ∧
      ∃ p ∈ quarterOfAnHourTrace 1060000000, ∃ session endedAt summary,
        p.2 = .staleSessions oneKilometre ∧
        .sendMessage 12345 (.rideSummary session endedAt summary) ∈
          Prog.trace World.answers processStaleEngineSessions oneKilometre p.1.world ∧
        session.imei = "866221070478388" ∧
        ¬ p.1.chats.DeviceSubscribed session.imei := by
  obtain ⟨t, run⟩ := run_quarterOfAnHour (fun _ => ⟨0, 0⟩) (fun _ => none) 1060000000
  have hsummary : (Prog.trace World.answers processStaleEngineSessions oneKilometre
      (rideTablesLater 1060000000).world).any Request.isRideSummary = true := by decide +kernel
  obtain ⟨r, hr, hsent⟩ := List.any_eq_true.1 hsummary
  unfold Request.isRideSummary at hsent
  split at hsent
  · next session endedAt summary =>
    have himei := of_decide_eq_true hsent
    refine ⟨t, run, _, List.mem_cons_of_mem _ (List.mem_cons_of_mem _ (List.mem_singleton_self _)),
      session, endedAt, summary, rfl, hr, himei, ?_⟩
    rintro ⟨row, hrow, -, hactive⟩
    obtain rfl := List.mem_singleton.1 hrow
    exact absurd hactive (by unfold ChatWorld.Subscribed; decide +kernel)
  · cases hsent

end Gt06
