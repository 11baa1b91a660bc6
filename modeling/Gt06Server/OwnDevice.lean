/-
**Whose device a button shows.**

A button of the bot may be pressed by anybody who sees it.  In a group every member does: several
users may have registered in one chat, and the messages the bot has sent to one of them are read by
all.  What a press gives away is to be about the device of the user who has pressed, and that user
has to be a subscriber; the devices and the registrations of the others are to make no difference.

The buttons of reports look the device up by the user.  The buttons of alerts look it up by the
chat, which may lead to another user, or by the session they name, which may be one of another
device that the chat has been told about; the check of the subscription is about the user all the
same.

Main definitions:

* `Gt06.ChatWorld.callbackRequests`, `Gt06.ChatWorld.callbackAnswers` — what a press makes the bot
  send;
* `Gt06.ChatWorld.SameFor` — tables that differ in the registrations and devices of others;
* `Gt06.DisclosesOwn` — nothing but the user's own device is given away;
* `Gt06.ResolvesToOwn` — the button leads to the user's own device.

Main results:

* `Gt06.answer_sameFor` — requests about the user's own device are answered alike;
* `Gt06.twin_handleChatCallbackQuery` — the handler run twice;
* `Gt06.disclosesOwn_iff` — **exactly when nothing but the user's own device is given away**;
* `Gt06.group_shows_other_device` — two users in one group.
-/

import Gt06Server.Registration
import Gt06Server.TwoRuns

set_option relaxedAutoImplicit false
set_option autoImplicit false

namespace Gt06

open Await Relational

/-! ### What a press makes the bot send -/

/-- A call of the Telegram API. -/
def ChatRequest.isTelegramCall : ChatRequest → Bool
  | .handlePaymentAction _ _ => true
  | .sendMessage _ _ => true
  | .sendSticker _ _ => true
  | .clearInlineKeyboard _ _ => true
  | .deleteMessage _ _ => true
  | .answerCallbackQuery _ _ => true
  | _ => false

namespace ChatWorld

/-- How requests are answered. -/
abbrev answers (summarize : List RidePoint → RideSummary) (outcome : ChatOutcome) (w : ChatWorld)
    (r : ChatRequest) : Option r.Reply × ChatWorld := w.answer summarize outcome r

/-- The requests of `handle_callback_query`, for given choices of what the tables leave open. -/
def callbackRequests (summarize : List RidePoint → RideSummary) (w : ChatWorld)
    (query : TelegramCallbackQuery) (choices : ℕ → ChatOutcome) : List ChatRequest :=
  Prog.trace (answers summarize) (handleChatCallbackQuery query) choices w

def callbackAnswers (summarize : List RidePoint → RideSummary) (w : ChatWorld)
    (query : TelegramCallbackQuery) (choices : ℕ → ChatOutcome) : List ChatRequest :=
  (w.callbackRequests summarize query choices).filter ChatRequest.isTelegramCall

/-- The IMEI is the `bound_imei` of the user. -/
def BoundTo (w : ChatWorld) (telegramUserId : ℤ) (imei : String) : Prop :=
  ∃ row ∈ w.telegramUsers, row.telegramUserId = telegramUserId ∧ row.boundImei = some imei

/-- The user has an active subscription now. -/
def Subscribed (w : ChatWorld) (telegramUserId : ℤ) : Prop :=
  hasActiveSubscription w.telegramSubscriptions telegramUserId w.now = true

end ChatWorld

/-- A row of the user, or one of another user in another registration. -/
def TelegramUserRow.Alike (telegramUserId : ℤ) (row row' : TelegramUserRow) : Prop :=
  row'.telegramUserId = row.telegramUserId ∧ row'.chatId = row.chatId ∧
    (row.telegramUserId = telegramUserId → row' = row)

/-- The tables differ only in what other users are bound to and in what is stored of devices that
are not the user's. -/
structure ChatWorld.SameFor (telegramUserId : ℤ) (w w' : ChatWorld) : Prop where
  now : w'.now = w.now
  subscriptions : w'.telegramSubscriptions = w.telegramSubscriptions
  sessions : w'.telegramEngineSessions = w.telegramEngineSessions
  botState : w'.telegramBotState = w.telegramBotState
  users : List.Forall₂ (TelegramUserRow.Alike telegramUserId) w.telegramUsers w'.telegramUsers
  devices : ∀ imei, w.BoundTo telegramUserId imei →
    (w'.devices.filter fun row => row.imei = imei) = w.devices.filter fun row => row.imei = imei
  locations : ∀ imei, w.BoundTo telegramUserId imei →
    (w'.deviceLocations.filter fun row => row.imei = imei) =
      w.deviceLocations.filter fun row => row.imei = imei
  heartbeats : ∀ imei, w.BoundTo telegramUserId imei →
    (w'.deviceHeartbeats.filter fun row => row.imei = imei) =
      w.deviceHeartbeats.filter fun row => row.imei = imei

/-- Nothing but the device of the user who has pressed is given away, to a subscriber, and what
others are bound to makes no difference. -/
structure DisclosesOwn (summarize : List RidePoint → RideSummary) (w : ChatWorld)
    (query : TelegramCallbackQuery) : Prop where
  own : ∀ choices chatId message imei,
    .sendMessage chatId message ∈ w.callbackRequests summarize query choices →
    message.device = some imei → w.BoundTo query.fromId imei ∧ w.Subscribed query.fromId
  others : ∀ w', w.SameFor query.fromId w' → BindingInv w' → ∀ choices,
    w'.callbackAnswers summarize query choices = w.callbackAnswers summarize query choices

/-- The button of an alert that has been pressed, with the message it is under. -/
def TelegramCallbackQuery.theftAlert (query : TelegramCallbackQuery) :
    Option (TelegramMessage × TheftAlertAction) :=
  query.message.bind fun message =>
    (query.data.bind TheftAlertAction.parse).map fun action => (message, action)

/-- The button leads to the user's own device: a session that is named is one of this device, and
the chat is the chat of no other user. -/
def LeadsToOwn (w : ChatWorld) (telegramUserId chatId : ℤ) (action : TheftAlertAction) : Prop :=
  match action.sessionId with
  | some sessionId => ∀ session ∈ fetchEngineSessionById w.telegramEngineSessions sessionId,
      session.chatId = chatId → action.requiresActiveSubscription = true →
        w.BoundTo telegramUserId session.imei
  | none => ∀ row ∈ w.telegramUsers, row.chatId = chatId → row.telegramUserId = telegramUserId

/-- A press that gets past the check of the subscription leads to the user's own device. -/
def ResolvesToOwn (w : ChatWorld) (query : TelegramCallbackQuery) : Prop :=
  ∀ message action, query.theftAlert = some (message, action) →
    (action.requiresActiveSubscription = true → w.Subscribed query.fromId) →
      LeadsToOwn w query.fromId message.chatId action

/-! ### Tables that are the same for a user -/

section SameFor

variable {telegramUserId : ℤ} {rows rows' : List TelegramUserRow}

/-- The row of the user is the same. -/
theorem rowAt_alike
    (h : List.Forall₂ (TelegramUserRow.Alike telegramUserId) rows rows') :
    rowAt TelegramUserRow.telegramUserId telegramUserId rows' =
      rowAt TelegramUserRow.telegramUserId telegramUserId rows := by
  induction h with
  | nil => rfl
  | @cons row row' rows rows' halike _ ih =>
      obtain ⟨hid, -, hown⟩ := halike
      rw [rowAt_cons, rowAt_cons, ih, hid]
      split
      · next heq => rw [hown heq]
      · rfl

theorem filter_chat_alike (chatId : ℤ)
    (h : List.Forall₂ (TelegramUserRow.Alike telegramUserId) rows rows') :
    List.Forall₂ (TelegramUserRow.Alike telegramUserId)
      (rows.filter fun row => row.chatId = chatId)
      (rows'.filter fun row => row.chatId = chatId) := by
  induction h with
  | nil => exact .nil
  | @cons row row' rows rows' halike _ ih =>
      obtain ⟨-, hchat, -⟩ := id halike
      rw [List.filter_cons, List.filter_cons, hchat]
      split
      · exact .cons halike ih
      · exact ih

/-- Rows that are all the user's. -/
theorem eq_of_alike (h : List.Forall₂ (TelegramUserRow.Alike telegramUserId) rows rows')
    (hown : ∀ row ∈ rows, row.telegramUserId = telegramUserId) : rows' = rows := by
  induction h with
  | nil => rfl
  | @cons row row' rows rows' halike _ ih =>
      rw [halike.2.2 (hown row List.mem_cons_self),
        ih fun row hrow => hown row (List.mem_cons_of_mem _ hrow)]

variable {w w' : ChatWorld} {imei : String}

theorem ChatWorld.SameFor.refl (telegramUserId : ℤ) (w : ChatWorld) :
    w.SameFor telegramUserId w where
  now := rfl
  subscriptions := rfl
  sessions := rfl
  botState := rfl
  users := List.forall₂_same.2 fun _ _ => ⟨rfl, rfl, fun _ => rfl⟩
  devices := fun _ _ => rfl
  locations := fun _ _ => rfl
  heartbeats := fun _ _ => rfl

/-- The rows with a property, from the rows of a device. -/
theorem filter_of_filter_imei {α : Type} {rows rows' : List α} {p q : α → Bool}
    (h : rows'.filter p = rows.filter p) (hq : ∀ row, q row = true → p row = true) :
    rows'.filter q = rows.filter q := by
  have hboth : ∀ rows : List α, rows.filter q = (rows.filter p).filter q := by
    intro rows
    rw [List.filter_filter]
    refine List.filter_congr ?_
    intro row _
    cases hrow : q row with
    | true => simp [hq row hrow]
    | false => simp
  rw [hboth, hboth rows, h]

theorem fetchLatestLocationForImei_eq {rows rows' : List LatestLocation}
    (h : (rows'.filter fun row => row.imei = imei) = rows.filter fun row => row.imei = imei) :
    fetchLatestLocationForImei rows' imei = fetchLatestLocationForImei rows imei := by
  have hhead : ∀ rows : List LatestLocation, fetchLatestLocationForImei rows imei =
      (rows.filter fun row => row.imei = imei).head? := by
    intro rows
    rw [fetchLatestLocationForImei, List.head?_filter]
  rw [hhead, hhead, h]

theorem fetchLatestLocationReceivedAt_eq {rows rows' : List RidePoint}
    (h : (rows'.filter fun row => row.imei = imei) = rows.filter fun row => row.imei = imei) :
    fetchLatestLocationReceivedAt rows' imei = fetchLatestLocationReceivedAt rows imei := by
  rw [fetchLatestLocationReceivedAt, fetchLatestLocationReceivedAt, h]

theorem fetchLatestHeartbeatForImei_eq {rows rows' : List StoredHeartbeat}
    (h : (rows'.filter fun row => row.imei = imei) = rows.filter fun row => row.imei = imei) :
    fetchLatestHeartbeatForImei rows' imei = fetchLatestHeartbeatForImei rows imei := by
  rw [fetchLatestHeartbeatForImei, fetchLatestHeartbeatForImei, h]

theorem fetchRideSummary_eq (summarize : List RidePoint → RideSummary) {rows rows' : List RidePoint}
    (h : (rows'.filter fun row => row.imei = imei) = rows.filter fun row => row.imei = imei)
    (startedAt endedAt : ℤ) :
    fetchRideSummary summarize rows' imei startedAt endedAt =
      fetchRideSummary summarize rows imei startedAt endedAt := by
  have hpoints : ridePoints rows' imei startedAt endedAt =
      ridePoints rows imei startedAt endedAt := by
    unfold ridePoints
    rw [filter_of_filter_imei h]
    intro row hrow
    simp only [decide_eq_true_eq] at hrow ⊢
    exact hrow.1
  rw [fetchRideSummary, fetchRideSummary, hpoints]

/-! ### Two runs of the handler -/

/-- Which device and chat a session is of, which nobody changes. -/
def EngineSession.place (session : EngineSession) : ℕ × String × ℤ :=
  (session.id, session.imei, session.chatId)

/-- The worlds are the same for the user, and the first is the one the handler started in as far as
registrations, subscriptions, the clock and the places of sessions go. -/
structure Watched (telegramUserId : ℤ) (w₀ w w' : ChatWorld) : Prop where
  same : w.SameFor telegramUserId w'
  users : w.telegramUsers = w₀.telegramUsers
  subscriptions : w.telegramSubscriptions = w₀.telegramSubscriptions
  now : w.now = w₀.now
  places : w.telegramEngineSessions.map EngineSession.place =
    w₀.telegramEngineSessions.map EngineSession.place

/-- The device of the user, who is a subscriber. -/
def OwnSubscribed (w : ChatWorld) (telegramUserId : ℤ) (imei : String) : Prop :=
  w.BoundTo telegramUserId imei ∧ w.Subscribed telegramUserId

variable {summarize : List RidePoint → RideSummary} {w₀ : ChatWorld} {r : ChatRequest}

theorem violatesUnique_of_confined {D : String → Prop} (hr : r.Confined D) (w : ChatWorld) :
    w.violatesUnique r = false := by
  cases r with
  | bindTelegramUserToImei _ _ _ => exact hr.elim
  | _ => rfl

/-- Requests about the user's own device are answered alike. -/
theorem execute_watched (hr : r.Confined (OwnSubscribed w₀ telegramUserId))
    (h : Watched telegramUserId w₀ w w') (outcome : ChatOutcome) :
    (w.execute summarize outcome r).1 = (w'.execute summarize outcome r).1 ∧
      Watched telegramUserId w₀ (w.execute summarize outcome r).2
        (w'.execute summarize outcome r).2 := by
  have hown : ∀ imei, OwnSubscribed w₀ telegramUserId imei → w.BoundTo telegramUserId imei := by
    rintro imei ⟨⟨row, hrow, hbound⟩, -⟩
    exact ⟨row, h.users ▸ hrow, hbound⟩
  cases r with
  | utcNow => exact ⟨h.same.now.symm, h⟩
  | hasActiveSubscription user time =>
      exact ⟨by simp only [ChatWorld.execute, h.same.subscriptions], h⟩
  | getState key => exact ⟨by simp only [ChatWorld.execute, h.same.botState], h⟩
  | setState key value =>
      refine ⟨rfl, ⟨{ h.same with botState := ?_ }, h.users, h.subscriptions, h.now, h.places⟩⟩
      simp only [ChatWorld.execute, h.same.botState]
  | deleteStateKey key =>
      refine ⟨rfl, ⟨{ h.same with botState := ?_ }, h.users, h.subscriptions, h.now, h.places⟩⟩
      simp only [ChatWorld.execute, h.same.botState]
  | fetchEngineSessionByPromptMessage chatId promptMessageId =>
      exact ⟨by simp only [ChatWorld.execute, h.same.sessions], h⟩
  | fetchEngineSessionById sessionId =>
      exact ⟨by simp only [ChatWorld.execute, h.same.sessions], h⟩
  | fetchLatestEngineSessionForImeiChat imei chatId =>
      exact ⟨by simp only [ChatWorld.execute, h.same.sessions], h⟩
  | updateEngineSessionStatus sessionId status =>
      refine ⟨rfl, ⟨{ h.same with sessions := ?_ }, h.users, h.subscriptions, h.now, ?_⟩⟩
      · simp only [ChatWorld.execute, h.same.sessions]
      · exact (map_updateAt (by intro _; rfl) _ _ _).trans h.places
  | fetchAnalyticsSessions imei chatId startedAt endedAt referenceTime =>
      exact ⟨by simp only [ChatWorld.execute, h.same.sessions], h⟩
  | fetchRideSummary imei startedAt endedAt =>
      exact ⟨(fetchRideSummary_eq summarize (h.same.locations imei (hown imei hr)) _ _).symm, h⟩
  | fetchLatestLocationReceivedAt imei =>
      exact ⟨(fetchLatestLocationReceivedAt_eq (h.same.locations imei (hown imei hr))).symm, h⟩
  | fetchLatestLocationForImei imei =>
      exact ⟨(fetchLatestLocationForImei_eq (h.same.devices imei (hown imei hr))).symm, h⟩
  | fetchLatestHeartbeatForImei imei =>
      exact ⟨(fetchLatestHeartbeatForImei_eq (h.same.heartbeats imei (hown imei hr))).symm, h⟩
  | handlePaymentAction _ _ => exact ⟨rfl, h⟩
  | sendMessage _ _ => exact ⟨rfl, h⟩
  | sendSticker _ _ => exact ⟨rfl, h⟩
  | clearInlineKeyboard _ _ => exact ⟨rfl, h⟩
  | deleteMessage _ _ => exact ⟨rfl, h⟩
  | answerCallbackQuery _ _ => exact ⟨rfl, h⟩
  | _ => exact hr.elim

/-- A request whose failure does not depend on the tables. -/
theorem answer_of_confined {D : String → Prop} (hr : r.Confined D) (outcome : ChatOutcome)
    (w : ChatWorld) :
    w.answer summarize outcome r =
      if outcome.fails && r.canFail then (none, w)
      else (some (w.execute summarize outcome r).1, (w.execute summarize outcome r).2) := by
  rw [ChatWorld.answer, violatesUnique_of_confined hr, Bool.or_false]

theorem answer_sameFor (hr : r.Confined (OwnSubscribed w₀ telegramUserId))
    (h : Watched telegramUserId w₀ w w') (outcome : ChatOutcome) :
    (w.answer summarize outcome r).1 = (w'.answer summarize outcome r).1 ∧
      Watched telegramUserId w₀ (w.answer summarize outcome r).2
        (w'.answer summarize outcome r).2 := by
  obtain ⟨hvalue, hnext⟩ := @execute_watched _ w w' summarize w₀ r hr h outcome
  rw [answer_of_confined hr, answer_of_confined hr]
  split
  · exact ⟨rfl, h⟩
  · exact ⟨congrArg some hvalue, hnext⟩

/-- A program about the user's own device does not tell the worlds apart. -/
theorem steady_of_confined {α : Type} {p : ChatM α}
    (hp : p.Uses (ChatRequest.Confined (OwnSubscribed w₀ telegramUserId))) :
    Prog.Steady (ChatWorld.answers summarize)
      (ChatRequest.Quiet (OwnSubscribed w₀ telegramUserId)) (Watched telegramUserId w₀)
      (fun _ => True) p :=
  Prog.steady_of_uses (fun _ => quiet_of_confined)
    (fun outcome _ _ _ hr h => answer_sameFor hr h outcome) hp

end SameFor

section Handlers

variable {summarize : List RidePoint → RideSummary} {telegramUserId : ℤ} {w₀ : ChatWorld}
  {α : Type}

/-- The program sends the same from worlds that are the same for the user, and shows only the
user's own device. -/
abbrev Own (summarize : List RidePoint → RideSummary) (telegramUserId : ℤ) (w₀ : ChatWorld)
    (J : α → Prop) (p : ChatM α) : Prop :=
  Prog.Steady (ChatWorld.answers summarize)
    (ChatRequest.Quiet (OwnSubscribed w₀ telegramUserId)) (Watched telegramUserId w₀) J p

/-- A request about the user's own device, and what its answer says. -/
theorem own_request {r : ChatRequest} {J : r.Reply → Prop}
    (hr : r.Confined (OwnSubscribed w₀ telegramUserId))
    (hJ : ∀ outcome w w', Watched telegramUserId w₀ w w' → J (w.execute summarize outcome r).1) :
    Own summarize telegramUserId w₀ J (askChat r) := by
  refine Prog.steady_request (quiet_of_confined hr) ?_
  intro outcome w w' h
  obtain ⟨hvalue, hnext⟩ := @answer_sameFor _ w w' summarize w₀ r hr h outcome
  refine ⟨hvalue, hnext, ?_⟩
  intro a ha
  rcases w.answer_cases summarize outcome r with hnone | ⟨-, hsome⟩
  · simp [ChatWorld.answers, hnone] at ha
  · obtain rfl : (w.execute summarize outcome r).1 = a := by
      simpa [ChatWorld.answers, hsome] using ha
    exact hJ outcome w w' h

theorem own_hasActiveSubscriptionNow :
    Own summarize telegramUserId w₀ (fun active => active = true → w₀.Subscribed telegramUserId)
      (hasActiveSubscriptionNow telegramUserId) := by
  refine Prog.steady_bind (J := fun now => now = w₀.now) (own_request trivial ?_) ?_
  · intro outcome w w' h
    exact h.now
  rintro now rfl
  refine own_request trivial ?_
  intro outcome w w' h hactive
  have hactive : hasActiveSubscription w.telegramSubscriptions telegramUserId w₀.now = true :=
    hactive
  rwa [h.subscriptions] at hactive

/-- The gate lets only subscribers pass. -/
theorem own_ensureActiveSubscription (callbackQueryId : String) (chatId : ℤ)
    (messageId : Option ℤ) :
    Own summarize telegramUserId w₀ (fun active => active = true → w₀.Subscribed telegramUserId)
      (ensureActiveSubscription callbackQueryId chatId telegramUserId messageId) := by
  refine Prog.steady_bind own_hasActiveSubscriptionNow ?_
  intro active hactive
  split
  · next htrue => exact Prog.steady_done fun _ => hactive htrue
  · refine Prog.steady_bind (steady_of_confined (Prog.uses_request trivial)) fun _ _ => ?_
    refine Prog.steady_bind (steady_of_confined (clearKeyboard_uses messageId)) fun _ _ => ?_
    refine Prog.steady_bind (steady_of_confined (sendChat_uses_of_none rfl)) fun _ _ => ?_
    exact Prog.steady_done fun hfalse => absurd hfalse Bool.false_ne_true

theorem fetchTelegramUserByUserId_eq {w w' : ChatWorld} (h : w.SameFor telegramUserId w') :
    fetchTelegramUserByUserId w'.telegramUsers telegramUserId =
      fetchTelegramUserByUserId w.telegramUsers telegramUserId := by
  rw [fetchTelegramUserByUserId, fetchTelegramUserByUserId, rowAt_alike h.users]

theorem boundTo_of_record {w : ChatWorld} {row : TelegramUserRow} (hrow : row ∈ w.telegramUsers)
    (hid : row.telegramUserId = telegramUserId) {imei : String}
    (himei : row.record.bind TelegramUserRecord.boundImei = some imei) :
    w.BoundTo telegramUserId imei := by
  obtain ⟨record, hrecord, hbound⟩ := Option.bind_eq_some_iff.1 himei
  obtain ⟨status, -, rfl⟩ := Option.map_eq_some_iff.1 hrecord
  exact ⟨row, hrow, hid, hbound⟩

/-- The row that is looked up by the user. -/
theorem own_fetchTelegramUserByUserId :
    Own summarize telegramUserId w₀
      (fun user => ∀ imei, user.bind TelegramUserRecord.boundImei = some imei →
        w₀.BoundTo telegramUserId imei)
      (askChat (.fetchTelegramUserByUserId telegramUserId)) := by
  refine Prog.steady_request trivial ?_
  intro outcome w w' h
  have hcases : ∀ w : ChatWorld, ChatWorld.answers summarize outcome w
      (.fetchTelegramUserByUserId telegramUserId) =
        if outcome.fails then (none, w)
        else (some (fetchTelegramUserByUserId w.telegramUsers telegramUserId), w) := by
    intro w
    simp [ChatWorld.answers, ChatWorld.answer, ChatRequest.canFail, ChatWorld.violatesUnique,
      ChatWorld.execute]
  rw [hcases, hcases]
  split
  · exact ⟨rfl, h, fun a ha => absurd ha (Option.not_mem_none a)⟩
  · refine ⟨congrArg some (fetchTelegramUserByUserId_eq h.same).symm, h, ?_⟩
    intro user huser imei himei
    obtain rfl := Option.some.inj huser
    rw [fetchTelegramUserByUserId, h.users] at himei
    cases hrow : rowAt TelegramUserRow.telegramUserId telegramUserId w₀.telegramUsers with
    | none => simp [hrow] at himei
    | some row =>
        obtain ⟨hmem, hid⟩ := mem_of_rowAt hrow
        rw [hrow, Option.bind_some] at himei
        exact boundTo_of_record hmem hid himei

theorem own_handleAnalyticsCallback {query : TelegramCallbackQuery} {message : TelegramMessage}
    (action : AnalyticsAction) :
    Own summarize query.fromId w₀ (fun _ => True)
      (handleAnalyticsCallback query message action) := by
  refine Prog.steady_bind
    (own_ensureActiveSubscription query.id message.chatId message.messageId) ?_
  intro active hactive
  split
  · next htrue =>
    have haction : Own summarize query.fromId w₀ (fun _ => True)
        (handleAnalyticsAction message.chatId query.fromId action) := by
      refine Prog.steady_bind own_fetchTelegramUserByUserId ?_
      intro user huser
      split
      · next imei himei =>
        exact steady_of_confined
          (answerAnalyticsAction_uses ⟨huser imei himei, hactive htrue⟩ action)
      · exact steady_of_confined (sendChat_uses_of_none rfl)
    refine Prog.steady_bind (steady_of_confined (Prog.uses_request trivial)) fun _ _ => ?_
    split
    · exact Prog.steady_bind (steady_of_confined (clearKeyboard_uses message.messageId))
        fun _ _ => haction
    · exact haction
  · exact Prog.steady_done trivial

theorem own_handleSessionActionCallback {query : TelegramCallbackQuery} {message : TelegramMessage}
    (action : SessionAction) :
    Own summarize query.fromId w₀ (fun _ => True)
      (handleSessionActionCallback query message action) := by
  refine Prog.steady_bind
    (own_ensureActiveSubscription query.id message.chatId message.messageId) ?_
  intro active _
  split
  · exact steady_of_confined (handleSessionAction_uses query.id _ action)
  · exact Prog.steady_done trivial

theorem own_answerTheftAlertAction (chatId : ℤ) {imei : String} (session : Option EngineSession)
    {action : TheftAlertAction}
    (h : action.requiresActiveSubscription = true → OwnSubscribed w₀ telegramUserId imei) :
    Own summarize telegramUserId w₀ (fun _ => True)
      (answerTheftAlertAction chatId imei session action) := by
  cases action with
  | streamLocation sessionId =>
      exact steady_of_confined (answerTheftAlertAction_uses (h rfl) session _)
  | checkLatestStatus sessionId =>
      exact steady_of_confined (answerTheftAlertAction_uses (h rfl) session _)
  | contactSupport sessionId => exact steady_of_confined (sendChat_uses_of_none rfl)

theorem answer_fetchTelegramUserByChatId (outcome : ChatOutcome) (w : ChatWorld) (chatId : ℤ) :
    ChatWorld.answers summarize outcome w (.fetchTelegramUserByChatId chatId) =
      if outcome.fails then (none, w)
      else (some (fetchTelegramUserByChatId w.telegramUsers chatId outcome.row), w) := by
  simp [ChatWorld.answers, ChatWorld.answer, ChatRequest.canFail, ChatWorld.violatesUnique,
    ChatWorld.execute]

/-- The row that is looked up by the chat, when the chat leads to the user only. -/
theorem own_fetchTelegramUserByChatId {chatId : ℤ}
    (hown : ∀ row ∈ w₀.telegramUsers, row.chatId = chatId → row.telegramUserId = telegramUserId) :
    Own summarize telegramUserId w₀
      (fun user => ∀ imei, user.bind TelegramUserRecord.boundImei = some imei →
        w₀.BoundTo telegramUserId imei)
      (askChat (.fetchTelegramUserByChatId chatId)) := by
  refine Prog.steady_request trivial ?_
  intro outcome w w' h
  have hfiltered : ∀ row ∈ w.telegramUsers.filter fun row => row.chatId = chatId,
      row.telegramUserId = telegramUserId := by
    intro row hrow
    obtain ⟨hmem, hchat⟩ := List.mem_filter.1 hrow
    exact hown row (h.users ▸ hmem) (of_decide_eq_true hchat)
  have heq : fetchTelegramUserByChatId w'.telegramUsers chatId outcome.row =
      fetchTelegramUserByChatId w.telegramUsers chatId outcome.row := by
    rw [fetchTelegramUserByChatId, fetchTelegramUserByChatId,
      eq_of_alike (filter_chat_alike chatId h.same.users) hfiltered]
  rw [answer_fetchTelegramUserByChatId, answer_fetchTelegramUserByChatId]
  split
  · exact ⟨rfl, h, fun a ha => absurd ha (Option.not_mem_none a)⟩
  · refine ⟨congrArg some heq.symm, h, ?_⟩
    intro user huser imei himei
    obtain rfl := Option.some.inj huser
    cases hrow : pickRow (w.telegramUsers.filter fun row => row.chatId = chatId) outcome.row with
    | none => simp [fetchTelegramUserByChatId, hrow] at himei
    | some row =>
        rw [fetchTelegramUserByChatId, hrow, Option.bind_some] at himei
        have hmem := List.mem_of_getElem? hrow
        exact boundTo_of_record (h.users ▸ (List.mem_filter.1 hmem).1) (hfiltered row hmem) himei

/-- A session is found by its id where one of the same place was. -/
theorem place_fetchEngineSessionById (rows : List EngineSession) (sessionId : ℤ) :
    (fetchEngineSessionById rows sessionId).map EngineSession.place =
      (rows.map EngineSession.place).find? fun place => (place.1 : ℤ) = sessionId := by
  rw [List.find?_map]
  rfl

/-- The session that a button names. -/
theorem own_fetchEngineSessionById (sessionId : ℤ) :
    Own summarize telegramUserId w₀
      (fun session => session.map EngineSession.place =
        (fetchEngineSessionById w₀.telegramEngineSessions sessionId).map EngineSession.place)
      (askChat (.fetchEngineSessionById sessionId)) := by
  refine own_request trivial ?_
  intro outcome w w' h
  have hplace := place_fetchEngineSessionById w.telegramEngineSessions sessionId
  rw [h.places] at hplace
  exact hplace.trans (place_fetchEngineSessionById w₀.telegramEngineSessions sessionId).symm

/-- The user of the chat is looked up and not used. -/
theorem own_fetchTelegramUserByChatId_bind {chatId : ℤ} {p : ChatM Unit}
    (hp : Own summarize telegramUserId w₀ (fun _ => True) p) :
    Own summarize telegramUserId w₀ (fun _ => True)
      (askChat (.fetchTelegramUserByChatId chatId) >>= fun _ => p) := by
  intro w w' h
  refine Prog.twin_bind (Prog.twin_request trivial ?_ ?_)
  · intro outcome
    rw [answer_fetchTelegramUserByChatId, answer_fetchTelegramUserByChatId]
    cases outcome.fails with
    | true => exact ⟨rfl, h, fun _ _ => trivial⟩
    | false => exact hp w w' h
  · intro outcome
    rw [answer_fetchTelegramUserByChatId, answer_fetchTelegramUserByChatId]
    cases outcome.fails with
    | true => rfl
    | false => rfl

theorem own_handleTheftAlertAction {chatId : ℤ} {action : TheftAlertAction}
    (hactive : action.requiresActiveSubscription = true → w₀.Subscribed telegramUserId)
    (hleads : LeadsToOwn w₀ telegramUserId chatId action) :
    Own summarize telegramUserId w₀ (fun _ => True) (handleTheftAlertAction chatId action) := by
  unfold handleTheftAlertAction
  cases hsession : action.sessionId with
  | none =>
      simp only [LeadsToOwn, hsession] at hleads
      refine Prog.steady_bind (own_fetchTelegramUserByChatId hleads) ?_
      intro user huser
      dsimp only
      split
      · next imei himei =>
        exact own_answerTheftAlertAction chatId none fun hrequires =>
          ⟨huser imei himei, hactive hrequires⟩
      · exact steady_of_confined (sendChat_uses_of_none rfl)
  | some sessionId =>
      simp only [LeadsToOwn, hsession] at hleads
      dsimp only
      refine own_fetchTelegramUserByChatId_bind (Prog.steady_bind
        (own_fetchEngineSessionById sessionId) ?_)
      intro found hfound
      split
      · next session hfilter =>
        obtain ⟨rfl, hchat⟩ := Option.filter_eq_some_iff.1 hfilter
        obtain ⟨session₀, hfound₀, hplace⟩ := Option.map_eq_some_iff.1 hfound.symm
        obtain ⟨-, hrest⟩ := Prod.mk.inj hplace
        obtain ⟨himei, hchat₀⟩ := Prod.mk.inj hrest
        refine own_answerTheftAlertAction chatId (some session) fun hrequires => ?_
        have hbound := hleads session₀ hfound₀
          (hchat₀.trans (of_decide_eq_true hchat)) hrequires
        exact ⟨himei ▸ hbound, hactive hrequires⟩
      · exact Prog.steady_done trivial

/-- Help is for everybody; the other buttons are for subscribers. -/
theorem own_ensureTheftAlertSubscription {query : TelegramCallbackQuery}
    {message : TelegramMessage} {action : TheftAlertAction} :
    Own summarize query.fromId w₀
      (fun active => active = true → action.requiresActiveSubscription = true →
        w₀.Subscribed query.fromId)
      (ensureTheftAlertSubscription query message action) := by
  unfold ensureTheftAlertSubscription
  split
  · exact (own_ensureActiveSubscription query.id message.chatId message.messageId).mono
      fun active hactive htrue _ => hactive htrue
  · next hrequires => exact Prog.steady_done fun _ htrue => absurd htrue hrequires

theorem own_handleTheftAlertCallback {query : TelegramCallbackQuery} {message : TelegramMessage}
    {action : TheftAlertAction}
    (hleads : (action.requiresActiveSubscription = true → w₀.Subscribed query.fromId) →
      LeadsToOwn w₀ query.fromId message.chatId action) :
    Own summarize query.fromId w₀ (fun _ => True)
      (handleTheftAlertCallback query message action) := by
  refine Prog.steady_bind own_ensureTheftAlertSubscription ?_
  intro active hactive
  split
  · next htrue =>
    refine Prog.steady_bind (steady_of_confined (Prog.uses_request trivial)) fun _ _ => ?_
    exact own_handleTheftAlertAction (hactive htrue) (hleads (hactive htrue))
  · exact Prog.steady_done trivial

theorem own_handleChatCallbackQuery {query : TelegramCallbackQuery}
    (h : ResolvesToOwn w₀ query) :
    Own summarize query.fromId w₀ (fun _ => True) (handleChatCallbackQuery query) := by
  unfold handleChatCallbackQuery
  cases hdata : query.data with
  | none => exact Prog.steady_done trivial
  | some data =>
      dsimp only
      split
      · exact steady_of_confined (Prog.uses_request trivial)
      · cases hmessage : query.message with
        | none => exact Prog.steady_done trivial
        | some message =>
            dsimp only
            split
            · exact own_handleAnalyticsCallback _
            · split
              · next action htheft =>
                refine own_handleTheftAlertCallback (h message action ?_)
                simp [TelegramCallbackQuery.theftAlert, hdata, hmessage, htheft]
              · split
                · exact own_handleSessionActionCallback _
                · exact Prog.steady_done trivial

/-- The handler run twice: from worlds that are the same for the user it sends the same. -/
theorem twin_handleChatCallbackQuery {query : TelegramCallbackQuery} {w w' : ChatWorld}
    (h : ResolvesToOwn w query) (hsame : w.SameFor query.fromId w') :
    (handleChatCallbackQuery query).Twin (ChatWorld.answers summarize)
      (ChatRequest.Quiet (OwnSubscribed w query.fromId)) (handleChatCallbackQuery query)
      (fun x y _ _ => x = y) w w' :=
  (own_handleChatCallbackQuery h w w' ⟨hsame, rfl, rfl, rfl, rfl⟩).mono fun _ _ _ _ hxy => hxy.1

theorem disclosesOwn_of_resolves {query : TelegramCallbackQuery} {w : ChatWorld}
    (h : ResolvesToOwn w query) : DisclosesOwn summarize w query where
  own := by
    intro choices chatId message imei hmem hdevice
    have htwin := @twin_handleChatCallbackQuery summarize _ _ _ h (.refl query.fromId w)
    exact htwin.mem_trace choices _ hmem imei hdevice
  others := by
    intro w' hsame _ choices
    have htwin := @twin_handleChatCallbackQuery summarize _ _ _ h hsame
    exact congrArg (List.filter ChatRequest.isTelegramCall) (htwin.trace_eq choices).symm

end Handlers

/-! ### A press that leads elsewhere -/

/-- The buttons of alerts are told apart from the others. -/
theorem parse_of_theftAlert {data : String} {action : TheftAlertAction}
    (h : TheftAlertAction.parse data = some action) :
    PaymentAction.parse data = none ∧ AnalyticsAction.parse data = none := by
  unfold TheftAlertAction.parse at h
  unfold PaymentAction.parse AnalyticsAction.parse
  split at h
  · next name hsplit => exact ⟨by simp [hsplit], by simp [hsplit]⟩
  · next name value hsplit => exact ⟨by simp [hsplit], by simp [hsplit]⟩
  · cases h

theorem handleChatCallbackQuery_theftAlert {query : TelegramCallbackQuery}
    {message : TelegramMessage} {action : TheftAlertAction}
    (h : query.theftAlert = some (message, action)) :
    handleChatCallbackQuery query = handleTheftAlertCallback query message action := by
  obtain ⟨message', hmessage, h⟩ := Option.bind_eq_some_iff.1 h
  obtain ⟨action', haction, heq⟩ := Option.map_eq_some_iff.1 h
  obtain ⟨rfl, rfl⟩ := Prod.mk.inj heq
  obtain ⟨data, hdata, htheft⟩ := Option.bind_eq_some_iff.1 haction
  obtain ⟨hpayment, hanalytics⟩ := parse_of_theftAlert htheft
  unfold handleChatCallbackQuery
  simp only [hdata, hpayment, hmessage, hanalytics, htheft]

section Elsewhere

variable {summarize : List RidePoint → RideSummary} {w w' : ChatWorld} {α : Type}

/-- Everything succeeds, and a `LIMIT 1` without an order picks the given row. -/
def picks (row : ℕ) : ChatOutcome := ⟨false, 0, row⟩

theorem trace_ask {r : ChatRequest} (hr : w.violatesUnique r = false) (f : r.Reply → ChatM α)
    (row : ℕ) :
    Prog.trace (ChatWorld.answers summarize) (askChat r >>= f) (fun _ => picks row) w =
      r :: Prog.trace (ChatWorld.answers summarize) (f (w.execute summarize (picks row) r).1)
        (fun _ => picks row) (w.execute summarize (picks row) r).2 := by
  refine Prog.trace_request_bind ?_
  simp [ChatWorld.answers, ChatWorld.answer, hr, picks]

/-- The check of a subscriber. -/
theorem trace_ensureActiveSubscription (callbackQueryId : String) (chatId : ℤ)
    {telegramUserId : ℤ} (messageId : Option ℤ) (hactive : w.Subscribed telegramUserId)
    (f : Bool → ChatM α) (row : ℕ) :
    Prog.trace (ChatWorld.answers summarize)
        (ensureActiveSubscription callbackQueryId chatId telegramUserId messageId >>= f)
        (fun _ => picks row) w =
      .utcNow :: .hasActiveSubscription telegramUserId w.now ::
        Prog.trace (ChatWorld.answers summarize) (f true) (fun _ => picks row) w := by
  unfold ensureActiveSubscription hasActiveSubscriptionNow
  rw [Prog.bind_assoc, Prog.bind_assoc, trace_ask rfl]
  simp only [ChatWorld.execute]
  rw [trace_ask rfl]
  have hactive : hasActiveSubscription w.telegramSubscriptions telegramUserId w.now = true :=
    hactive
  simp only [ChatWorld.execute, hactive, if_true]
  rfl

/-- What the handler sends once the check of the subscription is passed. -/
theorem callbackRequests_theftAlert {query : TelegramCallbackQuery} {message : TelegramMessage}
    {action : TheftAlertAction} (h : query.theftAlert = some (message, action))
    (hactive : action.requiresActiveSubscription = true → w.Subscribed query.fromId) (row : ℕ) :
    ∃ checks : List ChatRequest, (∀ r ∈ checks, r.isTelegramCall = false) ∧
      w.callbackRequests summarize query (fun _ => picks row) =
        checks ++ .answerCallbackQuery query.id .empty ::
          Prog.trace (ChatWorld.answers summarize) (handleTheftAlertAction message.chatId action)
            (fun _ => picks row) w := by
  rw [ChatWorld.callbackRequests, handleChatCallbackQuery_theftAlert h]
  unfold handleTheftAlertCallback ensureTheftAlertSubscription
  cases hrequires : action.requiresActiveSubscription with
  | false => exact ⟨[], by simp, trace_ask rfl _ row⟩
  | true =>
      refine ⟨[.utcNow, .hasActiveSubscription query.fromId w.now], ?_, ?_⟩
      · simp [ChatRequest.isTelegramCall]
      · simp only [if_true]
        rw [trace_ensureActiveSubscription _ _ _ (hactive hrequires), if_pos rfl, trace_ask rfl]
        rfl

section Pressed

variable {query : TelegramCallbackQuery} {message : TelegramMessage} {action : TheftAlertAction}

theorem callbackAnswers_theftAlert (h : query.theftAlert = some (message, action))
    (hactive : action.requiresActiveSubscription = true → w.Subscribed query.fromId) (row : ℕ) :
    w.callbackAnswers summarize query (fun _ => picks row) =
      .answerCallbackQuery query.id .empty ::
        (Prog.trace (ChatWorld.answers summarize) (handleTheftAlertAction message.chatId action)
          (fun _ => picks row) w).filter ChatRequest.isTelegramCall := by
  obtain ⟨checks, hchecks, hrequests⟩ :=
    @callbackRequests_theftAlert summarize w query message action h hactive row
  have hnone : checks.filter ChatRequest.isTelegramCall = [] := by
    rw [List.filter_eq_nil_iff]
    intro r hr
    rw [hchecks r hr]
    exact Bool.false_ne_true
  rw [ChatWorld.callbackAnswers, hrequests, List.filter_append, hnone, List.nil_append]
  rfl

theorem mem_callbackRequests_theftAlert (h : query.theftAlert = some (message, action))
    (hactive : action.requiresActiveSubscription = true → w.Subscribed query.fromId) {row : ℕ}
    {r : ChatRequest}
    (hr : r ∈ Prog.trace (ChatWorld.answers summarize)
      (handleTheftAlertAction message.chatId action) (fun _ => picks row) w) :
    r ∈ w.callbackRequests summarize query (fun _ => picks row) := by
  obtain ⟨checks, -, hrequests⟩ :=
    @callbackRequests_theftAlert summarize w query message action h hactive row
  rw [hrequests]
  exact List.mem_append_right _ (List.mem_cons_of_mem _ hr)

/-- A session that the button names and that is one of the chat. -/
theorem trace_theftAlert_session {chatId sessionId : ℤ} {session : EngineSession}
    (hsession : action.sessionId = some sessionId)
    (hfound : fetchEngineSessionById w.telegramEngineSessions sessionId = some session)
    (hchat : session.chatId = chatId) (row : ℕ) :
    Prog.trace (ChatWorld.answers summarize) (handleTheftAlertAction chatId action)
        (fun _ => picks row) w =
      .fetchTelegramUserByChatId chatId :: .fetchEngineSessionById sessionId ::
        Prog.trace (ChatWorld.answers summarize)
          (answerTheftAlertAction chatId session.imei (some session) action)
          (fun _ => picks row) w := by
  unfold handleTheftAlertAction
  rw [trace_ask rfl]
  simp only [ChatWorld.execute, hsession]
  rw [trace_ask rfl]
  have hfilter : ((some session).filter fun session => session.chatId = chatId) = some session := by
    simp [hchat]
  simp only [ChatWorld.execute, hfound, hfilter]

theorem trace_streamLocation (chatId : ℤ) (imei : String) (session : Option EngineSession)
    (sessionId : Option ℤ) (row : ℕ) :
    Prog.trace (ChatWorld.answers summarize)
        (answerTheftAlertAction chatId imei session (.streamLocation sessionId))
        (fun _ => picks row) w =
      [.fetchLatestLocationReceivedAt imei, .sendMessage chatId
        (.streamLocation imei (fetchLatestLocationReceivedAt w.deviceLocations imei))] := by
  unfold answerTheftAlertAction sendChat
  rw [trace_ask rfl, trace_ask rfl]
  rfl

theorem trace_checkLatestStatus (chatId : ℤ) (imei : String) (session : EngineSession)
    (sessionId : Option ℤ) (row : ℕ) :
    ∃ heartbeat location, .sendMessage chatId (.latestMotorStatus imei session.createdAt
        session.resolvedAt heartbeat location w.now) ∈
      Prog.trace (ChatWorld.answers summarize)
        (answerTheftAlertAction chatId imei (some session) (.checkLatestStatus sessionId))
        (fun _ => picks row) w := by
  refine ⟨fetchLatestHeartbeatForImei w.deviceHeartbeats imei,
    fetchLatestLocationForImei w.devices imei, ?_⟩
  unfold answerTheftAlertAction sendChat
  rw [trace_ask rfl, trace_ask rfl]
  change _ ∈ _ :: _ :: Prog.trace _ (askChat .utcNow >>= _) _ _
  rw [trace_ask rfl, trace_ask rfl]
  simp [ChatWorld.execute]

/-! ### Another device of the chat -/

/-- One more position of a device. -/
def ChatWorld.addLocation (w : ChatWorld) (imei : String) : ChatWorld :=
  { w with deviceLocations := w.deviceLocations ++ [⟨0, imei, 0, 0, 0, 0⟩] }

theorem sameFor_addLocation {telegramUserId : ℤ} {imei : String}
    (h : ¬ w.BoundTo telegramUserId imei) : w.SameFor telegramUserId (w.addLocation imei) :=
  { ChatWorld.SameFor.refl telegramUserId w with
    locations := by
      intro own hown
      have hne : imei ≠ own := by
        rintro rfl
        exact h hown
      simp [ChatWorld.addLocation, hne] }

theorem fetchLatestLocationReceivedAt_addLocation {imei : String}
    (h : fetchLatestLocationReceivedAt w.deviceLocations imei = none) :
    fetchLatestLocationReceivedAt (w.addLocation imei).deviceLocations imei = some 0 := by
  have hnone : (w.deviceLocations.filter fun row => row.imei = imei) = [] := by
    rw [fetchLatestLocationReceivedAt, Option.map_eq_none_iff, List.head?_eq_none_iff] at h
    have hlength := congrArg List.length h
    rw [List.length_mergeSort] at hlength
    exact List.eq_nil_of_length_eq_zero hlength
  simp [fetchLatestLocationReceivedAt, ChatWorld.addLocation, hnone]

/-- A session of another device gives that device away. -/
theorem not_disclosesOwn_of_session (hinv : BindingInv w)
    (h : query.theftAlert = some (message, action))
    (hactive : action.requiresActiveSubscription = true → w.Subscribed query.fromId)
    {sessionId : ℤ} {session : EngineSession} (hsession : action.sessionId = some sessionId)
    (hfound : fetchEngineSessionById w.telegramEngineSessions sessionId = some session)
    (hchat : session.chatId = message.chatId)
    (hrequires : action.requiresActiveSubscription = true)
    (hother : ¬ w.BoundTo query.fromId session.imei) : ¬ DisclosesOwn summarize w query := by
  intro hown
  have htrace : ∀ w' : ChatWorld, w'.telegramEngineSessions = w.telegramEngineSessions →
      Prog.trace (ChatWorld.answers summarize) (handleTheftAlertAction message.chatId action)
        (fun _ => picks 0) w' = _ := fun w' hsessions =>
    trace_theftAlert_session hsession (hsessions ▸ hfound) hchat 0
  cases action with
  | contactSupport sessionId => cases hrequires
  | checkLatestStatus sessionId =>
      obtain ⟨heartbeat, location, hsent⟩ :=
        @trace_checkLatestStatus summarize w message.chatId session.imei session sessionId 0
      have hmem := mem_callbackRequests_theftAlert h hactive
        (htrace w rfl ▸ List.mem_cons_of_mem _ (List.mem_cons_of_mem _ hsent))
      exact hother (hown.own _ _ _ session.imei hmem rfl).1
  | streamLocation sessionId =>
      cases hlocation : fetchLatestLocationReceivedAt w.deviceLocations session.imei with
      | some startAt =>
          have hmem := mem_callbackRequests_theftAlert h hactive
            (htrace w rfl ▸ List.mem_cons_of_mem _ (List.mem_cons_of_mem _ (by
              rw [trace_streamLocation]
              exact List.mem_cons_of_mem _ List.mem_cons_self)))
          exact hother (hown.own _ _ _ session.imei hmem (by rw [hlocation]; rfl)).1
      | none =>
          -- whether the other device has a position makes a difference
          have hsame := hown.others (w.addLocation session.imei) (sameFor_addLocation hother)
            (hinv.of_eq rfl fun _ hdevice => hdevice) fun _ => picks 0
          have hactive' : _ → (w.addLocation session.imei).Subscribed query.fromId := hactive
          rw [callbackAnswers_theftAlert h hactive, callbackAnswers_theftAlert h hactive',
            htrace w rfl, htrace (w.addLocation session.imei) rfl, trace_streamLocation,
            trace_streamLocation, hlocation,
            fetchLatestLocationReceivedAt_addLocation hlocation] at hsame
          simp [List.filter, ChatRequest.isTelegramCall] at hsame

/-! ### Another user of the chat -/

/-- The registrations of the others: one of them is bound to the given device, if there is one, and
the rest to none. -/
def TelegramUserRow.rebound (telegramUserId other : ℤ) (imei : Option String)
    (row : TelegramUserRow) : TelegramUserRow :=
  if row.telegramUserId = telegramUserId then row
  else if row.telegramUserId = other ∧ imei.isSome then
    { row with boundImei := imei, registrationStatus := "bound" }
  else { row with boundImei := none, registrationStatus := "awaiting_imei" }

def ChatWorld.rebind (w : ChatWorld) (telegramUserId other : ℤ) (imei : Option String) :
    ChatWorld :=
  { w with
    telegramUsers := w.telegramUsers.map (TelegramUserRow.rebound telegramUserId other imei)
    devices := w.devices ++ imei.toList.map fun imei => ⟨imei, none, none, none, none⟩ }

section Rebound

variable {telegramUserId other : ℤ} {imei : Option String} {row : TelegramUserRow}

@[simp] theorem telegramUserId_rebound :
    (row.rebound telegramUserId other imei).telegramUserId = row.telegramUserId := by
  unfold TelegramUserRow.rebound
  split
  · rfl
  · split
    · rfl
    · rfl

@[simp] theorem chatId_rebound :
    (row.rebound telegramUserId other imei).chatId = row.chatId := by
  unfold TelegramUserRow.rebound
  split
  · rfl
  · split
    · rfl
    · rfl

theorem rebound_self (h : row.telegramUserId = telegramUserId) :
    row.rebound telegramUserId other imei = row := if_pos h

/-- What the others are bound to. -/
theorem boundImei_rebound (h : row.telegramUserId ≠ telegramUserId) :
    (row.rebound telegramUserId other imei).boundImei =
      if row.telegramUserId = other then imei else none := by
  unfold TelegramUserRow.rebound
  rw [if_neg h]
  by_cases hother : row.telegramUserId = other
  · cases imei with
    | none => simp
    | some imei => simp [hother]
  · simp [hother]

theorem record_rebound (h : row.telegramUserId ≠ telegramUserId) :
    ((row.rebound telegramUserId other imei).record.bind TelegramUserRecord.boundImei) =
      if row.telegramUserId = other then imei else none := by
  unfold TelegramUserRow.rebound
  rw [if_neg h]
  by_cases hother : row.telegramUserId = other
  · cases imei with
    | none => simp [TelegramUserRow.record, parseRegistrationStatus]
    | some imei => simp [hother, TelegramUserRow.record, parseRegistrationStatus]
  · simp [hother, TelegramUserRow.record, parseRegistrationStatus]

theorem registrationStatus_rebound
    (h : row.registrationStatus = "bound" ↔ row.boundImei.isSome = true) :
    (row.rebound telegramUserId other imei).registrationStatus = "bound" ↔
      (row.rebound telegramUserId other imei).boundImei.isSome = true := by
  unfold TelegramUserRow.rebound
  split
  · exact h
  · split
    · next hsome => simp [hsome.2]
    · simp

end Rebound

section Rebind

variable {telegramUserId other : ℤ} {imei : Option String}

theorem sameFor_rebind (himei : ∀ x ∈ imei, ¬ w.BoundTo telegramUserId x) :
    w.SameFor telegramUserId (w.rebind telegramUserId other imei) :=
  { ChatWorld.SameFor.refl telegramUserId w with
    users := by
      refine List.forall₂_map_right_iff.2 (List.forall₂_same.2 ?_)
      intro row _
      exact ⟨telegramUserId_rebound, chatId_rebound, rebound_self⟩
    devices := by
      intro own hown
      have hnone : ((imei.toList.map fun imei => (⟨imei, none, none, none, none⟩ :
          LatestLocation)).filter fun row => row.imei = own) = [] := by
        rw [List.filter_eq_nil_iff]
        intro row hrow
        obtain ⟨x, hx, rfl⟩ := List.mem_map.1 hrow
        have hne : x ≠ own := by
          rintro rfl
          exact himei x (Option.mem_toList.1 hx) hown
        simpa using hne
      have hfilter : ((w.rebind telegramUserId other imei).devices.filter fun row =>
          row.imei = own) = _ := List.filter_append _ _
      rw [hfilter, hnone, List.append_nil] }

/-- Who is bound to a device afterwards. -/
theorem mem_rebind {row : TelegramUserRow} {x : String}
    (hrow : row ∈ (w.rebind telegramUserId other imei).telegramUsers)
    (hbound : row.boundImei = some x) :
    (row ∈ w.telegramUsers ∧ row.telegramUserId = telegramUserId) ∨
      (row.telegramUserId = other ∧ row.telegramUserId ≠ telegramUserId ∧ imei = some x) := by
  obtain ⟨old, hold, rfl⟩ := List.mem_map.1 hrow
  by_cases hid : old.telegramUserId = telegramUserId
  · rw [rebound_self hid]
    exact Or.inl ⟨hold, hid⟩
  · rw [boundImei_rebound hid] at hbound
    split at hbound
    · next hother =>
      exact Or.inr ⟨telegramUserId_rebound.trans hother,
        fun heq => hid (telegramUserId_rebound.symm.trans heq), hbound⟩
    · cases hbound

theorem bindingInv_rebind (h : BindingInv w)
    (himei : ∀ x ∈ imei, ¬ w.BoundTo telegramUserId x ∧ ImeiDigits x) :
    BindingInv (w.rebind telegramUserId other imei) := by
  have hnodup : UniqueOn TelegramUserRow.telegramUserId
      (w.rebind telegramUserId other imei).telegramUsers := by
    have hkeys : (w.rebind telegramUserId other imei).telegramUsers.map
        TelegramUserRow.telegramUserId = w.telegramUsers.map TelegramUserRow.telegramUserId := by
      rw [ChatWorld.rebind, List.map_map]
      exact List.map_congr_left fun row _ => telegramUserId_rebound
    rw [UniqueOn, hkeys]
    exact h.users_nodup
  refine ⟨hnodup, ?_, ?_, ?_⟩
  · intro row hrow
    obtain ⟨old, hold, rfl⟩ := List.mem_map.1 hrow
    exact registrationStatus_rebound (h.bound_iff old hold)
  · intro row hrow row' hrow' x hx hx'
    rcases mem_rebind hrow hx with ⟨hold, hid⟩ | ⟨hother, -, hsome⟩
    · rcases mem_rebind hrow' hx' with ⟨-, hid'⟩ | ⟨-, -, hsome'⟩
      · exact hnodup.eq_of_key_eq hrow hrow' (hid.trans hid'.symm)
      · exact absurd ⟨row, hold, hid, hx⟩ (himei x hsome').1
    · rcases mem_rebind hrow' hx' with ⟨hold', hid'⟩ | ⟨hother', -, -⟩
      · exact absurd ⟨row', hold', hid', hx'⟩ (himei x hsome).1
      · exact hnodup.eq_of_key_eq hrow hrow' (hother.trans hother'.symm)
  · intro row hrow x hx
    rcases mem_rebind hrow hx with ⟨hold, -⟩ | ⟨-, -, hsome⟩
    · obtain ⟨hdigits, device, hdevice, hdeviceImei⟩ := h.imei_valid row hold x hx
      exact ⟨hdigits, device, List.mem_append_left _ hdevice, hdeviceImei⟩
    · refine ⟨(himei x hsome).2, ⟨x, none, none, none, none⟩, ?_, rfl⟩
      refine List.mem_append_right _ (List.mem_map_of_mem ?_)
      exact Option.mem_toList.2 hsome

/-- The row that a `LIMIT 1` picks, in the table and after the change. -/
theorem fetchTelegramUserByChatId_rebind {chatId : ℤ} {row : TelegramUserRow} {i : ℕ}
    (hpick : pickRow (w.telegramUsers.filter fun row => row.chatId = chatId) i = some row) :
    fetchTelegramUserByChatId w.telegramUsers chatId i = row.record ∧
      fetchTelegramUserByChatId (w.rebind telegramUserId other imei).telegramUsers chatId i =
        (row.rebound telegramUserId other imei).record := by
  refine ⟨by rw [fetchTelegramUserByChatId, hpick, Option.bind_some], ?_⟩
  have hfilter : ((w.rebind telegramUserId other imei).telegramUsers.filter fun row =>
      row.chatId = chatId) = (w.telegramUsers.filter fun row => row.chatId = chatId).map
        (TelegramUserRow.rebound telegramUserId other imei) := by
    rw [ChatWorld.rebind, List.filter_map]
    refine congrArg _ (List.filter_congr ?_)
    intro row _
    simp
  rw [fetchTelegramUserByChatId, hfilter, pickRow, List.length_map, List.getElem?_map]
  rw [pickRow] at hpick
  rw [hpick]
  rfl

end Rebind

/-- The answer to the button of an alert is not the answer to a user without a device. -/
theorem answerTheftAlertAction_ne_notBound (chatId : ℤ) (imei : String)
    (session : Option EngineSession) (action : TheftAlertAction) :
    (answerTheftAlertAction chatId imei session action).Uses
      (fun r => r ≠ .sendMessage chatId .notBoundUseStart) := by
  have hask : ∀ {α : Type} {r : ChatRequest} {f : r.Reply → ChatM α},
      r ≠ .sendMessage chatId .notBoundUseStart →
      (∀ x, (f x).Uses fun r => r ≠ .sendMessage chatId .notBoundUseStart) →
      (askChat r >>= f).Uses fun r => r ≠ .sendMessage chatId .notBoundUseStart :=
    fun hr hf => Prog.uses_bind (Prog.uses_request hr) hf
  cases action with
  | streamLocation sessionId =>
      refine hask (by simp) fun startAt => ?_
      exact hask (by simp) fun _ => trivial
  | checkLatestStatus sessionId =>
      refine hask (by simp) fun location => ?_
      refine hask (by simp) fun heartbeat => ?_
      refine Prog.uses_bind ?_ fun times => ?_
      · cases session with
        | some session => trivial
        | none =>
            refine hask (by simp) fun latest => ?_
            cases latest with
            | some session => trivial
            | none =>
                dsimp only
                split
                · trivial
                · exact hask (by simp) fun _ => trivial
      · refine hask (by simp) fun requestedAt => ?_
        exact hask (by simp) fun _ => trivial
  | contactSupport sessionId => exact hask (by simp) fun _ => trivial

/-- Whether the user that the chat leads to has a device can be told from the answer. -/
theorem notBound_mem_iff {chatId : ℤ} (hsession : action.sessionId = none) {row : ℕ}
    {user : Option TelegramUserRecord}
    (huser : fetchTelegramUserByChatId w.telegramUsers chatId row = user) :
    .sendMessage chatId .notBoundUseStart ∈
        (Prog.trace (ChatWorld.answers summarize) (handleTheftAlertAction chatId action)
          (fun _ => picks row) w).filter ChatRequest.isTelegramCall ↔
      user.bind TelegramUserRecord.boundImei = none := by
  unfold handleTheftAlertAction
  rw [trace_ask rfl, List.mem_filter]
  simp only [ChatWorld.execute, hsession, picks, huser, ChatRequest.isTelegramCall, and_true,
    List.mem_cons, reduceCtorEq, false_or]
  cases hbound : user.bind TelegramUserRecord.boundImei with
  | none =>
      refine iff_of_true ?_ rfl
      unfold sendChat
      have hsent := @trace_ask summarize w Unit (.sendMessage chatId .notBoundUseStart) rfl
        (fun _ => pure ()) row
      rw [picks] at hsent
      rw [hsent]
      exact List.mem_cons_self
  | some imei =>
      refine iff_of_false ?_ (by simp)
      intro hmem
      exact Prog.mem_trace_of_uses (answerTheftAlertAction_ne_notBound chatId imei none action)
        _ _ hmem rfl

theorem exists_pickRow {rows : List TelegramUserRow} {row : TelegramUserRow} (h : row ∈ rows) :
    ∃ i, pickRow rows i = some row := by
  obtain ⟨i, hi, hrow⟩ := List.getElem_of_mem h
  refine ⟨i, ?_⟩
  rw [pickRow, Nat.mod_eq_of_lt hi, List.getElem?_eq_getElem hi, hrow]

/-- An IMEI that is not the user's. -/
theorem exists_other_imei (h : BindingInv w) (telegramUserId : ℤ) :
    ∃ imei, ¬ w.BoundTo telegramUserId imei ∧ ImeiDigits imei := by
  have hdigits : ∀ c : Char, c.isDigit = true →
      ImeiDigits (String.ofList (List.replicate 15 c)) := by
    intro c hc
    refine ⟨by simp, ?_⟩
    intro d hd
    rw [String.toList_ofList] at hd
    rw [List.eq_of_mem_replicate hd]
    exact hc
  by_cases hzero : w.BoundTo telegramUserId (String.ofList (List.replicate 15 '0'))
  · refine ⟨String.ofList (List.replicate 15 '1'), ?_, hdigits '1' (by decide)⟩
    rintro ⟨row', hrow', hid', himei'⟩
    obtain ⟨row, hrow, hid, himei⟩ := hzero
    obtain rfl := h.users_nodup.eq_of_key_eq hrow hrow' (hid.trans hid'.symm)
    exact absurd (Option.some.inj (himei.symm.trans himei')) (by decide +kernel)
  · exact ⟨_, hzero, hdigits '0' (by decide)⟩

/-- Another user of the chat makes a difference. -/
theorem not_disclosesOwn_of_chat (hinv : BindingInv w)
    (h : query.theftAlert = some (message, action))
    (hactive : action.requiresActiveSubscription = true → w.Subscribed query.fromId)
    (hsession : action.sessionId = none) {row : TelegramUserRow} (hrow : row ∈ w.telegramUsers)
    (hchat : row.chatId = message.chatId) (hother : row.telegramUserId ≠ query.fromId) :
    ¬ DisclosesOwn summarize w query := by
  intro hown
  obtain ⟨i, hpick⟩ := exists_pickRow (List.mem_filter.2 ⟨hrow, decide_eq_true hchat⟩ :
    row ∈ w.telegramUsers.filter fun row => row.chatId = message.chatId)
  obtain ⟨fresh, hfresh, hdigits⟩ := exists_other_imei hinv query.fromId
  -- the other user gets a device, or loses it
  obtain ⟨imei, himei, hflip⟩ : ∃ imei : Option String,
      (∀ x ∈ imei, ¬ w.BoundTo query.fromId x ∧ ImeiDigits x) ∧
        ¬ (row.record.bind TelegramUserRecord.boundImei = none ↔ imei = none) := by
    cases hbound : row.record.bind TelegramUserRecord.boundImei with
    | none =>
        refine ⟨some fresh, ?_, by simp⟩
        rintro x hx
        obtain rfl := Option.some.inj hx
        exact ⟨hfresh, hdigits⟩
    | some bound => exact ⟨none, by simp, by simp⟩
  have hsame := hown.others (w.rebind query.fromId row.telegramUserId imei)
    (sameFor_rebind fun x hx => (himei x hx).1) (bindingInv_rebind hinv himei) fun _ => picks i
  have hactive' : _ → (w.rebind query.fromId row.telegramUserId imei).Subscribed query.fromId :=
    hactive
  rw [callbackAnswers_theftAlert h hactive, callbackAnswers_theftAlert h hactive'] at hsame
  obtain ⟨hbefore, hafter⟩ := @fetchTelegramUserByChatId_rebind w query.fromId
    row.telegramUserId imei message.chatId row i hpick
  have hmem := @notBound_mem_iff summarize w action _ hsession i _ hbefore
  have hmem' := @notBound_mem_iff summarize _ action _ hsession i _ hafter
  rw [record_rebound hother, if_pos rfl] at hmem'
  rw [List.cons.inj hsame |>.2] at hmem'
  exact hflip (hmem.symm.trans hmem')

/-- **Exactly when nothing but the user's own device is given away**: take tables whose
registrations are well formed, as those of every run are.  Whatever the tables leave open, every
message that a press leads to shows only the device of the user who has pressed, to a subscriber,
and the answers are those of any tables that differ in what others are bound to and in other
devices, exactly when the button of an alert leads to the user's own device: the session it names
is one of this device, or, where it names none, the chat is the chat of no other user. -/
theorem disclosesOwn_iff (summarize : List RidePoint → RideSummary) (hinv : BindingInv w)
    (query : TelegramCallbackQuery) :
    DisclosesOwn summarize w query ↔ ResolvesToOwn w query := by
  refine ⟨?_, disclosesOwn_of_resolves⟩
  intro hown message action h hactive
  unfold LeadsToOwn
  cases hsession : action.sessionId with
  | some sessionId =>
      intro session hfound hchat hrequires
      by_contra hother
      exact not_disclosesOwn_of_session hinv h hactive hsession hfound hchat hrequires hother hown
  | none =>
      intro row hrow hchat
      by_contra hother
      exact not_disclosesOwn_of_chat hinv h hactive hsession hrow hchat hother hown

end Pressed

end Elsewhere

/-! ### A group -/

def withoutReports : List RidePoint → RideSummary :=
  fun _ => { totalDistanceKm := 0, ridingSeconds := 0 }

/-- Two users have registered in one group; one of them is a subscriber. -/
def groupChat : ChatWorld where
  now := 0
  devices := [⟨"866221070478388", none, none, none, none⟩,
    ⟨"359586015829802", none, none, none, none⟩]
  deviceLocations := [⟨1, "866221070478388", 0, 0, 0, 0⟩]
  deviceHeartbeats := []
  telegramUsers := [⟨1, -100, some "866221070478388", "bound"⟩,
    ⟨2, -100, some "359586015829802", "bound"⟩]
  telegramSubscriptions := [⟨1, 2, -100, "monthly_basic", .active, some 0, some 1000000⟩]
  telegramEngineSessions := []
  telegramBotState := []

/-- A member of the group sends a text, and a number of requests succeed. -/
def typesInGroup (telegramUserId : ℤ) (text : String) (requests : ℕ) :
    List (Event ChatEvent ChatOutcome TelegramUpdate) :=
  .start ⟨0, some ⟨-100, some telegramUserId, some text, none⟩, none⟩ ::
    List.replicate requests (.answer ⟨false, 1, 0⟩)

/-- Both users start the bot in the group and type their IMEIs, and one of them pays. -/
def groupRegisters : List (Event ChatEvent ChatOutcome TelegramUpdate) :=
  .env (.setDevices groupChat.devices) :: typesInGroup 1 "/start" 3 ++
    typesInGroup 2 "/start" 3 ++ typesInGroup 1 "866221070478388" 8 ++
    typesInGroup 2 "359586015829802" 8 ++ [.env (.setOthers groupChat)]

/-- The subscriber presses the button of the live location in the start menu. -/
def groupPress : TelegramCallbackQuery :=
  ⟨"press", 2, some "theft_alert:stream_location", some ⟨-100, none, none, some 5⟩⟩

theorem replay_groupRegisters :
    (replay plainChatBot.step (.idle (ChatWorld.empty 0)) groupRegisters).any
      (fun m => decide (m.world = groupChat)) = true := by
  decide +kernel

/-- The chat leads to the user who registered first, and the subscriber is shown the position of
that user's device. -/
theorem group_shows_other_device :
    ∃ tr m, tr.map Prod.snd = groupRegisters ∧
      Run plainChatBot.step (.idle (ChatWorld.empty 0)) tr m ∧
      ¬ DisclosesOwn withoutReports m.world groupPress := by
  obtain ⟨tr, m, hes, run, hworld⟩ := run_of_replay_any replay_groupRegisters
  have hworld : m.world = groupChat := of_decide_eq_true hworld
  refine ⟨tr, m, hes, run, ?_⟩
  intro hown
  have hsent : .sendMessage (-100) (.streamLocation "866221070478388" (some 0)) ∈
      groupChat.callbackRequests withoutReports groupPress fun _ => picks 0 := by
    decide +kernel
  rw [hworld] at hown
  obtain ⟨⟨row, hrow, hid, himei⟩, -⟩ := hown.own _ _ _ "866221070478388" hsent rfl
  simp only [groupChat, List.mem_cons, List.not_mem_nil, or_false] at hrow
  rcases hrow with rfl | rfl
  · simp [groupPress] at hid
  · simp at himei

theorem bindingInv_groupChat : BindingInv groupChat where
  users_nodup := by decide
  bound_iff := by decide +kernel
  imei_unique := by
    intro row hrow row' hrow' imei himei himei'
    simp only [groupChat, List.mem_cons, List.not_mem_nil, or_false] at hrow hrow'
    rcases hrow with rfl | rfl
    · rcases hrow' with rfl | rfl
      · rfl
      · simp [← himei'] at himei
    · rcases hrow' with rfl | rfl
      · simp [← himei'] at himei
      · rfl
  imei_valid := by
    intro row hrow imei himei
    simp only [groupChat, List.mem_cons, List.not_mem_nil, or_false] at hrow
    rcases hrow with rfl | rfl
    · obtain rfl := Option.some.inj himei
      exact ⟨imeiDigits_of_isValidImei (by decide +kernel), _, List.mem_cons_self, rfl⟩
    · obtain rfl := Option.some.inj himei
      exact ⟨imeiDigits_of_isValidImei (by decide +kernel), _,
        List.mem_cons_of_mem _ List.mem_cons_self, rfl⟩

/-- The button is outside the condition there. -/
theorem disclosesOwn_iff_groupChat : ¬ DisclosesOwn withoutReports groupChat groupPress := by
  rw [disclosesOwn_iff withoutReports bindingInv_groupChat groupPress]
  intro hresolves
  have hleads := hresolves ⟨-100, none, none, some 5⟩ (.streamLocation none) (by decide +kernel)
    (fun _ => by unfold ChatWorld.Subscribed; decide +kernel)
  exact absurd (hleads ⟨1, -100, some "866221070478388", "bound"⟩ List.mem_cons_self rfl)
    (by decide)

end Gt06
