/-
**The segments of a device's heartbeats.**

The statuses of a device cut its heartbeats into segments: an `on` begins one, unless the status
before it was an `on` as well and less than ten minutes old.  The bot does not see the heartbeats as
a list.  It keeps for each chat the id of the last heartbeat it has noted, and the time of that
heartbeat is read from another table when the next one comes.

This module has the segments, the bot beside one device whose chat stays its one subscriber while
nothing fails, and what one heartbeat does there to the sessions and to the note of the chat.

Main definitions:

* `Gt06.lastEngineHeartbeat`, `Gt06.startsSegment`, `Gt06.segmentStarts` — the segments;
* `Gt06.devicePasses` — the passes of the bot beside one device, in any order;
* `Gt06.untroubled` — nothing fails, and one chat is bound and subscribed;
* `Gt06.RidesNoted`, `Gt06.Tracked` — what the sessions and the note of the chat say;
* `Gt06.segmentOwes` — what has to hold when the id of a heartbeat is stored.

Main results:

* `Gt06.segmentStarts_concat` — one more heartbeat;
* `Gt06.safe_processForChat`, `Gt06.safe_notifyRecipients` — **what one heartbeat leaves**.
-/

import Gt06Server.NotifiedSessions

set_option relaxedAutoImplicit false
set_option autoImplicit false

namespace Gt06

open Await Relational

/-! ### Segments -/

/-- The last heartbeat with a status that chats are notified about. -/
def lastEngineHeartbeat (heartbeats : List StoredHeartbeat) : Option StoredHeartbeat :=
  (heartbeats.filter fun heartbeat => heartbeat.notificationStatus.isSome).getLast?

/-- The heartbeat begins a segment: it is an `on`, and the last status before it is not there, is
an `off`, or is an `on` at least 600 whole seconds earlier. -/
def startsSegment (previous : Option StoredHeartbeat) (heartbeat : StoredHeartbeat) : Prop :=
  heartbeat.notificationStatus = some .on ∧ ∀ p ∈ previous, p.notificationStatus = some .off ∨
    p.notificationStatus = some .on ∧
      600 ≤ numSeconds (heartbeat.serverReceivedAt - p.serverReceivedAt)

instance (previous : Option StoredHeartbeat) (heartbeat : StoredHeartbeat) :
    Decidable (startsSegment previous heartbeat) :=
  inferInstanceAs (Decidable (_ ∧ ∀ p ∈ previous, _))

/-- The heartbeats that begin a segment, after some others. -/
def segmentStartsAfter (earlier : List StoredHeartbeat) :
    List StoredHeartbeat → List StoredHeartbeat
  | [] => []
  | heartbeat :: rest =>
      (if startsSegment (lastEngineHeartbeat earlier) heartbeat then [heartbeat] else []) ++
        segmentStartsAfter (earlier ++ [heartbeat]) rest

def segmentStarts (heartbeats : List StoredHeartbeat) : List StoredHeartbeat :=
  segmentStartsAfter [] heartbeats

theorem segmentStartsAfter_append (earlier heartbeats rest : List StoredHeartbeat) :
    segmentStartsAfter earlier (heartbeats ++ rest) =
      segmentStartsAfter earlier heartbeats ++ segmentStartsAfter (earlier ++ heartbeats) rest := by
  induction heartbeats generalizing earlier with
  | nil => simp [segmentStartsAfter]
  | cons heartbeat heartbeats ih => simp [segmentStartsAfter, ih]

/-- One more heartbeat. -/
theorem segmentStarts_concat (heartbeats : List StoredHeartbeat) (heartbeat : StoredHeartbeat) :
    segmentStarts (heartbeats ++ [heartbeat]) = segmentStarts heartbeats ++
      if startsSegment (lastEngineHeartbeat heartbeats) heartbeat then [heartbeat] else [] := by
  simp [segmentStarts, segmentStartsAfter_append, segmentStartsAfter]

theorem lastEngineHeartbeat_concat (heartbeats : List StoredHeartbeat)
    (heartbeat : StoredHeartbeat) :
    lastEngineHeartbeat (heartbeats ++ [heartbeat]) =
      if heartbeat.notificationStatus.isSome then some heartbeat
      else lastEngineHeartbeat heartbeats := by
  by_cases h : heartbeat.notificationStatus.isSome = true
  · simp [lastEngineHeartbeat, h]
  · simp [lastEngineHeartbeat, h]

theorem mem_of_lastEngineHeartbeat {heartbeats : List StoredHeartbeat}
    {heartbeat : StoredHeartbeat} (h : lastEngineHeartbeat heartbeats = some heartbeat) :
    heartbeat ∈ heartbeats ∧ heartbeat.notificationStatus.isSome = true :=
  List.mem_filter.1 (List.mem_of_getLast? h)

/-- A heartbeat that has just been gone through begins no segment. -/
theorem not_startsSegment_self (heartbeat : StoredHeartbeat) :
    ¬startsSegment (some heartbeat) heartbeat := by
  rintro ⟨hon, hprevious⟩
  have h := hprevious heartbeat rfl
  rw [hon, sub_self] at h
  simp [numSeconds] at h

/-! ### The bot beside one device -/

/-- The two passes of the loop that are about heartbeats. -/
inductive DevicePass where
  | heartbeatNotifications
  | staleEngineSessions
  deriving DecidableEq

/-- What happens beside the passes: the clock is set, a heartbeat of the device comes in, and
bindings and subscriptions change. -/
inductive BesideEvent where
  | setClock (now : ℤ)
  | heartbeat (row : StoredHeartbeat)
  | setTelegramUsers (users : List TelegramUser)
  | setTelegramSubscriptions (subscriptions : List Subscription)

/-- The heartbeats are those of the device, and their ids increase; their times and statuses are
whatever they are. -/
def World.deviceEnv (imei : String) (w : World) : BesideEvent → Option World
  | .setClock now => some { w with now := now }
  | .heartbeat row =>
      if row.imei = imei ∧ ∀ earlier ∈ w.deviceHeartbeats, earlier.id < row.id then
        some { w with deviceHeartbeats := w.deviceHeartbeats ++ [row] }
      else none
  | .setTelegramUsers users => some { w with telegramUsers := users }
  | .setTelegramSubscriptions subscriptions =>
      some { w with telegramSubscriptions := subscriptions }

/-- The bot beside the device, with its passes in any order. -/
def devicePasses (imei : String) :
    System Request Request.Reply World BesideEvent Outcome DevicePass where
  env := fun event w => w.deviceEnv imei event
  answer := fun outcome w r => w.answer outcome r
  main := fun
    | .heartbeatNotifications => processHeartbeatNotifications
    | .staleEngineSessions => processStaleEngineSessions

/-- The chat is the one that is bound to the device, and it has a subscription. -/
def World.OneSubscriber (w : World) (imei : String) (chatId : ℤ) : Prop :=
  fetchNotificationRecipientsForImei w.telegramUsers w.telegramSubscriptions w.now imei ≠ [] ∧
    ∀ recipient ∈ fetchNotificationRecipientsForImei w.telegramUsers w.telegramSubscriptions w.now
      imei, recipient = ⟨chatId, true⟩

instance (w : World) (imei : String) (chatId : ℤ) : Decidable (w.OneSubscriber imei chatId) :=
  inferInstanceAs (Decidable (_ ∧ _))

/-- Nothing fails, and the chat stays the one subscriber of the device. -/
def untroubled (imei : String) (chatId : ℤ) : Guard Request World BesideEvent Outcome where
  env := fun w event => ∀ w' ∈ w.deviceEnv imei event, w'.OneSubscriber imei chatId
  call := fun _ _ outcome => outcome.fails = false

/-- What always holds: the ids of the heartbeats increase, those beyond the id `since` are of the
device, and the chat is the one subscriber. -/
structure DeviceInv (imei : String) (chatId : ℤ) (since : ℕ) (w : World) : Prop where
  increasing : w.deviceHeartbeats.Pairwise fun a b => a.id < b.id
  ofDevice : ∀ row ∈ w.deviceHeartbeats, since < row.id → row.imei = imei
  oneSubscriber : w.OneSubscriber imei chatId

section Env

variable {imei : String} {chatId : ℤ} {since : ℕ} {w w' : World} {event : BesideEvent}

/-- The other processes write neither the sessions nor the notes nor the cursor, and a heartbeat
that is there stays there. -/
theorem of_deviceEnv (h : w.deviceEnv imei event = some w') :
    w'.telegramEngineSessions = w.telegramEngineSessions ∧
      w'.telegramDeviceNotifications = w.telegramDeviceNotifications ∧
      w'.lastNotifiedHeartbeatId = w.lastNotifiedHeartbeatId ∧ w'.returned = w.returned ∧
      (w'.deviceHeartbeats = w.deviceHeartbeats ∨
        ∃ row, row.imei = imei ∧ (∀ earlier ∈ w.deviceHeartbeats, earlier.id < row.id) ∧
          w'.deviceHeartbeats = w.deviceHeartbeats ++ [row]) := by
  cases event with
  | heartbeat row =>
      simp only [World.deviceEnv] at h
      split at h
      · rename_i hrow
        obtain rfl := Option.some.inj h
        exact ⟨rfl, rfl, rfl, rfl, Or.inr ⟨row, hrow.1, hrow.2, rfl⟩⟩
      · exact absurd h (by simp)
  | _ =>
      obtain rfl := Option.some.inj h
      exact ⟨rfl, rfl, rfl, rfl, Or.inl rfl⟩

theorem mem_deviceHeartbeats_of_env (h : w.deviceEnv imei event = some w') {row : StoredHeartbeat}
    (hrow : row ∈ w.deviceHeartbeats) : row ∈ w'.deviceHeartbeats := by
  obtain ⟨-, -, -, -, heq | ⟨new, -, -, heq⟩⟩ := of_deviceEnv h
  · rwa [heq]
  · rw [heq]
    exact List.mem_append_left _ hrow

theorem DeviceInv.env (h : DeviceInv imei chatId since w)
    (hg : (untroubled imei chatId).env w event) (hw : w.deviceEnv imei event = some w') :
    DeviceInv imei chatId since w' := by
  obtain ⟨-, -, -, -, heq | ⟨new, himei, hnew, heq⟩⟩ := of_deviceEnv hw
  · exact ⟨heq ▸ h.increasing, heq ▸ h.ofDevice, hg w' hw⟩
  · refine ⟨?_, ?_, hg w' hw⟩
    · rw [heq, List.pairwise_append]
      refine ⟨h.increasing, List.pairwise_singleton _ _, ?_⟩
      intro row hrow _ hlast
      obtain rfl := List.mem_singleton.1 hlast
      exact hnew row hrow
    · intro row hrow hsince
      rw [heq] at hrow
      rcases List.mem_append.1 hrow with hrow | hrow
      · exact h.ofDevice row hrow hsince
      · obtain rfl := List.mem_singleton.1 hrow
        exact himei

/-- No request writes what the invariant is about. -/
theorem DeviceInv.answer (h : DeviceInv imei chatId since w) (outcome : Outcome) (r : Request) :
    DeviceInv imei chatId since (w.answer outcome r).2 := by
  rcases w.answer_cases outcome r with hcase | hcase
  · rwa [hcase]
  · rw [hcase]
    cases r with
    | _ => exact ⟨h.increasing, h.ofDevice, h.oneSubscriber⟩

theorem DeviceInv.rowAt_id (h : DeviceInv imei chatId since w) {row : StoredHeartbeat}
    (hrow : row ∈ w.deviceHeartbeats) :
    rowAt StoredHeartbeat.id row.id w.deviceHeartbeats = some row := by
  have hunique : UniqueOn StoredHeartbeat.id w.deviceHeartbeats := by
    rw [UniqueOn, List.Nodup, List.pairwise_map]
    exact h.increasing.imp fun hlt => hlt.ne
  exact (rowAt_eq_some_iff hunique).2 ⟨hrow, rfl⟩

end Env

/-! ### Sessions and the note -/

/-- The columns of a session that are never written again: its device, its chat, the heartbeat
that triggered it and its beginning. -/
def EngineSession.opening (session : EngineSession) : String × ℤ × ℕ × ℤ :=
  (session.imei, session.chatId, session.triggerHeartbeatId, session.createdAt)

/-- The columns of the session for a heartbeat of the device. -/
def openingAt (imei : String) (chatId : ℤ) (heartbeat : StoredHeartbeat) : String × ℤ × ℕ × ℤ :=
  (imei, chatId, heartbeat.id, heartbeat.serverReceivedAt)

/-- One of the sessions after the first `n` is active. -/
def World.Riding (n : ℕ) (w : World) : Prop :=
  ∃ session ∈ w.telegramEngineSessions.drop n, session.sessionStatus.isActive = true

/-- What the tables say when the sessions created so far are those of the heartbeats `starts`, the
last heartbeat with a status is `last`, and the heartbeats of the pass are `seen`. -/
structure RidesNoted (old : List EngineSession) (imei : String) (chatId : ℤ)
    (seen starts : List StoredHeartbeat) (last : Option StoredHeartbeat) (w : World) : Prop where
  created : w.telegramEngineSessions.map EngineSession.opening =
    old.map EngineSession.opening ++ starts.map (openingAt imei chatId)
  note : (w.notificationState imei chatId).map (fun state =>
    (state.lastStatus, state.lastHeartbeatId)) =
      last.bind fun heartbeat => heartbeat.notificationStatus.map fun status =>
        (status, heartbeat.id)
  visible : Visible seen w

/-- The note of the chat is about the heartbeat. -/
inductive NotedAs (imei : String) (chatId : ℤ) :
    Option StoredHeartbeat → Option NotificationState → Prop
  | nothing : NotedAs imei chatId none none
  | noted {heartbeat : StoredHeartbeat} {state : NotificationState}
      (status : heartbeat.notificationStatus = some state.lastStatus)
      (id : state.lastHeartbeatId = heartbeat.id) (device : state.imei = imei)
      (chat : state.chatId = chatId) : NotedAs imei chatId (some heartbeat) (some state)

section Note

variable {old : List EngineSession} {imei : String} {chatId : ℤ}
  {seen starts : List StoredHeartbeat} {last : Option StoredHeartbeat} {w w' : World}

/-- Other columns of the sessions may be written. -/
theorem RidesNoted.of_opening (h : RidesNoted old imei chatId seen starts last w)
    (hsessions : w'.telegramEngineSessions.map EngineSession.opening =
      w.telegramEngineSessions.map EngineSession.opening)
    (hnotes : w'.telegramDeviceNotifications = w.telegramDeviceNotifications)
    (hrows : ∀ row ∈ w.deviceHeartbeats, row ∈ w'.deviceHeartbeats) :
    RidesNoted old imei chatId seen starts last w' := by
  refine ⟨hsessions.trans h.created, ?_, fun row hrow => hrows row (h.visible row hrow)⟩
  rw [World.notificationState, hnotes]
  exact h.note

theorem RidesNoted.env {event : BesideEvent} (h : RidesNoted old imei chatId seen starts last w)
    {imei' : String} (hw : w.deviceEnv imei' event = some w') :
    RidesNoted old imei chatId seen starts last w' := by
  obtain ⟨hsessions, hnotes, -, -, -⟩ := of_deviceEnv hw
  exact h.of_opening (congrArg _ hsessions) hnotes fun _ => mem_deviceHeartbeats_of_env hw

theorem RidesNoted.calm (h : RidesNoted old imei chatId seen starts last w) (outcome : Outcome)
    {r : Request} (hr : r.Calm) :
    RidesNoted old imei chatId seen starts last (w.execute outcome r).2 := by
  rcases execute_of_calm hr outcome w with hw | ⟨sessionId, messageId, rfl⟩
  · rwa [hw]
  · refine h.of_opening ?_ rfl fun _ hrow => hrow
    exact map_updateAt (by intro _; rfl) _ _ _

theorem RidesNoted.resolve (h : RidesNoted old imei chatId seen starts last w) (outcome : Outcome)
    (sessionId : ℕ) (status : SessionStatus) (endedAt : ℤ) :
    RidesNoted old imei chatId seen starts last
      (w.execute outcome (.resolveEngineSessionAt sessionId status endedAt)).2 := by
  refine h.of_opening ?_ rfl fun _ hrow => hrow
  exact map_updateAt (by intro _; rfl) _ _ _

/-- A session is created for the heartbeat. -/
theorem RidesNoted.create (h : RidesNoted old imei chatId seen starts last w) (outcome : Outcome)
    (heartbeat : StoredHeartbeat) (messageId : ℤ) :
    RidesNoted old imei chatId seen (starts ++ [heartbeat]) last
      (w.execute outcome (.createEngineSession imei chatId heartbeat.id messageId
        heartbeat.serverReceivedAt)).2 := by
  refine ⟨?_, h.note, h.visible⟩
  simp only [World.execute, List.map_append, h.created, List.append_assoc]
  rfl

theorem notificationState_upsert (outcome : Outcome) (state : NotificationState) :
    ((w.execute outcome (.upsertNotificationState state)).2).notificationState state.imei
      state.chatId = some state := by
  simp only [World.notificationState, World.execute, List.find?_append]
  have hnone : (w.telegramDeviceNotifications.filter fun row =>
      ¬(row.imei = state.imei ∧ row.chatId = state.chatId)).find? (fun row =>
        row.imei = state.imei ∧ row.chatId = state.chatId) = none := by
    rw [List.find?_eq_none]
    intro row hrow
    have hkey := of_decide_eq_true (List.mem_filter.1 hrow).2
    simp [hkey]
  rw [hnone]
  simp

/-- The heartbeat is noted. -/
theorem RidesNoted.upsert (h : RidesNoted old imei chatId seen starts last w) (outcome : Outcome)
    {heartbeat : StoredHeartbeat} {state : NotificationState}
    (hstate : NotedAs imei chatId (some heartbeat) (some state)) :
    RidesNoted old imei chatId seen starts (some heartbeat)
      (w.execute outcome (.upsertNotificationState state)).2 := by
  cases hstate with
  | noted hstatus hid himei hchat =>
      subst himei hchat
      refine ⟨h.created, ?_, h.visible⟩
      rw [notificationState_upsert]
      simp [hstatus, hid]

/-- The note is about the last heartbeat with a status. -/
theorem RidesNoted.notedAs (h : RidesNoted old imei chatId seen starts last w)
    (hlast : ∀ heartbeat ∈ last, heartbeat.notificationStatus.isSome = true) :
    NotedAs imei chatId last (w.notificationState imei chatId) := by
  have hnote := h.note
  cases last with
  | none =>
      rw [show w.notificationState imei chatId = none by simpa using hnote]
      exact .nothing
  | some heartbeat =>
      obtain ⟨status, hstatus⟩ := Option.isSome_iff_exists.1 (hlast heartbeat rfl)
      rw [Option.bind_some, hstatus, Option.map_some] at hnote
      obtain ⟨state, hstate, hpair⟩ := Option.map_eq_some_iff.1 hnote
      obtain ⟨rfl, hid⟩ := Prod.mk.inj hpair
      have hkey := List.find?_some hstate
      simp only [decide_eq_true_eq] at hkey
      rw [hstate]
      exact .noted hstatus hid hkey.1 hkey.2

/-- The created sessions are of the device and chat. -/
theorem RidesNoted.key_of_mem (h : RidesNoted old imei chatId seen starts last w)
    {session : EngineSession} (hsession : session ∈ w.telegramEngineSessions.drop old.length) :
    session.imei = imei ∧ session.chatId = chatId := by
  have hdrop : (w.telegramEngineSessions.drop old.length).map EngineSession.opening =
      starts.map (openingAt imei chatId) := by
    rw [List.map_drop, h.created]
    exact List.drop_left' (by simp)
  have hmem := List.mem_map_of_mem (f := EngineSession.opening) hsession
  rw [hdrop] at hmem
  obtain ⟨heartbeat, -, hopening⟩ := List.mem_map.1 hmem
  obtain ⟨himei, hrest⟩ := Prod.mk.inj hopening
  exact ⟨himei.symm, (Prod.mk.inj hrest).1.symm⟩

theorem RidesNoted.length_le (h : RidesNoted old imei chatId seen starts last w) :
    old.length ≤ w.telegramEngineSessions.length := by
  have hlength := congrArg List.length h.created
  simp only [List.length_map, List.length_append] at hlength
  omega

end Note

/-! ### What a pass owes -/

/-- The heartbeats after the id `since`, up to another one. -/
def World.heardUpTo (since last : ℕ) (w : World) : List StoredHeartbeat :=
  w.deviceHeartbeats.filter fun row => since < row.id ∧ row.id ≤ last

/-- The last status was an `on`. -/
def EngineOn (last : Option StoredHeartbeat) : Prop :=
  ∃ heartbeat ∈ last, heartbeat.notificationStatus = some .on

instance (last : Option StoredHeartbeat) : Decidable (EngineOn last) :=
  inferInstanceAs (Decidable (∃ heartbeat ∈ last, _))

/-- The sessions created after the `old` ones are those of the segments of the heartbeats, and,
under a condition, one of them is active exactly while the engine is on. -/
structure Segmented (old : List EngineSession) (imei : String) (chatId : ℤ) (quiet : Prop)
    (heard : List StoredHeartbeat) (w : World) : Prop where
  created : w.telegramEngineSessions.map EngineSession.opening =
    old.map EngineSession.opening ++ (segmentStarts heard).map (openingAt imei chatId)
  riding : quiet → (w.Riding old.length ↔ EngineOn (lastEngineHeartbeat heard))

/-- The heartbeats up to an id have been gone through before the id is stored. -/
def segmentOwes (old : List EngineSession) (imei : String) (chatId : ℤ) (since : ℕ) (quiet : Prop)
    (w : World) : Request → Prop
  | .setLastNotifiedHeartbeatId id => Segmented old imei chatId quiet (w.heardUpTo since id) w
  | _ => True

/-- The contract of the passes. -/
def segmentContract (old : List EngineSession) (imei : String) (chatId : ℤ) (since : ℕ)
    (quiet : Prop) : Contract Request Request.Reply World :=
  (devicePasses imei).contract (untroubled imei chatId) (DeviceInv imei chatId since)
    (segmentOwes old imei chatId since quiet)

/-- The program returns, and its value and the world satisfy the assertion. -/
def returning {α : Type} (J : α → World → Prop) : Option α → World → Prop
  | some a, w => J a w
  | none, _ => False

section Programs

variable {old : List EngineSession} {imei : String} {chatId : ℤ} {since : ℕ} {quiet : Prop}
  {seen starts : List StoredHeartbeat} {last : Option StoredHeartbeat} {w : World} {α β : Type}

theorem safe_returning_bind {p : BotM α} {f : α → BotM β} {J : α → World → Prop}
    {Q : Option β → World → Prop}
    (hp : (segmentContract old imei chatId since quiet).Safe p (returning J) w)
    (hf : ∀ a w, J a w → (segmentContract old imei chatId since quiet).Safe (f a) Q w) :
    (segmentContract old imei chatId since quiet).Safe (p >>= f) Q w := by
  refine Contract.safe_bind.2 (hp.mono ?_)
  rintro (_ | a) w h
  · exact h.elim
  · exact hf a w h

theorem safe_returning_attempt {p : BotM α} {J : World → Prop}
    (hp : (segmentContract old imei chatId since quiet).Safe p (returning fun _ => J) w) :
    (segmentContract old imei chatId since quiet).Safe p.attempt (returning fun _ => J) w := by
  refine Contract.safe_attempt.2 (hp.mono ?_)
  rintro (_ | _) w h
  · exact h.elim
  · exact h

theorem safe_returning_forM {f : β → BotM PUnit} (J : List β → World → Prop)
    (hf : ∀ b l w, J (b :: l) w →
      (segmentContract old imei chatId since quiet).Safe (f b) (returning fun _ => J l) w)
    {l : List β} (h : J l w) :
    (segmentContract old imei chatId since quiet).Safe (forM l f) (returning fun _ => J []) w := by
  induction l generalizing w with
  | nil => exact h
  | cons b l ih =>
      rw [List.forM_cons]
      exact safe_returning_bind (hf b l w h) fun _ _ h => ih h

theorem safe_returning_foldlM {f : α → β → BotM α} (J : List β → World → Prop)
    (hf : ∀ a b l w, J (b :: l) w →
      (segmentContract old imei chatId since quiet).Safe (f a b) (returning fun _ => J l) w)
    {l : List β} {a : α} (h : J l w) :
    (segmentContract old imei chatId since quiet).Safe (l.foldlM f a)
      (returning fun _ => J []) w := by
  induction l generalizing w a with
  | nil => exact h
  | cons b l ih =>
      rw [List.foldlM_cons]
      exact safe_returning_bind (hf a b l w h) fun _ _ h => ih h

/-- A request is answered. -/
theorem safe_answered {r : Request} {J : World → Prop} {K : r.Reply → World → Prop}
    (hJ : (segmentContract old imei chatId since quiet).Stable J) (h : J w)
    (howes : ∀ w, DeviceInv imei chatId since w → J w →
      segmentOwes old imei chatId since quiet w r)
    (hanswer : ∀ w outcome, DeviceInv imei chatId since w → J w →
      K (w.execute outcome r).1 (w.execute outcome r).2) :
    (segmentContract old imei chatId since quiet).Safe (ask r) (returning K) w := by
  refine Contract.safe_request ?_
  intro w₁ hw₁ hinv
  have h₁ : J w₁ := hJ.later hw₁ h
  refine ⟨howes w₁ hinv h₁, ?_⟩
  rintro x w₂ ⟨outcome, hfails, hx⟩ -
  have hfails : outcome.fails = false := hfails
  have hx : w₁.answer outcome r = (x, w₂) := hx
  rw [World.answer, hfails, Bool.false_and, if_neg Bool.false_ne_true] at hx
  obtain ⟨rfl, rfl⟩ := Prod.mk.inj hx
  exact hanswer w₁ outcome hinv h₁

theorem stable_of_env {J : World → Prop}
    (hJ : ∀ w w' event, w.deviceEnv imei event = some w' → J w → J w') :
    (segmentContract old imei chatId since quiet).Stable J := by
  rintro w w' ⟨event, -, -, hw⟩ h
  exact hJ w w' event hw h

/-- The others leave the assertion alone, and so does every request that writes no status. -/
structure Settled (imei : String) (J : World → Prop) : Prop where
  env : ∀ w w' event, w.deviceEnv imei event = some w' → J w → J w'
  calm : ∀ w outcome (r : Request), r.Calm → J w → J (w.execute outcome r).2

theorem settled_ridesNoted (imei' : String) :
    Settled imei' (RidesNoted old imei chatId seen starts last) where
  env := fun _ _ _ hw h => h.env hw
  calm := fun _ outcome _ hr h => h.calm outcome hr

theorem owes_of_calm {r : Request} (hr : r.Calm) (w : World) :
    segmentOwes old imei chatId since quiet w r := by
  cases r with
  | setLastNotifiedHeartbeatId id => exact hr.elim
  | _ => trivial

/-- A request that writes no status. -/
theorem safe_calm {r : Request} (hr : r.Calm) {J : World → Prop} (hJ : Settled imei J) (h : J w) :
    (segmentContract old imei chatId since quiet).Safe (ask r) (returning fun _ => J) w :=
  safe_answered (stable_of_env hJ.env) h (fun w _ _ => owes_of_calm hr w)
    fun w outcome _ h => hJ.calm w outcome r hr h

/-! ### Finishing sessions -/

/-- Some sessions are being finished: the active ones of the device and chat are among those that
are left. -/
def AmongLeft (imei : String) (chatId : ℤ) (sessions : List EngineSession) (w : World) : Prop :=
  ∀ row ∈ w.telegramEngineSessions, row.isActiveOf imei chatId = true →
    row.id ∈ sessions.map EngineSession.id

theorem AmongLeft.calm {sessions : List EngineSession} (h : AmongLeft imei chatId sessions w)
    (outcome : Outcome) {r : Request} (hr : r.Calm) :
    AmongLeft imei chatId sessions (w.execute outcome r).2 := by
  rcases execute_of_calm hr outcome w with hw | ⟨sessionId, messageId, rfl⟩
  · rwa [hw]
  · intro row hrow hactive
    obtain ⟨row', hrow', rfl⟩ := mem_updateAt.1 hrow
    split at hactive
    · simpa [*] using h row' hrow' hactive
    · simpa [*] using h row' hrow' hactive

/-- The first session is finished. -/
theorem AmongLeft.resolve {session : EngineSession} {sessions : List EngineSession}
    (h : AmongLeft imei chatId (session :: sessions) w) (outcome : Outcome) (endedAt : ℤ) :
    AmongLeft imei chatId sessions
      (w.execute outcome (.resolveEngineSessionAt session.id .finished endedAt)).2 := by
  intro row hrow hactive
  obtain ⟨row', hrow', rfl⟩ := mem_updateAt.1 hrow
  split at hactive
  · simp [EngineSession.isActiveOf, SessionStatus.isActive] at hactive
  · rename_i hid
    have hmem := h row' hrow' hactive
    rw [if_neg hid]
    simpa [hid] using hmem

/-- Some sessions are being finished, all those of the chat if that is to be known, and what the
tables say stays. -/
def FinishingNoted (old : List EngineSession) (imei : String) (chatId : ℤ) (all : Prop)
    (seen starts : List StoredHeartbeat) (last : Option StoredHeartbeat)
    (sessions : List EngineSession) (w : World) : Prop :=
  RidesNoted old imei chatId seen starts last w ∧ (all → AmongLeft imei chatId sessions w)

theorem settled_finishingNoted {all : Prop} (sessions : List EngineSession) :
    Settled imei (FinishingNoted old imei chatId all seen starts last sessions) where
  env := by
    rintro w w' event hw ⟨hnoted, hleft⟩
    refine ⟨hnoted.env hw, ?_⟩
    rw [AmongLeft, (of_deviceEnv hw).1]
    exact hleft
  calm := fun _ outcome _ hr h => ⟨h.1.calm outcome hr, fun hall => (h.2 hall).calm outcome hr⟩

section Finish

variable {chat : ℤ} {device : String} {session : EngineSession} {sessions : List EngineSession}
  {endedAt : ℤ} {sendAlert : Bool} {all : Prop}

theorem safe_resolve
    (h : FinishingNoted old imei chatId all seen starts last (session :: sessions) w) :
    (segmentContract old imei chatId since quiet).Safe
      (ask (.resolveEngineSessionAt session.id .finished endedAt))
      (returning fun _ => FinishingNoted old imei chatId all seen starts last sessions) w := by
  refine safe_answered (stable_of_env (settled_finishingNoted _).env) h (fun _ _ _ => trivial) ?_
  intro w outcome _ h
  exact ⟨h.1.resolve outcome _ _ _, fun hall => (h.2 hall).resolve outcome endedAt⟩

theorem safe_clearConfirmation {J : World → Prop} (hJ : Settled imei J) (h : J w) :
    (segmentContract old imei chatId since quiet).Safe (clearConfirmationKeyboard chat session)
      (returning fun _ => J) w := by
  unfold clearConfirmationKeyboard
  split
  · exact safe_returning_bind (safe_returning_attempt (safe_calm (by trivial) hJ h)) fun _ _ h => h
  · exact h

theorem safe_theftAlert {J : World → Prop} (hJ : Settled imei J) (h : J w) :
    (segmentContract old imei chatId since quiet).Safe
      (sendTheftEngineOffAlert chat session endedAt sendAlert) (returning fun _ => J) w := by
  unfold sendTheftEngineOffAlert
  split
  · exact safe_returning_bind (safe_calm (by trivial) hJ h) fun _ _ h => h
  · exact h

theorem safe_rideSummary {J : World → Prop} (hJ : Settled imei J) (h : J w)
    (summary : Option RideSummary) (finishedMessageId : ℤ) :
    (segmentContract old imei chatId since quiet).Safe
      (sendRideSummary chat session endedAt summary finishedMessageId)
        (returning fun _ => J) w := by
  unfold sendRideSummary
  split
  · refine safe_returning_bind (safe_calm (by trivial) hJ h) ?_
    intro messageId w h
    exact safe_returning_bind (safe_calm (by trivial) hJ h) fun _ _ h => h
  · exact h

/-- One session is finished, whatever it takes. -/
theorem safe_finishRide
    (h : FinishingNoted old imei chatId all seen starts last (session :: sessions) w) :
    (segmentContract old imei chatId since quiet).Safe
      (finishRideSessionAndSendSummary chat device session endedAt sendAlert)
      (returning fun _ => FinishingNoted old imei chatId all seen starts last sessions) w := by
  have hJ : Settled imei
      (FinishingNoted old imei chatId all seen starts last (session :: sessions)) :=
    settled_finishingNoted _
  unfold finishRideSessionAndSendSummary
  cases session.rideStatusMessageId with
  | some messageId => exact safe_returning_bind (safe_resolve h) fun _ _ h => h
  | none =>
      -- the messages, and what is read for them
      refine safe_returning_bind (safe_calm (by trivial) hJ h) ?_
      intro finishedMessageId w h
      refine safe_returning_bind (safe_calm (by trivial) hJ h) ?_
      intro summary w h
      refine safe_returning_bind (safe_calm (by trivial) hJ h) ?_
      intro _ w h
      refine safe_returning_bind (safe_theftAlert hJ h) ?_
      intro _ w h
      refine safe_returning_bind (safe_rideSummary hJ h _ _) ?_
      intro messageId w h
      -- the one write
      refine safe_returning_bind
        (J := fun _ => FinishingNoted old imei chatId all seen starts last sessions)
        ?_ fun _ _ h => h
      exact safe_returning_bind (safe_calm (by trivial) hJ h) fun _ _ h => safe_resolve h

/-- All of them are finished. -/
theorem safe_finishActive (h : FinishingNoted old imei chatId all seen starts last sessions w) :
    (segmentContract old imei chatId since quiet).Safe
      (finishActiveEngineSessions chat device sessions endedAt sendAlert)
      (returning fun _ => FinishingNoted old imei chatId all seen starts last []) w := by
  refine safe_returning_foldlM (fun sessions => FinishingNoted old imei chatId all seen starts last
    sessions) ?_ h
  intro _ session sessions w h
  refine safe_returning_bind (safe_clearConfirmation (settled_finishingNoted _) h) ?_
  intro _ w h
  exact safe_returning_bind (safe_finishRide h) fun _ _ h => h

end Finish

/-! ### One heartbeat for the chat -/

/-- What the tables say, and whether a created session is active. -/
def Tracked (old : List EngineSession) (imei : String) (chatId : ℤ) (quiet : Prop)
    (seen starts : List StoredHeartbeat) (last : Option StoredHeartbeat) (w : World) : Prop :=
  RidesNoted old imei chatId seen starts last w ∧ (quiet → (w.Riding old.length ↔ EngineOn last))

theorem riding_calm {n : ℕ} (outcome : Outcome) {r : Request} (hr : r.Calm) :
    (w.execute outcome r).2.Riding n ↔ w.Riding n := by
  rcases execute_of_calm hr outcome w with hw | ⟨sessionId, messageId, rfl⟩
  · rw [hw]
  · have hstatus : ∀ row : EngineSession, (if row.id = sessionId then
        { row with rideStatusMessageId := some messageId } else row).sessionStatus =
          row.sessionStatus := by
      intro row
      split
      · rfl
      · rfl
    simp only [World.Riding, World.execute, updateAt, ← List.map_drop, List.mem_map,
      exists_exists_and_eq_and, hstatus]

theorem settled_tracked : Settled imei (Tracked old imei chatId quiet seen starts last) where
  env := by
    rintro w w' event hw ⟨hnoted, hriding⟩
    refine ⟨hnoted.env hw, ?_⟩
    rw [World.Riding, (of_deviceEnv hw).1]
    exact hriding
  calm := by
    rintro w outcome r hr ⟨hnoted, hriding⟩
    refine ⟨hnoted.calm outcome hr, ?_⟩
    rw [riding_calm outcome hr]
    exact hriding

theorem Settled.and {J K : World → Prop} (hJ : Settled imei J) (hK : Settled imei K) :
    Settled imei fun w => J w ∧ K w where
  env := fun w w' event hw h => ⟨hJ.env w w' event hw h.1, hK.env w w' event hw h.2⟩
  calm := fun w outcome r hr h => ⟨hJ.calm w outcome r hr h.1, hK.calm w outcome r hr h.2⟩

/-- The time of an `on`. -/
def onTime (last : Option StoredHeartbeat) : Option ℤ :=
  (last.filter fun heartbeat => heartbeat.notificationStatus = some .on).map
    StoredHeartbeat.serverReceivedAt

/-- What the bot decides is where a segment begins. -/
theorem shouldStart_iff {heartbeat : StoredHeartbeat}
    (hon : heartbeat.notificationStatus = some .on)
    (hlast : ∀ previous ∈ last, previous.notificationStatus.isSome = true) :
    shouldStartNewEngineOnSession heartbeat.serverReceivedAt (onTime last) = true ↔
      startsSegment last heartbeat := by
  cases last with
  | none => simp [startsSegment, hon, onTime, shouldStartNewEngineOnSession]
  | some previous =>
      obtain ⟨status, hstatus⟩ := Option.isSome_iff_exists.1 (hlast previous rfl)
      cases status with
      | on =>
          have htime : onTime (some previous) = some previous.serverReceivedAt := by
            simp [onTime, Option.filter_some, hstatus]
          rw [htime, shouldStartNewEngineOnSession, decide_eq_true_iff]
          simp [startsSegment, hon, hstatus, engineOnAlertCooldownSecs]
      | off =>
          simp [startsSegment, hon, hstatus, onTime, Option.filter_some,
            shouldStartNewEngineOnSession]

/-- The time of the last `on` is read from the table of heartbeats. -/
theorem safe_lastOn {J : World → Prop} (hJ : Settled imei J) (h : J w)
    (hvisible : ∀ w, J w → Visible seen w) (hlast : ∀ previous ∈ last, previous ∈ seen)
    {existing : Option NotificationState} (hnote : NotedAs imei chatId last existing) :
    (segmentContract old imei chatId since quiet).Safe (lastOnHeartbeatAt existing)
      (returning fun time w => J w ∧ time = onTime last) w := by
  unfold lastOnHeartbeatAt
  cases hnote with
  | nothing => exact ⟨h, rfl⟩
  | @noted previous state hstatus hid _ _ =>
      by_cases hon : state.lastStatus = .on
      · rw [Option.filter_some, if_pos (by simpa using hon)]
        refine safe_answered (stable_of_env hJ.env) h (fun _ _ _ => trivial) ?_
        intro w outcome hinv h
        refine ⟨h, ?_⟩
        have hrow := hinv.rowAt_id (hvisible w h previous (hlast previous rfl))
        simp [World.execute, hid, hrow, onTime, hstatus, hon, Option.filter_some]
      · rw [Option.filter_some, if_neg (by simpa using hon)]
        exact ⟨h, by simp [onTime, hstatus, hon, Option.filter_some]⟩

variable {heartbeat : StoredHeartbeat}

theorem safe_note {J : World → Prop} (hJ : Settled imei J) (h : J w)
    (hnoted : ∀ w, J w → RidesNoted old imei chatId seen starts last w)
    (hriding : ∀ w, J w → quiet → (w.Riding old.length ↔ EngineOn (some heartbeat)))
    {state : NotificationState} (hstate : NotedAs imei chatId (some heartbeat) (some state)) :
    (segmentContract old imei chatId since quiet).Safe (ask (.upsertNotificationState state))
      (returning fun _ => Tracked old imei chatId quiet seen starts (some heartbeat)) w := by
  refine safe_answered (stable_of_env hJ.env) h (fun _ _ _ => trivial) ?_
  intro w outcome _ h
  exact ⟨(hnoted w h).upsert outcome hstate, hriding w h⟩

theorem settled_riding (n : ℕ) : Settled imei (World.Riding n) where
  env := by
    intro w w' event hw h
    rw [World.Riding, (of_deviceEnv hw).1]
    exact h
  calm := fun _ outcome _ hr h => (riding_calm outcome hr).2 h

/-- A session is created, once the others are finished. -/
theorem safe_start {sessions : List EngineSession} (hon : heartbeat.notificationStatus = some .on)
    (h : FinishingNoted old heartbeat.imei chatId True seen starts last sessions w) :
    (segmentContract old heartbeat.imei chatId since quiet).Safe
      (startEngineSession heartbeat chatId sessions)
      (returning fun _ => Tracked old heartbeat.imei chatId quiet seen (starts ++ [heartbeat])
        (some heartbeat)) w := by
  refine safe_returning_bind (safe_finishActive h) ?_
  rintro _ w ⟨h, -⟩
  refine safe_returning_bind (safe_calm (by trivial) (settled_ridesNoted _) h) ?_
  intro messageId w h
  have hcreated : (segmentContract old heartbeat.imei chatId since quiet).Safe
      (ask (.createEngineSession heartbeat.imei chatId heartbeat.id messageId
        heartbeat.serverReceivedAt))
      (returning fun _ w =>
        RidesNoted old heartbeat.imei chatId seen (starts ++ [heartbeat]) last w ∧
          w.Riding old.length) w := by
    refine safe_answered (stable_of_env (settled_ridesNoted _).env) h (fun _ _ _ => trivial) ?_
    intro w outcome _ h
    refine ⟨h.create outcome heartbeat messageId, ?_⟩
    simp only [World.Riding, World.execute, List.drop_append_of_le_length h.length_le]
    exact ⟨_, List.mem_append_right _ (List.mem_singleton_self _), rfl⟩
  refine safe_returning_bind hcreated ?_
  intro _ w h
  refine safe_note ((settled_ridesNoted _).and (settled_riding _)) h (fun _ h => h.1) ?_
    (.noted hon rfl rfl rfl)
  intro w h _
  exact iff_of_true h.2 ⟨heartbeat, rfl, hon⟩

/-- The sessions have just been read. -/
theorem amongLeft_fetch :
    AmongLeft imei chatId (fetchActiveEngineSessions w.telegramEngineSessions imei chatId) w := by
  intro row hrow hactive
  obtain ⟨himei, hchat, hactive⟩ := isActiveOf_eq_true.1 hactive
  exact List.mem_map_of_mem (mem_fetchActiveEngineSessions.2 ⟨hrow, himei, hchat, hactive⟩)

/-- No created session is active once all are finished. -/
theorem FinishingNoted.not_riding (h : FinishingNoted old imei chatId True seen starts last [] w) :
    ¬w.Riding old.length := by
  rintro ⟨session, hsession, hactive⟩
  obtain ⟨himei, hchat⟩ := h.1.key_of_mem hsession
  have hmem := h.2 trivial session (List.mem_of_mem_drop hsession)
    (isActiveOf_eq_true.2 ⟨himei, hchat, hactive⟩)
  exact absurd hmem (by simp)

/-- The active sessions are read. -/
theorem safe_fetchActive (h : Tracked old imei chatId quiet seen starts last w) :
    (segmentContract old imei chatId since quiet).Safe
      (ask (.fetchActiveEngineSessions imei chatId))
      (returning fun sessions w => Tracked old imei chatId quiet seen starts last w ∧
        FinishingNoted old imei chatId True seen starts last sessions w) w := by
  refine safe_answered (stable_of_env settled_tracked.env) h (fun _ _ _ => trivial) ?_
  intro w outcome _ h
  exact ⟨h, h.1, fun _ => amongLeft_fetch⟩

/-- An `on`. -/
theorem safe_engineOn (hon : heartbeat.notificationStatus = some .on)
    (hlast : ∀ previous ∈ last, previous ∈ seen ∧ previous.notificationStatus.isSome = true)
    {existing : Option NotificationState} (hnote : NotedAs heartbeat.imei chatId last existing)
    (h : Tracked old heartbeat.imei chatId quiet seen starts last w) :
    (segmentContract old heartbeat.imei chatId since quiet).Safe
      (processEngineOnNotificationForChat heartbeat chatId existing)
      (returning fun _ => Tracked old heartbeat.imei chatId quiet seen
        (starts ++ if startsSegment last heartbeat then [heartbeat] else [])
        (some heartbeat)) w := by
  refine safe_returning_bind (safe_fetchActive h) ?_
  intro sessions w h
  have hJ : Settled heartbeat.imei fun w =>
      Tracked old heartbeat.imei chatId quiet seen starts last w ∧
        FinishingNoted old heartbeat.imei chatId True seen starts last sessions w :=
    settled_tracked.and (settled_finishingNoted _)
  refine safe_returning_bind (safe_lastOn hJ h (fun _ h => h.1.1.visible)
    (fun previous hprevious => (hlast previous hprevious).1) hnote) ?_
  rintro _ w ⟨h, rfl⟩
  have hstart := shouldStart_iff hon fun previous hprevious => (hlast previous hprevious).2
  by_cases hsegment : startsSegment last heartbeat
  · rw [if_pos hsegment, if_pos (hstart.2 hsegment)]
    exact safe_start hon h.2
  · rw [if_neg hsegment, if_neg (fun h => hsegment (hstart.1 h)), List.append_nil]
    refine safe_note settled_tracked h.1 (fun _ h => h.1) ?_ (.noted hon rfl rfl rfl)
    intro w h hquiet
    -- a segment goes on only after an `on`
    refine (h.2 hquiet).trans (iff_of_true ?_ ⟨heartbeat, rfl, hon⟩)
    by_contra hoff
    refine hsegment ⟨hon, ?_⟩
    intro previous hprevious
    left
    obtain ⟨status, hstatus⟩ := Option.isSome_iff_exists.1 (hlast previous hprevious).2
    cases status with
    | on => exact absurd ⟨previous, hprevious, hstatus⟩ hoff
    | off => exact hstatus

/-- An `off` that the chat has not been told about. -/
theorem safe_engineOff (hoff : heartbeat.notificationStatus = some .off)
    (h : Tracked old heartbeat.imei chatId quiet seen starts last w) :
    (segmentContract old heartbeat.imei chatId since quiet).Safe
      (processEngineOffNotificationForChat heartbeat .off chatId)
      (returning fun _ => Tracked old heartbeat.imei chatId quiet seen starts
        (some heartbeat)) w := by
  refine safe_returning_bind (safe_fetchActive h) ?_
  rintro sessions w ⟨-, h⟩
  refine safe_returning_bind
    (J := fun _ => FinishingNoted old heartbeat.imei chatId True seen starts last []) ?_ ?_
  · refine safe_returning_bind (safe_finishActive h) ?_
    rintro (_ | messageId) w h
    · exact safe_calm (by trivial) (settled_finishingNoted _) h
    · exact h
  · intro messageId w h
    refine safe_note (settled_finishingNoted _) h (fun _ h => h.1) ?_ (.noted hoff rfl rfl rfl)
    intro w h _
    refine iff_of_false h.not_riding ?_
    rintro ⟨_, hsome, hon⟩
    obtain rfl := Option.some.inj hsome
    simp [hoff] at hon

/-- **One heartbeat with a status**: it is noted, and a session is created if it begins a
segment. -/
theorem safe_processForChat {status : EngineStatus}
    (hstatus : heartbeat.notificationStatus = some status)
    (hlast : ∀ previous ∈ last, previous ∈ seen ∧ previous.notificationStatus.isSome = true)
    (h : Tracked old heartbeat.imei chatId quiet seen starts last w) :
    (segmentContract old heartbeat.imei chatId since quiet).Safe
      (processHeartbeatNotificationForChat heartbeat status chatId)
      (returning fun _ => Tracked old heartbeat.imei chatId quiet seen
        (starts ++ if startsSegment last heartbeat then [heartbeat] else [])
        (some heartbeat)) w := by
  refine safe_returning_bind (J := fun existing w =>
    Tracked old heartbeat.imei chatId quiet seen starts last w ∧
      NotedAs heartbeat.imei chatId last existing) ?_ ?_
  · refine safe_answered (stable_of_env settled_tracked.env) h (fun _ _ _ => trivial) ?_
    intro w outcome _ h
    exact ⟨h, h.1.notedAs fun previous hprevious => (hlast previous hprevious).2⟩
  rintro existing w ⟨h, hnote⟩
  cases status with
  | on => exact safe_engineOn hstatus hlast hnote h
  | off =>
      have hsegment : ¬startsSegment last heartbeat := fun hsegment => by
        simp [startsSegment, hstatus] at hsegment
      rw [if_neg hsegment, List.append_nil]
      cases hnote with
      | nothing => exact safe_engineOff hstatus h
      | @noted previous state hprevious hid hdevice hchat =>
          by_cases hold : state.lastStatus = .off
          · -- the chat has been told
            simp only [Option.filter_some, hold, decide_true, if_true]
            refine safe_note settled_tracked h (fun _ h => h.1) ?_
              (.noted (by rw [hstatus, hold]) rfl hdevice hchat)
            intro w h hquiet
            refine (h.2 hquiet).trans ?_
            simp [EngineOn, hprevious, hstatus, hold]
          · simp only [Option.filter_some, hold, decide_false, Bool.false_eq_true, if_false]
            exact safe_engineOff hstatus h

/-- The recipients are the chat, and it does no harm to tell it twice. -/
theorem safe_notifyAll {status : EngineStatus}
    (hstatus : heartbeat.notificationStatus = some status) (hseen : heartbeat ∈ seen)
    (hlast : ∀ previous ∈ last, previous ∈ seen ∧ previous.notificationStatus.isSome = true)
    {recipients : List NotificationRecipient} (hne : recipients ≠ [])
    (hall : ∀ recipient ∈ recipients, recipient = ⟨chatId, true⟩)
    (h : Tracked old heartbeat.imei chatId quiet seen starts last w) :
    (segmentContract old heartbeat.imei chatId since quiet).Safe
      (forM recipients (notifyRecipient heartbeat status))
      (returning fun _ => Tracked old heartbeat.imei chatId quiet seen
        (starts ++ if startsSegment last heartbeat then [heartbeat] else [])
        (some heartbeat)) w := by
  have hnotify : ∀ {starts last w},
      (∀ previous ∈ last, previous ∈ seen ∧ previous.notificationStatus.isSome = true) →
      Tracked old heartbeat.imei chatId quiet seen starts last w →
        (segmentContract old heartbeat.imei chatId since quiet).Safe
          (notifyRecipient heartbeat status ⟨chatId, true⟩)
          (returning fun _ => Tracked old heartbeat.imei chatId quiet seen
            (starts ++ if startsSegment last heartbeat then [heartbeat] else [])
            (some heartbeat)) w := by
    intro starts last w hlast h
    exact safe_returning_bind
      (safe_returning_attempt (safe_processForChat hstatus hlast h)) fun _ _ h => h
  cases recipients with
  | nil => exact absurd rfl hne
  | cons recipient recipients =>
      obtain rfl := hall recipient List.mem_cons_self
      rw [List.forM_cons]
      refine safe_returning_bind (hnotify hlast h) ?_
      intro _ w h
      have hself : ∀ previous ∈ some heartbeat,
          previous ∈ seen ∧ previous.notificationStatus.isSome = true := by
        intro previous hprevious
        obtain rfl := Option.some.inj hprevious
        exact ⟨hseen, by simp [hstatus]⟩
      have hrest : ∀ recipient ∈ recipients, recipient = ⟨chatId, true⟩ :=
        fun recipient hrecipient => hall recipient (List.mem_cons_of_mem _ hrecipient)
      clear hall hne
      induction recipients generalizing w with
      | nil => exact h
      | cons recipient recipients ih =>
          obtain rfl := hrest recipient List.mem_cons_self
          rw [List.forM_cons]
          refine safe_returning_bind (hnotify hself h) ?_
          intro _ w h
          rw [if_neg (not_startsSegment_self heartbeat), List.append_nil] at h
          exact ih w h fun recipient hrecipient =>
            hrest recipient (List.mem_cons_of_mem _ hrecipient)

/-- One more heartbeat has been gone through, whatever its status is. -/
theorem safe_notifyRecipients {heard : List StoredHeartbeat} (hseen : heartbeat ∈ seen)
    (hheard : ∀ previous ∈ heard, previous ∈ seen)
    {recipients : List NotificationRecipient} (hne : recipients ≠ [])
    (hall : ∀ recipient ∈ recipients, recipient = ⟨chatId, true⟩)
    (h : Tracked old heartbeat.imei chatId quiet seen (segmentStarts heard)
      (lastEngineHeartbeat heard) w) :
    (segmentContract old heartbeat.imei chatId since quiet).Safe
      (notifyRecipients heartbeat recipients)
      (returning fun _ => Tracked old heartbeat.imei chatId quiet seen
        (segmentStarts (heard ++ [heartbeat])) (lastEngineHeartbeat (heard ++ [heartbeat]))) w := by
  rw [segmentStarts_concat, lastEngineHeartbeat_concat]
  unfold notifyRecipients
  cases hstatus : heartbeat.notificationStatus with
  | none =>
      have hsegment : ¬startsSegment (lastEngineHeartbeat heard) heartbeat := fun hsegment => by
        simp [startsSegment, hstatus] at hsegment
      rw [if_neg hsegment, List.append_nil]
      exact h
  | some status =>
      refine safe_notifyAll hstatus hseen ?_ hne hall h
      intro previous hprevious
      obtain ⟨hmem, hsome⟩ := mem_of_lastEngineHeartbeat hprevious
      exact ⟨hheard previous hmem, hsome⟩

end Programs

end Gt06
