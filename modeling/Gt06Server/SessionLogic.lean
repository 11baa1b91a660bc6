/-
**What the bot pays for its writes.**

The programs of the bot loop are gone through once, request by request, for the sessions of a
device and chat and for whatever else is to be kept with them: the end of a session may have to
satisfy a condition, and so may the heartbeats that a pass has still to go through.

Main definitions:

* `Gt06.SessionTerms` — what else is kept with the sessions;
* `Gt06.sessionContract` — the contract of the bot under such terms;
* `Gt06.SessionTerms.Frame`, `Gt06.SessionTerms.Steady` — assertions that no write of a session,
  or no write of a status, touches.

Main results:

* `Gt06.SessionTerms.safe_processEngineOnNotificationForChat`,
  `Gt06.SessionTerms.safe_processEngineOffNotificationForChat` — the sessions a notification leaves;
* `Gt06.SessionTerms.safe_runIteration` — **the loop pays for its requests**.
-/

import Gt06Server.EngineSessions
import Gt06Server.HeartbeatCursor

set_option relaxedAutoImplicit false
set_option autoImplicit false

namespace Gt06

open Await Relational

/-! ### The terms of the programs -/

/-- The request writes none of the rows that the sessions depend on, but for the message id of a
ride. -/
def Request.Calm : Request → Prop
  | .setLastNotifiedHeartbeatId _ => False
  | .fetchNewHeartbeats _ => False
  | .upsertNotificationState _ => False
  | .createEngineSession _ _ _ _ _ => False
  | .updateEngineSessionStatus _ _ => False
  | .resolveEngineSessionAt _ _ _ => False
  | _ => True

theorem execute_of_calm {r : Request} (hr : r.Calm) (outcome : Outcome) (w : World) :
    (w.execute outcome r).2 = w ∨
      ∃ sessionId messageId, r = .setEngineSessionRideStatusMessageId sessionId messageId := by
  cases r with
  | setEngineSessionRideStatusMessageId sessionId messageId =>
      exact Or.inr ⟨sessionId, messageId, rfl⟩
  | setLastNotifiedHeartbeatId id => exact hr.elim
  | fetchNewHeartbeats afterId => exact hr.elim
  | upsertNotificationState state => exact hr.elim
  | createEngineSession imei chatId triggerHeartbeatId promptMessageId createdAt => exact hr.elim
  | updateEngineSessionStatus sessionId status => exact hr.elim
  | resolveEngineSessionAt sessionId status resolvedAt => exact hr.elim
  | _ => exact Or.inl rfl

/-- The request owes nothing but what it owes for the sessions. -/
def Request.Free : Request → Prop
  | .setLastNotifiedHeartbeatId _ => False
  | .upsertNotificationState _ => False
  | .createEngineSession _ _ _ _ _ => False
  | .resolveEngineSessionAt _ _ _ => False
  | _ => True

/-- The time of the last heartbeat noted for the chat, if that was an `on` and is known. -/
def lastOnTime (rows : List StoredHeartbeat) (existing : Option NotificationState) : Option ℤ :=
  (existing.filter fun state => state.lastStatus = .on).bind fun state =>
    (rowAt StoredHeartbeat.id state.lastHeartbeatId rows).map StoredHeartbeat.serverReceivedAt

/-- What else is kept with the sessions: the invariant `inv`, the dues `owes`, a condition `EndOk`
on the beginning and the end of a session, and a condition `Due` on the heartbeats that a pass has
still to go through. -/
structure SessionTerms (env : EnvEvent → World → Option World)
    (g : Guard Request World EnvEvent Outcome) (inv : World → Prop)
    (owes : World → Request → Prop) (EndOk : ℤ → ℤ → Prop)
    (Due : List StoredHeartbeat → World → Prop) : Prop where
  env : ∀ {event w w'}, env event w = some w' → w.env event = some w'
  sessionInv : ∀ {w}, inv w → SessionInv w
  free : ∀ {w} {r : Request}, r.Free → owes w r
  opens : ∀ {w heartbeat rest chatId messageId}, inv w → Due (heartbeat :: rest) w →
    w.activeSessionCount heartbeat.imei chatId = 0 →
      owes w (.createEngineSession heartbeat.imei chatId heartbeat.id messageId
        heartbeat.serverReceivedAt)
  ends : ∀ {w row endedAt}, inv w → row ∈ w.telegramEngineSessions →
    row.sessionStatus.isActive = true → EndOk row.createdAt endedAt →
      owes w (.resolveEngineSessionAt row.id .finished endedAt)
  notes : ∀ {w heartbeat rest} {state : NotificationState}, inv w → Due (heartbeat :: rest) w →
    state.lastHeartbeatId = heartbeat.id → owes w (.upsertNotificationState state)
  advances : ∀ {w heartbeat rest}, inv w → Due (heartbeat :: rest) w →
    owes w (.setLastNotifiedHeartbeatId heartbeat.id)
  endsNow : ∀ {w row}, inv w → row ∈ w.telegramEngineSessions → EndOk row.createdAt w.now
  endsDue : ∀ {w heartbeat rest row}, inv w → Due (heartbeat :: rest) w →
    row ∈ w.telegramEngineSessions → row.imei = heartbeat.imei →
      EndOk row.createdAt heartbeat.serverReceivedAt
  endsStale : ∀ {w row heartbeat}, inv w → row ∈ w.telegramEngineSessions →
    fetchLatestHeartbeatForImei w.deviceHeartbeats row.imei = some heartbeat →
      EndOk row.createdAt heartbeat.serverReceivedAt
  due_env : ∀ {w w' event heartbeats}, inv w → Due heartbeats w → w.env event = some w' →
    Due heartbeats w'
  due_same : ∀ {w w' heartbeats}, Due heartbeats w → SameHeartbeats w w' → Due heartbeats w'
  due_fetch : ∀ {w outcome}, inv w →
    Due (fetchNewHeartbeats w.deviceHeartbeats (w.lastNotifiedHeartbeatId.getD 0))
      (w.execute outcome (.fetchNewHeartbeats (w.lastNotifiedHeartbeatId.getD 0))).2
  due_advance : ∀ {w outcome heartbeat rest}, inv w → Due (heartbeat :: rest) w →
    Due rest (w.execute outcome (.setLastNotifiedHeartbeatId heartbeat.id)).2

/-- The contract of the bot under such terms. -/
def sessionContract (env : EnvEvent → World → Option World)
    (g : Guard Request World EnvEvent Outcome) (inv : World → Prop)
    (owes : World → Request → Prop) : Contract Request Request.Reply World :=
  (botAmong env).contract g inv fun w r => sessionPre w r ∧ owes w r

namespace SessionTerms

section Programs

variable {env : EnvEvent → World → Option World} {g : Guard Request World EnvEvent Outcome}
  {inv : World → Prop} {owes : World → Request → Prop} {EndOk : ℤ → ℤ → Prop}
  {Due : List StoredHeartbeat → World → Prop} (T : SessionTerms env g inv owes EndOk Due)
  {chatId : ℤ} {imei : String} {session : EngineSession} {sessions : List EngineSession}
  {endedAt : ℤ} {sendAlert : Bool} {heartbeat : StoredHeartbeat} {status : EngineStatus}
  {rest : List StoredHeartbeat} {w : World}

/-- The rule for one request that is sent under a stable assertion. -/
theorem safe_ask_of {r : Request} {J : World → Prop} {Q : Option r.Reply → World → Prop}
    (hJ : (sessionContract env g inv owes).Stable J) (h : J w)
    (hpre : ∀ w, inv w → J w → sessionPre w r ∧ owes w r)
    (hnone : ∀ w, inv w → J w → Q none w)
    (hsome : ∀ w outcome, inv w → J w → inv (w.execute outcome r).2 →
      Q (some (w.execute outcome r).1) (w.execute outcome r).2) :
    (sessionContract env g inv owes).Safe (ask r) Q w := by
  refine safe_ask ?_
  intro w₁ hw₁ hinv
  have h₁ : J w₁ := hJ.later hw₁ h
  exact ⟨hpre w₁ hinv h₁, hnone w₁ hinv h₁, fun outcome _ => hsome w₁ outcome hinv h₁⟩

/-- The assertion is about the heartbeats, and no write of a session or a notification touches
it. -/
structure Frame (C : Contract Request Request.Reply World) (H : World → Prop) : Prop where
  stable : C.Stable H
  same : ∀ {w w'}, SameHeartbeats w w' → H w → H w'

/-- The assertion withstands everything but the writes of statuses. -/
structure Steady (C : Contract Request Request.Reply World) (J : World → Prop) : Prop where
  stable : C.Stable J
  calm : ∀ {w outcome} {r : Request}, r.Calm → J w → J (w.execute outcome r).2

include T in
theorem sameBotTables {w w' : World} (h : (sessionContract env g inv owes).rely w w') :
    World.SameBotTables w w' := by
  obtain ⟨event, -, -, hw⟩ := h
  exact World.sameBotTables_env (T.env hw)

theorem frame_true : Frame (sessionContract env g inv owes) fun _ => True :=
  ⟨fun _ _ _ _ => trivial, fun _ _ => trivial⟩

include T in
theorem frame_due (heartbeats : List StoredHeartbeat) :
    Frame (sessionContract env g inv owes) (Due heartbeats) := by
  constructor
  · rintro w w' ⟨event, hinv, -, hw⟩ h
    exact T.due_env hinv h (T.env hw)
  · intro w w' hsame h
    exact T.due_same h hsame

theorem Frame.steady {H : World → Prop} (hH : Frame (sessionContract env g inv owes) H) :
    Steady (sessionContract env g inv owes) H := by
  constructor
  · exact hH.stable
  · intro w outcome r hr h
    refine hH.same (sameHeartbeats_execute ?_ outcome w) h
    cases r with
    | setLastNotifiedHeartbeatId id => exact hr.elim
    | fetchNewHeartbeats afterId => exact hr.elim
    | _ => trivial

theorem Steady.and {J K : World → Prop} (hJ : Steady (sessionContract env g inv owes) J)
    (hK : Steady (sessionContract env g inv owes) K) :
    Steady (sessionContract env g inv owes) fun w => J w ∧ K w := by
  constructor
  · intro w w' hw h
    exact ⟨hJ.stable w w' hw h.1, hK.stable w w' hw h.2⟩
  · intro w outcome r hr h
    exact ⟨hJ.calm hr h.1, hK.calm hr h.2⟩

include T in
theorem steady_finishing (keys : Set (String × ℤ)) (sessions others : List EngineSession) :
    Steady (sessionContract env g inv owes) (Finishing keys sessions others) := by
  constructor
  · intro w w' hw h
    exact h.of_sameBotTables (T.sameBotTables hw)
  · intro w outcome r hr h
    rcases execute_of_calm hr outcome w with hw | ⟨sessionId, messageId, rfl⟩
    · rw [hw]
      exact h
    · exact h.setRideStatusMessageId sessionId messageId outcome

/-- How many sessions are active does not change without a write of a status. -/
theorem steady_count (T : SessionTerms env g inv owes EndOk Due) (imei : String) (chatId : ℤ)
    (n : ℕ) : Steady (sessionContract env g inv owes)
      fun w => w.activeSessionCount imei chatId = n := by
  constructor
  · intro w w' hw h
    rw [World.activeSessionCount, (T.sameBotTables hw).telegramEngineSessions]
    exact h
  · intro w outcome r hr h
    rcases execute_of_calm hr outcome w with hw | ⟨sessionId, messageId, rfl⟩
    · rw [hw]
      exact h
    · rw [← h]
      change List.countP _ (List.map _ _) = _
      rw [List.countP_map]
      refine List.countP_congr ?_
      intro row _
      simp only [Function.comp_apply]
      split
      · exact Iff.rfl
      · exact Iff.rfl

include T in
theorem owes_of_calm {r : Request} (hr : r.Calm) (w : World) : sessionPre w r ∧ owes w r := by
  constructor
  · cases r with
    | createEngineSession imei chatId triggerHeartbeatId promptMessageId createdAt => exact hr.elim
    | updateEngineSessionStatus sessionId status => exact hr.elim
    | resolveEngineSessionAt sessionId status resolvedAt => exact hr.elim
    | _ => trivial
  · refine T.free ?_
    cases r with
    | setLastNotifiedHeartbeatId id => exact hr.elim
    | upsertNotificationState state => exact hr.elim
    | createEngineSession imei chatId triggerHeartbeatId promptMessageId createdAt => exact hr.elim
    | resolveEngineSessionAt sessionId status resolvedAt => exact hr.elim
    | _ => trivial

include T in
/-- A program that writes no status owes nothing and keeps what is steady. -/
theorem safe_calm {α : Type} {p : BotM α} (hp : p.Uses Request.Calm) {J : World → Prop}
    (hJ : Steady (sessionContract env g inv owes) J) (h : J w) :
    (sessionContract env g inv owes).Safe p (fun _ w => J w) w := by
  refine Contract.safe_of_uses hJ.stable ?_ ?_ hp h
  · intro w r hr _ _
    exact T.owes_of_calm hr w
  · rintro w r x w' hr _ hw ⟨outcome, -, hanswer⟩
    have hw' : (w.answer outcome r).2 = w' := by
      rw [show w.answer outcome r = (x, w') from hanswer]
    rw [← hw']
    rcases w.answer_cases outcome r with hcase | hcase
    · rw [hcase]
      exact hw
    · rw [hcase]
      exact hJ.calm hr hw

include T in
theorem safe_calm_bind {α β : Type} {p : BotM α} {f : α → BotM β} {J : World → Prop}
    {Q : Option β → World → Prop} (hp : p.Uses Request.Calm)
    (hJ : Steady (sessionContract env g inv owes) J) (h : J w) (hnone : ∀ w, J w → Q none w)
    (hsome : ∀ a w, J w → (sessionContract env g inv owes).Safe (f a) Q w) :
    (sessionContract env g inv owes).Safe (p >>= f) Q w := by
  refine Contract.safe_bind_of (J := J) (E := J) ((T.safe_calm hp hJ h).mono ?_) hnone hsome
  intro x w hx
  cases x with
  | none => exact hx
  | some _ => exact hx

/-! ### Finishing sessions -/

/-- Some sessions are being finished, and an assertion about the heartbeats holds. -/
def FinishingIn (H : World → Prop) (keys : Set (String × ℤ)) (sessions others : List EngineSession)
    (w : World) : Prop :=
  H w ∧ Finishing keys sessions others w

section Finish

variable {H : World → Prop} {keys : Set (String × ℤ)} {others : List EngineSession}

include T in
theorem steady_finishingIn (hH : Frame (sessionContract env g inv owes) H)
    (keys : Set (String × ℤ)) (sessions others : List EngineSession) :
    Steady (sessionContract env g inv owes) (FinishingIn H keys sessions others) :=
  hH.steady.and (T.steady_finishing keys sessions others)

include T in
/-- The first session of the list is resolved. -/
theorem safe_resolveEngineSessionAt (hH : Frame (sessionContract env g inv owes) H)
    (h : FinishingIn H keys (session :: sessions) others w)
    (hend : EndOk session.createdAt endedAt) :
    (sessionContract env g inv owes).Safe
      (ask (.resolveEngineSessionAt session.id .finished endedAt))
      (Contract.ending (FinishingIn H keys sessions others) H) w := by
  refine safe_ask_of (T.steady_finishingIn hH _ _ _).stable h ?_ (fun _ _ h => h.1) ?_
  · rintro w hinv ⟨-, hfinishing⟩
    obtain ⟨row, hrow, hbecomes, hactive⟩ := hfinishing.tracked session List.mem_cons_self
    rw [← hbecomes.id]
    refine ⟨⟨rfl, row, hrow, rfl, hactive⟩, T.ends hinv hrow hactive ?_⟩
    rw [hbecomes.createdAt]
    exact hend
  · intro w outcome _ h _
    have hsame := sameHeartbeats_execute
      (r := .resolveEngineSessionAt session.id .finished endedAt) trivial outcome w
    exact ⟨hH.same hsame h.1, h.2.resolve endedAt outcome⟩

include T in
/-- The end of the session is read off the clock. -/
theorem safe_resolveEngineSession (hH : Frame (sessionContract env g inv owes) H)
    (h : FinishingIn H keys (session :: sessions) others w) :
    (sessionContract env g inv owes).Safe (resolveEngineSession session.id .finished)
      (Contract.ending (FinishingIn H keys sessions others) H) w := by
  refine Contract.safe_bind.2 ?_
  refine safe_ask_of (T.steady_finishingIn hH _ _ _).stable h ?_ (fun _ _ h => h.1) ?_
  · intro w _ _
    exact T.owes_of_calm (r := .utcNow) trivial w
  · intro w outcome hinv h _
    refine T.safe_resolveEngineSessionAt hH h ?_
    obtain ⟨row, hrow, hbecomes, -⟩ := h.2.tracked session List.mem_cons_self
    rw [← hbecomes.createdAt]
    exact T.endsNow hinv hrow

include T in
theorem safe_finishRideSessionAndSendSummary (hH : Frame (sessionContract env g inv owes) H)
    (h : FinishingIn H keys (session :: sessions) others w)
    (hend : EndOk session.createdAt endedAt) :
    (sessionContract env g inv owes).Safe
      (finishRideSessionAndSendSummary chatId imei session endedAt sendAlert)
      (Contract.ending (FinishingIn H keys sessions others) H) w := by
  have hsteady := T.steady_finishingIn hH keys (session :: sessions) others
  unfold finishRideSessionAndSendSummary
  cases session.rideStatusMessageId with
  | some messageId =>
      refine Contract.safe_bind_of (T.safe_resolveEngineSessionAt hH h hend) (fun _ h => h) ?_
      exact fun _ _ h => h
  | none =>
      -- the messages, and what is read for them
      refine T.safe_calm_bind (Prog.uses_request trivial) hsteady h (fun _ h => h.1) ?_
      intro finishedMessageId w h
      refine T.safe_calm_bind (Prog.uses_request trivial) hsteady h (fun _ h => h.1) ?_
      intro summary w h
      refine T.safe_calm_bind (Prog.uses_request trivial) hsteady h (fun _ h => h.1) ?_
      intro _ w h
      refine T.safe_calm_bind (sendTheftEngineOffAlert_uses fun _ => trivial) hsteady h
        (fun _ h => h.1) ?_
      intro _ w h
      refine T.safe_calm_bind (sendRideSummary_uses trivial (fun _ => trivial) _) hsteady h
        (fun _ h => h.1) ?_
      intro messageId w h
      -- the one write
      refine Contract.safe_bind_of (T.safe_resolveEngineSession hH h) (fun _ h => h) ?_
      exact fun _ _ h => h

include T in
theorem safe_finishActiveEngineSessions (hH : Frame (sessionContract env g inv owes) H)
    (hends : ∀ session ∈ sessions, EndOk session.createdAt endedAt)
    (h : FinishingIn H keys sessions others w) :
    (sessionContract env g inv owes).Safe
      (finishActiveEngineSessions chatId imei sessions endedAt sendAlert)
      (Contract.ending (FinishingIn H keys [] others) H) w := by
  refine (Contract.safe_foldlM (fun remaining w =>
    FinishingIn H keys remaining others w ∧
      ∀ session ∈ remaining, EndOk session.createdAt endedAt) (E := H) ?_ ⟨h, hends⟩).mono ?_
  · rintro _ session remaining w ⟨h, hends⟩
    have hsteady := T.steady_finishingIn hH keys (session :: remaining) others
    refine T.safe_calm_bind (clearConfirmationKeyboard_uses fun _ => trivial) hsteady h
      (fun _ h => h.1) ?_
    intro _ w h
    refine Contract.safe_bind_of (T.safe_finishRideSessionAndSendSummary hH h
      (hends session List.mem_cons_self)) (fun _ h => h) ?_
    intro messageId w h
    exact ⟨h, fun s hs => hends s (List.mem_cons_of_mem _ hs)⟩
  · intro x w hx
    cases x with
    | none => exact hx
    | some _ => exact hx.1

include T in
/-- The sessions that a heartbeat finishes may end with it. -/
theorem endsDue_fetchActive (hinv : inv w) (hDue : Due (heartbeat :: rest) w) (chatId : ℤ) :
    ∀ session ∈ fetchActiveEngineSessions w.telegramEngineSessions heartbeat.imei chatId,
      EndOk session.createdAt heartbeat.serverReceivedAt := by
  intro session hsession
  obtain ⟨hrow, himei, -⟩ := mem_fetchActiveEngineSessions.1 hsession
  exact T.endsDue hinv hDue hrow himei

include T in
/-- The sessions of a chat without a subscription. -/
theorem safe_finishInactiveSubscriptionSessions
    (hDue : Due (heartbeat :: rest) w) :
    (sessionContract env g inv owes).Safe
      (finishInactiveSubscriptionSessions heartbeat.imei chatId heartbeat.serverReceivedAt)
      (fun _ w => Due (heartbeat :: rest) w) w := by
  have hH := T.frame_due (heartbeat :: rest)
  refine Contract.safe_bind.2 ?_
  refine safe_ask_of hH.stable hDue ?_ (fun _ _ h => h) ?_
  · intro w _ _
    exact T.owes_of_calm (r := .fetchActiveEngineSessions heartbeat.imei chatId) trivial w
  intro w outcome hinv hDue _
  refine (Contract.safe_forM (fun remaining w =>
    FinishingIn (Due (heartbeat :: rest)) {(heartbeat.imei, chatId)} remaining [] w ∧
      ∀ session ∈ remaining, EndOk session.createdAt heartbeat.serverReceivedAt)
    (E := Due (heartbeat :: rest)) ?_ ⟨⟨hDue, ?_⟩, ?_⟩).mono ?_
  · rintro session remaining w ⟨h, hends⟩
    have hsteady := T.steady_finishingIn hH {(heartbeat.imei, chatId)} (session :: remaining) []
    refine T.safe_calm_bind (clearConfirmationKeyboard_uses fun _ => trivial) hsteady h
      (fun _ h => h.1) ?_
    intro _ w h
    refine (T.safe_resolveEngineSessionAt hH h (hends session List.mem_cons_self)).mono ?_
    intro x w hx
    cases x with
    | none => exact hx
    | some _ => exact ⟨hx, fun s hs => hends s (List.mem_cons_of_mem _ hs)⟩
  · exact finishing_fetchActive (T.sessionInv hinv) heartbeat.imei chatId
  · exact T.endsDue_fetchActive hinv hDue chatId
  · intro x w hx
    cases x with
    | none => exact hx
    | some _ => exact hx.1.1

end Finish

/-! ### Notifications -/

section Notify

variable {H : World → Prop} {n : ℕ}

include T in
theorem safe_lastOnHeartbeatAt {J : World → Prop}
    (hJ : Steady (sessionContract env g inv owes) J) (h : J w)
    (existing : Option NotificationState) :
    (sessionContract env g inv owes).Safe (lastOnHeartbeatAt existing)
      (fun x w => J w ∧ ∀ lastOn, x = some lastOn →
        ∃ w₁, J w₁ ∧ lastOn = lastOnTime w₁.deviceHeartbeats existing) w := by
  unfold lastOnHeartbeatAt lastOnTime
  cases existing.filter fun state => state.lastStatus = .on with
  | none =>
      refine ⟨h, ?_⟩
      intro lastOn hlastOn
      exact ⟨w, h, (Option.some.inj hlastOn).symm⟩
  | some state =>
      refine safe_ask_of hJ.stable h ?_ ?_ ?_
      · intro w _ _
        exact T.owes_of_calm (r := .fetchHeartbeatServerReceivedAtById _) trivial w
      · intro w _ h
        exact ⟨h, by simp⟩
      · intro w outcome _ h _
        refine ⟨h, ?_⟩
        intro lastOn hlastOn
        exact ⟨w, h, (Option.some.inj hlastOn).symm⟩

include T in
/-- The heartbeat is noted; the sessions stay as they are. -/
theorem safe_upsertNotificationState (hH : Frame (sessionContract env g inv owes) H)
    (hDue : ∀ w, H w → Due (heartbeat :: rest) w)
    (h : H w ∧ w.activeSessionCount imei chatId = n) {state : NotificationState}
    (hstate : state.lastHeartbeatId = heartbeat.id) :
    (sessionContract env g inv owes).Safe (ask (.upsertNotificationState state))
      (Contract.ending (fun w => H w ∧ w.activeSessionCount imei chatId = n) H) w := by
  have hsteady := hH.steady.and (T.steady_count imei chatId n)
  refine safe_ask_of hsteady.stable h ?_ (fun _ _ h => h.1) ?_
  · intro w hinv h
    exact ⟨trivial, T.notes hinv (hDue w h.1) hstate⟩
  · intro w outcome _ h _
    have hsame := sameHeartbeats_execute (r := .upsertNotificationState state) trivial outcome w
    exact ⟨hH.same hsame h.1, h.2⟩

include T in
/-- A new session is opened once the others are finished, and is then the only one. -/
theorem safe_startEngineSession (hH : Frame (sessionContract env g inv owes) H)
    (hDue : ∀ w, H w → Due (heartbeat :: rest) w)
    (hends : ∀ session ∈ sessions, EndOk session.createdAt heartbeat.serverReceivedAt)
    (h : FinishingIn H {(heartbeat.imei, chatId)} sessions [] w) :
    (sessionContract env g inv owes).Safe (startEngineSession heartbeat chatId sessions)
      (Contract.ending (fun w => H w ∧ w.activeSessionCount heartbeat.imei chatId = 1) H) w := by
  refine Contract.safe_bind_of (T.safe_finishActiveEngineSessions hH hends h) (fun _ h => h) ?_
  rintro _ w ⟨h, hfinishing⟩
  have hsteady := hH.steady.and (T.steady_count heartbeat.imei chatId 0)
  refine T.safe_calm_bind (Prog.uses_request trivial) hsteady
    ⟨h, hfinishing.activeSessionCount⟩ (fun _ h => h.1) ?_
  intro messageId w h
  refine Contract.safe_bind_of (E := H)
    (J := fun w => H w ∧ w.activeSessionCount heartbeat.imei chatId = 1) ?_ (fun _ h => h) ?_
  · refine safe_ask_of hsteady.stable h ?_ (fun _ _ h => h.1) ?_
    · intro w hinv h
      exact ⟨h.2, T.opens hinv (hDue w h.1) h.2⟩
    · intro w outcome _ h _
      have hsame := sameHeartbeats_execute (r := .createEngineSession heartbeat.imei chatId
        heartbeat.id messageId heartbeat.serverReceivedAt) trivial outcome w
      exact ⟨hH.same hsame h.1, activeSessionCount_create h.2 _ _ _ outcome⟩
  · intro _ w h
    exact T.safe_upsertNotificationState hH hDue h rfl

include T in
/-- **An `on` and its session**: when a session is due to be started, the one active session of
the device and chat is the new one; otherwise the sessions stay as they are. -/
theorem safe_processEngineOnNotificationForChat (hH : Frame (sessionContract env g inv owes) H)
    (hDue : ∀ w, H w → Due (heartbeat :: rest) w) (h : H w)
    (hcount : w.activeSessionCount heartbeat.imei chatId = n)
    (existing : Option NotificationState) :
    (sessionContract env g inv owes).Safe
      (processEngineOnNotificationForChat heartbeat chatId existing)
      (Contract.ending (fun w => H w ∧ ∃ w₁, H w₁ ∧
        w.activeSessionCount heartbeat.imei chatId =
          if shouldStartNewEngineOnSession heartbeat.serverReceivedAt
            (lastOnTime w₁.deviceHeartbeats existing) then 1 else n) H) w := by
  have hsteady := hH.steady.and (T.steady_count heartbeat.imei chatId n)
  refine Contract.safe_bind.2 ?_
  refine safe_ask_of hsteady.stable ⟨h, hcount⟩ ?_ (fun _ _ h => h.1) ?_
  · intro w _ _
    exact T.owes_of_calm (r := .fetchActiveEngineSessions heartbeat.imei chatId) trivial w
  intro w outcome hinv h _
  have hends := T.endsDue_fetchActive hinv (hDue w h.1) chatId
  have hfinishing := finishing_fetchActive (T.sessionInv hinv) heartbeat.imei chatId
  have hboth := hsteady.and (T.steady_finishing {(heartbeat.imei, chatId)}
    (fetchActiveEngineSessions w.telegramEngineSessions heartbeat.imei chatId) [])
  refine Contract.safe_bind.2
    (Contract.Safe.mono ?_ (T.safe_lastOnHeartbeatAt hboth ⟨h, hfinishing⟩ existing))
  rintro (_ | lastOn) w₂ ⟨h₂, hlastOn⟩
  · exact h₂.1.1
  -- `w₁` is the world in which the time of the last `on` was read
  obtain ⟨w₁, h₁, rfl⟩ := hlastOn lastOn rfl
  refine Contract.Safe.mono ?_ (Q := Contract.ending (fun w => H w ∧
    w.activeSessionCount heartbeat.imei chatId =
      if shouldStartNewEngineOnSession heartbeat.serverReceivedAt
        (lastOnTime w₁.deviceHeartbeats existing) then 1 else n) H) ?_
  · intro x w hx
    cases x with
    | none => exact hx
    | some _ => exact ⟨hx.1, w₁, h₁.1.1, hx.2⟩
  · by_cases hstart : shouldStartNewEngineOnSession heartbeat.serverReceivedAt
        (lastOnTime w₁.deviceHeartbeats existing) = true
    · simp only [if_pos hstart]
      exact T.safe_startEngineSession hH hDue hends ⟨h₂.1.1, h₂.2⟩
    · simp only [if_neg hstart]
      exact T.safe_upsertNotificationState hH hDue h₂.1 rfl

include T in
/-- **An `off` that the chat has not been told about** leaves no active session. -/
theorem safe_processEngineOffNotificationForChat (hH : Frame (sessionContract env g inv owes) H)
    (hDue : ∀ w, H w → Due (heartbeat :: rest) w) (h : H w) :
    (sessionContract env g inv owes).Safe
      (processEngineOffNotificationForChat heartbeat status chatId)
      (Contract.ending (fun w => H w ∧ w.activeSessionCount heartbeat.imei chatId = 0) H) w := by
  refine Contract.safe_bind.2 ?_
  refine safe_ask_of hH.stable h ?_ (fun _ _ h => h) ?_
  · intro w _ _
    exact T.owes_of_calm (r := .fetchActiveEngineSessions heartbeat.imei chatId) trivial w
  intro w outcome hinv h _
  have hends := T.endsDue_fetchActive hinv (hDue w h) chatId
  have hfinishing := finishing_fetchActive (T.sessionInv hinv) heartbeat.imei chatId
  have hsteady := hH.steady.and (T.steady_count heartbeat.imei chatId 0)
  refine Contract.safe_bind_of (E := H)
    (J := fun w => H w ∧ w.activeSessionCount heartbeat.imei chatId = 0) ?_ (fun _ h => h) ?_
  · refine Contract.safe_bind_of
      (T.safe_finishActiveEngineSessions hH hends ⟨h, hfinishing⟩) (fun _ h => h) ?_
    rintro finished w ⟨h, hfinishing⟩
    have h₀ := hfinishing.activeSessionCount
    cases finished with
    | some messageId => exact ⟨h, h₀⟩
    | none =>
        have hsend : (ask (.sendMessage chatId (.engineStatus heartbeat status))).Uses
            Request.Calm := Prog.uses_request trivial
        refine (T.safe_calm hsend hsteady ⟨h, h₀⟩).mono ?_
        intro x w hx
        cases x with
        | none => exact hx.1
        | some _ => exact hx
  · intro messageId w h
    exact T.safe_upsertNotificationState hH hDue h rfl

include T in
/-- One heartbeat for one chat with a subscription, whatever becomes of it. -/
theorem safe_processHeartbeatNotificationForChat
    (hDue : Due (heartbeat :: rest) w) :
    (sessionContract env g inv owes).Safe
      (processHeartbeatNotificationForChat heartbeat status chatId)
      (fun _ => Due (heartbeat :: rest)) w := by
  have hH := T.frame_due (heartbeat :: rest)
  refine T.safe_calm_bind (Prog.uses_request trivial) hH.steady hDue (fun _ h => h) ?_
  intro existing w h
  cases status with
  | on =>
      refine (T.safe_processEngineOnNotificationForChat hH (fun _ h => h) h rfl existing).mono ?_
      rintro (_ | _) w hx
      · exact hx
      · exact hx.1
  | off =>
      dsimp only
      cases existing.filter fun state => state.lastStatus = .off with
      | some existing =>
          have hcount := And.intro h (rfl : w.activeSessionCount heartbeat.imei chatId = _)
          refine Contract.Safe.mono ?_ (T.safe_upsertNotificationState hH (fun _ h => h) hcount rfl)
          rintro (_ | _) w hx
          · exact hx
          · exact hx.1
      | none =>
          refine (T.safe_processEngineOffNotificationForChat hH (fun _ h => h) h).mono ?_
          rintro (_ | _) w hx
          · exact hx
          · exact hx.1

include T in
theorem safe_processInactiveSubscriptionNotificationForChat
    (hDue : Due (heartbeat :: rest) w) :
    (sessionContract env g inv owes).Safe
      (processInactiveSubscriptionNotificationForChat heartbeat status chatId)
      (fun _ => Due (heartbeat :: rest)) w := by
  have hH := T.frame_due (heartbeat :: rest)
  have hupsert : ∀ {w state}, Due (heartbeat :: rest) w → state.lastHeartbeatId = heartbeat.id →
      (sessionContract env g inv owes).Safe (ask (.upsertNotificationState state))
        (fun _ => Due (heartbeat :: rest)) w := by
    intro w state h hstate
    have hcount := And.intro h (rfl : w.activeSessionCount heartbeat.imei chatId = _)
    refine (T.safe_upsertNotificationState hH (fun _ h => h) hcount hstate).mono ?_
    rintro (_ | _) w hx
    · exact hx
    · exact hx.1
  refine T.safe_calm_bind (Prog.uses_request trivial) hH.steady hDue (fun _ h => h) ?_
  intro existing w h
  cases existing.filter fun state => state.lastStatus = status with
  | some existing => exact hupsert h rfl
  | none =>
      refine T.safe_calm_bind (Prog.uses_request trivial) hH.steady h (fun _ h => h) ?_
      intro messageId w h
      exact hupsert h rfl

include T in
theorem safe_notifyRecipient (recipient : NotificationRecipient)
    (hDue : Due (heartbeat :: rest) w) :
    (sessionContract env g inv owes).Safe (notifyRecipient heartbeat status recipient)
      (fun _ => Due (heartbeat :: rest)) w := by
  unfold notifyRecipient
  split
  · refine Contract.safe_bind.2 (Contract.safe_attempt.2 ?_)
    exact T.safe_processHeartbeatNotificationForChat hDue
  · cases status with
    | off =>
        refine Contract.safe_bind.2 (Contract.safe_attempt.2 ?_)
        refine (T.safe_processInactiveSubscriptionNotificationForChat hDue).mono ?_
        intro _ w h
        exact T.safe_finishInactiveSubscriptionSessions h
    | on =>
        refine Contract.safe_bind.2 (Contract.safe_attempt.2 ?_)
        exact T.safe_processInactiveSubscriptionNotificationForChat hDue

include T in
/-- One turn of the loop. -/
theorem safe_notifyHeartbeat (hDue : Due (heartbeat :: rest) w) :
    (sessionContract env g inv owes).Safe (notifyHeartbeat heartbeat)
      (Contract.ending (Due rest) fun _ => True) w := by
  have hH := T.frame_due (heartbeat :: rest)
  refine T.safe_calm_bind (Prog.uses_request trivial) hH.steady hDue (fun _ _ => trivial) ?_
  intro recipients w h
  refine Contract.safe_bind_of (J := Due (heartbeat :: rest)) (E := fun _ => True) ?_
    (fun _ _ => trivial) ?_
  · unfold notifyRecipients
    split
    · refine (Contract.safe_forM (fun _ => Due (heartbeat :: rest)) (E := fun _ => True) ?_ h).mono
        fun _ _ h => h
      intro recipient _ w h
      refine (T.safe_notifyRecipient recipient h).mono ?_
      rintro (_ | _) w hx
      · trivial
      · exact hx
    · exact h
  · intro _ w h
    refine safe_ask_of hH.stable h ?_ (fun _ _ _ => trivial) ?_
    · intro w hinv h
      exact ⟨trivial, T.advances hinv h⟩
    · intro w outcome hinv h _
      exact T.due_advance hinv h

include T in
theorem safe_processHeartbeatNotifications :
    (sessionContract env g inv owes).Safe processHeartbeatNotifications (fun _ _ => True) w := by
  refine Contract.safe_bind.2 (safe_ask_of frame_true.stable trivial ?_ (fun _ _ _ => trivial) ?_)
  · intro w _ _
    exact T.owes_of_calm (r := .getLastNotifiedHeartbeatId) trivial w
  intro w₁ outcome _ _ _
  -- nobody else moves the cursor before the rows are read
  have hlast : (sessionContract env g inv owes).Stable
      fun w => w.lastNotifiedHeartbeatId = w₁.lastNotifiedHeartbeatId := by
    intro w w' hw h
    rw [(T.sameBotTables hw).lastNotifiedHeartbeatId]
    exact h
  refine Contract.safe_bind.2 (safe_ask_of hlast rfl ?_ (fun _ _ _ => trivial) ?_)
  · intro w _ _
    exact ⟨trivial, T.free trivial⟩
  intro w outcome hinv hw _
  refine (Contract.safe_forM Due (E := fun _ => True) ?_ ?_).mono fun _ _ _ => trivial
  · intro heartbeat rest w h
    exact T.safe_notifyHeartbeat h
  · change Due (fetchNewHeartbeats w.deviceHeartbeats (w₁.lastNotifiedHeartbeatId.getD 0))
      (w.execute outcome (.fetchNewHeartbeats (w₁.lastNotifiedHeartbeatId.getD 0))).2
    rw [← hw]
    exact T.due_fetch hinv

end Notify

/-! ### Quiet devices and answers -/

include T in
theorem safe_finishStaleGroup (referenceTime : ℤ) {group : (String × ℤ) × List EngineSession}
    {others : List EngineSession} (hgroup : ∀ session ∈ group.2, session.imei = group.1.1)
    (h : Finishing ∅ [] (group.2 ++ others) w) :
    (sessionContract env g inv owes).Safe (finishStaleGroup referenceTime group)
      (Contract.ending (Finishing ∅ [] others) fun _ => True) w := by
  have hfinishing := h.split
  have hsteady := T.steady_finishing ∅ group.2 others
  refine Contract.safe_bind.2 (safe_ask_of hsteady.stable hfinishing ?_ (fun _ _ _ => trivial) ?_)
  · intro w _ _
    exact T.owes_of_calm (r := .fetchLatestHeartbeatForImei group.1.1) trivial w
  intro w outcome hinv h _
  dsimp only [World.execute, Contract.andThen]
  split
  · next heartbeat hfilter =>
    have hlatest := (Option.filter_eq_some_iff.1 hfilter).1
    have hends : ∀ session ∈ group.2, EndOk session.createdAt heartbeat.serverReceivedAt := by
      intro session hsession
      obtain ⟨row, hrow, hbecomes, -⟩ := h.tracked session (List.mem_append_left _ hsession)
      rw [← hbecomes.createdAt]
      refine T.endsStale hinv hrow ?_
      rw [hbecomes.imei, hgroup session hsession]
      exact hlatest
    refine Contract.safe_bind_of (T.safe_finishActiveEngineSessions frame_true hends
      ⟨trivial, h⟩) (fun _ _ => trivial) ?_
    intro _ w h
    exact h.2
  · exact h.drop

include T in
theorem safe_processStaleEngineSessions :
    (sessionContract env g inv owes).Safe processStaleEngineSessions (fun _ _ => True) w := by
  refine Contract.safe_bind.2 (safe_ask_of frame_true.stable trivial ?_ (fun _ _ _ => trivial) ?_)
  · intro w _ _
    exact T.owes_of_calm (r := .fetchAllActiveEngineSessions) trivial w
  intro w₁ outcome hinv _ _
  have hfinishing := finishing_fetchAll (T.sessionInv hinv)
  refine T.safe_calm_bind (Prog.uses_request trivial) (T.steady_finishing ∅ [] _) hfinishing
    (fun _ _ => trivial) ?_
  intro referenceTime w h
  refine (Contract.safe_forM (fun groups w =>
    Finishing ∅ [] (groups.flatMap Prod.snd) w ∧
      ∀ group ∈ groups, ∀ session ∈ group.2, session.imei = group.1.1)
    (E := fun _ => True) ?_ ⟨h, ?_⟩).mono fun _ _ _ => trivial
  · rintro group groups w ⟨h, hgroups⟩
    refine (T.safe_finishStaleGroup referenceTime (hgroups group List.mem_cons_self) h).mono ?_
    rintro (_ | _) w hx
    · trivial
    · exact ⟨hx, fun group hgroup => hgroups group (List.mem_cons_of_mem _ hgroup)⟩
  · intro group hgroup session hsession
    obtain ⟨key, -, rfl⟩ := List.mem_map.1 hgroup
    have hkey := of_decide_eq_true (List.mem_filter.1 hsession).2
    rw [← hkey]

/-- The session with the id is pending. -/
def Pending (sessionId : ℕ) (w : World) : Prop :=
  ∃ row ∈ w.telegramEngineSessions, row.id = sessionId ∧ row.sessionStatus = .pendingConfirmation

include T in
theorem steady_pending (sessionId : ℕ) :
    Steady (sessionContract env g inv owes) (Pending sessionId) := by
  constructor
  · intro w w' hw h
    rw [Pending, (T.sameBotTables hw).telegramEngineSessions]
    exact h
  · rintro w outcome r hr ⟨row, hrow, hid, hpending⟩
    rcases execute_of_calm hr outcome w with hw | ⟨sessionId', messageId, rfl⟩
    · rw [hw]
      exact ⟨row, hrow, hid, hpending⟩
    · refine ⟨_, mem_updateAt.2 ⟨row, hrow, rfl⟩, ?_⟩
      split
      · exact ⟨hid, hpending⟩
      · exact ⟨hid, hpending⟩

include T in
/-- A pending session is answered. -/
theorem safe_updateEngineSessionStatus {sessionId : ℕ} {status : SessionStatus}
    (hstatus : status = .confirmedSafe ∨ status = .reportedTheft) (h : Pending sessionId w) :
    (sessionContract env g inv owes).Safe (ask (.updateEngineSessionStatus sessionId status))
      (fun _ _ => True) w := by
  refine safe_ask_of (T.steady_pending sessionId).stable h ?_ (fun _ _ _ => trivial)
    fun _ _ _ _ _ => trivial
  intro w _ h
  exact ⟨⟨hstatus, h⟩, T.free trivial⟩

include T in
theorem safe_answerSession (query : SessionCallback) (h : Pending session.id w) :
    (sessionContract env g inv owes).Safe (answerSession query session) (fun _ _ => True) w := by
  have hsteady := T.steady_pending session.id
  unfold answerSession
  cases query.action with
  | yes =>
      refine T.safe_calm_bind (Prog.uses_request trivial) hsteady h (fun _ _ => trivial) ?_
      intro _ w h
      refine T.safe_calm_bind (Prog.uses_attempt (Prog.uses_request trivial)) hsteady h
        (fun _ _ => trivial) ?_
      intro _ w h
      exact T.safe_updateEngineSessionStatus (Or.inl rfl) h
  | no =>
      refine T.safe_calm_bind (Prog.uses_request trivial) hsteady h (fun _ _ => trivial) ?_
      intro _ w h
      refine T.safe_calm_bind (Prog.uses_attempt (Prog.uses_request trivial)) hsteady h
        (fun _ _ => trivial) ?_
      intro _ w h
      exact T.safe_updateEngineSessionStatus (Or.inr rfl) h

include T in
/-- Nothing is owed by a program that writes no status. -/
theorem safe_of_calm {α : Type} {p : BotM α} (hp : p.Uses Request.Calm) (w : World) :
    (sessionContract env g inv owes).Safe p (fun _ _ => True) w :=
  T.safe_calm hp frame_true.steady trivial

include T in
theorem safe_handleSession (query : SessionCallback) (promptMessageId : ℤ)
    {session : Option EngineSession} (h : ∀ s ∈ session, s ∈ w.telegramEngineSessions) :
    (sessionContract env g inv owes).Safe (handleSession query promptMessageId session)
      (fun _ _ => True) w := by
  have hanswer : ∀ toast, (sessionContract env g inv owes).Safe
      (ask (.answerCallbackQuery query.id toast)) (fun _ _ => True) w := by
    intro toast
    have hcalm : (ask (.answerCallbackQuery query.id toast)).Uses Request.Calm :=
      Prog.uses_request trivial
    exact T.safe_of_calm hcalm w
  unfold handleSession
  cases session with
  | none => exact hanswer .sessionNotFound
  | some session =>
      dsimp only
      split
      · exact hanswer .sessionMismatch
      · split
        · exact hanswer .sessionAlreadyEnded
        · rename_i hpending
          have hpending : Pending session.id w := ⟨session, h session rfl, rfl, not_not.1 hpending⟩
          have hsteady := T.steady_pending session.id
          refine T.safe_calm_bind (Prog.uses_request trivial) hsteady hpending
            (fun _ _ => trivial) ?_
          intro _ w h
          refine T.safe_calm_bind (Prog.uses_request trivial) hsteady h (fun _ _ => trivial) ?_
          intro _ w h
          exact T.safe_answerSession query h

theorem calm_ensureActiveSubscriptionForCallback (query : SessionCallback) :
    (ensureActiveSubscriptionForCallback query).Uses Request.Calm := by
  refine Prog.uses_bind (Prog.uses_request trivial) ?_
  intro now
  refine Prog.uses_bind (Prog.uses_request trivial) ?_
  intro active
  split
  · trivial
  · refine Prog.uses_bind (Prog.uses_request trivial) ?_
    intro _
    refine Prog.uses_bind ?_ fun _ => Prog.uses_bind (Prog.uses_request trivial) fun _ => trivial
    unfold clearProtectedKeyboard
    split
    · exact Prog.uses_bind (Prog.uses_attempt (Prog.uses_request trivial)) fun _ => trivial
    · trivial

include T in
theorem safe_handleSessionCallback (query : SessionCallback) (w : World) :
    (sessionContract env g inv owes).Safe (handleSessionCallback query) (fun _ _ => True) w := by
  refine T.safe_calm_bind (calm_ensureActiveSubscriptionForCallback query) frame_true.steady trivial
    (fun _ _ => trivial) ?_
  intro active w _
  split
  · refine Contract.safe_bind.2 (safe_ask_of frame_true.stable trivial ?_ (fun _ _ _ => trivial) ?_)
    · intro w _ _
      exact T.owes_of_calm (r := .fetchEngineSessionByPromptMessage _ _) trivial w
    intro w outcome _ _ _
    refine T.safe_handleSession query _ ?_
    intro s hs
    have hmem := List.mem_of_mem_head? hs
    rw [List.mem_mergeSort] at hmem
    exact (List.mem_filter.1 hmem).1
  · trivial

include T in
/-- **The loop pays for its requests.** -/
theorem safe_runIteration (callbacks : List SessionCallback) (w : World) :
    (sessionContract env g inv owes).Safe (runIteration callbacks) (fun _ _ => True) w := by
  refine Contract.safe_bind.2 (Contract.safe_attempt.2 ?_)
  refine (Contract.safe_forM (fun _ _ => True) (E := fun _ => True) ?_ trivial).mono ?_
  · intro query _ w _
    refine (T.safe_handleSessionCallback query w).mono ?_
    rintro (_ | _) _ _
    · trivial
    · trivial
  intro _ w _
  refine Contract.safe_bind.2 (Contract.safe_attempt.2 ?_)
  refine T.safe_processHeartbeatNotifications.mono ?_
  intro _ w _
  refine Contract.safe_bind.2 (Contract.safe_attempt.2 ?_)
  refine T.safe_processStaleEngineSessions.mono ?_
  intro _ w _
  trivial

end Programs

end SessionTerms

end Gt06
