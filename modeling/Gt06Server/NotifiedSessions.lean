/-
**Sessions and what the chat has been told.**

Whether an `on` opens a session and whether an `off` looks for sessions at all is decided by
`telegram_device_notifications`, the table of what a chat has been told last.  It is not kept in
step with the sessions: a chat without a subscription is told about its engine too, a quiet device
has its session finished without a word to that table, and a request may fail between the write of
a session and the write of the note.

This module says what a successful notification leaves, in every state the bot can reach: after an
`on` there is an active session exactly when one was due or there was one before, and after an
`off` none is left exactly when the chat had not been told `off` before or there was none.

Main definitions:

* `Gt06.World.notificationState` — what a chat has been told last;
* `Gt06.World.StartsRide` — a session is due to be opened;
* `Gt06.NotedInv` — the sessions, and the heartbeats noted for the chats.

Main results:

* `Gt06.on_covered_iff` — **exactly when an `on` leaves one active session**;
* `Gt06.off_finished_iff` — **exactly when an `off` leaves none**;
* `Gt06.on_uncovered`, `Gt06.off_unfinished` — a late subscription and a failed note.
-/

import Gt06Server.SessionMachine

set_option relaxedAutoImplicit false
set_option autoImplicit false

namespace Gt06

open Await Relational

/-! ### What a chat has been told -/

/-- The row of the device and chat in `telegram_device_notifications`. -/
def World.notificationState (w : World) (imei : String) (chatId : ℤ) : Option NotificationState :=
  w.telegramDeviceNotifications.find? fun row => row.imei = imei ∧ row.chatId = chatId

/-- The chat has been told `off` last. -/
def World.ToldOff (w : World) (imei : String) (chatId : ℤ) : Prop :=
  ∃ state ∈ w.notificationState imei chatId, state.lastStatus = .off

/-- What the chat has been told last makes the heartbeat open a session: no `on`, or an `on` of a
heartbeat that is long enough ago. -/
def World.StartsRide (w : World) (heartbeat : StoredHeartbeat) (chatId : ℤ) : Prop :=
  shouldStartNewEngineOnSession heartbeat.serverReceivedAt
    (lastOnTime w.deviceHeartbeats (w.notificationState heartbeat.imei chatId)) = true

instance (w : World) (heartbeat : StoredHeartbeat) (chatId : ℤ) :
    Decidable (w.StartsRide heartbeat chatId) :=
  inferInstanceAs (Decidable (_ = true))

/-- The sessions, and the notes: the heartbeat noted for a chat is a visible one. -/
structure NotedInv (w : World) : Prop where
  sessions : SessionInv w
  heartbeats : HeartbeatIds w
  noted : ∀ state ∈ w.telegramDeviceNotifications,
    ∃ row ∈ w.deviceHeartbeats, row.id = state.lastHeartbeatId

/-- A note is about a visible heartbeat. -/
def notedOwes (w : World) : Request → Prop
  | .upsertNotificationState state => ∃ row ∈ w.deviceHeartbeats, row.id = state.lastHeartbeatId
  | _ => True

/-- The heartbeats of a pass are visible. -/
def Visible (heartbeats : List StoredHeartbeat) (w : World) : Prop :=
  ∀ row ∈ heartbeats, row ∈ w.deviceHeartbeats

section Keep

variable {w w' : World}

/-- The other processes do not take a visible heartbeat back. -/
theorem visible_env {event : EnvEvent} (hw : w.env event = some w') {row : StoredHeartbeat}
    (hrow : row ∈ w.deviceHeartbeats) : row ∈ w'.deviceHeartbeats := by
  cases event with
  | insertHeartbeat imei receivedAt guess =>
      obtain ⟨-, rfl⟩ := World.of_env_insertHeartbeat hw
      exact hrow
  | commit id =>
      obtain ⟨new, -, -, rfl⟩ := World.of_env_commit hw
      exact List.mem_append_left _ hrow
  | _ =>
      obtain rfl := Option.some.inj hw
      exact hrow

theorem notedInv_empty (now : ℤ) : NotedInv (World.empty now) where
  sessions := sessionInv_empty now
  heartbeats := ⟨List.nodup_nil, by simp [World.empty, World.heartbeats]⟩
  noted := by simp [World.empty]

theorem NotedInv.env {event : EnvEvent} (h : NotedInv w) (hw : w.env event = some w') :
    NotedInv w' := by
  have hsame := World.sameBotTables_env hw
  refine ⟨h.sessions.of_sameBotTables hsame, h.heartbeats.env hw, ?_⟩
  rw [hsame.telegramDeviceNotifications]
  intro state hstate
  obtain ⟨row, hrow, hid⟩ := h.noted state hstate
  exact ⟨row, visible_env hw hrow, hid⟩

theorem heartbeatIds_execute (h : HeartbeatIds w) (outcome : Outcome) (r : Request) :
    HeartbeatIds (w.execute outcome r).2 := by
  cases r with
  | _ => exact ⟨h.ids_nodup, h.ids_le⟩

theorem NotedInv.answer {outcome : Outcome} {r : Request} (h : NotedInv w)
    (hpre : sessionPre w r ∧ notedOwes w r) : NotedInv (w.answer outcome r).2 := by
  rcases w.answer_cases outcome r with hcase | hcase
  · rw [hcase]
    exact h
  rw [hcase]
  refine ⟨(sessionsStep_execute h.sessions hpre.1 outcome).1,
    heartbeatIds_execute h.heartbeats outcome r, ?_⟩
  cases r with
  | upsertNotificationState state =>
      intro state' hstate'
      rcases List.mem_append.1 hstate' with hstate' | hstate'
      · exact h.noted state' (List.mem_filter.1 hstate').1
      · obtain rfl := List.mem_singleton.1 hstate'
        exact hpre.2
  | _ => exact h.noted

end Keep

theorem sessionTerms_noted : SessionTerms (fun event w => w.env event) anything NotedInv notedOwes
    (fun _ _ => True) Visible where
  env := fun h => h
  sessionInv := fun h => h.sessions
  free := by
    intro w r hr
    cases r with
    | upsertNotificationState state => exact hr.elim
    | _ => trivial
  opens := fun _ _ _ => trivial
  ends := fun _ _ _ _ => trivial
  notes := fun {_ heartbeat _ _} _ hdue hstate =>
    ⟨heartbeat, hdue heartbeat List.mem_cons_self, hstate.symm⟩
  advances := fun _ _ => trivial
  endsNow := fun _ _ => trivial
  endsDue := fun _ _ _ _ => trivial
  endsStale := fun _ _ _ => trivial
  due_env := fun _ hdue hw row hrow => visible_env hw (hdue row hrow)
  due_same := by
    intro w w' heartbeats hdue hsame row hrow
    rw [hsame.deviceHeartbeats]
    exact hdue row hrow
  due_fetch := fun _ row hrow => (mem_fetchNewHeartbeats hrow).1
  due_advance := fun _ hdue row hrow => hdue row (List.mem_cons_of_mem _ hrow)

theorem noted_verified :
    bot.Verified anything NotedInv fun w r => sessionPre w r ∧ notedOwes w r where
  env := fun _ _ _ h _ hw => h.env hw
  call := fun _ _ _ h hpre _ => h.answer hpre
  main := fun callbacks w _ => sessionTerms_noted.safe_runIteration callbacks w

/-! ### What a notification knows -/

/-- What the chat has been told is what it had been told at the start. -/
def Told (notes : List NotificationState) (w : World) : Prop :=
  w.telegramDeviceNotifications = notes

theorem steady_told (notes : List NotificationState) :
    SessionTerms.Steady (sessionContract (fun event w => w.env event) anything NotedInv notedOwes)
      (Told notes) := by
  constructor
  · intro w w' hw h
    rw [Told, (sessionTerms_noted.sameBotTables hw).telegramDeviceNotifications]
    exact h
  · intro w outcome r hr h
    rcases execute_of_calm hr outcome w with hw | ⟨sessionId, messageId, rfl⟩
    · rw [hw]
      exact h
    · exact h

/-- The heartbeat that was noted is visible and was received at the time given. -/
def LastOn (heartbeat : StoredHeartbeat) (existing : Option NotificationState) (time : Option ℤ)
    (w : World) : Prop :=
  Visible [heartbeat] w ∧ HeartbeatIds w ∧
    (∀ state ∈ existing, ∃ row ∈ w.deviceHeartbeats, row.id = state.lastHeartbeatId) ∧
    lastOnTime w.deviceHeartbeats existing = time

theorem HeartbeatIds.unique {w : World} (h : HeartbeatIds w) :
    UniqueOn StoredHeartbeat.id w.deviceHeartbeats :=
  List.Nodup.sublist ((List.sublist_append_left _ _).map _) h.ids_nodup

/-- A heartbeat that is visible is found under its id ever after. -/
theorem lastOnTime_env {w w' : World} {event : EnvEvent} {existing : Option NotificationState}
    (h : HeartbeatIds w) (hw : w.env event = some w')
    (hnoted : ∀ state ∈ existing, ∃ row ∈ w.deviceHeartbeats, row.id = state.lastHeartbeatId) :
    lastOnTime w'.deviceHeartbeats existing = lastOnTime w.deviceHeartbeats existing := by
  cases existing with
  | none => rfl
  | some state =>
      obtain ⟨row, hrow, hid⟩ := hnoted state rfl
      have hbefore := (rowAt_eq_some_iff h.unique).2 ⟨hrow, hid⟩
      have hafter := (rowAt_eq_some_iff (h.env hw).unique).2 ⟨visible_env hw hrow, hid⟩
      simp only [lastOnTime, Option.filter_some]
      split
      · simp only [Option.bind_some, hbefore, hafter]
      · rfl

theorem frame_lastOn (heartbeat : StoredHeartbeat) (existing : Option NotificationState)
    (time : Option ℤ) :
    SessionTerms.Frame (sessionContract (fun event w => w.env event) anything NotedInv notedOwes)
      (LastOn heartbeat existing time) := by
  constructor
  · rintro w w' ⟨event, -, -, hw⟩ ⟨hvisible, hids, hnoted, rfl⟩
    refine ⟨fun row hrow => visible_env hw (hvisible row hrow), hids.env hw, ?_,
      lastOnTime_env hids hw hnoted⟩
    intro state hstate
    obtain ⟨row, hrow, hid⟩ := hnoted state hstate
    exact ⟨row, visible_env hw hrow, hid⟩
  · rintro w w' hsame ⟨hvisible, hids, hnoted, rfl⟩
    refine ⟨?_, ?_, ?_, ?_⟩
    · intro row hrow
      rw [hsame.deviceHeartbeats]
      exact hvisible row hrow
    · constructor
      · rw [World.heartbeats, hsame.deviceHeartbeats, hsame.uncommittedHeartbeats]
        exact hids.ids_nodup
      · rw [World.heartbeats, hsame.deviceHeartbeats, hsame.uncommittedHeartbeats,
          hsame.heartbeatSequence]
        exact hids.ids_le
    · rw [hsame.deviceHeartbeats]
      exact hnoted
    · rw [hsame.deviceHeartbeats]

/-! ### What a notification leaves -/

section Leave

variable {w : World} {heartbeat : StoredHeartbeat} {chatId : ℤ}

/-- **After an `on`**: one active session if one was due, and as many as before if not. -/
theorem safe_on (h : NotedInv w) (hvisible : heartbeat ∈ w.deviceHeartbeats) :
    (sessionContract (fun event w => w.env event) anything NotedInv notedOwes).Safe
      (processHeartbeatNotificationForChat heartbeat .on chatId)
      (Contract.ending (fun w' => w'.activeSessionCount heartbeat.imei chatId =
        if w.StartsRide heartbeat chatId then 1
        else w.activeSessionCount heartbeat.imei chatId) fun _ => True) w := by
  have T := sessionTerms_noted
  have hframe := frame_lastOn heartbeat (w.notificationState heartbeat.imei chatId)
    (lastOnTime w.deviceHeartbeats (w.notificationState heartbeat.imei chatId))
  have hsteady := (hframe.steady.and (steady_told w.telegramDeviceNotifications)).and
    (T.steady_count heartbeat.imei chatId (w.activeSessionCount heartbeat.imei chatId))
  refine Contract.safe_bind.2 (SessionTerms.safe_ask_of hsteady.stable ?_ ?_
    (fun _ _ _ => trivial) ?_)
  · refine ⟨⟨⟨?_, h.heartbeats, ?_, rfl⟩, rfl⟩, rfl⟩
    · intro row hrow
      obtain rfl := List.mem_singleton.1 hrow
      exact hvisible
    · intro state hstate
      exact h.noted state (List.mem_of_find?_eq_some hstate)
  · intro w _ _
    exact T.owes_of_calm (r := .fetchNotificationState heartbeat.imei chatId) trivial w
  · rintro w₁ outcome _ ⟨⟨hlastOn, htold⟩, hcount⟩ _
    -- the answer is the row as it was at the start
    have hexisting : (w₁.execute outcome (.fetchNotificationState heartbeat.imei chatId)).1 =
        w.notificationState heartbeat.imei chatId := by
      rw [World.notificationState, ← htold]
      rfl
    rw [hexisting]
    refine (T.safe_processEngineOnNotificationForChat hframe (fun _ h => h.1) hlastOn hcount
      (w.notificationState heartbeat.imei chatId)).mono ?_
    rintro (_ | _) w' hw'
    · trivial
    · obtain ⟨-, w₂, ⟨-, -, -, htime⟩, hcount'⟩ := hw'
      rw [htime] at hcount'
      exact hcount'

/-- **After an `off`**: as many active sessions as before if the chat had been told, and none if
not. -/
theorem safe_off (hvisible : heartbeat ∈ w.deviceHeartbeats) :
    (sessionContract (fun event w => w.env event) anything NotedInv notedOwes).Safe
      (processHeartbeatNotificationForChat heartbeat .off chatId)
      (Contract.ending (fun w' => (w.ToldOff heartbeat.imei chatId →
        w'.activeSessionCount heartbeat.imei chatId = w.activeSessionCount heartbeat.imei chatId) ∧
          (¬ w.ToldOff heartbeat.imei chatId →
            w'.activeSessionCount heartbeat.imei chatId = 0)) fun _ => True) w := by
  have T := sessionTerms_noted
  have hframe := T.frame_due [heartbeat]
  have hsteady := (hframe.steady.and (steady_told w.telegramDeviceNotifications)).and
    (T.steady_count heartbeat.imei chatId (w.activeSessionCount heartbeat.imei chatId))
  refine Contract.safe_bind.2 (SessionTerms.safe_ask_of hsteady.stable ?_ ?_
    (fun _ _ _ => trivial) ?_)
  · refine ⟨⟨?_, rfl⟩, rfl⟩
    intro row hrow
    obtain rfl := List.mem_singleton.1 hrow
    exact hvisible
  · intro w _ _
    exact T.owes_of_calm (r := .fetchNotificationState heartbeat.imei chatId) trivial w
  · rintro w₁ outcome _ ⟨⟨hdue, htold⟩, hcount⟩ _
    have hexisting : (w₁.execute outcome (.fetchNotificationState heartbeat.imei chatId)).1 =
        w.notificationState heartbeat.imei chatId := by
      rw [World.notificationState, ← htold]
      rfl
    rw [hexisting]
    -- a chat that has been told `off` is only noted; any other has its sessions finished
    dsimp only [Contract.andThen]
    split
    · next existing hfilter =>
      obtain ⟨hstate, hoff⟩ := Option.filter_eq_some_iff.1 hfilter
      refine Contract.Safe.mono ?_
        (T.safe_upsertNotificationState hframe (fun _ h => h) ⟨hdue, hcount⟩ rfl)
      rintro (_ | _) w' hw'
      · trivial
      · refine ⟨fun _ => hw'.2, ?_⟩
        intro hnot
        exact absurd ⟨existing, hstate, of_decide_eq_true hoff⟩ hnot
    · next hfilter =>
      refine (T.safe_processEngineOffNotificationForChat hframe (fun _ h => h) hdue).mono ?_
      rintro (_ | _) w' hw'
      · trivial
      · refine ⟨?_, fun _ => hw'.2⟩
        rintro ⟨state, hstate, hoff⟩
        have := Option.filter_eq_none_iff.1 hfilter state hstate
        simp [hoff] at this

end Leave

section Runs

variable {now : ℤ} {m : Machine Request Request.Reply World}
  {tr : List (Machine Request Request.Reply World ×
    Event EnvEvent Outcome (List SessionCallback))}
  {heartbeat : StoredHeartbeat} {chatId : ℤ} {w' : World}

/-- **Exactly when an `on` leaves one active session**: in every state the bot can reach, however
the processing of an `on` heartbeat for a chat goes on from there, when it returns without an error
there is exactly one active session of the device and chat exactly when what the chat had been told
made a session due, or one was active before. -/
theorem on_covered_iff (run : Run bot.step (.idle (World.empty now)) tr m)
    (hvisible : heartbeat ∈ m.world.deviceHeartbeats)
    (hexec : bot.Exec (processHeartbeatNotificationForChat heartbeat .on chatId) m.world (some ())
      w') :
    w'.activeSessionCount heartbeat.imei chatId = 1 ↔
      m.world.StartsRide heartbeat chatId ∨
        m.world.activeSessionCount heartbeat.imei chatId = 1 := by
  have hinv := (noted_verified.sound_of_run (notedInv_empty now) run
    fun p _ => allows_anything p.1 p.2).2.1
  have hcount := noted_verified.exec (fun _ _ => trivial) (fun _ _ _ => trivial)
    (safe_on hinv hvisible) hinv hexec
  change w'.activeSessionCount heartbeat.imei chatId = _ at hcount
  rw [hcount]
  by_cases hstart : m.world.StartsRide heartbeat chatId
  · rw [if_pos hstart]
    simp [hstart]
  · rw [if_neg hstart]
    simp [hstart]

/-- **Exactly when an `off` leaves none**: in every state the bot can reach, however the processing
of an `off` heartbeat for a chat goes on from there, when it returns without an error no session of
the device and chat is active exactly when the chat had not been told `off` last, or none was
active before. -/
theorem off_finished_iff (run : Run bot.step (.idle (World.empty now)) tr m)
    (hvisible : heartbeat ∈ m.world.deviceHeartbeats)
    (hexec : bot.Exec (processHeartbeatNotificationForChat heartbeat .off chatId) m.world (some ())
      w') :
    w'.activeSessionCount heartbeat.imei chatId = 0 ↔
      ¬ m.world.ToldOff heartbeat.imei chatId ∨
        m.world.activeSessionCount heartbeat.imei chatId = 0 := by
  have hinv := (noted_verified.sound_of_run (notedInv_empty now) run
    fun p _ => allows_anything p.1 p.2).2.1
  obtain ⟨htold, hnot⟩ := noted_verified.exec (fun _ _ => trivial) (fun _ _ _ => trivial)
    (safe_off hvisible) hinv hexec
  by_cases h : m.world.ToldOff heartbeat.imei chatId
  · rw [htold h]
    simp [h]
  · simp [hnot h, h]

end Runs

/-! ### Two histories -/

/-- A device reports its engine on before its user subscribes, and again a minute later. -/
def lateSubscription : List (Event EnvEvent Outcome (List SessionCallback)) :=
  [.env (.setTelegramUsers [⟨1, 10, some "866221070478388", true⟩]),
    .env (.insertHeartbeat "866221070478388" 0 "on"), .env (.commit 1), .start []] ++
  List.replicate 9 succeeds ++ [.env (.tick 60000000),
    .env (.setTelegramSubscriptions [⟨1, 1, 10, "monthly_basic", .active, none, some 86400000000⟩]),
    .env (.insertHeartbeat "866221070478388" 60000000 "on"), .env (.commit 2), .start []] ++
  List.replicate 3 succeeds

/-- Every request of the processing succeeds. -/
def succeedTimes (n : ℕ) : List (List EnvEvent × Outcome) :=
  List.replicate n ([], { fails := false, messageId := 1, rideSummary := none })

theorem replay_lateSubscription :
    (replay bot.step (.idle (World.empty 0)) lateSubscription).any (fun m =>
      decide (⟨2, "866221070478388", 60000000, "on"⟩ ∈ m.world.deviceHeartbeats) &&
        hasActiveSubscription m.world.telegramSubscriptions 1 m.world.now &&
        (bot.simulate (succeedTimes 4) (processHeartbeatNotificationForChat
          ⟨2, "866221070478388", 60000000, "on"⟩ .on 10) m.world).any fun r =>
            decide (r.1 = some () ∧ r.2.activeSessionCount "866221070478388" 10 = 0)) = true := by
  decide +kernel

/-- The subscriber is told that the engine is on, and no session covers it. -/
theorem on_uncovered :
    ∃ tr m w', tr.map Prod.snd = lateSubscription ∧
      Run bot.step (.idle (World.empty 0)) tr m ∧
      ⟨2, "866221070478388", 60000000, "on"⟩ ∈ m.world.deviceHeartbeats ∧
      hasActiveSubscription m.world.telegramSubscriptions 1 m.world.now = true ∧
      bot.Exec (processHeartbeatNotificationForChat
        ⟨2, "866221070478388", 60000000, "on"⟩ .on 10) m.world (some ()) w' ∧
      ¬ w'.activeSessionCount "866221070478388" 10 = 1 := by
  obtain ⟨tr, m, hes, run, h⟩ := run_of_replay_any replay_lateSubscription
  rw [Bool.and_eq_true, Bool.and_eq_true] at h
  obtain ⟨⟨hvisible, hactive⟩, hexec⟩ := h
  obtain ⟨⟨x, w'⟩, hsimulate, hresult⟩ := (Option.any_eq_true _ _).1 hexec
  obtain ⟨rfl, hcount⟩ := of_decide_eq_true hresult
  refine ⟨tr, m, w', hes, run, of_decide_eq_true hvisible, hactive,
    System.exec_of_simulate hsimulate, ?_⟩
  intro hone
  exact absurd (hcount.symm.trans hone) (by decide)

/-- In that history no session was due. -/
theorem on_covered_iff_lateSubscription :
    ∃ tr m, tr.map Prod.snd = lateSubscription ∧ Run bot.step (.idle (World.empty 0)) tr m ∧
      ¬ (m.world.StartsRide ⟨2, "866221070478388", 60000000, "on"⟩ 10 ∨
        m.world.activeSessionCount "866221070478388" 10 = 1) := by
  obtain ⟨tr, m, hes, run, h⟩ := run_of_replay_any replay_lateSubscription
  rw [Bool.and_eq_true, Bool.and_eq_true] at h
  obtain ⟨⟨hvisible, -⟩, hexec⟩ := h
  obtain ⟨⟨x, w'⟩, hsimulate, hresult⟩ := (Option.any_eq_true _ _).1 hexec
  obtain ⟨rfl, hcount⟩ := of_decide_eq_true hresult
  refine ⟨tr, m, hes, run, ?_⟩
  intro hcovered
  have hone := (on_covered_iff run (of_decide_eq_true hvisible)
    (System.exec_of_simulate hsimulate)).2 hcovered
  exact absurd (hcount.symm.trans hone) (by decide)

/-- A request that fails. -/
def fails : Event EnvEvent Outcome (List SessionCallback) :=
  .answer { fails := true, messageId := 0, rideSummary := none }

/-- The chat has been told `off`; the next `on` opens a session, but the note of it fails, and the
engine goes off. -/
def failedNote : List (Event EnvEvent Outcome (List SessionCallback)) :=
  [.env (.setTelegramUsers [⟨1, 10, some "866221070478388", true⟩]),
    .env (.setTelegramSubscriptions [⟨1, 1, 10, "monthly_basic", .active, none, some 86400000000⟩]),
    .env (.insertHeartbeat "866221070478388" 0 "off"), .env (.commit 1), .start []] ++
  List.replicate 10 succeeds ++ [.env (.tick 60000000),
    .env (.insertHeartbeat "866221070478388" 60000000 "on"), .env (.commit 2), .start []] ++
  List.replicate 7 succeeds ++ [fails, succeeds, fails, .env (.tick 60000000),
    .env (.insertHeartbeat "866221070478388" 120000000 "off"), .env (.commit 3), .start []] ++
  List.replicate 3 succeeds

theorem replay_failedNote :
    (replay bot.step (.idle (World.empty 0)) failedNote).any (fun m =>
      decide (⟨3, "866221070478388", 120000000, "off"⟩ ∈ m.world.deviceHeartbeats) &&
        (bot.simulate (succeedTimes 2) (processHeartbeatNotificationForChat
          ⟨3, "866221070478388", 120000000, "off"⟩ .off 10) m.world).any fun r =>
            decide (r.1 = some () ∧ r.2.activeSessionCount "866221070478388" 10 = 1)) = true := by
  decide +kernel

/-- The `off` is taken for one the chat has been told about, and the session stays active. -/
theorem off_unfinished :
    ∃ tr m w', tr.map Prod.snd = failedNote ∧ Run bot.step (.idle (World.empty 0)) tr m ∧
      ⟨3, "866221070478388", 120000000, "off"⟩ ∈ m.world.deviceHeartbeats ∧
      bot.Exec (processHeartbeatNotificationForChat
        ⟨3, "866221070478388", 120000000, "off"⟩ .off 10) m.world (some ()) w' ∧
      ¬ w'.activeSessionCount "866221070478388" 10 = 0 := by
  obtain ⟨tr, m, hes, run, h⟩ := run_of_replay_any replay_failedNote
  obtain ⟨hvisible, hexec⟩ := (Bool.and_eq_true _ _).mp h
  obtain ⟨⟨x, w'⟩, hsimulate, hresult⟩ := (Option.any_eq_true _ _).1 hexec
  obtain ⟨rfl, hcount⟩ := of_decide_eq_true hresult
  refine ⟨tr, m, w', hes, run, of_decide_eq_true hvisible,
    System.exec_of_simulate hsimulate, ?_⟩
  intro hzero
  exact absurd (hcount.symm.trans hzero) (by decide)

/-- In that history the chat had been told, and a session was active. -/
theorem off_finished_iff_failedNote :
    ∃ tr m, tr.map Prod.snd = failedNote ∧ Run bot.step (.idle (World.empty 0)) tr m ∧
      ¬ (¬ m.world.ToldOff "866221070478388" 10 ∨
        m.world.activeSessionCount "866221070478388" 10 = 0) := by
  obtain ⟨tr, m, hes, run, h⟩ := run_of_replay_any replay_failedNote
  obtain ⟨hvisible, hexec⟩ := (Bool.and_eq_true _ _).mp h
  obtain ⟨⟨x, w'⟩, hsimulate, hresult⟩ := (Option.any_eq_true _ _).1 hexec
  obtain ⟨rfl, hcount⟩ := of_decide_eq_true hresult
  refine ⟨tr, m, hes, run, ?_⟩
  intro hfinished
  have hzero := (off_finished_iff run (of_decide_eq_true hvisible)
    (System.exec_of_simulate hsimulate)).2 hfinished
  exact absurd (hcount.symm.trans hzero) (by decide)

end Gt06
