/-
**The session state machine.**

A session is pending until the chat answers or the ride ends, and a finished session stays
finished.  The writes of the bot do not look at the status they overwrite, and any request may fail
between two of them; nevertheless no device and chat ever has two active sessions, from any
well-formed database on, whatever the other processes do and wherever the bot is killed.

Main definitions:

* `Gt06.anything` — no condition on the next event;
* `Gt06.World.KeepsFinished` — what is finished stays finished.

Main results:

* `Gt06.session_verified` — the bot keeps `Gt06.SessionInv`;
* `Gt06.session_machine` — **the state machine of the sessions**.
-/

import Gt06Server.SessionLogic

set_option relaxedAutoImplicit false
set_option autoImplicit false

namespace Gt06

open Await Relational

/-- No condition on the next event. -/
def anything : Guard Request World EnvEvent Outcome where
  env := fun _ _ => True
  call := fun _ _ _ => True

theorem allows_anything (m : Machine Request Request.Reply World)
    (event : Event EnvEvent Outcome (List SessionCallback)) : anything.Allows m event := by
  cases event with
  | env event => trivial
  | answer outcome =>
      cases htask : m.task with
      | done a => simp [Guard.Allows, htask]
      | fail => simp [Guard.Allows, htask]
      | call r k => simp [Guard.Allows, htask, anything]
  | start callbacks => trivial
  | crash => trivial

/-- Nothing else is to be kept. -/
theorem sessionTerms_plain : SessionTerms (fun event w => w.env event) anything SessionInv
    (fun _ _ => True) (fun _ _ => True) (fun _ _ => True) where
  env := fun h => h
  sessionInv := fun h => h
  free := fun _ => trivial
  opens := fun _ _ _ => trivial
  ends := fun _ _ _ _ => trivial
  notes := fun _ _ _ => trivial
  advances := fun _ _ => trivial
  endsNow := fun _ _ => trivial
  endsDue := fun _ _ _ _ => trivial
  endsStale := fun _ _ _ => trivial
  due_env := fun _ _ _ => trivial
  due_same := fun _ _ => trivial
  due_fetch := fun _ => trivial
  due_advance := fun _ _ => trivial

theorem session_verified :
    bot.Verified anything SessionInv fun w r => sessionPre w r ∧ True where
  env := fun _ _ _ h _ hw => h.of_sameBotTables (World.sameBotTables_env hw)
  call := fun outcome _ _ h hpre _ => (sessionsStep_answer h hpre.1 outcome).1
  main := fun callbacks w _ => sessionTerms_plain.safe_runIteration callbacks w

/-- What is finished stays finished. -/
def World.KeepsFinished (w w' : World) : Prop :=
  ∀ row ∈ w.telegramEngineSessions, row.sessionStatus = .finished →
    ∃ row' ∈ w'.telegramEngineSessions, row'.id = row.id ∧ row'.sessionStatus = .finished

theorem World.KeepsFinished.trans {w₁ w₂ w₃ : World} (h : w₁.KeepsFinished w₂)
    (h' : w₂.KeepsFinished w₃) : w₁.KeepsFinished w₃ := by
  intro row hrow hfinished
  obtain ⟨row₂, hrow₂, hid₂, hfinished₂⟩ := h row hrow hfinished
  obtain ⟨row₃, hrow₃, hid₃, hfinished₃⟩ := h' row₂ hrow₂ hfinished₂
  exact ⟨row₃, hrow₃, hid₃.trans hid₂, hfinished₃⟩

theorem SessionsStep.keepsFinished {w w' : World} (h : SessionsStep w w') :
    w.KeepsFinished w' := by
  intro row hrow hfinished
  obtain ⟨row', hrow', hbecomes⟩ := h.becomes row hrow
  refine ⟨row', hrow', hbecomes.id, ?_⟩
  rcases hbecomes.status with hstatus | hmoves
  · exact hstatus.trans hfinished
  · -- a finished session does not move
    have hactive := hmoves.isActive
    rw [hfinished] at hactive
    exact absurd hactive Bool.false_ne_true

/-- **The state machine of the sessions**: from any database with at most one active session for
each device and chat, in every run of the bot loop, with any request failing at any point and the
process killed and started again, every state has at most one active session for each device and
chat; an event leaves each session as it is or moves its status from pending to safe, stolen or
finished, or from safe or stolen to finished, and the sessions it adds are pending ones; and a
finished session is finished in every later state. -/
theorem session_machine {w₀ : World} (h₀ : SessionInv w₀)
    {m : Machine Request Request.Reply World}
    {tr : List (Machine Request Request.Reply World ×
      Event EnvEvent Outcome (List SessionCallback))}
    (run : Run bot.step (.idle w₀) tr m) :
    ((∀ p ∈ tr, ∀ imei chatId, p.1.world.activeSessionCount imei chatId ≤ 1) ∧
      ∀ imei chatId, m.world.activeSessionCount imei chatId ≤ 1) ∧
    (∀ p ∈ tr, ∀ m', bot.step p.1 p.2 = some m' → SessionsStep p.1.world m'.world) ∧
    ∀ p ∈ tr, p.1.world.KeepsFinished m.world := by
  obtain ⟨htr, hm⟩ := session_verified.sound_of_run h₀ run fun p _ => allows_anything p.1 p.2
  have hstep : ∀ p ∈ tr, ∀ m', bot.step p.1 p.2 = some m' →
      SessionsStep p.1.world m'.world := by
    intro p hp m' hm'
    refine session_verified.step_related (fun _ => sessionsStep_of_eq rfl) ?_ ?_ (htr p hp) hm'
    · intro event w w' _ hw
      exact sessionsStep_of_eq (World.sameBotTables_env hw).telegramEngineSessions
    · intro outcome w r hinv hpre
      exact (sessionsStep_answer hinv hpre.1 outcome).2
  refine ⟨⟨fun p hp => (htr p hp).1.one_active, hm.1.one_active⟩, hstep, ?_⟩
  refine run.related (R := fun m m' => m.world.KeepsFinished m'.world)
    (fun _ _ _ h h' => h.trans h') ?_
  intro p hp m' hm'
  exact (hstep p hp m' hm').keepsFinished

theorem sessionInv_empty (now : ℤ) : SessionInv (World.empty now) where
  ids_nodup := List.nodup_nil
  ids_le := by simp [World.empty]
  one_active := by simp [World.activeSessionCount, World.empty]

/-- A user is bound to a device and subscribes, the device reports its engine on, and the loop goes
round once. -/
def engineOn : List (Event EnvEvent Outcome (List SessionCallback)) :=
  [.env (.setTelegramUsers [⟨1, 10, some "866221070478388", true⟩]),
    .env (.setTelegramSubscriptions [⟨1, 1, 10, "monthly_basic", .active, none, some 86400000000⟩]),
    .env (.insertHeartbeat "866221070478388" 0 "on"), .env (.commit 1), .start []] ++
  List.replicate 12 succeeds

/-- The user answers that it is somebody else. -/
def reportTheft : List (Event EnvEvent Outcome (List SessionCallback)) :=
  engineOn ++ [.start [⟨"1", 1, 10, some 1, .no⟩]] ++ List.replicate 13 succeeds

theorem replay_reportTheft :
    (replay bot.step (.idle (World.empty 0)) reportTheft).any (fun m => decide
      (m.world.telegramEngineSessions.map EngineSession.sessionStatus = [.reportedTheft])) =
        true := by
  decide +kernel

theorem session_machine_reportTheft :
    ∃ tr m, tr.map Prod.snd = reportTheft ∧ Run bot.step (.idle (World.empty 0)) tr m ∧
      m.world.telegramEngineSessions.map EngineSession.sessionStatus = [.reportedTheft] ∧
      ∀ imei chatId, m.world.activeSessionCount imei chatId ≤ 1 := by
  obtain ⟨tr, m, hes, run, hreported⟩ := run_of_replay_any replay_reportTheft
  exact ⟨tr, m, hes, run, of_decide_eq_true hreported,
    (session_machine (sessionInv_empty 0) run).1.2⟩

end Gt06
