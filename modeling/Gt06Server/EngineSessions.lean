/-
**The sessions of a device and chat.**

Five requests of the bot write `telegram_engine_sessions`, each by the id of a row and without a
look at what the row says now.  That they do no harm is a matter of what the programs know when
they send them: a session is opened when no other of its device and chat is active, an answer is
given to a pending session, and only active sessions are finished.

This module says what each write does when that is so, and what is known of a list of sessions
while they are being finished one after the other.

Main definitions:

* `Gt06.World.activeSessionCount` — how many sessions of a device and chat are active;
* `Gt06.SessionInv`, `Gt06.sessionPre` — at most one, and what a request owes for it;
* `Gt06.SessionStatus.Moves`, `Gt06.SessionsStep` — how statuses and rows change;
* `Gt06.Finishing` — what holds while sessions are being finished.

Main results:

* `Gt06.sessionsStep_answer` — what one request does to the sessions;
* `Gt06.finishing_fetchActive`, `Gt06.finishing_fetchAll` — what is known of sessions that have
  just been read.
-/

import Gt06Server.Bot

set_option relaxedAutoImplicit false
set_option autoImplicit false

namespace Gt06

open Await Relational

/-! ### Active sessions -/

/-- The session is an active one of the device and chat. -/
def EngineSession.isActiveOf (imei : String) (chatId : ℤ) (row : EngineSession) : Bool :=
  row.imei = imei ∧ row.chatId = chatId ∧ row.sessionStatus.isActive

/-- How many sessions of the device and chat are active. -/
def World.activeSessionCount (w : World) (imei : String) (chatId : ℤ) : ℕ :=
  w.telegramEngineSessions.countP (EngineSession.isActiveOf imei chatId)

@[simp] theorem isActiveOf_eq_true {imei : String} {chatId : ℤ} {row : EngineSession} :
    row.isActiveOf imei chatId = true ↔
      row.imei = imei ∧ row.chatId = chatId ∧ row.sessionStatus.isActive = true := by
  simp [EngineSession.isActiveOf]

theorem activeSessionCount_eq_zero {w : World} {imei : String} {chatId : ℤ} :
    w.activeSessionCount imei chatId = 0 ↔ ∀ row ∈ w.telegramEngineSessions,
      row.imei = imei → row.chatId = chatId → row.sessionStatus.isActive = false := by
  rw [World.activeSessionCount, List.countP_eq_zero]
  constructor
  · intro h row hrow himei hchat
    simpa [himei, hchat] using h row hrow
  · intro h row hrow hactive
    obtain ⟨himei, hchat, hactive⟩ := isActiveOf_eq_true.1 hactive
    simp [h row hrow himei hchat] at hactive

/-- The ids of the sessions are those of one sequence, and at most one session of a device and
chat is active. -/
structure SessionInv (w : World) : Prop where
  ids_nodup : UniqueOn EngineSession.id w.telegramEngineSessions
  ids_le : ∀ row ∈ w.telegramEngineSessions, row.id ≤ w.engineSessionSequence
  one_active : ∀ imei chatId, w.activeSessionCount imei chatId ≤ 1

/-- What the bot owes before it writes a session. -/
def sessionPre (w : World) : Request → Prop
  | .createEngineSession imei chatId _ _ _ => w.activeSessionCount imei chatId = 0
  | .updateEngineSessionStatus sessionId status =>
      (status = .confirmedSafe ∨ status = .reportedTheft) ∧
        ∃ row ∈ w.telegramEngineSessions, row.id = sessionId ∧
          row.sessionStatus = .pendingConfirmation
  | .resolveEngineSessionAt sessionId status _ =>
      status = .finished ∧ ∃ row ∈ w.telegramEngineSessions, row.id = sessionId ∧
        row.sessionStatus.isActive = true
  | _ => True

/-! ### What a write does to the sessions -/

/-- The status a session goes to from another one. -/
inductive SessionStatus.Moves : SessionStatus → SessionStatus → Prop
  | confirm : Moves .pendingConfirmation .confirmedSafe
  | report : Moves .pendingConfirmation .reportedTheft
  | finish {status : SessionStatus} : status.isActive = true → Moves status .finished

/-- The one row becomes the other: its device, chat and beginning stay, and its status moves. -/
structure EngineSession.Becomes (row row' : EngineSession) : Prop where
  id : row'.id = row.id
  imei : row'.imei = row.imei
  chatId : row'.chatId = row.chatId
  triggerHeartbeatId : row'.triggerHeartbeatId = row.triggerHeartbeatId
  createdAt : row'.createdAt = row.createdAt
  status : row'.sessionStatus = row.sessionStatus ∨
    row.sessionStatus.Moves row'.sessionStatus

theorem EngineSession.Becomes.refl (row : EngineSession) : row.Becomes row :=
  ⟨rfl, rfl, rfl, rfl, rfl, Or.inl rfl⟩

/-- Only active sessions move. -/
theorem SessionStatus.Moves.isActive {status status' : SessionStatus} (h : status.Moves status') :
    status.isActive = true := by
  cases h with
  | confirm => rfl
  | report => rfl
  | finish h => exact h

/-- An active row was active before. -/
theorem EngineSession.Becomes.isActive {row row' : EngineSession} (h : row.Becomes row')
    (hactive : row'.sessionStatus.isActive = true) : row.sessionStatus.isActive = true := by
  rcases h.status with hstatus | hmoves
  · rwa [← hstatus]
  · exact hmoves.isActive

theorem EngineSession.Becomes.isActiveOf {row row' : EngineSession} (h : row.Becomes row')
    {imei : String} {chatId : ℤ} (hactive : row'.isActiveOf imei chatId = true) :
    row.isActiveOf imei chatId = true := by
  rw [isActiveOf_eq_true] at hactive ⊢
  rw [← h.imei, ← h.chatId]
  exact ⟨hactive.1, hactive.2.1, h.isActive hactive.2.2⟩

/-- The rows after the others: each becomes one, and the new ones are pending. -/
structure SessionsStep (w w' : World) : Prop where
  becomes : ∀ row ∈ w.telegramEngineSessions, ∃ row' ∈ w'.telegramEngineSessions, row.Becomes row'
  comes : ∀ row' ∈ w'.telegramEngineSessions,
    (∃ row ∈ w.telegramEngineSessions, row.Becomes row') ∨
      row'.sessionStatus = .pendingConfirmation ∧ row'.resolvedAt = none ∧
        ∀ row ∈ w.telegramEngineSessions, row.id ≠ row'.id

section Writes

variable {w : World}

theorem sessionsStep_of_eq {w' : World}
    (h : w'.telegramEngineSessions = w.telegramEngineSessions) : SessionsStep w w' := by
  constructor
  · intro row hrow
    exact ⟨row, h ▸ hrow, .refl row⟩
  · intro row hrow
    exact Or.inl ⟨row, h ▸ hrow, .refl row⟩

/-- An update of the row with an id, when it makes that row become another. -/
theorem sessionsStep_updateAt {w' : World} {sessionId : ℕ} {f : EngineSession → EngineSession}
    (hw' : w'.telegramEngineSessions =
      updateAt EngineSession.id sessionId f w.telegramEngineSessions)
    (hf : ∀ row ∈ w.telegramEngineSessions, row.id = sessionId → row.Becomes (f row)) :
    SessionsStep w w' := by
  have hbecomes : ∀ row ∈ w.telegramEngineSessions,
      row.Becomes (if row.id = sessionId then f row else row) := by
    intro row hrow
    by_cases hid : row.id = sessionId
    · rw [if_pos hid]
      exact hf row hrow hid
    · rw [if_neg hid]
      exact .refl row
  constructor
  · intro row hrow
    refine ⟨_, ?_, hbecomes row hrow⟩
    rw [hw']
    exact mem_updateAt.2 ⟨row, hrow, rfl⟩
  · intro row' hrow'
    rw [hw'] at hrow'
    obtain ⟨row, hrow, rfl⟩ := mem_updateAt.1 hrow'
    exact Or.inl ⟨row, hrow, hbecomes row hrow⟩

/-- An update that makes rows become others keeps the invariant. -/
theorem SessionInv.updateAt (h : SessionInv w) {w' : World} {sessionId : ℕ}
    {f : EngineSession → EngineSession}
    (hw' : w'.telegramEngineSessions =
      Relational.updateAt EngineSession.id sessionId f w.telegramEngineSessions)
    (hseq : w'.engineSessionSequence = w.engineSessionSequence)
    (hid : ∀ row, (f row).id = row.id)
    (hf : ∀ row ∈ w.telegramEngineSessions, row.id = sessionId → row.Becomes (f row)) :
    SessionInv w' := by
  have hstep := sessionsStep_updateAt hw' hf
  constructor
  · rw [hw']
    exact h.ids_nodup.updateAt _ _ hid
  · intro row' hrow'
    rw [hseq]
    rw [hw'] at hrow'
    obtain ⟨row, hrow, rfl⟩ := mem_updateAt.1 hrow'
    have hkeep : (if row.id = sessionId then f row else row).id = row.id := by
      split
      · exact hid row
      · rfl
    rw [hkeep]
    exact h.ids_le row hrow
  · intro imei chatId
    -- an active row was active before the update
    refine le_trans ?_ (h.one_active imei chatId)
    rw [World.activeSessionCount, hw', Relational.updateAt, List.countP_map,
      World.activeSessionCount]
    refine List.countP_mono_left ?_
    intro row hrow hactive
    by_cases hrowId : row.id = sessionId
    · simp only [Function.comp_apply, if_pos hrowId] at hactive
      exact (hf row hrow hrowId).isActiveOf hactive
    · simpa only [Function.comp_apply, if_neg hrowId] using hactive

/-- A session may be opened when no other of its device and chat is active. -/
theorem SessionInv.create (h : SessionInv w) {imei : String} {chatId : ℤ}
    (hnone : w.activeSessionCount imei chatId = 0) (triggerHeartbeatId : ℕ)
    (promptMessageId createdAt : ℤ) (outcome : Outcome) :
    SessionInv (w.execute outcome
      (.createEngineSession imei chatId triggerHeartbeatId promptMessageId createdAt)).2 := by
  constructor
  · refine h.ids_nodup.append ?_
    intro row hrow
    have := h.ids_le row hrow
    dsimp only
    omega
  · intro row hrow
    rcases List.mem_append.1 hrow with hrow | hrow
    · exact (h.ids_le row hrow).trans (Nat.le_succ _)
    · obtain rfl := List.mem_singleton.1 hrow
      exact le_rfl
  · intro imei' chatId'
    change List.countP _ (w.telegramEngineSessions ++ [_]) ≤ 1
    rw [List.countP_append, List.countP_singleton]
    by_cases hkey : imei = imei' ∧ chatId = chatId'
    · obtain ⟨rfl, rfl⟩ := hkey
      rw [World.activeSessionCount] at hnone
      rw [hnone]
      split
      · exact le_rfl
      · exact Nat.zero_le 1
    · have hother : ¬ EngineSession.isActiveOf imei' chatId'
          { id := w.engineSessionSequence + 1, imei := imei, chatId := chatId
            triggerHeartbeatId := triggerHeartbeatId, promptMessageId := promptMessageId
            rideStatusMessageId := none, sessionStatus := .pendingConfirmation
            createdAt := createdAt, resolvedAt := none } = true := by
        rw [isActiveOf_eq_true]
        exact fun hactive => hkey ⟨hactive.1, hactive.2.1⟩
      rw [if_neg hother]
      exact h.one_active imei' chatId'

/-- Once a session is opened, it is the one active session of its device and chat. -/
theorem activeSessionCount_create {imei : String} {chatId : ℤ}
    (hnone : w.activeSessionCount imei chatId = 0) (triggerHeartbeatId : ℕ)
    (promptMessageId createdAt : ℤ) (outcome : Outcome) :
    (w.execute outcome (.createEngineSession imei chatId triggerHeartbeatId promptMessageId
      createdAt)).2.activeSessionCount imei chatId = 1 := by
  change List.countP _ (w.telegramEngineSessions ++ [_]) = 1
  rw [World.activeSessionCount] at hnone
  rw [List.countP_append, hnone, List.countP_singleton, if_pos]
  simp [EngineSession.isActiveOf, SessionStatus.isActive]

/-- What one request does to the sessions, when it is paid for. -/
theorem sessionsStep_execute (h : SessionInv w) {r : Request} (hpre : sessionPre w r)
    (outcome : Outcome) :
    SessionInv (w.execute outcome r).2 ∧ SessionsStep w (w.execute outcome r).2 := by
  cases r with
  | createEngineSession imei chatId triggerHeartbeatId promptMessageId createdAt =>
      refine ⟨h.create hpre _ _ _ _, ?_, ?_⟩
      · intro row hrow
        exact ⟨row, List.mem_append_left _ hrow, .refl row⟩
      · intro row hrow
        rcases List.mem_append.1 hrow with hrow | hrow
        · exact Or.inl ⟨row, hrow, .refl row⟩
        · obtain rfl := List.mem_singleton.1 hrow
          refine Or.inr ⟨rfl, rfl, ?_⟩
          intro row hrow
          have := h.ids_le row hrow
          dsimp only
          omega
  | updateEngineSessionStatus sessionId status =>
      -- the id is a key, so the row written is the one the program knows to be pending
      obtain ⟨hstatus, row, hrow, rfl, hpending⟩ := hpre
      have hf : ∀ row' ∈ w.telegramEngineSessions, row'.id = row.id →
          row'.Becomes { row' with sessionStatus := status } := by
        intro row' hrow' hid
        obtain rfl := h.ids_nodup.eq_of_key_eq hrow' hrow hid
        refine ⟨rfl, rfl, rfl, rfl, rfl, Or.inr ?_⟩
        rw [hpending]
        rcases hstatus with rfl | rfl
        · exact .confirm
        · exact .report
      exact ⟨h.updateAt rfl rfl (fun _ => rfl) hf, sessionsStep_updateAt rfl hf⟩
  | resolveEngineSessionAt sessionId status resolvedAt =>
      obtain ⟨rfl, row, hrow, rfl, hactive⟩ := hpre
      have hf : ∀ row' ∈ w.telegramEngineSessions, row'.id = row.id →
          row'.Becomes { row' with sessionStatus := .finished, resolvedAt := some resolvedAt } := by
        intro row' hrow' hid
        obtain rfl := h.ids_nodup.eq_of_key_eq hrow' hrow hid
        exact ⟨rfl, rfl, rfl, rfl, rfl, Or.inr (.finish hactive)⟩
      exact ⟨h.updateAt rfl rfl (fun _ => rfl) hf, sessionsStep_updateAt rfl hf⟩
  | setEngineSessionRideStatusMessageId sessionId messageId =>
      have hf : ∀ row ∈ w.telegramEngineSessions, row.id = sessionId →
          row.Becomes { row with rideStatusMessageId := some messageId } := by
        intro row _ _
        exact ⟨rfl, rfl, rfl, rfl, rfl, Or.inl rfl⟩
      exact ⟨h.updateAt rfl rfl (fun _ => rfl) hf, sessionsStep_updateAt rfl hf⟩
  | _ => exact ⟨⟨h.ids_nodup, h.ids_le, h.one_active⟩, sessionsStep_of_eq rfl⟩

theorem sessionsStep_answer (h : SessionInv w) {r : Request} (hpre : sessionPre w r)
    (outcome : Outcome) :
    SessionInv (w.answer outcome r).2 ∧ SessionsStep w (w.answer outcome r).2 := by
  rcases w.answer_cases outcome r with hw | hw
  · rw [hw]
    exact ⟨h, sessionsStep_of_eq rfl⟩
  · rw [hw]
    exact sessionsStep_execute h hpre outcome

/-- The other processes leave the sessions alone. -/
theorem SessionInv.of_sameBotTables {w' : World} (h : SessionInv w)
    (hsame : World.SameBotTables w w') : SessionInv w' := by
  constructor
  · rw [hsame.telegramEngineSessions]
    exact h.ids_nodup
  · rw [hsame.telegramEngineSessions, hsame.engineSessionSequence]
    exact h.ids_le
  · intro imei chatId
    rw [World.activeSessionCount, hsame.telegramEngineSessions]
    exact h.one_active imei chatId

end Writes

/-! ### Sessions that are being finished -/

/-- A pass has read some sessions and finishes them one after the other: they are still active,
and they are all the active sessions of some devices and chats. -/
structure Finishing (keys : Set (String × ℤ)) (sessions others : List EngineSession)
    (w : World) : Prop where
  nodup : UniqueOn EngineSession.id (sessions ++ others)
  tracked : ∀ session ∈ sessions ++ others, ∃ row ∈ w.telegramEngineSessions,
    session.Becomes row ∧ row.sessionStatus.isActive = true
  covered : ∀ row ∈ w.telegramEngineSessions, (row.imei, row.chatId) ∈ keys →
    row.sessionStatus.isActive = true → row.id ∈ sessions.map EngineSession.id

section Finishing

variable {keys : Set (String × ℤ)} {session : EngineSession} {sessions others : List EngineSession}
  {w w' : World}

theorem Finishing.of_sameBotTables (h : Finishing keys sessions others w)
    (hsame : World.SameBotTables w w') : Finishing keys sessions others w' := by
  constructor
  · exact h.nodup
  · rw [hsame.telegramEngineSessions]
    exact h.tracked
  · rw [hsame.telegramEngineSessions]
    exact h.covered

theorem Finishing.setRideStatusMessageId (h : Finishing keys sessions others w) (sessionId : ℕ)
    (messageId : ℤ) (outcome : Outcome) :
    Finishing keys sessions others
      (w.execute outcome (.setEngineSessionRideStatusMessageId sessionId messageId)).2 := by
  constructor
  · exact h.nodup
  · intro s hs
    obtain ⟨row, hrow, hbecomes, hactive⟩ := h.tracked s hs
    refine ⟨_, mem_updateAt.2 ⟨row, hrow, rfl⟩, ?_⟩
    split
    · exact ⟨⟨hbecomes.id, hbecomes.imei, hbecomes.chatId, hbecomes.triggerHeartbeatId,
        hbecomes.createdAt, hbecomes.status⟩, hactive⟩
    · exact ⟨hbecomes, hactive⟩
  · intro row' hrow' hkey hactive
    obtain ⟨row, hrow, rfl⟩ := mem_updateAt.1 hrow'
    by_cases hid : row.id = sessionId
    · rw [if_pos hid] at hkey hactive ⊢
      exact h.covered row hrow hkey hactive
    · rw [if_neg hid] at hkey hactive ⊢
      exact h.covered row hrow hkey hactive

/-- One session less to finish. -/
theorem Finishing.resolve (h : Finishing keys (session :: sessions) others w)
    (endedAt : ℤ) (outcome : Outcome) :
    Finishing keys sessions others
      (w.execute outcome (.resolveEngineSessionAt session.id .finished endedAt)).2 := by
  have hnodup : (session.id :: (sessions ++ others).map EngineSession.id).Nodup := h.nodup
  obtain ⟨hfresh, hnodup⟩ := List.nodup_cons.1 hnodup
  constructor
  · exact hnodup
  · intro s hs
    obtain ⟨row, hrow, hbecomes, hactive⟩ := h.tracked s (List.mem_cons_of_mem _ hs)
    have hne : row.id ≠ session.id := by
      intro hid
      exact hfresh (List.mem_map.2 ⟨s, hs, hbecomes.id.symm.trans hid⟩)
    refine ⟨row, mem_updateAt.2 ⟨row, hrow, ?_⟩, hbecomes, hactive⟩
    rw [if_neg hne]
  · intro row' hrow' hkey hactive
    obtain ⟨row, hrow, rfl⟩ := mem_updateAt.1 hrow'
    by_cases hid : row.id = session.id
    · rw [if_pos hid] at hactive
      exact absurd hactive (by simp [SessionStatus.isActive])
    · rw [if_neg hid] at hkey hactive ⊢
      have hmem := h.covered row hrow hkey hactive
      rw [List.map_cons, List.mem_cons] at hmem
      exact hmem.resolve_left hid

/-- The sessions of a group are finished or passed over; the other groups follow. -/
theorem Finishing.drop (h : Finishing ∅ sessions others w) : Finishing ∅ [] others w := by
  constructor
  · exact List.Nodup.sublist ((List.sublist_append_right _ _).map _) h.nodup
  · intro s hs
    exact h.tracked s (List.mem_append_right _ hs)
  · intro row _ hkey
    exact absurd hkey (Set.notMem_empty _)

theorem Finishing.split (h : Finishing ∅ [] (sessions ++ others) w) :
    Finishing ∅ sessions others w := by
  constructor
  · exact h.nodup
  · exact h.tracked
  · intro row _ hkey
    exact absurd hkey (Set.notMem_empty _)

theorem Finishing.activeSessionCount {imei : String} {chatId : ℤ}
    (h : Finishing {(imei, chatId)} [] others w) : w.activeSessionCount imei chatId = 0 := by
  rw [activeSessionCount_eq_zero]
  intro row hrow himei hchat
  by_contra hactive
  rw [Bool.not_eq_false] at hactive
  have hmem := h.covered row hrow (by rw [himei, hchat]; rfl) hactive
  exact absurd hmem List.not_mem_nil

theorem mem_fetchActiveEngineSessions {rows : List EngineSession} {imei : String} {chatId : ℤ} :
    session ∈ fetchActiveEngineSessions rows imei chatId ↔ session ∈ rows ∧
      session.imei = imei ∧ session.chatId = chatId ∧ session.sessionStatus.isActive = true := by
  simp [fetchActiveEngineSessions]

/-- The active sessions of a device and chat, as they have just been read. -/
theorem finishing_fetchActive (h : SessionInv w) (imei : String) (chatId : ℤ) :
    Finishing {(imei, chatId)} (fetchActiveEngineSessions w.telegramEngineSessions imei chatId) []
      w := by
  constructor
  · rw [List.append_nil]
    have hperm := (List.mergeSort_perm (w.telegramEngineSessions.filter fun row =>
      row.imei = imei ∧ row.chatId = chatId ∧ row.sessionStatus.isActive) fun a b =>
        a.createdAt < b.createdAt ∨ a.createdAt = b.createdAt ∧ a.id ≤ b.id).map EngineSession.id
    exact hperm.nodup_iff.2 (List.Nodup.sublist (List.filter_sublist.map _) h.ids_nodup)
  · intro s hs
    rw [List.append_nil, mem_fetchActiveEngineSessions] at hs
    exact ⟨s, hs.1, .refl s, hs.2.2.2⟩
  · intro row hrow hkey hactive
    obtain ⟨himei, hchat⟩ := Prod.mk.inj (Set.mem_singleton_iff.1 hkey)
    exact List.mem_map_of_mem (mem_fetchActiveEngineSessions.2 ⟨hrow, himei, hchat, hactive⟩)

theorem mem_fetchAllActiveEngineSessions {rows : List EngineSession} :
    session ∈ fetchAllActiveEngineSessions rows ↔
      session ∈ rows ∧ session.sessionStatus.isActive = true := by
  simp [fetchAllActiveEngineSessions]

/-- The groups are the sessions again, in another order. -/
theorem nodup_sessionGroups (h : UniqueOn EngineSession.id sessions) :
    UniqueOn EngineSession.id ((sessionGroups sessions).flatMap Prod.snd) := by
  have hmem : ∀ s ∈ (sessionGroups sessions).flatMap Prod.snd, s ∈ sessions := by
    intro s hs
    obtain ⟨group, hgroup, hs⟩ := List.mem_flatMap.1 hs
    obtain ⟨key, -, rfl⟩ := List.mem_map.1 hgroup
    exact (List.mem_filter.1 hs).1
  refine List.Nodup.map_on (fun s hs t ht => h.eq_of_key_eq (hmem s hs) (hmem t ht)) ?_
  rw [sessionGroups, List.flatMap_map, List.nodup_flatMap]
  constructor
  · intro key _
    exact (h.of_map _).filter _
  · -- the groups of two devices and chats have no session in common
    have hkeys := (List.mergeSort_perm ((sessions.map fun session =>
      (session.imei, session.chatId)).dedup) fun a b =>
        a.1 < b.1 ∨ a.1 = b.1 ∧ a.2 ≤ b.2).nodup_iff.2 (List.nodup_dedup _)
    refine List.Pairwise.imp ?_ hkeys
    intro a b hne s hsa hsb
    have ha := of_decide_eq_true (List.mem_filter.1 hsa).2
    have hb := of_decide_eq_true (List.mem_filter.1 hsb).2
    exact hne (ha.symm.trans hb)

theorem finishing_fetchAll (h : SessionInv w) :
    Finishing ∅ [] ((sessionGroups (fetchAllActiveEngineSessions
      w.telegramEngineSessions)).flatMap Prod.snd) w := by
  constructor
  · refine nodup_sessionGroups ?_
    have hperm := (List.mergeSort_perm (w.telegramEngineSessions.filter fun row =>
      row.sessionStatus.isActive) fun a b =>
        a.imei < b.imei ∨ a.imei = b.imei ∧
          (a.chatId < b.chatId ∨ a.chatId = b.chatId ∧
            (a.createdAt < b.createdAt ∨ a.createdAt = b.createdAt ∧ a.id ≤ b.id))).map
              EngineSession.id
    exact hperm.nodup_iff.2 (List.Nodup.sublist (List.filter_sublist.map _) h.ids_nodup)
  · intro s hs
    obtain ⟨group, hgroup, hs⟩ := List.mem_flatMap.1 hs
    obtain ⟨key, -, rfl⟩ := List.mem_map.1 hgroup
    have hs := mem_fetchAllActiveEngineSessions.1 (List.mem_filter.1 hs).1
    exact ⟨s, hs.1, .refl s, hs.2⟩
  · intro row _ hkey
    exact absurd hkey (Set.notMem_empty _)

end Finishing

end Gt06
