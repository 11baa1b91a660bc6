/-
**Rides that overlap.**

A ride begins at the time of the heartbeat that opens it, and ends at a time that depends on the
path: at the time of a heartbeat when its summary has been sent before, when the chat has no
subscription any more, and when the device has gone quiet; at the time the bot's clock shows in
all other cases.  The clock runs ahead of the heartbeats, so that a ride that is ended late may
reach into the next one.

This module says exactly when that happens, for runs in which the heartbeats of a device arrive in
the order of their times: when a ride is opened by a heartbeat that was received before the end of
an earlier ride of the device and chat, and that end was read off the clock or taken from a
heartbeat which is not yet due.  Ends taken from the heartbeats that the bot has gone through do no
harm.

Main definitions:

* `Gt06.orderedBot` — the bot among devices whose heartbeats arrive in order;
* `Gt06.afterForeignEnds` — the condition on the next event;
* `Gt06.RideInv` — what holds of the tables in every run that keeps the condition;
* `Gt06.RidePass` — what holds of the heartbeats a pass has still to go through.

Main results:

* `Gt06.ride_verified` — the bot keeps `Gt06.RideInv`;
* `Gt06.ridesSeparate_iff` — **exactly when the rides of a device and chat are separate**;
* `Gt06.rides_overlap` — a message that takes five seconds, and two rides at once.
-/

import Gt06Server.RideSessions
import Gt06Server.SessionMachine

set_option relaxedAutoImplicit false
set_option autoImplicit false

namespace Gt06

open Await Relational

/-! ### Devices whose heartbeats arrive in order -/

/-- The id is beyond the cursor. -/
def World.Beyond (w : World) (id : ℕ) : Prop := ∀ last ∈ w.lastNotifiedHeartbeatId, last < id

/-- The other processes, when no heartbeat is received before an earlier one of its device. -/
def World.orderedEnv (w : World) : EnvEvent → Option World
  | .insertHeartbeat imei serverReceivedAt engineStatusGuess =>
      if ∀ row ∈ w.heartbeats, row.imei = imei → row.serverReceivedAt ≤ serverReceivedAt then
        w.env (.insertHeartbeat imei serverReceivedAt engineStatusGuess)
      else none
  | event => w.env event

def orderedBot : System Request Request.Reply World EnvEvent Outcome (List SessionCallback) :=
  botAmong fun event w => w.orderedEnv event

theorem env_of_orderedEnv {w w' : World} {event : EnvEvent} (h : w.orderedEnv event = some w') :
    w.env event = some w' := by
  cases event with
  | insertHeartbeat imei receivedAt guess =>
      simp only [World.orderedEnv] at h
      split at h
      · exact h
      · exact absurd h (by simp)
  | _ => exact h

/-! ### The condition -/

/-- A heartbeat of the device up to the one at hand was received at that time. -/
def World.IsHeartbeatTime (w : World) (imei : String) (heartbeatId : ℕ) (time : ℤ) : Prop :=
  ∃ row ∈ w.deviceHeartbeats, row.imei = imei ∧ row.id ≤ heartbeatId ∧
    row.serverReceivedAt = time

/-- A heartbeat that opens a ride was received no earlier than the ends of the rides before it,
as far as these are not the times of heartbeats up to it: they were read off the clock, or taken
from a heartbeat that is not yet due. -/
def afterForeignEnds : Guard Request World EnvEvent Outcome where
  env := fun _ _ => True
  call := fun w r outcome =>
    match r with
    | .createEngineSession imei chatId heartbeatId _ createdAt =>
        outcome.fails = false → ∀ row ∈ w.telegramEngineSessions, row.imei = imei →
          row.chatId = chatId → ∀ resolvedAt ∈ row.resolvedAt,
            ¬ w.IsHeartbeatTime imei heartbeatId resolvedAt → resolvedAt ≤ createdAt
    | _ => True

/-! ### What holds of the heartbeats -/

/-- Ids and times of the heartbeats of a device go together, and they become visible in that
order. -/
structure HeartbeatInv (w : World) : Prop extends HeartbeatIds w where
  times_le : ∀ row ∈ w.heartbeats, row.serverReceivedAt ≤ w.now
  times_mono : ∀ row ∈ w.heartbeats, ∀ row' ∈ w.heartbeats, row.imei = row'.imei →
    row.id ≤ row'.id → row.serverReceivedAt ≤ row'.serverReceivedAt
  device_order : ∀ row ∈ w.deviceHeartbeats, ∀ row' ∈ w.uncommittedHeartbeats,
    row.imei = row'.imei → row.id < row'.id
  one_waiting : ∀ row ∈ w.uncommittedHeartbeats, ∀ row' ∈ w.uncommittedHeartbeats,
    row.imei = row'.imei → row = row'

/-- Visible heartbeats stay, and new ones have larger ids. -/
structure HeartbeatsGrow (w w' : World) : Prop where
  visible : ∀ row ∈ w.deviceHeartbeats, row ∈ w'.deviceHeartbeats
  known : ∀ row ∈ w'.heartbeats, row ∈ w.heartbeats ∨ w.heartbeatSequence < row.id

section Heartbeats

variable {w w' : World}

theorem heartbeatsGrow_env {event : EnvEvent} (h : w.env event = some w') :
    HeartbeatsGrow w w' := by
  cases event with
  | insertHeartbeat imei receivedAt guess =>
      obtain ⟨-, rfl⟩ := World.of_env_insertHeartbeat h
      refine ⟨fun row hrow => hrow, ?_⟩
      intro row hrow
      rcases World.mem_heartbeats.1 hrow with hrow | hrow
      · exact Or.inl (World.mem_heartbeats.2 (Or.inl hrow))
      · rcases List.mem_append.1 hrow with hrow | hrow
        · exact Or.inl (World.mem_heartbeats.2 (Or.inr hrow))
        · obtain rfl := List.mem_singleton.1 hrow
          exact Or.inr (Nat.lt_succ_self _)
  | commit id =>
      obtain ⟨new, hnew, -, rfl⟩ := World.of_env_commit h
      refine ⟨fun row hrow => List.mem_append_left _ hrow, ?_⟩
      intro row hrow
      left
      rcases World.mem_heartbeats.1 hrow with hrow | hrow
      · rcases List.mem_append.1 hrow with hrow | hrow
        · exact World.mem_heartbeats.2 (Or.inl hrow)
        · obtain rfl := List.mem_singleton.1 hrow
          exact World.mem_heartbeats.2 (Or.inr hnew)
      · exact World.mem_heartbeats.2 (Or.inr (List.mem_filter.1 hrow).1)
  | rollback id =>
      obtain rfl := Option.some.inj h
      refine ⟨fun row hrow => hrow, ?_⟩
      intro row hrow
      left
      rcases World.mem_heartbeats.1 hrow with hrow | hrow
      · exact World.mem_heartbeats.2 (Or.inl hrow)
      · exact World.mem_heartbeats.2 (Or.inr (List.mem_filter.1 hrow).1)
  | _ =>
      obtain rfl := Option.some.inj h
      exact ⟨fun row hrow => hrow, fun row hrow => Or.inl hrow⟩

theorem HeartbeatInv.insert {imei : String} {receivedAt : ℤ} {guess : String}
    (h : HeartbeatInv w) (hnow : receivedAt ≤ w.now)
    (hwaiting : ∀ row ∈ w.uncommittedHeartbeats, row.imei ≠ imei)
    (hlate : ∀ row ∈ w.heartbeats, row.imei = imei → row.serverReceivedAt ≤ receivedAt) :
    HeartbeatInv { w with
      heartbeatSequence := w.heartbeatSequence + 1
      uncommittedHeartbeats := w.uncommittedHeartbeats ++
        [⟨w.heartbeatSequence + 1, imei, receivedAt, guess⟩] } := by
  -- the new row has the largest id, and it is the only one of its device that waits
  have hids := h.toHeartbeatIds.insert imei receivedAt guess
  have hmem : ∀ {row : StoredHeartbeat}, row ∈ w.deviceHeartbeats ++
      (w.uncommittedHeartbeats ++ [⟨w.heartbeatSequence + 1, imei, receivedAt, guess⟩]) →
        row ∈ w.heartbeats ∨ row = ⟨w.heartbeatSequence + 1, imei, receivedAt, guess⟩ := by
    intro row hrow
    rw [← List.append_assoc, List.mem_append] at hrow
    exact hrow.imp id List.mem_singleton.1
  refine { hids with times_le := ?_, times_mono := ?_, device_order := ?_, one_waiting := ?_ }
  · intro row hrow
    rcases hmem hrow with hrow | rfl
    · exact h.times_le row hrow
    · exact hnow
  · intro row hrow row' hrow' himei hle
    rcases hmem hrow with hrow | rfl
    · rcases hmem hrow' with hrow' | rfl
      · exact h.times_mono row hrow row' hrow' himei hle
      · exact hlate row hrow himei
    · rcases hmem hrow' with hrow' | rfl
      · have := (h.ids_le row' hrow').2
        dsimp only at hle
        omega
      · exact le_rfl
  · intro row hrow row' hrow' himei
    rcases List.mem_append.1 hrow' with hrow' | hrow'
    · exact h.device_order row hrow row' hrow' himei
    · obtain rfl := List.mem_singleton.1 hrow'
      exact Nat.lt_succ_of_le (h.ids_le row (World.mem_heartbeats.2 (Or.inl hrow))).2
  · intro row hrow row' hrow' himei
    rcases List.mem_append.1 hrow with hrow | hrow
    · rcases List.mem_append.1 hrow' with hrow' | hrow'
      · exact h.one_waiting row hrow row' hrow' himei
      · obtain rfl := List.mem_singleton.1 hrow'
        exact absurd himei (hwaiting row hrow)
    · obtain rfl := List.mem_singleton.1 hrow
      rcases List.mem_append.1 hrow' with hrow' | hrow'
      · exact absurd himei.symm (hwaiting row' hrow')
      · exact (List.mem_singleton.1 hrow').symm

theorem HeartbeatInv.commit {row : StoredHeartbeat} (h : HeartbeatInv w)
    (hrow : row ∈ w.uncommittedHeartbeats) :
    HeartbeatInv { w with
      uncommittedHeartbeats := w.uncommittedHeartbeats.filter fun r => r.id ≠ row.id
      deviceHeartbeats := w.deviceHeartbeats ++ [row]
      committedSinceFetch := w.committedSinceFetch ++ [row.id] } := by
  have hids := h.toHeartbeatIds.commit hrow
  have hmem : ∀ {r : StoredHeartbeat}, r ∈ (w.deviceHeartbeats ++ [row]) ++
      (w.uncommittedHeartbeats.filter fun r => r.id ≠ row.id) → r ∈ w.heartbeats := by
    intro r hr
    simp only [List.mem_append, List.mem_singleton, List.mem_filter] at hr
    rcases hr with (hr | rfl) | ⟨hr, -⟩
    · exact World.mem_heartbeats.2 (Or.inl hr)
    · exact World.mem_heartbeats.2 (Or.inr hrow)
    · exact World.mem_heartbeats.2 (Or.inr hr)
  refine { hids with times_le := ?_, times_mono := ?_, device_order := ?_, one_waiting := ?_ }
  · intro r hr
    exact h.times_le r (hmem hr)
  · intro r hr r' hr'
    exact h.times_mono r (hmem hr) r' (hmem hr')
  · intro r hr r' hr' himei
    obtain ⟨hwaiting, hne⟩ := List.mem_filter.1 hr'
    rcases List.mem_append.1 hr with hr | hr
    · exact h.device_order r hr r' hwaiting himei
    · -- the row that commits was the only one of its device
      obtain rfl := List.mem_singleton.1 hr
      rw [h.one_waiting r hrow r' hwaiting himei] at hne
      simp at hne
  · intro r hr r' hr'
    exact h.one_waiting r (List.mem_filter.1 hr).1 r' (List.mem_filter.1 hr').1

theorem HeartbeatInv.env {event : EnvEvent} (h : HeartbeatInv w)
    (hw : w.orderedEnv event = some w') : HeartbeatInv w' := by
  cases event with
  | tick microseconds =>
      obtain rfl := Option.some.inj hw
      refine { h with times_le := ?_ }
      intro row hrow
      have hle : w.now ≤ w.now + (microseconds : ℤ) := by omega
      exact (h.times_le row hrow).trans hle
  | insertHeartbeat imei receivedAt guess =>
      simp only [World.orderedEnv] at hw
      split at hw
      · rename_i hlate
        obtain ⟨⟨hnow, hwaiting⟩, rfl⟩ := World.of_env_insertHeartbeat hw
        exact h.insert hnow hwaiting hlate
      · exact absurd hw (by simp)
  | commit id =>
      obtain ⟨row, hrow, rfl, rfl⟩ := World.of_env_commit hw
      exact h.commit hrow
  | rollback id =>
      obtain rfl := Option.some.inj hw
      have hmem : ∀ {row : StoredHeartbeat}, row ∈ w.deviceHeartbeats ++
          (w.uncommittedHeartbeats.filter fun r => r.id ≠ id) → row ∈ w.heartbeats := by
        intro row hrow
        rcases List.mem_append.1 hrow with hrow | hrow
        · exact World.mem_heartbeats.2 (Or.inl hrow)
        · exact World.mem_heartbeats.2 (Or.inr (List.mem_filter.1 hrow).1)
      refine { h.toHeartbeatIds.rollback id with
               times_le := ?_, times_mono := ?_, device_order := ?_, one_waiting := ?_ }
      · intro row hrow
        exact h.times_le row (hmem hrow)
      · intro row hrow row' hrow'
        exact h.times_mono row (hmem hrow) row' (hmem hrow')
      · intro row hrow row' hrow'
        exact h.device_order row hrow row' (List.mem_filter.1 hrow').1
      · intro row hrow row' hrow'
        exact h.one_waiting row (List.mem_filter.1 hrow).1 row' (List.mem_filter.1 hrow').1
  | setTelegramUsers users =>
      obtain rfl := Option.some.inj hw
      exact { h with }
  | setTelegramSubscriptions subscriptions =>
      obtain rfl := Option.some.inj hw
      exact { h with }

theorem HeartbeatInv.of_same (h : HeartbeatInv w) (hsame : SameHeartbeats w w')
    (hnow : w'.now = w.now) : HeartbeatInv w' := by
  have hrows : w'.heartbeats = w.heartbeats := by
    rw [World.heartbeats, hsame.deviceHeartbeats, hsame.uncommittedHeartbeats, World.heartbeats]
  constructor
  · constructor
    · rw [hrows]
      exact h.ids_nodup
    · rw [hrows, hsame.heartbeatSequence]
      exact h.ids_le
  · rw [hrows, hnow]
    exact h.times_le
  · rw [hrows]
    exact h.times_mono
  · rw [hsame.deviceHeartbeats, hsame.uncommittedHeartbeats]
    exact h.device_order
  · rw [hsame.uncommittedHeartbeats]
    exact h.one_waiting

end Heartbeats

/-! ### What holds of the rides -/

/-- A ride was opened by a visible heartbeat, and no known heartbeat of its device that is still to
be gone through is older; active rides are the ones without an end; ends come after beginnings, and
a ride has ended when the next one of its device and chat begins. -/
structure RideInv (w : World) : Prop extends SessionInv w where
  heartbeats : HeartbeatInv w
  trigger : ∀ s ∈ w.telegramEngineSessions, ∃ row ∈ w.deviceHeartbeats,
    row.id = s.triggerHeartbeatId ∧ row.imei = s.imei ∧ row.serverReceivedAt = s.createdAt
  trigger_le : ∀ s ∈ w.telegramEngineSessions, ∀ row ∈ w.heartbeats, row.imei = s.imei →
    w.Beyond row.id → s.triggerHeartbeatId ≤ row.id
  active_iff : ∀ s ∈ w.telegramEngineSessions,
    s.sessionStatus.isActive = true ↔ s.resolvedAt = none
  ordered : ∀ s ∈ w.telegramEngineSessions, ∀ resolvedAt ∈ s.resolvedAt, s.createdAt ≤ resolvedAt
  separated : ∀ s ∈ w.telegramEngineSessions, ∀ t ∈ w.telegramEngineSessions, s.imei = t.imei →
    s.chatId = t.chatId → s.id < t.id → ∃ resolvedAt ∈ s.resolvedAt, resolvedAt ≤ t.createdAt

theorem heartbeatInv_empty (now : ℤ) : HeartbeatInv (World.empty now) where
  ids_nodup := List.nodup_nil
  ids_le := by simp [World.empty, World.heartbeats]
  times_le := by simp [World.empty, World.heartbeats]
  times_mono := by simp [World.empty, World.heartbeats]
  device_order := by simp [World.empty]
  one_waiting := by simp [World.empty]

theorem rideInv_empty (now : ℤ) : RideInv (World.empty now) where
  toSessionInv := sessionInv_empty now
  heartbeats := heartbeatInv_empty now
  trigger := by simp [World.empty]
  trigger_le := by simp [World.empty]
  active_iff := by simp [World.empty]
  ordered := by simp [World.empty]
  separated := by simp [World.empty]

section Rides

variable {w w' : World} {s : EngineSession}

/-- Rides without an overlap are separate. -/
theorem RideInv.ridesSeparate (h : RideInv w) : RidesSeparate w.telegramEngineSessions := by
  refine ridesSeparate_of_disjoint h.ids_nodup h.ordered ?_
  -- of two rides the one with the smaller id has ended when the other begins
  have hbefore : ∀ s ∈ w.telegramEngineSessions, ∀ t ∈ w.telegramEngineSessions, s.id < t.id →
      s.imei = t.imei → s.chatId = t.chatId → ∀ a b : ℤ, a < b →
        ¬(s.Covers a b ∧ t.Covers a b) := by
    rintro s hs t ht hlt himei hchat a b hab ⟨hsCovers, htCovers⟩
    obtain ⟨resolvedAt, hresolved, hle⟩ := h.separated s hs t ht himei hchat hlt
    have := hsCovers.2 resolvedAt hresolved
    have := htCovers.1
    omega
  intro s hs t ht hne himei hchat a b hab hboth
  rcases Nat.lt_or_gt_of_ne hne with hlt | hlt
  · exact hbefore s hs t ht hlt himei hchat a b hab hboth
  · exact hbefore t ht s hs hlt himei.symm hchat.symm a b hab ⟨hboth.2, hboth.1⟩

/-- A ride begins no later than a heartbeat of its device that is still to be gone through. -/
theorem RideInv.createdAt_le_of_beyond (h : RideInv w) (hs : s ∈ w.telegramEngineSessions)
    {row : StoredHeartbeat} (hrow : row ∈ w.deviceHeartbeats) (himei : row.imei = s.imei)
    (hbeyond : w.Beyond row.id) : s.createdAt ≤ row.serverReceivedAt := by
  obtain ⟨trigger, htrigger, hid, htriggerImei, hcreated⟩ := h.trigger s hs
  have hmem := World.mem_heartbeats.2 (Or.inl hrow)
  have hle := h.trigger_le s hs row hmem himei hbeyond
  rw [← hcreated]
  exact h.heartbeats.times_mono trigger (World.mem_heartbeats.2 (Or.inl htrigger)) row hmem
    (htriggerImei.trans himei.symm) (hid ▸ hle)

theorem RideInv.createdAt_le_now (h : RideInv w) (hs : s ∈ w.telegramEngineSessions) :
    s.createdAt ≤ w.now := by
  obtain ⟨trigger, htrigger, -, -, hcreated⟩ := h.trigger s hs
  rw [← hcreated]
  exact h.heartbeats.times_le trigger (World.mem_heartbeats.2 (Or.inl htrigger))

theorem fetchLatestHeartbeatForImei_spec {rows : List StoredHeartbeat} {imei : String}
    {latest : StoredHeartbeat} (h : fetchLatestHeartbeatForImei rows imei = some latest) :
    latest ∈ rows ∧ latest.imei = imei ∧ ∀ row ∈ rows, row.imei = imei → row.id ≤ latest.id := by
  unfold fetchLatestHeartbeatForImei at h
  have hsorted := pairwise_orderBy_desc StoredHeartbeat.id
    (rows.filter fun row => row.imei = imei)
  have hmem : ∀ row, row ∈ (rows.filter fun row => row.imei = imei).mergeSort
      (fun a b => b.id ≤ a.id) ↔ row ∈ rows ∧ row.imei = imei := by simp
  cases hlist : (rows.filter fun row => row.imei = imei).mergeSort fun a b => b.id ≤ a.id with
  | nil => simp [hlist] at h
  | cons head tail =>
      rw [hlist] at h hsorted
      obtain rfl : head = latest := by simpa using h
      have hhead := (hmem head).1 (by rw [hlist]; exact List.mem_cons_self)
      refine ⟨hhead.1, hhead.2, ?_⟩
      intro row hrow himei
      have hrow := (hmem row).2 ⟨hrow, himei⟩
      rw [hlist] at hrow
      rcases List.mem_cons.1 hrow with rfl | hrow
      · exact le_rfl
      · exact List.rel_of_pairwise_cons hsorted hrow

/-- A ride begins no later than the latest heartbeat of its device. -/
theorem RideInv.createdAt_le_latest (h : RideInv w) (hs : s ∈ w.telegramEngineSessions)
    {latest : StoredHeartbeat}
    (hlatest : fetchLatestHeartbeatForImei w.deviceHeartbeats s.imei = some latest) :
    s.createdAt ≤ latest.serverReceivedAt := by
  obtain ⟨hmem, himei, hmax⟩ := fetchLatestHeartbeatForImei_spec hlatest
  obtain ⟨trigger, htrigger, -, htriggerImei, hcreated⟩ := h.trigger s hs
  rw [← hcreated]
  exact h.heartbeats.times_mono trigger (World.mem_heartbeats.2 (Or.inl htrigger)) latest
    (World.mem_heartbeats.2 (Or.inl hmem)) (htriggerImei.trans himei.symm)
    (hmax trigger htrigger htriggerImei)

/-- The row goes on as another one: it is the same ride, an end it has stays, and what holds of
the ends of rides holds of it. -/
structure EngineSession.GoesOn (row row' : EngineSession) : Prop extends row.Becomes row' where
  active_iff : row'.sessionStatus.isActive = true ↔ row'.resolvedAt = none
  ordered : ∀ resolvedAt ∈ row'.resolvedAt, row'.createdAt ≤ resolvedAt
  kept : ∀ resolvedAt ∈ row.resolvedAt, resolvedAt ∈ row'.resolvedAt

theorem RideInv.goesOn_refl (h : RideInv w) (hs : s ∈ w.telegramEngineSessions) : s.GoesOn s where
  toBecomes := .refl s
  active_iff := h.active_iff s hs
  ordered := h.ordered s hs
  kept := fun _ h => h

/-- The rides go on, and nothing else has changed. -/
theorem RideInv.of_goesOn (h : RideInv w) (hsessions : SessionInv w')
    (hsame : SameHeartbeats w w') (hnow : w'.now = w.now)
    (hrows : ∀ t' ∈ w'.telegramEngineSessions, ∃ t ∈ w.telegramEngineSessions, t.GoesOn t') :
    RideInv w' := by
  refine { hsessions with
           heartbeats := h.heartbeats.of_same hsame hnow,
           trigger := ?_, trigger_le := ?_, active_iff := ?_, ordered := ?_, separated := ?_ }
  · intro t' ht'
    obtain ⟨t, ht, hon⟩ := hrows t' ht'
    rw [hsame.deviceHeartbeats, hon.triggerHeartbeatId, hon.imei, hon.createdAt]
    exact h.trigger t ht
  · intro t' ht' row hrow himei hbeyond
    obtain ⟨t, ht, hon⟩ := hrows t' ht'
    rw [World.heartbeats, hsame.deviceHeartbeats, hsame.uncommittedHeartbeats] at hrow
    rw [World.Beyond, hsame.lastNotifiedHeartbeatId] at hbeyond
    rw [hon.triggerHeartbeatId]
    exact h.trigger_le t ht row hrow (himei.trans hon.imei) hbeyond
  · intro t' ht'
    obtain ⟨t, -, hon⟩ := hrows t' ht'
    exact hon.active_iff
  · intro t' ht'
    obtain ⟨t, -, hon⟩ := hrows t' ht'
    exact hon.ordered
  · intro s' hs' t' ht' himei hchat hlt
    obtain ⟨s, hs, hsOn⟩ := hrows s' hs'
    obtain ⟨t, ht, htOn⟩ := hrows t' ht'
    rw [hsOn.imei, htOn.imei] at himei
    rw [hsOn.chatId, htOn.chatId] at hchat
    rw [hsOn.id, htOn.id] at hlt
    obtain ⟨resolvedAt, hresolved, hle⟩ := h.separated s hs t ht himei hchat hlt
    rw [htOn.createdAt]
    exact ⟨resolvedAt, hsOn.kept resolvedAt hresolved, hle⟩

/-- An update of the row with an id, when that row goes on. -/
theorem RideInv.updateAt (h : RideInv w) (hsessions : SessionInv w')
    (hsame : SameHeartbeats w w') (hnow : w'.now = w.now) {sessionId : ℕ}
    {f : EngineSession → EngineSession}
    (hw' : w'.telegramEngineSessions =
      Relational.updateAt EngineSession.id sessionId f w.telegramEngineSessions)
    (hf : ∀ row ∈ w.telegramEngineSessions, row.id = sessionId → row.GoesOn (f row)) :
    RideInv w' := by
  refine h.of_goesOn hsessions hsame hnow ?_
  intro row' hrow'
  rw [hw'] at hrow'
  obtain ⟨row, hrow, rfl⟩ := mem_updateAt.1 hrow'
  refine ⟨row, hrow, ?_⟩
  by_cases hid : row.id = sessionId
  · rw [if_pos hid]
    exact hf row hrow hid
  · rw [if_neg hid]
    exact h.goesOn_refl hrow

/-- The other processes insert and commit heartbeats; the rides stay. -/
theorem RideInv.env {event : EnvEvent} (h : RideInv w) (hw : w.orderedEnv event = some w') :
    RideInv w' := by
  have henv := env_of_orderedEnv hw
  have hsame := World.sameBotTables_env henv
  have hgrow := heartbeatsGrow_env henv
  refine { h.toSessionInv.of_sameBotTables hsame with
           heartbeats := h.heartbeats.env hw,
           trigger := ?_, trigger_le := ?_, active_iff := ?_, ordered := ?_, separated := ?_ }
  · rw [hsame.telegramEngineSessions]
    intro t ht
    obtain ⟨row, hrow, htrigger⟩ := h.trigger t ht
    exact ⟨row, hgrow.visible row hrow, htrigger⟩
  · rw [hsame.telegramEngineSessions]
    intro t ht row hrow himei hbeyond
    rw [World.Beyond, hsame.lastNotifiedHeartbeatId] at hbeyond
    rcases hgrow.known row hrow with hrow | hnew
    · exact h.trigger_le t ht row hrow himei hbeyond
    · -- a new heartbeat has a larger id than all before it
      obtain ⟨trigger, htrigger, hid, -⟩ := h.trigger t ht
      have := (h.heartbeats.ids_le trigger (World.mem_heartbeats.2 (Or.inl htrigger))).2
      omega
  · rw [hsame.telegramEngineSessions]
    exact h.active_iff
  · rw [hsame.telegramEngineSessions]
    exact h.ordered
  · rw [hsame.telegramEngineSessions]
    exact h.separated

end Rides

/-! ### What the bot owes for the rides -/

/-- A ride is opened by the oldest heartbeat of its device that is still to be gone through, ends
come after beginnings, and the cursor moves forward. -/
def rideOwes (w : World) : Request → Prop
  | .createEngineSession imei _ heartbeatId _ createdAt =>
      (∃ row ∈ w.deviceHeartbeats, row.id = heartbeatId ∧ row.imei = imei ∧
        row.serverReceivedAt = createdAt) ∧ w.Beyond heartbeatId ∧
      ∀ row ∈ w.heartbeats, row.imei = imei → w.Beyond row.id → heartbeatId ≤ row.id
  | .resolveEngineSessionAt sessionId _ resolvedAt =>
      ∀ row ∈ w.telegramEngineSessions, row.id = sessionId → row.createdAt ≤ resolvedAt
  | .setLastNotifiedHeartbeatId id => w.Beyond id
  | _ => True

section Keep

variable {w : World}

/-- The cursor moves forward: fewer heartbeats are still to be gone through. -/
theorem RideInv.advance {id : ℕ} (h : RideInv w) (hbeyond : w.Beyond id) :
    RideInv { w with lastNotifiedHeartbeatId := some id, notified := w.notified ++ [id] } := by
  refine { h with heartbeats := { h.heartbeats with }, trigger_le := ?_ }
  intro s hs row hrow himei hrowBeyond
  refine h.trigger_le s hs row hrow himei ?_
  intro last hlast
  exact (hbeyond last hlast).trans (hrowBeyond id rfl)

/-- A ride is opened after the ends of the rides before it. -/
theorem RideInv.create (h : RideInv w) {imei : String} {chatId : ℤ} {heartbeatId : ℕ}
    {promptMessageId createdAt : ℤ} (outcome : Outcome)
    (hnone : w.activeSessionCount imei chatId = 0)
    (howes : rideOwes w (.createEngineSession imei chatId heartbeatId promptMessageId createdAt))
    (hguard : ∀ row ∈ w.telegramEngineSessions, row.imei = imei → row.chatId = chatId →
      ∀ resolvedAt ∈ row.resolvedAt, ¬ w.IsHeartbeatTime imei heartbeatId resolvedAt →
        resolvedAt ≤ createdAt) :
    RideInv (w.execute outcome
      (.createEngineSession imei chatId heartbeatId promptMessageId createdAt)).2 := by
  obtain ⟨⟨heartbeat, hvisible, rfl, rfl, rfl⟩, -, hfirst⟩ := howes
  have hsessions := h.toSessionInv.create hnone heartbeat.id promptMessageId
    heartbeat.serverReceivedAt outcome
  have hknown := World.mem_heartbeats.2 (Or.inl hvisible)
  refine { hsessions with
           heartbeats := { h.heartbeats with },
           trigger := ?_, trigger_le := ?_, active_iff := ?_, ordered := ?_, separated := ?_ }
  · intro s hs
    rcases List.mem_append.1 hs with hs | hs
    · exact h.trigger s hs
    · obtain rfl := List.mem_singleton.1 hs
      exact ⟨heartbeat, hvisible, rfl, rfl, rfl⟩
  · intro s hs
    rcases List.mem_append.1 hs with hs | hs
    · exact h.trigger_le s hs
    · obtain rfl := List.mem_singleton.1 hs
      exact hfirst
  · intro s hs
    rcases List.mem_append.1 hs with hs | hs
    · exact h.active_iff s hs
    · obtain rfl := List.mem_singleton.1 hs
      simp [SessionStatus.isActive]
  · intro s hs
    rcases List.mem_append.1 hs with hs | hs
    · exact h.ordered s hs
    · obtain rfl := List.mem_singleton.1 hs
      simp
  · intro s hs t ht himei hchat hlt
    rcases List.mem_append.1 hs with hs | hs
    · rcases List.mem_append.1 ht with ht | ht
      · exact h.separated s hs t ht himei hchat hlt
      · obtain rfl := List.mem_singleton.1 ht
        -- no ride of the device and chat is active, so this one has ended
        have hinactive := activeSessionCount_eq_zero.1 hnone s hs himei hchat
        have hended : s.resolvedAt ≠ none := by
          intro hnone
          rw [← h.active_iff s hs, hinactive] at hnone
          exact Bool.false_ne_true hnone
        obtain ⟨resolvedAt, hresolved⟩ := Option.ne_none_iff_exists'.1 hended
        refine ⟨resolvedAt, hresolved, ?_⟩
        by_cases htime : w.IsHeartbeatTime heartbeat.imei heartbeat.id resolvedAt
        · obtain ⟨row, hrow, hrowImei, hle, rfl⟩ := htime
          exact h.heartbeats.times_mono row (World.mem_heartbeats.2 (Or.inl hrow)) heartbeat
            hknown hrowImei hle
        · exact hguard s hs himei hchat resolvedAt hresolved htime
    · obtain rfl := List.mem_singleton.1 hs
      rcases List.mem_append.1 ht with ht | ht
      · have := h.ids_le t ht
        dsimp only at hlt
        omega
      · obtain rfl := List.mem_singleton.1 ht
        exact absurd hlt (lt_irrefl _)

theorem RideInv.answer {outcome : Outcome} {r : Request} (h : RideInv w)
    (hpre : sessionPre w r ∧ rideOwes w r) (hguard : afterForeignEnds.call w r outcome) :
    RideInv (w.answer outcome r).2 := by
  by_cases hfails : (outcome.fails && r.canFail) = true
  · rw [World.answer, if_pos hfails]
    exact h
  rw [World.answer, if_neg hfails]
  have hsessions := (sessionsStep_execute h.toSessionInv hpre.1 outcome).1
  have hsame := fun hr : r.KeepsCursor => sameHeartbeats_execute hr outcome w
  cases r with
  | setLastNotifiedHeartbeatId id => exact h.advance hpre.2
  | createEngineSession imei chatId heartbeatId promptMessageId createdAt =>
      refine h.create outcome hpre.1 hpre.2 (hguard ?_)
      simpa [Request.canFail] using hfails
  | updateEngineSessionStatus sessionId status =>
      obtain ⟨hstatus, row, hrow, rfl, hpending⟩ := hpre.1
      refine h.updateAt hsessions (hsame trivial) rfl rfl ?_
      intro row' hrow' hid
      obtain rfl := h.ids_nodup.eq_of_key_eq hrow' hrow hid
      have hopen : row'.resolvedAt = none := by
        rw [← h.active_iff row' hrow', hpending]
        rfl
      refine ⟨⟨rfl, rfl, rfl, rfl, rfl, Or.inr ?_⟩, ?_, ?_, fun _ h => h⟩
      · rw [hpending]
        rcases hstatus with rfl | rfl
        · exact .confirm
        · exact .report
      · rcases hstatus with rfl | rfl
        · simp [SessionStatus.isActive, hopen]
        · simp [SessionStatus.isActive, hopen]
      · exact h.ordered row' hrow'
  | resolveEngineSessionAt sessionId status resolvedAt =>
      -- the time of the end is the one `rideOwes` asks for
      obtain ⟨rfl, row, hrow, rfl, hactive⟩ := hpre.1
      refine h.updateAt hsessions (hsame trivial) rfl rfl ?_
      intro row' hrow' hid
      obtain rfl := h.ids_nodup.eq_of_key_eq hrow' hrow hid
      refine ⟨⟨rfl, rfl, rfl, rfl, rfl, Or.inr (.finish hactive)⟩, ?_, ?_, ?_⟩
      · simp [SessionStatus.isActive]
      · intro time htime
        obtain rfl : resolvedAt = time := by simpa using htime
        exact hpre.2 row' hrow' rfl
      · simp [(h.active_iff row' hrow').1 hactive]
  | setEngineSessionRideStatusMessageId sessionId messageId =>
      refine h.updateAt hsessions (hsame trivial) rfl rfl ?_
      intro row hrow _
      exact ⟨⟨rfl, rfl, rfl, rfl, rfl, Or.inl rfl⟩, h.active_iff row hrow, h.ordered row hrow,
        fun _ h => h⟩
  | _ => exact { h with heartbeats := { h.heartbeats with } }

end Keep

/-! ### The heartbeats of a pass -/

/-- What a pass knows of the heartbeats it has still to go through: they are visible, in order and
beyond the cursor, and so is every known heartbeat of the device of one of them that is older. -/
structure RidePass (remaining : List StoredHeartbeat) (w : World) : Prop where
  sorted : remaining.Pairwise fun a b => a.id < b.id
  visible : ∀ row ∈ remaining, row ∈ w.deviceHeartbeats
  beyond : ∀ row ∈ remaining, w.Beyond row.id
  first : ∀ m ∈ remaining, ∀ row ∈ w.heartbeats, row.imei = m.imei → w.Beyond row.id →
    row.id < m.id → row ∈ remaining

section Pass

variable {w w' : World} {heartbeat : StoredHeartbeat} {remaining : List StoredHeartbeat}

theorem RidePass.of_same (h : RidePass remaining w) (hsame : SameHeartbeats w w') :
    RidePass remaining w' := by
  constructor
  · exact h.sorted
  · rw [hsame.deviceHeartbeats]
    exact h.visible
  · simp only [World.Beyond, hsame.lastNotifiedHeartbeatId]
    exact h.beyond
  · simp only [World.heartbeats, World.Beyond, hsame.deviceHeartbeats,
      hsame.uncommittedHeartbeats, hsame.lastNotifiedHeartbeatId]
    exact h.first

theorem RidePass.env {event : EnvEvent} (h : RidePass remaining w) (hids : HeartbeatIds w)
    (hw : w.env event = some w') : RidePass remaining w' := by
  have hsame := World.sameBotTables_env hw
  have hgrow := heartbeatsGrow_env hw
  constructor
  · exact h.sorted
  · exact fun row hrow => hgrow.visible row (h.visible row hrow)
  · simp only [World.Beyond, hsame.lastNotifiedHeartbeatId]
    exact h.beyond
  · intro m hm row hrow himei hbeyond hlt
    rw [World.Beyond, hsame.lastNotifiedHeartbeatId] at hbeyond
    rcases hgrow.known row hrow with hrow | hnew
    · exact h.first m hm row hrow himei hbeyond hlt
    · have := (hids.ids_le m (World.mem_heartbeats.2 (Or.inl (h.visible m hm)))).2
      omega

/-- No known heartbeat of the device that is still to be gone through is older than the next. -/
theorem RidePass.le (h : RidePass (heartbeat :: remaining) w) {row : StoredHeartbeat}
    (hrow : row ∈ w.heartbeats) (himei : row.imei = heartbeat.imei) (hbeyond : w.Beyond row.id) :
    heartbeat.id ≤ row.id := by
  by_contra hlt
  have hmem := h.first heartbeat List.mem_cons_self row hrow himei hbeyond (by omega)
  rcases List.mem_cons.1 hmem with rfl | hmem
  · exact hlt le_rfl
  · have := List.rel_of_pairwise_cons h.sorted hmem
    omega

theorem RidePass.advance (h : RidePass (heartbeat :: remaining) w) :
    RidePass remaining { w with
      lastNotifiedHeartbeatId := some heartbeat.id
      notified := w.notified ++ [heartbeat.id] } := by
  have hbeyond := h.beyond heartbeat List.mem_cons_self
  constructor
  · exact (List.pairwise_cons.1 h.sorted).2
  · exact fun row hrow => h.visible row (List.mem_cons_of_mem _ hrow)
  · intro row hrow last hlast
    obtain rfl : heartbeat.id = last := by simpa using hlast
    exact List.rel_of_pairwise_cons h.sorted hrow
  · intro m hm row hrow himei hrowBeyond hlt
    have hpast : heartbeat.id < row.id := hrowBeyond _ rfl
    have hmem := h.first m (List.mem_cons_of_mem _ hm) row hrow himei
      (fun last hlast => (hbeyond last hlast).trans hpast) hlt
    rcases List.mem_cons.1 hmem with rfl | hmem
    · exact absurd hpast (lt_irrefl _)
    · exact hmem

/-- The heartbeats that a pass has just read. -/
theorem ridePass_fetch (h : HeartbeatInv w) (outcome : Outcome) :
    RidePass (fetchNewHeartbeats w.deviceHeartbeats (w.lastNotifiedHeartbeatId.getD 0))
      (w.execute outcome (.fetchNewHeartbeats (w.lastNotifiedHeartbeatId.getD 0))).2 := by
  have hnodup : UniqueOn StoredHeartbeat.id w.deviceHeartbeats :=
    List.Nodup.sublist ((List.sublist_append_left _ _).map _) h.ids_nodup
  constructor
  · exact pairwise_fetchNewHeartbeats hnodup
  · exact fun row hrow => (mem_fetchNewHeartbeats hrow).1
  · intro row hrow last hlast
    have hafter := (mem_fetchNewHeartbeats hrow).2
    rwa [show w.lastNotifiedHeartbeatId = some last from hlast] at hafter
  · intro m hm row hrow himei hbeyond hlt
    have hm' := (mem_fetchNewHeartbeats hm).1
    rcases World.mem_heartbeats.1 hrow with hrow | hrow
    · have hafter : w.lastNotifiedHeartbeatId.getD 0 < row.id := by
        cases hlast : w.lastNotifiedHeartbeatId with
        | none => exact (h.ids_le row (World.mem_heartbeats.2 (Or.inl hrow))).1
        | some last => exact hbeyond last hlast
      obtain ⟨found, hfound, hid⟩ :=
        List.mem_map.1 (fetchNewHeartbeats_complete hrow hafter hm hlt.le)
      rwa [← hnodup.eq_of_key_eq (mem_fetchNewHeartbeats hfound).1 hrow hid]
    · -- a heartbeat of the device whose transaction has not ended has a larger id
      have := h.device_order m hm' row hrow himei.symm
      omega

end Pass

/-! ### The bot keeps the rides separate -/

/-- The rides are kept with the sessions. -/
theorem sessionTerms_rides : SessionTerms (fun event w => w.orderedEnv event) afterForeignEnds
    RideInv rideOwes (fun createdAt endedAt => createdAt ≤ endedAt) RidePass where
  env := env_of_orderedEnv
  sessionInv := fun h => h.toSessionInv
  free := by
    intro w r hr
    cases r with
    | setLastNotifiedHeartbeatId id => exact hr.elim
    | createEngineSession imei chatId triggerHeartbeatId promptMessageId createdAt => exact hr.elim
    | resolveEngineSessionAt sessionId status resolvedAt => exact hr.elim
    | _ => trivial
  opens := by
    intro w heartbeat rest chatId messageId _ hdue _
    refine ⟨⟨heartbeat, hdue.visible heartbeat List.mem_cons_self, rfl, rfl, rfl⟩,
      hdue.beyond heartbeat List.mem_cons_self, ?_⟩
    exact fun row hrow himei hbeyond => hdue.le hrow himei hbeyond
  ends := by
    intro w row endedAt h hrow _ hle row' hrow' hid
    rwa [h.ids_nodup.eq_of_key_eq hrow' hrow hid]
  notes := fun _ _ _ => trivial
  advances := fun _ hdue => hdue.beyond _ List.mem_cons_self
  endsNow := fun h hrow => h.createdAt_le_now hrow
  endsDue := fun h hdue hrow himei => h.createdAt_le_of_beyond hrow
    (hdue.visible _ List.mem_cons_self) himei.symm (hdue.beyond _ List.mem_cons_self)
  endsStale := fun h hrow hlatest => h.createdAt_le_latest hrow hlatest
  due_env := fun h hdue hw => hdue.env h.heartbeats.toHeartbeatIds hw
  due_same := fun hdue hsame => hdue.of_same hsame
  due_fetch := fun h => ridePass_fetch h.heartbeats _
  due_advance := fun _ hdue => hdue.advance

theorem ride_verified :
    orderedBot.Verified afterForeignEnds RideInv fun w r => sessionPre w r ∧ rideOwes w r where
  env := fun _ _ _ h _ hw => h.env hw
  call := fun _ _ _ h hpre hguard => h.answer hpre hguard
  main := fun callbacks w _ => sessionTerms_rides.safe_runIteration callbacks w

/-- A ride that is opened before the end of an earlier one overlaps it. -/
theorem not_ridesSeparate_of_create {w : World} {imei : String} {chatId : ℤ} {heartbeatId : ℕ}
    {promptMessageId createdAt : ℤ} {outcome : Outcome} (h : RideInv w)
    (howes : rideOwes w (.createEngineSession imei chatId heartbeatId promptMessageId createdAt))
    (hguard : ¬ afterForeignEnds.call w
      (.createEngineSession imei chatId heartbeatId promptMessageId createdAt) outcome) :
    ¬ RidesSeparate (w.answer outcome (.createEngineSession imei chatId heartbeatId promptMessageId
      createdAt)).2.telegramEngineSessions := by
  intro hseparate
  obtain ⟨hfails, hguard⟩ := Classical.not_imp.1 hguard
  push Not at hguard
  obtain ⟨row, hrow, rfl, rfl, resolvedAt, hresolved, -, hlt⟩ := hguard
  obtain ⟨⟨heartbeat, hvisible, rfl, himei, rfl⟩, hbeyond, -⟩ := howes
  have hbegins := h.createdAt_le_of_beyond hrow hvisible himei hbeyond
  rw [World.answer, hfails, Bool.false_and, if_neg Bool.false_ne_true] at hseparate
  -- from the heartbeat to the end of the earlier ride both are under way
  refine hseparate.disjoint row (List.mem_append_left _ hrow) _
    (List.mem_append_right _ (List.mem_singleton.2 rfl)) ?_ rfl rfl heartbeat.serverReceivedAt
    resolvedAt hlt ⟨⟨hbegins, ?_⟩, ⟨le_rfl, by simp⟩⟩
  · have := h.ids_le row hrow
    dsimp only
    omega
  · intro time htime
    obtain rfl : resolvedAt = time := Option.some.inj (hresolved.symm.trans htime)
    exact le_rfl

/-- **Exactly when the rides of a device and chat are separate**: in every run of the bot among
devices whose heartbeats arrive in the order of their times, no ride ends before it begins, the
rides of a device and chat share no time, and no GPS segment is counted twice, in every state of
the run, exactly when each heartbeat that opens a ride was received no earlier than those ends of
the rides before it that are not the times of heartbeats up to it. -/
theorem ridesSeparate_iff (now : ℤ) {m : Machine Request Request.Reply World}
    {tr : List (Machine Request Request.Reply World ×
      Event EnvEvent Outcome (List SessionCallback))}
    (run : Run orderedBot.step (.idle (World.empty now)) tr m) :
    ((∀ p ∈ tr, RidesSeparate p.1.world.telegramEngineSessions) ∧
      RidesSeparate m.world.telegramEngineSessions) ↔
        ∀ p ∈ tr, afterForeignEnds.Allows p.1 p.2 := by
  refine ride_verified.always_iff (P := fun w => RidesSeparate w.telegramEngineSessions)
    (fun _ h => h.ridesSeparate) ?_ ?_ (rideInv_empty now) run
  · intro event w w' _ hguard
    exact absurd trivial hguard
  · intro outcome w r h hpre hguard
    cases r with
    | createEngineSession imei chatId heartbeatId promptMessageId createdAt =>
        exact not_ridesSeparate_of_create h hpre.2 hguard
    | _ => exact absurd trivial hguard

/-- A minute after the ride has begun the engine goes off.  While the bot tells the chat, the engine
goes on again; Telegram takes five seconds to answer. -/
def slowAnswer : List (Event EnvEvent Outcome (List SessionCallback)) :=
  engineOn ++ [.env (.tick 60000000), .env (.insertHeartbeat "866221070478388" 60000000 "off"),
    .env (.commit 2), .start []] ++ List.replicate 9 succeeds ++ [.env (.tick 5000000),
    .env (.insertHeartbeat "866221070478388" 62000000 "on"), .env (.commit 3)] ++
  List.replicate 6 succeeds ++ [.start []] ++ List.replicate 7 succeeds

theorem replay_slowAnswer :
    (replay orderedBot.step (.idle (World.empty 0)) slowAnswer).any (fun m => decide
      (∃ s ∈ m.world.telegramEngineSessions, ∃ t ∈ m.world.telegramEngineSessions,
        s.id ≠ t.id ∧ s.imei = t.imei ∧ s.chatId = t.chatId ∧
          s.Covers 62000000 65000000 ∧ t.Covers 62000000 65000000)) = true := by
  decide +kernel

/-- The first ride ends when the bot writes it down, three seconds into the second one. -/
theorem rides_overlap :
    ∃ tr m, tr.map Prod.snd = slowAnswer ∧ Run orderedBot.step (.idle (World.empty 0)) tr m ∧
      ¬ RidesSeparate m.world.telegramEngineSessions := by
  obtain ⟨tr, m, hes, run, hoverlap⟩ := run_of_replay_any replay_slowAnswer
  obtain ⟨s, hs, t, ht, hne, himei, hchat, hboth⟩ := of_decide_eq_true hoverlap
  refine ⟨tr, m, hes, run, ?_⟩
  intro hseparate
  exact hseparate.disjoint s hs t ht hne himei hchat 62000000 65000000 (by omega) hboth

/-- In that run the heartbeat that opens the second ride is outside the condition. -/
theorem ridesSeparate_iff_slowAnswer :
    ∃ tr m, tr.map Prod.snd = slowAnswer ∧ Run orderedBot.step (.idle (World.empty 0)) tr m ∧
      ¬ ∀ p ∈ tr, afterForeignEnds.Allows p.1 p.2 := by
  obtain ⟨tr, m, hes, run, hoverlap⟩ := run_of_replay_any replay_slowAnswer
  obtain ⟨s, hs, t, ht, hne, himei, hchat, hboth⟩ := of_decide_eq_true hoverlap
  refine ⟨tr, m, hes, run, ?_⟩
  intro hguard
  have hseparate := ((ridesSeparate_iff 0 run).2 hguard).2
  exact hseparate.disjoint s hs t ht hne himei hchat 62000000 65000000 (by omega) hboth

end Gt06
