/-
**The notification cursor.**

`process_heartbeat_notifications` remembers the id of the last heartbeat it has gone through and
asks for the rows with larger ids.  The ids of `device_heartbeats` are handed out when a row is
inserted, the rows are seen when their transactions commit, and the transactions of two devices
may commit in the other order.  A row that becomes visible behind the cursor is never asked for.

This module says exactly when that happens.  The condition is about the order of commits alone:
no heartbeat may commit behind the cursor, and the cursor may not pass a heartbeat that has
committed since the rows of the pass were read.

Main definitions:

* `Gt06.World.NoneSkipped` — every visible row up to the cursor has been through the loop;
* `Gt06.inCommitOrder` — the condition on the next event;
* `Gt06.CursorInv` — what holds of the tables in every run that keeps the condition;
* `Gt06.LoopInv` — what holds of the rows a pass has still to go through.

Main results:

* `Gt06.cursor_verified` — the bot keeps `Gt06.CursorInv`;
* `Gt06.noneSkipped_iff` — **exactly when no heartbeat is skipped**;
* `Gt06.heartbeat_skipped` — two devices, one poll, and a heartbeat that is never notified.
-/

import Gt06Server.Bot

set_option relaxedAutoImplicit false
set_option autoImplicit false

namespace Gt06

open Await Relational

/-! ### The condition -/

/-- Every visible row whose id is at most the cursor has been returned by a query of the bot and
has gone through the notification loop. -/
def World.NoneSkipped (w : World) : Prop :=
  ∀ row ∈ w.deviceHeartbeats, ∀ last ∈ w.lastNotifiedHeartbeatId, row.id ≤ last →
    row.id ∈ w.returned ∧ row.id ∈ w.notified

instance (w : World) : Decidable w.NoneSkipped :=
  inferInstanceAs (Decidable (∀ row ∈ w.deviceHeartbeats, ∀ last ∈ w.lastNotifiedHeartbeatId,
    row.id ≤ last → row.id ∈ w.returned ∧ row.id ∈ w.notified))

/-- A heartbeat commits ahead of the cursor, and the cursor moves to an id below those that have
committed since the rows of the pass were read. -/
def inCommitOrder : Guard Request World EnvEvent Outcome where
  env := fun w event =>
    match event with
    | .commit id => ∀ last ∈ w.lastNotifiedHeartbeatId, last < id
    | _ => True
  call := fun w r outcome =>
    match r with
    | .setLastNotifiedHeartbeatId id =>
        outcome.fails = false → ∀ committed ∈ w.committedSinceFetch, id < committed
    | _ => True

/-! ### The rows of a pass -/

section Fetch

variable {rows : List StoredHeartbeat} {afterId : ℕ} {row : StoredHeartbeat}

theorem mem_fetchNewHeartbeats (h : row ∈ fetchNewHeartbeats rows afterId) :
    row ∈ rows ∧ afterId < row.id := by
  have h := List.mem_of_mem_take h
  rw [List.mem_mergeSort, List.mem_filter] at h
  exact ⟨h.1, by simpa using h.2⟩

theorem sorted_fetch (rows : List StoredHeartbeat) (afterId : ℕ) :
    ((rows.filter fun row => afterId < row.id).mergeSort fun a b => a.id ≤ b.id).Pairwise
      fun a b => a.id ≤ b.id := pairwise_orderBy StoredHeartbeat.id _

theorem pairwise_fetchNewHeartbeats (hrows : UniqueOn StoredHeartbeat.id rows) :
    (fetchNewHeartbeats rows afterId).Pairwise fun a b => a.id < b.id := by
  have hsorted : (fetchNewHeartbeats rows afterId).Pairwise fun a b => a.id ≤ b.id :=
    (sorted_fetch rows afterId).sublist (List.take_sublist _ _)
  have hunique : ((rows.filter fun row => afterId < row.id).map StoredHeartbeat.id).Nodup :=
    List.Nodup.sublist (List.filter_sublist.map _) hrows
  have hne : (fetchNewHeartbeats rows afterId).Pairwise fun a b => a.id ≠ b.id := by
    have hperm := (List.mergeSort_perm (rows.filter fun row => afterId < row.id)
      fun a b => decide (a.id ≤ b.id)).map StoredHeartbeat.id
    have hnodup := hperm.nodup_iff.2 hunique
    exact (List.pairwise_map.1 hnodup).sublist (List.take_sublist _ _)
  exact (hsorted.and hne).imp fun h => lt_of_le_of_ne h.1 h.2

/-- The limit cuts off the largest ids: a row that is not returned has a larger id than all that
are. -/
theorem fetchNewHeartbeats_complete {m : StoredHeartbeat} (hrow : row ∈ rows)
    (hafter : afterId < row.id) (hm : m ∈ fetchNewHeartbeats rows afterId) (hle : row.id ≤ m.id) :
    row.id ∈ (fetchNewHeartbeats rows afterId).map StoredHeartbeat.id := by
  have hmem : row ∈ (rows.filter fun row => afterId < row.id).mergeSort fun a b => a.id ≤ b.id := by
    rw [List.mem_mergeSort, List.mem_filter]
    exact ⟨hrow, by simpa using hafter⟩
  rw [← List.take_append_drop 100 ((rows.filter fun row => afterId < row.id).mergeSort
    fun a b => a.id ≤ b.id), List.mem_append] at hmem
  rcases hmem with hmem | hmem
  · exact List.mem_map_of_mem hmem
  · have hsorted := sorted_fetch rows afterId
    rw [← List.take_append_drop 100 ((rows.filter fun row => afterId < row.id).mergeSort
      fun a b => a.id ≤ b.id), List.pairwise_append] at hsorted
    have hge : m.id ≤ row.id := hsorted.2.2 m hm row hmem
    have heq : m.id = row.id := le_antisymm hge hle
    exact heq ▸ List.mem_map_of_mem hm

end Fetch

/-! ### The ids -/

/-- The ids of the heartbeats are those of one sequence. -/
structure HeartbeatIds (w : World) : Prop where
  ids_nodup : UniqueOn StoredHeartbeat.id w.heartbeats
  ids_le : ∀ row ∈ w.heartbeats, 0 < row.id ∧ row.id ≤ w.heartbeatSequence

section Ids

variable {w w' : World}

theorem HeartbeatIds.insert (h : HeartbeatIds w) (imei : String) (receivedAt : ℤ)
    (guess : String) :
    HeartbeatIds { w with
      heartbeatSequence := w.heartbeatSequence + 1
      uncommittedHeartbeats := w.uncommittedHeartbeats ++
        [⟨w.heartbeatSequence + 1, imei, receivedAt, guess⟩] } := by
  constructor
  · rw [World.heartbeats, ← List.append_assoc]
    refine h.ids_nodup.append ?_
    intro row hrow
    have := (h.ids_le row hrow).2
    dsimp only
    omega
  · intro row hrow
    rw [World.heartbeats, ← List.append_assoc, List.mem_append] at hrow
    rcases hrow with hrow | hrow
    · exact ⟨(h.ids_le row hrow).1, (h.ids_le row hrow).2.trans (Nat.le_succ _)⟩
    · obtain rfl := List.mem_singleton.1 hrow
      exact ⟨Nat.succ_pos _, le_rfl⟩

theorem HeartbeatIds.not_visible {row : StoredHeartbeat} (h : HeartbeatIds w)
    (hrow : row ∈ w.uncommittedHeartbeats) :
    row.id ∉ w.deviceHeartbeats.map StoredHeartbeat.id := by
  intro hmem
  have hnodup := h.ids_nodup
  rw [UniqueOn, World.heartbeats, List.map_append, List.nodup_append] at hnodup
  exact hnodup.2.2 row.id hmem row.id (List.mem_map_of_mem hrow) rfl

theorem HeartbeatIds.commit {row : StoredHeartbeat} (h : HeartbeatIds w)
    (hrow : row ∈ w.uncommittedHeartbeats) :
    HeartbeatIds { w with
      uncommittedHeartbeats := w.uncommittedHeartbeats.filter fun r => r.id ≠ row.id
      deviceHeartbeats := w.deviceHeartbeats ++ [row]
      committedSinceFetch := w.committedSinceFetch ++ [row.id] } := by
  constructor
  · have hnodup := h.ids_nodup
    rw [UniqueOn, World.heartbeats, List.map_append, List.nodup_append] at hnodup
    obtain ⟨hvisible, hwaiting, hdisjoint⟩ := hnodup
    rw [UniqueOn, World.heartbeats, List.append_assoc, List.singleton_append, List.map_append,
      List.map_cons, List.nodup_append, List.nodup_cons]
    refine ⟨hvisible, ⟨?_, List.Nodup.sublist (List.filter_sublist.map _) hwaiting⟩, ?_⟩
    · intro hmem
      obtain ⟨r, hr, hid⟩ := List.mem_map.1 hmem
      exact absurd hid (by simpa using (List.mem_filter.1 hr).2)
    · rintro a ha b hb rfl
      rcases List.mem_cons.1 hb with rfl | hb
      · exact h.not_visible hrow ha
      · obtain ⟨r, hr, rfl⟩ := List.mem_map.1 hb
        exact hdisjoint _ ha _ (List.mem_map_of_mem (List.mem_filter.1 hr).1) rfl
  · intro r hr
    refine h.ids_le r ?_
    simp only [World.mem_heartbeats, List.mem_append, List.mem_singleton, List.mem_filter] at hr ⊢
    rcases hr with (hr | rfl) | ⟨hr, -⟩
    · exact Or.inl hr
    · exact Or.inr hrow
    · exact Or.inr hr

theorem HeartbeatIds.rollback (h : HeartbeatIds w) (id : ℕ) :
    HeartbeatIds { w with
      uncommittedHeartbeats := w.uncommittedHeartbeats.filter fun r => r.id ≠ id } := by
  constructor
  · have hsub := (List.Sublist.refl w.deviceHeartbeats).append
      (List.filter_sublist (p := fun r => decide (r.id ≠ id)) (l := w.uncommittedHeartbeats))
    exact List.Nodup.sublist (hsub.map StoredHeartbeat.id) h.ids_nodup
  · intro row hrow
    refine h.ids_le row (World.mem_heartbeats.2 ?_)
    rcases World.mem_heartbeats.1 hrow with hrow | hrow
    · exact Or.inl hrow
    · exact Or.inr (List.mem_filter.1 hrow).1

theorem HeartbeatIds.env {event : EnvEvent} (h : HeartbeatIds w) (hw : w.env event = some w') :
    HeartbeatIds w' := by
  cases event with
  | insertHeartbeat imei receivedAt guess =>
      obtain ⟨-, rfl⟩ := World.of_env_insertHeartbeat hw
      exact h.insert imei receivedAt guess
  | commit id =>
      obtain ⟨row, hmem, rfl, rfl⟩ := World.of_env_commit hw
      exact h.commit hmem
  | rollback id =>
      obtain rfl := Option.some.inj hw
      exact h.rollback id
  | _ =>
      obtain rfl := Option.some.inj hw
      exact ⟨h.ids_nodup, h.ids_le⟩

end Ids

/-! ### What holds of the tables -/

/-- What was returned was visible then, and what has become visible since has not been
returned. -/
structure CursorInv (w : World) : Prop extends HeartbeatIds w where
  returned_visible : ∀ id ∈ w.returned, id ∈ w.deviceHeartbeats.map StoredHeartbeat.id
  fresh_visible : ∀ id ∈ w.committedSinceFetch, id ∈ w.deviceHeartbeats.map StoredHeartbeat.id
  fresh_not_returned : ∀ id ∈ w.committedSinceFetch, id ∉ w.returned
  noneSkipped : w.NoneSkipped

theorem cursorInv_empty (now : ℤ) : CursorInv (World.empty now) where
  ids_nodup := List.nodup_nil
  ids_le := by simp [World.empty, World.heartbeats]
  returned_visible := by simp [World.empty]
  fresh_visible := by simp [World.empty]
  fresh_not_returned := by simp [World.empty]
  noneSkipped := by simp [World.empty, World.NoneSkipped]

/-- What the bot owes before it moves the cursor: the row was returned, and the rows between the
cursor and it have become visible too late for the pass. -/
def cursorPre (w : World) : Request → Prop
  | .setLastNotifiedHeartbeatId id =>
      id ∈ w.returned ∧ ∀ row ∈ w.deviceHeartbeats,
        (∀ last ∈ w.lastNotifiedHeartbeatId, last < row.id) → row.id ≤ id →
          row.id ∉ w.committedSinceFetch → row.id = id
  | _ => True

section Keep

variable {w w' : World}

/-- A commit ahead of the cursor keeps the invariant. -/
theorem CursorInv.commit {row : StoredHeartbeat} (h : CursorInv w)
    (hrow : row ∈ w.uncommittedHeartbeats)
    (hahead : ∀ last ∈ w.lastNotifiedHeartbeatId, last < row.id) :
    CursorInv { w with
      uncommittedHeartbeats := w.uncommittedHeartbeats.filter fun r => r.id ≠ row.id
      deviceHeartbeats := w.deviceHeartbeats ++ [row]
      committedSinceFetch := w.committedSinceFetch ++ [row.id] } := by
  refine { h.toHeartbeatIds.commit hrow with
           returned_visible := ?_, fresh_visible := ?_, fresh_not_returned := ?_,
           noneSkipped := ?_ }
  · intro id hid
    rw [List.map_append, List.mem_append]
    exact Or.inl (h.returned_visible id hid)
  · intro id hid
    rw [List.map_append, List.mem_append]
    rcases List.mem_append.1 hid with hid | hid
    · exact Or.inl (h.fresh_visible id hid)
    · exact Or.inr hid
  · intro id hid
    rcases List.mem_append.1 hid with hid | hid
    · exact h.fresh_not_returned id hid
    · obtain rfl := List.mem_singleton.1 hid
      exact fun hret => h.not_visible hrow (h.returned_visible _ hret)
  · intro r hr last hlast hle
    rcases List.mem_append.1 hr with hr | hr
    · exact h.noneSkipped r hr last hlast hle
    · obtain rfl := List.mem_singleton.1 hr
      exact absurd (hahead last hlast) (by omega)

theorem cursorInv_env {event : EnvEvent} (h : CursorInv w) (hguard : inCommitOrder.env w event)
    (hw : w.env event = some w') : CursorInv w' := by
  have hids := h.toHeartbeatIds.env hw
  cases event with
  | insertHeartbeat imei receivedAt guess =>
      obtain ⟨-, rfl⟩ := World.of_env_insertHeartbeat hw
      exact { hids, h with }
  | commit id =>
      obtain ⟨row, hmem, rfl, rfl⟩ := World.of_env_commit hw
      exact h.commit hmem hguard
  | _ =>
      obtain rfl := Option.some.inj hw
      exact { hids, h with }

/-- The rows of a pass are returned, and nothing is fresh any more. -/
theorem CursorInv.fetch (h : CursorInv w) (afterId : ℕ) :
    CursorInv { w with
      returned := w.returned ++
        (fetchNewHeartbeats w.deviceHeartbeats afterId).map StoredHeartbeat.id
      committedSinceFetch := [] } := by
  refine { h with returned_visible := ?_, fresh_visible := ?_, fresh_not_returned := ?_,
                  noneSkipped := ?_ }
  · intro id hid
    rcases List.mem_append.1 hid with hid | hid
    · exact h.returned_visible id hid
    · obtain ⟨row, hrow, rfl⟩ := List.mem_map.1 hid
      exact List.mem_map_of_mem (mem_fetchNewHeartbeats hrow).1
  · intro id hid
    exact absurd hid List.not_mem_nil
  · intro id hid
    exact absurd hid List.not_mem_nil
  · intro row hrow last hlast hle
    obtain ⟨hreturned, hnotified⟩ := h.noneSkipped row hrow last hlast hle
    exact ⟨List.mem_append_left _ hreturned, hnotified⟩

/-- The cursor moves over the one row that was due. -/
theorem CursorInv.advance {id : ℕ} (h : CursorInv w)
    (hpre : cursorPre w (.setLastNotifiedHeartbeatId id))
    (hguard : ∀ committed ∈ w.committedSinceFetch, id < committed) :
    CursorInv { w with lastNotifiedHeartbeatId := some id, notified := w.notified ++ [id] } := by
  refine { h with noneSkipped := ?_ }
  intro row hrow last hlast hle
  obtain rfl : id = last := by simpa using hlast
  obtain ⟨hreturned, hdue⟩ := hpre
  by_cases hbefore : ∃ last ∈ w.lastNotifiedHeartbeatId, row.id ≤ last
  · obtain ⟨last, hlast, hle⟩ := hbefore
    obtain ⟨hreturned, hnotified⟩ := h.noneSkipped row hrow last hlast hle
    exact ⟨hreturned, List.mem_append_left _ hnotified⟩
  · have hahead : ∀ last ∈ w.lastNotifiedHeartbeatId, last < row.id := by
      intro last hlast
      by_contra hlt
      exact hbefore ⟨last, hlast, by omega⟩
    have hfresh : row.id ∉ w.committedSinceFetch := by
      intro hfresh
      exact absurd (hguard _ hfresh) (by omega)
    rw [hdue row hrow hahead hle hfresh]
    exact ⟨hreturned, by simp⟩

/-! ### What the other requests leave alone -/

/-- The request neither moves the cursor nor reads the rows beyond it. -/
def Request.KeepsCursor : Request → Prop
  | .setLastNotifiedHeartbeatId _ => False
  | .fetchNewHeartbeats _ => False
  | _ => True

/-- The worlds agree about the heartbeats. -/
structure SameHeartbeats (w w' : World) : Prop where
  heartbeatSequence : w'.heartbeatSequence = w.heartbeatSequence
  uncommittedHeartbeats : w'.uncommittedHeartbeats = w.uncommittedHeartbeats
  deviceHeartbeats : w'.deviceHeartbeats = w.deviceHeartbeats
  lastNotifiedHeartbeatId : w'.lastNotifiedHeartbeatId = w.lastNotifiedHeartbeatId
  returned : w'.returned = w.returned
  notified : w'.notified = w.notified
  committedSinceFetch : w'.committedSinceFetch = w.committedSinceFetch

theorem SameHeartbeats.refl (w : World) : SameHeartbeats w w := ⟨rfl, rfl, rfl, rfl, rfl, rfl, rfl⟩

theorem sameHeartbeats_execute {r : Request} (hr : r.KeepsCursor) (outcome : Outcome) (w : World) :
    SameHeartbeats w (w.execute outcome r).2 := by
  cases r with
  | setLastNotifiedHeartbeatId id => exact hr.elim
  | fetchNewHeartbeats afterId => exact hr.elim
  | _ => exact ⟨rfl, rfl, rfl, rfl, rfl, rfl, rfl⟩

theorem sameHeartbeats_answer {r : Request} (hr : r.KeepsCursor) (outcome : Outcome) (w : World) :
    SameHeartbeats w (w.answer outcome r).2 := by
  rcases w.answer_cases outcome r with h | h
  · rw [h]
    exact SameHeartbeats.refl w
  · rw [h]
    exact sameHeartbeats_execute hr outcome w

theorem CursorInv.of_same (h : CursorInv w) (hsame : SameHeartbeats w w') : CursorInv w' := by
  obtain ⟨hseq, hwait, hrows, hlast, hret, hnot, hfresh⟩ := hsame
  constructor
  · constructor
    · rw [World.heartbeats, hrows, hwait]
      exact h.ids_nodup
    · rw [World.heartbeats, hrows, hwait, hseq]
      exact h.ids_le
  · rw [hret, hrows]
    exact h.returned_visible
  · rw [hfresh, hrows]
    exact h.fresh_visible
  · rw [hfresh, hret]
    exact h.fresh_not_returned
  · rw [World.NoneSkipped, hrows, hlast, hret, hnot]
    exact h.noneSkipped

theorem answer_setLastNotified {outcome : Outcome} (hfails : outcome.fails = false) (id : ℕ) :
    (w.answer outcome (.setLastNotifiedHeartbeatId id)).2 =
      { w with lastNotifiedHeartbeatId := some id, notified := w.notified ++ [id] } := by
  simp only [World.answer, hfails, Bool.false_and, Bool.false_eq_true, if_false, World.execute]

theorem cursorInv_answer {outcome : Outcome} {r : Request} (h : CursorInv w) (hpre : cursorPre w r)
    (hguard : inCommitOrder.call w r outcome) : CursorInv (w.answer outcome r).2 := by
  by_cases hr : r.KeepsCursor
  · exact h.of_same (sameHeartbeats_answer hr outcome w)
  · cases r with
    | setLastNotifiedHeartbeatId id =>
        cases hfails : outcome.fails with
        | true =>
            simp only [World.answer, hfails, Request.canFail, Bool.and_self, if_true]
            exact h
        | false =>
            rw [answer_setLastNotified hfails]
            exact h.advance hpre (hguard hfails)
    | fetchNewHeartbeats afterId =>
        rcases w.answer_cases outcome (.fetchNewHeartbeats afterId) with hw | hw
        · rw [hw]
          exact h
        · rw [hw]
          exact h.fetch afterId
    | _ => exact absurd trivial hr

end Keep

/-! ### A pass -/

/-- What a pass knows of the rows it has still to go through: they are returned, ahead of the
cursor and in order, and they are all there are between the cursor and the last of them but for
the ones that have become visible since. -/
structure LoopInv (remaining : List StoredHeartbeat) (w : World) : Prop where
  sorted : remaining.Pairwise fun a b => a.id < b.id
  returned : ∀ row ∈ remaining, row.id ∈ w.returned
  ahead : ∀ row ∈ remaining, ∀ last ∈ w.lastNotifiedHeartbeatId, last < row.id
  complete : ∀ row ∈ w.deviceHeartbeats, (∀ last ∈ w.lastNotifiedHeartbeatId, last < row.id) →
    row.id ∉ w.committedSinceFetch → ∀ m ∈ remaining, row.id ≤ m.id →
      row.id ∈ remaining.map StoredHeartbeat.id

section Pass

variable {w w' : World} {heartbeat : StoredHeartbeat} {remaining : List StoredHeartbeat}

theorem LoopInv.of_same (h : LoopInv remaining w) (hsame : SameHeartbeats w w') :
    LoopInv remaining w' := by
  obtain ⟨-, -, hrows, hlast, hret, -, hfresh⟩ := hsame
  constructor
  · exact h.sorted
  · rw [hret]
    exact h.returned
  · rw [hlast]
    exact h.ahead
  · rw [hrows, hlast, hfresh]
    exact h.complete

/-- A row that becomes visible during the pass is one of those excepted. -/
theorem LoopInv.env {event : EnvEvent} (h : LoopInv remaining w) (hw : w.env event = some w') :
    LoopInv remaining w' := by
  cases event with
  | insertHeartbeat imei receivedAt guess =>
      obtain ⟨-, rfl⟩ := World.of_env_insertHeartbeat hw
      exact { h with }
  | commit id =>
      obtain ⟨row, -, hid, rfl⟩ := World.of_env_commit hw
      refine { h with complete := ?_ }
      intro r hr hahead hfresh
      rw [List.mem_append, not_or] at hfresh
      rcases List.mem_append.1 hr with hr | hr
      · exact h.complete r hr hahead hfresh.1
      · obtain rfl := List.mem_singleton.1 hr
        exact absurd (List.mem_singleton.2 hid) hfresh.2
  | _ =>
      obtain rfl := Option.some.inj hw
      exact { h with }

/-- The rows that a pass has just read. -/
theorem loopInv_fetch (h : CursorInv w) :
    LoopInv (fetchNewHeartbeats w.deviceHeartbeats (w.lastNotifiedHeartbeatId.getD 0))
      { w with
        returned := w.returned ++ (fetchNewHeartbeats w.deviceHeartbeats
          (w.lastNotifiedHeartbeatId.getD 0)).map StoredHeartbeat.id
        committedSinceFetch := [] } := by
  have hnodup : UniqueOn StoredHeartbeat.id w.deviceHeartbeats :=
    List.Nodup.sublist ((List.sublist_append_left _ _).map _) h.ids_nodup
  constructor
  · exact pairwise_fetchNewHeartbeats hnodup
  · intro row hrow
    exact List.mem_append_right _ (List.mem_map_of_mem hrow)
  · intro row hrow last hlast
    have hafter := (mem_fetchNewHeartbeats hrow).2
    rwa [show w.lastNotifiedHeartbeatId = some last from hlast] at hafter
  · intro row hrow hahead _ m hm hle
    refine fetchNewHeartbeats_complete hrow ?_ hm hle
    cases hlast : w.lastNotifiedHeartbeatId with
    | none => exact (h.ids_le row (World.mem_heartbeats.2 (Or.inl hrow))).1
    | some last => exact hahead last hlast

/-- What is owed before the cursor moves over the next row. -/
theorem LoopInv.pre (h : LoopInv (heartbeat :: remaining) w) :
    cursorPre w (.setLastNotifiedHeartbeatId heartbeat.id) := by
  refine ⟨h.returned _ List.mem_cons_self, ?_⟩
  intro row hrow hahead hle hfresh
  have hmem := h.complete row hrow hahead hfresh heartbeat List.mem_cons_self hle
  obtain ⟨m, hm, hid⟩ := List.mem_map.1 hmem
  rcases List.mem_cons.1 hm with rfl | hm
  · exact hid.symm
  · have := List.rel_of_pairwise_cons h.sorted hm
    omega

/-- The rest of the pass once the cursor has moved over a row. -/
theorem LoopInv.advance (h : LoopInv (heartbeat :: remaining) w) :
    LoopInv remaining { w with
      lastNotifiedHeartbeatId := some heartbeat.id
      notified := w.notified ++ [heartbeat.id] } := by
  constructor
  · exact (List.pairwise_cons.1 h.sorted).2
  · intro row hrow
    exact h.returned row (List.mem_cons_of_mem _ hrow)
  · intro row hrow last hlast
    obtain rfl : heartbeat.id = last := by simpa using hlast
    exact List.rel_of_pairwise_cons h.sorted hrow
  · intro row hrow hahead hfresh m hm hle
    have hgt : heartbeat.id < row.id := hahead _ rfl
    have hbefore : ∀ last ∈ w.lastNotifiedHeartbeatId, last < row.id := fun last hlast =>
      (h.ahead heartbeat List.mem_cons_self last hlast).trans hgt
    have hmem := h.complete row hrow hbefore hfresh m (List.mem_cons_of_mem _ hm) hle
    rw [List.map_cons, List.mem_cons] at hmem
    rcases hmem with hid | hmem
    · omega
    · exact hmem

end Pass

/-! ### The programs that leave the cursor alone -/

section Uses

variable {chatId : ℤ} {imei : String} {session : EngineSession} {sessions : List EngineSession}
  {endedAt : ℤ} {sendAlert : Bool} {heartbeat : StoredHeartbeat} {status : EngineStatus}

theorem uses_ask_bind {α : Type} {r : Request} {f : r.Reply → BotM α} (hr : r.KeepsCursor)
    (hf : ∀ x, (f x).Uses Request.KeepsCursor) : (ask r >>= f).Uses Request.KeepsCursor :=
  Prog.uses_bind (Prog.uses_request hr) hf

theorem uses_attempt_bind {α β : Type} {p : BotM α} {f : Option α → BotM β}
    (hp : p.Uses Request.KeepsCursor) (hf : ∀ x, (f x).Uses Request.KeepsCursor) :
    (p.attempt >>= f).Uses Request.KeepsCursor :=
  Prog.uses_bind (Prog.uses_attempt hp) hf

theorem resolveEngineSession_uses (sessionId : ℕ) (status : SessionStatus) :
    (resolveEngineSession sessionId status).Uses Request.KeepsCursor :=
  uses_ask_bind trivial fun _ => Prog.uses_request trivial

theorem finishRideSessionAndSendSummary_uses :
    (finishRideSessionAndSendSummary chatId imei session endedAt sendAlert).Uses
      Request.KeepsCursor := by
  unfold finishRideSessionAndSendSummary
  cases session.rideStatusMessageId with
  | some messageId => exact uses_ask_bind trivial fun _ => trivial
  | none =>
      refine uses_ask_bind trivial ?_
      intro finishedMessageId
      refine uses_ask_bind trivial ?_
      intro summary
      refine uses_ask_bind trivial ?_
      intro _
      refine Prog.uses_bind (sendTheftEngineOffAlert_uses fun _ => trivial) ?_
      intro _
      refine Prog.uses_bind (sendRideSummary_uses trivial (fun _ => trivial) _) ?_
      intro messageId
      exact Prog.uses_bind (resolveEngineSession_uses _ _) fun _ => trivial

theorem finishActiveEngineSessions_uses :
    (finishActiveEngineSessions chatId imei sessions endedAt sendAlert).Uses
      Request.KeepsCursor := by
  refine Prog.uses_foldlM ?_
  intro _ session _
  refine Prog.uses_bind (clearConfirmationKeyboard_uses fun _ => trivial) ?_
  intro _
  exact Prog.uses_bind finishRideSessionAndSendSummary_uses fun _ => trivial

theorem finishInactiveSubscriptionSessions_uses :
    (finishInactiveSubscriptionSessions imei chatId endedAt).Uses Request.KeepsCursor := by
  refine uses_ask_bind trivial ?_
  intro sessions
  refine Prog.uses_forM ?_
  intro session _
  exact Prog.uses_bind (clearConfirmationKeyboard_uses fun _ => trivial) fun _ =>
    Prog.uses_request trivial

theorem lastOnHeartbeatAt_uses (existing : Option NotificationState) :
    (lastOnHeartbeatAt existing).Uses Request.KeepsCursor := by
  unfold lastOnHeartbeatAt
  split
  · exact Prog.uses_request trivial
  · trivial

theorem startEngineSession_uses :
    (startEngineSession heartbeat chatId sessions).Uses Request.KeepsCursor := by
  refine Prog.uses_bind finishActiveEngineSessions_uses ?_
  intro _
  refine uses_ask_bind trivial ?_
  intro messageId
  exact uses_ask_bind trivial fun _ => Prog.uses_request trivial

theorem processEngineOnNotificationForChat_uses (existing : Option NotificationState) :
    (processEngineOnNotificationForChat heartbeat chatId existing).Uses Request.KeepsCursor := by
  refine uses_ask_bind trivial ?_
  intro sessions
  refine Prog.uses_bind (lastOnHeartbeatAt_uses existing) ?_
  intro lastOn
  split
  · exact startEngineSession_uses
  · exact Prog.uses_request trivial

theorem finishOrNotify_uses :
    (finishOrNotify heartbeat status chatId sessions).Uses Request.KeepsCursor := by
  refine Prog.uses_bind finishActiveEngineSessions_uses ?_
  intro finished
  cases finished with
  | some messageId => trivial
  | none => exact Prog.uses_request trivial

theorem processEngineOffNotificationForChat_uses :
    (processEngineOffNotificationForChat heartbeat status chatId).Uses Request.KeepsCursor := by
  refine uses_ask_bind trivial ?_
  intro sessions
  exact Prog.uses_bind finishOrNotify_uses fun _ => Prog.uses_request trivial

theorem processHeartbeatNotificationForChat_uses :
    (processHeartbeatNotificationForChat heartbeat status chatId).Uses Request.KeepsCursor := by
  refine uses_ask_bind trivial ?_
  intro existing
  cases status with
  | on => exact processEngineOnNotificationForChat_uses existing
  | off =>
      dsimp only
      split
      · exact Prog.uses_request trivial
      · exact processEngineOffNotificationForChat_uses

theorem processInactiveSubscriptionNotificationForChat_uses :
    (processInactiveSubscriptionNotificationForChat heartbeat status chatId).Uses
      Request.KeepsCursor := by
  refine uses_ask_bind trivial ?_
  intro existing
  split
  · exact Prog.uses_request trivial
  · exact uses_ask_bind trivial fun _ => Prog.uses_request trivial

theorem notifyRecipient_uses (recipient : NotificationRecipient) :
    (notifyRecipient heartbeat status recipient).Uses Request.KeepsCursor := by
  unfold notifyRecipient
  split
  · exact uses_attempt_bind processHeartbeatNotificationForChat_uses fun _ => trivial
  · cases status with
    | off =>
        exact uses_attempt_bind processInactiveSubscriptionNotificationForChat_uses
          fun _ => finishInactiveSubscriptionSessions_uses
    | on =>
        exact uses_attempt_bind processInactiveSubscriptionNotificationForChat_uses
          fun _ => trivial

theorem notifyRecipients_uses (recipients : List NotificationRecipient) :
    (notifyRecipients heartbeat recipients).Uses Request.KeepsCursor := by
  unfold notifyRecipients
  split
  · exact Prog.uses_forM fun recipient _ => notifyRecipient_uses recipient
  · trivial

theorem processStaleEngineSessions_uses :
    processStaleEngineSessions.Uses Request.KeepsCursor := by
  refine uses_ask_bind trivial ?_
  intro sessions
  refine uses_ask_bind trivial ?_
  intro referenceTime
  refine Prog.uses_forM ?_
  intro group _
  refine uses_ask_bind trivial ?_
  intro latest
  split
  · exact Prog.uses_bind finishActiveEngineSessions_uses fun _ => trivial
  · trivial

theorem ensureActiveSubscriptionForCallback_uses (query : SessionCallback) :
    (ensureActiveSubscriptionForCallback query).Uses Request.KeepsCursor := by
  refine uses_ask_bind trivial ?_
  intro now
  refine uses_ask_bind trivial ?_
  intro active
  split
  · trivial
  · refine uses_ask_bind trivial ?_
    intro _
    refine Prog.uses_bind ?_ fun _ => uses_ask_bind trivial fun _ => trivial
    unfold clearProtectedKeyboard
    split
    · exact uses_attempt_bind (Prog.uses_request trivial) fun _ => trivial
    · trivial

theorem answerSession_uses (query : SessionCallback) :
    (answerSession query session).Uses Request.KeepsCursor := by
  unfold answerSession
  split
  all_goals
    refine uses_ask_bind trivial ?_
    intro _
    exact uses_attempt_bind (Prog.uses_request trivial) fun _ => Prog.uses_request trivial

theorem handleSessionCallback_uses (query : SessionCallback) :
    (handleSessionCallback query).Uses Request.KeepsCursor := by
  refine Prog.uses_bind (ensureActiveSubscriptionForCallback_uses query) ?_
  intro active
  split
  · refine uses_ask_bind trivial ?_
    intro session
    unfold handleSession
    split
    · exact Prog.uses_request trivial
    · split
      · exact Prog.uses_request trivial
      · split
        · exact Prog.uses_request trivial
        · refine uses_ask_bind trivial ?_
          intro _
          exact uses_ask_bind trivial fun _ => answerSession_uses query
  · trivial

end Uses

/-! ### The bot keeps the invariant -/

/-- The terms under which the bot moves the cursor. -/
def cursorContract : Contract Request Request.Reply World :=
  bot.contract inCommitOrder CursorInv cursorPre

theorem stable_loopInv (remaining : List StoredHeartbeat) :
    cursorContract.Stable (LoopInv remaining) := by
  rintro w w' ⟨event, -, -, hw⟩ h
  exact h.env hw

theorem stable_lastNotified (last : Option ℕ) :
    cursorContract.Stable fun w => w.lastNotifiedHeartbeatId = last := by
  rintro w w' ⟨event, -, -, hw⟩ rfl
  exact (World.sameBotTables_env hw).lastNotifiedHeartbeatId

/-- A program that leaves the cursor alone leaves the rest of the pass as it is. -/
theorem safe_of_keepsCursor {α : Type} {p : BotM α} (hp : p.Uses Request.KeepsCursor)
    {remaining : List StoredHeartbeat} {w : World} (h : LoopInv remaining w) :
    cursorContract.Safe p (fun _ w => LoopInv remaining w) w := by
  refine Contract.safe_of_uses (stable_loopInv remaining) ?_ ?_ hp h
  · intro w r hr _ _
    cases r with
    | setLastNotifiedHeartbeatId id => exact hr.elim
    | _ => trivial
  · rintro w r x w' hr _ h ⟨outcome, -, hanswer⟩
    have hsame := sameHeartbeats_answer hr outcome w
    rw [show w.answer outcome r = (x, w') from hanswer] at hsame
    exact h.of_same hsame

/-- One turn of the loop. -/
theorem safe_notifyHeartbeat {heartbeat : StoredHeartbeat} {remaining : List StoredHeartbeat}
    {w : World} (h : LoopInv (heartbeat :: remaining) w) :
    cursorContract.Safe (notifyHeartbeat heartbeat)
      (Contract.ending (LoopInv remaining) fun _ => True) w := by
  have hrecipients : (ask (.fetchNotificationRecipientsForImei heartbeat.imei)).Uses
      Request.KeepsCursor := Prog.uses_request trivial
  refine Contract.safe_bind.2 ((safe_of_keepsCursor hrecipients h).mono ?_)
  intro recipients w h
  cases recipients with
  | none => trivial
  | some recipients =>
      refine Contract.safe_bind.2
        ((safe_of_keepsCursor (notifyRecipients_uses recipients) h).mono ?_)
      intro x w h
      cases x with
      | none => trivial
      | some _ =>
          refine safe_ask ?_
          intro w₁ hw₁ _
          have h₁ := (stable_loopInv _).later hw₁ h
          exact ⟨h₁.pre, trivial, fun _ _ _ => h₁.advance⟩

theorem safe_processHeartbeatNotifications (w : World) :
    cursorContract.Safe processHeartbeatNotifications (fun _ _ => True) w := by
  refine Contract.safe_bind.2 (safe_ask ?_)
  intro w₁ _ _
  refine ⟨trivial, trivial, ?_⟩
  intro _ _ _
  refine Contract.safe_bind.2 (safe_ask ?_)
  intro w₂ hw₂ hinv
  have hlast := (stable_lastNotified w₁.lastNotifiedHeartbeatId).later hw₂ rfl
  refine ⟨trivial, trivial, ?_⟩
  intro outcome _ _
  refine (Contract.safe_forM LoopInv (E := fun _ => True) ?_ ?_).mono fun _ _ _ => trivial
  · intro heartbeat remaining w h
    exact safe_notifyHeartbeat h
  · -- nobody else has moved the cursor since it was read
    change LoopInv
      (fetchNewHeartbeats w₂.deviceHeartbeats (w₁.lastNotifiedHeartbeatId.getD 0))
      (w₂.execute outcome (.fetchNewHeartbeats (w₁.lastNotifiedHeartbeatId.getD 0))).2
    rw [← hlast]
    exact loopInv_fetch hinv

/-- A part of the bot that leaves the cursor alone owes nothing. -/
theorem safe_of_uses_keepsCursor {α : Type} {p : BotM α} (hp : p.Uses Request.KeepsCursor)
    (w : World) : cursorContract.Safe p (fun _ _ => True) w := by
  refine Contract.safe_of_uses (J := fun _ => True) (fun _ _ _ _ => trivial) ?_
    (fun _ _ _ _ _ _ _ _ => trivial) hp trivial
  intro w r hr _ _
  cases r with
  | setLastNotifiedHeartbeatId id => exact hr.elim
  | _ => trivial

theorem cursor_verified : bot.Verified inCommitOrder CursorInv cursorPre where
  env := fun _ _ _ h hguard hw => cursorInv_env h hguard hw
  call := fun _ _ _ h hpre hguard => cursorInv_answer h hpre hguard
  main := by
    intro callbacks w _
    refine Contract.safe_bind.2 (Contract.safe_attempt.2 ?_)
    refine (safe_of_uses_keepsCursor
      (Prog.uses_forM fun query _ => handleSessionCallback_uses query) w).mono ?_
    intro _ w _
    refine Contract.safe_bind.2 (Contract.safe_attempt.2 ?_)
    refine (safe_processHeartbeatNotifications w).mono ?_
    intro _ w _
    refine Contract.safe_bind.2 (Contract.safe_attempt.2 ?_)
    refine (safe_of_uses_keepsCursor processStaleEngineSessions_uses w).mono ?_
    intro _ w _
    trivial

/-! ### Exactly when no heartbeat is skipped -/

/-- A row that becomes visible behind the cursor has been skipped. -/
theorem not_noneSkipped_of_commit {w w' : World} {id : ℕ} (h : CursorInv w)
    (hbehind : ¬ ∀ last ∈ w.lastNotifiedHeartbeatId, last < id)
    (hw : w.env (.commit id) = some w') : ¬ w'.NoneSkipped := by
  intro hnone
  obtain ⟨row, hmem, rfl, rfl⟩ := World.of_env_commit hw
  push Not at hbehind
  obtain ⟨last, hlast, hle⟩ := hbehind
  obtain ⟨hreturned, -⟩ := hnone row (by simp) last hlast hle
  exact h.not_visible hmem (h.returned_visible _ hreturned)

/-- A cursor that moves past a row that the pass has not read skips it. -/
theorem not_noneSkipped_of_advance {w : World} {id : ℕ} (h : CursorInv w)
    (hpast : ¬ ∀ committed ∈ w.committedSinceFetch, id < committed) :
    ¬ World.NoneSkipped { w with
      lastNotifiedHeartbeatId := some id, notified := w.notified ++ [id] } := by
  intro hnone
  push Not at hpast
  obtain ⟨committed, hfresh, hle⟩ := hpast
  obtain ⟨row, hrow, rfl⟩ := List.mem_map.1 (h.fresh_visible committed hfresh)
  obtain ⟨hreturned, -⟩ := hnone row hrow id rfl hle
  exact h.fresh_not_returned row.id hfresh hreturned

/-- **Exactly when no heartbeat is skipped**: in every interleaving of the transactions that
persist heartbeats with the bot, every visible row up to the cursor has been returned and has
gone through the loop, in every state of the run, exactly when no heartbeat commits behind the
cursor and the cursor never moves past a heartbeat that has committed since the pass read its
rows. -/
theorem noneSkipped_iff (now : ℤ) {m : Machine Request Request.Reply World}
    {tr : List (Machine Request Request.Reply World ×
      Event EnvEvent Outcome (List SessionCallback))}
    (run : Run bot.step (.idle (World.empty now)) tr m) :
    ((∀ p ∈ tr, p.1.world.NoneSkipped) ∧ m.world.NoneSkipped) ↔
      ∀ p ∈ tr, inCommitOrder.Allows p.1 p.2 := by
  refine cursor_verified.always_iff (fun _ h => h.noneSkipped) ?_ ?_ (cursorInv_empty now) run
  · intro event w w' h hguard hw
    cases event with
    | commit id => exact not_noneSkipped_of_commit h hguard hw
    | _ => exact absurd trivial hguard
  · intro outcome w r h _ hguard
    cases r with
    | setLastNotifiedHeartbeatId id =>
        obtain ⟨hfails, hpast⟩ := Classical.not_imp.1 hguard
        have hanswer : (bot.answer outcome w (.setLastNotifiedHeartbeatId id)).2 = _ :=
          answer_setLastNotified hfails id
        rw [hanswer]
        exact not_noneSkipped_of_advance h hpast
    | _ => exact absurd trivial hguard

/-- Two devices insert their heartbeats one after the other, the second commits, the bot polls,
and then the first commits. -/
def lateCommit : List (Event EnvEvent Outcome (List SessionCallback)) :=
  [.env (.insertHeartbeat "866221070478388" 0 "on"),
    .env (.insertHeartbeat "866221070478389" 0 "on"),
    .env (.commit 2), .start [], succeeds, succeeds, succeeds, succeeds, .env (.commit 1)]

theorem replay_lateCommit :
    (replay bot.step (.idle (World.empty 0)) lateCommit).any
      (fun m => decide ¬ m.world.NoneSkipped) = true := by
  decide +kernel

/-- Two devices, one poll, and the heartbeat that commits last is never notified. -/
theorem heartbeat_skipped :
    ∃ tr m, tr.map Prod.snd = lateCommit ∧ Run bot.step (.idle (World.empty 0)) tr m ∧
      ¬ m.world.NoneSkipped := by
  obtain ⟨tr, m, hes, run, hskipped⟩ := run_of_replay_any replay_lateCommit
  exact ⟨tr, m, hes, run, of_decide_eq_true hskipped⟩

/-- In that run the last event is the one outside the condition. -/
theorem noneSkipped_iff_lateCommit :
    ∃ tr m, tr.map Prod.snd = lateCommit ∧ Run bot.step (.idle (World.empty 0)) tr m ∧
      ¬ ∀ p ∈ tr, inCommitOrder.Allows p.1 p.2 := by
  obtain ⟨tr, m, hes, run, hskipped⟩ := run_of_replay_any replay_lateCommit
  refine ⟨tr, m, hes, run, ?_⟩
  intro hguard
  exact of_decide_eq_true hskipped ((noneSkipped_iff 0 run).2 hguard).2

end Gt06
