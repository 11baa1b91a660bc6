/-
**Sessions and segments.**

The bot reads the heartbeats in batches of a hundred, and notes how far it has got after each of
them.  As long as nothing fails the sessions it creates are the segments of the heartbeats, one for
each, however they are batched and whatever passes over the quiet devices run in between.  Without
such a pass a session is active exactly while the engine is on.

Main definitions:

* `Gt06.Queue` — how far a pass has got;
* `Gt06.HeardAll` — what one pass hands on to the next;
* `Gt06.heardBy` — the heartbeats the bot has gone through;
* `Gt06.WentThrough` — what a pass has gone through when it ends.

Main results:

* `Gt06.safe_heartbeat` — one turn of the loop;
* `Gt06.safe_heartbeatNotifications` — a pass goes through the first hundred that wait;
* `Gt06.sessions_segmented` — **the sessions are the segments**.
-/

import Gt06Server.HeartbeatSegments

set_option relaxedAutoImplicit false
set_option autoImplicit false

namespace Gt06

open Await Relational

/-! ### How far a pass has got -/

/-- The id of the last heartbeat, or the id before all of them. -/
def lastId (since : ℕ) (heard : List StoredHeartbeat) : ℕ :=
  (heard.getLast?.map StoredHeartbeat.id).getD since

@[simp] theorem lastId_nil (since : ℕ) : lastId since [] = since := rfl

@[simp] theorem lastId_concat (since : ℕ) (heard : List StoredHeartbeat)
    (heartbeat : StoredHeartbeat) : lastId since (heard ++ [heartbeat]) = heartbeat.id := by
  simp [lastId]

/-- The id of the last heartbeat cuts a list of increasing ids. -/
theorem lastId_cuts {since : ℕ} {heard later : List StoredHeartbeat}
    (hincreasing : (heard ++ later).Pairwise fun a b => a.id < b.id)
    (hsince : ∀ row ∈ heard ++ later, since < row.id) :
    (∀ row ∈ heard, row.id ≤ lastId since heard) ∧ (∀ row ∈ later, lastId since heard < row.id) ∧
      since ≤ lastId since heard := by
  rcases List.eq_nil_or_concat heard with rfl | ⟨earlier, heartbeat, rfl⟩
  · refine ⟨by simp, ?_, le_rfl⟩
    intro row hrow
    exact hsince row (by simpa using hrow)
  · rw [List.concat_eq_append] at hincreasing hsince ⊢
    rw [lastId_concat]
    obtain ⟨hheard, -, hcross⟩ := List.pairwise_append.1 hincreasing
    obtain ⟨-, -, hlast⟩ := List.pairwise_append.1 hheard
    refine ⟨?_, fun row hrow => hcross heartbeat (by simp) row hrow, ?_⟩
    · intro row hrow
      rcases List.mem_append.1 hrow with hrow | hrow
      · exact (hlast row hrow heartbeat (List.mem_singleton_self _)).le
      · rw [List.mem_singleton.1 hrow]
    · exact (hsince heartbeat (by simp)).le

/-- The heartbeats of a pass: those before it, those it has still to go through, and the ids that
the passes have read. -/
structure Queue (since : ℕ) (before : List ℕ) (heard rest : List StoredHeartbeat) (w : World) :
    Prop where
  waiting : ∃ later, (w.deviceHeartbeats.filter fun row => since < row.id) = heard ++ rest ++ later
  cursor : w.lastNotifiedHeartbeatId.getD 0 = lastId since heard
  returned : w.returned = before ++ (heard ++ rest).map StoredHeartbeat.id

/-- The heartbeats the bot is to go through. -/
def World.heartbeatsAfter (since : ℕ) (w : World) : List StoredHeartbeat :=
  w.deviceHeartbeats.filter fun row => since < row.id

/-- Heartbeats that are there stay there, before those that are still to come. -/
theorem heartbeatsAfter_prefix_of_env {imei : String} {w w' : World} {event : BesideEvent}
    (h : w.deviceEnv imei event = some w') (since : ℕ) :
    w.heartbeatsAfter since <+: w'.heartbeatsAfter since := by
  obtain ⟨-, -, -, -, hrows | ⟨new, -, -, hrows⟩⟩ := of_deviceEnv h
  · rw [World.heartbeatsAfter, World.heartbeatsAfter, hrows]
  · rw [World.heartbeatsAfter, World.heartbeatsAfter, hrows, List.filter_append]
    exact List.prefix_append _ _

section Queues

variable {imei : String} {chatId : ℤ} {since : ℕ} {before : List ℕ} {w w' : World}
  {heard rest later : List StoredHeartbeat} {heartbeat : StoredHeartbeat}

theorem DeviceInv.cuts (h : DeviceInv imei chatId since w)
    (hwaiting : (w.deviceHeartbeats.filter fun row => since < row.id) = heard ++ later) :
    (∀ row ∈ heard, row.id ≤ lastId since heard) ∧ (∀ row ∈ later, lastId since heard < row.id) ∧
      since ≤ lastId since heard := by
  refine lastId_cuts ?_ ?_
  · rw [← hwaiting]
    exact h.increasing.filter _
  · intro row hrow
    rw [← hwaiting] at hrow
    exact of_decide_eq_true (List.mem_filter.1 hrow).2

/-- The heartbeats up to the last one. -/
theorem DeviceInv.heardUpTo (h : DeviceInv imei chatId since w)
    (hwaiting : (w.deviceHeartbeats.filter fun row => since < row.id) = heard ++ later) :
    w.heardUpTo since (lastId since heard) = heard := by
  obtain ⟨hheard, hlater, -⟩ := h.cuts hwaiting
  have hsplit : w.heardUpTo since (lastId since heard) =
      (w.deviceHeartbeats.filter fun row => since < row.id).filter fun row =>
        row.id ≤ lastId since heard := by
    rw [List.filter_filter, World.heardUpTo]
    refine List.filter_congr ?_
    intro row _
    simp [and_comm]
  rw [hsplit, hwaiting, List.filter_append, List.filter_eq_self.2 (by simpa using hheard),
    List.filter_eq_nil_iff.2 (by simpa using hlater), List.append_nil]

/-- A pass reads the first hundred of the heartbeats that wait. -/
theorem DeviceInv.fetchNewHeartbeats (h : DeviceInv imei chatId since w)
    (hwaiting : (w.deviceHeartbeats.filter fun row => since < row.id) = heard ++ later) :
    Gt06.fetchNewHeartbeats w.deviceHeartbeats (lastId since heard) = later.take 100 := by
  obtain ⟨hheard, hlater, hsince⟩ := h.cuts hwaiting
  have hsplit : (w.deviceHeartbeats.filter fun row => lastId since heard < row.id) =
      (w.deviceHeartbeats.filter fun row => since < row.id).filter fun row =>
        lastId since heard < row.id := by
    rw [List.filter_filter]
    refine List.filter_congr ?_
    intro row _
    have himp : lastId since heard < row.id → since < row.id := hsince.trans_lt
    by_cases hrow : lastId since heard < row.id
    · simp [hrow, himp hrow]
    · simp [hrow]
  have hrows : (w.deviceHeartbeats.filter fun row => lastId since heard < row.id) = later := by
    rw [hsplit, hwaiting, List.filter_append, List.filter_eq_nil_iff.2 (by simpa using hheard),
      List.filter_eq_self.2 (by simpa using hlater), List.nil_append]
  rw [Gt06.fetchNewHeartbeats, hrows, List.mergeSort_of_pairwise]
  have hincreasing := (List.pairwise_append.1 (hwaiting ▸ h.increasing.filter _)).2.1
  exact hincreasing.imp fun hlt => by simpa using hlt.le

theorem Queue.env {event : BesideEvent} (h : Queue since before heard rest w)
    (hw : w.deviceEnv imei event = some w') : Queue since before heard rest w' := by
  obtain ⟨-, -, hcursor, hreturned, hrows⟩ := of_deviceEnv hw
  refine ⟨?_, hcursor ▸ h.cursor, hreturned ▸ h.returned⟩
  obtain ⟨later, hlater⟩ := h.waiting
  rcases hrows with hrows | ⟨new, -, -, hrows⟩
  · exact ⟨later, hrows ▸ hlater⟩
  · refine ⟨later ++ [new].filter fun row => since < row.id, ?_⟩
    rw [hrows, List.filter_append, hlater, List.append_assoc]

theorem Queue.of_same (h : Queue since before heard rest w) (hsame : SameHeartbeats w w') :
    Queue since before heard rest w' :=
  ⟨hsame.deviceHeartbeats ▸ h.waiting, hsame.lastNotifiedHeartbeatId ▸ h.cursor,
    hsame.returned ▸ h.returned⟩

/-- The heartbeats of a pass are there. -/
theorem Queue.visible (h : Queue since before heard rest w) : Visible (heard ++ rest) w := by
  obtain ⟨later, hlater⟩ := h.waiting
  intro row hrow
  have hmem : row ∈ w.deviceHeartbeats.filter fun row => since < row.id := by
    rw [hlater]
    exact List.mem_append_left _ hrow
  exact (List.mem_filter.1 hmem).1

/-- The id of the heartbeat is stored. -/
theorem Queue.advance (h : Queue since before heard (heartbeat :: rest) w) (outcome : Outcome) :
    Queue since before (heard ++ [heartbeat]) rest
      (w.execute outcome (.setLastNotifiedHeartbeatId heartbeat.id)).2 := by
  obtain ⟨later, hlater⟩ := h.waiting
  refine ⟨⟨later, ?_⟩, ?_, ?_⟩
  · simpa [World.execute] using hlater
  · rw [lastId_concat]
    rfl
  · have hreturned := h.returned
    simpa [World.execute] using hreturned

/-- A pass reads its heartbeats. -/
theorem Queue.fetch (h : Queue since before heard [] w) (hinv : DeviceInv imei chatId since w)
    (outcome : Outcome) :
    Queue since before heard (Gt06.fetchNewHeartbeats w.deviceHeartbeats (lastId since heard))
      (w.execute outcome (.fetchNewHeartbeats (lastId since heard))).2 := by
  obtain ⟨later, hlater⟩ := h.waiting
  rw [List.append_nil] at hlater
  refine ⟨⟨later.drop 100, ?_⟩, h.cursor, ?_⟩
  · rw [hinv.fetchNewHeartbeats hlater, List.append_assoc, List.take_append_drop]
    exact hlater
  · have hreturned := h.returned
    simp only [World.execute, hreturned, List.append_nil, List.map_append, List.append_assoc]

end Queues

/-! ### The passes -/

/-- Some heartbeats have been gone through, and others are left of the pass. -/
def GoneThrough (old : List EngineSession) (imei : String) (chatId : ℤ) (since : ℕ)
    (before : List ℕ) (quiet : Prop) (heard rest : List StoredHeartbeat) (w : World) : Prop :=
  Queue since before heard rest w ∧ Tracked old imei chatId quiet (heard ++ rest)
    (segmentStarts heard) (lastEngineHeartbeat heard) w

section Passes

variable {old : List EngineSession} {imei : String} {chatId : ℤ} {since : ℕ} {before : List ℕ}
  {quiet : Prop} {heard rest : List StoredHeartbeat} {heartbeat : StoredHeartbeat} {w : World}

theorem stable_goneThrough : (segmentContract old imei chatId since quiet).Stable
    (GoneThrough old imei chatId since before quiet heard rest) := by
  refine stable_of_env ?_
  intro w w' event hw h
  exact ⟨h.1.env hw, settled_tracked.env w w' event hw h.2⟩

/-- A program that neither moves the cursor nor reads the heartbeats leaves the queue alone. -/
theorem safe_queue {α : Type} {p : BotM α} (hp : p.Uses Request.KeepsCursor)
    (h : Queue since before heard rest w) :
    (segmentContract old imei chatId since quiet).Safe p
      (fun _ => Queue since before heard rest) w := by
  refine Contract.safe_of_uses (F := Request.KeepsCursor) (stable_of_env fun _ _ _ hw h => h.env hw)
    ?_ ?_ hp h
  · intro w r hr _ _
    cases r with
    | setLastNotifiedHeartbeatId id => exact hr.elim
    | _ => trivial
  · rintro w r x w' hr - h ⟨outcome, -, hanswer⟩
    have hanswer : w.answer outcome r = (x, w') := hanswer
    have hsame := sameHeartbeats_answer hr outcome w
    rw [hanswer] at hsame
    exact h.of_same hsame

/-- **One turn of the loop.** -/
theorem safe_heartbeat
    (h : GoneThrough old imei chatId since before quiet heard (heartbeat :: rest) w) :
    (segmentContract old imei chatId since quiet).Safe (notifyHeartbeat heartbeat)
      (returning fun _ =>
        GoneThrough old imei chatId since before quiet (heard ++ [heartbeat]) rest) w := by
  have hread : (segmentContract old imei chatId since quiet).Safe
      (ask (.fetchNotificationRecipientsForImei heartbeat.imei))
      (returning fun recipients w => (heartbeat.imei = imei ∧ recipients ≠ [] ∧
        ∀ recipient ∈ recipients, recipient = ⟨chatId, true⟩) ∧
          GoneThrough old imei chatId since before quiet heard (heartbeat :: rest) w) w := by
    refine safe_answered stable_goneThrough h (fun _ _ _ => trivial) ?_
    intro w outcome hinv h
    obtain ⟨later, hlater⟩ := h.1.waiting
    have hmem : heartbeat ∈ w.deviceHeartbeats.filter fun row => since < row.id := by
      rw [hlater]
      simp
    obtain ⟨hrow, hsince⟩ := List.mem_filter.1 hmem
    have himei := hinv.ofDevice heartbeat hrow (of_decide_eq_true hsince)
    refine ⟨⟨himei, ?_⟩, h⟩
    rw [himei]
    exact hinv.oneSubscriber
  refine safe_returning_bind hread ?_
  rintro recipients w ⟨⟨rfl, hne, hall⟩, hqueue, htracked⟩
  have hnotified : (segmentContract old heartbeat.imei chatId since quiet).Safe
      (notifyRecipients heartbeat recipients)
      (returning fun _ w => Queue since before heard (heartbeat :: rest) w ∧
        Tracked old heartbeat.imei chatId quiet (heard ++ heartbeat :: rest)
          (segmentStarts (heard ++ [heartbeat]))
          (lastEngineHeartbeat (heard ++ [heartbeat])) w) w := by
    refine ((safe_notifyRecipients (by simp)
      (fun previous hprevious => by simp [hprevious]) hne hall
      htracked).and (safe_queue (notifyRecipients_uses recipients) hqueue)).mono ?_
    rintro (_ | _) w ⟨h, hqueue⟩
    · exact h
    · exact ⟨hqueue, h⟩
  have hstable : (segmentContract old heartbeat.imei chatId since quiet).Stable fun w =>
      Queue since before heard (heartbeat :: rest) w ∧
        Tracked old heartbeat.imei chatId quiet (heard ++ heartbeat :: rest)
          (segmentStarts (heard ++ [heartbeat]))
          (lastEngineHeartbeat (heard ++ [heartbeat])) w := by
    refine stable_of_env ?_
    intro w w' event hw h
    exact ⟨h.1.env hw, settled_tracked.env w w' event hw h.2⟩
  refine safe_returning_bind hnotified ?_
  intro _ w h
  refine safe_answered hstable h ?_ ?_
  · -- everything up to the heartbeat has been gone through
    intro w hinv h
    obtain ⟨later, hlater⟩ := h.1.waiting
    have hwaiting : (w.deviceHeartbeats.filter fun row => since < row.id) =
        (heard ++ [heartbeat]) ++ (rest ++ later) := by
      rw [hlater]
      simp
    have hheard := hinv.heardUpTo hwaiting
    rw [lastId_concat] at hheard
    rw [segmentOwes, hheard]
    exact ⟨h.2.1.created, h.2.2⟩
  · intro w outcome _ h
    refine ⟨h.1.advance outcome, ?_⟩
    have htracked := h.2
    rw [show heard ++ heartbeat :: rest = heard ++ [heartbeat] ++ rest by simp] at htracked
    exact ⟨⟨htracked.1.created, htracked.1.note, htracked.1.visible⟩, htracked.2⟩

/-- What one pass hands on to the next: everything that has been read has been gone through. -/
def HeardAll (old : List EngineSession) (imei : String) (chatId : ℤ) (since : ℕ)
    (before : List ℕ) (quiet : Prop) (w : World) : Prop :=
  ∃ heard, GoneThrough old imei chatId since before quiet heard [] w

theorem stable_heardAll : (segmentContract old imei chatId since quiet).Stable
    (HeardAll old imei chatId since before quiet) := by
  rintro w w' hw ⟨heard, h⟩
  exact ⟨heard, stable_goneThrough w w' hw h⟩

theorem stable_heartbeatsAfter (rows : List StoredHeartbeat) :
    (segmentContract old imei chatId since quiet).Stable
      fun w => rows <+: w.heartbeatsAfter since :=
  stable_of_env fun _ _ _ hw h => h.trans (heartbeatsAfter_prefix_of_env hw since)

/-- The loop over the first hundred of the heartbeats read, none of which disappears. -/
theorem safe_readHeartbeats {read : List StoredHeartbeat}
    (hread : heard ++ read <+: w.heartbeatsAfter since)
    (h : GoneThrough old imei chatId since before quiet heard (read.take 100) w) :
    (segmentContract old imei chatId since quiet).Safe (forM (read.take 100) notifyHeartbeat)
      (returning fun _ w' => heard ++ read <+: w'.heartbeatsAfter since ∧
        GoneThrough old imei chatId since before quiet (heard ++ read.take 100) [] w') w := by
  have hloop : (segmentContract old imei chatId since quiet).Safe
      (forM (read.take 100) notifyHeartbeat) (returning fun _ w' =>
        ∃ gone, gone ++ [] = heard ++ read.take 100 ∧
          GoneThrough old imei chatId since before quiet gone [] w') w := by
    refine safe_returning_forM (fun rest w => ∃ gone, gone ++ rest = heard ++ read.take 100 ∧
      GoneThrough old imei chatId since before quiet gone rest w) ?_ ⟨heard, rfl, h⟩
    rintro heartbeat rest w ⟨gone, hgone, h⟩
    refine (safe_heartbeat h).mono ?_
    rintro (_ | _) w h
    · exact h
    · exact ⟨gone ++ [heartbeat], by simpa using hgone, h⟩
  refine (hloop.frame (stable_heartbeatsAfter _) ?_ hread).mono ?_
  · rintro w r x w' ⟨outcome, -, hanswer⟩ h
    have hanswer : w.answer outcome r = (x, w') := hanswer
    have hrows := World.deviceHeartbeats_answer outcome w r
    rw [hanswer] at hrows
    rwa [World.heartbeatsAfter, hrows]
  · rintro (_ | _) w ⟨h, hread⟩
    · exact h.elim
    · obtain ⟨gone, hgone, h⟩ := h
      rw [List.append_nil] at hgone
      exact ⟨hread, hgone ▸ h⟩

/-- A pass that began when the heartbeats `start` were there, and `heard` had been gone through, has
gone through the first hundred of those that it read. -/
def PassedOver (old : List EngineSession) (imei : String) (chatId : ℤ) (since : ℕ)
    (before : List ℕ) (quiet : Prop) (start heard : List StoredHeartbeat) (w : World) : Prop :=
  ∃ read, start <+: heard ++ read ∧ heard ++ read <+: w.heartbeatsAfter since ∧
    GoneThrough old imei chatId since before quiet (heard ++ read.take 100) [] w

theorem stable_passedOver {start : List StoredHeartbeat} (x : Option Unit) :
    (segmentContract old imei chatId since quiet).Stable
      (returning (fun _ => PassedOver old imei chatId since before quiet start heard) x) := by
  cases x with
  | none => exact fun _ _ _ h => h
  | some _ =>
      rintro w w' hw ⟨read, hstart, hread, h⟩
      exact ⟨read, hstart, stable_heartbeatsAfter _ w w' hw hread, stable_goneThrough w w' hw h⟩

/-- **A pass goes through the first hundred that wait** when it reads. -/
theorem safe_heartbeatNotifications
    (h : GoneThrough old imei chatId since before quiet heard [] w) :
    (segmentContract old imei chatId since quiet).Safe processHeartbeatNotifications
      (returning fun _ => PassedOver old imei chatId since before quiet
        (w.heartbeatsAfter since) heard) w := by
  generalize hbeginning : w.heartbeatsAfter since = start
  have hstart : start <+: w.heartbeatsAfter since := by rw [hbeginning]
  have hstable : (segmentContract old imei chatId since quiet).Stable fun w =>
      start <+: w.heartbeatsAfter since ∧
        GoneThrough old imei chatId since before quiet heard [] w := fun w w' hw h =>
    ⟨stable_heartbeatsAfter start w w' hw h.1, stable_goneThrough w w' hw h.2⟩
  have hcursor : (segmentContract old imei chatId since quiet).Safe
      (ask .getLastNotifiedHeartbeatId)
      (returning fun cursor w => cursor.getD 0 = lastId since heard ∧
        start <+: w.heartbeatsAfter since ∧
          GoneThrough old imei chatId since before quiet heard [] w) w := by
    refine safe_answered hstable ⟨hstart, h⟩ (fun _ _ _ => trivial) ?_
    intro w outcome _ h
    exact ⟨h.2.1.cursor, h⟩
  refine safe_returning_bind hcursor ?_
  rintro cursor w ⟨hcursor, hstart, h⟩
  rw [hcursor]
  have hfetch : (segmentContract old imei chatId since quiet).Safe
      (ask (.fetchNewHeartbeats (lastId since heard)))
      (returning fun heartbeats w => ∃ read, heartbeats = read.take 100 ∧
        start <+: heard ++ read ∧ heard ++ read <+: w.heartbeatsAfter since ∧
          GoneThrough old imei chatId since before quiet heard heartbeats w) w := by
    refine safe_answered hstable ⟨hstart, h⟩ (fun _ _ _ => trivial) ?_
    rintro w outcome hinv ⟨hstart, h⟩
    obtain ⟨read, hread⟩ := h.1.waiting
    rw [List.append_nil] at hread
    have hqueue := h.1.fetch hinv outcome
    refine ⟨read, hinv.fetchNewHeartbeats hread, hread ▸ hstart, hread ▸ List.prefix_rfl, hqueue,
      ⟨h.2.1.created, h.2.1.note, hqueue.visible⟩, h.2.2⟩
  refine safe_returning_bind hfetch ?_
  rintro _ w ⟨read, rfl, hstart, hread, h⟩
  refine (safe_readHeartbeats hread h).mono ?_
  rintro (_ | _) w h
  · exact h.elim
  · exact ⟨read, hstart, h⟩

/-- The pass over the quiet devices finishes sessions, and leaves the notes alone. -/
theorem safe_staleEngineSessions (hloud : ¬quiet)
    (h : HeardAll old imei chatId since before quiet w) :
    (segmentContract old imei chatId since quiet).Safe processStaleEngineSessions
      (fun _ => HeardAll old imei chatId since before quiet) w := by
  obtain ⟨heard, hqueue, hnoted, -⟩ := h
  have hJ : Settled imei (RidesNoted old imei chatId (heard ++ []) (segmentStarts heard)
      (lastEngineHeartbeat heard)) := settled_ridesNoted _
  have hsafe : (segmentContract old imei chatId since quiet).Safe processStaleEngineSessions
      (returning fun _ => RidesNoted old imei chatId (heard ++ []) (segmentStarts heard)
        (lastEngineHeartbeat heard)) w := by
    refine safe_returning_bind (safe_calm (by trivial) hJ hnoted) ?_
    intro sessions w h
    refine safe_returning_bind (safe_calm (by trivial) hJ h) ?_
    intro referenceTime w h
    refine safe_returning_forM (fun _ => RidesNoted old imei chatId (heard ++ [])
      (segmentStarts heard) (lastEngineHeartbeat heard)) ?_ h
    intro group _ w h
    refine safe_returning_bind (safe_calm (by trivial) hJ h) ?_
    intro latest w h
    split
    · rename_i latest _
      have hfinishing : FinishingNoted old imei chatId False (heard ++ []) (segmentStarts heard)
          (lastEngineHeartbeat heard) group.2 w := ⟨h, False.elim⟩
      refine safe_returning_bind (safe_finishActive hfinishing) ?_
      intro _ w h
      exact h.1
    · exact h
  refine (hsafe.and (safe_queue processStaleEngineSessions_uses hqueue)).mono ?_
  rintro (_ | _) w ⟨h, hqueue⟩
  · exact h.elim
  · exact ⟨heard, hqueue, h, fun hquiet => absurd hquiet hloud⟩

/-- The passes hand it on to one another. -/
theorem passes_handOn (before : List ℕ) : (devicePasses imei).HandsOn (untroubled imei chatId)
    (DeviceInv imei chatId since) (segmentOwes old imei chatId since quiet)
    (fun pass => quiet → pass ≠ .staleEngineSessions)
    (HeardAll old imei chatId since before quiet) where
  env := fun _ _ _ h hg hw => h.env hg hw
  call := fun outcome _ r h _ _ => h.answer outcome r
  stable := stable_heardAll
  main := by
    intro pass w hstarts _ h
    cases pass with
    | heartbeatNotifications =>
        obtain ⟨heard, h⟩ := h
        refine (safe_heartbeatNotifications h).mono ?_
        rintro (_ | _) w h
        · exact h.elim
        · obtain ⟨read, -, -, h⟩ := h
          exact ⟨_, h⟩
    | staleEngineSessions =>
        refine safe_staleEngineSessions ?_ h
        intro hquiet
        exact hstarts hquiet rfl

theorem HeardAll.segmented (h : HeardAll old imei chatId since before quiet w)
    (hinv : DeviceInv imei chatId since w) :
    Segmented old imei chatId quiet
        (w.heardUpTo since (w.lastNotifiedHeartbeatId.getD 0)) w ∧
      w.returned = before ++
        (w.heardUpTo since (w.lastNotifiedHeartbeatId.getD 0)).map StoredHeartbeat.id := by
  obtain ⟨heard, hqueue, htracked⟩ := h
  obtain ⟨later, hlater⟩ := hqueue.waiting
  rw [List.append_nil] at hlater
  rw [hqueue.cursor, hinv.heardUpTo hlater]
  refine ⟨⟨htracked.1.created, htracked.2⟩, ?_⟩
  simpa using hqueue.returned

end Passes

/-! ### The sessions are the segments -/

/-- The heartbeats the bot has gone through, when it is about to store the id of the last of them
or is between two passes. -/
def heardBy (since : ℕ) (m : Machine Request Request.Reply World) : Option (List StoredHeartbeat) :=
  match m.task with
  | .call (.setLastNotifiedHeartbeatId id) _ => some (m.world.heardUpTo since id)
  | .call _ _ => none
  | _ => some (m.world.heardUpTo since (m.world.lastNotifiedHeartbeatId.getD 0))

/-- Another pass has not started since the one that began in `m₁`. -/
def LastStarted (pass : DevicePass)
    (tr : List (Machine Request Request.Reply World × Event BesideEvent Outcome DevicePass))
    (m₁ : Machine Request Request.Reply World) : Prop :=
  ∃ tr₁ tr₂, tr = tr₁ ++ (m₁, .start pass) :: tr₂ ∧ ∀ p ∈ tr₂, ∀ pass, p.2 ≠ .start pass

/-- The pass over the heartbeats that began in `m₁` has returned in `m`, where the bot has gone
through `heard`: what it had gone through before, and the first hundred of the heartbeats that
waited when the pass read them, after its beginning. -/
def WentThrough (since : ℕ) (m₁ m : Machine Request Request.Reply World)
    (heard : List StoredHeartbeat) : Prop :=
  m.task = .done () ∧ ∃ before read, heardBy since m₁ = some before ∧
    m₁.world.heartbeatsAfter since <+: before ++ read ∧
    before ++ read <+: m.world.heartbeatsAfter since ∧ heard = before ++ read.take 100

section Result

variable {imei : String} {chatId : ℤ} {w₀ : World} {m : Machine Request Request.Reply World}
  {tr : List (Machine Request Request.Reply World × Event BesideEvent Outcome DevicePass)}
  {heard : List StoredHeartbeat}

/-- Before the first pass. -/
theorem heardAll_start (quiet : Prop) (hnew : w₀.notificationState imei chatId = none) :
    HeardAll w₀.telegramEngineSessions imei chatId (w₀.lastNotifiedHeartbeatId.getD 0) w₀.returned
      quiet w₀ := by
  refine ⟨[], ⟨⟨_, rfl⟩, rfl, by simp⟩, ⟨by simp [segmentStarts, segmentStartsAfter], ?_, ?_⟩, ?_⟩
  · simp [hnew, lastEngineHeartbeat]
  · exact fun row hrow => absurd hrow List.not_mem_nil
  · intro _
    simp [World.Riding, EngineOn, lastEngineHeartbeat]

/-- A run in which only some passes start. -/
theorem lets_of_starts {starts : DevicePass → Prop} {e : Event BesideEvent Outcome DevicePass}
    (h : (untroubled imei chatId).Lets (fun _ => True) m e)
    (hstarts : ∀ pass, e = .start pass → starts pass) :
    (untroubled imei chatId).Lets starts m e := by
  cases e with
  | start pass => exact hstarts pass rfl
  | env event => exact h
  | answer outcome => exact h
  | crash => exact h

/-- Between two passes the heartbeats gone through are those up to the cursor. -/
theorem heardBy_of_goneThrough {old : List EngineSession} {chatId : ℤ} {since : ℕ}
    {before : List ℕ} {quiet : Prop} (hended : ∀ r k, m.task ≠ .call r k)
    (hinv : DeviceInv imei chatId since m.world)
    (h : GoneThrough old imei chatId since before quiet heard [] m.world) :
    heardBy since m = some heard := by
  obtain ⟨later, hlater⟩ := h.1.waiting
  rw [List.append_nil] at hlater
  have hheard : m.world.heardUpTo since (m.world.lastNotifiedHeartbeatId.getD 0) = heard := by
    rw [h.1.cursor, hinv.heardUpTo hlater]
  rw [← hheard, heardBy]
  cases htask : m.task with
  | call r k => exact absurd htask (hended r k)
  | done a => rfl
  | fail => rfl

/-- A pass over the heartbeats that has ended has gone through the first hundred that waited. -/
theorem wentThrough_of_run {m₁ : Machine Request Request.Reply World}
    (h₀ : DeviceInv imei chatId (w₀.lastNotifiedHeartbeatId.getD 0) w₀)
    (hnew : w₀.notificationState imei chatId = none)
    (run : Run (devicePasses imei).step (.idle w₀) tr m)
    (hok : ∀ p ∈ tr, (untroubled imei chatId).Lets (fun _ => True) p.1 p.2)
    (hstarted : LastStarted .heartbeatNotifications tr m₁) (hended : ∀ r k, m.task ≠ .call r k)
    (hheard : heardBy (w₀.lastNotifiedHeartbeatId.getD 0) m = some heard) :
    WentThrough (w₀.lastNotifiedHeartbeatId.getD 0) m₁ m heard := by
  generalize hsince : w₀.lastNotifiedHeartbeatId.getD 0 = since at h₀ hheard ⊢
  have V := @passes_handOn w₀.telegramEngineSessions imei chatId since False w₀.returned
  have hstart₀ := hsince ▸ heardAll_start False hnew
  obtain ⟨tr₁, tr₂, rfl, hlast⟩ := hstarted
  obtain ⟨run₁, m₂, hstart, run₂⟩ := run.after
  obtain ⟨hinv₁, hsafe₁⟩ := V.sound_of_run h₀ hstart₀ run₁ fun p hp =>
    lets_of_starts (hok p (List.mem_append_left _ hp)) fun _ _ hquiet => hquiet.elim
  -- no pass was under way when this one began
  have hidle : ∀ r k, m₁.task ≠ .call r k := by
    intro r k htask
    simp [System.step, htask] at hstart
  obtain ⟨before, hbefore⟩ : HeardAll w₀.telegramEngineSessions imei chatId since w₀.returned False
      m₁.world := by
    cases htask : m₁.task with
    | call r k => exact absurd htask (hidle r k)
    | done a => rwa [htask] at hsafe₁
    | fail => rwa [htask] at hsafe₁
  obtain rfl : (⟨m₁.world, processHeartbeatNotifications⟩ :
      Machine Request Request.Reply World) = m₂ := by
    cases htask : m₁.task with
    | call r k => exact absurd htask (hidle r k)
    | done a => simpa [System.step, htask, devicePasses] using hstart
    | fail => simpa [System.step, htask, devicePasses] using hstart
  -- and it keeps what it guarantees to its end
  obtain ⟨hinv, hsafe⟩ := System.safe_of_run (m := ⟨m₁.world, processHeartbeatNotifications⟩)
    V.env V.call stable_passedOver ⟨hinv₁, safe_heartbeatNotifications hbefore⟩ run₂ fun p hp =>
      lets_of_starts (hok p (by simp [hp])) fun pass hpass => hlast p hp pass hpass
  have hdone : m.task = .done () := by
    cases htask : m.task with
    | call r k => exact absurd htask (hended r k)
    | done a => rfl
    | fail => rw [htask] at hsafe; exact hsafe.elim
  rw [hdone] at hsafe
  obtain ⟨read, hfrom, hto, hgone⟩ := hsafe
  refine ⟨hdone, before, read, heardBy_of_goneThrough hidle hinv₁ hbefore, hfrom, hto, ?_⟩
  rw [heardBy_of_goneThrough hended hinv hgone] at hheard
  exact (Option.some.inj hheard).symm

/-- **The sessions are the segments**: from a world in which the chat has not been told anything,
as long as nothing fails and the chat is the one subscriber, the sessions created when some
heartbeats have been gone through are one for each segment of theirs, in order; if no pass over the
quiet devices came between, one of them is active exactly when the last status was an `on`; between
two passes everything that has been read has been gone through; and a pass over the heartbeats
that has ended has gone through the first hundred of those that waited when it read. -/
theorem sessions_segmented (h₀ : DeviceInv imei chatId (w₀.lastNotifiedHeartbeatId.getD 0) w₀)
    (hnew : w₀.notificationState imei chatId = none)
    (run : Run (devicePasses imei).step (.idle w₀) tr m)
    (hok : ∀ p ∈ tr, (untroubled imei chatId).Lets (fun _ => True) p.1 p.2)
    (hheard : heardBy (w₀.lastNotifiedHeartbeatId.getD 0) m = some heard) :
    m.world.telegramEngineSessions.map EngineSession.opening =
        w₀.telegramEngineSessions.map EngineSession.opening ++
          (segmentStarts heard).map (openingAt imei chatId) ∧
      ((∀ p ∈ tr, p.2 ≠ .start .staleEngineSessions) →
        (m.world.Riding w₀.telegramEngineSessions.length ↔ EngineOn (lastEngineHeartbeat heard))) ∧
      (m.task = .done () → m.world.returned = w₀.returned ++ heard.map StoredHeartbeat.id) ∧
      ∀ m₁, LastStarted .heartbeatNotifications tr m₁ → (∀ r k, m.task ≠ .call r k) →
        WentThrough (w₀.lastNotifiedHeartbeatId.getD 0) m₁ m heard := by
  -- the passes hand on what is known of the sessions, and whether one is active if that matters
  let quiet : Prop := ∀ p ∈ tr, p.2 ≠ .start .staleEngineSessions
  have V := @passes_handOn w₀.telegramEngineSessions imei chatId
    (w₀.lastNotifiedHeartbeatId.getD 0) quiet w₀.returned
  have hlets : ∀ p ∈ tr, (untroubled imei chatId).Lets
      (fun pass => quiet → pass ≠ .staleEngineSessions) p.1 p.2 := by
    intro p hp
    refine lets_of_starts (hok p hp) ?_
    rintro pass hpass hquiet rfl
    exact hquiet p hp hpass
  have hwent : ∀ m₁, LastStarted .heartbeatNotifications tr m₁ → (∀ r k, m.task ≠ .call r k) →
      WentThrough (w₀.lastNotifiedHeartbeatId.getD 0) m₁ m heard := fun _ hstarted hended =>
    wentThrough_of_run h₀ hnew run hok hstarted hended hheard
  obtain ⟨hinv, hsafe⟩ := V.sound_of_run h₀ (heardAll_start _ hnew) run hlets
  obtain ⟨w, task⟩ := m
  cases task with
  | call r k =>
      cases r with
      | setLastNotifiedHeartbeatId id =>
          obtain rfl := Option.some.inj hheard
          obtain ⟨howes, -⟩ := hsafe w Relation.ReflTransGen.refl hinv
          have howes : Segmented w₀.telegramEngineSessions imei chatId quiet _ w := howes
          exact ⟨howes.created, howes.riding, fun hdone => by simp at hdone, hwent⟩
      | _ => simp [heardBy] at hheard
  | done a =>
      obtain rfl := Option.some.inj hheard
      obtain ⟨hsegmented, hreturned⟩ := HeardAll.segmented hsafe hinv
      exact ⟨hsegmented.created, hsegmented.riding, fun _ => hreturned, hwent⟩
  | fail =>
      obtain rfl := Option.some.inj hheard
      obtain ⟨hsegmented, hreturned⟩ := HeardAll.segmented hsafe hinv
      exact ⟨hsegmented.created, hsegmented.riding, fun _ => hreturned, hwent⟩

end Result

/-! ### Two segments -/

/-- A check of the condition on the next event. -/
def staysUntroubled (imei : String) (chatId : ℤ) (m : Machine Request Request.Reply World) :
    Event BesideEvent Outcome DevicePass → Bool
  | .env event => (m.world.deviceEnv imei event).all fun w => w.OneSubscriber imei chatId
  | .answer outcome => !outcome.fails
  | .start _ => true
  | .crash => false

theorem lets_of_staysUntroubled {imei : String} {chatId : ℤ}
    {m : Machine Request Request.Reply World} {e : Event BesideEvent Outcome DevicePass}
    (h : staysUntroubled imei chatId m e = true) :
    (untroubled imei chatId).Lets (fun _ => True) m e := by
  cases e with
  | env event =>
      intro w' hw'
      have hall := (Option.all_eq_true _ _).1 h w' hw'
      exact of_decide_eq_true hall
  | answer outcome =>
      have hfails : outcome.fails = false := by simpa [staysUntroubled] using h
      cases htask : m.task with
      | call r k => simpa [Guard.Lets, Guard.Allows, htask, untroubled] using hfails
      | done a => simp [Guard.Lets, Guard.Allows, htask]
      | fail => simp [Guard.Lets, Guard.Allows, htask]
  | start pass => trivial
  | crash => simp [staysUntroubled] at h

/-- A subscriber whose device has just reported its engine on. -/
def subscribedDevice : World where
  __ := World.empty 0
  deviceHeartbeats := [⟨1, "866221070478388", 0, "on"⟩]
  telegramUsers := [⟨1, 10, some "866221070478388", true⟩]
  telegramSubscriptions := [⟨1, 1, 10, "monthly_basic", .active, none, some 86400000000⟩]

/-- The device reports its engine on once more after eleven minutes. -/
def elevenMinutesLater : List (Event BesideEvent Outcome DevicePass) :=
  .start .heartbeatNotifications ::
    List.replicate 9 (.answer { fails := false, messageId := 1, rideSummary := none }) ++
  [.env (.heartbeat ⟨2, "866221070478388", 660000000, "on"⟩), .start .heartbeatNotifications] ++
  List.replicate 16 (.answer { fails := false, messageId := 1, rideSummary := none })

theorem replay_elevenMinutesLater :
    (replay (fun m e => if staysUntroubled "866221070478388" 10 m e then
        (devicePasses "866221070478388").step m e else none)
      (.idle subscribedDevice) elevenMinutesLater).any (fun m =>
        heardBy 0 m = some [⟨1, "866221070478388", 0, "on"⟩,
          ⟨2, "866221070478388", 660000000, "on"⟩]) = true := by
  decide +kernel

/-- There are two sessions, and one is active. -/
theorem sessions_segmented_elevenMinutesLater :
    ∃ tr m, tr.map Prod.snd = elevenMinutesLater ∧
      Run (devicePasses "866221070478388").step (.idle subscribedDevice) tr m ∧
      m.world.telegramEngineSessions.map EngineSession.opening =
        [("866221070478388", 10, 1, 0), ("866221070478388", 10, 2, 660000000)] ∧
      m.world.Riding 0 := by
  obtain ⟨tr, m, hes, run, hchecked, h⟩ := run_of_replay_checked replay_elevenMinutesLater
  have hinv : DeviceInv "866221070478388" 10 0 subscribedDevice :=
    ⟨List.pairwise_singleton _ _, by simp [subscribedDevice], by decide +kernel⟩
  obtain ⟨hcreated, hriding, -⟩ := sessions_segmented hinv (by decide) run
    (fun p hp => lets_of_staysUntroubled (hchecked p hp)) (of_decide_eq_true h)
  refine ⟨tr, m, hes, run, hcreated.trans (by decide), (hriding ?_).2 (by decide)⟩
  intro p hp hstart
  have hmem : p.2 ∈ elevenMinutesLater := hes ▸ List.mem_map_of_mem hp
  simp [hstart, elevenMinutesLater] at hmem

end Gt06
