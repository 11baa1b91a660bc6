/-
**Updates that fail.**

A handler may fail now and succeed the next time, or fail whenever it is tried: a chat has blocked
the bot, the answer to a tap has expired, or payments are not configured.  Every poll begins with
the first update that has not been handled, so an update that always fails is where all polls end.

Main definitions:

* `Gt06.attemptHandler` — handlers with given outcomes;
* `Gt06.UpdatesIsolated` — no update keeps another one from being handled;
* `Gt06.NoneBehindFailing` — no update that could be handled is behind one that always fails.

Main results:

* `Gt06.Processed.progress` — what one poll does to the updates that wait;
* `Gt06.handled_iff` — the updates that are handled in the end;
* `Gt06.updatesIsolated_iff` — **updates are isolated exactly when none is behind one that always
  fails**, and the stored id never passes an update that was not attempted.
-/

import Mathlib
import Gt06Server.UpdatePolling

set_option relaxedAutoImplicit false
set_option autoImplicit false

namespace Gt06

open Await

/-! ### Handlers that fail -/

/-- Handlers with given outcomes: an update may fail now and succeed the next time.  The state
counts how often the bot began with each update. -/
def attemptHandler (fails : ℤ → ℕ → Bool) : Handler (ℤ → ℕ) := fun update => do
  let attempt := (← get) update.updateId
  modify fun attempts => Function.update attempts update.updateId (attempt + 1)
  if fails update.updateId attempt then throw .http

/-- The polls of a batch, again and again. -/
def UpdateBatch.polled (batch : UpdateBatch) (fails : ℤ → ℕ → Bool) (n : ℕ) : Polling (ℤ → ℕ) :=
  (Polling.poll allCalls (attemptHandler fails))^[n] (batch.start fun _ => 0)

/-- Whatever the other updates of the batch do, an update that does not always fail is handled,
and the stored id passes no update that was not attempted. -/
structure UpdatesIsolated (fails : ℤ → ℕ → Bool) (batch : UpdateBatch) : Prop where
  handled : ∀ update ∈ batch.updates, (∃ attempt, fails update.updateId attempt = false) →
    ∃ n, update.updateId ∈ (batch.polled fails n).handled
  nonePassedOver : ∀ n, (batch.polled fails n).NonePassedOver

section Retries

variable {fails : ℤ → ℕ → Bool}

theorem exec_attemptHandler (update : TelegramUpdate) (attempts : ℤ → ℕ) :
    exec (attemptHandler fails update) attempts =
      (if fails update.updateId (attempts update.updateId) then .error .http else .ok (),
        Function.update attempts update.updateId (attempts update.updateId + 1)) := by
  unfold attemptHandler
  rw [exec_bind, exec_get]
  simp only
  rw [exec_bind, exec_modify]
  simp only
  split
  · rfl
  · rfl

/-- What one poll does to the updates that wait: it is done with the first of them, and comes to
one that fails. -/
structure Progress (fails : ℤ → ℕ → Bool) (p p' : Polling (ℤ → ℕ))
    (done left : List TelegramUpdate) : Prop where
  before : p.waiting = done ++ left
  after : p'.waiting = left
  handled : p'.handled = p.handled ++ done.map TelegramUpdate.updateId
  succeeded : ∀ update ∈ done, fails update.updateId (p.rest update.updateId) = false
  attempts : ∀ update ∈ left, p'.rest update.updateId = p.rest update.updateId ∨
    (p'.rest update.updateId = p.rest update.updateId + 1 ∧
      fails update.updateId (p.rest update.updateId) = true)

/-- Storing the id of the first update that waits leaves the others waiting. -/
theorem waiting_of_stored {ω : Type} {p p' : Polling ω} {update : TelegramUpdate}
    {updates : List TelegramUpdate} (hwaiting : p.waiting = update :: updates)
    (hsorted : (update :: updates).Pairwise fun first second => first.updateId < second.updateId)
    (hpending : p'.pending = p.pending)
    (hlast : p'.lastTelegramUpdateId = some update.updateId) : p'.waiting = updates := by
  have hbehind := (mem_waiting.mp (hwaiting ▸ List.mem_cons_self : update ∈ p.waiting)).2
  have hagain : p'.waiting =
      p.waiting.filter fun other => update.updateId + 1 ≤ other.updateId := by
    unfold Polling.waiting
    rw [hpending, hlast]
    cases hp : p.lastTelegramUpdateId with
    | none => rfl
    | some last =>
        have hlt : last < update.updateId := hbehind last hp
        simp only [Option.map_some, updatesFrom, List.filter_filter]
        refine List.filter_congr ?_
        intro other _
        have hiff : update.updateId + 1 ≤ other.updateId ↔
            update.updateId + 1 ≤ other.updateId ∧ last + 1 ≤ other.updateId := by omega
        simpa using hiff
  have hsplit := List.pairwise_cons.mp hsorted
  rw [hagain, hwaiting, List.filter_cons_of_neg (by simp), List.filter_eq_self]
  intro other hother
  exact decide_eq_true (hsplit.1 other hother)

/-- The loop over the updates that wait; `later` are those beyond the answer's limit. -/
theorem Processed.progress {updates : List TelegramUpdate} {p p' : Polling (ℤ → ℕ)}
    (h : Processed allCalls (attemptHandler fails) updates p p') (later : List TelegramUpdate)
    (hwaiting : p.waiting = updates ++ later)
    (hsorted : (updates ++ later).Pairwise fun first second => first.updateId < second.updateId) :
    ∃ done left, Progress fails p p' done left ∧
      (done = [] → ∀ update ∈ updates.head?,
        p'.rest update.updateId = p.rest update.updateId + 1) := by
  -- an update is done with when its handlers succeed; the first failure is the last step
  induction h with
  | @nil p =>
      refine ⟨[], later, ⟨hwaiting, hwaiting, by simp, by simp, ?_⟩, by simp⟩
      intro update _
      exact .inl rfl
  | @failed update updates p error rest hexec =>
      rw [exec_attemptHandler] at hexec
      obtain ⟨hfails, rfl⟩ := Prod.mk.inj hexec
      have hfail : fails update.updateId (p.rest update.updateId) = true := by
        by_contra hok
        simp [hok] at hfails
      refine ⟨[], update :: updates ++ later, ⟨hwaiting, hwaiting, by simp, by simp, ?_⟩, ?_⟩
      · intro other hother
        by_cases hid : other.updateId = update.updateId
        · exact .inr (by simp [hid, hfail])
        · exact .inl (Function.update_of_ne hid _ _)
      · intro _ other hother
        cases hother
        exact Function.update_self _ _ _
  | unsaved _ hset => cases hset
  | @stored update updates p p' rest hexec _ _ ih =>
      rw [exec_attemptHandler] at hexec
      obtain ⟨hfails, rfl⟩ := Prod.mk.inj hexec
      have hok : fails update.updateId (p.rest update.updateId) = false := by
        by_contra hfail
        simp [hfail] at hfails
      have hsplit := List.pairwise_cons.mp hsorted
      have hnext : ∀ q : Polling (ℤ → ℕ), q.pending = p.pending →
          q.lastTelegramUpdateId = some update.updateId → q.waiting = updates ++ later :=
        fun q => waiting_of_stored hwaiting hsorted
      obtain ⟨done, left, hprogress, -⟩ := ih (hnext _ rfl rfl) hsplit.2
      have hrest : updates ++ later = done ++ left :=
        (hprogress.before.symm.trans (hnext _ rfl rfl)).symm
      -- the attempts of the other updates are what they were before this one
      have hother : ∀ other ∈ done ++ left,
          Function.update p.rest update.updateId (p.rest update.updateId + 1) other.updateId =
            p.rest other.updateId := by
        intro other hother
        rw [← hrest] at hother
        exact Function.update_of_ne (hsplit.1 other hother).ne' _ _
      refine ⟨update :: done, left, ⟨?_, hprogress.after, ?_, ?_, ?_⟩, by simp⟩
      · rw [hwaiting, List.cons_append, List.cons_append, hrest]
      · rw [hprogress.handled]
        simp
      · intro other hmem
        rcases List.mem_cons.mp hmem with rfl | hmem
        · exact hok
        · rw [← hother other (List.mem_append_left _ hmem)]
          exact hprogress.succeeded other hmem
      · intro other hmem
        rw [← hother other (List.mem_append_right _ hmem)]
        exact hprogress.attempts other hmem

/-- The updates that wait are in order, and have failed as often as they were attempted. -/
structure Retrying (fails : ℤ → ℕ → Bool) (p : Polling (ℤ → ℕ)) : Prop where
  sorted : p.waiting.Pairwise fun first second => first.updateId < second.updateId
  failed : ∀ update ∈ p.waiting, ∀ attempt < p.rest update.updateId,
    fails update.updateId attempt = true

theorem retrying_start (batch : UpdateBatch) : Retrying fails (batch.start fun _ => 0) where
  sorted := batch.sorted.sublist (waiting_sublist _)
  failed := fun _ _ attempt hattempt => absurd hattempt (Nat.not_lt_zero attempt)

theorem waiting_start (batch : UpdateBatch) (attempts : ℤ → ℕ) :
    (batch.start attempts).waiting = batch.updates := by
  unfold Polling.waiting UpdateBatch.start updatesFrom
  cases hlast : batch.lastTelegramUpdateId with
  | none => rfl
  | some last =>
      refine List.filter_eq_self.mpr ?_
      intro update hupdate
      exact decide_eq_true (batch.behind update hupdate last hlast)

/-- A poll is done with some updates, or begins once more with the first. -/
theorem Retrying.progress {p : Polling (ℤ → ℕ)} (h : Retrying fails p) :
    ∃ done left, Progress fails p (p.poll allCalls (attemptHandler fails)) done left ∧
      (done = [] → ∀ update ∈ p.waiting.head?,
        (p.poll allCalls (attemptHandler fails)).rest update.updateId =
          p.rest update.updateId + 1) := by
  have hprocessed : Processed allCalls (attemptHandler fails) (p.waiting.take getUpdatesLimit)
      { p with pending := p.waiting } (p.poll allCalls (attemptHandler fails)) := by
    unfold Polling.poll
    rw [exec_processUpdates]
    exact processed_forM _ _
  have hsplit : p.waiting.take getUpdatesLimit ++ p.waiting.drop getUpdatesLimit = p.waiting :=
    List.take_append_drop _ _
  have hforgot : ({ p with pending := p.waiting } : Polling (ℤ → ℕ)).waiting = p.waiting := by
    unfold Polling.waiting updatesFrom
    cases p.lastTelegramUpdateId with
    | none => rfl
    | some last => simp
  obtain ⟨done, left, hprogress, hhead⟩ :=
    hprocessed.progress (p.waiting.drop getUpdatesLimit) (by rw [hsplit, hforgot])
      (by rw [hsplit]; exact h.sorted)
  refine ⟨done, left, ⟨?_, hprogress.after, hprogress.handled, hprogress.succeeded,
    hprogress.attempts⟩, ?_⟩
  · rw [← hprogress.before, hforgot]
  · rw [List.head?_take] at hhead
    exact hhead

theorem Retrying.poll {p : Polling (ℤ → ℕ)} (h : Retrying fails p) :
    Retrying fails (p.poll allCalls (attemptHandler fails)) := by
  obtain ⟨done, left, hprogress, -⟩ := h.progress
  have hsorted := h.sorted
  rw [hprogress.before] at hsorted
  refine ⟨?_, ?_⟩
  · rw [hprogress.after]
    exact (List.pairwise_append.mp hsorted).2.1
  · rw [hprogress.after]
    intro update hupdate attempt hattempt
    have hbefore := h.failed update (by
      rw [hprogress.before]; exact List.mem_append_right _ hupdate)
    rcases hprogress.attempts update hupdate with hsame | ⟨hmore, hfails⟩
    · exact hbefore attempt (hsame ▸ hattempt)
    · rcases Nat.lt_succ_iff_lt_or_eq.mp (hmore ▸ hattempt) with hlt | rfl
      · exact hbefore attempt hlt
      · exact hfails

/-- What the updates up to one still cost, when each is known to succeed at some attempt. -/
def effort (succeedsAt : ℤ → ℕ) (p : Polling (ℤ → ℕ)) (updates : List TelegramUpdate) : ℕ :=
  (updates.map fun update => succeedsAt update.updateId + 1 - p.rest update.updateId).sum

section Effort

variable {succeedsAt : ℤ → ℕ} {p p' : Polling (ℤ → ℕ)} {updates : List TelegramUpdate}

theorem effort_append (more : List TelegramUpdate) :
    effort succeedsAt p (updates ++ more) =
      effort succeedsAt p updates + effort succeedsAt p more := by
  unfold effort
  rw [List.map_append, List.sum_append]

theorem effort_pos {update : TelegramUpdate} (hupdate : update ∈ updates)
    (hleft : p.rest update.updateId < succeedsAt update.updateId + 1) :
    0 < effort succeedsAt p updates := by
  have hterm := List.single_le_sum (fun _ _ => Nat.zero_le _) _
    (List.mem_map_of_mem (f := fun other : TelegramUpdate =>
      succeedsAt other.updateId + 1 - p.rest other.updateId) hupdate)
  unfold effort
  omega

theorem effort_le (hmore : ∀ update ∈ updates, p.rest update.updateId ≤ p'.rest update.updateId) :
    effort succeedsAt p' updates ≤ effort succeedsAt p updates := by
  unfold effort
  refine List.sum_le_sum ?_
  intro update hupdate
  exact Nat.sub_le_sub_left (hmore update hupdate) _

theorem effort_lt (hmore : ∀ update ∈ updates, p.rest update.updateId ≤ p'.rest update.updateId)
    {update : TelegramUpdate} (hupdate : update ∈ updates)
    (hleft : p.rest update.updateId < succeedsAt update.updateId + 1)
    (hused : p.rest update.updateId < p'.rest update.updateId) :
    effort succeedsAt p' updates < effort succeedsAt p updates := by
  unfold effort
  refine List.sum_lt_sum _ _ ?_ ⟨update, hupdate, ?_⟩
  · intro other hother
    exact Nat.sub_le_sub_left (hmore other hother) _
  · omega

end Effort

/-- An update that waits has not come to its first success. -/
theorem Retrying.attempt_left {p : Polling (ℤ → ℕ)} {update : TelegramUpdate} {attempt : ℕ}
    (h : Retrying fails p) (hupdate : update ∈ p.waiting)
    (hok : fails update.updateId attempt = false) : p.rest update.updateId < attempt + 1 := by
  by_contra hle
  have hfail := h.failed update hupdate attempt (by omega)
  rw [hok] at hfail
  cases hfail

/-- The updates before one that a poll was not done with. -/
theorem Progress.split {p p' : Polling (ℤ → ℕ)} {done left earlier later : List TelegramUpdate}
    {update : TelegramUpdate} (h : Progress fails p p' done left)
    (hwaiting : p.waiting = earlier ++ update :: later) (hdone : update ∉ done) :
    ∃ earlier', earlier = done ++ earlier' ∧ left = earlier' ++ update :: later := by
  rcases List.append_eq_append_iff.mp (h.before.symm.trans hwaiting) with
    ⟨rest, hearlier, hleft⟩ | ⟨rest, hmore, hlater⟩
  · exact ⟨rest, hearlier, hleft⟩
  · cases rest with
    | nil => exact ⟨[], by simpa using hmore.symm, by simpa using hlater.symm⟩
    | cons first rest =>
        obtain ⟨rfl, -⟩ := List.cons.inj hlater
        refine absurd ?_ hdone
        rw [hmore]
        exact List.mem_append_right _ List.mem_cons_self

/-- A poll is done with one of the first updates that wait, or uses up an attempt of the first. -/
theorem Progress.effort_lt {succeedsAt : ℤ → ℕ} {p p' : Polling (ℤ → ℕ)}
    {done left next later : List TelegramUpdate} (h : Progress fails p p' done left)
    (hused : done = [] → ∀ update ∈ p.waiting.head?,
      p'.rest update.updateId = p.rest update.updateId + 1)
    (hwaiting : p.waiting = done ++ next ++ later) (hnext : next ≠ [])
    (hleft : ∀ update ∈ done ++ next,
      p.rest update.updateId < succeedsAt update.updateId + 1) :
    effort succeedsAt p' next < effort succeedsAt p (done ++ next) := by
  have hmore : ∀ update ∈ next, p.rest update.updateId ≤ p'.rest update.updateId := by
    intro update hupdate
    have hwaits : update ∈ left := by
      rw [List.append_cancel_left (h.before.symm.trans (hwaiting.trans (List.append_assoc _ _ _)))]
      exact List.mem_append_left _ hupdate
    rcases h.attempts update hwaits with hsame | ⟨hone, -⟩
    · exact hsame.ge
    · exact hone ▸ Nat.le_succ _
  cases done with
  | nil =>
      obtain ⟨first, rest, rfl⟩ := List.exists_cons_of_ne_nil hnext
      have hfirst := hused rfl first (by rw [hwaiting]; exact rfl)
      refine Gt06.effort_lt hmore List.mem_cons_self (hleft first List.mem_cons_self) ?_
      omega
  | cons first done =>
      have hpos : 0 < effort succeedsAt p (first :: done) :=
        effort_pos List.mem_cons_self (hleft first List.mem_cons_self)
      have hle : effort succeedsAt p' next ≤ effort succeedsAt p next := effort_le hmore
      rw [effort_append]
      omega

/-- An update is handled when it and those before it succeed at some attempt. -/
theorem handled_of_effort (succeedsAt : ℤ → ℕ) (n : ℕ) {p : Polling (ℤ → ℕ)}
    {earlier later : List TelegramUpdate} {update : TelegramUpdate} (h : Retrying fails p)
    (hwaiting : p.waiting = earlier ++ update :: later)
    (hsucceeds : ∀ other ∈ earlier ++ [update],
      fails other.updateId (succeedsAt other.updateId) = false)
    (heffort : effort succeedsAt p (earlier ++ [update]) ≤ n) :
    ∃ k, update.updateId ∈
      ((Polling.poll allCalls (attemptHandler fails))^[k] p).handled := by
  induction n generalizing p earlier with
  | zero =>
      have hupdate : update ∈ p.waiting := by
        rw [hwaiting]
        exact List.mem_append_right _ List.mem_cons_self
      have hmem : update ∈ earlier ++ [update] := List.mem_append_right _ List.mem_cons_self
      have hpos := effort_pos hmem (h.attempt_left hupdate (hsucceeds update hmem))
      omega
  | succ n ih =>
      obtain ⟨done, left, hprogress, hused⟩ := h.progress
      by_cases hdone : update ∈ done
      · -- this poll handles the update
        refine ⟨1, ?_⟩
        rw [Function.iterate_one, hprogress.handled]
        exact List.mem_append_right _ (List.mem_map_of_mem hdone)
      -- it still waits, and there is less to be done before it
      obtain ⟨earlier', rfl, hleft⟩ := hprogress.split hwaiting hdone
      rw [List.append_assoc] at hsucceeds heffort
      have hwaiting' : p.waiting = done ++ (earlier' ++ [update]) ++ later := by
        rw [hwaiting]
        simp
      have hless := hprogress.effort_lt hused hwaiting' (by simp) (by
        intro other hother
        refine h.attempt_left ?_ (hsucceeds other hother)
        rw [hwaiting']
        exact List.mem_append_left _ hother)
      obtain ⟨k, hk⟩ := ih h.poll (hprogress.after.trans hleft)
        (fun other hother => hsucceeds other (List.mem_append_right _ hother)) (by omega)
      exact ⟨k + 1, hk⟩

/-- An update that always fails keeps itself and those behind it from being handled. -/
theorem not_handled_of_fails {p : Polling (ℤ → ℕ)} {blocked : TelegramUpdate} {updateId : ℤ}
    (h : Retrying fails p) (hblocked : blocked ∈ p.waiting)
    (hfails : ∀ attempt, fails blocked.updateId attempt = true)
    (hle : blocked.updateId ≤ updateId) (hnot : updateId ∉ p.handled) (n : ℕ) :
    updateId ∉ ((Polling.poll allCalls (attemptHandler fails))^[n] p).handled := by
  induction n generalizing p with
  | zero => exact hnot
  | succ n ih =>
      rw [Function.iterate_succ_apply]
      obtain ⟨done, left, hprogress, -⟩ := h.progress
      have hsorted := h.sorted
      rw [hprogress.before] at hsorted hblocked
      have hleft : blocked ∈ left := by
        rcases List.mem_append.mp hblocked with hdone | hleft
        · have hok := hprogress.succeeded blocked hdone
          rw [hfails] at hok
          cases hok
        · exact hleft
      refine ih h.poll (hprogress.after ▸ hleft) ?_
      rw [hprogress.handled]
      intro hmem
      rcases List.mem_append.mp hmem with hmem | hmem
      · exact hnot hmem
      obtain ⟨other, hother, rfl⟩ := List.mem_map.mp hmem
      have hlt := (List.pairwise_append.mp hsorted).2.2 other hother blocked hleft
      omega

/-- The updates that polling handles are those that succeed at some attempt, together with all
updates before them. -/
theorem handled_iff {batch : UpdateBatch} {update : TelegramUpdate}
    (hupdate : update ∈ batch.updates) :
    (∃ n, update.updateId ∈ (batch.polled fails n).handled) ↔
      ∀ other ∈ batch.updates, other.updateId ≤ update.updateId →
        ∃ attempt, fails other.updateId attempt = false := by
  constructor
  · rintro ⟨n, hhandled⟩ other hother hle
    by_contra hnone
    push Not at hnone
    refine not_handled_of_fails (retrying_start batch) ?_ ?_ hle ?_ n hhandled
    · exact (waiting_start batch _).symm ▸ hother
    · intro attempt
      exact Bool.eq_true_of_not_eq_false (hnone attempt)
    · exact List.not_mem_nil
  · intro hsucceed
    obtain ⟨earlier, later, hsplit⟩ := List.append_of_mem hupdate
    have hsorted := batch.sorted
    rw [hsplit] at hsorted
    have hwaiting : (batch.start fun _ => 0).waiting = earlier ++ update :: later :=
      (waiting_start batch _).trans hsplit
    refine handled_of_effort (fun id => Classical.epsilon fun attempt => fails id attempt = false) _
      (retrying_start batch) hwaiting ?_ le_rfl
    intro other hother
    refine Classical.epsilon_spec (hsucceed other ?_ ?_)
    · rw [hsplit, List.append_cons]
      exact List.mem_append_left _ hother
    · rcases List.mem_append.mp hother with hother | hother
      · exact ((List.pairwise_append.mp hsorted).2.2 other hother update List.mem_cons_self).le
      · exact (List.mem_singleton.mp hother ▸ le_rfl)

theorem pollInv_polled (batch : UpdateBatch) (n : ℕ) : PollInv (batch.polled fails n) := by
  induction n with
  | zero => exact pollInv_start batch _
  | succ n ih =>
      unfold UpdateBatch.polled
      rw [Function.iterate_succ_apply']
      exact ih.poll

end Retries

/-! ### Isolation -/

/-- No update that could be handled is behind one that always fails. -/
def NoneBehindFailing (fails : ℤ → ℕ → Bool) (batch : UpdateBatch) : Prop :=
  ∀ blocked ∈ batch.updates, (∀ attempt, fails blocked.updateId attempt = true) →
    ∀ update ∈ batch.updates, blocked.updateId < update.updateId →
      ∀ attempt, fails update.updateId attempt = true

/-- **An update is kept from being handled by an update before it that always fails, and by nothing
else.**  The second part holds whatever fails and whatever the handlers are: the stored id never
passes an update that was not attempted. -/
theorem updatesIsolated_iff (batch : UpdateBatch) (fails : ℤ → ℕ → Bool) :
    (UpdatesIsolated fails batch ↔ NoneBehindFailing fails batch) ∧
      ∀ (ω : Type) (rest : ω) (tr : List (Polling ω × PollEvent ω)) (p : Polling ω),
        Run Polling.step (batch.start rest) tr p → p.NonePassedOver := by
  refine ⟨⟨?_, ?_⟩, fun ω rest tr p run => (pollInv_run run).passed⟩
  · intro h blocked hblocked hfails update hupdate hlt
    by_contra hok
    push Not at hok
    obtain ⟨attempt, hattempt⟩ := hok
    have hhandled := h.handled update hupdate ⟨attempt, Bool.eq_false_of_not_eq_true hattempt⟩
    obtain ⟨failed, hfailed⟩ := (handled_iff hupdate).mp hhandled blocked hblocked hlt.le
    rw [hfails] at hfailed
    cases hfailed
  · intro h
    refine ⟨?_, fun n => (pollInv_polled batch n).passed⟩
    rintro update hupdate ⟨attempt, hattempt⟩
    refine (handled_iff hupdate).mpr ?_
    intro other hother hle
    by_contra hnone
    push Not at hnone
    have hfails : ∀ attempt, fails other.updateId attempt = true := fun attempt =>
      Bool.eq_true_of_not_eq_false (hnone attempt)
    rcases hle.lt_or_eq with hlt | heq
    · rw [h other hother hfails update hupdate hlt attempt] at hattempt
      cases hattempt
    · rw [← heq, hfails] at hattempt
      cases hattempt

/-- A chat that has blocked the bot asks for help; the next chat asks for the terms. -/
def helpFromBlockedChat : UpdateBatch where
  lastTelegramUpdateId := none
  updates := [⟨1, some ⟨5, some 5, some "/help", some 20⟩, none⟩,
    ⟨2, some ⟨6, some 6, some "/terms", some 30⟩, none⟩]
  sorted := by decide
  behind := by simp

/-- The reply to the blocked chat fails each time, so the other chat never gets one. -/
theorem blocked_chat_blocks_updates :
    ¬ UpdatesIsolated (fun updateId _ => updateId == 1) helpFromBlockedChat := by
  intro h
  have hterms : (⟨2, some ⟨6, some 6, some "/terms", some 30⟩, none⟩ : TelegramUpdate) ∈
      helpFromBlockedChat.updates := by simp [helpFromBlockedChat]
  have hhandled := h.handled _ hterms ⟨0, rfl⟩
  obtain ⟨attempt, hattempt⟩ := (handled_iff hterms).mp hhandled
    ⟨1, some ⟨5, some 5, some "/help", some 20⟩, none⟩ (by simp [helpFromBlockedChat]) (by decide)
  cases hattempt

end Gt06
