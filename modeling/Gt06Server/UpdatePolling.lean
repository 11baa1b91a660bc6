/-
**Polling for updates.**

Telegram keeps the updates of the bot in the order of their ids until the bot asks for those behind
an offset.  `process_updates` reads the id of the last update it is done with, asks for the ones
behind it, handles one after the other and stores the id of each.  An error of a handler leaves the
loop before the id is stored, so the next call begins with the same update again.

What a handler does to the rest of the world is left open; the loop only sees whether it returned
an error.

Main definitions:

* `Gt06.TelegramUpdate`, `Gt06.Polling` — the updates, what Telegram holds of them and what the bot
  has stored;
* `Gt06.processUpdates`, `Gt06.Polling.poll` — the loop, for any handlers;
* `Gt06.Processed` — what the loop does with a list of updates;
* `Gt06.Polling.step` — arrivals, polls and everything else.

Main results:

* `Gt06.processed_forM` — the loop does what `Processed` says;
* `Gt06.pollInv_step`, `Gt06.pollInv_run` — **no update is lost and none is passed over**, whatever
  fails and whatever the handlers are.
-/

import Mathlib
import Gt06Server.Await
import Gt06Server.MidtransSnap

set_option relaxedAutoImplicit false
set_option autoImplicit false

namespace Gt06

open Await

/-! ### Updates -/

structure TelegramMessage where
  chatId : ℤ
  fromId : Option ℤ
  text : Option String
  messageId : Option ℤ
  deriving DecidableEq, Repr

structure TelegramCallbackQuery where
  id : String
  fromId : ℤ
  data : Option String
  message : Option TelegramMessage
  deriving DecidableEq, Repr

structure TelegramUpdate where
  updateId : ℤ
  message : Option TelegramMessage
  callbackQuery : Option TelegramCallbackQuery
  deriving DecidableEq, Repr

/-- The errors of the loop and of its handlers. -/
inductive BotError where
  | query
  | http
  | missingMidtransConfig
  | midtrans (error : MidtransError)
  deriving DecidableEq, Repr

/-- What the bot has stored and Telegram holds, what has happened so far, and the rest of the
world. -/
structure Polling (ω : Type) where
  /-- The state `last_telegram_update_id`. -/
  lastTelegramUpdateId : Option ℤ
  /-- The updates Telegram has not forgotten. -/
  pending : List TelegramUpdate
  arrived : List ℤ
  attempted : List ℤ
  handled : List ℤ
  rest : ω

/-- Statements that may fail and leave their effects behind. -/
abbrev BotT (σ : Type) : Type → Type := ExceptT BotError (StateM σ)

/-- The outcome of some statements, and the state they leave. -/
def exec {σ α : Type} (x : BotT σ α) (s : σ) : Except BotError α × σ := (ExceptT.run x).run s

/-- What the handlers do with an update. -/
abbrev Handler (ω : Type) : Type := TelegramUpdate → BotT ω Unit

/-- `if let Some(..)`. -/
def ifSome {ω α : Type} (x : Option α) (f : α → BotT ω Unit) : BotT ω Unit :=
  match x with
  | some a => f a
  | none => pure ()

/-- The handlers of an update, from one for its message and one for its callback query. -/
def botHandler {ω : Type} (handleMessage : TelegramMessage → BotT ω Unit)
    (handleCallbackQuery : TelegramCallbackQuery → BotT ω Unit) : Handler ω := fun update => do
  ifSome update.message handleMessage
  ifSome update.callbackQuery handleCallbackQuery

/-! ### The loop -/

/-- The calls of `process_updates` that fail, apart from those of the handlers. -/
structure PollCalls where
  getStateFails : Bool
  getUpdatesFails : Bool
  setStateFails : ℤ → Bool

section Loop

variable {ω : Type}

def getLastTelegramUpdateId (calls : PollCalls) : BotT (Polling ω) (Option ℤ) := do
  if calls.getStateFails then throw .query
  else return (← get).lastTelegramUpdateId

/-- The most updates one answer holds. -/
def getUpdatesLimit : ℕ := 100

/-- The updates from an offset on. -/
def updatesFrom (offset : Option ℤ) (updates : List TelegramUpdate) : List TelegramUpdate :=
  match offset with
  | none => updates
  | some first => updates.filter fun update => first ≤ update.updateId

/-- `getUpdates`: Telegram forgets the updates before the offset and answers with the next ones. -/
def getUpdates (calls : PollCalls) (offset : Option ℤ) :
    BotT (Polling ω) (List TelegramUpdate) := do
  if calls.getUpdatesFails then throw .http
  else
    modify fun p => { p with pending := updatesFrom offset p.pending }
    return (← get).pending.take getUpdatesLimit

/-- The handlers of an update, with a note of whether they succeeded. -/
def handleUpdate (handle : Handler ω) (update : TelegramUpdate) : BotT (Polling ω) Unit :=
  ExceptT.mk fun p =>
    match exec (handle update) p.rest with
    | (.ok (), rest) =>
        (.ok (), { p with
          attempted := p.attempted ++ [update.updateId]
          handled := p.handled ++ [update.updateId]
          rest := rest })
    | (.error error, rest) =>
        (.error error, { p with attempted := p.attempted ++ [update.updateId], rest := rest })

def setLastTelegramUpdateId (calls : PollCalls) (updateId : ℤ) : BotT (Polling ω) Unit := do
  if calls.setStateFails updateId then throw .query
  else modify fun p => { p with lastTelegramUpdateId := some updateId }

/-- The body of the loop. -/
def processUpdate (calls : PollCalls) (handle : Handler ω) (update : TelegramUpdate) :
    BotT (Polling ω) Unit := do
  handleUpdate handle update
  setLastTelegramUpdateId calls update.updateId

def processUpdates (calls : PollCalls) (handle : Handler ω) : BotT (Polling ω) Unit := do
  let offset := (← getLastTelegramUpdateId calls).map fun value => value + 1
  let updates ← getUpdates calls offset
  forM updates (processUpdate calls handle)

/-- One call of `process_updates`, whose error is logged. -/
def Polling.poll (calls : PollCalls) (handle : Handler ω) (p : Polling ω) : Polling ω :=
  (exec (processUpdates calls handle) p).2

end Loop

/-! ### What the loop does -/

section Exec

variable {σ α β : Type}

theorem exec_bind (x : BotT σ α) (f : α → BotT σ β) (s : σ) :
    exec (x >>= f) s =
      match exec x s with
      | (.ok a, s') => exec (f a) s'
      | (.error error, s') => (.error error, s') := by
  unfold exec
  rw [ExceptT.run_bind, StateT.run_bind]
  generalize StateT.run (ExceptT.run x) s = result
  obtain ⟨outcome, s'⟩ := result
  cases outcome with
  | error error => rfl
  | ok a => rfl

@[simp] theorem exec_pure (a : α) (s : σ) : exec (pure a : BotT σ α) s = (.ok a, s) := rfl

@[simp] theorem exec_throw (error : BotError) (s : σ) :
    exec (throw error : BotT σ α) s = (.error error, s) := rfl

@[simp] theorem exec_get (s : σ) : exec (get : BotT σ σ) s = (.ok s, s) := rfl

@[simp] theorem exec_modify (f : σ → σ) (s : σ) :
    exec (modify f : BotT σ Unit) s = (.ok (), f s) := rfl

end Exec

section Processing

variable {ω : Type} {calls : PollCalls} {handle : Handler ω}

/-- How the loop goes over a list of updates: to its end, or to the first update whose handlers
fail or whose id is not stored. -/
inductive Processed (calls : PollCalls) (handle : Handler ω) :
    List TelegramUpdate → Polling ω → Polling ω → Prop
  | nil {p : Polling ω} : Processed calls handle [] p p
  | failed {update : TelegramUpdate} {updates : List TelegramUpdate} {p : Polling ω}
      {error : BotError} {rest : ω} : exec (handle update) p.rest = (.error error, rest) →
      Processed calls handle (update :: updates) p
        { p with attempted := p.attempted ++ [update.updateId], rest := rest }
  | unsaved {update : TelegramUpdate} {updates : List TelegramUpdate} {p : Polling ω} {rest : ω} :
      exec (handle update) p.rest = (.ok (), rest) → calls.setStateFails update.updateId = true →
      Processed calls handle (update :: updates) p
        { p with
          attempted := p.attempted ++ [update.updateId]
          handled := p.handled ++ [update.updateId]
          rest := rest }
  | stored {update : TelegramUpdate} {updates : List TelegramUpdate} {p p' : Polling ω} {rest : ω} :
      exec (handle update) p.rest = (.ok (), rest) → calls.setStateFails update.updateId = false →
      Processed calls handle updates
        { p with
          lastTelegramUpdateId := some update.updateId
          attempted := p.attempted ++ [update.updateId]
          handled := p.handled ++ [update.updateId]
          rest := rest } p' →
      Processed calls handle (update :: updates) p p'

theorem exec_handleUpdate (update : TelegramUpdate) (p : Polling ω) :
    exec (handleUpdate handle update) p =
      match exec (handle update) p.rest with
      | (.ok (), rest) =>
          (.ok (), { p with
            attempted := p.attempted ++ [update.updateId]
            handled := p.handled ++ [update.updateId]
            rest := rest })
      | (.error error, rest) =>
          (.error error, { p with attempted := p.attempted ++ [update.updateId], rest := rest }) :=
  rfl

theorem exec_setLastTelegramUpdateId (updateId : ℤ) (p : Polling ω) :
    exec (setLastTelegramUpdateId calls updateId) p =
      if calls.setStateFails updateId then (.error .query, p)
      else (.ok (), { p with lastTelegramUpdateId := some updateId }) := by
  unfold setLastTelegramUpdateId
  split
  · rfl
  · rfl

theorem processed_forM (updates : List TelegramUpdate) (p : Polling ω) :
    Processed calls handle updates p (exec (forM updates (processUpdate calls handle)) p).2 := by
  induction updates generalizing p with
  | nil => exact .nil
  | cons update updates ih =>
      rw [List.forM_cons, exec_bind, processUpdate, exec_bind, exec_handleUpdate]
      rcases hexec : exec (handle update) p.rest with ⟨outcome, rest⟩
      cases outcome with
      | error error => exact .failed hexec
      | ok _ =>
          simp only [exec_setLastTelegramUpdateId]
          cases hset : calls.setStateFails update.updateId with
          | true => exact .unsaved hexec hset
          | false => exact .stored hexec hset (ih _)

/-- The updates behind the stored id. -/
def Polling.waiting (p : Polling ω) : List TelegramUpdate :=
  updatesFrom (p.lastTelegramUpdateId.map fun value => value + 1) p.pending

theorem mem_waiting {p : Polling ω} {update : TelegramUpdate} :
    update ∈ p.waiting ↔
      update ∈ p.pending ∧ ∀ last ∈ p.lastTelegramUpdateId, last < update.updateId := by
  unfold Polling.waiting updatesFrom
  cases p.lastTelegramUpdateId with
  | none => simp
  | some last => simp

theorem waiting_sublist (p : Polling ω) : p.waiting.Sublist p.pending := by
  unfold Polling.waiting updatesFrom
  cases p.lastTelegramUpdateId with
  | none => exact List.Sublist.refl _
  | some last => exact List.filter_sublist

theorem exec_getLastTelegramUpdateId (p : Polling ω) :
    exec (getLastTelegramUpdateId calls) p =
      if calls.getStateFails then (.error .query, p) else (.ok p.lastTelegramUpdateId, p) := by
  unfold getLastTelegramUpdateId
  split
  · rfl
  · rfl

theorem exec_getUpdates (offset : Option ℤ) (p : Polling ω) :
    exec (getUpdates calls offset) p =
      if calls.getUpdatesFails then (.error .http, p)
      else (.ok ((updatesFrom offset p.pending).take getUpdatesLimit),
        { p with pending := updatesFrom offset p.pending }) := by
  unfold getUpdates
  split
  · rfl
  · rfl

theorem exec_processUpdates (p : Polling ω) :
    exec (processUpdates calls handle) p =
      if calls.getStateFails then (.error .query, p)
      else if calls.getUpdatesFails then (.error .http, p)
      else exec (forM (p.waiting.take getUpdatesLimit) (processUpdate calls handle))
        { p with pending := p.waiting } := by
  unfold processUpdates
  rw [exec_bind, exec_getLastTelegramUpdateId]
  cases calls.getStateFails with
  | true => rfl
  | false =>
      simp only [Bool.false_eq_true, if_false, exec_bind, exec_getUpdates]
      cases calls.getUpdatesFails with
      | true => rfl
      | false => rfl

/-- A poll asks for nothing, or goes over the first updates behind the stored id. -/
theorem poll_cases (p : Polling ω) :
    p.poll calls handle = p ∨
      Processed calls handle (p.waiting.take getUpdatesLimit) { p with pending := p.waiting }
        (p.poll calls handle) := by
  unfold Polling.poll
  rw [exec_processUpdates]
  split
  · exact .inl rfl
  split
  · exact .inl rfl
  · exact .inr (processed_forM _ _)

/-- What the handlers of every update keep, going over updates keeps. -/
theorem Processed.rest {I : ω → Prop} {updates : List TelegramUpdate} {p p' : Polling ω}
    (hprocessed : Processed calls handle updates p p')
    (hhandle : ∀ update w, I w → I (exec (handle update) w).2) (h : I p.rest) : I p'.rest := by
  induction hprocessed with
  | nil => exact h
  | @failed update updates p error rest hexec =>
      have hrest := hhandle update p.rest h
      rwa [hexec] at hrest
  | @unsaved update updates p rest hexec hset =>
      have hrest := hhandle update p.rest h
      rwa [hexec] at hrest
  | @stored update updates p p' rest hexec hset _ ih =>
      have hrest := hhandle update p.rest h
      rw [hexec] at hrest
      exact ih hrest

theorem rest_poll {I : ω → Prop} {p : Polling ω}
    (hhandle : ∀ update w, I w → I (exec (handle update) w).2) (h : I p.rest) :
    I (p.poll calls handle).rest := by
  rcases poll_cases p with hsame | hprocessed
  · rw [hsame]
    exact h
  · exact hprocessed.rest hhandle h

end Processing

/-! ### Every run -/

/-- Updates in the order of their ids, behind the stored id and not attempted yet. -/
structure UpdateBatch where
  lastTelegramUpdateId : Option ℤ
  updates : List TelegramUpdate
  sorted : updates.Pairwise fun first second => first.updateId < second.updateId
  behind : ∀ update ∈ updates, ∀ last ∈ lastTelegramUpdateId, last < update.updateId

section Runs

variable {ω : Type} {calls : PollCalls} {handle : Handler ω}

def UpdateBatch.start (batch : UpdateBatch) (rest : ω) : Polling ω where
  lastTelegramUpdateId := batch.lastTelegramUpdateId
  pending := batch.updates
  arrived := batch.updates.map TelegramUpdate.updateId
  attempted := []
  handled := []
  rest := rest

/-- No call outside the handlers fails. -/
def allCalls : PollCalls where
  getStateFails := false
  getUpdatesFails := false
  setStateFails := fun _ => false

/-- What happens: Telegram has another update, the bot polls, or the rest of the world moves on. -/
inductive PollEvent (ω : Type) where
  | arrive (update : TelegramUpdate)
  | poll (calls : PollCalls) (handle : Handler ω)
  | others (rest : ω)

/-- The ids of the updates increase. -/
def Polling.step (p : Polling ω) : PollEvent ω → Option (Polling ω)
  | .arrive update =>
      if (∀ id ∈ p.arrived, id < update.updateId) ∧
          ∀ last ∈ p.lastTelegramUpdateId, last < update.updateId then
        some { p with
          pending := p.pending ++ [update]
          arrived := p.arrived ++ [update.updateId] }
      else none
  | .poll calls handle => some (p.poll calls handle)
  | .others rest => some { p with rest := rest }

/-- The stored id passes no update that was not attempted. -/
def Polling.NonePassedOver (p : Polling ω) : Prop :=
  ∀ id ∈ p.arrived, ∀ last ∈ p.lastTelegramUpdateId, id ≤ last → id ∈ p.attempted

structure PollInv (p : Polling ω) : Prop where
  sorted : p.pending.Pairwise fun first second => first.updateId < second.updateId
  known : ∀ update ∈ p.pending, update.updateId ∈ p.arrived
  /-- No update is lost. -/
  kept : ∀ id ∈ p.arrived, id ∈ p.attempted ∨ ∃ update ∈ p.pending, update.updateId = id
  passed : p.NonePassedOver

theorem pollInv_start (batch : UpdateBatch) (rest : ω) : PollInv (batch.start rest) where
  sorted := batch.sorted
  known := fun _ hupdate => List.mem_map_of_mem hupdate
  kept := fun _ hid => .inr (List.mem_map.mp hid)
  passed := by
    intro id hid last hlast hle
    obtain ⟨update, hupdate, rfl⟩ := List.mem_map.mp hid
    exact absurd (batch.behind update hupdate last hlast) (not_lt.mpr hle)

/-- What the loop leaves alone; what was attempted stays attempted. -/
theorem Processed.frame {updates : List TelegramUpdate} {p p' : Polling ω}
    (h : Processed calls handle updates p p') :
    p'.pending = p.pending ∧ p'.arrived = p.arrived ∧ p.attempted <+: p'.attempted := by
  induction h with
  | nil => exact ⟨rfl, rfl, List.prefix_refl _⟩
  | failed _ => exact ⟨rfl, rfl, List.prefix_append _ _⟩
  | unsaved _ _ => exact ⟨rfl, rfl, List.prefix_append _ _⟩
  | stored _ _ _ ih => exact ⟨ih.1, ih.2.1, (List.prefix_append _ _).trans ih.2.2⟩

/-- The loop stores the ids in their order, each after its update was attempted. -/
theorem Processed.nonePassedOver {updates : List TelegramUpdate} {p p' : Polling ω}
    (h : Processed calls handle updates p p') (later : List TelegramUpdate)
    (hsorted : (updates ++ later).Pairwise fun first second => first.updateId < second.updateId)
    (hkept : ∀ id ∈ p.arrived,
      id ∈ p.attempted ∨ ∃ update ∈ updates ++ later, update.updateId = id)
    (hpassed : p.NonePassedOver) : p'.NonePassedOver := by
  induction h with
  | nil => exact hpassed
  | failed _ =>
      intro id hid last hlast hle
      exact List.mem_append_left _ (hpassed id hid last hlast hle)
  | unsaved _ _ =>
      intro id hid last hlast hle
      exact List.mem_append_left _ (hpassed id hid last hlast hle)
  | @stored update updates p p' rest _ _ _ ih =>
      have hsplit := List.pairwise_cons.mp hsorted
      -- everything up to the new id is attempted: it was before, or it is this update
      have hattempted : ∀ id ∈ p.arrived, id ≤ update.updateId →
          id ∈ p.attempted ++ [update.updateId] := by
        intro id hid hle
        rcases hkept id hid with hbefore | ⟨other, hother, rfl⟩
        · exact List.mem_append_left _ hbefore
        rcases List.mem_cons.mp hother with rfl | hother
        · exact List.mem_append_right _ (List.mem_singleton.mpr rfl)
        · exact absurd (hsplit.1 other hother) (not_lt.mpr hle)
      refine ih hsplit.2 ?_ ?_
      · intro id hid
        rcases hkept id hid with hbefore | ⟨other, hother, rfl⟩
        · exact .inl (List.mem_append_left _ hbefore)
        rcases List.mem_cons.mp hother with rfl | hother
        · exact .inl (List.mem_append_right _ (List.mem_singleton.mpr rfl))
        · exact .inr ⟨other, hother, rfl⟩
      · intro id hid last hlast hle
        cases hlast
        exact hattempted id hid hle

/-- What was attempted or is still held by Telegram, when it forgets the updates it may forget. -/
theorem PollInv.forget {p : Polling ω} (h : PollInv p) :
    PollInv { p with pending := p.waiting } where
  sorted := h.sorted.sublist (waiting_sublist p)
  known := fun update hupdate => h.known update ((waiting_sublist p).mem hupdate)
  kept := by
    intro id hid
    rcases h.kept id hid with hattempted | ⟨update, hupdate, rfl⟩
    · exact .inl hattempted
    by_cases hwaiting : ∀ last ∈ p.lastTelegramUpdateId, last < update.updateId
    · exact .inr ⟨update, mem_waiting.mpr ⟨hupdate, hwaiting⟩, rfl⟩
    · push Not at hwaiting
      obtain ⟨last, hlast, hle⟩ := hwaiting
      exact .inl (h.passed update.updateId hid last hlast hle)
  passed := h.passed

theorem PollInv.poll {p : Polling ω} (h : PollInv p) : PollInv (p.poll calls handle) := by
  rcases poll_cases p with hsame | hprocessed
  · rw [hsame]
    exact h
  have hforget := h.forget
  obtain ⟨hpending, harrived, hattempted⟩ := hprocessed.frame
  have hsplit : p.waiting.take getUpdatesLimit ++ p.waiting.drop getUpdatesLimit = p.waiting :=
    List.take_append_drop _ _
  refine ⟨?_, ?_, ?_, ?_⟩
  · rw [hpending]
    exact hforget.sorted
  · rw [hpending, harrived]
    exact hforget.known
  · rw [hpending, harrived]
    intro id hid
    exact (hforget.kept id hid).imp_left fun hbefore => hattempted.mem hbefore
  · refine hprocessed.nonePassedOver (p.waiting.drop getUpdatesLimit) ?_ ?_ hforget.passed
    · rw [hsplit]
      exact hforget.sorted
    · rw [hsplit]
      exact hforget.kept

/-- What every event keeps: no update is lost, and none is passed over. -/
theorem pollInv_step {p p' : Polling ω} {event : PollEvent ω} (h : PollInv p)
    (hstep : p.step event = some p') : PollInv p' := by
  cases event with
  | poll calls handle =>
      obtain rfl := Option.some.inj hstep
      exact h.poll
  | others rest =>
      obtain rfl := Option.some.inj hstep
      exact ⟨h.sorted, h.known, h.kept, h.passed⟩
  | arrive update =>
      simp only [Polling.step, Option.ite_none_right_eq_some] at hstep
      obtain ⟨⟨hnew, hbehind⟩, hp'⟩ := hstep
      obtain rfl := Option.some.inj hp'
      refine ⟨?_, ?_, ?_, ?_⟩
      · refine List.pairwise_append.mpr ⟨h.sorted, List.pairwise_singleton _ _, ?_⟩
        intro first hfirst second hsecond
        obtain rfl := List.mem_singleton.mp hsecond
        exact hnew _ (h.known first hfirst)
      · intro other hother
        rcases List.mem_append.mp hother with hother | hother
        · exact List.mem_append_left _ (h.known other hother)
        · obtain rfl := List.mem_singleton.mp hother
          exact List.mem_append_right _ (List.mem_singleton.mpr rfl)
      · intro id hid
        rcases List.mem_append.mp hid with hid | hid
        · refine (h.kept id hid).imp_right ?_
          rintro ⟨other, hother, rfl⟩
          exact ⟨other, List.mem_append_left _ hother, rfl⟩
        · obtain rfl := List.mem_singleton.mp hid
          exact .inr ⟨update, List.mem_append_right _ (List.mem_singleton.mpr rfl), rfl⟩
      · intro id hid last hlast hle
        rcases List.mem_append.mp hid with hid | hid
        · exact h.passed id hid last hlast hle
        · obtain rfl := List.mem_singleton.mp hid
          exact absurd (hbehind last hlast) (not_lt.mpr hle)

theorem pollInv_run {batch : UpdateBatch} {rest : ω} {tr : List (Polling ω × PollEvent ω)}
    {p : Polling ω} (run : Run Polling.step (batch.start rest) tr p) : PollInv p := by
  exact (Run.invariant (G := fun _ _ => True) (fun _ _ _ h _ hstep => pollInv_step h hstep)
    (pollInv_start batch rest) run fun _ _ => trivial).2

end Runs

end Gt06
