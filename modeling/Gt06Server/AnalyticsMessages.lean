/-
**The messages of the reports.**

A user who looks at reports presses button after button, and each press is answered with a message.
To keep the chat short the bot notes, for each kind of report that the menu offers, the selector and
the report that it has sent last, and deletes them before it sends the next.  The notes are texts
under keys that are made of a chat, a kind and a place.

A chat is followed here beside the tables: the messages that the bot has sent to it, and those that
are still there.  Users delete messages as well.

Main definitions:

* `Gt06.ChatRoom`, `Gt06.chatRoomBot` — the tables and the chats, and the bot among them;
* `Gt06.ChatMessage.fills` — the kind and the place that a message belongs to;
* `Gt06.ChatRoom.noted` — the message that is noted for a chat, a kind and a place;
* `Gt06.ChatRoom.Tidy` — every such message in a chat is the one that is noted;
* `Gt06.KeepsTidy` — the terms of a program that leaves the chats tidy.

Main results:

* `Gt06.analyticsMessageStateKey_inj` — no two notes share a key;
* `Gt06.keeps_sendRememberedAnalyticsMessage` — what replaces a message leaves the chats tidy;
* `Gt06.analytics_messages_of_run` — **the bot deletes nothing but its own selectors and reports**,
  and leaves at most one of a kind.
-/

import Gt06Server.Keyboards
import Gt06Server.Registration

set_option relaxedAutoImplicit false
set_option autoImplicit false

namespace Gt06

open Await Relational

/-! ### Chats -/

/-- A message of the bot. -/
structure SentMessage where
  chatId : ℤ
  messageId : ℤ
  message : ChatMessage
  deriving DecidableEq

/-- Where a message is found. -/
def SentMessage.place (m : SentMessage) : ℤ × ℤ := (m.chatId, m.messageId)

/-- The tables, the messages the bot has sent, and those that are in the chats. -/
structure ChatRoom where
  world : ChatWorld
  sent : List SentMessage
  shown : List SentMessage

/-- Other processes write, or a user deletes a message. -/
inductive ChatRoomEvent where
  | tables (event : ChatEvent)
  | removed (chatId messageId : ℤ)
  deriving DecidableEq

namespace ChatRoom

variable (summarize : List RidePoint → RideSummary) (room : ChatRoom)

def remove (chatId messageId : ℤ) : List SentMessage :=
  room.shown.filter fun m => m.place ≠ (chatId, messageId)

def env : ChatRoomEvent → Option ChatRoom
  | .tables event => (room.world.env event).map fun world => { room with world := world }
  | .removed chatId messageId => some { room with shown := room.remove chatId messageId }

/-- What a request that is executed does to the chats. -/
def delivered (outcome : ChatOutcome) : ChatRequest → ChatRoom
  | .sendMessage chatId message =>
      { room with
        sent := room.sent ++ [⟨chatId, outcome.messageId, message⟩]
        shown := room.shown ++ [⟨chatId, outcome.messageId, message⟩] }
  | .deleteMessage chatId messageId => { room with shown := room.remove chatId messageId }
  | _ => room

/-- A request is answered from the tables; one that fails has no effect on the chats either. -/
def answer (outcome : ChatOutcome) (r : ChatRequest) : Option r.Reply × ChatRoom :=
  let reply := room.world.answer summarize outcome r
  (reply.1, { (if reply.1.isSome then room.delivered outcome r else room) with world := reply.2 })

end ChatRoom

/-- The bot and the chats it writes to. -/
def chatRoomBot (summarize : List RidePoint → RideSummary) (parseDate : String → Option ℤ) :
    System ChatRequest ChatRequest.Reply ChatRoom ChatRoomEvent ChatOutcome TelegramUpdate where
  env := fun event room => room.env event
  answer := fun outcome room r => room.answer summarize outcome r
  main := (chatBot summarize parseDate).main

/-! ### Notes -/

def AnalyticsReport.kind : AnalyticsReport → AnalyticsKind
  | .drivingSessions _ _ _ _ => .sessions
  | .metrics _ _ => .metrics
  | .totalKm _ _ => .totalKm
  | .totalDrivingTime _ _ => .totalDrivingTime

/-- The message belongs to a kind and a place: it asks for a range of a report of the kind, or is
such a report. -/
def ChatMessage.fills (kind : AnalyticsKind) (slot : AnalyticsMessageSlot) : ChatMessage → Bool
  | .chooseRangeFor other => slot = .selector ∧ other = kind
  | .analyticsCustomDatePrompt => slot = .selector ∧ kind = .sessions
  | .analyticsSessionsMonthUnsupported => slot = .selector ∧ kind = .sessions
  | .analyticsCustomRangePrompt => slot = .selector ∧ kind ≠ .sessions
  | .analyticsReport _ report => slot = .report ∧ report.kind = kind
  | _ => false

/-- The message that is noted for a chat, a kind and a place. -/
def ChatRoom.noted (room : ChatRoom) (chatId : ℤ) (kind : AnalyticsKind)
    (slot : AnalyticsMessageSlot) : Option ℤ :=
  (stateValue room.world.telegramBotState (analyticsMessageStateKey chatId kind slot)).bind parseI64

theorem colon_notMem_callbackValue (kind : AnalyticsKind) : ':' ∉ kind.callbackValue.toList := by
  cases kind <;> decide

theorem colon_notMem_stateValue (slot : AnalyticsMessageSlot) : ':' ∉ slot.stateValue.toList := by
  cases slot <;> decide

/-- The parts of a key. -/
theorem splitColon_analyticsMessageStateKey (chatId : ℤ) (kind : AnalyticsKind)
    (slot : AnalyticsMessageSlot) :
    splitColon (analyticsMessageStateKey chatId kind slot) =
      ["analytics_message", toString chatId, kind.callbackValue, slot.stateValue] := by
  have hkey : analyticsMessageStateKey chatId kind slot =
      "analytics_message" ++ ":" ++ toString chatId ++ ":" ++ kind.callbackValue ++ ":" ++
        slot.stateValue := rfl
  rw [hkey, splitColon_append, splitColon_append, splitColon_append,
    splitColon_of_notMem (colon_notMem_toString chatId),
    splitColon_of_notMem (colon_notMem_callbackValue kind),
    splitColon_of_notMem (colon_notMem_stateValue slot)]
  rfl

/-- No two notes share a key. -/
theorem analyticsMessageStateKey_inj {chatId chatId' : ℤ} {kind kind' : AnalyticsKind}
    {slot slot' : AnalyticsMessageSlot} :
    analyticsMessageStateKey chatId kind slot = analyticsMessageStateKey chatId' kind' slot' ↔
      chatId = chatId' ∧ kind = kind' ∧ slot = slot' := by
  constructor
  · intro h
    have hparts := congrArg splitColon h
    simp only [splitColon_analyticsMessageStateKey, List.cons.injEq, and_true, true_and] at hparts
    obtain ⟨hchat, hkind, hslot⟩ := hparts
    refine ⟨Decimals.toList_toString_inj.1 (congrArg String.toList hchat), ?_, ?_⟩
    · have hparse := congrArg AnalyticsKind.parse hkind
      rw [AnalyticsKind.parse_callbackValue, AnalyticsKind.parse_callbackValue] at hparse
      exact Option.some.inj hparse
    · cases slot <;> cases slot' <;> first | rfl | exact absurd hslot (by decide)
  · rintro ⟨rfl, rfl, rfl⟩
    rfl

/-- Nor is a pending request noted under such a key. -/
theorem pendingAnalyticsStateKey_ne (chatId chatId' : ℤ) (kind : AnalyticsKind)
    (slot : AnalyticsMessageSlot) :
    pendingAnalyticsStateKey chatId ≠ analyticsMessageStateKey chatId' kind slot := by
  intro h
  have hkey : pendingAnalyticsStateKey chatId = "analytics_pending" ++ ":" ++ toString chatId := rfl
  have hparts := congrArg splitColon h
  rw [splitColon_analyticsMessageStateKey, hkey, splitColon_append,
    splitColon_of_notMem (colon_notMem_toString chatId)] at hparts
  exact absurd (List.cons.inj hparts).1 (by decide)

/-- A message belongs to one kind and place of those that are remembered. -/
theorem ChatMessage.fills_unique {message : ChatMessage} {kind kind' : AnalyticsKind}
    {slot slot' : AnalyticsMessageSlot} (hkind : shouldRememberAnalyticsMessage kind = true)
    (hkind' : shouldRememberAnalyticsMessage kind' = true)
    (h : message.fills kind slot = true) (h' : message.fills kind' slot' = true) :
    kind = kind' ∧ slot = slot' := by
  simp only [shouldRememberAnalyticsMessage, decide_eq_true_eq] at hkind hkind'
  cases message with
  | chooseRangeFor other =>
      simp only [fills, decide_eq_true_eq] at h h'
      exact ⟨h.2.symm.trans h'.2, h.1.trans h'.1.symm⟩
  | analyticsReport imei report =>
      simp only [fills, decide_eq_true_eq] at h h'
      exact ⟨h.2.symm.trans h'.2, h.1.trans h'.1.symm⟩
  | analyticsCustomDatePrompt =>
      simp only [fills, decide_eq_true_eq] at h h'
      exact ⟨h.2.trans h'.2.symm, h.1.trans h'.1.symm⟩
  | analyticsSessionsMonthUnsupported =>
      simp only [fills, decide_eq_true_eq] at h h'
      exact ⟨h.2.trans h'.2.symm, h.1.trans h'.1.symm⟩
  | analyticsCustomRangePrompt =>
      simp only [fills, decide_eq_true_eq] at h h'
      rw [hkind.resolve_left h.2, hkind'.resolve_left h'.2]
      exact ⟨rfl, h.1.trans h'.1.symm⟩
  | _ => cases h

/-! ### Reading the notes -/

theorem stateValue_setState (rows : List StateRow) (key value key' : String) :
    stateValue (setState rows key value) key' =
      if key' = key then some value else stateValue rows key' := by
  have hmerge : ∀ row : StateRow,
      StateRow.stateKey { row with stateValue := value } = row.stateKey := fun _ => rfl
  unfold stateValue setState
  rw [rowAt_upsertAt hmerge]
  by_cases hkey : key' = key
  · subst hkey
    rw [if_pos rfl, if_pos rfl]
    cases rowAt StateRow.stateKey key' rows with
    | none => rfl
    | some row => rfl
  · rw [if_neg fun h => hkey h.symm, if_neg hkey]

theorem stateValue_filter (rows : List StateRow) (key key' : String) :
    stateValue (rows.filter fun row => row.stateKey ≠ key) key' =
      if key' = key then none else stateValue rows key' := by
  unfold stateValue
  by_cases hkey : key' = key
  · subst hkey
    rw [if_pos rfl, rowAt_eq_none_iff.2]
    · rfl
    · intro row hrow
      simpa using (List.mem_filter.1 hrow).2
  · rw [if_neg hkey, rowAt_filter]
    rintro row rfl
    simpa using hkey

namespace ChatRoom

variable {summarize : List RidePoint → RideSummary} {room room' : ChatRoom} {chatId : ℤ}
  {kind : AnalyticsKind} {slot : AnalyticsMessageSlot}

/-- The room after a request that has been executed. -/
def executed (summarize : List RidePoint → RideSummary) (room : ChatRoom) (outcome : ChatOutcome)
    (r : ChatRequest) : ChatRoom :=
  { room.delivered outcome r with world := (room.world.execute summarize outcome r).2 }

/-- A request fails, or is executed in the tables and in the chats. -/
theorem answer_cases (outcome : ChatOutcome) (r : ChatRequest) :
    (outcome.fails = true ∨ room.world.violatesUnique r = true) ∧
        room.answer summarize outcome r = (none, room) ∨
      room.answer summarize outcome r =
        (some (room.world.execute summarize outcome r).1, room.executed summarize outcome r) := by
  unfold answer ChatWorld.answer
  split
  · next h =>
    refine Or.inl ⟨?_, rfl⟩
    rcases Bool.or_eq_true_iff.1 h with h | h
    · exact Or.inl (Bool.and_eq_true_iff.1 h).1
    · exact Or.inr h
  · exact Or.inr rfl

theorem noted_of_state_eq (h : ∀ chatId kind slot,
      stateValue room'.world.telegramBotState (analyticsMessageStateKey chatId kind slot) =
        stateValue room.world.telegramBotState (analyticsMessageStateKey chatId kind slot)) :
    room'.noted = room.noted := by
  funext chatId kind slot
  rw [noted, noted, h]

/-- A note that is written. -/
theorem noted_setState (outcome : ChatOutcome) (value : String) (chatId' : ℤ)
    (kind' : AnalyticsKind) (slot' : AnalyticsMessageSlot) :
    (room.executed summarize outcome
        (.setState (analyticsMessageStateKey chatId kind slot) value)).noted chatId' kind' slot' =
      if chatId' = chatId ∧ kind' = kind ∧ slot' = slot then parseI64 value
      else room.noted chatId' kind' slot' := by
  change (stateValue (setState room.world.telegramBotState _ value) _).bind parseI64 = _
  rw [stateValue_setState]
  simp only [analyticsMessageStateKey_inj]
  split
  · rfl
  · rfl

/-- A note that is dropped. -/
theorem noted_deleteStateKey (outcome : ChatOutcome) (chatId' : ℤ) (kind' : AnalyticsKind)
    (slot' : AnalyticsMessageSlot) :
    (room.executed summarize outcome
        (.deleteStateKey (analyticsMessageStateKey chatId kind slot))).noted chatId' kind' slot' =
      if chatId' = chatId ∧ kind' = kind ∧ slot' = slot then none
      else room.noted chatId' kind' slot' := by
  change (stateValue (room.world.telegramBotState.filter _) _).bind parseI64 = _
  rw [stateValue_filter]
  simp only [analyticsMessageStateKey_inj]
  split
  · rfl
  · rfl

end ChatRoom

/-! ### What handlers owe -/

/-- The request leaves the notes and the chats alone, but for messages that belong nowhere. -/
def ChatRequest.Plain (strict : Prop) : ChatRequest → Prop
  | .deleteMessage _ _ => False
  | .setState key _ => ∀ chatId kind slot, key ≠ analyticsMessageStateKey chatId kind slot
  | .deleteStateKey key => ∀ chatId kind slot, key ≠ analyticsMessageStateKey chatId kind slot
  | .sendMessage _ message => strict → ∀ kind slot, shouldRememberAnalyticsMessage kind = true →
      message.fills kind slot = false
  | _ => True

/-- A request that a tidy chat depends on. -/
def ChatRequest.tidies : ChatRequest → Bool
  | .deleteMessage _ _ => true
  | .setState _ _ => true
  | _ => false

namespace ChatRoom

/-- The bot has sent the message to the chat, for the kind and the place. -/
def SentFor (room : ChatRoom) (chatId messageId : ℤ) (kind : AnalyticsKind)
    (slot : AnalyticsMessageSlot) : Prop :=
  ∃ m ∈ room.sent, m.place = (chatId, messageId) ∧ m.message.fills kind slot = true

/-- Only what the bot has sent itself is deleted or noted. -/
def Owes (room : ChatRoom) : ChatRequest → Prop
  | .deleteMessage chatId messageId => ∃ kind slot, room.SentFor chatId messageId kind slot
  | .setState key value => ∀ chatId kind slot messageId,
      key = analyticsMessageStateKey chatId kind slot → parseI64 value = some messageId →
        room.SentFor chatId messageId kind slot
  | _ => True

/-- The invariant of every run. -/
structure Inv (strict : Prop) (room : ChatRoom) : Prop where
  noted_sent : ∀ {chatId kind slot messageId}, room.noted chatId kind slot = some messageId →
    room.SentFor chatId messageId kind slot
  shown_sent : ∀ m ∈ room.shown, m ∈ room.sent
  places : strict → UniqueOn SentMessage.place room.sent

/-- Every selector and every report in a chat is the one that is noted for its kind. -/
def Tidy (room : ChatRoom) : Prop :=
  ∀ m ∈ room.shown, ∀ kind slot, shouldRememberAnalyticsMessage kind = true →
    m.message.fills kind slot = true → room.noted m.chatId kind slot = some m.messageId

end ChatRoom

/-- Nobody else writes the notes. -/
def ChatEvent.LeavesNotes (w : ChatWorld) : ChatEvent → Prop
  | .setDevices _ => True
  | .setOthers others => ∀ chatId kind slot,
      stateValue others.telegramBotState (analyticsMessageStateKey chatId kind slot) =
        stateValue w.telegramBotState (analyticsMessageStateKey chatId kind slot)

def ChatRoomEvent.LeavesNotes (room : ChatRoom) : ChatRoomEvent → Prop
  | .tables event => event.LeavesNotes room.world
  | .removed _ _ => True

/-- Telegram numbers messages with 64-bit integers; when it is strict, it uses no number twice in a
chat, and neither a deletion nor a note fails. -/
def ChatRequest.Delivered (strict : Prop) (room : ChatRoom) (outcome : ChatOutcome) :
    ChatRequest → Prop
  | .sendMessage chatId _ => FitsI64 outcome.messageId ∧
      (strict → (chatId, outcome.messageId) ∉ room.sent.map SentMessage.place)
  | r => strict → r.tidies = true → outcome.fails = false

/-- The condition on the events of a run. -/
def roomGuard (strict : Prop) : Guard ChatRequest ChatRoom ChatRoomEvent ChatOutcome where
  env := fun room event => event.LeavesNotes room
  call := fun room r outcome => r.Delivered strict room outcome

/-- The terms of a handler. -/
abbrev roomContract (strict : Prop) (summarize : List RidePoint → RideSummary)
    (parseDate : String → Option ℤ) : Contract ChatRequest ChatRequest.Reply ChatRoom :=
  (chatRoomBot summarize parseDate).contract (roomGuard strict) (ChatRoom.Inv strict) ChatRoom.Owes

section Terms

variable {strict : Prop} {summarize : List RidePoint → RideSummary}
  {parseDate : String → Option ℤ} {room room' : ChatRoom} {chatId messageId : ℤ}
  {kind : AnalyticsKind} {slot : AnalyticsMessageSlot}

theorem ChatRoom.SentFor.mono (h : room.SentFor chatId messageId kind slot)
    (hsent : room.sent <+: room'.sent) : room'.SentFor chatId messageId kind slot := by
  obtain ⟨m, hm, hplace, hfills⟩ := h
  exact ⟨m, hsent.subset hm, hplace, hfills⟩

/-- What the others do: nothing is sent or noted, and messages only go. -/
theorem env_room {event : ChatRoomEvent} (hevent : event.LeavesNotes room)
    (h : room.env event = some room') :
    room'.sent = room.sent ∧ room'.noted = room.noted ∧ ∀ m ∈ room'.shown, m ∈ room.shown := by
  cases event with
  | removed chatId messageId =>
      cases h
      exact ⟨rfl, rfl, fun m hm => (List.mem_filter.1 hm).1⟩
  | tables event =>
      obtain ⟨world, hworld, rfl⟩ := Option.map_eq_some_iff.1 h
      refine ⟨rfl, ChatRoom.noted_of_state_eq ?_, fun m hm => hm⟩
      intro chatId kind slot
      cases event with
      | setDevices devices =>
          dsimp only [ChatWorld.env] at hworld
          split at hworld
          · cases hworld
            rfl
          · cases hworld
      | setOthers others =>
          dsimp only [ChatWorld.env] at hworld
          split at hworld
          · cases hworld
            exact hevent chatId kind slot
          · cases hworld

/-- What a plain request does: nothing is noted, and what is new in a chat belongs nowhere. -/
theorem executed_plain {r : ChatRequest} (hr : r.Plain strict) (outcome : ChatOutcome) :
    (room.executed summarize outcome r).noted = room.noted ∧
      ∀ m ∈ (room.executed summarize outcome r).shown, m ∈ room.shown ∨
        (strict → ∀ kind slot, shouldRememberAnalyticsMessage kind = true →
          m.message.fills kind slot = false) := by
  cases r with
  | deleteMessage chatId messageId => exact hr.elim
  | sendMessage chatId message =>
      refine ⟨rfl, fun m hm => ?_⟩
      rcases List.mem_append.1 hm with hm | hm
      · exact Or.inl hm
      · rw [List.mem_singleton.1 hm]
        exact Or.inr hr
  | setState key value =>
      refine ⟨ChatRoom.noted_of_state_eq fun chatId kind slot => ?_, fun m hm => Or.inl hm⟩
      exact (stateValue_setState _ _ _ _).trans (if_neg fun h => hr chatId kind slot h.symm)
  | deleteStateKey key =>
      refine ⟨ChatRoom.noted_of_state_eq fun chatId kind slot => ?_, fun m hm => Or.inl hm⟩
      exact (stateValue_filter _ _ _).trans (if_neg fun h => hr chatId kind slot h.symm)
  | _ => exact ⟨rfl, fun m hm => Or.inl hm⟩

theorem owes_of_plain {r : ChatRequest} (hr : r.Plain strict) : room.Owes r := by
  cases r with
  | deleteMessage chatId messageId => exact hr.elim
  | setState key value => exact fun chatId kind slot _ hkey _ => (hr chatId kind slot hkey).elim
  | _ => trivial

/-- The others keep the invariant. -/
theorem inv_env (h : ChatRoom.Inv strict room) {event : ChatRoomEvent}
    (hevent : event.LeavesNotes room) (hroom : room.env event = some room') :
    ChatRoom.Inv strict room' := by
  obtain ⟨hsent, hnoted, hshown⟩ := env_room hevent hroom
  refine ⟨?_, ?_, ?_⟩
  · intro chatId kind slot messageId hmessage
    rw [hnoted] at hmessage
    exact (h.noted_sent hmessage).mono (hsent ▸ List.prefix_rfl)
  · intro m hm
    rw [hsent]
    exact h.shown_sent m (hshown m hm)
  · rw [hsent]
    exact h.places

/-- What the bot has sent stays sent. -/
theorem sent_executed (outcome : ChatOutcome) (r : ChatRequest) :
    room.sent <+: (room.executed summarize outcome r).sent := by
  cases r with
  | sendMessage chatId message => exact List.prefix_append _ _
  | _ => exact List.prefix_rfl

/-- What is noted after a request was noted before, or is what the request notes. -/
theorem noted_executed (outcome : ChatOutcome) {r : ChatRequest}
    (h : (room.executed summarize outcome r).noted chatId kind slot = some messageId) :
    room.noted chatId kind slot = some messageId ∨
      ∃ value, r = .setState (analyticsMessageStateKey chatId kind slot) value ∧
        parseI64 value = some messageId := by
  cases r with
  | setState key value =>
      change (stateValue (setState room.world.telegramBotState key value) _).bind parseI64 = _ at h
      rw [stateValue_setState] at h
      split at h
      · next hkey => exact Or.inr ⟨value, by rw [hkey], h⟩
      · exact Or.inl h
  | deleteStateKey key =>
      change (stateValue (room.world.telegramBotState.filter _) _).bind parseI64 = _ at h
      rw [stateValue_filter] at h
      split at h
      · cases h
      · exact Or.inl h
  | _ => exact Or.inl h

/-- Requests that are paid for keep it too. -/
theorem inv_executed (h : ChatRoom.Inv strict room) {r : ChatRequest} {outcome : ChatOutcome}
    (howes : room.Owes r) (hdelivered : r.Delivered strict room outcome) :
    ChatRoom.Inv strict (room.executed summarize outcome r) := by
  refine ⟨?_, ?_, ?_⟩
  · intro chatId kind slot messageId hmessage
    rcases noted_executed outcome hmessage with hmessage | ⟨value, rfl, hvalue⟩
    · exact (h.noted_sent hmessage).mono (sent_executed outcome r)
    · exact howes chatId kind slot messageId rfl hvalue
  · intro m hm
    cases r with
    | sendMessage chatId message =>
        rcases List.mem_append.1 hm with hm | hm
        · exact List.mem_append_left _ (h.shown_sent m hm)
        · exact List.mem_append_right _ hm
    | deleteMessage chatId messageId => exact h.shown_sent m (List.mem_filter.1 hm).1
    | _ => exact h.shown_sent m hm
  · intro hstrict
    cases r with
    | sendMessage chatId message =>
        refine (h.places hstrict).append fun m hm heq => hdelivered.2 hstrict ?_
        exact List.mem_map.2 ⟨m, hm, heq⟩
    | _ => exact h.places hstrict

/-! ### Programs that leave the chats tidy -/

/-- The assertion is about what is sent, noted and shown, and stays true when messages go. -/
def AboutChats (J : ChatRoom → Prop) : Prop :=
  ∀ room room', room'.sent = room.sent → room'.noted = room.noted →
    (∀ m ∈ room'.shown, m ∈ room.shown) → J room → J room'

theorem AboutChats.stable {J : ChatRoom → Prop} (hJ : AboutChats J) :
    (roomContract strict summarize parseDate).Stable J := by
  rintro room room' ⟨event, -, hevent, hroom⟩ h
  obtain ⟨hsent, hnoted, hshown⟩ := env_room hevent hroom
  exact hJ room room' hsent hnoted hshown h

/-- The chats are tidy, when that is asked for. -/
def TidyIf (strict : Prop) (room : ChatRoom) : Prop := strict → room.Tidy

theorem aboutChats_tidyIf : AboutChats (TidyIf strict) := by
  intro room room' _ hnoted hshown h hstrict m hm kind slot hkind hfills
  rw [hnoted]
  exact h hstrict m (hshown m hm) kind slot hkind hfills

/-- One request: what it owes, and its two outcomes. -/
theorem room_ask {r : ChatRequest} {J : ChatRoom → Prop} {Q : Option r.Reply → ChatRoom → Prop}
    (hJ : AboutChats J) (h : J room)
    (howes : ∀ room, J room → ChatRoom.Inv strict room → room.Owes r)
    (hfail : ∀ room, J room → (strict → r.tidies = false) → Q none room)
    (hdone : ∀ room outcome, J room → ChatRoom.Inv strict room → r.Delivered strict room outcome →
      Q (some (room.world.execute summarize outcome r).1) (room.executed summarize outcome r)) :
    (roomContract strict summarize parseDate).Safe (askChat r) Q room := by
  refine Contract.safe_request ?_
  intro room₁ hlater hinv
  have h₁ : J room₁ := hJ.stable.later hlater h
  refine ⟨howes room₁ h₁ hinv, ?_⟩
  rintro x room₂ ⟨outcome, hdelivered, hanswer⟩ -
  have hdelivered : r.Delivered strict room₁ outcome := hdelivered
  have hanswer : room₁.answer summarize outcome r = (x, room₂) := hanswer
  rcases room₁.answer_cases outcome r with ⟨hfails, hnone⟩ | hsome
  · rw [hnone] at hanswer
    obtain ⟨rfl, rfl⟩ := Prod.mk.inj hanswer
    refine hfail room₁ h₁ fun hstrict => ?_
    cases r with
    | deleteMessage chatId messageId =>
        have hok : outcome.fails = false := hdelivered hstrict rfl
        simp [hok, ChatWorld.violatesUnique] at hfails
    | setState key value =>
        have hok : outcome.fails = false := hdelivered hstrict rfl
        simp [hok, ChatWorld.violatesUnique] at hfails
    | _ => rfl
  · rw [hsome] at hanswer
    obtain ⟨rfl, rfl⟩ := Prod.mk.inj hanswer
    exact hdone room₁ outcome h₁ hinv hdelivered

/-- The program leaves the chats tidy, wherever it ends. -/
def KeepsTidy {α : Type} (strict : Prop) (summarize : List RidePoint → RideSummary)
    (parseDate : String → Option ℤ) (p : ChatM α) : Prop :=
  ∀ room, TidyIf strict room →
    (roomContract strict summarize parseDate).Safe p (fun _ => TidyIf strict) room

theorem keeps_bind {α β : Type} {p : ChatM α} {f : α → ChatM β}
    (hp : KeepsTidy strict summarize parseDate p)
    (hf : ∀ a, KeepsTidy strict summarize parseDate (f a)) :
    KeepsTidy strict summarize parseDate (p >>= f) := by
  intro room h
  refine Contract.safe_bind.2 ((hp room h).mono ?_)
  intro x room hx
  cases x with
  | none => exact hx
  | some a => exact hf a room hx

/-- Plain requests leave the chats tidy. -/
theorem tidyIf_executed {r : ChatRequest} (hr : r.Plain strict) (outcome : ChatOutcome)
    (h : TidyIf strict room) : TidyIf strict (room.executed summarize outcome r) := by
  obtain ⟨hnoted, hshown⟩ := executed_plain hr outcome
  intro hstrict m hm kind slot hkind hfills
  rcases hshown m hm with hm | hnowhere
  · rw [hnoted]
    exact h hstrict m hm kind slot hkind hfills
  · rw [hnowhere hstrict kind slot hkind] at hfills
    cases hfills

theorem keeps_of_plain {α : Type} {p : ChatM α} (hp : p.Uses (ChatRequest.Plain strict)) :
    KeepsTidy strict summarize parseDate p := by
  intro room h
  refine Contract.safe_of_uses aboutChats_tidyIf.stable (fun w r hr _ _ => owes_of_plain hr) ?_ hp h
  rintro room r x room' hr - hroom ⟨outcome, -, hanswer⟩
  have hanswer : room.answer summarize outcome r = (x, room') := hanswer
  rcases room.answer_cases outcome r with ⟨-, hnone⟩ | hsome
  · rw [hnone] at hanswer
    obtain ⟨-, rfl⟩ := Prod.mk.inj hanswer
    exact hroom
  · rw [hsome] at hanswer
    obtain ⟨-, rfl⟩ := Prod.mk.inj hanswer
    exact tidyIf_executed hr outcome hroom

/-! ### Replacing a message -/

/-- Nothing of a kind and place is left in a chat. -/
def Cleared (strict : Prop) (chatId : ℤ) (kind : AnalyticsKind) (slot : AnalyticsMessageSlot)
    (room : ChatRoom) : Prop :=
  strict → room.Tidy ∧ ∀ m ∈ room.shown, m.chatId = chatId → m.message.fills kind slot = false

/-- What is left of a kind and place in a chat has the given number, which the bot has given. -/
def Left (strict : Prop) (chatId : ℤ) (kind : AnalyticsKind) (slot : AnalyticsMessageSlot)
    (messageId : ℤ) (room : ChatRoom) : Prop :=
  room.SentFor chatId messageId kind slot ∧
    (strict → (∀ m ∈ room.shown, m.chatId = chatId → m.message.fills kind slot = true →
        m.messageId = messageId) ∧
      ∀ m ∈ room.shown, ∀ kind' slot', shouldRememberAnalyticsMessage kind' = true →
        m.message.fills kind' slot' = true →
          ¬ (m.chatId = chatId ∧ kind' = kind ∧ slot' = slot) →
            room.noted m.chatId kind' slot' = some m.messageId)

theorem aboutChats_cleared : AboutChats (Cleared strict chatId kind slot) := by
  intro room room' hsent hnoted hshown h hstrict
  obtain ⟨htidy, hcleared⟩ := h hstrict
  refine ⟨aboutChats_tidyIf room room' hsent hnoted hshown (fun _ => htidy) hstrict, ?_⟩
  exact fun m hm => hcleared m (hshown m hm)

theorem aboutChats_left : AboutChats (Left strict chatId kind slot messageId) := by
  rintro room room' hsent hnoted hshown ⟨hsentFor, h⟩
  refine ⟨hsentFor.mono (hsent ▸ List.prefix_rfl), fun hstrict => ?_⟩
  obtain ⟨hleft, hothers⟩ := h hstrict
  refine ⟨fun m hm => hleft m (hshown m hm), fun m hm => ?_⟩
  rw [hnoted]
  exact hothers m (hshown m hm)

/-- The message that was noted has gone. -/
theorem cleared_deleteMessage (h : Left strict chatId kind slot messageId room)
    (htidy : TidyIf strict room) (outcome : ChatOutcome) :
    Cleared strict chatId kind slot
      (room.executed summarize outcome (.deleteMessage chatId messageId)) := by
  intro hstrict
  refine ⟨fun m hm => htidy hstrict m (List.mem_filter.1 hm).1, ?_⟩
  intro m hm hchat
  obtain ⟨hm, hplace⟩ := List.mem_filter.1 hm
  refine Bool.eq_false_of_not_eq_true fun hfills => ?_
  have hid := (h.2 hstrict).1 m hm hchat hfills
  rw [SentMessage.place, hchat, hid] at hplace
  simp at hplace

/-- A chat that is cleared stays so when the note is dropped. -/
theorem cleared_deleteStateKey (h : Cleared strict chatId kind slot room)
    (outcome : ChatOutcome) :
    Cleared strict chatId kind slot (room.executed summarize outcome
      (.deleteStateKey (analyticsMessageStateKey chatId kind slot))) := by
  intro hstrict
  obtain ⟨htidy, hcleared⟩ := h hstrict
  refine ⟨?_, hcleared⟩
  intro m hm kind' slot' hkind hfills
  rw [ChatRoom.noted_deleteStateKey, if_neg]
  · exact htidy m hm kind' slot' hkind hfills
  · rintro ⟨hchat, rfl, rfl⟩
    rw [hcleared m hm hchat] at hfills
    cases hfills

/-- What has just been sent is all there is. -/
theorem left_sendMessage {message : ChatMessage}
    (hkind : shouldRememberAnalyticsMessage kind = true)
    (hfills : message.fills kind slot = true) (h : Cleared strict chatId kind slot room)
    (outcome : ChatOutcome) :
    Left strict chatId kind slot outcome.messageId
      (room.executed summarize outcome (.sendMessage chatId message)) := by
  refine ⟨⟨_, List.mem_append_right _ (List.mem_singleton_self _), rfl, hfills⟩, fun hstrict => ?_⟩
  obtain ⟨htidy, hcleared⟩ := h hstrict
  constructor
  · intro m hm hchat hm'
    rcases List.mem_append.1 hm with hm | hm
    · rw [hcleared m hm hchat] at hm'
      cases hm'
    · rw [List.mem_singleton.1 hm]
  · intro m hm kind' slot' hkind' hm' hother
    rcases List.mem_append.1 hm with hm | hm
    · exact htidy m hm kind' slot' hkind' hm'
    · rw [List.mem_singleton.1 hm] at hm' hother
      obtain ⟨rfl, rfl⟩ := ChatMessage.fills_unique hkind hkind' hfills hm'
      exact (hother ⟨rfl, rfl, rfl⟩).elim

/-- Once it is noted, the chats are tidy. -/
theorem tidyIf_setState (h : Left strict chatId kind slot messageId room)
    (hfits : FitsI64 messageId) (outcome : ChatOutcome) :
    TidyIf strict (room.executed summarize outcome
      (.setState (analyticsMessageStateKey chatId kind slot) (toString messageId))) := by
  intro hstrict m hm kind' slot' hkind hfills
  obtain ⟨hleft, hothers⟩ := h.2 hstrict
  rw [ChatRoom.noted_setState]
  split
  · next hkey =>
    obtain ⟨hchat, rfl, rfl⟩ := hkey
    rw [parseI64_toString hfits, hleft m hm hchat hfills]
  · next hkey => exact hothers m hm kind' slot' hkind hfills hkey

/-- The message that is noted goes, and then its note. -/
theorem safe_deleteRememberedAnalyticsMessage
    (hkind : shouldRememberAnalyticsMessage kind = true) (h : TidyIf strict room) :
    (roomContract strict summarize parseDate).Safe
      (deleteRememberedAnalyticsMessage chatId kind slot)
      (Contract.ending (Cleared strict chatId kind slot) (TidyIf strict)) room := by
  refine Contract.safe_bind.2 (room_ask aboutChats_tidyIf h (fun _ _ _ => trivial)
    (fun _ h _ => h) ?_)
  intro room outcome h hinv _
  dsimp only [Contract.andThen, ChatWorld.execute]
  split
  · next messageId hnoted =>
    have hnoted : room.noted chatId kind slot = some messageId := hnoted
    have hleft : Left strict chatId kind slot messageId room := by
      refine ⟨hinv.noted_sent hnoted, fun hstrict => ⟨?_, ?_⟩⟩
      · intro m hm hchat hfills
        have hsome := h hstrict m hm kind slot hkind hfills
        rw [hchat, hnoted] at hsome
        exact (Option.some.inj hsome).symm
      · exact fun m hm kind' slot' hkind' hfills _ => h hstrict m hm kind' slot' hkind' hfills
    have hboth : AboutChats fun room =>
        Left strict chatId kind slot messageId room ∧ TidyIf strict room :=
      fun room room' hsent hnoted hshown h =>
        ⟨aboutChats_left room room' hsent hnoted hshown h.1,
          aboutChats_tidyIf room room' hsent hnoted hshown h.2⟩
    refine Contract.safe_bind_of (J := Cleared strict chatId kind slot) (E := TidyIf strict)
      ?_ (fun _ h => h) ?_
    · refine Contract.safe_bind.2 (Contract.safe_attempt.2 (room_ask hboth ⟨hleft, h⟩ ?_ ?_ ?_))
      · exact fun room h _ => ⟨kind, slot, h.1.1⟩
      · exact fun room _ hloose hstrict => nomatch hloose hstrict
      · exact fun room outcome h _ _ => cleared_deleteMessage h.1 h.2 outcome
    · intro _ room hcleared
      refine room_ask aboutChats_cleared hcleared (fun _ _ _ => trivial) ?_ ?_
      · exact fun room h _ hstrict => (h hstrict).1
      · exact fun room outcome h _ _ => cleared_deleteStateKey h outcome
  · next hnoted =>
    have hnoted : room.noted chatId kind slot = none := hnoted
    intro hstrict
    refine ⟨h hstrict, fun m hm hchat => Bool.eq_false_of_not_eq_true fun hfills => ?_⟩
    have hsome := h hstrict m hm kind slot hkind hfills
    rw [hchat, hnoted] at hsome
    cases hsome

/-- What replaces a message leaves the chats tidy. -/
theorem keeps_sendRememberedAnalyticsMessage {message : ChatMessage}
    (hkind : shouldRememberAnalyticsMessage kind = true) (hfills : message.fills kind slot = true) :
    KeepsTidy strict summarize parseDate
      (sendRememberedAnalyticsMessage chatId kind slot message) := by
  intro room h
  refine Contract.safe_bind_of (safe_deleteRememberedAnalyticsMessage hkind h) (fun _ h => h) ?_
  intro _ room hcleared
  refine Contract.safe_bind.2 (room_ask aboutChats_cleared hcleared (fun _ _ _ => trivial) ?_ ?_)
  · exact fun room h _ hstrict => (h hstrict).1
  · intro room outcome hcleared _ hdelivered
    -- the new message is there, and not noted yet
    have hleft : Left strict chatId kind slot outcome.messageId
        (room.executed summarize outcome (.sendMessage chatId message)) :=
      left_sendMessage hkind hfills hcleared outcome
    refine room_ask aboutChats_left hleft ?_ ?_ ?_
    · intro room hleft _ chatId' kind' slot' messageId hkey hparse
      obtain ⟨rfl, rfl, rfl⟩ := analyticsMessageStateKey_inj.1 hkey
      have hfits : FitsI64 outcome.messageId := hdelivered.1
      have hid := (parseI64_toString hfits).symm.trans hparse
      exact Option.some.inj hid ▸ hleft.1
    · exact fun room _ hloose hstrict => nomatch hloose hstrict
    · exact fun room outcome' hleft _ _ => tidyIf_setState hleft hdelivered.1 outcome'

end Terms

/-! ### Handlers -/

section Handlers

variable {strict : Prop} {summarize : List RidePoint → RideSummary}
  {parseDate : String → Option ℤ} {room : ChatRoom} {chatId telegramUserId : ℤ} {imei : String}
  {kind : AnalyticsKind}

theorem plain_ask_bind {α : Type} {r : ChatRequest} {f : r.Reply → ChatM α} (hr : r.Plain strict)
    (hf : ∀ x, (f x).Uses (ChatRequest.Plain strict)) :
    (askChat r >>= f).Uses (ChatRequest.Plain strict) :=
  Prog.uses_bind (Prog.uses_request hr) hf

theorem sendChat_plain {message : ChatMessage}
    (h : ∀ kind slot, shouldRememberAnalyticsMessage kind = true →
      message.fills kind slot = false) :
    (sendChat chatId message).Uses (ChatRequest.Plain strict) :=
  plain_ask_bind (fun _ => h) fun _ => trivial

theorem logged_plain {r : ChatRequest} (hr : r.Plain strict) :
    (logged r).Uses (ChatRequest.Plain strict) :=
  Prog.uses_bind (Prog.uses_attempt (Prog.uses_request hr)) fun _ => trivial

theorem hasActiveSubscriptionNow_plain :
    (hasActiveSubscriptionNow telegramUserId).Uses (ChatRequest.Plain strict) :=
  plain_ask_bind trivial fun _ => Prog.uses_request trivial

theorem clearKeyboard_plain (messageId : Option ℤ) :
    (clearKeyboard chatId messageId).Uses (ChatRequest.Plain strict) := by
  cases messageId with
  | some messageId => exact logged_plain trivial
  | none => trivial

theorem ensureActiveSubscription_plain (callbackQueryId : String) (messageId : Option ℤ) :
    (ensureActiveSubscription callbackQueryId chatId telegramUserId messageId).Uses
      (ChatRequest.Plain strict) := by
  refine Prog.uses_bind hasActiveSubscriptionNow_plain ?_
  intro active
  split
  · trivial
  · refine plain_ask_bind trivial fun _ => Prog.uses_bind (clearKeyboard_plain messageId) ?_
    intro _
    exact Prog.uses_bind (sendChat_plain fun _ _ _ => rfl) fun _ => trivial

theorem handleCommand_plain (command : BotCommand) :
    (handleCommand chatId telegramUserId command).Uses (ChatRequest.Plain strict) := by
  refine plain_ask_bind trivial ?_
  intro user
  cases command with
  | start =>
      dsimp only [handleStart]
      split
      · refine Prog.uses_bind hasActiveSubscriptionNow_plain fun isActive => ?_
        split
        · exact sendChat_plain fun _ _ _ => rfl
        · exact Prog.uses_bind (logged_plain trivial) fun _ => sendChat_plain fun _ _ _ => rfl
      · exact plain_ask_bind trivial fun _ => sendChat_plain fun _ _ _ => rfl
  | help => exact sendChat_plain fun _ _ _ => rfl
  | paySupport => exact sendChat_plain fun _ _ _ => rfl
  | terms => exact sendChat_plain fun _ _ _ => rfl
  | unknown command => exact sendChat_plain fun _ _ _ => rfl

theorem handleImei_plain (user : TelegramUserRecord) :
    (handleImei chatId telegramUserId user imei).Uses (ChatRequest.Plain strict) := by
  unfold handleImei
  split
  · exact sendChat_plain fun _ _ _ => rfl
  split
  · exact sendChat_plain fun _ _ _ => rfl
  refine plain_ask_bind trivial fun deviceExists => ?_
  split
  · exact sendChat_plain fun _ _ _ => rfl
  refine plain_ask_bind trivial fun taken => ?_
  split
  · exact sendChat_plain fun _ _ _ => rfl
  refine plain_ask_bind trivial fun _ => Prog.uses_bind (sendChat_plain fun _ _ _ => rfl) ?_
  intro _
  exact Prog.uses_bind (logged_plain trivial) fun _ => sendChat_plain fun _ _ _ => rfl

theorem statusSession_plain (session : Option EngineSession) (heartbeat : Option StoredHeartbeat)
    (location : Option LatestLocation) :
    (statusSession imei chatId session heartbeat location).Uses (ChatRequest.Plain strict) := by
  cases session with
  | some session => trivial
  | none =>
      refine plain_ask_bind trivial fun latest => ?_
      cases latest with
      | some session => trivial
      | none =>
          dsimp only
          split
          · trivial
          · exact plain_ask_bind trivial fun _ => trivial

theorem answerTheftAlertAction_plain (session : Option EngineSession) (action : TheftAlertAction) :
    (answerTheftAlertAction chatId imei session action).Uses (ChatRequest.Plain strict) := by
  cases action with
  | streamLocation sessionId =>
      exact plain_ask_bind trivial fun _ => sendChat_plain fun _ _ _ => rfl
  | checkLatestStatus sessionId =>
      refine plain_ask_bind trivial fun location => plain_ask_bind trivial fun heartbeat => ?_
      refine Prog.uses_bind (statusSession_plain session heartbeat location) fun times => ?_
      exact plain_ask_bind trivial fun _ => sendChat_plain fun _ _ _ => rfl
  | contactSupport sessionId => exact sendChat_plain fun _ _ _ => rfl

theorem handleTheftAlertCallback_plain (query : TelegramCallbackQuery) (message : TelegramMessage)
    (action : TheftAlertAction) :
    (handleTheftAlertCallback query message action).Uses (ChatRequest.Plain strict) := by
  refine Prog.uses_bind ?_ fun active => ?_
  · unfold ensureTheftAlertSubscription
    split
    · exact ensureActiveSubscription_plain query.id message.messageId
    · trivial
  · split
    · refine plain_ask_bind trivial fun _ => plain_ask_bind trivial fun user => ?_
      split
      · refine plain_ask_bind trivial fun session => ?_
        split
        · exact answerTheftAlertAction_plain _ action
        · trivial
      · split
        · exact answerTheftAlertAction_plain _ action
        · exact sendChat_plain fun _ _ _ => rfl
    · trivial

theorem answerSessionAction_plain (session : EngineSession) (action : SessionAction) :
    (answerSessionAction chatId session action).Uses (ChatRequest.Plain strict) := by
  cases action with
  | yes =>
      refine Prog.uses_bind (sendChat_plain fun _ _ _ => rfl) fun _ => ?_
      exact Prog.uses_bind (logged_plain trivial) fun _ => Prog.uses_request trivial
  | no =>
      refine Prog.uses_bind (sendChat_plain fun _ _ _ => rfl) fun _ => ?_
      exact Prog.uses_bind (logged_plain trivial) fun _ => Prog.uses_request trivial

theorem handleSessionActionCallback_plain (query : TelegramCallbackQuery)
    (message : TelegramMessage) (action : SessionAction) :
    (handleSessionActionCallback query message action).Uses (ChatRequest.Plain strict) := by
  refine Prog.uses_bind (ensureActiveSubscription_plain query.id message.messageId) fun active => ?_
  split
  · refine plain_ask_bind trivial fun session => ?_
    split
    · exact Prog.uses_request trivial
    · split
      · exact Prog.uses_request trivial
      · split
        · exact Prog.uses_request trivial
        · refine plain_ask_bind trivial fun _ => plain_ask_bind trivial fun _ => ?_
          exact answerSessionAction_plain _ action
  · trivial

/-- What follows a plain program. -/
theorem keeps_plain_bind {α β : Type} {p : ChatM α} {f : α → ChatM β}
    (hp : p.Uses (ChatRequest.Plain strict))
    (hf : ∀ a, KeepsTidy strict summarize parseDate (f a)) :
    KeepsTidy strict summarize parseDate (p >>= f) :=
  keeps_bind (keeps_of_plain hp) hf

theorem keeps_ask_bind {α : Type} {r : ChatRequest} {f : r.Reply → ChatM α}
    (hr : r.Plain strict) (hf : ∀ x, KeepsTidy strict summarize parseDate (f x)) :
    KeepsTidy strict summarize parseDate (askChat r >>= f) :=
  keeps_plain_bind (Prog.uses_request hr) hf

theorem keeps_sendChat {message : ChatMessage}
    (h : ∀ kind slot, shouldRememberAnalyticsMessage kind = true →
      message.fills kind slot = false) :
    KeepsTidy strict summarize parseDate (sendChat chatId message) :=
  keeps_of_plain (sendChat_plain h)

/-! ### Reports -/

theorem fetchAnalyticsRideSummary_plain (sessions : List EngineSession) (rangeStart rangeEnd : ℤ) :
    (fetchAnalyticsRideSummary imei sessions rangeStart rangeEnd).Uses
      (ChatRequest.Plain strict) := by
  refine Prog.uses_foldlM fun rides window _ => ?_
  exact plain_ask_bind trivial fun _ => trivial

theorem analyticsSessionReports_plain (range : AnalyticsDateRange) (effectiveRangeEnd : ℤ)
    (sessions : List EngineSession) :
    (analyticsSessionReports imei range effectiveRangeEnd sessions).Uses
      (ChatRequest.Plain strict) := by
  refine Prog.uses_foldlM fun reports session _ => Prog.uses_bind ?_ fun _ => trivial
  unfold analyticsSessionReport
  dsimp only
  split
  · exact plain_ask_bind trivial fun _ => trivial
  · trivial

/-- A report is of the kind that was asked for. -/
theorem safe_buildAnalyticsReport (range : AnalyticsDateRange) (referenceTime : ℤ)
    (h : TidyIf strict room) :
    (roomContract strict summarize parseDate).Safe
      (buildAnalyticsReport chatId imei kind range referenceTime)
      (fun x room => TidyIf strict room ∧ ∀ report ∈ x, report.kind = kind) room := by
  have hask : KeepsTidy strict summarize parseDate (askChat (.fetchAnalyticsSessions imei chatId
      range.startedAt range.endedAt referenceTime)) := keeps_of_plain (Prog.uses_request trivial)
  have hrides : ∀ sessions, KeepsTidy strict summarize parseDate (fetchAnalyticsRideSummary imei
      sessions range.startedAt (min referenceTime range.endedAt)) :=
    fun sessions => keeps_of_plain (fetchAnalyticsRideSummary_plain sessions _ _)
  have hreports : ∀ sessions, KeepsTidy strict summarize parseDate (analyticsSessionReports imei
      range (min referenceTime range.endedAt) sessions) :=
    fun sessions => keeps_of_plain (analyticsSessionReports_plain range _ sessions)
  refine Contract.safe_bind.2 ((hask room h).mono ?_)
  intro x room h
  cases x with
  | none => exact ⟨h, by simp⟩
  | some sessions =>
      cases kind with
      | sessions =>
          refine Contract.safe_bind.2 ((hreports sessions room h).mono ?_)
          intro y room h
          cases y with
          | none => exact ⟨h, by simp⟩
          | some reports => exact ⟨h, by rintro report ⟨⟩; rfl⟩
      | metrics =>
          refine Contract.safe_bind.2 ((hrides sessions room h).mono ?_)
          intro y room h
          cases y with
          | none => exact ⟨h, by simp⟩
          | some rides => exact ⟨h, by rintro report ⟨⟩; rfl⟩
      | totalKm =>
          refine Contract.safe_bind.2 ((hrides sessions room h).mono ?_)
          intro y room h
          cases y with
          | none => exact ⟨h, by simp⟩
          | some rides => exact ⟨h, by rintro report ⟨⟩; rfl⟩
      | totalDrivingTime =>
          refine Contract.safe_bind.2 ((hrides sessions room h).mono ?_)
          intro y room h
          cases y with
          | none => exact ⟨h, by simp⟩
          | some rides => exact ⟨h, by rintro report ⟨⟩; rfl⟩

/-- The totals are not remembered. -/
theorem fills_analyticsReport {report : AnalyticsReport} (hreport : report.kind = kind)
    (hkind : shouldRememberAnalyticsMessage kind = false) (kind' : AnalyticsKind)
    (slot : AnalyticsMessageSlot) (hkind' : shouldRememberAnalyticsMessage kind' = true) :
    (ChatMessage.analyticsReport imei report).fills kind' slot = false := by
  refine decide_eq_false ?_
  rintro ⟨-, rfl⟩
  rw [hreport, hkind] at hkind'
  cases hkind'

theorem keeps_sendAnalyticsReport (range : AnalyticsDateRange) (referenceTime : ℤ) :
    KeepsTidy strict summarize parseDate
      (sendAnalyticsReport chatId imei kind range referenceTime) := by
  intro room h
  refine Contract.safe_bind.2 ((safe_buildAnalyticsReport range referenceTime h).mono ?_)
  rintro x room ⟨h, hreport⟩
  cases x with
  | none => exact h
  | some report =>
      have hreport : report.kind = kind := hreport report rfl
      dsimp only [Contract.andThen]
      split
      · next hkind =>
        refine Contract.safe_bind_of (safe_deleteRememberedAnalyticsMessage hkind h)
          (fun _ h => h) fun _ room hcleared => ?_
        refine keeps_sendRememberedAnalyticsMessage hkind ?_ room fun hstrict =>
          (hcleared hstrict).1
        exact decide_eq_true ⟨rfl, hreport⟩
      · next hkind =>
        exact keeps_sendChat (fills_analyticsReport hreport (Bool.eq_false_of_not_eq_true hkind))
          room h

/-! ### Messages and buttons -/

/-- The button of the start menu, or one under a selector that it leads to. -/
def OfferedButton (data : String) : Prop :=
  data ∈ subscribedStartMenuKeyboard.callbackData ∨
    ∃ kind, shouldRememberAnalyticsMessage kind = true ∧
      data ∈ (analyticsRangeKeyboard kind).callbackData

/-- The buttons of reports that are pressed are among those the bot offers. -/
def TelegramUpdate.PressesOffered (update : TelegramUpdate) : Prop :=
  ∀ query ∈ update.callbackQuery, ∀ data ∈ query.data,
    ∀ action ∈ AnalyticsAction.parse data, OfferedButton data

/-- What is offered is remembered. -/
theorem remembered_of_offered {data : String} (h : OfferedButton data) :
    ∀ action ∈ AnalyticsAction.parse data, shouldRememberAnalyticsMessage action.kind = true := by
  rcases h with h | ⟨kind, hkind, h⟩
  · revert data
    decide +kernel
  · revert data
    cases kind with
    | sessions => decide +kernel
    | metrics => decide +kernel
    | totalKm => cases hkind
    | totalDrivingTime => cases hkind

theorem keeps_handleCustomAnalyticsInput (user : TelegramUserRecord) (text : String) :
    KeepsTidy strict summarize parseDate
      (handleCustomAnalyticsInput parseDate chatId telegramUserId user kind text) := by
  have hclear : (ChatRequest.deleteStateKey (pendingAnalyticsStateKey chatId)).Plain strict :=
    fun _ _ _ => pendingAnalyticsStateKey_ne _ _ _ _
  unfold handleCustomAnalyticsInput
  cases user.boundImei with
  | none => exact keeps_ask_bind hclear fun _ => keeps_sendChat fun _ _ _ => rfl
  | some imei =>
      refine keeps_plain_bind hasActiveSubscriptionNow_plain fun active => ?_
      split
      · exact keeps_ask_bind hclear fun _ => keeps_sendChat fun _ _ _ => rfl
      · split
        · exact keeps_sendChat fun _ _ _ => by split <;> rfl
        · refine keeps_ask_bind hclear fun _ => keeps_ask_bind trivial fun referenceTime => ?_
          exact keeps_sendAnalyticsReport _ referenceTime

theorem keeps_handleMessage (message : TelegramMessage) :
    KeepsTidy strict summarize parseDate (handleMessage parseDate message) := by
  unfold handleMessage
  split
  · split
    · exact keeps_of_plain (handleCommand_plain _)
    · refine keeps_ask_bind trivial fun user => ?_
      split
      · next user =>
        refine keeps_plain_bind (plain_ask_bind trivial fun _ => trivial) fun pending => ?_
        split
        · exact keeps_handleCustomAnalyticsInput user _
        · split
          · exact keeps_of_plain trivial
          · exact keeps_of_plain (handleImei_plain user)
      · exact keeps_of_plain trivial
  · exact keeps_of_plain trivial

/-- A selector, for a kind that is remembered. -/
theorem keeps_sendSelector {message : ChatMessage}
    (hkind : strict → shouldRememberAnalyticsMessage kind = true)
    (hfills : message.fills kind .selector = true) :
    KeepsTidy strict summarize parseDate (sendSelector chatId kind message) := by
  unfold sendSelector
  split
  · next hremember => exact keeps_sendRememberedAnalyticsMessage hremember hfills
  · next hremember =>
    have hloose : ¬ strict := fun hstrict => hremember (hkind hstrict)
    exact keeps_of_plain (plain_ask_bind (fun hstrict => (hloose hstrict).elim) fun _ => trivial)

theorem keeps_answerAnalyticsAction {action : AnalyticsAction}
    (hoffered : strict → shouldRememberAnalyticsMessage action.kind = true) :
    KeepsTidy strict summarize parseDate (answerAnalyticsAction chatId imei action) := by
  unfold answerAnalyticsAction
  split
  · exact keeps_sendSelector hoffered (decide_eq_true ⟨rfl, rfl⟩)
  split
  · have hpending : (ChatRequest.setState (pendingAnalyticsStateKey chatId)
        action.kind.callbackValue).Plain strict := fun _ _ _ => pendingAnalyticsStateKey_ne _ _ _ _
    refine keeps_ask_bind hpending fun _ => keeps_sendSelector hoffered ?_
    split
    · next hkind => exact decide_eq_true ⟨rfl, hkind⟩
    · next hkind => exact decide_eq_true ⟨rfl, hkind⟩
  split
  · next hkind =>
    refine keeps_sendRememberedAnalyticsMessage ?_ (decide_eq_true ⟨rfl, hkind.1⟩)
    exact decide_eq_true (Or.inl hkind.1)
  · refine keeps_ask_bind trivial fun now => ?_
    split
    · exact keeps_ask_bind trivial fun referenceTime => keeps_sendAnalyticsReport _ referenceTime
    · exact keeps_of_plain trivial

theorem keeps_handleAnalyticsCallback (query : TelegramCallbackQuery) (message : TelegramMessage)
    {action : AnalyticsAction}
    (hoffered : strict → shouldRememberAnalyticsMessage action.kind = true) :
    KeepsTidy strict summarize parseDate (handleAnalyticsCallback query message action) := by
  have haction : KeepsTidy strict summarize parseDate
      (handleAnalyticsAction message.chatId query.fromId action) := by
    refine keeps_ask_bind trivial fun user => ?_
    split
    · exact keeps_answerAnalyticsAction hoffered
    · exact keeps_sendChat fun _ _ _ => rfl
  refine keeps_plain_bind (ensureActiveSubscription_plain query.id message.messageId) ?_
  intro active
  split
  · refine keeps_ask_bind trivial fun _ => ?_
    split
    · exact keeps_plain_bind (clearKeyboard_plain message.messageId) fun _ => haction
    · exact haction
  · exact keeps_of_plain trivial

theorem keeps_handleChatCallbackQuery {query : TelegramCallbackQuery}
    (hoffered : strict → ∀ data ∈ query.data, ∀ action ∈ AnalyticsAction.parse data,
      OfferedButton data) :
    KeepsTidy strict summarize parseDate (handleChatCallbackQuery query) := by
  unfold handleChatCallbackQuery
  cases hdata : query.data with
  | none => exact keeps_of_plain trivial
  | some data =>
      dsimp only
      split
      · exact keeps_of_plain (Prog.uses_request trivial)
      · cases query.message with
        | none => exact keeps_of_plain trivial
        | some message =>
            dsimp only
            split
            · next action haction =>
              refine keeps_handleAnalyticsCallback query message fun hstrict => ?_
              have hbutton := hoffered hstrict data hdata action haction
              exact remembered_of_offered hbutton action haction
            · split
              · exact keeps_of_plain (handleTheftAlertCallback_plain query message _)
              · split
                · exact keeps_of_plain (handleSessionActionCallback_plain query message _)
                · exact keeps_of_plain trivial

/-- Every update leaves the chats tidy, if it is asked for and only offered buttons are pressed. -/
theorem keeps_handleChatUpdate {update : TelegramUpdate} (h : strict → update.PressesOffered) :
    KeepsTidy strict summarize parseDate (handleChatUpdate parseDate update) := by
  refine keeps_bind ?_ fun _ => ?_
  · cases update.message with
    | some message => exact keeps_handleMessage message
    | none => exact keeps_of_plain trivial
  · cases hquery : update.callbackQuery with
    | some query => exact keeps_handleChatCallbackQuery fun hstrict => h hstrict query hquery
    | none => exact keeps_of_plain trivial

end Handlers

/-! ### Runs -/

namespace ChatRoom

/-- No two messages in a chat belong to one kind and place of those that are remembered. -/
def OneOfEach (room : ChatRoom) : Prop :=
  ∀ m ∈ room.shown, ∀ m' ∈ room.shown, m.chatId = m'.chatId → ∀ kind slot,
    shouldRememberAnalyticsMessage kind = true → m.message.fills kind slot = true →
      m'.message.fills kind slot = true → m = m'

/-- Messages that are noted under one key are one message. -/
theorem oneOfEach_of_tidy {room : ChatRoom} (hinv : room.Inv True) (htidy : room.Tidy) :
    room.OneOfEach := by
  intro m hm m' hm' hchat kind slot hkind hfills hfills'
  have hnoted := htidy m hm kind slot hkind hfills
  rw [hchat, htidy m' hm' kind slot hkind hfills'] at hnoted
  refine (hinv.places trivial).eq_of_key_eq (hinv.shown_sent m hm) (hinv.shown_sent m' hm') ?_
  exact Prod.ext hchat (Option.some.inj hnoted).symm

end ChatRoom

section Runs

variable (strict : Prop) (summarize : List RidePoint → RideSummary)
  (parseDate : String → Option ℤ)

/-- What one event preserves, and what an update hands on to the next. -/
theorem room_handsOn : (chatRoomBot summarize parseDate).HandsOn (roomGuard strict)
    (ChatRoom.Inv strict) ChatRoom.Owes (fun update => strict → update.PressesOffered)
    (TidyIf strict) where
  env := fun _ _ _ hinv hevent hroom => inv_env hinv hevent hroom
  call := by
    intro outcome room r hinv howes hdelivered
    change ChatRoom.Inv strict (room.answer summarize outcome r).2
    rcases room.answer_cases outcome r with ⟨-, hanswer⟩ | hanswer
    · rw [hanswer]
      exact hinv
    · rw [hanswer]
      exact inv_executed hinv howes hdelivered
  stable := aboutChats_tidyIf.stable
  main := fun _ room hoffered _ htidy => keeps_handleChatUpdate hoffered room htidy

theorem room_verified : (chatRoomBot summarize parseDate).Verified (roomGuard False)
    (ChatRoom.Inv False) ChatRoom.Owes where
  env := (room_handsOn False summarize parseDate).env
  call := (room_handsOn False summarize parseDate).call
  main := fun _ room _ =>
    (keeps_handleChatUpdate False.elim room False.elim).mono fun _ _ _ => trivial

theorem inv_of_new {w : ChatWorld} (h : w.telegramBotState = []) :
    ChatRoom.Inv strict ⟨w, [], []⟩ := by
  refine ⟨?_, by simp, fun _ => List.nodup_nil⟩
  intro chatId kind slot messageId hnoted
  rw [ChatRoom.noted, h] at hnoted
  cases hnoted

variable {summarize parseDate}

/-- **The bot tidies up after itself, and nothing else.**  From a table without notes, whatever
updates users send, whatever they delete, and whatever other processes write but the notes: with
any request failing at any point and the process killed and started again, the bot asks to delete
only what it has itself sent to the same chat as a selector or a report.  And as long as the buttons
that are pressed are among those it offers, neither a deletion nor a note fails and it is not
killed, a chat holds at most one selector and one report of each kind between two updates, which is
the one that is noted. -/
theorem analytics_messages_of_run {w₀ : ChatWorld} (h₀ : w₀.telegramBotState = [])
    {m : Machine ChatRequest ChatRequest.Reply ChatRoom}
    {tr : List (Machine ChatRequest ChatRequest.Reply ChatRoom ×
      Event ChatRoomEvent ChatOutcome TelegramUpdate)}
    (run : Run (chatRoomBot summarize parseDate).step (.idle ⟨w₀, [], []⟩) tr m)
    (hguard : ∀ p ∈ tr, (roomGuard False).Allows p.1 p.2) :
    (∀ p ∈ tr, ∀ chatId messageId k, p.1.task = .call (.deleteMessage chatId messageId) k →
        ∃ kind slot, p.1.world.SentFor chatId messageId kind slot) ∧
      ((∀ p ∈ tr, (roomGuard True).Lets TelegramUpdate.PressesOffered p.1 p.2) →
        (∀ r k, m.task ≠ .call r k) → m.world.Tidy ∧ m.world.OneOfEach) := by
  constructor
  · intro p hp chatId messageId k htask
    have V := room_verified summarize parseDate
    obtain ⟨hinv, hsafe⟩ := (V.sound_of_run (inv_of_new False h₀) run hguard).1 p hp
    rw [htask] at hsafe
    exact (hsafe p.1.world .refl hinv).1
  · intro hlets hrest
    have V := room_handsOn True summarize parseDate
    have htidy₀ : TidyIf True ⟨w₀, [], []⟩ := fun _ m hm => (List.not_mem_nil hm).elim
    obtain ⟨hinv, hsafe⟩ := V.sound_of_run (inv_of_new True h₀) htidy₀ run fun p hp => by
      have hp := hlets p hp
      revert hp
      cases p.2 with
      | start update => exact fun h _ => h
      | _ => exact id
    cases htask : m.task with
    | call r k => exact (hrest r k htask).elim
    | done a =>
        rw [htask] at hsafe
        exact ⟨hsafe trivial, ChatRoom.oneOfEach_of_tidy hinv (hsafe trivial)⟩
    | fail =>
        rw [htask] at hsafe
        exact ⟨hsafe trivial, ChatRoom.oneOfEach_of_tidy hinv (hsafe trivial)⟩

end Runs

/-- A subscriber with a device, whom nothing has been sent yet. -/
def readerOfReports : ChatWorld where
  now := 1777111200000000
  devices := [⟨"866221070478388", none, none, none, none⟩]
  deviceLocations := []
  deviceHeartbeats := []
  telegramUsers := [⟨1, 10, some "866221070478388", "bound"⟩]
  telegramSubscriptions := [⟨1, 1, 10, "monthly_basic", .active, none, some 1777711200000000⟩]
  telegramEngineSessions := []
  telegramBotState := []

/-- The user presses a button, and a number of requests are answered. -/
def pressesAnswered (data : String) (first requests : ℕ) :
    List (Event ChatRoomEvent ChatOutcome TelegramUpdate) :=
  .start ⟨0, none, some ⟨"press", 1, some data, some ⟨10, none, none, none⟩⟩⟩ ::
    (List.range requests).map fun i => .answer ⟨false, (first + i : ℕ), 0⟩

/-- The user asks for the rides of a day, and then for those of today, and of yesterday. -/
def browsesReports : List (Event ChatRoomEvent ChatOutcome TelegramUpdate) :=
  pressesAnswered "analytics:sessions:select" 100 7 ++
    pressesAnswered "analytics:sessions:today" 200 13 ++
    pressesAnswered "analytics:sessions:yesterday" 300 13

/-- Every message gets a new number, nothing fails, and offered buttons are pressed. -/
def browsesCheck (m : Machine ChatRequest ChatRequest.Reply ChatRoom) :
    Event ChatRoomEvent ChatOutcome TelegramUpdate → Bool
  | .env _ => false
  | .answer outcome => !outcome.fails &&
      decide (0 ≤ outcome.messageId ∧ outcome.messageId ≤ 1000) &&
      m.world.sent.all fun sent => sent.messageId ≠ outcome.messageId
  | .start update => decide (∀ query ∈ update.callbackQuery, ∀ data ∈ query.data,
      data ∈ subscribedStartMenuKeyboard.callbackData ∨
        data ∈ (analyticsRangeKeyboard .sessions).callbackData)
  | .crash => false

def plainChatRoomBot :
    System ChatRequest ChatRequest.Reply ChatRoom ChatRoomEvent ChatOutcome TelegramUpdate :=
  chatRoomBot (fun _ => { totalDistanceKm := 0, ridingSeconds := 0 }) fun _ => none

theorem lets_of_browsesCheck {m : Machine ChatRequest ChatRequest.Reply ChatRoom}
    {event : Event ChatRoomEvent ChatOutcome TelegramUpdate} (h : browsesCheck m event = true) :
    (roomGuard False).Allows m event ∧
      (roomGuard True).Lets TelegramUpdate.PressesOffered m event := by
  cases event with
  | env event => cases h
  | crash => cases h
  | start update =>
      refine ⟨trivial, fun query hquery data hdata action _ => ?_⟩
      have hoffered := of_decide_eq_true h query hquery data hdata
      exact hoffered.imp id fun hdata => ⟨.sessions, rfl, hdata⟩
  | answer outcome =>
      simp only [browsesCheck, Bool.and_eq_true, decide_eq_true_eq, Bool.not_eq_true',
        List.all_eq_true] at h
      obtain ⟨⟨hok, hlow, hhigh⟩, hfresh⟩ := h
      have hfits : FitsI64 outcome.messageId := by
        unfold FitsI64 Binary64.i64Min Binary64.i64Max
        omega
      have hdelivered : ∀ strict : Prop, ∀ r : ChatRequest,
          r.Delivered strict m.world outcome := by
        intro strict r
        cases r with
        | sendMessage chatId message =>
            refine ⟨hfits, fun _ hmem => ?_⟩
            obtain ⟨sent, hsent, hplace⟩ := List.mem_map.1 hmem
            exact hfresh sent hsent (congrArg Prod.snd hplace)
        | _ => exact fun _ _ => hok
      cases htask : m.task with
      | call r k =>
          simp only [Guard.Lets, Guard.Allows, htask]
          exact ⟨hdelivered _ r, hdelivered _ r⟩
      | done a => simp [Guard.Lets, Guard.Allows, htask]
      | fail => simp [Guard.Lets, Guard.Allows, htask]

/-- No request is under way. -/
def betweenUpdates (m : Machine ChatRequest ChatRequest.Reply ChatRoom) : Bool :=
  match m.task with
  | .call _ _ => false
  | _ => true

theorem replay_browsesReports :
    (replay (fun m event => if browsesCheck m event then plainChatRoomBot.step m event else none)
      (.idle ⟨readerOfReports, [], []⟩) browsesReports).any (fun m => betweenUpdates m &&
        m.world.sent.length = 3 && (m.world.shown.map SentMessage.messageId = [311])) = true := by
  decide +kernel

/-- Of a selector and two reports the last report is left, and the bot asked for each deletion. -/
theorem analytics_messages_of_run_browsesReports :
    ∃ tr m, tr.map Prod.snd = browsesReports ∧
      Run plainChatRoomBot.step (.idle ⟨readerOfReports, [], []⟩) tr m ∧
      m.world.shown.map SentMessage.messageId = [311] ∧ m.world.Tidy ∧ m.world.OneOfEach ∧
      ∀ p ∈ tr, ∀ chatId messageId k, p.1.task = .call (.deleteMessage chatId messageId) k →
        ∃ kind slot, p.1.world.SentFor chatId messageId kind slot := by
  obtain ⟨tr, m, hes, run, hchecked, hm⟩ := run_of_replay_checked replay_browsesReports
  obtain ⟨hrest, hshown⟩ := Bool.and_eq_true_iff.1 hm
  obtain ⟨hrest, -⟩ := Bool.and_eq_true_iff.1 hrest
  obtain ⟨hdeletes, htidy⟩ := analytics_messages_of_run rfl run fun p hp =>
    (lets_of_browsesCheck (hchecked p hp)).1
  obtain ⟨htidy, hone⟩ := htidy (fun p hp => (lets_of_browsesCheck (hchecked p hp)).2) (by
    intro r k htask
    rw [betweenUpdates, htask] at hrest
    cases hrest)
  exact ⟨tr, m, hes, run, of_decide_eq_true hshown, htidy, hone, hdeletes⟩

end Gt06
