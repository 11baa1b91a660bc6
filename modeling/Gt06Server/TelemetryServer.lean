/-
**From the socket to the tables.**

The TCP server accepts any number of trackers.  Every connection has a task of its own, which reads
what the socket has, drains its buffer frame by frame, and waits for the event handler before it
looks at the next frame; the handler runs one transaction, whose statements take their turns with
those of all the other tasks.  A transaction that fails is rolled back and only logged, and the
task goes on.

This module is the server as a whole: `run` of `src/server.rs` with the tasks it spawns, over the
transactions of `DeviceHistory`.  The handler that only logs has no part in it.

Main definitions:

* `Gt06.ConnectionTask`, `Gt06.Gt06TcpServer`, `Gt06.Gt06TcpServer.step` — the server, one step of
  one task at a time;
* `Gt06.Gt06TcpServer.storedBy`, `Gt06.Gt06TcpServer.lost` — what a connection has stored, and how
  many of its reports were rolled back;
* `Gt06.reports` — the events that leave a row in a history;
* `Gt06.Stores` — the row of a report.

Main results:

* `Gt06.DeviceHistory.statement_of_advance`, `Gt06.DeviceHistory.frames_of_advance` — what a
  statement of a transaction does, and what it leaves alone;
* `Gt06.DeviceHistory.consistent_step` — the row that a transaction is about to store has the
  columns of its report.
-/

import Mathlib
import Gt06Server.Await
import Gt06Server.DeviceHistory
import Gt06Server.RowLocks
import Gt06Server.Server

set_option relaxedAutoImplicit false
set_option autoImplicit false

namespace Gt06

open Await RowLocks

/-! ### The tasks -/

/-- The task of a connection: the state of `handle_connection`, its buffer, and whether its inner
loop is under way.  The bytes it has read so far are bookkeeping. -/
structure ConnectionTask where
  connection : Connection
  buffer : List UInt8
  draining : Bool
  read : List UInt8

/-- A connection that has just been accepted. -/
def ConnectionTask.accepted : ConnectionTask where
  connection := .accepted
  buffer := []
  draining := false
  read := []

/-- The event of a decoded frame, if it has one, in the session of the connection. -/
def answerEvent (peerAddr : SocketAddr) (c : Connection) :
    Except ProtocolError Frame → Option DeviceEvent
  | .ok frame => eventOf peerAddr c.deviceId frame
  | .error _ => none

namespace EventThread

/-- No transaction is under way. -/
def isIdle : EventThread → Bool
  | .idle => true
  | _ => false

/-- What the transaction is about. -/
def receipt : EventThread → Option Receipt
  | .idle => none
  | .received receipt => some receipt
  | .seen receipt _ _ => some receipt
  | .inserted receipt _ _ => some receipt
  | .finished receipt _ _ => some receipt

/-- The row that becomes visible with the next statement of the transaction. -/
def committing : EventThread → Option HistoryRow
  | .finished _ _ row => row
  | _ => none

/-- The statements that the transaction has left, its commit among them. -/
def remaining : EventThread → ℕ
  | .idle => 0
  | .received _ => 4
  | .seen _ _ _ => 3
  | .inserted _ _ _ => 2
  | .finished _ _ _ => 1

end EventThread

/-- An event that leaves a row in a history: `persist_event` skips an unknown device, and a login
has no row there. -/
def DeviceEvent.isReport : DeviceEvent → Bool
  | .login _ _ _ => false
  | .heartbeat _ deviceId _ => deviceId.isSome
  | .location _ deviceId _ => deviceId.isSome

/-- The reports among some events. -/
def reports (events : List DeviceEvent) : List DeviceEvent := events.filter DeviceEvent.isReport

/-- The report that a transaction is about. -/
def EventThread.report (thread : EventThread) : Option DeviceEvent :=
  (thread.receipt.map Receipt.event).filter DeviceEvent.isReport

/-- The row has the columns of the report; its numbers and its times are those of the
transaction. -/
def Stores : DeviceEvent → HistoryRow → Prop
  | .heartbeat peerAddr (some imei) packet, .heartbeat row =>
      ∃ id deviceId receivedAt previous,
        row = heartbeatRow id deviceId imei peerAddr receivedAt previous packet
  | .location peerAddr (some imei) packet, .location row =>
      ∃ id deviceId receivedAt now,
        row = locationRow id deviceId imei peerAddr receivedAt now packet
  | _, _ => False

/-! ### The server -/

/-- The tasks, and the tables with the transactions that the tasks wait for.  Who has committed
which row, and how many reports of a connection were rolled back, is bookkeeping. -/
structure Gt06TcpServer where
  history : DeviceHistory
  tasks : ℕ → ConnectionTask
  commits : List (ℕ × HistoryRow)
  lost : ℕ → ℕ

/-- What may happen next: time passes, the socket of a task has bytes, a task asks the decoder for
the next frame, its transaction runs the next statement, or is rolled back. -/
inductive ServerEvent where
  | tick (nanos : ℕ)
  | read (task : ℕ) (bytes : List UInt8)
  | next (task : ℕ)
  | advance (task : ℕ)
  | rollback (task : ℕ)

namespace Gt06TcpServer

/-- Nobody has connected. -/
def start (clock : ℤ) : Gt06TcpServer where
  history := .start clock
  tasks := fun _ => .accepted
  commits := []
  lost := fun _ => 0

variable (s : Gt06TcpServer)

def setTask (t : ℕ) (task : ConnectionTask) : Gt06TcpServer :=
  { s with tasks := Function.update s.tasks t task }

/-- The rows that a connection has stored, in the order of the commits. -/
def storedBy (t : ℕ) : List HistoryRow := (s.commits.filter fun p => p.1 = t).map Prod.snd

/-- `handle_event`: the transaction of a known device begins, and anything else is skipped. -/
def handleEvent (t : ℕ) (event : DeviceEvent) : DeviceHistory :=
  (s.history.step (.receive t event)).getD s.history

/-- The task of a connection has the next answer of the decoder. -/
def handleAnswer (peer : ℕ → SocketAddr) (t : ℕ) (answer : Except ProtocolError Frame)
    (rest : List UInt8) : Gt06TcpServer :=
  let task := s.tasks t
  { s.setTask t { task with
      connection := handleDecoded (peer t) task.connection answer
      buffer := rest } with
    history := ((answerEvent (peer t) task.connection answer).map (s.handleEvent t)).getD
      s.history }

/-- The next turn of the inner loop of `handle_connection`. -/
def next (peer : ℕ → SocketAddr) (t : ℕ) : Gt06TcpServer :=
  match frameDecoder.next (s.tasks t).buffer with
  | (none, rest) => s.setTask t { s.tasks t with buffer := rest, draining := false }
  | (some answer, rest) => s.handleAnswer peer t answer rest

/-- Bytes have arrived. -/
def readBytes (t : ℕ) (bytes : List UInt8) : Gt06TcpServer :=
  s.setTask t { s.tasks t with
    buffer := (s.tasks t).buffer ++ bytes
    draining := true
    read := (s.tasks t).read ++ bytes }

/-- The next step of the server, where `peer` gives the address at the other end of each
connection. -/
def step (peer : ℕ → SocketAddr) (s : Gt06TcpServer) : ServerEvent → Option Gt06TcpServer
  | .tick nanos => some { s with history := { s.history with clock := s.history.clock + nanos } }
  | .read t bytes => if (s.tasks t).draining ∨ bytes = [] then none else some (s.readBytes t bytes)
  | .next t =>
      if (s.tasks t).draining ∧ (s.history.threads t).isIdle then some (s.next peer t) else none
  | .advance t =>
      (s.history.advance t).map fun history =>
        { s with
          history := history
          commits := s.commits ++ ((s.history.threads t).committing.map (Prod.mk t)).toList }
  | .rollback t =>
      if (s.history.threads t).isIdle then none
      else (s.history.step (.rollback t)).map fun history =>
        { s with
          history := history
          lost := Function.update s.lost t
            (s.lost t + (s.history.threads t).report.toList.length) }

/-- Every task waits for its socket. -/
def AtRest : Prop := ∀ t, (s.tasks t).draining = false

end Gt06TcpServer

/-- The frames of a stream. -/
def streamFrames (bytes : List UInt8) : List Frame :=
  (frameDecoder.drain bytes).1.filterMap Except.toOption

/-! ### What a statement of a transaction does -/

namespace DeviceHistory

variable {s s' : DeviceHistory} {t : ℕ}

/-- What a statement leaves alone. -/
structure Frames (t : ℕ) (s s' : DeviceHistory) : Prop where
  threads : ∀ u, u ≠ t → s'.threads u = s.threads u
  clock : s'.clock = s.clock

/-- A statement of a transaction: its upsert, its insert, its update or its commit. -/
inductive Statement (s : DeviceHistory) (t : ℕ) (s' : DeviceHistory) : Prop where
  | upsert (receipt : Receipt) (found : Option ℤ) (device : DeviceRow)
      (before : s.threads t = .received receipt)
      (after : s'.threads t = afterUpsert receipt found device) (rows : s'.rows = s.rows)
      (ids : s'.lastId = s.lastId)
  | insert (receipt : Receipt) (found : Option ℤ) (deviceId : ℕ) (row : HistoryRow)
      (before : s.threads t = .seen receipt found deviceId)
      (new : s.newRow receipt deviceId = some row)
      (after : s'.threads t = .inserted receipt found row) (rows : s'.rows = s.rows)
      (ids : s'.lastId = Function.update s.lastId row.kind (s.lastId row.kind + 1))
  | update (receipt : Receipt) (found : Option ℤ) (row : HistoryRow)
      (before : s.threads t = .inserted receipt found row)
      (after : s'.threads t = .finished receipt found (some row)) (rows : s'.rows = s.rows)
      (ids : s'.lastId = s.lastId)
  | commit (receipt : Receipt) (found : Option ℤ) (row : Option HistoryRow)
      (before : s.threads t = .finished receipt found row) (after : s'.threads t = .idle)
      (rows : s'.rows = s.rows ++ row.toList) (ids : s'.lastId = s.lastId)

theorem frames_of_advance (h : s.advance t = some s') : Frames t s s' := by
  unfold advance at h
  cases hthread : s.threads t with
  | idle =>
      rw [hthread] at h
      cases h
  | received receipt =>
      rw [hthread] at h
      obtain ⟨⟨device, store⟩, -, hs'⟩ := Option.bind_eq_some_iff.1 h
      cases hs'
      exact ⟨fun u hu => threads_setThread_of_ne hu _, rfl⟩
  | seen receipt found deviceId =>
      rw [hthread] at h
      obtain ⟨row, -, hs'⟩ := Option.bind_eq_some_iff.1 h
      cases hs'
      exact ⟨fun u hu => threads_setThread_of_ne hu _, rfl⟩
  | inserted receipt found row =>
      rw [hthread] at h
      obtain ⟨store, -, hs'⟩ := Option.bind_eq_some_iff.1 h
      cases hs'
      exact ⟨fun u hu => threads_setThread_of_ne hu _, rfl⟩
  | finished receipt found row =>
      rw [hthread] at h
      cases h
      exact ⟨fun u hu => threads_setThread_of_ne hu _, rfl⟩

theorem statement_of_advance (h : s.advance t = some s') : Statement s t s' := by
  unfold advance at h
  cases hthread : s.threads t with
  | idle =>
      rw [hthread] at h
      cases h
  | received receipt =>
      rw [hthread] at h
      obtain ⟨⟨device, store⟩, -, hs'⟩ := Option.bind_eq_some_iff.1 h
      cases hs'
      exact .upsert receipt _ device hthread (threads_setThread_self _) rfl rfl
  | seen receipt found deviceId =>
      rw [hthread] at h
      obtain ⟨row, hrow, hs'⟩ := Option.bind_eq_some_iff.1 h
      cases hs'
      exact .insert receipt found deviceId row hthread hrow (threads_setThread_self _) rfl rfl
  | inserted receipt found row =>
      rw [hthread] at h
      obtain ⟨store, -, hs'⟩ := Option.bind_eq_some_iff.1 h
      cases hs'
      exact .update receipt found row hthread (threads_setThread_self _) rfl rfl
  | finished receipt found row =>
      rw [hthread] at h
      cases h
      exact .commit receipt found row hthread (threads_setThread_self _) rfl rfl

/-- The row that is inserted for a report has its columns. -/
theorem stores_newRow {receipt : Receipt} {deviceId : ℕ} {row : HistoryRow}
    (hdevice : receipt.event.device = some receipt.imei)
    (h : s.newRow receipt deviceId = some row) : Stores receipt.event row := by
  unfold newRow at h
  cases hevent : receipt.event with
  | login peerAddr imei serial =>
      rw [hevent] at h
      cases h
  | heartbeat peerAddr device packet =>
      rw [hevent] at h hdevice
      obtain rfl : device = some receipt.imei := hdevice
      cases h
      exact ⟨_, _, _, _, rfl⟩
  | location peerAddr device packet =>
      rw [hevent] at h hdevice
      obtain rfl : device = some receipt.imei := hdevice
      cases h
      exact ⟨_, _, _, _, rfl⟩

end DeviceHistory

/-- The row that a transaction has inserted and not committed. -/
def EventThread.uncommitted : EventThread → Option HistoryRow
  | .inserted _ _ row => some row
  | .finished _ _ row => row
  | _ => none

/-- What a transaction knows about the row it is about to store. -/
def EventThread.Consistent : EventThread → Prop
  | .idle => True
  | .received receipt => receipt.event.device = some receipt.imei
  | .seen receipt _ _ =>
      receipt.event.device = some receipt.imei ∧ receipt.event.isReport = true
  | .inserted receipt _ row => Stores receipt.event row
  | .finished receipt _ none => receipt.event.isReport = false
  | .finished receipt _ (some row) => Stores receipt.event row

theorem isReport_of_stores {event : DeviceEvent} {row : HistoryRow} (h : Stores event row) :
    event.isReport = true := by
  cases event with
  | login peerAddr imei serial => exact h.elim
  | heartbeat peerAddr device packet =>
      cases device with
      | none => exact h.elim
      | some imei => rfl
  | location peerAddr device packet =>
      cases device with
      | none => exact h.elim
      | some imei => rfl

theorem isReport_of_device {event : DeviceEvent} {imei : String} (h : event.device = some imei) :
    event.isReport = true ∨ ∃ peerAddr serial, event = .login peerAddr imei serial := by
  cases event with
  | login peerAddr imei' serial =>
      obtain rfl : imei' = imei := Option.some_inj.1 h
      exact Or.inr ⟨peerAddr, serial, rfl⟩
  | heartbeat peerAddr device packet =>
      obtain rfl : device = some imei := h
      exact Or.inl rfl
  | location peerAddr device packet =>
      obtain rfl : device = some imei := h
      exact Or.inl rfl

namespace DeviceHistory

variable {s s' : DeviceHistory} {t : ℕ}

/-- What an upsert leaves of its transaction. -/
theorem afterUpsert_spec {receipt : Receipt} {found : Option ℤ} {device : DeviceRow}
    (h : receipt.event.device = some receipt.imei) :
    (afterUpsert receipt found device).receipt = some receipt ∧
      (afterUpsert receipt found device).Consistent ∧
      (afterUpsert receipt found device).uncommitted = none := by
  unfold afterUpsert
  rcases isReport_of_device h with hreport | ⟨peerAddr, serial, hlogin⟩
  · cases hevent : receipt.event with
    | login peerAddr imei serial =>
        rw [hevent] at hreport
        cases hreport
    | heartbeat peerAddr deviceId packet => exact ⟨rfl, ⟨h, hreport⟩, rfl⟩
    | location peerAddr deviceId packet => exact ⟨rfl, ⟨h, hreport⟩, rfl⟩
  · simp only [hlogin]
    refine ⟨rfl, ?_, rfl⟩
    change receipt.event.isReport = false
    rw [hlogin]
    rfl

theorem consistent_advance (h : (s.threads t).Consistent) (hadvance : s.advance t = some s') :
    (s'.threads t).Consistent := by
  cases statement_of_advance hadvance with
  | upsert receipt found device hbefore hafter _ _ =>
      rw [hbefore] at h
      rw [hafter]
      exact (afterUpsert_spec h).2.1
  | insert receipt found deviceId row hbefore hnew hafter _ _ =>
      rw [hbefore] at h
      rw [hafter]
      exact stores_newRow h.1 hnew
  | update receipt found row hbefore hafter _ _ =>
      rw [hbefore] at h
      rw [hafter]
      exact h
  | commit receipt found row hbefore hafter _ _ =>
      rw [hafter]
      trivial

/-- What a transaction knows of its row, every step preserves. -/
theorem consistent_step {e : HistoryEvent} (h : ∀ t, (s.threads t).Consistent)
    (hstep : s.step e = some s') (u : ℕ) : (s'.threads u).Consistent := by
  cases e with
  | tick nanos =>
      cases hstep
      exact h u
  | receive t event =>
      simp only [step] at hstep
      split at hstep
      · next imei hidle hdevice =>
          cases hstep
          by_cases hu : u = t
          · subst hu
            rw [threads_setThread_self]
            exact hdevice
          · rw [threads_setThread_of_ne hu]
            exact h u
      · cases hstep
  | advance t =>
      by_cases hu : u = t
      · subst hu
        exact consistent_advance (h u) hstep
      · rw [(frames_of_advance hstep).threads u hu]
        exact h u
  | rollback t =>
      cases hstep
      by_cases hu : u = t
      · subst hu
        rw [threads_setThread_self]
        trivial
      · rw [threads_setThread_of_ne hu]
        exact h u

end DeviceHistory

end Gt06
