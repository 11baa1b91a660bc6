/-
**What of a tracker's reports arrives.**

What a tracker has sent is cut into reads, scanned for frames, decoded, attributed to the last
login, queued for the row of its device, and stored or lost.  Here the two ends are compared: the
rows a connection has stored are the reports in its stream, each at most once, in the order in which
they were sent, and just those whose transaction was rolled back are missing.

The invariant of a connection goes through the whole chain.  Its answers so far and what draining
its buffer will still give are what draining its stream gives; its events are those of its frames;
and its reports are, in their order, the rows it has stored, the report under way, and some that
were lost.

Main definitions:

* `Gt06.Gt06TcpServer.TaskInv`, `Gt06.Gt06TcpServer.ServerInv` — what holds of one connection, and
  of the server;
* `Gt06.Precedes` — two rows of one connection, in the order of their numbers and times.

Main results:

* `Gt06.Gt06TcpServer.serverInv_step` — **what every step of the server preserves**;
* `Gt06.reports_stored` — **the rows of a connection are its reports.**
-/

import Mathlib
import Gt06Server.Await
import Gt06Server.DistanceBounds
import Gt06Server.FrameRoundTrip
import Gt06Server.Resumable
import Gt06Server.TelemetryServer

set_option relaxedAutoImplicit false
set_option autoImplicit false

namespace Gt06

open Await

/-! ### What holds of a connection -/

/-- Of two rows of one connection, the order in which they were stored shows in their numbers and
in their times. -/
def Precedes (old row : HistoryRow) : Prop :=
  (old.kind = row.kind → old.id < row.id) ∧ old.serverReceivedAt ≤ row.serverReceivedAt

namespace Gt06TcpServer

variable (peer : ℕ → SocketAddr) (s : Gt06TcpServer) (t : ℕ)

/-- What a connection has stored of its reports: some of them in their order, without the one
under way and as many others as were rolled back. -/
def Stored : Prop :=
  ∃ kept : List DeviceEvent,
    (kept ++ (s.history.threads t).report.toList).Sublist
      (reports (s.tasks t).connection.raised) ∧
    (reports (s.tasks t).connection.raised).length =
      kept.length + (s.history.threads t).report.toList.length + s.lost t ∧
    List.Forall₂ Stores kept (s.storedBy t)

/-- What holds of a connection: its answers and its buffer are what draining its stream gives, its
events are those of its frames, and what it has stored is its reports. -/
structure TaskInv : Prop where
  drained : frameDecoder.drain (s.tasks t).read =
    ((s.tasks t).connection.decoded ++ (frameDecoder.drain (s.tasks t).buffer).1,
      (frameDecoder.drain (s.tasks t).buffer).2)
  waits : (s.tasks t).draining = false →
    frameDecoder.next (s.tasks t).buffer = (none, (s.tasks t).buffer) ∧
      s.history.threads t = .idle
  traced : (s.tasks t).connection.Traced (peer t)
  stored : s.Stored t
  ordered : (s.storedBy t).Pairwise Precedes
  past : ∀ old ∈ s.storedBy t, old.serverReceivedAt ≤ storedMicros s.history.clock
  received : ∀ receipt ∈ (s.history.threads t).receipt, receipt.receivedAt ≤ s.history.clock ∧
    ∀ old ∈ s.storedBy t, old.serverReceivedAt ≤ storedMicros receipt.receivedAt
  uncommitted : ∀ row ∈ (s.history.threads t).uncommitted, ∀ old ∈ s.storedBy t,
    old.kind = row.kind → old.id < row.id

/-- What holds of the server. -/
structure ServerInv : Prop where
  lock : s.history.LockInv
  consistent : ∀ t, (s.history.threads t).Consistent
  rows : s.history.rows = s.commits.map Prod.snd
  tasks : ∀ t, TaskInv peer s t

variable {peer s t} {s' : Gt06TcpServer}

/-- A step that leaves a connection alone: the others move, and time passes. -/
structure Untouched (t : ℕ) (s s' : Gt06TcpServer) : Prop where
  task : s'.tasks t = s.tasks t
  thread : s'.history.threads t = s.history.threads t
  storedBy : s'.storedBy t = s.storedBy t
  lost : s'.lost t = s.lost t
  clock : s.history.clock ≤ s'.history.clock

theorem TaskInv.frame (h : TaskInv peer s t) (hframe : Untouched t s s') : TaskInv peer s' t where
  drained := by
    rw [hframe.task]
    exact h.drained
  waits := by
    rw [hframe.task, hframe.thread]
    exact h.waits
  traced := by
    rw [hframe.task]
    exact h.traced
  stored := by
    rw [Stored, hframe.task, hframe.thread, hframe.storedBy, hframe.lost]
    exact h.stored
  ordered := by
    rw [hframe.storedBy]
    exact h.ordered
  past := by
    rw [hframe.storedBy]
    exact fun old hold => (h.past old hold).trans (storedMicros_mono hframe.clock)
  received := by
    rw [hframe.thread, hframe.storedBy]
    exact fun receipt hreceipt => ⟨(h.received receipt hreceipt).1.trans hframe.clock,
      (h.received receipt hreceipt).2⟩
  uncommitted := by
    rw [hframe.thread, hframe.storedBy]
    exact h.uncommitted

@[simp] theorem tasks_setTask_self (task : ConnectionTask) :
    (s.setTask t task).tasks t = task := Function.update_self ..

theorem tasks_setTask_of_ne {u : ℕ} (hne : u ≠ t) (task : ConnectionTask) :
    (s.setTask t task).tasks u = s.tasks u := Function.update_of_ne hne ..

/-! ### Bytes arrive -/

theorem TaskInv.readBytes (h : TaskInv peer s t) (hwaits : (s.tasks t).draining = false)
    (bytes : List UInt8) : TaskInv peer (s.readBytes t bytes) t where
  drained := by
    obtain ⟨hnext, -⟩ := h.waits hwaits
    have hdrained := h.drained
    rw [frameDecoder.drain_of_wait hnext, List.append_nil] at hdrained
    simp only [Gt06TcpServer.readBytes, tasks_setTask_self]
    rw [frameDecoder.drain_append, hdrained]
  waits := by simp [Gt06TcpServer.readBytes]
  traced := by
    simp only [Gt06TcpServer.readBytes, tasks_setTask_self]
    exact h.traced
  stored := by
    have hstored := h.stored
    simp only [Stored, Gt06TcpServer.readBytes, tasks_setTask_self]
    exact hstored
  ordered := h.ordered
  past := h.past
  received := h.received
  uncommitted := h.uncommitted

/-! ### The decoder answers -/

/-- The events of a connection after an answer. -/
theorem raised_handleDecoded (peerAddr : SocketAddr) (c : Connection)
    (answer : Except ProtocolError Frame) :
    (handleDecoded peerAddr c answer).raised =
      c.raised ++ (answerEvent peerAddr c answer).toList := by
  cases answer with
  | error e => simp [handleDecoded, answerEvent]
  | ok frame =>
      rcases hm : decodeMessage frame with e | (p | p | p | p) <;>
        simp [handleDecoded, handleFrame, answerEvent, eventOf, hm]

/-- The transaction of an event of a known device begins now; anything else is skipped. -/
theorem handleEvent_cases (hidle : s.history.threads t = .idle) (event : DeviceEvent) :
    (∃ imei, event.device = some imei ∧ s.handleEvent t event =
      s.history.setThread t (.received ⟨event, imei, s.history.clock⟩)) ∨
      event.device = none ∧ s.handleEvent t event = s.history := by
  cases hdevice : event.device with
  | none => exact Or.inr ⟨rfl, by simp [handleEvent, DeviceHistory.step, hidle, hdevice]⟩
  | some imei => exact Or.inl ⟨imei, rfl, by simp [handleEvent, DeviceHistory.step, hidle, hdevice]⟩

theorem isReport_of_device_none {event : DeviceEvent} (h : event.device = none) :
    event.isReport = false := by
  cases event with
  | login peerAddr imei serial => rfl
  | heartbeat peerAddr device packet =>
      obtain rfl : device = none := h
      rfl
  | location peerAddr device packet =>
      obtain rfl : device = none := h
      rfl

/-- What a new report adds. -/
theorem reports_append_toList (events : List DeviceEvent) (event : Option DeviceEvent) :
    reports (events ++ event.toList) =
      reports events ++ (event.filter DeviceEvent.isReport).toList := by
  cases event with
  | none => simp
  | some event =>
      cases h : event.isReport with
      | true => simp [reports, Option.filter, h]
      | false => simp [reports, Option.filter, h]

/-- What an answer of the decoder makes of the transactions: the one of its event, if that is of a
known device, begins now. -/
theorem history_handleAnswer (peer : ℕ → SocketAddr) (hidle : s.history.threads t = .idle)
    (answer : Except ProtocolError Frame) (rest : List UInt8) :
    (s.handleAnswer peer t answer rest).history = s.history ∧
        (answerEvent (peer t) (s.tasks t).connection answer).filter DeviceEvent.isReport = none ∨
      ∃ event imei, answerEvent (peer t) (s.tasks t).connection answer = some event ∧
        event.device = some imei ∧ (s.handleAnswer peer t answer rest).history =
          s.history.setThread t (.received ⟨event, imei, s.history.clock⟩) := by
  cases hevent : answerEvent (peer t) (s.tasks t).connection answer with
  | none => exact Or.inl ⟨by simp [handleAnswer, hevent, setTask], rfl⟩
  | some event =>
      rcases handleEvent_cases hidle event with ⟨imei, hdevice, hhistory⟩ | ⟨hdevice, hhistory⟩
      · exact Or.inr ⟨event, imei, rfl, hdevice, by simp [handleAnswer, hevent, hhistory]⟩
      · refine Or.inl ⟨by simp [handleAnswer, hevent, hhistory], ?_⟩
        simp [Option.filter, isReport_of_device_none hdevice]

theorem TaskInv.handleAnswer (h : TaskInv peer s t) (hdraining : (s.tasks t).draining = true)
    (hidle : s.history.threads t = .idle) {answer : Except ProtocolError Frame}
    {rest : List UInt8} (hnext : frameDecoder.next (s.tasks t).buffer = (some answer, rest)) :
    TaskInv peer (s.handleAnswer peer t answer rest) t := by
  have htask : (s.handleAnswer peer t answer rest).tasks t =
      { s.tasks t with
        connection := handleDecoded (peer t) (s.tasks t).connection answer
        buffer := rest } := tasks_setTask_self _
  have hdrained : frameDecoder.drain (s.tasks t).read =
      ((handleDecoded (peer t) (s.tasks t).connection answer).decoded ++
        (frameDecoder.drain rest).1, (frameDecoder.drain rest).2) := by
    rw [h.drained, frameDecoder.drain_of_output hnext, decoded_handleDecoded, List.append_assoc]
    rfl
  obtain ⟨kept, hkept, hlength, hstores⟩ := h.stored
  rw [hidle] at hkept hlength
  have hnone : (EventThread.idle.report).toList = [] := rfl
  rw [hnone, List.append_nil] at hkept
  rw [hnone, List.length_nil, Nat.add_zero] at hlength
  have hraised : reports ((s.handleAnswer peer t answer rest).tasks t).connection.raised =
      reports (s.tasks t).connection.raised ++
        ((answerEvent (peer t) (s.tasks t).connection answer).filter
          DeviceEvent.isReport).toList := by
    rw [htask, raised_handleDecoded, reports_append_toList]
  refine
    { drained := by rw [htask]; exact hdrained
      waits := fun hwaits => ?_
      traced := by rw [htask]; exact h.traced.handleDecoded answer
      stored := ?_
      ordered := h.ordered
      past := ?_
      received := ?_
      uncommitted := ?_ }
  · rw [htask] at hwaits
    exact absurd hwaits (by simp [hdraining])
  all_goals
    rcases history_handleAnswer peer hidle answer rest with
      ⟨hhistory, hskipped⟩ | ⟨event, imei, hevent, hdevice, hhistory⟩
  · refine ⟨kept, ?_, ?_, hstores⟩
    · rw [hraised, hskipped, hhistory, hidle]
      exact List.Sublist.append hkept (List.Sublist.refl [])
    · rw [hraised, hskipped, hhistory, hidle, Option.toList_none, List.append_nil, hlength]
      rfl
  · refine ⟨kept, ?_, ?_, hstores⟩
    · rw [hraised, hevent, hhistory, DeviceHistory.threads_setThread_self]
      exact List.Sublist.append hkept (List.Sublist.refl _)
    · rw [hraised, hevent, hhistory, DeviceHistory.threads_setThread_self, List.length_append,
        hlength]
      simp only [EventThread.report, EventThread.receipt, Option.map_some]
      exact Nat.add_right_comm ..
  · rw [hhistory]
    exact h.past
  · rw [hhistory]
    exact h.past
  · rw [hhistory]
    exact h.received
  · rw [hhistory, DeviceHistory.threads_setThread_self]
    rintro receipt ⟨⟩
    exact ⟨le_rfl, h.past⟩
  · rw [hhistory]
    exact h.uncommitted
  · rw [hhistory, DeviceHistory.threads_setThread_self]
    rintro row ⟨⟩

/-- The decoder needs more bytes: the inner loop is over. -/
theorem TaskInv.wait (h : TaskInv peer s t) (hidle : s.history.threads t = .idle)
    {rest : List UInt8} (hnext : frameDecoder.next (s.tasks t).buffer = (none, rest)) :
    TaskInv peer (s.setTask t { s.tasks t with buffer := rest, draining := false }) t where
  drained := by
    have hdrained := h.drained
    rw [frameDecoder.drain_of_wait hnext] at hdrained
    simp only [tasks_setTask_self]
    rw [frameDecoder.drain_of_wait (frameDecoder.next_kept hnext)]
    exact hdrained
  waits := by
    intro _
    rw [tasks_setTask_self]
    exact ⟨frameDecoder.next_kept hnext, hidle⟩
  traced := by
    rw [tasks_setTask_self]
    exact h.traced
  stored := by
    have hstored := h.stored
    simp only [Stored, tasks_setTask_self]
    exact hstored
  ordered := h.ordered
  past := h.past
  received := h.received
  uncommitted := h.uncommitted

theorem isIdle_iff {thread : EventThread} : thread.isIdle = true ↔ thread = .idle := by
  cases thread with
  | idle => exact ⟨fun _ => rfl, fun _ => rfl⟩
  | _ => simp [EventThread.isIdle]

theorem TaskInv.next (h : TaskInv peer s t) (hdraining : (s.tasks t).draining = true)
    (hidle : s.history.threads t = .idle) : TaskInv peer (s.next peer t) t := by
  unfold Gt06TcpServer.next
  split
  · next rest hnext => exact h.wait hidle hnext
  · next answer rest hnext => exact h.handleAnswer hdraining hidle hnext

/-! ### A transaction goes on -/

/-- The server after a statement of the transaction of `t`. -/
def advanced (s : Gt06TcpServer) (t : ℕ) (history : DeviceHistory) : Gt06TcpServer :=
  { s with
    history := history
    commits := s.commits ++ ((s.history.threads t).committing.map (Prod.mk t)).toList }

theorem of_step_advance {peer : ℕ → SocketAddr} (h : s.step peer (.advance t) = some s') :
    ∃ history, s.history.advance t = some history ∧ s' = s.advanced t history := by
  obtain ⟨history, hadvance, hs'⟩ := Option.map_eq_some_iff.1 h
  exact ⟨history, hadvance, hs'.symm⟩

section Advance

variable {history : DeviceHistory}

theorem storedBy_advanced_self :
    (s.advanced t history).storedBy t =
      s.storedBy t ++ (s.history.threads t).committing.toList := by
  cases h : (s.history.threads t).committing with
  | none => simp [storedBy, advanced, h]
  | some row => simp [storedBy, advanced, h]

theorem storedBy_advanced_of_ne {u : ℕ} (hne : u ≠ t) :
    (s.advanced t history).storedBy u = s.storedBy u := by
  cases h : (s.history.threads t).committing with
  | none => simp [storedBy, advanced, h]
  | some row => simp [storedBy, advanced, h, Ne.symm hne]

/-- The statement leaves what the connection is and has stored, as long as it does not commit. -/
theorem TaskInv.advanced_of_receipt (h : TaskInv peer s t)
    (hadvance : s.history.advance t = some history) {receipt : Receipt}
    (hbefore : (s.history.threads t).receipt = some receipt)
    (hafter : (history.threads t).receipt = some receipt)
    (hcommitting : (s.history.threads t).committing = none)
    (huncommitted : ∀ row ∈ (history.threads t).uncommitted, ∀ old ∈ s.storedBy t,
      old.kind = row.kind → old.id < row.id) :
    TaskInv peer (s.advanced t history) t := by
  have hrows : (s.advanced t history).storedBy t = s.storedBy t := by
    rw [storedBy_advanced_self, hcommitting]
    exact List.append_nil _
  have hclock := (DeviceHistory.frames_of_advance hadvance).clock
  have hreport : (history.threads t).report = (s.history.threads t).report := by
    rw [EventThread.report, EventThread.report, hafter, hbefore]
  refine
    { drained := h.drained
      waits := fun hwaits => ?_
      traced := h.traced
      stored := ?_
      ordered := by rw [hrows]; exact h.ordered
      past := ?_
      received := ?_
      uncommitted := by rw [hrows]; exact huncommitted }
  · have hidle := (h.waits hwaits).2
    rw [hidle] at hbefore
    cases hbefore
  · obtain ⟨kept, hkept, hlength, hstores⟩ := h.stored
    refine ⟨kept, ?_, ?_, ?_⟩
    · change (kept ++ (history.threads t).report.toList).Sublist _
      rw [hreport]
      exact hkept
    · change _ = kept.length + (history.threads t).report.toList.length + s.lost t
      rw [hreport]
      exact hlength
    · rw [hrows]
      exact hstores
  · rw [hrows]
    intro old hold
    exact (h.past old hold).trans (storedMicros_mono hclock.ge)
  · rw [hrows]
    intro other hother
    have hother : (history.threads t).receipt = some other := hother
    obtain ⟨hle, hpast⟩ := h.received other (hbefore.trans (hafter.symm.trans hother))
    exact ⟨hle.trans hclock.ge, hpast⟩

/-- The commit: the report under way is the next one that is stored. -/
theorem TaskInv.advanced_of_finished (h : TaskInv peer s t) (hlock : s.history.LockInv)
    (hconsistent : (s.history.threads t).Consistent) (hadvance : s.history.advance t = some history)
    {receipt : Receipt} {found : Option ℤ} {row : Option HistoryRow}
    (hbefore : s.history.threads t = .finished receipt found row)
    (hafter : history.threads t = .idle) : TaskInv peer (s.advanced t history) t := by
  have hrows : (s.advanced t history).storedBy t = s.storedBy t ++ row.toList := by
    rw [storedBy_advanced_self, hbefore]
    rfl
  have hclock := (DeviceHistory.frames_of_advance hadvance).clock
  have hpending : ∀ new ∈ row, s.history.Pending receipt new := by
    have hinv := hlock.threads t
    rw [DeviceHistory.ThreadInv, hbefore] at hinv
    exact hinv.2
  have hreceived := h.received receipt (by rw [hbefore]; rfl)
  have hthread : (s.advanced t history).history.threads t = .idle := hafter
  refine
    { drained := h.drained
      waits := fun hwaits => ⟨(h.waits hwaits).1, hafter⟩
      traced := h.traced
      stored := ?_
      ordered := ?_
      past := ?_
      received := by rw [hthread]; rintro other ⟨⟩
      uncommitted := by rw [hthread]; rintro new ⟨⟩ }
  · obtain ⟨kept, hkept, hlength, hstores⟩ := h.stored
    rw [hbefore] at hkept hlength hconsistent
    cases row with
    | none =>
        have hnone : (EventThread.finished receipt found none).report = none := by
          simp only [EventThread.report, EventThread.receipt, Option.map_some, Option.filter]
          rw [if_neg]
          rw [show receipt.event.isReport = false from hconsistent]
          exact Bool.false_ne_true
        rw [hnone] at hkept hlength
        refine ⟨kept, ?_, ?_, ?_⟩
        · rw [hthread]
          exact hkept
        · rw [hthread]
          exact hlength
        · rw [hrows]
          exact (List.append_nil (s.storedBy t)).symm ▸ hstores
    | some new =>
        have hsome : (EventThread.finished receipt found (some new)).report =
            some receipt.event := by
          simp only [EventThread.report, EventThread.receipt, Option.map_some, Option.filter]
          rw [if_pos (isReport_of_stores hconsistent)]
        rw [hsome] at hkept hlength
        refine ⟨kept ++ [receipt.event], ?_, ?_, ?_⟩
        · rw [hthread]
          exact (List.append_nil (kept ++ [receipt.event])).symm ▸ hkept
        · rw [hthread, List.length_append]
          exact hlength
        · rw [hrows]
          exact List.rel_append hstores (List.Forall₂.cons hconsistent .nil)
  · rw [hrows]
    refine List.pairwise_append.2 ⟨h.ordered, ?_, ?_⟩
    · cases row with
      | none => exact List.Pairwise.nil
      | some new => exact List.pairwise_singleton _ _
    · intro old hold new hnew
      have hnew : new ∈ row := by simpa using hnew
      refine ⟨h.uncommitted new (by rw [hbefore]; exact hnew) old hold, ?_⟩
      rw [(hpending new hnew).serverReceivedAt]
      exact hreceived.2 old hold
  · rw [hrows]
    intro old hold
    rcases List.mem_append.1 hold with hold | hold
    · exact (h.past old hold).trans (storedMicros_mono hclock.ge)
    · rw [(hpending old (by simpa using hold)).serverReceivedAt]
      exact storedMicros_mono (hreceived.1.trans hclock.ge)

theorem TaskInv.advanced (h : TaskInv peer s t) (hlock : s.history.LockInv)
    (hconsistent : (s.history.threads t).Consistent)
    (hrows : s.history.rows = s.commits.map Prod.snd)
    (hadvance : s.history.advance t = some history) : TaskInv peer (s.advanced t history) t := by
  cases DeviceHistory.statement_of_advance hadvance with
  | upsert receipt found device hbefore hafter _ _ =>
      rw [hbefore] at hconsistent
      obtain ⟨hreceipt, -, huncommitted⟩ :=
        DeviceHistory.afterUpsert_spec hconsistent
      refine h.advanced_of_receipt hadvance (by rw [hbefore]; rfl) (by rw [hafter]; exact hreceipt)
        (by rw [hbefore]; rfl) ?_
      rw [hafter, huncommitted]
      rintro row ⟨⟩
  | insert receipt found deviceId row hbefore hnew hafter _ _ =>
      refine h.advanced_of_receipt hadvance (by rw [hbefore]; rfl) (by rw [hafter]; rfl)
        (by rw [hbefore]; rfl) ?_
      rw [hafter]
      rintro new ⟨⟩ old hold hkind
      -- the number is the next one, and the committed rows have lower ones
      have hmem : old ∈ s.history.rows := by
        rw [hrows]
        obtain ⟨p, hp, rfl⟩ := List.mem_map.1 hold
        exact List.mem_map_of_mem (List.mem_filter.1 hp).1
      have hle := hlock.ids old hmem
      rw [hkind] at hle
      rw [(DeviceHistory.newRow_eq_some hnew).2.2]
      exact Nat.lt_succ_of_le hle
  | update receipt found row hbefore hafter _ _ =>
      have huncommitted := h.uncommitted
      rw [hbefore] at huncommitted
      refine h.advanced_of_receipt hadvance (by rw [hbefore]; rfl) (by rw [hafter]; rfl)
        (by rw [hbefore]; rfl) ?_
      rw [hafter]
      exact huncommitted
  | commit receipt found row hbefore hafter _ _ =>
      exact h.advanced_of_finished hlock hconsistent hadvance hbefore hafter

end Advance

/-! ### A transaction is rolled back -/

/-- The server after a rollback of the transaction of `t`. -/
def rolledBack (s : Gt06TcpServer) (t : ℕ) : Gt06TcpServer :=
  { s with
    history := { s.history.setThread t .idle with store := s.history.store.rollback t }
    lost := Function.update s.lost t (s.lost t + (s.history.threads t).report.toList.length) }

theorem TaskInv.rolledBack (h : TaskInv peer s t) : TaskInv peer (s.rolledBack t) t := by
  have hthread : (s.rolledBack t).history.threads t = .idle :=
    DeviceHistory.threads_setThread_self _
  have hlost : (s.rolledBack t).lost t =
      s.lost t + (s.history.threads t).report.toList.length := Function.update_self ..
  refine
    { drained := h.drained
      waits := fun hwaits => ⟨(h.waits hwaits).1, hthread⟩
      traced := h.traced
      stored := ?_
      ordered := h.ordered
      past := h.past
      received := by rw [hthread]; rintro other ⟨⟩
      uncommitted := by rw [hthread]; rintro row ⟨⟩ }
  obtain ⟨kept, hkept, hlength, hstores⟩ := h.stored
  refine ⟨kept, ?_, ?_, hstores⟩
  · rw [hthread]
    exact (List.append_nil kept).symm ▸ (List.sublist_append_left kept _).trans hkept
  · rw [hthread, hlost]
    change (reports (s.tasks t).connection.raised).length = kept.length + 0 + _
    rw [hlength]
    omega

/-! ### Every step -/

theorem tasks_handleAnswer_of_ne {u : ℕ} (hne : u ≠ t) (answer : Except ProtocolError Frame)
    (rest : List UInt8) : (s.handleAnswer peer t answer rest).tasks u = s.tasks u :=
  tasks_setTask_of_ne hne _

/-- The decoder's answer touches the transactions only where one begins. -/
theorem history_next (peer : ℕ → SocketAddr) (hidle : s.history.threads t = .idle) :
    (s.next peer t).history = s.history ∨
      ∃ event, s.history.step (.receive t event) = some (s.next peer t).history := by
  unfold Gt06TcpServer.next
  split
  · exact Or.inl rfl
  · next answer rest hnext =>
      rcases history_handleAnswer peer hidle answer rest with
        ⟨hhistory, -⟩ | ⟨event, imei, -, hdevice, hhistory⟩
      · exact Or.inl hhistory
      · refine Or.inr ⟨event, ?_⟩
        rw [hhistory]
        simp only [DeviceHistory.step, hidle, hdevice]

theorem commits_next (peer : ℕ → SocketAddr) (s : Gt06TcpServer) (t : ℕ) :
    (s.next peer t).commits = s.commits ∧ (s.next peer t).lost = s.lost := by
  unfold Gt06TcpServer.next
  split
  · exact ⟨rfl, rfl⟩
  · exact ⟨rfl, rfl⟩

theorem tasks_next_of_ne {u : ℕ} (hne : u ≠ t) : (s.next peer t).tasks u = s.tasks u := by
  unfold Gt06TcpServer.next
  split
  · exact tasks_setTask_of_ne hne _
  · exact tasks_handleAnswer_of_ne hne _ _

/-- A transaction that begins leaves the tables, the clock and the others alone. -/
theorem receive_frame {h h' : DeviceHistory} {event : DeviceEvent}
    (hstep : h.step (.receive t event) = some h') :
    h'.rows = h.rows ∧ h'.clock = h.clock ∧ ∀ u, u ≠ t → h'.threads u = h.threads u := by
  simp only [DeviceHistory.step] at hstep
  split at hstep
  · cases hstep
    exact ⟨rfl, rfl, fun u hu => DeviceHistory.threads_setThread_of_ne hu _⟩
  · cases hstep

theorem ServerInv.next (h : ServerInv peer s) (hdraining : (s.tasks t).draining = true)
    (hidle : s.history.threads t = .idle) : ServerInv peer (s.next peer t) := by
  obtain ⟨hcommits, hlost⟩ := commits_next peer s t
  have hframe : (s.next peer t).history.LockInv ∧
      (∀ u, ((s.next peer t).history.threads u).Consistent) ∧
      (s.next peer t).history.rows = s.history.rows ∧
      (s.next peer t).history.clock = s.history.clock ∧
      ∀ u, u ≠ t → (s.next peer t).history.threads u = s.history.threads u := by
    rcases history_next peer hidle with hhistory | ⟨event, hstep⟩
    · rw [hhistory]
      exact ⟨h.lock, h.consistent, rfl, rfl, fun _ _ => rfl⟩
    · exact ⟨DeviceHistory.lockInv_step h.lock hstep,
        DeviceHistory.consistent_step h.consistent hstep, receive_frame hstep⟩
  obtain ⟨hlock, hconsistent, hrows, hclock, hthreads⟩ := hframe
  refine ⟨hlock, hconsistent, ?_, fun u => ?_⟩
  · rw [hrows, hcommits]
    exact h.rows
  · by_cases hu : u = t
    · subst hu
      exact (h.tasks u).next hdraining hidle
    · refine (h.tasks u).frame
        { task := tasks_next_of_ne hu
          thread := hthreads u hu
          storedBy := ?_
          lost := by rw [hlost]
          clock := hclock.ge }
      rw [storedBy, hcommits]
      rfl

theorem ServerInv.advanced (h : ServerInv peer s) {history : DeviceHistory}
    (hadvance : s.history.advance t = some history) : ServerInv peer (s.advanced t history) := by
  have hframes := DeviceHistory.frames_of_advance hadvance
  refine ⟨DeviceHistory.lockInv_step h.lock (e := .advance t) hadvance,
    DeviceHistory.consistent_step h.consistent (e := .advance t) hadvance, ?_, fun u => ?_⟩
  · change history.rows = (s.commits ++ _).map Prod.snd
    rw [List.map_append, ← h.rows]
    cases DeviceHistory.statement_of_advance hadvance with
    | upsert receipt found device hbefore _ hrows _ =>
        rw [hrows, hbefore]
        exact (List.append_nil _).symm
    | insert receipt found deviceId row hbefore _ _ hrows _ =>
        rw [hrows, hbefore]
        exact (List.append_nil _).symm
    | update receipt found row hbefore _ hrows _ =>
        rw [hrows, hbefore]
        exact (List.append_nil _).symm
    | commit receipt found row hbefore _ hrows _ =>
        rw [hrows, hbefore]
        cases row with
        | none => rfl
        | some new => rfl
  · by_cases hu : u = t
    · subst hu
      exact (h.tasks u).advanced h.lock (h.consistent u) h.rows hadvance
    · exact (h.tasks u).frame
        { task := rfl
          thread := hframes.threads u hu
          storedBy := storedBy_advanced_of_ne hu
          lost := rfl
          clock := hframes.clock.ge }

theorem ServerInv.rolledBack (h : ServerInv peer s) : ServerInv peer (s.rolledBack t) := by
  refine ⟨DeviceHistory.lockInv_step h.lock (e := .rollback t) rfl,
    DeviceHistory.consistent_step h.consistent (e := .rollback t) rfl, h.rows, fun u => ?_⟩
  by_cases hu : u = t
  · subst hu
    exact (h.tasks u).rolledBack
  · exact (h.tasks u).frame
      { task := rfl
        thread := DeviceHistory.threads_setThread_of_ne hu _
        storedBy := rfl
        lost := Function.update_of_ne hu ..
        clock := le_rfl }

/-- **What every step of the server preserves**: each connection is what its stream makes of it,
and its stored rows are its reports. -/
theorem serverInv_step {e : ServerEvent} (h : ServerInv peer s) (hstep : s.step peer e = some s') :
    ServerInv peer s' := by
  cases e with
  | tick nanos =>
      cases hstep
      refine ⟨DeviceHistory.lockInv_step h.lock (e := .tick nanos) rfl, h.consistent, h.rows,
        fun u => ?_⟩
      exact (h.tasks u).frame
        { task := rfl
          thread := rfl
          storedBy := rfl
          lost := rfl
          clock := le_add_of_nonneg_right (Int.natCast_nonneg nanos) }
  | read t bytes =>
      simp only [step] at hstep
      split at hstep
      · cases hstep
      · next hwaits =>
          cases hstep
          refine ⟨h.lock, h.consistent, h.rows, fun u => ?_⟩
          by_cases hu : u = t
          · subst hu
            exact (h.tasks u).readBytes (by simpa using fun hd => hwaits (Or.inl hd)) bytes
          · exact (h.tasks u).frame
              { task := tasks_setTask_of_ne hu _
                thread := rfl
                storedBy := rfl
                lost := rfl
                clock := le_rfl }
  | next t =>
      simp only [step] at hstep
      split at hstep
      · next hready =>
          cases hstep
          exact h.next hready.1 (isIdle_iff.1 hready.2)
      · cases hstep
  | advance t =>
      obtain ⟨history, hadvance, rfl⟩ := of_step_advance hstep
      exact h.advanced hadvance
  | rollback t =>
      simp only [step] at hstep
      split at hstep
      · cases hstep
      · cases hstep
        exact h.rolledBack

theorem serverInv_start (clock : ℤ) : ServerInv peer (start clock) := by
  refine ⟨DeviceHistory.lockInv_start clock, fun _ => trivial, rfl, fun t => ?_⟩
  have hdrain : frameDecoder.drain [] = ([], []) :=
    frameDecoder.drain_of_wait frameDecoder.next_nil
  exact
    { drained := by
        change frameDecoder.drain [] =
          ([] ++ (frameDecoder.drain []).1, (frameDecoder.drain []).2)
        rw [hdrain]
        rfl
      waits := fun _ => ⟨frameDecoder.next_nil, rfl⟩
      traced := Connection.traced_accepted _
      stored := ⟨[], List.Sublist.refl [], rfl, .nil⟩
      ordered := .nil
      past := fun _ h => absurd h List.not_mem_nil
      received := by rintro receipt ⟨⟩
      uncommitted := by rintro row ⟨⟩ }

theorem serverInv_of_run {clock : ℤ} {tr : List (Gt06TcpServer × ServerEvent)}
    (run : Run (step peer) (start clock) tr s) : ServerInv peer s :=
  (run.invariant (I := ServerInv peer) (G := fun _ _ => True)
    (fun _ _ _ h _ hstep => serverInv_step h hstep) (serverInv_start clock) fun _ _ => trivial).2

/-! ### What arrives -/

theorem eventsOf_append (peerAddr : SocketAddr) (frames more : List Frame) :
    eventsOf peerAddr frames <+: eventsOf peerAddr (frames ++ more) := by
  induction more using List.reverseRecOn with
  | nil => rw [List.append_nil]
  | append_singleton more f ih =>
      rw [← List.append_assoc, eventsOf_concat]
      exact ih.trans (List.prefix_append _ _)

/-- The events a connection has raised are the first ones of its stream. -/
theorem TaskInv.raised_prefix (h : TaskInv peer s t) :
    (s.tasks t).connection.raised <+: eventsOf (peer t) (streamFrames (s.tasks t).read) := by
  rw [h.traced.raised, streamFrames, h.drained, List.filterMap_append]
  exact eventsOf_append _ _ _

/-- They are all of them once the connection waits for its socket. -/
theorem TaskInv.raised_eq (h : TaskInv peer s t) (hwaits : (s.tasks t).draining = false) :
    (s.tasks t).connection.raised = eventsOf (peer t) (streamFrames (s.tasks t).read) := by
  rw [h.traced.raised, streamFrames, h.drained,
    frameDecoder.drain_of_wait (h.waits hwaits).1, List.append_nil, Connection.frames]

/-- What a connection has stored, seen from its stream. -/
theorem TaskInv.storedOf_stream (h : TaskInv peer s t) :
    ∃ kept : List DeviceEvent,
      kept.Sublist (reports (eventsOf (peer t) (streamFrames (s.tasks t).read))) ∧
      List.Forall₂ Stores kept (s.storedBy t) ∧
      ((s.tasks t).draining = false → kept.length + s.lost t =
        (reports (eventsOf (peer t) (streamFrames (s.tasks t).read))).length) := by
  obtain ⟨kept, hkept, hlength, hstores⟩ := h.stored
  refine ⟨kept, ?_, hstores, ?_⟩
  · have hraised := (h.raised_prefix.sublist).filter DeviceEvent.isReport
    exact ((List.sublist_append_left kept _).trans hkept).trans hraised
  · intro hwaits
    rw [← h.raised_eq hwaits, hlength, (h.waits hwaits).2]
    rfl

theorem lost_step {e : ServerEvent} (hne : e ≠ .rollback t) (hstep : s.step peer e = some s') :
    s'.lost t = s.lost t := by
  cases e with
  | tick nanos =>
      cases hstep
      rfl
  | read u bytes =>
      simp only [step] at hstep
      split at hstep
      · cases hstep
      · cases hstep
        rfl
  | next u =>
      simp only [step] at hstep
      split at hstep
      · cases hstep
        exact congrFun (commits_next peer s u).2 t
      · cases hstep
  | advance u =>
      obtain ⟨history, -, rfl⟩ := Option.map_eq_some_iff.1 hstep
      rfl
  | rollback u =>
      simp only [step] at hstep
      split at hstep
      · cases hstep
      · cases hstep
        refine Function.update_of_ne (fun htu => hne ?_) ..
        rw [htu]

/-- A connection of whose transactions none is rolled back has lost nothing. -/
theorem lost_of_run {clock : ℤ} {tr : List (Gt06TcpServer × ServerEvent)}
    (run : Run (step peer) (start clock) tr s) (h : ∀ p ∈ tr, p.2 ≠ .rollback t) :
    s.lost t = 0 :=
  (run.invariant (I := fun s => s.lost t = 0) (G := fun _ e => e ≠ .rollback t)
    (fun _ _ _ hlost hne hstep => (lost_step hne hstep).trans hlost) rfl h).2

end Gt06TcpServer

open Gt06TcpServer in
/-- **The rows of a connection are its reports**: in every run of any number of connections, with
any reads, the statements of their transactions in any order and any of them rolled back, the rows
a connection has stored are reports of the frames in its stream, each attributed to the last login
before it, each stored at most once and with its own columns, in the order in which they were
sent, which is the order of their numbers and of their times; nothing else is in the tables; and
when the connection waits for its socket, just the reports that were rolled back are missing. -/
theorem reports_stored {peer : ℕ → SocketAddr} {clock : ℤ}
    {tr : List (Gt06TcpServer × ServerEvent)} {s : Gt06TcpServer}
    (run : Run (step peer) (start clock) tr s) (t : ℕ) :
    let sent := reports (eventsOf (peer t) (streamFrames (s.tasks t).read))
    s.history.rows = s.commits.map Prod.snd ∧
      (s.storedBy t).Pairwise Precedes ∧
      ∃ kept, kept.Sublist sent ∧ List.Forall₂ Stores kept (s.storedBy t) ∧
        ((s.tasks t).draining = false → kept.length + s.lost t = sent.length ∧
          ((∀ p ∈ tr, p.2 ≠ .rollback t) → kept = sent)) := by
  have hinv := serverInv_of_run run
  obtain ⟨kept, hkept, hstores, hlength⟩ := (hinv.tasks t).storedOf_stream
  refine ⟨hinv.rows, (hinv.tasks t).ordered, kept, hkept, hstores, fun hwaits => ?_⟩
  refine ⟨hlength hwaits, fun hnone => hkept.eq_of_length ?_⟩
  have hlost := lost_of_run run hnone
  have hlength := hlength hwaits
  omega

/-! ### A tracker that reconnects in the middle of a frame -/

def trackerLogin : Frame :=
  ⟨protocolLogin, [0x08, 0x66, 0x22, 0x10, 0x70, 0x47, 0x83, 0x88], 1⟩

def trackerHeartbeat : Frame := ⟨protocolHeartbeat, [0x45, 0x06, 0x03, 0x00, 0x02], 2⟩

def trackerPeer (t : ℕ) : SocketAddr := if t = 1 then "10.0.0.7:40001" else "10.0.0.7:40002"

/-- The old connection has its login in two reads, and the new one logs in while the transaction of
the first login holds the row of the device. -/
def reconnecting : List ServerEvent :=
  [.read 1 ((buildFrame trackerLogin).take 7), .next 1,
    .read 1 ((buildFrame trackerLogin).drop 7 ++ buildFrame trackerHeartbeat), .next 1, .advance 1,
    .read 2 (buildFrame trackerLogin), .next 2, .tick 5000, .advance 1, .next 1, .rollback 2,
    .advance 1, .advance 1, .advance 1, .advance 1, .next 1, .next 2]

theorem replay_reconnecting :
    (replay (Gt06TcpServer.step trackerPeer) (Gt06TcpServer.start 0) reconnecting).any
      (fun s => (s.storedBy 1).length = 1 ∧ (s.tasks 1).draining = false) = true := by
  decide +kernel

/-- The heartbeat of the old connection is stored once, and nothing of it is missing. -/
theorem reports_stored_reconnecting :
    ∃ tr s, tr.map Prod.snd = reconnecting ∧
      Run (Gt06TcpServer.step trackerPeer) (Gt06TcpServer.start 0) tr s ∧
      ∃ kept : List DeviceEvent, kept.length = 1 ∧ List.Forall₂ Stores kept (s.storedBy 1) ∧
        kept.Sublist
          (reports (eventsOf (trackerPeer 1) (streamFrames (s.tasks 1).read))) := by
  obtain ⟨tr, s, hes, run, hs⟩ := run_of_replay_any replay_reconnecting
  obtain ⟨hstored, -⟩ := of_decide_eq_true hs
  obtain ⟨-, -, kept, hkept, hstores, -⟩ := reports_stored run 1
  exact ⟨tr, s, hes, run, kept, hstores.length_eq.trans hstored, hstores, hkept⟩

end Gt06
