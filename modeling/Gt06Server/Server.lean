/-
**A device connection.**

This module embeds `handle_connection` of `src/server.rs` and the events of `src/events.rs` that
it raises.  A connection is a list of reads; an empty read is the peer's close.  The socket
writes succeed and the event handler returns, so that a connection is a pure function of its
reads.

Main definitions:

* `Gt06.DeviceEvent` — what a connection reports to the event handler;
* `Gt06.Connection` — the state of a connection, with what it has written and raised so far;
* `Gt06.handleDecoded` — the body of the inner loop, on one answer of the decoder;
* `Gt06.handleConnection` — the loop over the reads;
* `Gt06.beforeClose` — the reads up to the peer's close.

Main results:

* `Gt06.handleConnection_flatten` — a connection is a fold over the drained byte stream;
* `Gt06.handleConnection_chunking` — **chunking invariance**: the cuts between the reads are
  invisible;
* `Gt06.handleConnection_trace` — **the trace of a connection**: its frames are those of the byte
  stream, its acknowledgements and events are those of its frames, in order, and every report is
  attributed to the last login before it.
-/

import Gt06Server.Framing

set_option relaxedAutoImplicit false
set_option autoImplicit false

namespace Gt06

/-! ### Events -/

/-- A socket address, as the program prints and stores it. -/
abbrev SocketAddr := String

inductive DeviceEvent
  | login (peerAddr : SocketAddr) (imei : String) (serial : UInt16)
  | heartbeat (peerAddr : SocketAddr) (deviceId : Option String) (packet : HeartbeatPacket)
  | location (peerAddr : SocketAddr) (deviceId : Option String) (packet : LocationPacket)
  deriving DecidableEq

/-! ### The connection -/

/-- The state of a connection: the IMEI of the session, the bytes written to the socket, the
events raised, and the answers the decoder has given. -/
structure Connection where
  deviceId : Option String
  written : List UInt8
  raised : List DeviceEvent
  decoded : List (Except ProtocolError Frame)
  deriving DecidableEq

/-- A connection that has just been accepted. -/
def Connection.accepted : Connection where
  deviceId := none
  written := []
  raised := []
  decoded := []

/-- The body of the inner loop of `handle_connection` on a decoded frame.  An unknown protocol
and a rejected payload are only logged. -/
def handleFrame (peerAddr : SocketAddr) (c : Connection) (frame : Frame) : Connection :=
  match decodeMessage frame with
  | .ok (.login packet) =>
      { c with
        written := c.written ++ encodeAck protocolLogin frame.serial
        deviceId := some packet.imei
        raised := c.raised ++ [.login peerAddr packet.imei frame.serial] }
  | .ok (.heartbeat packet) =>
      { c with
        written := c.written ++ encodeAck protocolHeartbeat frame.serial
        raised := c.raised ++ [.heartbeat peerAddr c.deviceId packet] }
  | .ok (.location packet) =>
      { c with raised := c.raised ++ [.location peerAddr c.deviceId packet] }
  | .ok (.unknown _) => c
  | .error _ => c

/-- The body of the inner loop of `handle_connection` on an answer of the decoder; a protocol
error is only logged. -/
def handleDecoded (peerAddr : SocketAddr) (c : Connection) (answer : Except ProtocolError Frame) :
    Connection :=
  match answer with
  | .ok frame =>
      { handleFrame peerAddr c frame with decoded := c.decoded ++ [.ok frame] }
  | .error error => { c with decoded := c.decoded ++ [.error error] }

/-- The loops of `handle_connection`, from a connection and its buffer: read, append to the buffer,
drain it, and stop when a read is empty. -/
def readLoop (peerAddr : SocketAddr) : Connection × List UInt8 → List (List UInt8) →
    Connection × List UInt8
  | state, [] => state
  | state, [] :: _ => state
  | (c, buffer), (byte :: bytes) :: reads =>
      readLoop peerAddr
        (frameDecoder.consume (handleDecoded peerAddr) c (buffer ++ byte :: bytes)) reads

/-- `handle_connection`: the connection and the buffer it is left with. -/
def handleConnection (peerAddr : SocketAddr) (reads : List (List UInt8)) :
    Connection × List UInt8 :=
  readLoop peerAddr (.accepted, []) reads

/-! ### Chunking invariance -/

theorem readLoop_eq_feed (peerAddr : SocketAddr) (state : Connection × List UInt8)
    {reads : List (List UInt8)} (h : ∀ read ∈ reads, read ≠ []) :
    readLoop peerAddr state reads = frameDecoder.feed (handleDecoded peerAddr) state reads := by
  induction reads generalizing state with
  | nil => rfl
  | cons read reads ih =>
      obtain ⟨c, buffer⟩ := state
      cases read with
      | nil => exact absurd rfl (h [] (List.mem_cons_self ..))
      | cons byte bytes =>
          rw [readLoop, Resumable.Decoder.feed]
          exact ih _ fun read hread => h read (List.mem_cons_of_mem _ hread)

/-- A connection whose reads are not empty is a fold over its drained byte stream. -/
theorem handleConnection_flatten (peerAddr : SocketAddr) {reads : List (List UInt8)}
    (h : ∀ read ∈ reads, read ≠ []) :
    handleConnection peerAddr reads =
      ((frameDecoder.drain reads.flatten).1.foldl (handleDecoded peerAddr) .accepted,
        (frameDecoder.drain reads.flatten).2) := by
  rw [handleConnection, readLoop_eq_feed peerAddr _ h,
    frameDecoder.feed_eq _ _ frameDecoder.next_nil, List.nil_append]

/-- **Chunking invariance**: two ways of cutting one byte stream into non-empty reads give the
same answers of the decoder, the same bytes written, the same events, the same session and the
same residual buffer. -/
theorem handleConnection_chunking (peerAddr : SocketAddr) {reads reads' : List (List UInt8)}
    (h : ∀ read ∈ reads, read ≠ []) (h' : ∀ read ∈ reads', read ≠ [])
    (hstream : reads.flatten = reads'.flatten) :
    handleConnection peerAddr reads = handleConnection peerAddr reads' := by
  rw [handleConnection_flatten peerAddr h, handleConnection_flatten peerAddr h', hstream]

/-- The bytes of an acknowledgement, read at once and cut inside the marker and the checksum. -/
theorem handleConnection_chunking_ack :
    handleConnection "peer" [[0x78], [0x78, 0x05, 0x01, 0x00, 0x01, 0xD9], [0xDC, 0x0D, 0x0A]] =
      handleConnection "peer" [[0x78, 0x78, 0x05, 0x01, 0x00, 0x01, 0xD9, 0xDC, 0x0D, 0x0A]] :=
  handleConnection_chunking "peer" (by decide) (by decide) (by decide)

/-! ### The trace of a connection -/

/-- The IMEI of a frame that decodes to a login. -/
def loginImei (frame : Frame) : Option String :=
  match decodeMessage frame with
  | .ok (.login packet) => some packet.imei
  | _ => none

/-- The most recent login among some frames. -/
def lastLogin (frames : List Frame) : Option String := (frames.filterMap loginImei).getLast?

/-- Logins and heartbeats are acknowledged. -/
def isAcknowledged (frame : Frame) : Bool :=
  match decodeMessage frame with
  | .ok (.login _) => true
  | .ok (.heartbeat _) => true
  | _ => false

/-- The event of a frame that decodes to a login, a heartbeat or a location, in a session. -/
def eventOf (peerAddr : SocketAddr) (session : Option String) (frame : Frame) :
    Option DeviceEvent :=
  match decodeMessage frame with
  | .ok (.login packet) => some (.login peerAddr packet.imei frame.serial)
  | .ok (.heartbeat packet) => some (.heartbeat peerAddr session packet)
  | .ok (.location packet) => some (.location peerAddr session packet)
  | _ => none

/-- The events of some frames, each in the session of the last login before it. -/
def eventsOf (peerAddr : SocketAddr) (frames : List Frame) : List DeviceEvent :=
  (List.range frames.length).filterMap fun k =>
    frames[k]?.bind (eventOf peerAddr (lastLogin (frames.take k)))

/-- The frames a connection has decoded. -/
def Connection.frames (c : Connection) : List Frame := c.decoded.filterMap Except.toOption

/-- What the frames of a connection make of it. -/
structure Connection.Traced (peerAddr : SocketAddr) (c : Connection) : Prop where
  session : c.deviceId = lastLogin c.frames
  written : c.written =
    (c.frames.filter isAcknowledged).flatMap fun f => encodeAck f.protocolNumber f.serial
  raised : c.raised = eventsOf peerAddr c.frames

theorem lastLogin_concat (frames : List Frame) (f : Frame) :
    lastLogin (frames ++ [f]) = (loginImei f).or (lastLogin frames) := by
  rw [lastLogin, lastLogin, List.filterMap_append]
  cases h : loginImei f with
  | none => simp [h]
  | some imei => simp [h]

theorem eventsOf_concat (peerAddr : SocketAddr) (frames : List Frame) (f : Frame) :
    eventsOf peerAddr (frames ++ [f]) =
      eventsOf peerAddr frames ++ (eventOf peerAddr (lastLogin frames) f).toList := by
  rw [eventsOf, List.length_append, List.length_singleton, List.range_succ,
    List.filterMap_append]
  congr 1
  · -- the frames before `f` keep their index and their prefix
    refine List.filterMap_congr fun k hk => ?_
    have hk : k < frames.length := List.mem_range.1 hk
    rw [List.getElem?_append_left hk, List.take_append_of_le_length hk.le]
  · cases h : eventOf peerAddr (lastLogin frames) f with
    | none => simp [h]
    | some event => simp [h]

/-- A rejected payload and an unknown protocol change nothing. -/
theorem handleFrame_ignored (peerAddr : SocketAddr) (c : Connection) {frame : Frame}
    (h : (∃ e, decodeMessage frame = .error e) ∨
      ∃ packet, decodeMessage frame = .ok (.unknown packet)) :
    handleFrame peerAddr c frame = c := by
  rcases h with ⟨e, h⟩ | ⟨packet, h⟩
  · rw [handleFrame, h]
  · rw [handleFrame, h]

/-- One answer of the decoder keeps the trace. -/
theorem Connection.Traced.handleDecoded {peerAddr : SocketAddr} {c : Connection}
    (h : c.Traced peerAddr) (answer : Except ProtocolError Frame) :
    (handleDecoded peerAddr c answer).Traced peerAddr := by
  cases answer with
  | error e =>
      have hframes : (Gt06.handleDecoded peerAddr c (.error e)).frames = c.frames := by
        simp [Gt06.handleDecoded, Connection.frames, Except.toOption]
      exact ⟨by rw [hframes]; exact h.session, by rw [hframes]; exact h.written,
        by rw [hframes]; exact h.raised⟩
  | ok frame =>
      have hframes : (Gt06.handleDecoded peerAddr c (.ok frame)).frames = c.frames ++ [frame] := by
        simp [Gt06.handleDecoded, Connection.frames, Except.toOption]
      refine ⟨?_, ?_, ?_⟩
      · rw [hframes, lastLogin_concat, ← h.session]
        rcases hm : decodeMessage frame with e | (p | p | p | p) <;>
          simp [Gt06.handleDecoded, handleFrame, loginImei, hm]
      · rw [hframes, List.filter_append, List.flatMap_append, ← h.written]
        rcases hm : decodeMessage frame with e | (p | p | p | p)
        · simp [Gt06.handleDecoded, handleFrame, isAcknowledged, hm]
        · simp [Gt06.handleDecoded, handleFrame, isAcknowledged, hm,
            protocolNumber_of_decodeMessage_login hm]
        · simp [Gt06.handleDecoded, handleFrame, isAcknowledged, hm,
            protocolNumber_of_decodeMessage_heartbeat hm]
        · simp [Gt06.handleDecoded, handleFrame, isAcknowledged, hm]
        · simp [Gt06.handleDecoded, handleFrame, isAcknowledged, hm]
      · rw [hframes, eventsOf_concat, ← h.raised, ← h.session]
        rcases hm : decodeMessage frame with e | (p | p | p | p) <;>
          simp [Gt06.handleDecoded, handleFrame, eventOf, hm]

theorem Connection.Traced.foldl {peerAddr : SocketAddr} {c : Connection} (h : c.Traced peerAddr)
    (answers : List (Except ProtocolError Frame)) :
    (answers.foldl (Gt06.handleDecoded peerAddr) c).Traced peerAddr := by
  induction answers generalizing c with
  | nil => exact h
  | cons answer answers ih => exact ih (h.handleDecoded answer)

theorem Connection.Traced.readLoop {peerAddr : SocketAddr} {c : Connection}
    (h : c.Traced peerAddr) (buffer : List UInt8) (reads : List (List UInt8)) :
    (readLoop peerAddr (c, buffer) reads).1.Traced peerAddr := by
  induction reads generalizing c buffer with
  | nil => exact h
  | cons read reads ih =>
      cases read with
      | nil => exact h
      | cons byte bytes =>
          rw [Gt06.readLoop, frameDecoder.consume_eq]
          exact ih (h.foldl _) _

theorem Connection.traced_accepted (peerAddr : SocketAddr) :
    Connection.accepted.Traced peerAddr :=
  ⟨rfl, rfl, rfl⟩

/-! ### The frames of a byte stream -/

/-- What the peer sends before it closes: the reads up to the first empty one. -/
def beforeClose (reads : List (List UInt8)) : List (List UInt8) :=
  reads.takeWhile fun read => !read.isEmpty

theorem ne_nil_of_mem_beforeClose {reads : List (List UInt8)} {read : List UInt8}
    (h : read ∈ beforeClose reads) : read ≠ [] := by
  have hread := List.mem_takeWhile_imp h
  rintro rfl
  simp at hread

/-- Nothing is read after the close. -/
theorem readLoop_beforeClose (peerAddr : SocketAddr) (state : Connection × List UInt8)
    (reads : List (List UInt8)) :
    readLoop peerAddr state reads = readLoop peerAddr state (beforeClose reads) := by
  induction reads generalizing state with
  | nil => rfl
  | cons read reads ih =>
      cases read with
      | nil => simp [readLoop, beforeClose]
      | cons byte bytes =>
          have hcons : beforeClose ((byte :: bytes) :: reads) =
              (byte :: bytes) :: beforeClose reads := by simp [beforeClose]
          rw [hcons, readLoop, readLoop]
          exact ih _

theorem decoded_handleDecoded (peerAddr : SocketAddr) (c : Connection)
    (answer : Except ProtocolError Frame) :
    (handleDecoded peerAddr c answer).decoded = c.decoded ++ [answer] := by
  cases answer with
  | error e => rfl
  | ok frame => rfl

/-- Every answer of the decoder reaches the loop, in order. -/
theorem decoded_foldl_handleDecoded (peerAddr : SocketAddr) (c : Connection)
    (answers : List (Except ProtocolError Frame)) :
    (answers.foldl (handleDecoded peerAddr) c).decoded = c.decoded ++ answers := by
  induction answers generalizing c with
  | nil => simp
  | cons answer answers ih =>
      rw [List.foldl_cons, ih, decoded_handleDecoded, List.append_assoc, List.singleton_append]

/-- The frames of a connection are those of the byte stream before the close. -/
theorem handleConnection_frames (peerAddr : SocketAddr) (reads : List (List UInt8)) :
    (handleConnection peerAddr reads).1.frames =
      (frameDecoder.drain (beforeClose reads).flatten).1.filterMap Except.toOption := by
  have hloop : handleConnection peerAddr reads = handleConnection peerAddr (beforeClose reads) :=
    readLoop_beforeClose peerAddr _ reads
  rw [hloop, handleConnection_flatten peerAddr fun _ => ne_nil_of_mem_beforeClose,
    Connection.frames, decoded_foldl_handleDecoded]
  rfl

/-- **The trace of a connection**: the frames of the byte stream before the peer's close are
handled, exactly one acknowledgement is written for every decoded login and heartbeat, in frame
order, each of which decodes to the protocol number and the serial of its frame with an empty
payload; exactly one event is raised for every decoded login, heartbeat and location, in frame
order, where a heartbeat or a location carries the IMEI of the last login before it; and any
other frame changes nothing. -/
theorem handleConnection_trace (peerAddr : SocketAddr) (reads : List (List UInt8)) :
    let c := (handleConnection peerAddr reads).1
    c.frames = (frameDecoder.drain (beforeClose reads).flatten).1.filterMap Except.toOption ∧
      c.written =
        (c.frames.filter isAcknowledged).flatMap (fun f => encodeAck f.protocolNumber f.serial) ∧
      (∀ (f : Frame) (t : List UInt8), nextFrame (encodeAck f.protocolNumber f.serial ++ t) =
        (.ok (some { protocolNumber := f.protocolNumber, payload := [], serial := f.serial }),
          t)) ∧
      c.raised = eventsOf peerAddr c.frames ∧
      ∀ (state : Connection) (frame : Frame),
        ((∃ e, decodeMessage frame = .error e) ∨
          ∃ packet, decodeMessage frame = .ok (.unknown packet)) →
        handleFrame peerAddr state frame = state := by
  have h := (Connection.traced_accepted peerAddr).readLoop [] reads
  exact ⟨handleConnection_frames peerAddr reads, h.written,
    fun f t => nextFrame_encodeAck f.protocolNumber f.serial t, h.raised,
    fun state _ hframe => handleFrame_ignored peerAddr state hframe⟩

end Gt06
