/-
**Line noise before a frame.**

`next_frame` skips bytes until it finds the start marker `78 78`.  Noise without a marker in it
is skipped whole, unless its last byte is `78`: that byte and the first one of the frame are a
marker of their own, whose length byte is the second `78` of the frame, and the decoder waits for
the 125 bytes of a frame of that length.  This module proves exactly when a frame behind noise is
emitted as soon as its last byte has arrived.

Main definitions:

* `Gt06.Separable` — the noise does not end in `78`, or the frame is long enough to refute the
  marker it forms with it.

Main results:

* `Gt06.nextFrame_append_of_noise` — noise that forms no marker is skipped;
* `Gt06.mem_drain_iff_separable` — **the frame is emitted iff the noise is separable from it**;
* `Gt06.noise_answered_iff` — the same on a connection, whatever its reads, and the login that is
  answered.
-/

import Gt06Server.DecoderProgress

set_option relaxedAutoImplicit false
set_option autoImplicit false

namespace Gt06

/-! ### Skipped noise -/

/-- Noise without a marker, which does not end in the byte that the buffer begins with and that
begins a marker, is skipped. -/
theorem nextFrame_append_of_noise {n : List UInt8} (b : UInt8) (s : List UInt8)
    (hn : ¬ startBytes <:+: n) (hlast : n.getLast? ≠ some 0x78) :
    nextFrame (n ++ b :: s) = nextFrame (b :: s) := by
  induction n with
  | nil => rfl
  | cons a n ih =>
      have htail : ¬ startBytes <:+: n := fun h => hn (h.trans (List.suffix_cons a n).isInfix)
      cases n with
      | nil =>
          have ha : a ≠ 0x78 := fun h => hlast (by rw [h]; rfl)
          rw [List.singleton_append, nextFrame, if_pos (by simp [startBytes, ha])]
      | cons c n =>
          have hne : [a, c] ≠ startBytes := fun h => hn (h ▸ ⟨[], n, rfl⟩)
          rw [List.cons_append, List.cons_append, nextFrame, if_pos hne]
          exact ih htail (by simpa using hlast)

theorem buildFrame_eq_cons (frame : Frame) :
    ∃ body, buildFrame frame = 0x78 :: 0x78 :: UInt8.ofNat (frame.payload.length + 5) :: body ∧
      body.length = frame.payload.length + 7 :=
  ⟨_, rfl, by simp [stopBytes]⟩

/-- Noise that does not end in `78` is skipped, and the frame behind it emitted. -/
theorem drain_of_noise {n : List UInt8} {frame : Frame} (hn : ¬ startBytes <:+: n)
    (hlast : n.getLast? ≠ some 0x78) (h : Fits frame) :
    frameDecoder.drain (n ++ buildFrame frame) = ([.ok frame], []) := by
  obtain ⟨body, hbody, -⟩ := buildFrame_eq_cons frame
  have hnext : frameDecoder.next (n ++ buildFrame frame) =
      frameDecoder.next (buildFrame frame) := by
    rw [frameDecoder_next, frameDecoder_next, hbody, nextFrame_append_of_noise _ _ hn hlast]
  have hframe := drain_buildFrame_append h []
  rw [List.append_nil, frameDecoder.drain_of_wait frameDecoder.next_nil] at hframe
  rw [frameDecoder.drain_congr hnext, hframe]

/-! ### Noise that ends in `78` -/

/-- Of noise that ends in `78`, everything before that byte is skipped. -/
theorem drain_of_half_marker {n : List UInt8} (s : List UInt8) (hn : ¬ startBytes <:+: n)
    (hlast : n.getLast? = some 0x78) :
    frameDecoder.drain (n ++ s) = frameDecoder.drain (0x78 :: s) := by
  obtain ⟨m, rfl⟩ := List.getLast?_eq_some_iff.1 hlast
  have hm : ¬ startBytes <:+: m := fun h => hn (h.trans (List.prefix_append m _).isInfix)
  have hmlast : m.getLast? ≠ some 0x78 := by
    intro h
    obtain ⟨k, rfl⟩ := List.getLast?_eq_some_iff.1 h
    exact hn ⟨k, [], by simp [startBytes]⟩
  refine frameDecoder.drain_congr ?_
  rw [List.append_assoc, List.singleton_append, frameDecoder_next, frameDecoder_next,
    nextFrame_append_of_noise _ _ hm hmlast]

/-- The half marker before a frame is a candidate, and its length byte is the frame's second
marker byte. -/
theorem half_marker_candidate (frame : Frame) :
    IsCandidate (0x78 :: buildFrame frame) 0 ∧ lengthAt (0x78 :: buildFrame frame) 0 = 120 := by
  obtain ⟨body, hbody, -⟩ := buildFrame_eq_cons frame
  rw [hbody]
  exact ⟨rfl, rfl⟩

/-- A frame with a payload of fewer than 114 bytes leaves the decoder waiting. -/
theorem drain_half_marker_of_short {frame : Frame} (h : frame.payload.length < 114) :
    frameDecoder.drain (0x78 :: buildFrame frame) = ([], 0x78 :: buildFrame frame) := by
  obtain ⟨hcandidate, hlength⟩ := half_marker_candidate frame
  -- the candidate claims 125 bytes, and there are fewer
  have hinc : IsIncomplete (0x78 :: buildFrame frame) 0 := by
    refine Or.inr ⟨by omega, ?_⟩
    rw [List.length_cons, length_buildFrame, hlength]
    omega
  have hwait := nextFrame_drop_of_isIncomplete hcandidate hinc
  rw [List.drop_zero] at hwait
  exact frameDecoder.drain_of_wait (by rw [frameDecoder_next, hwait]; rfl)

theorem not_isIncomplete_half_marker {frame : Frame} (h : 114 ≤ frame.payload.length) :
    ¬ IsIncomplete (0x78 :: buildFrame frame) 0 := by
  obtain ⟨-, hlength⟩ := half_marker_candidate frame
  rw [IsIncomplete, List.length_cons, length_buildFrame, hlength]
  omega

/-- A longer frame refutes the half marker, unless the two spell a frame: an error, and then the
frame. -/
theorem drain_half_marker_of_refuted {frame : Frame} (hlong : 114 ≤ frame.payload.length)
    (hwf : ¬ IsWellFormed (0x78 :: buildFrame frame) 0) (h : Fits frame) :
    ∃ e, frameDecoder.drain (0x78 :: buildFrame frame) = ([.error e, .ok frame], []) := by
  obtain ⟨hcandidate, -⟩ := half_marker_candidate frame
  obtain ⟨e, he⟩ :=
    nextFrame_drop_of_not_isWellFormed hcandidate (not_isIncomplete_half_marker hlong) hwf
  rw [List.drop_zero] at he
  have hnext : frameDecoder.next (0x78 :: buildFrame frame) =
      (some (.error e), buildFrame frame ++ []) := by
    rw [frameDecoder_next, he, List.append_nil]
    rfl
  refine ⟨e, ?_⟩
  rw [frameDecoder.drain_of_output hnext, drain_buildFrame_append h,
    frameDecoder.drain_of_wait frameDecoder.next_nil]

/-- An emitted frame is no longer than the buffer it was read from. -/
theorem length_le_of_mem_drain {s : List UInt8} {f : Frame}
    (h : .ok f ∈ (frameDecoder.drain s).1) : f.payload.length + 10 ≤ s.length := by
  induction s using frameDecoder.drain_induction with
  | wait s r hnext =>
      rw [frameDecoder.drain_of_wait hnext] at h
      exact absurd h (List.not_mem_nil)
  | output s o r hnext ih =>
      have hshrinks := frameDecoder.next_shrinks hnext
      rw [frameDecoder.drain_of_output hnext] at h
      rcases List.mem_cons.1 h with rfl | hrest
      · -- the first answer: its encoding is part of what has been read
        rw [frameDecoder_next, Prod.mk.injEq] at hnext
        have hsome : (nextFrame s).1 = .ok (some f) := by
          rcases hs : (nextFrame s).1 with e | _ | g
          · simp [hs, outcome] at hnext
          · simp [hs, outcome] at hnext
          · simpa [hs, outcome] using hnext.1
        obtain ⟨-, skipped, hs, -⟩ := nextFrame_some (Prod.ext hsome hnext.2)
        rw [hs, List.length_append, List.length_append, length_buildFrame]
        omega
      · have := ih hrest
        omega

/-- The last two bytes of a frame are its stop bytes. -/
theorem getD_cons_buildFrame (frame : Frame) (b : UInt8) :
    (b :: buildFrame frame).getD (frame.payload.length + 9) 0 = 0x0D := by
  have h : b :: buildFrame frame = (b :: (buildFrame frame).take (frame.payload.length + 8)) ++
      stopBytes := by
    rw [List.cons_append, buildFrame, List.take_left' (by simp [startBytes])]
  rw [h, List.getD_append_right _ _ _ _ (by simp [length_buildFrame])]
  simp [length_buildFrame, stopBytes]

/-- A frame that the half marker swallows is not emitted. -/
theorem not_mem_drain_of_swallowed {frame : Frame}
    (hwf : IsWellFormed (0x78 :: buildFrame frame) 0) :
    .ok frame ∉ (frameDecoder.drain (0x78 :: buildFrame frame)).1 := by
  set s := 0x78 :: buildFrame frame with hs
  have hlen : s.length = frame.payload.length + 11 := by
    rw [hs, List.length_cons, length_buildFrame]
  have hlength : lengthAt s 0 = 120 := (half_marker_candidate frame).2
  have hcomplete := hwf.complete
  have hwire := nextFrame_drop_of_isWellFormed hwf
  rw [List.drop_zero] at hwire
  have hnext : frameDecoder.next s =
      (some (.ok (frameAt s 0)), s.drop (0 + (lengthAt s 0 + 5))) := by
    rw [frameDecoder_next, hwire]
    rfl
  rw [frameDecoder.drain_of_output hnext]
  intro hmem
  rcases List.mem_cons.1 hmem with heq | hrest
  · -- of the same length as the swallowing one, the frame has its stop bytes one byte later
    have hpayload : frame.payload.length = 115 := by
      have := hwf.length_payload
      rw [← (Except.ok.inj heq), hlength] at this
      omega
    have hstop := hwf.stop
    rw [hlength, Nat.zero_add, Nat.zero_add,
      ← slice_append_slice s (by omega : 123 ≤ 124) (by omega : 124 ≤ 125),
      slice_one s (by omega), slice_one s (by omega)] at hstop
    have hlast := getD_cons_buildFrame frame 0x78
    rw [hpayload, ← hs] at hlast
    rw [hlast] at hstop
    simp [stopBytes] at hstop
  · -- what is left behind the swallowing frame is too short for it
    have := length_le_of_mem_drain hrest
    rw [List.length_drop, hlen, hlength] at this
    rw [hlen, hlength] at hcomplete
    omega

/-! ### When a frame behind noise is emitted -/

/-- The noise does not end in `78`; or the frame is long enough to complete the candidate that
this byte forms with its own marker, and the candidate is not a frame. -/
def Separable (n : List UInt8) (frame : Frame) : Prop :=
  n.getLast? ≠ some 0x78 ∨
    114 ≤ frame.payload.length ∧ ¬ IsWellFormed (0x78 :: buildFrame frame) 0

instance (n : List UInt8) (frame : Frame) : Decidable (Separable n frame) :=
  inferInstanceAs (Decidable (_ ∨ _))

/-- Behind noise that is separable from it, a frame is the last thing emitted, after errors only,
and nothing is left. -/
theorem drain_of_separable {n : List UInt8} {frame : Frame} (hn : ¬ startBytes <:+: n)
    (hfits : Fits frame) (h : Separable n frame) :
    ∃ errors : List ProtocolError,
      frameDecoder.drain (n ++ buildFrame frame) = (errors.map .error ++ [.ok frame], []) := by
  by_cases hlast : n.getLast? = some 0x78
  · rcases h with hne | ⟨hlong, hwf⟩
    · exact absurd hlast hne
    · obtain ⟨e, he⟩ := drain_half_marker_of_refuted hlong hwf hfits
      exact ⟨[e], by rw [drain_of_half_marker _ hn hlast, he]; rfl⟩
  · exact ⟨[], drain_of_noise hn hlast hfits⟩

/-- **A frame behind noise is emitted iff the noise is separable from it.** -/
theorem mem_drain_iff_separable {n : List UInt8} {frame : Frame} (hn : ¬ startBytes <:+: n)
    (hfits : Fits frame) :
    .ok frame ∈ (frameDecoder.drain (n ++ buildFrame frame)).1 ↔ Separable n frame := by
  constructor
  · intro hmem
    by_contra h
    rw [Separable, not_or, not_not, not_and, not_not] at h
    obtain ⟨hlast, hswallowed⟩ := h
    rw [drain_of_half_marker _ hn hlast] at hmem
    -- a long frame is swallowed by the candidate, a short one makes it wait
    by_cases hlong : 114 ≤ frame.payload.length
    · exact not_mem_drain_of_swallowed (hswallowed hlong) hmem
    · rw [drain_half_marker_of_short (by omega)] at hmem
      exact absurd hmem List.not_mem_nil
  · intro h
    obtain ⟨errors, herrors⟩ := drain_of_separable hn hfits h
    rw [herrors]
    exact List.mem_append_right _ (List.mem_singleton_self _)

/-! ### On a connection -/

/-- The frames of a connection are those of its drained byte stream. -/
theorem mem_frames_handleConnection (peerAddr : SocketAddr) {reads : List (List UInt8)}
    (h : ∀ read ∈ reads, read ≠ []) (f : Frame) :
    f ∈ (handleConnection peerAddr reads).1.frames ↔
      .ok f ∈ (frameDecoder.drain reads.flatten).1 := by
  rw [handleConnection_flatten peerAddr h, Connection.frames, decoded_foldl_handleDecoded]
  simp only [Connection.accepted, List.nil_append, List.mem_filterMap]
  constructor
  · rintro ⟨answer, hmem, hf⟩
    cases answer with
    | error e => simp [Except.toOption] at hf
    | ok g =>
        simp only [Except.toOption, Option.some.injEq] at hf
        rwa [← hf]
  · exact fun hmem => ⟨_, hmem, rfl⟩

theorem foldl_handleDecoded_errors (peerAddr : SocketAddr) (c : Connection)
    (errors : List ProtocolError) :
    ((errors.map .error).foldl (handleDecoded peerAddr) c).written = c.written := by
  induction errors generalizing c with
  | nil => rfl
  | cons e errors ih =>
      rw [List.map_cons, List.foldl_cons, ih]
      rfl

/-- A login behind noise that is separable from it is answered, and nothing else is. -/
theorem written_of_separable (peerAddr : SocketAddr) {n : List UInt8} {frame : Frame}
    {packet : LoginPacket} {reads : List (List UInt8)} (hn : ¬ startBytes <:+: n)
    (hfits : Fits frame) (hreads : ∀ read ∈ reads, read ≠ [])
    (hflatten : reads.flatten = n ++ buildFrame frame)
    (hlogin : decodeMessage frame = .ok (.login packet)) (h : Separable n frame) :
    (handleConnection peerAddr reads).1.written = encodeAck protocolLogin frame.serial := by
  obtain ⟨errors, herrors⟩ := drain_of_separable hn hfits h
  rw [handleConnection_flatten peerAddr hreads, hflatten, herrors, List.foldl_append]
  simp only [List.foldl_cons, List.foldl_nil, handleDecoded, handleFrame, hlogin,
    foldl_handleDecoded_errors, Connection.accepted, List.nil_append]

/-- **A frame behind noise is emitted at once iff the noise is separable from it**: draining the
noise and the frame emits the frame exactly then; so does a connection, however the bytes are cut
into reads; and a login is then answered. -/
theorem noise_answered_iff (n : List UInt8) (frame : Frame) (hn : ¬ startBytes <:+: n)
    (hfits : frame.payload.length ≤ 250) :
    (.ok frame ∈ (frameDecoder.drain (n ++ buildFrame frame)).1 ↔ Separable n frame) ∧
      ∀ (peerAddr : SocketAddr) (reads : List (List UInt8)), (∀ read ∈ reads, read ≠ []) →
        reads.flatten = n ++ buildFrame frame →
          (frame ∈ (handleConnection peerAddr reads).1.frames ↔ Separable n frame) ∧
          ∀ packet, decodeMessage frame = .ok (.login packet) → Separable n frame →
            (handleConnection peerAddr reads).1.written =
              encodeAck protocolLogin frame.serial := by
  refine ⟨mem_drain_iff_separable hn hfits, fun peerAddr reads hreads hflatten => ⟨?_, ?_⟩⟩
  · rw [mem_frames_handleConnection peerAddr hreads, hflatten]
    exact mem_drain_iff_separable hn hfits
  · exact fun packet hlogin h =>
      written_of_separable peerAddr hn hfits hreads hflatten hlogin h

/-- The login of the terminal `123456789012345`. -/
def someLogin : Frame where
  protocolNumber := protocolLogin
  payload := [0x01, 0x23, 0x45, 0x67, 0x89, 0x01, 0x23, 0x45]
  serial := 1

/-- The login behind two bytes of noise, in two reads. -/
theorem noise_answered_iff_someLogin :
    (.ok someLogin ∈ (frameDecoder.drain ([0x0D, 0xFF] ++ buildFrame someLogin)).1 ↔
        Separable [0x0D, 0xFF] someLogin) ∧
      (handleConnection "peer" [[0x0D, 0xFF], buildFrame someLogin]).1.written =
        encodeAck protocolLogin 1 := by
  have h := noise_answered_iff [0x0D, 0xFF] someLogin (by decide) (by decide)
  exact ⟨h.1, (h.2 "peer" [[0x0D, 0xFF], buildFrame someLogin] (by decide) (by simp)).2
    { imei := "123456789012345", extraData := [] } (by decide +kernel) (Or.inl (by decide))⟩

/-- One byte of noise, `78`, keeps a login unanswered once all its bytes have arrived. -/
theorem half_marker_stalls_login :
    ¬ (∀ (n : List UInt8) (frame : Frame), ¬ startBytes <:+: n → frame.payload.length ≤ 250 →
        .ok frame ∈ (frameDecoder.drain (n ++ buildFrame frame)).1) ∧
      (handleConnection "peer" [[0x78] ++ buildFrame someLogin]).1.written = [] := by
  have hdrain : frameDecoder.drain ([0x78] ++ buildFrame someLogin) =
      ([], [0x78] ++ buildFrame someLogin) :=
    drain_half_marker_of_short (by decide)
  constructor
  · intro h
    have hmem := h [0x78] someLogin (by decide) (by decide)
    rw [hdrain] at hmem
    exact absurd hmem List.not_mem_nil
  · rw [handleConnection_flatten "peer" (by decide), List.flatten_singleton, hdrain]
    rfl

end Gt06
