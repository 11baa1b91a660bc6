/-
**The decoder is safe and makes progress.**

The length byte of a candidate comes from the peer, and every slice bound of `next_frame` is
computed from it.  `Gt06.nextFrameChecked` is the function written out with the checks that the
language makes at run time: a subtraction below zero, an index or a slice outside the buffer and
an advance past its end have no value.  No buffer reaches one of them.  Every answer other than a
request for more input costs at least one byte, and a request leaves less than one whole frame.

Main definitions:

* `Gt06.nextFrameChecked` — `FrameDecoder::next_frame` with its run-time checks;
* `Gt06.afterCall` — the buffer that a call leaves.

Main results:

* `Gt06.nextFrameChecked_eq` — no check fails;
* `Gt06.nextFrame_kept_length` — a request for more input keeps at most 259 bytes;
* `Gt06.exists_calls_wait` — the inner loop of a connection ends;
* `Gt06.handleConnection_buffer_length` — a connection keeps at most 259 bytes between two reads;
* `Gt06.decoder_safe` — **safety and progress**, for every buffer and every stream.
-/

import Gt06Server.Server
import Gt06Server.FrameRoundTrip

set_option relaxedAutoImplicit false
set_option autoImplicit false

namespace Gt06

/-! ### The checked operations -/

/-- `a - b` on `usize`. -/
def checkedSub (a b : ℕ) : Option ℕ := if b ≤ a then some (a - b) else none

/-- `buffer[i..j]`. -/
def checkedSlice (buffer : List UInt8) (i j : ℕ) : Option (List UInt8) :=
  if i ≤ j ∧ j ≤ buffer.length then some (slice buffer i j) else none

/-- `buffer.advance(n)`, and what `split_to(n)` leaves. -/
def checkedAdvance (buffer : List UInt8) (n : ℕ) : Option (List UInt8) :=
  if n ≤ buffer.length then some (buffer.drop n) else none

@[simp] theorem checkedSub_of_le {a b : ℕ} (h : b ≤ a) : checkedSub a b = some (a - b) := if_pos h

@[simp] theorem checkedSlice_of_le {buffer : List UInt8} {i j : ℕ} (hij : i ≤ j)
    (hj : j ≤ buffer.length) : checkedSlice buffer i j = some (slice buffer i j) :=
  if_pos ⟨hij, hj⟩

@[simp] theorem checkedAdvance_of_le {buffer : List UInt8} {n : ℕ} (h : n ≤ buffer.length) :
    checkedAdvance buffer n = some (buffer.drop n) := if_pos h

/-! ### The checked decoder -/

/-- The body of `FrameDecoder::next_frame` at a start marker, with its run-time checks. -/
def frameAtMarkerChecked (buffer : List UInt8) :
    Option (Except ProtocolError (Option Frame) × List UInt8) :=
  if buffer.length < 5 then some (.ok none, buffer)
  else do
    let length := (← buffer[2]?).toNat
    if length < 5 then
      return (.error (.invalidLength length), ← checkedAdvance buffer 1)
    let totalFrameLen := length + 5
    if buffer.length < totalFrameLen then return (.ok none, buffer)
    let stop ← checkedSlice buffer (← checkedSub totalFrameLen 2) totalFrameLen
    if stop ≠ stopBytes then
      return (.error .invalidStopBytes, ← checkedAdvance buffer 1)
    let crcIndex ← checkedSub totalFrameLen 4
    let calculatedCrc := crc16X25 (← checkedSlice buffer 2 crcIndex)
    let reportedCrc := u16FromBeBytes (← buffer[crcIndex]?) (← buffer[crcIndex + 1]?)
    if calculatedCrc ≠ reportedCrc then
      return (.error .checksumMismatch, ← checkedAdvance buffer 1)
    let frameBytes ← checkedSlice buffer 0 totalFrameLen
    let buffer ← checkedAdvance buffer totalFrameLen
    let protocolNumber ← frameBytes[3]?
    let payloadLen ← checkedSub length 5
    let payloadStart := 4
    let payloadEnd := payloadStart + payloadLen
    let payload ← checkedSlice frameBytes payloadStart payloadEnd
    let serial := u16FromBeBytes (← frameBytes[payloadEnd]?) (← frameBytes[payloadEnd + 1]?)
    return (.ok (some ⟨protocolNumber, payload, serial⟩), buffer)

/-- `FrameDecoder::next_frame`, with its run-time checks. -/
def nextFrameChecked : List UInt8 → Option (Except ProtocolError (Option Frame) × List UInt8)
  | [] => some (.ok none, [])
  | [b] => some (.ok none, [b])
  | b₀ :: b₁ :: rest =>
      if [b₀, b₁] ≠ startBytes then nextFrameChecked (b₁ :: rest)
      else frameAtMarkerChecked (b₀ :: b₁ :: rest)

/-- The bytes of a frame are indexed as they were in the buffer it is split from. -/
theorem getElem?_slice_zero {s : List UInt8} {i j : ℕ} (h : i < j) :
    (slice s 0 j)[i]? = s[i]? := by
  rw [slice, List.drop_zero, Nat.sub_zero, List.getElem?_take_of_lt h]

theorem slice_slice_zero {s : List UInt8} {i j k : ℕ} (hij : i ≤ j) (hjk : j ≤ k) :
    slice (slice s 0 k) i j = slice s i j := by
  rw [slice, slice, slice, List.drop_zero, Nat.sub_zero, List.drop_take, List.take_take,
    Nat.min_eq_left (by omega)]

theorem getElem?_eq_some_getD {s : List UInt8} {i : ℕ} (h : i < s.length) :
    s[i]? = some (s.getD i 0) := by
  rw [List.getElem?_eq_getElem h, List.getD_eq_getElem _ _ h]

/-- No check at a start marker fails. -/
theorem frameAtMarkerChecked_eq (buffer : List UInt8) :
    frameAtMarkerChecked buffer = some (frameAtMarker buffer) := by
  rw [frameAtMarker_eq]
  unfold frameAtMarkerChecked
  by_cases h5 : buffer.length < 5
  · rw [if_pos h5, if_pos h5]
  · have h2 : (buffer.getD 2 0).toNat = lengthAt buffer 0 := rfl
    rw [if_neg h5, if_neg h5, getElem?_eq_some_getD (by omega : 2 < buffer.length)]
    simp only [Option.bind_eq_bind, Option.bind_some, Option.pure_def, h2]
    by_cases hlength : lengthAt buffer 0 < 5
    · rw [if_pos hlength, if_pos hlength, checkedAdvance_of_le (by omega), Option.bind_some]
    · rw [if_neg hlength, if_neg hlength]
      by_cases htotal : buffer.length < lengthAt buffer 0 + 5
      · rw [if_pos htotal, if_pos htotal]
      · -- from here on every bound lies inside the frame, and the frame inside the buffer
        rw [if_neg htotal, if_neg htotal, checkedSub_of_le (by omega), Option.bind_some,
          checkedSlice_of_le (by omega) (by omega), Option.bind_some,
          show lengthAt buffer 0 + 5 - 2 = lengthAt buffer 0 + 3 by omega]
        by_cases hstop : slice buffer (lengthAt buffer 0 + 3) (lengthAt buffer 0 + 5) ≠ stopBytes
        · rw [if_pos hstop, if_pos hstop, checkedAdvance_of_le (by omega), Option.bind_some]
        · rw [if_neg hstop, if_neg hstop, checkedSub_of_le (by omega), Option.bind_some,
            show lengthAt buffer 0 + 5 - 4 = lengthAt buffer 0 + 1 by omega,
            checkedSlice_of_le (by omega) (by omega), Option.bind_some,
            getElem?_eq_some_getD (by omega), Option.bind_some,
            getElem?_eq_some_getD (by omega), Option.bind_some]
          split_ifs with hcrc
          · rw [checkedAdvance_of_le (by omega), Option.bind_some]
          · rw [checkedSlice_of_le (by omega) (by omega), Option.bind_some,
              checkedAdvance_of_le (by omega), Option.bind_some,
              getElem?_slice_zero (by omega), getElem?_eq_some_getD (by omega), Option.bind_some,
              checkedSub_of_le (by omega), Option.bind_some,
              checkedSlice_of_le (by omega) (by rw [length_slice]; omega), Option.bind_some,
              slice_slice_zero (by omega) (by omega),
              getElem?_slice_zero (by omega), getElem?_eq_some_getD (by omega), Option.bind_some,
              getElem?_slice_zero (by omega), getElem?_eq_some_getD (by omega), Option.bind_some,
              show 4 + (lengthAt buffer 0 - 5) = lengthAt buffer 0 - 1 by omega,
              show lengthAt buffer 0 - 1 + 1 = lengthAt buffer 0 by omega]
            simp only [frameAt, Nat.zero_add]

/-- No check of `next_frame` fails. -/
theorem nextFrameChecked_eq (buffer : List UInt8) :
    nextFrameChecked buffer = some (nextFrame buffer) := by
  induction buffer using nextFrame.induct with
  | case1 => rfl
  | case2 b => rfl
  | case3 b₀ b₁ rest hne ih => rw [nextFrameChecked, nextFrame, if_pos hne, if_pos hne, ih]
  | case4 b₀ b₁ rest hne =>
      rw [nextFrameChecked, nextFrame, if_neg hne, if_neg hne, frameAtMarkerChecked_eq]

/-! ### What a request for more input keeps -/

theorem frameAtMarker_kept_length {b r : List UInt8} (h : frameAtMarker b = (.ok none, r)) :
    r.length ≤ 259 := by
  have hlt := lengthAt_lt b 0
  rw [frameAtMarker_eq] at h
  split_ifs at h with h5 hL htotal
  all_goals simp only [Prod.mk.injEq, reduceCtorEq, false_and, Except.ok.injEq, true_and] at h
  · rw [← h]; omega
  · rw [← h]; omega

/-- A request for more input keeps less than one whole frame. -/
theorem nextFrame_kept_length {s r : List UInt8} (h : nextFrame s = (.ok none, r)) :
    r.length ≤ 259 := by
  induction s using nextFrame.induct with
  | case1 =>
      simp only [nextFrame, Prod.mk.injEq, true_and] at h
      simp [← h]
  | case2 b =>
      simp only [nextFrame, Prod.mk.injEq, true_and] at h
      simp [← h]
  | case3 b₀ b₁ rest hne ih =>
      rw [nextFrame, if_pos hne] at h
      exact ih h
  | case4 b₀ b₁ rest hne =>
      rw [nextFrame, if_neg hne] at h
      exact frameAtMarker_kept_length h

/-! ### The inner loop of a connection ends -/

/-- The buffer that a call leaves. -/
def afterCall (s : List UInt8) : List UInt8 := (nextFrame s).2

/-- A call that does not ask for more input had at least five bytes. -/
theorem five_le_of_answer {s : List UInt8} (h : (nextFrame s).1 ≠ .ok none) : 5 ≤ s.length := by
  induction s using nextFrame.induct with
  | case1 => exact absurd rfl h
  | case2 b => exact absurd rfl h
  | case3 b₀ b₁ rest hne ih =>
      rw [nextFrame, if_pos hne] at h
      exact (ih h).trans (Nat.le_succ _)
  | case4 b₀ b₁ rest hne =>
      rw [nextFrame, if_neg hne, frameAtMarker_eq] at h
      by_contra h5
      rw [if_pos (by omega)] at h
      exact h rfl

/-- After some calls that each answer with a frame or an error, fewer than there are bytes, the
decoder asks for more input. -/
theorem exists_calls_wait (s : List UInt8) :
    ∃ k, k ≤ s.length - 4 ∧ (∀ j < k, (nextFrame (afterCall^[j] s)).1 ≠ .ok none) ∧
      (nextFrame (afterCall^[k] s)).1 = .ok none := by
  induction hn : s.length using Nat.strong_induction_on generalizing s with
  | _ n ih =>
      -- on the length of the buffer: a call that answers leaves a shorter one
      by_cases hwait : (nextFrame s).1 = .ok none
      · exact ⟨0, Nat.zero_le _, fun j hj => absurd hj (Nat.not_lt_zero j), hwait⟩
      · have hshrink : (afterCall s).length < s.length := nextFrame_shrinks (Prod.ext rfl rfl) hwait
        have h5 := five_le_of_answer hwait
        obtain ⟨k, hk, hanswers, hend⟩ := ih _ (hn ▸ hshrink) (afterCall s) rfl
        refine ⟨k + 1, by omega, fun j hj => ?_, hend⟩
        cases j with
        | zero => exact hwait
        | succ j => exact hanswers j (Nat.lt_of_succ_lt_succ hj)

/-! ### What a connection keeps between two reads -/

theorem drain_kept_length (s : List UInt8) : (frameDecoder.drain s).2.length ≤ 259 := by
  have h := frameDecoder.next_drain s
  rw [frameDecoder_next, Prod.mk.injEq, outcome_eq_none] at h
  exact nextFrame_kept_length (Prod.ext h.1 h.2)

theorem readLoop_buffer_length (peerAddr : SocketAddr) {state : Connection × List UInt8}
    (h : state.2.length ≤ 259) (reads : List (List UInt8)) :
    (readLoop peerAddr state reads).2.length ≤ 259 := by
  induction reads generalizing state with
  | nil => exact h
  | cons read reads ih =>
      obtain ⟨c, buffer⟩ := state
      cases read with
      | nil => exact h -- the peer has closed the connection
      | cons byte bytes =>
          rw [readLoop, frameDecoder.consume_eq]
          exact ih (drain_kept_length _)

/-- A connection keeps less than one whole frame between two reads. -/
theorem handleConnection_buffer_length (peerAddr : SocketAddr) (reads : List (List UInt8)) :
    (handleConnection peerAddr reads).2.length ≤ 259 :=
  readLoop_buffer_length peerAddr (Nat.zero_le _) reads

/-- **Safety and progress**: on every buffer no run-time check of `next_frame` fails; a call that
answers with an error or a frame leaves a strictly shorter buffer, so the calls of the inner loop
reach a request for more input after at most as many as there are bytes; a request keeps a suffix
of at most 259 bytes; and so does a connection between two reads, whatever it has read. -/
theorem decoder_safe (s : List UInt8) :
    nextFrameChecked s = some (nextFrame s) ∧
      ((nextFrame s).1 ≠ .ok none → (nextFrame s).2.length < s.length) ∧
      (∃ k ≤ s.length, (∀ j < k, (nextFrame (afterCall^[j] s)).1 ≠ .ok none) ∧
        (nextFrame (afterCall^[k] s)).1 = .ok none ∧ (s ≠ [] → k + 1 ≤ s.length)) ∧
      ((nextFrame s).1 = .ok none → (nextFrame s).2 <:+ s ∧ (nextFrame s).2.length ≤ 259) ∧
      ∀ (peerAddr : SocketAddr) (reads : List (List UInt8)),
        (handleConnection peerAddr reads).2.length ≤ 259 := by
  refine ⟨nextFrameChecked_eq s, nextFrame_shrinks (Prod.ext rfl rfl), ?_, fun h => ?_,
    handleConnection_buffer_length⟩
  · obtain ⟨k, hk, hanswers, hend⟩ := exists_calls_wait s
    refine ⟨k, by omega, hanswers, hend, fun hs => ?_⟩
    have hpos := List.length_pos_iff.2 hs
    omega
  · exact ⟨nextFrame_suffix s, nextFrame_kept_length (Prod.ext h rfl)⟩

end Gt06
