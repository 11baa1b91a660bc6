/-
**The frame round trip, in both directions.**

`buildFrame` writes a frame and `nextFrame` reads one, each with its own offsets for the length,
the checksum, the serial and the stop bytes.  This module proves that they agree: what is written
is read back and nothing after it is touched, so a concatenation of frames decodes to the list of
them; and what is read was written, so the bytes that a successful call removes are some skipped
ones followed by exactly the encoding of the frame it answers.

Main definitions:

* `Gt06.Fits` — a payload fits its length byte.

Main results:

* `Gt06.drop_of_isWellFormed` — a well-formed position holds the encoding of its frame;
* `Gt06.nextFrame_some` — **what is read was written**;
* `Gt06.drain_flatMap_buildFrame` — a concatenation of frames decodes to them;
* `Gt06.frame_round_trip` — **both directions**.
-/

import Gt06Server.Framing

set_option relaxedAutoImplicit false
set_option autoImplicit false

namespace Gt06

/-! ### Slices -/

theorem drop_eq_slice_append (s : List UInt8) {i j : ℕ} (h : i ≤ j) :
    s.drop i = slice s i j ++ s.drop j := by
  conv_lhs => rw [← List.take_append_drop (j - i) (s.drop i)]
  rw [slice, List.drop_drop, Nat.add_sub_cancel' h]

theorem slice_append_slice (s : List UInt8) {i j k : ℕ} (hij : i ≤ j) (hjk : j ≤ k) :
    slice s i j ++ slice s j k = slice s i k := by
  have h : (s.drop i).take (j - i + (k - j)) = _ := List.take_add
  rw [List.drop_drop, Nat.add_sub_cancel' hij,
    show j - i + (k - j) = k - i by omega] at h
  exact h.symm

theorem slice_one (s : List UInt8) {i : ℕ} (h : i < s.length) :
    slice s i (i + 1) = [s.getD i 0] := by
  rw [slice, List.drop_eq_getElem_cons h, Nat.add_sub_cancel_left, List.getD_eq_getElem _ _ h]
  rfl

/-! ### What can be written -/

/-- A payload fits the length byte of its frame. -/
def Fits (frame : Frame) : Prop := frame.payload.length ≤ 250

instance (frame : Frame) : Decidable (Fits frame) := inferInstanceAs (Decidable (_ ≤ _))

theorem length_buildFrame (frame : Frame) :
    (buildFrame frame).length = frame.payload.length + 10 := by
  simp [buildFrame, startBytes, stopBytes]

/-- The payload of the frame at a well-formed position fits its length byte. -/
theorem IsWellFormed.length_payload {s : List UInt8} {i : ℕ} (h : IsWellFormed s i) :
    (frameAt s i).payload.length + 5 = lengthAt s i := by
  have hL := h.length
  have hcomplete := h.complete
  rw [frameAt, length_slice]
  omega

theorem lengthAt_lt (s : List UInt8) (i : ℕ) : lengthAt s i < 256 :=
  (s.getD (i + 2) 0).toNat_lt

theorem IsWellFormed.fits {s : List UInt8} {i : ℕ} (h : IsWellFormed s i) : Fits (frameAt s i) := by
  have hlen := h.length_payload
  have hlt := lengthAt_lt s i
  rw [Fits]
  omega

/-- The checksummed bytes at a well-formed position are those of the frame there. -/
theorem IsWellFormed.slice_body {s : List UInt8} {i : ℕ} (h : IsWellFormed s i) :
    slice s (i + 2) (i + (lengthAt s i + 1)) =
      [UInt8.ofNat ((frameAt s i).payload.length + 5), (frameAt s i).protocolNumber] ++
        (frameAt s i).payload ++ u16ToBeBytes (frameAt s i).serial := by
  have hL := h.length
  have hcomplete := h.complete
  have hlength : slice s (i + 2) (i + 3) = [UInt8.ofNat (lengthAt s i)] := by
    rw [slice_one s (by omega), lengthAt, UInt8.ofNat_toNat]
  have hprotocol : slice s (i + 3) (i + 4) = [s.getD (i + 3) 0] := slice_one s (by omega)
  have hserial : slice s (i + (lengthAt s i - 1)) (i + (lengthAt s i + 1)) =
      u16ToBeBytes (frameAt s i).serial := by
    have hs := (u16FromBeBytes_eq_iff (by omega : i + (lengthAt s i - 1) + 2 ≤ s.length)
      (frameAt s i).serial).1
    rw [show i + (lengthAt s i - 1) + 1 = i + lengthAt s i by omega,
      show i + (lengthAt s i - 1) + 2 = i + (lengthAt s i + 1) by omega] at hs
    exact hs rfl
  -- length, protocol, payload and serial are consecutive slices
  rw [h.length_payload,
    ← slice_append_slice s (by omega : i + 2 ≤ i + 3) (by omega : i + 3 ≤ i + (lengthAt s i + 1)),
    ← slice_append_slice s (by omega : i + 3 ≤ i + 4) (by omega : i + 4 ≤ i + (lengthAt s i + 1)),
    ← slice_append_slice s (by omega : i + 4 ≤ i + (lengthAt s i - 1))
      (by omega : i + (lengthAt s i - 1) ≤ i + (lengthAt s i + 1)), hlength, hprotocol, hserial]
  simp [frameAt]

/-- A well-formed position holds the encoding of its frame. -/
theorem drop_of_isWellFormed {s : List UInt8} {i : ℕ} (h : IsWellFormed s i) :
    s.drop i = buildFrame (frameAt s i) ++ s.drop (i + (lengthAt s i + 5)) := by
  have hL := h.length
  rw [drop_eq_slice_append s (by omega : i ≤ i + (lengthAt s i + 5)), buildFrame, ← h.slice_body,
    ← slice_append_slice s (by omega : i ≤ i + 2) (by omega : i + 2 ≤ i + (lengthAt s i + 5)),
    ← slice_append_slice s (by omega : i + 2 ≤ i + (lengthAt s i + 1))
      (by omega : i + (lengthAt s i + 1) ≤ i + (lengthAt s i + 5)),
    ← slice_append_slice s (by omega : i + (lengthAt s i + 1) ≤ i + (lengthAt s i + 3))
      (by omega : i + (lengthAt s i + 3) ≤ i + (lengthAt s i + 5)), h.stop, h.checksum,
    show slice s i (i + 2) = startBytes from h.candidate]
  simp only [List.append_assoc]

/-! ### What is read was written -/

theorem isCandidate_cons_succ (b : UInt8) (s : List UInt8) (i : ℕ) :
    IsCandidate (b :: s) (i + 1) ↔ IsCandidate s i := by
  rw [IsCandidate, IsCandidate, slice, slice, List.drop_succ_cons]
  simp

/-- A marker at the head of a buffer is a candidate there. -/
theorem isCandidate_marker (rest : List UInt8) : IsCandidate (0x78 :: 0x78 :: rest) 0 := rfl

/-- What the decoder reads at a marker is the encoding of what it answers. -/
theorem frameAtMarker_some {rest r : List UInt8} {f : Frame}
    (h : frameAtMarker (0x78 :: 0x78 :: rest) = (.ok (some f), r)) :
    Fits f ∧ 0x78 :: 0x78 :: rest = buildFrame f ++ r := by
  set s := 0x78 :: 0x78 :: rest with hs
  have hcandidate : IsCandidate s 0 := isCandidate_marker rest
  have hnext : nextFrame (s.drop 0) = (.ok (some f), r) := by
    rw [nextFrame_drop_of_isCandidate hcandidate]
    exact h
  -- of the three answers at a marker only a well-formed position gives a frame
  by_cases hinc : IsIncomplete s 0
  · rw [nextFrame_drop_of_isIncomplete hcandidate hinc] at hnext
    simp at hnext
  · by_cases hwf : IsWellFormed s 0
    · rw [nextFrame_drop_of_isWellFormed hwf] at hnext
      simp only [Prod.mk.injEq, Except.ok.injEq, Option.some.injEq] at hnext
      obtain ⟨rfl, rfl⟩ := hnext
      exact ⟨hwf.fits, drop_of_isWellFormed hwf⟩
    · obtain ⟨e, he⟩ := nextFrame_drop_of_not_isWellFormed hcandidate hinc hwf
      rw [he] at hnext
      simp at hnext

/-- **What is read was written**: the bytes that a successful call removes are some at which no
start marker stands, followed by the encoding of the frame it answers. -/
theorem nextFrame_some {s r : List UInt8} {f : Frame} (h : nextFrame s = (.ok (some f), r)) :
    Fits f ∧ ∃ skipped, s = skipped ++ buildFrame f ++ r ∧
      ∀ i < skipped.length, ¬ IsCandidate s i := by
  induction s using nextFrame.induct with
  | case1 => simp [nextFrame] at h
  | case2 b => simp [nextFrame] at h
  | case3 b₀ b₁ rest hne ih =>
      rw [nextFrame, if_pos hne] at h
      obtain ⟨hfits, skipped, hs, hfree⟩ := ih h
      refine ⟨hfits, b₀ :: skipped, by rw [hs]; rfl, fun i hi => ?_⟩
      cases i with
      | zero => exact hne
      | succ i =>
          rw [isCandidate_cons_succ]
          exact hfree i (Nat.lt_of_succ_lt_succ hi)
  | case4 b₀ b₁ rest hne =>
      rw [nextFrame, if_neg hne] at h
      obtain ⟨rfl, rfl⟩ : b₀ = 0x78 ∧ b₁ = 0x78 := by simpa [startBytes] using hne
      obtain ⟨hfits, hs⟩ := frameAtMarker_some h
      exact ⟨hfits, [], hs, fun i hi => absurd hi (Nat.not_lt_zero i)⟩

/-! ### What is written is read -/

theorem frameDecoder_buildFrame {frame : Frame} (h : Fits frame) (t : List UInt8) :
    frameDecoder.next (buildFrame frame ++ t) = (some (.ok frame), t) := by
  rw [frameDecoder_next, nextFrame_buildFrame h]
  rfl

/-- Draining a buffer that begins with a frame emits it first. -/
theorem drain_buildFrame_append {frame : Frame} (h : Fits frame) (t : List UInt8) :
    frameDecoder.drain (buildFrame frame ++ t) =
      (.ok frame :: (frameDecoder.drain t).1, (frameDecoder.drain t).2) :=
  frameDecoder.drain_of_output (frameDecoder_buildFrame h t)

/-- A concatenation of frames decodes to the list of them, and nothing is left. -/
theorem drain_flatMap_buildFrame {frames : List Frame} (h : ∀ f ∈ frames, Fits f) :
    frameDecoder.drain (frames.flatMap buildFrame) = (frames.map .ok, []) := by
  induction frames with
  | nil => exact frameDecoder.drain_of_wait frameDecoder.next_nil
  | cons f frames ih =>
      rw [List.flatMap_cons, drain_buildFrame_append (h f (List.mem_cons_self ..)),
        ih fun g hg => h g (List.mem_cons_of_mem _ hg)]
      rfl

/-- **The round trip, in both directions**: a frame whose payload fits its length byte is read
back as it was written, whatever follows it; an acknowledgement is such a frame; a concatenation
of such frames decodes to the list of them with nothing left; and the bytes that a successful call
removes are a skipped prefix followed by exactly the encoding of the frame. -/
theorem frame_round_trip :
    (∀ (protocolNumber : UInt8) (serial : UInt16) (payload t : List UInt8),
      payload.length ≤ 250 →
        nextFrame (buildFrame ⟨protocolNumber, payload, serial⟩ ++ t) =
          (.ok (some ⟨protocolNumber, payload, serial⟩), t)) ∧
      (∀ protocolNumber serial,
        encodeAck protocolNumber serial = buildFrame ⟨protocolNumber, [], serial⟩) ∧
      (∀ frames : List Frame, (∀ f ∈ frames, f.payload.length ≤ 250) →
        frameDecoder.drain (frames.flatMap buildFrame) = (frames.map .ok, [])) ∧
      ∀ (s r : List UInt8) (f : Frame), nextFrame s = (.ok (some f), r) →
        f.payload.length ≤ 250 ∧ ∃ skipped, s = skipped ++ buildFrame f ++ r := by
  refine ⟨fun p serial payload t h => ?_, encodeAck_eq_buildFrame, fun frames h => ?_,
    fun s r f h => ?_⟩
  · exact @nextFrame_buildFrame ⟨p, payload, serial⟩ h t
  · exact drain_flatMap_buildFrame h
  · obtain ⟨hfits, skipped, hs, -⟩ := nextFrame_some h
    exact ⟨hfits, skipped, hs⟩

end Gt06
