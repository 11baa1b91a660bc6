/-
**Framing: the drained decoder is the leftmost scan.**

`FrameDecoder::next_frame` recovers from garbage and from corrupted frames by dropping one byte
and trying again, while frames that are merely unfinished make it wait.  This module proves what
that policy amounts to on a whole byte string.

The specification `Gt06.scan` does not mention a buffer: it walks over the positions of the
string, takes a well-formed frame where it finds one and moves on by one byte otherwise, and it
stops at the first candidate whose end has not arrived.

Main definitions:

* `Gt06.IsCandidate`, `Gt06.IsIncomplete`, `Gt06.IsWellFormed` — what can stand at a position;
* `Gt06.scan` — the leftmost scan, with the position at which it stops;
* `Gt06.frameDecoder` — `nextFrame` as a resumable decoder.

Main results:

* `Gt06.frameAtMarker_eq` — the decoder's body as a function of the fields at the marker;
* `Gt06.drain_eq_scan` — **draining is scanning**, and no well-formed frame before the stop that
  does not overlap an emitted one is lost.
-/

import Gt06Server.Resumable
import Gt06Server.Protocol

set_option relaxedAutoImplicit false
set_option autoImplicit false

namespace Gt06

/-! ### The fields at a position -/

/-- The length byte of the position `i` of `s`. -/
def lengthAt (s : List UInt8) (i : ℕ) : ℕ := (s.getD (i + 2) 0).toNat

/-- The frame that the fields at the position `i` of `s` spell. -/
def frameAt (s : List UInt8) (i : ℕ) : Frame where
  protocolNumber := s.getD (i + 3) 0
  payload := slice s (i + 4) (i + (lengthAt s i - 1))
  serial := u16FromBeBytes (s.getD (i + (lengthAt s i - 1)) 0) (s.getD (i + lengthAt s i) 0)

/-- The decoder's body, as a function of the fields at the marker. -/
theorem frameAtMarker_eq (b : List UInt8) :
    frameAtMarker b =
      if b.length < 5 then (.ok none, b)
      else if lengthAt b 0 < 5 then (.error (.invalidLength (lengthAt b 0)), b.drop 1)
      else if b.length < lengthAt b 0 + 5 then (.ok none, b)
      else if slice b (lengthAt b 0 + 3) (lengthAt b 0 + 5) ≠ stopBytes then
        (.error .invalidStopBytes, b.drop 1)
      else if crc16X25 (slice b 2 (lengthAt b 0 + 1)) ≠
          u16FromBeBytes (b.getD (lengthAt b 0 + 1) 0) (b.getD (lengthAt b 0 + 2) 0) then
        (.error .checksumMismatch, b.drop 1)
      else (.ok (some (frameAt b 0)), b.drop (lengthAt b 0 + 5)) := by
  -- branch by branch, the guarded indices become `getD`
  unfold frameAtMarker
  by_cases h5 : b.length < 5
  · rw [dif_pos h5, if_pos h5]
  · have hlength : b[2].toNat = lengthAt b 0 := by
      rw [lengthAt, List.getD_eq_getElem _ _ (by omega)]
    rw [dif_neg h5, if_neg h5]
    simp only [hlength]
    by_cases hL : lengthAt b 0 < 5
    · rw [dif_pos hL, if_pos hL]
    · rw [dif_neg hL, if_neg hL]
      by_cases htotal : b.length < lengthAt b 0 + 5
      · rw [dif_pos htotal, if_pos htotal]
      · rw [dif_neg htotal, if_neg htotal]
        have hcrc₁ : b[lengthAt b 0 + 1] = b.getD (lengthAt b 0 + 1) 0 :=
          (List.getD_eq_getElem _ _ (by omega)).symm
        have hcrc₂ : b[lengthAt b 0 + 1 + 1] = b.getD (lengthAt b 0 + 2) 0 :=
          (List.getD_eq_getElem _ _ (by omega)).symm
        have h3 : b[3] = b.getD 3 0 := (List.getD_eq_getElem _ _ (by omega)).symm
        have hs₁ : b[lengthAt b 0 - 1] = b.getD (lengthAt b 0 - 1) 0 :=
          (List.getD_eq_getElem _ _ (by omega)).symm
        have hs₂ : b[lengthAt b 0 - 1 + 1] = b.getD (lengthAt b 0) 0 := by
          rw [List.getD_eq_getElem _ _ (by omega)]
          congr 1
          omega
        have hstop : lengthAt b 0 + 5 - 2 = lengthAt b 0 + 3 := by omega
        have hcrc : lengthAt b 0 + 5 - 4 = lengthAt b 0 + 1 := by omega
        have hend : 4 + (lengthAt b 0 - 5) = lengthAt b 0 - 1 := by omega
        simp only [hstop, hcrc, hend, hcrc₁, hcrc₂, h3, hs₁, hs₂, frameAt, Nat.zero_add]

/-! ### The decoder does not look ahead -/

theorem lengthAt_append {b : List UInt8} (t : List UInt8) (h : ¬ b.length < 5) :
    lengthAt (b ++ t) 0 = lengthAt b 0 := by
  rw [lengthAt, lengthAt, List.getD_append _ _ _ _ (by omega)]

theorem frameAt_append {b : List UInt8} (t : List UInt8) (h : ¬ b.length < 5)
    (htotal : ¬ b.length < lengthAt b 0 + 5) : frameAt (b ++ t) 0 = frameAt b 0 := by
  simp only [frameAt, Nat.zero_add, lengthAt_append t h]
  rw [List.getD_append _ _ _ _ (by omega), List.getD_append _ _ _ _ (by omega),
    List.getD_append _ _ _ _ (by omega), slice_append_left _ _ (by omega)]

/-- Whatever the decoder answers at a marker, other than a request for more input, it answers
however the buffer continues. -/
theorem frameAtMarker_append {b r : List UInt8} {o : Except ProtocolError (Option Frame)}
    (t : List UInt8) (h : frameAtMarker b = (o, r)) (ho : o ≠ .ok none) :
    frameAtMarker (b ++ t) = (o, r ++ t) := by
  rw [frameAtMarker_eq] at h ⊢
  have hlen : (b ++ t).length = b.length + t.length := List.length_append
  split_ifs at h with h5 hL htotal hstop hcrc
  all_goals
    simp only [Prod.mk.injEq] at h
    obtain ⟨rfl, rfl⟩ := h
  · exact absurd rfl ho
  · rw [if_neg (by omega), lengthAt_append t h5, if_pos hL,
      List.drop_append_of_le_length (by omega)]
  · exact absurd rfl ho
  · rw [if_neg (by omega), lengthAt_append t h5, if_neg hL, if_neg (by omega),
      slice_append_left _ _ (by omega), if_pos hstop, List.drop_append_of_le_length (by omega)]
  · rw [if_neg (by omega), lengthAt_append t h5, if_neg hL, if_neg (by omega),
      slice_append_left _ _ (by omega), if_neg hstop, slice_append_left _ _ (by omega),
      List.getD_append _ _ _ _ (by omega), List.getD_append _ _ _ _ (by omega), if_pos hcrc,
      List.drop_append_of_le_length (by omega)]
  · rw [if_neg (by omega), lengthAt_append t h5, if_neg hL, if_neg (by omega),
      slice_append_left _ _ (by omega), if_neg hstop, slice_append_left _ _ (by omega),
      List.getD_append _ _ _ _ (by omega), List.getD_append _ _ _ _ (by omega), if_neg hcrc,
      frameAt_append t h5 htotal, List.drop_append_of_le_length (by omega)]

theorem frameAtMarker_kept {b r : List UInt8} (h : frameAtMarker b = (.ok none, r)) : r = b := by
  rw [frameAtMarker_eq] at h
  split_ifs at h
  all_goals simp_all

theorem frameAtMarker_suffix (b : List UInt8) : (frameAtMarker b).2 <:+ b := by
  rw [frameAtMarker_eq]
  split_ifs
  all_goals first | exact List.suffix_refl _ | exact List.drop_suffix _ _

theorem frameAtMarker_shrinks {b r : List UInt8} {o : Except ProtocolError (Option Frame)}
    (h : frameAtMarker b = (o, r)) (ho : o ≠ .ok none) : r.length < b.length := by
  rw [frameAtMarker_eq] at h
  split_ifs at h with h5 hL htotal
  all_goals
    simp only [Prod.mk.injEq] at h
    obtain ⟨rfl, rfl⟩ := h
  · exact absurd rfl ho
  · simp only [List.length_drop]; omega
  · exact absurd rfl ho
  all_goals simp only [List.length_drop]; omega

/-- An answer, unless it asks for more input. -/
def outcome : Except ProtocolError (Option Frame) → Option (Except ProtocolError Frame)
  | .ok none => none
  | .ok (some frame) => some (.ok frame)
  | .error error => some (.error error)

@[simp] theorem outcome_eq_none {o : Except ProtocolError (Option Frame)} :
    outcome o = none ↔ o = .ok none := by
  rcases o with e | _ | f <;> simp [outcome]

theorem nextFrame_suffix (s : List UInt8) : (nextFrame s).2 <:+ s := by
  induction s using nextFrame.induct with
  | case1 => simp [nextFrame]
  | case2 b => simp [nextFrame]
  | case3 b₀ b₁ rest hne ih =>
      rw [nextFrame, if_pos hne]
      exact ih.trans (List.suffix_cons _ _)
  | case4 b₀ b₁ rest hne =>
      rw [nextFrame, if_neg hne]
      exact frameAtMarker_suffix _

theorem nextFrame_shrinks {s r : List UInt8} {o : Except ProtocolError (Option Frame)}
    (h : nextFrame s = (o, r)) (ho : o ≠ .ok none) : r.length < s.length := by
  induction s using nextFrame.induct with
  | case1 => simp [nextFrame] at h; exact absurd h.1.symm ho
  | case2 b => simp [nextFrame] at h; exact absurd h.1.symm ho
  | case3 b₀ b₁ rest hne ih =>
      rw [nextFrame, if_pos hne] at h
      have := ih h
      simp only [List.length_cons] at this ⊢
      omega
  | case4 b₀ b₁ rest hne =>
      rw [nextFrame, if_neg hne] at h
      exact frameAtMarker_shrinks h ho

/-- What the decoder answers, it answers however the buffer continues. -/
theorem nextFrame_append {s r : List UInt8} {o : Except ProtocolError (Option Frame)}
    (t : List UInt8) (h : nextFrame s = (o, r)) (ho : o ≠ .ok none) :
    nextFrame (s ++ t) = (o, r ++ t) := by
  induction s using nextFrame.induct with
  | case1 => simp [nextFrame] at h; exact absurd h.1.symm ho
  | case2 b => simp [nextFrame] at h; exact absurd h.1.symm ho
  | case3 b₀ b₁ rest hne ih =>
      rw [nextFrame, if_pos hne] at h
      rw [List.cons_append, List.cons_append, nextFrame, if_pos hne]
      exact ih h
  | case4 b₀ b₁ rest hne =>
      rw [nextFrame, if_neg hne] at h
      rw [List.cons_append, List.cons_append, nextFrame, if_neg hne]
      exact frameAtMarker_append t h ho

/-- The bytes that a waiting decoder drops are ones it would drop anyway. -/
theorem nextFrame_wait {s r : List UInt8} (t : List UInt8) (h : nextFrame s = (.ok none, r)) :
    nextFrame (s ++ t) = nextFrame (r ++ t) := by
  induction s using nextFrame.induct with
  | case1 => simp only [nextFrame, Prod.mk.injEq, true_and] at h; rw [h]
  | case2 b => simp only [nextFrame, Prod.mk.injEq, true_and] at h; rw [h]
  | case3 b₀ b₁ rest hne ih =>
      rw [nextFrame, if_pos hne] at h
      rw [List.cons_append, List.cons_append, nextFrame, if_pos hne]
      exact ih h
  | case4 b₀ b₁ rest hne =>
      rw [nextFrame, if_neg hne] at h
      rw [frameAtMarker_kept h]

/-- `FrameDecoder::next_frame` as a resumable decoder. -/
def frameDecoder : Resumable.Decoder UInt8 (Except ProtocolError Frame) where
  next s := (outcome (nextFrame s).1, (nextFrame s).2)
  next_suffix := nextFrame_suffix
  next_shrinks := by
    intro s o r h
    simp only [Prod.mk.injEq] at h
    refine nextFrame_shrinks (Prod.ext rfl h.2) fun ho => ?_
    rw [outcome_eq_none.2 ho] at h
    simp at h
  next_append := by
    intro s o r t h
    simp only [Prod.mk.injEq] at h
    have ho : (nextFrame s).1 ≠ .ok none := by
      intro ho
      rw [outcome_eq_none.2 ho] at h
      simp at h
    have hn : nextFrame s = ((nextFrame s).1, r) := Prod.ext rfl h.2
    rw [nextFrame_append t hn ho, h.1]
  next_wait := by
    intro s r t h
    simp only [Prod.mk.injEq, outcome_eq_none] at h
    rw [nextFrame_wait t (Prod.ext h.1 h.2)]

theorem frameDecoder_next (s : List UInt8) :
    frameDecoder.next s = (outcome (nextFrame s).1, (nextFrame s).2) := rfl

/-! ### The leftmost scan -/

/-- A start marker stands at `i`. -/
def IsCandidate (s : List UInt8) (i : ℕ) : Prop := slice s i (i + 2) = startBytes

/-- The end of the candidate at `i` has not arrived: fewer than five bytes are left, or the
length byte is valid and fewer than its frame takes. -/
def IsIncomplete (s : List UInt8) (i : ℕ) : Prop :=
  s.length < i + 5 ∨ 5 ≤ lengthAt s i ∧ s.length < i + (lengthAt s i + 5)

/-- A whole frame with its stop bytes and its checksum stands at `i`. -/
structure IsWellFormed (s : List UInt8) (i : ℕ) : Prop where
  candidate : IsCandidate s i
  length : 5 ≤ lengthAt s i
  complete : i + (lengthAt s i + 5) ≤ s.length
  stop : slice s (i + (lengthAt s i + 3)) (i + (lengthAt s i + 5)) = stopBytes
  checksum : slice s (i + (lengthAt s i + 1)) (i + (lengthAt s i + 3)) =
    u16ToBeBytes (crc16X25 (slice s (i + 2) (i + (lengthAt s i + 1))))

instance (s : List UInt8) (i : ℕ) : Decidable (IsCandidate s i) :=
  inferInstanceAs (Decidable (_ = _))

instance (s : List UInt8) (i : ℕ) : Decidable (IsIncomplete s i) :=
  inferInstanceAs (Decidable (_ ∨ _))

theorem isWellFormed_iff (s : List UInt8) (i : ℕ) :
    IsWellFormed s i ↔ IsCandidate s i ∧ 5 ≤ lengthAt s i ∧ i + (lengthAt s i + 5) ≤ s.length ∧
      slice s (i + (lengthAt s i + 3)) (i + (lengthAt s i + 5)) = stopBytes ∧
      slice s (i + (lengthAt s i + 1)) (i + (lengthAt s i + 3)) =
        u16ToBeBytes (crc16X25 (slice s (i + 2) (i + (lengthAt s i + 1)))) :=
  ⟨fun h => ⟨h.candidate, h.length, h.complete, h.stop, h.checksum⟩,
    fun ⟨h₁, h₂, h₃, h₄, h₅⟩ => ⟨h₁, h₂, h₃, h₄, h₅⟩⟩

instance (s : List UInt8) (i : ℕ) : Decidable (IsWellFormed s i) :=
  decidable_of_iff _ (isWellFormed_iff s i).symm

/-- The leftmost scan of `s` from the position `i`: what is found, with its position (a frame, or
`none` for an error), and the position at which the scan stops. -/
def scan (s : List UInt8) (i : ℕ) : List (ℕ × Option Frame) × ℕ :=
  if s.length ≤ i then ([], i)
  else if IsCandidate s i then
    if IsIncomplete s i then ([], i)
    else if IsWellFormed s i then
      (scan s (i + (lengthAt s i + 5))).map ((i, some (frameAt s i)) :: ·) id
    else (scan s (i + 1)).map ((i, none) :: ·) id
  else scan s (i + 1)
termination_by s.length - i

theorem lengthAt_drop (s : List UInt8) (i : ℕ) : lengthAt (s.drop i) 0 = lengthAt s i := by
  simp [lengthAt, List.getD_eq_getElem?_getD, List.getElem?_drop]

theorem frameAt_drop (s : List UInt8) (i : ℕ) : frameAt (s.drop i) 0 = frameAt s i := by
  simp only [frameAt, lengthAt_drop, slice_drop, List.getD_eq_getElem?_getD, List.getElem?_drop,
    Nat.zero_add]

/-- The two bytes of a slice, as one number. -/
theorem u16FromBeBytes_eq_iff {s : List UInt8} {i : ℕ} (h : i + 2 ≤ s.length) (n : UInt16) :
    n = u16FromBeBytes (s.getD i 0) (s.getD (i + 1) 0) ↔ slice s i (i + 2) = u16ToBeBytes n := by
  have hs : slice s i (i + 2) = [s.getD i 0, s.getD (i + 1) 0] := by
    rw [slice, List.drop_eq_getElem_cons (by omega), List.drop_eq_getElem_cons (by omega),
      List.getD_eq_getElem _ _ (by omega), List.getD_eq_getElem _ _ (by omega),
      Nat.add_sub_cancel_left]
    rfl
  rw [hs]
  constructor
  · rintro rfl
    exact (u16ToBeBytes_fromBeBytes _ _).symm
  · intro h'
    simp only [u16ToBeBytes, List.cons.injEq, and_true] at h'
    rw [h'.1, h'.2, u16FromBeBytes_toBeBytes]

/-! ### One call of the decoder at a position -/

theorem drop_of_isCandidate {s : List UInt8} {i : ℕ} (h : IsCandidate s i) :
    ∃ rest, s.drop i = 0x78 :: 0x78 :: rest := by
  rw [IsCandidate, slice, Nat.add_sub_cancel_left] at h
  refine ⟨(s.drop i).drop 2, ?_⟩
  conv_lhs => rw [← List.take_append_drop 2 (s.drop i), h]
  rfl

theorem nextFrame_drop_of_isCandidate {s : List UInt8} {i : ℕ} (h : IsCandidate s i) :
    nextFrame (s.drop i) = frameAtMarker (s.drop i) := by
  obtain ⟨rest, hrest⟩ := drop_of_isCandidate h
  rw [hrest, nextFrame_marker]

/-- At an incomplete candidate the decoder waits and keeps everything from there. -/
theorem nextFrame_drop_of_isIncomplete {s : List UInt8} {i : ℕ} (h : IsCandidate s i)
    (hinc : IsIncomplete s i) : nextFrame (s.drop i) = (.ok none, s.drop i) := by
  rw [nextFrame_drop_of_isCandidate h, frameAtMarker_eq, lengthAt_drop, List.length_drop]
  rcases hinc with h5 | ⟨hL, htotal⟩
  · rw [if_pos (by omega)]
  · by_cases h5 : s.length - i < 5
    · rw [if_pos h5]
    · rw [if_neg h5, if_neg (by omega), if_pos (by omega)]

/-- At a complete candidate the decoder reads the frame if it is well-formed. -/
theorem nextFrame_drop_of_isWellFormed {s : List UInt8} {i : ℕ} (h : IsWellFormed s i) :
    nextFrame (s.drop i) =
      (.ok (some (frameAt s i)), s.drop (i + (lengthAt s i + 5))) := by
  have hL := h.length
  have hcomplete := h.complete
  have hsum := (u16FromBeBytes_eq_iff (by omega : i + (lengthAt s i + 1) + 2 ≤ s.length)
    (crc16X25 (slice s (i + 2) (i + (lengthAt s i + 1))))).2 h.checksum
  rw [nextFrame_drop_of_isCandidate h.candidate, frameAtMarker_eq, lengthAt_drop, frameAt_drop,
    List.length_drop, if_neg (by omega), if_neg (by omega), if_neg (by omega), slice_drop, h.stop,
    if_neg (by simp), slice_drop, if_neg, List.drop_drop]
  simp only [List.getD_eq_getElem?_getD, List.getElem?_drop] at hsum ⊢
  exact not_not.2 hsum

/-- At any other candidate the decoder answers with an error and moves on by one byte. -/
theorem nextFrame_drop_of_not_isWellFormed {s : List UInt8} {i : ℕ} (h : IsCandidate s i)
    (hinc : ¬ IsIncomplete s i) (hwf : ¬ IsWellFormed s i) :
    ∃ e, nextFrame (s.drop i) = (.error e, s.drop (i + 1)) := by
  rw [IsIncomplete, not_or, not_and] at hinc
  obtain ⟨h5, hcomplete⟩ := hinc
  rw [nextFrame_drop_of_isCandidate h, frameAtMarker_eq, lengthAt_drop, List.length_drop,
    if_neg (by omega), List.drop_drop]
  by_cases hL : lengthAt s i < 5
  · rw [if_pos hL]
    exact ⟨_, rfl⟩
  · have htotal := hcomplete (by omega)
    rw [if_neg hL, if_neg (by omega), slice_drop, slice_drop]
    split_ifs with hstop hcrc
    · exact ⟨_, rfl⟩
    · exact ⟨_, rfl⟩
    · refine absurd ⟨h, by omega, by omega, not_not.1 hstop, ?_⟩ hwf
      refine (u16FromBeBytes_eq_iff (by omega) _).1 ?_
      simp only [List.getD_eq_getElem?_getD, List.getElem?_drop, ne_eq, not_not] at hcrc ⊢
      exact hcrc

/-- A byte that does not begin a marker is dropped without an answer. -/
theorem drain_drop_of_not_isCandidate {s : List UInt8} {i : ℕ} (hi : i < s.length)
    (h : ¬ IsCandidate s i) :
    (frameDecoder.drain (s.drop i)).1 = (frameDecoder.drain (s.drop (i + 1))).1 := by
  rw [List.drop_eq_getElem_cons hi]
  cases hrest : s.drop (i + 1) with
  | nil =>
      rw [frameDecoder.drain_of_wait (by rfl : frameDecoder.next [s[i]] = (none, [s[i]])),
        frameDecoder.drain_of_wait frameDecoder.next_nil]
  | cons b rest =>
      have hne : [s[i], b] ≠ startBytes := by
        intro heq
        refine h ?_
        rw [IsCandidate, slice, List.drop_eq_getElem_cons hi, hrest, Nat.add_sub_cancel_left]
        exact heq
      have hnext : frameDecoder.next (s[i] :: b :: rest) = frameDecoder.next (b :: rest) := by
        simp only [frameDecoder_next, nextFrame, if_pos hne]
      rw [frameDecoder.drain_congr hnext]

/-! ### Draining is scanning -/

/-- From any position, draining what is left of the string emits what the scan finds there. -/
theorem drain_drop_eq_scan (s : List UInt8) (i : ℕ) :
    (frameDecoder.drain (s.drop i)).1.map Except.toOption = (scan s i).1.map Prod.snd := by
  induction i using scan.induct s with
  | case1 i hi =>
      rw [scan, if_pos hi, List.drop_eq_nil_of_le hi,
        frameDecoder.drain_of_wait frameDecoder.next_nil]
      rfl
  | case2 i hi h hinc =>
      have hnext : frameDecoder.next (s.drop i) = (none, s.drop i) := by
        rw [frameDecoder_next, nextFrame_drop_of_isIncomplete h hinc]
        rfl
      rw [scan, if_neg hi, if_pos h, if_pos hinc, frameDecoder.drain_of_wait hnext]
      rfl
  | case3 i hi h hinc hwf ih =>
      have hnext : frameDecoder.next (s.drop i) =
          (some (.ok (frameAt s i)), s.drop (i + (lengthAt s i + 5))) := by
        rw [frameDecoder_next, nextFrame_drop_of_isWellFormed hwf]
        rfl
      rw [scan, if_neg hi, if_pos h, if_neg hinc, if_pos hwf,
        frameDecoder.drain_of_output hnext, List.map_cons, ih]
      rfl
  | case4 i hi h hinc hwf ih =>
      obtain ⟨e, he⟩ := nextFrame_drop_of_not_isWellFormed h hinc hwf
      have hnext : frameDecoder.next (s.drop i) = (some (.error e), s.drop (i + 1)) := by
        rw [frameDecoder_next, he]
        rfl
      rw [scan, if_neg hi, if_pos h, if_neg hinc, if_neg hwf,
        frameDecoder.drain_of_output hnext, List.map_cons, ih]
      rfl
  | case5 i hi h ih =>
      rw [scan, if_neg hi, if_neg h, drain_drop_of_not_isCandidate (by omega) h, ih]

/-- The scan finds every well-formed position before its stop, except those inside a frame it
has taken. -/
theorem mem_scan_of_isWellFormed {s : List UInt8} {i j : ℕ} (hij : i ≤ j)
    (hwf : IsWellFormed s j) (hstop : j < (scan s i).2)
    (hfree : ∀ k f, (k, some f) ∈ (scan s i).1 → k < j → k + (lengthAt s k + 5) ≤ j) :
    (j, some (frameAt s j)) ∈ (scan s i).1 := by
  induction i using scan.induct s with
  | case1 i hi =>
      rw [scan, if_pos hi] at hstop
      omega
  | case2 i hi h hinc =>
      rw [scan, if_neg hi, if_pos h, if_pos hinc] at hstop
      omega
  | case3 i hi h hinc hwf' ih =>
      rw [scan, if_neg hi, if_pos h, if_neg hinc, if_pos hwf'] at hstop hfree ⊢
      rcases Nat.eq_or_lt_of_le hij with rfl | hlt
      · exact List.mem_cons_self ..
      · have hnext := hfree i _ (List.mem_cons_self ..) hlt
        exact List.mem_cons_of_mem _
          (ih hnext hstop fun k f hk => hfree k f (List.mem_cons_of_mem _ hk))
  | case4 i hi h hinc hwf' ih =>
      rw [scan, if_neg hi, if_pos h, if_neg hinc, if_neg hwf'] at hstop hfree ⊢
      rcases Nat.eq_or_lt_of_le hij with rfl | hlt
      · exact absurd hwf hwf'
      · exact List.mem_cons_of_mem _
          (ih hlt hstop fun k f hk => hfree k f (List.mem_cons_of_mem _ hk))
  | case5 i hi h ih =>
      rw [scan, if_neg hi, if_neg h] at hstop hfree ⊢
      rcases Nat.eq_or_lt_of_le hij with rfl | hlt
      · exact absurd hwf.candidate h
      · exact ih hlt hstop hfree

/-- **Draining is scanning**: the frames and errors of a buffer are those of the leftmost scan, in
order, and no well-formed frame that begins before the scan stops is lost unless a frame already
emitted overlaps it. -/
theorem drain_eq_scan (s : List UInt8) :
    (frameDecoder.drain s).1.map Except.toOption = (scan s 0).1.map Prod.snd ∧
      ∀ j, IsWellFormed s j → j < (scan s 0).2 →
        (∀ k f, (k, some f) ∈ (scan s 0).1 → k < j → k + (lengthAt s k + 5) ≤ j) →
        (j, some (frameAt s j)) ∈ (scan s 0).1 :=
  ⟨drain_drop_eq_scan s 0, fun _ hwf hstop hfree =>
    mem_scan_of_isWellFormed (Nat.zero_le _) hwf hstop hfree⟩

end Gt06
