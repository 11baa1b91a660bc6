/-
**Corrupted frames are rejected.**

The checksum of a frame is a cyclic redundancy check of sixteen bits with the polynomial
`0x8408`, low bits first, and `Crc` proves what such a check detects.  This module connects
`crc16X25` with it and concludes about the decoder: a frame in whose bytes, after the length and
before the stop bytes, an odd number of bits is flipped, or in whose checksummed fields a burst of
at most sixteen bits is, is answered with a checksum mismatch.

Main definitions:

* `Gt06.bitsOf` — the bits of a byte, low bits first;
* `Gt06.flipBits` — some bits of a byte string flipped.

Main results:

* `Gt06.foldl_crcByte` — the checksum register is `Crc.run`;
* `Gt06.nextFrame_mismatch` — the decoder on a frame with a wrong checksum;
* `Gt06.corruption_detected` — **odd errors and bursts are detected**.
-/

import Gt06Server.Crc
import Gt06Server.FrameRoundTrip

set_option relaxedAutoImplicit false
set_option autoImplicit false

namespace Gt06

/-! ### The checksum as a shift register -/

/-- The polynomial of `crc16_x25`. -/
def crcPoly : BitVec (15 + 1) := 0x8408

/-- The bits of a byte, low bits first. -/
def bitsOf (byte : UInt8) : List Bool := List.ofFn fun k : Fin 8 => byte.toBitVec.getLsbD k

@[simp] theorem length_bitsOf (byte : UInt8) : (bitsOf byte).length = 8 := List.length_ofFn

theorem crcPoly_top : crcPoly.getLsbD 15 = true := by decide

/-- The polynomial has an odd number of ones. -/
theorem parity_crcPoly : Crc.parity crcPoly = 1 := by decide

theorem toBitVec_crcBit (crc : UInt16) :
    (crcBit crc).toBitVec = Crc.step crcPoly crc.toBitVec := by
  have hlow : crc &&& 0x0001 ≠ 0 ↔ crc.toBitVec.getLsbD 0 = true := by
    have hand : (crc &&& 0x0001).toBitVec =
        (BitVec.ofBool (crc.toBitVec.getLsbD 0)).setWidth 16 := by
      rw [UInt16.toBitVec_and]
      exact BitVec.and_one_eq_setWidth_ofBool_getLsbD
    rw [Ne, ← UInt16.toBitVec_inj, hand]
    cases crc.toBitVec.getLsbD 0 <;> decide
  rw [crcBit, Crc.step]
  by_cases h : crc &&& 0x0001 ≠ 0
  · rw [if_pos h, if_pos (hlow.1 h)]
    rfl
  · rw [if_neg h, if_neg (hlow.not.1 h)]
    rfl

theorem word_bitsOf (byte : UInt8) : Crc.word (bitsOf byte) = byte.toUInt16.toBitVec := by
  refine BitVec.eq_of_getLsbD_eq fun i hi => ?_
  rw [Crc.getLsbD_word _ hi, List.getD_eq_getElem?_getD, bitsOf, List.getElem?_ofFn,
    UInt8.toBitVec_toUInt16, BitVec.getLsbD_setWidth]
  by_cases h8 : i < 8
  · simp [h8, hi]
  · rw [dif_neg h8, BitVec.getLsbD_of_ge _ _ (by omega)]
    simp

/-- A byte enters the register as its eight bits. -/
theorem toBitVec_crcByte (crc : UInt16) (byte : UInt8) :
    (crcByte crc byte).toBitVec = Crc.run crcPoly crc.toBitVec (bitsOf byte) := by
  have hiterate : ∀ (k : ℕ) (c : UInt16),
      (crcBit^[k] c).toBitVec = (Crc.step crcPoly)^[k] c.toBitVec := by
    intro k
    induction k with
    | zero => exact fun c => rfl
    | succ k ih =>
        intro c
        rw [Function.iterate_succ_apply, Function.iterate_succ_apply, ih, toBitVec_crcBit]
  rw [crcByte, hiterate, Crc.run_eq_iterate_step crcPoly (by simp), length_bitsOf, word_bitsOf]
  rfl

/-- The checksum register is the shift register on the bits of the data. -/
theorem foldl_crcByte (data : List UInt8) (crc : UInt16) :
    (data.foldl crcByte crc).toBitVec = Crc.run crcPoly crc.toBitVec (data.flatMap bitsOf) := by
  induction data generalizing crc with
  | nil => rfl
  | cons byte data ih =>
      rw [List.foldl_cons, ih, toBitVec_crcByte, List.flatMap_cons, Crc.run_append]

/-! ### Flipped bits -/

/-- The flipped bits of the byte at `k`. -/
def flipMask (flips : Finset ℕ) (k : ℕ) : UInt8 :=
  ⟨BitVec.ofFnLE fun j : Fin 8 => decide (8 * k + j ∈ flips)⟩

/-- A byte string that begins at the byte `k`, with some bits flipped. -/
def flipFrom (flips : Finset ℕ) : ℕ → List UInt8 → List UInt8
  | _, [] => []
  | k, byte :: bytes => (byte ^^^ flipMask flips k) :: flipFrom flips (k + 1) bytes

/-- A byte string with some bits flipped: bytes in order, low bits first. -/
def flipBits (flips : Finset ℕ) (bytes : List UInt8) : List UInt8 := flipFrom flips 0 bytes

/-- Which of `count` positions are flipped. -/
def flipPattern (flips : Finset ℕ) (start count : ℕ) : List Bool :=
  (List.range' start count).map fun p => decide (p ∈ flips)

@[simp] theorem length_flipPattern (flips : Finset ℕ) (start count : ℕ) :
    (flipPattern flips start count).length = count := by
  simp [flipPattern]

theorem flipPattern_append (flips : Finset ℕ) (start m n : ℕ) :
    flipPattern flips start m ++ flipPattern flips (start + m) n =
      flipPattern flips start (m + n) := by
  rw [flipPattern, flipPattern, flipPattern, ← List.map_append, List.range'_append_1]

theorem getD_flipPattern (flips : Finset ℕ) (start count j : ℕ) :
    (flipPattern flips start count).getD j false =
      (decide (j < count) && decide (start + j ∈ flips)) := by
  rw [List.getD_eq_getElem?_getD, flipPattern, List.getElem?_map]
  by_cases h : j < count
  · rw [List.getElem?_range' h]
    simp [h]
  · rw [List.getElem?_eq_none (by simpa using h)]
    simp [h]

theorem mem_flipPattern {flips : Finset ℕ} {start count : ℕ} :
    true ∈ flipPattern flips start count ↔ ∃ p ∈ flips, start ≤ p ∧ p < start + count := by
  simp only [flipPattern, List.mem_map, List.mem_range'_1, decide_eq_true_eq]
  constructor
  · rintro ⟨p, hrange, hp⟩
    exact ⟨p, hp, hrange⟩
  · rintro ⟨p, hp, hrange⟩
    exact ⟨p, hrange, hp⟩

/-- Positions among which all flipped ones are have the parity of their number. -/
theorem bitParity_flipPattern {flips : Finset ℕ} {start count : ℕ}
    (h : ∀ p ∈ flips, start ≤ p ∧ p < start + count) :
    Crc.bitParity (flipPattern flips start count) = (flips.card : ℕ) := by
  have hcard : (flipPattern flips start count).count true = flips.card := by
    rw [flipPattern, List.count_eq_countP, List.countP_map, List.countP_eq_length_filter,
      ← List.toFinset_card_of_nodup ((List.nodup_range').filter _)]
    congr 1
    ext p
    simp only [List.mem_toFinset, List.mem_filter, List.mem_range'_1, Function.comp_apply,
      beq_true, decide_eq_true_eq]
    exact ⟨fun hp => hp.2, fun hp => ⟨h p hp, hp⟩⟩
  rw [Crc.bitParity, hcard]

theorem bitsOf_xor (a b : UInt8) : bitsOf (a ^^^ b) = List.zipWith xor (bitsOf a) (bitsOf b) := by
  refine List.ext_getElem (by simp) fun i h₁ h₂ => ?_
  simp [bitsOf]

theorem bitsOf_flipMask (flips : Finset ℕ) (k : ℕ) :
    bitsOf (flipMask flips k) = flipPattern flips (8 * k) 8 := by
  refine List.ext_getElem (by simp) fun i h₁ h₂ => ?_
  have hi : i < 8 := by simpa using h₁
  simp only [bitsOf, flipMask, flipPattern, List.getElem_ofFn, List.getElem_map,
    List.getElem_range', Nat.one_mul, BitVec.getLsbD_ofFnLE, dif_pos hi]

@[simp] theorem length_flipFrom (flips : Finset ℕ) (k : ℕ) (bytes : List UInt8) :
    (flipFrom flips k bytes).length = bytes.length := by
  induction bytes generalizing k with
  | nil => rfl
  | cons byte bytes ih => simp [flipFrom, ih]

theorem flipFrom_append (flips : Finset ℕ) (k : ℕ) (xs ys : List UInt8) :
    flipFrom flips k (xs ++ ys) = flipFrom flips k xs ++ flipFrom flips (k + xs.length) ys := by
  induction xs generalizing k with
  | nil => rfl
  | cons x xs ih =>
      rw [List.cons_append, flipFrom, flipFrom, ih, List.cons_append, List.length_cons,
        Nat.add_right_comm, Nat.add_assoc k]

/-- Bytes without a flipped bit stay as they are. -/
theorem flipFrom_of_disjoint {flips : Finset ℕ} {k : ℕ} {bytes : List UInt8}
    (h : ∀ p ∈ flips, p < 8 * k ∨ 8 * (k + bytes.length) ≤ p) :
    flipFrom flips k bytes = bytes := by
  induction bytes generalizing k with
  | nil => rfl
  | cons byte bytes ih =>
      rw [List.length_cons] at h
      have hmask : flipMask flips k = 0 := by
        refine UInt8.toBitVec_inj.1 (BitVec.eq_of_getLsbD_eq fun i hi => ?_)
        have hnot : 8 * k + i ∉ flips := fun hmem => by
          have := h _ hmem
          omega
        rw [flipMask, BitVec.getLsbD_ofFnLE, dif_pos hi]
        simpa using hnot
      rw [flipFrom, hmask, ih fun p hp => by have := h p hp; omega]
      simp

/-- The bits of a string with some flipped. -/
theorem flatMap_bitsOf_flipFrom (flips : Finset ℕ) (k : ℕ) (bytes : List UInt8) :
    (flipFrom flips k bytes).flatMap bitsOf =
      List.zipWith xor (bytes.flatMap bitsOf) (flipPattern flips (8 * k) (8 * bytes.length)) := by
  induction bytes generalizing k with
  | nil => rfl
  | cons byte bytes ih =>
      rw [flipFrom, List.flatMap_cons, ih, bitsOf_xor, bitsOf_flipMask, List.flatMap_cons,
        List.length_cons, show 8 * (bytes.length + 1) = 8 + 8 * bytes.length by omega,
        ← flipPattern_append, List.zipWith_append (by simp), Nat.mul_succ]

/-! ### The checksum of a corrupted frame -/

/-- The two bytes of a checksum are the halves of its register. -/
theorem toBitVec_u16FromBeBytes (hi lo : UInt8) :
    (u16FromBeBytes hi lo).toBitVec = hi.toBitVec ++ lo.toBitVec := by
  have hhi := hi.toNat_lt
  have hlo := lo.toNat_lt
  refine BitVec.eq_of_toNat_eq ?_
  rw [BitVec.toNat_append, UInt8.toNat_toBitVec, UInt8.toNat_toBitVec,
    ← Nat.shiftLeft_add_eq_or_of_lt hlo, Nat.shiftLeft_eq, UInt16.toNat_toBitVec, u16FromBeBytes,
    UInt16.toNat_ofNat']
  omega

theorem u16FromBeBytes_xor (a b a' b' : UInt8) :
    u16FromBeBytes (a ^^^ a') (b ^^^ b') = u16FromBeBytes a b ^^^ u16FromBeBytes a' b' := by
  refine UInt16.toBitVec_inj.1 ?_
  rw [UInt16.toBitVec_xor, toBitVec_u16FromBeBytes, toBitVec_u16FromBeBytes,
    toBitVec_u16FromBeBytes, UInt8.toBitVec_xor, UInt8.toBitVec_xor, BitVec.xor_append]

theorem parity_toBitVec (byte : UInt8) :
    Crc.parity byte.toBitVec = Crc.bitParity (bitsOf byte) :=
  (Crc.bitParity_ofFn _).symm

/-- What the flipped bits of the data leave of a zero register. -/
def flipResidue (flips : Finset ℕ) (k count : ℕ) : BitVec 16 :=
  Crc.run crcPoly 0 (flipPattern flips (8 * k) (8 * count))

/-- The checksum of the data with some bits flipped is off by what the flipped bits leave. -/
theorem crc16X25_flipFrom (flips : Finset ℕ) (length : UInt8) (k : ℕ) (data : List UInt8) :
    (crc16X25 (length :: flipFrom flips k data)).toBitVec =
      (crc16X25 (length :: data)).toBitVec ^^^ flipResidue flips k data.length := by
  have hlength : (data.flatMap bitsOf).length =
      (flipPattern flips (8 * k) (8 * data.length)).length := by
    simp [List.length_flatMap, Nat.mul_comm]
  have hrun := Crc.run_xor crcPoly hlength (crcByte 0xFFFF length).toBitVec 0
  have hzero : (crcByte 0xFFFF length).toBitVec ^^^ 0 = (crcByte 0xFFFF length).toBitVec :=
    BitVec.xor_zero
  rw [hzero] at hrun
  rw [crc16X25, crc16X25, UInt16.toBitVec_not, UInt16.toBitVec_not, List.foldl_cons,
    List.foldl_cons, foldl_crcByte, foldl_crcByte, flatMap_bitsOf_flipFrom, hrun, flipResidue,
    BitVec.not_xor_left]

/-- A corrupted checksum fits the corrupted data only if the two differences are the same. -/
theorem flipResidue_eq_of_fits {flips : Finset ℕ} {length c₁ c₂ : UInt8} {k : ℕ}
    {data : List UInt8} (hcrc : crc16X25 (length :: data) = u16FromBeBytes c₁ c₂)
    (h : crc16X25 (length :: flipFrom flips k data) =
      u16FromBeBytes (c₁ ^^^ flipMask flips (k + data.length))
        (c₂ ^^^ flipMask flips (k + data.length + 1))) :
    flipResidue flips k data.length =
      (flipMask flips (k + data.length)).toBitVec ++
        (flipMask flips (k + data.length + 1)).toBitVec := by
  have hbits := congrArg UInt16.toBitVec h
  rw [crc16X25_flipFrom, hcrc, u16FromBeBytes_xor, UInt16.toBitVec_xor] at hbits
  have hcancel := (BitVec.xor_right_inj _).1 hbits
  rw [hcancel, toBitVec_u16FromBeBytes]

/-- An odd number of flipped bits does not fit. -/
theorem flipResidue_ne_of_odd {flips : Finset ℕ} {k count : ℕ} (hodd : Odd flips.card)
    (hrange : ∀ p ∈ flips, 8 * k ≤ p ∧ p < 8 * (k + count + 2)) :
    flipResidue flips k count ≠
      (flipMask flips (k + count)).toBitVec ++ (flipMask flips (k + count + 1)).toBitVec := by
  intro h
  have hparity := congrArg Crc.parity h
  rw [flipResidue, Crc.parity_run crcPoly parity_crcPoly, Crc.parity_append, parity_toBitVec,
    parity_toBitVec, bitsOf_flipMask, bitsOf_flipMask, ← Crc.bitParity_append,
    show 8 * (k + count + 1) = 8 * (k + count) + 8 by omega, flipPattern_append,
    show 8 * (k + count) = 8 * k + 8 * count by omega] at hparity
  -- the parity of all the flipped bits is that of the data and that of the checksum
  have hall : Crc.bitParity (flipPattern flips (8 * k) (8 * count + (8 + 8))) =
      (flips.card : ℕ) :=
    bitParity_flipPattern fun p hp => by
      have := hrange p hp
      omega
  rw [← flipPattern_append, Crc.bitParity_append] at hall
  have hzero : Crc.parity (0 : BitVec 16) = 0 := Crc.parity_zero
  rw [hzero, zero_add] at hparity
  rw [hparity, CharTwo.add_self_eq_zero] at hall
  exact (Nat.not_even_iff_odd.2 hodd) (ZMod.natCast_eq_zero_iff_even.1 hall.symm)

/-- A burst in the data does not fit. -/
theorem flipResidue_ne_of_burst {flips : Finset ℕ} {k count i : ℕ} (hne : flips.Nonempty)
    (hrange : ∀ p ∈ flips, 8 * k ≤ p ∧ p < 8 * (k + count))
    (hburst : ∀ p ∈ flips, i ≤ p ∧ p < i + 16) :
    flipResidue flips k count ≠
      (flipMask flips (k + count)).toBitVec ++ (flipMask flips (k + count + 1)).toBitVec := by
  obtain ⟨p, hp⟩ := hne
  have hmask : ∀ m, k + count ≤ m → (flipMask flips m).toBitVec = 0 := by
    intro m hm
    refine BitVec.eq_of_getLsbD_eq fun j hj => ?_
    have hnot : 8 * m + j ∉ flips := fun hmem => by
      have := hrange _ hmem
      omega
    rw [flipMask, BitVec.getLsbD_ofFnLE, dif_pos hj]
    simpa using hnot
  -- the checksum is untouched, so it is enough that the burst leaves something in the register
  rw [hmask _ le_rfl, hmask _ (Nat.le_succ _), flipResidue]
  have htrue : true ∈ flipPattern flips (8 * k) (8 * count) :=
    mem_flipPattern.2 ⟨p, hp, by
      have := hrange p hp
      omega⟩
  refine @Crc.run_ne_zero_of_burst 15 crcPoly crcPoly_top _ (i - 8 * k) htrue fun j hj => ?_
  rw [getD_flipPattern, Bool.and_eq_true, decide_eq_true_eq, decide_eq_true_eq] at hj
  have := hburst _ hj.2
  omega

/-! ### The decoder on a corrupted frame -/

/-- The decoder on the bytes of a frame with a wrong checksum. -/
theorem nextFrame_mismatch {length c₁ c₂ : UInt8} {data : List UInt8} (t : List UInt8)
    (hlength : length.toNat = data.length + 2) (hdata : 3 ≤ data.length)
    (hcrc : crc16X25 (length :: data) ≠ u16FromBeBytes c₁ c₂) :
    nextFrame (0x78 :: 0x78 :: length :: (data ++ [c₁, c₂] ++ stopBytes ++ t)) =
      (.error .checksumMismatch, 0x78 :: length :: (data ++ [c₁, c₂] ++ stopBytes ++ t)) := by
  -- where the length, the stop bytes, the checksummed bytes and the checksum stand in the buffer
  set B := 0x78 :: 0x78 :: length :: (data ++ [c₁, c₂] ++ stopBytes ++ t) with hB
  have hlen : B.length = data.length + 7 + t.length := by
    simp [hB, stopBytes]
    omega
  have hL : lengthAt B 0 = data.length + 2 := hlength
  have hdrop : B.drop (data.length + 3) = c₁ :: c₂ :: 0x0D :: 0x0A :: t := by
    have h : B = ([0x78, 0x78, length] ++ data) ++ (c₁ :: c₂ :: 0x0D :: 0x0A :: t) := by
      simp [hB, stopBytes]
    rw [h]
    exact List.drop_left' (by simp)
  have hget : ∀ j, B.getD (data.length + 3 + j) 0 =
      (c₁ :: c₂ :: 0x0D :: 0x0A :: t).getD j 0 := by
    intro j
    rw [← hdrop, List.getD_eq_getElem?_getD, List.getD_eq_getElem?_getD, List.getElem?_drop]
  have hstop : slice B (data.length + 2 + 3) (data.length + 2 + 5) = stopBytes := by
    have h := slice_drop B (data.length + 3) 2 4
    rw [hdrop] at h
    rw [show data.length + 2 + 3 = data.length + 3 + 2 by omega,
      show data.length + 2 + 5 = data.length + 3 + 4 by omega, ← h]
    rfl
  have hbody : slice B 2 (data.length + 2 + 1) = length :: data := by
    have h : B.drop 2 = (length :: data) ++ ([c₁, c₂] ++ stopBytes ++ t) := by simp [hB]
    rw [slice, h]
    exact List.take_left' (by simp)
  rw [hB, nextFrame_marker, ← hB, frameAtMarker_eq, if_neg (by omega), hL, if_neg (by omega),
    if_neg (by omega), hstop, if_neg (by simp), hbody, hget 0, hget 1]
  exact if_pos hcrc

/-- The fields of a frame that its checksum covers, after the length. -/
def fieldBytes (frame : Frame) : List UInt8 :=
  [frame.protocolNumber] ++ frame.payload ++ u16ToBeBytes frame.serial

theorem length_fieldBytes (frame : Frame) :
    (fieldBytes frame).length = frame.payload.length + 3 := by
  simp [fieldBytes]

/-- A frame on the wire: its marker and length, its fields, its checksum and its stop bytes. -/
theorem buildFrame_eq_fields (frame : Frame) :
    ∃ c₁ c₂, crc16X25 (UInt8.ofNat (frame.payload.length + 5) :: fieldBytes frame) =
        u16FromBeBytes c₁ c₂ ∧
      buildFrame frame = [0x78, 0x78, UInt8.ofNat (frame.payload.length + 5)] ++
        (fieldBytes frame ++ ([c₁, c₂] ++ stopBytes)) := by
  set crc := crc16X25 (UInt8.ofNat (frame.payload.length + 5) :: fieldBytes frame) with hcrc
  refine ⟨_, _, (u16FromBeBytes_toBeBytes crc).symm, ?_⟩
  have hbody : [UInt8.ofNat (frame.payload.length + 5), frame.protocolNumber] ++ frame.payload ++
      u16ToBeBytes frame.serial =
        UInt8.ofNat (frame.payload.length + 5) :: fieldBytes frame := rfl
  rw [buildFrame, hbody, ← hcrc]
  simp [startBytes, u16ToBeBytes]

/-- Flipped bits after the length and before the stop bytes of a frame. -/
theorem flipBits_buildFrame {length c₁ c₂ : UInt8} {data : List UInt8} {flips : Finset ℕ}
    (hrange : ∀ p ∈ flips, 24 ≤ p ∧ p < 8 * (data.length + 5)) :
    flipBits flips ([0x78, 0x78, length] ++ (data ++ ([c₁, c₂] ++ stopBytes))) =
      0x78 :: 0x78 :: length :: (flipFrom flips 3 data ++
        [c₁ ^^^ flipMask flips (3 + data.length), c₂ ^^^ flipMask flips (3 + data.length + 1)] ++
        stopBytes) := by
  have hstart : flipFrom flips 0 [0x78, 0x78, length] = [0x78, 0x78, length] :=
    flipFrom_of_disjoint fun p hp => by
      have := hrange p hp
      simp only [List.length_cons, List.length_nil]
      omega
  have hstop : flipFrom flips (3 + data.length + 2) stopBytes = stopBytes :=
    flipFrom_of_disjoint fun p hp => by
      have := hrange p hp
      omega
  rw [flipBits, flipFrom_append, flipFrom_append, flipFrom_append, hstart]
  simp only [List.length_cons, List.length_nil, Nat.zero_add, hstop, flipFrom]
  simp

/-- **Corruption is detected**: an odd number of flipped bits among the protocol, the payload, the
serial and the checksum of a frame, or flipped bits of its protocol, payload and serial that all
lie within sixteen consecutive positions, make the decoder answer with a checksum mismatch. -/
theorem corruption_detected (frame : Frame) (hfits : frame.payload.length ≤ 250)
    (flips : Finset ℕ)
    (h : (Odd flips.card ∧ ∀ p ∈ flips, 24 ≤ p ∧ p < 8 * (frame.payload.length + 8)) ∨
      (flips.Nonempty ∧ (∀ p ∈ flips, 24 ≤ p ∧ p < 8 * (frame.payload.length + 6)) ∧
        ∃ i, ∀ p ∈ flips, i ≤ p ∧ p < i + 16)) (t : List UInt8) :
    nextFrame (flipBits flips (buildFrame frame) ++ t) =
      (.error .checksumMismatch, (flipBits flips (buildFrame frame) ++ t).drop 1) := by
  obtain ⟨c₁, c₂, hcrc, hwire⟩ := buildFrame_eq_fields frame
  have hlen := length_fieldBytes frame
  have hlength : (UInt8.ofNat (frame.payload.length + 5)).toNat =
      (fieldBytes frame).length + 2 := by
    rw [UInt8.toNat_ofNat', hlen]
    omega
  set data := fieldBytes frame with hdata
  have hrange : ∀ p ∈ flips, 24 ≤ p ∧ p < 8 * (data.length + 5) := by
    rcases h with ⟨-, hrange⟩ | ⟨-, hrange, -⟩
    all_goals
      intro p hp
      have := hrange p hp
      omega
  have hresidue : flipResidue flips 3 data.length ≠
      (flipMask flips (3 + data.length)).toBitVec ++
        (flipMask flips (3 + data.length + 1)).toBitVec := by
    rcases h with ⟨hodd, hall⟩ | ⟨hne, hfields, i, hburst⟩
    · exact flipResidue_ne_of_odd hodd fun p hp => by
        have := hall p hp
        omega
    · exact flipResidue_ne_of_burst hne (fun p hp => by have := hfields p hp; omega) hburst
  rw [hwire, flipBits_buildFrame hrange]
  have hmismatch := @nextFrame_mismatch (UInt8.ofNat (frame.payload.length + 5))
    (c₁ ^^^ flipMask flips (3 + data.length)) (c₂ ^^^ flipMask flips (3 + data.length + 1))
    (flipFrom flips 3 data) t (by rw [hlength, length_flipFrom])
    (by rw [length_flipFrom]; omega) fun heq => hresidue (flipResidue_eq_of_fits hcrc heq)
  exact hmismatch

/-- On a frame without payload: one bit of its checksum, and a burst over its protocol number and
its serial. -/
theorem corruption_detected_ack :
    nextFrame (flipBits {48} (buildFrame ⟨0x01, [], 1⟩) ++ []) =
        (.error .checksumMismatch, (flipBits {48} (buildFrame ⟨0x01, [], 1⟩) ++ []).drop 1) ∧
      nextFrame (flipBits {28, 35, 40} (buildFrame ⟨0x01, [], 1⟩) ++ [0xFF]) =
        (.error .checksumMismatch,
          (flipBits {28, 35, 40} (buildFrame ⟨0x01, [], 1⟩) ++ [0xFF]).drop 1) :=
  ⟨corruption_detected ⟨0x01, [], 1⟩ (by decide) {48} (Or.inl ⟨by decide, by decide⟩) [],
    corruption_detected ⟨0x01, [], 1⟩ (by decide) {28, 35, 40}
      (Or.inr ⟨by decide, by decide, 28, by decide⟩) [0xFF]⟩

end Gt06
