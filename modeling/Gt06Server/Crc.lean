/-
**Cyclic redundancy checks over a shift register.**

A reflected cyclic redundancy check keeps a register of `n + 1` bits.  A message bit is added to
the low end of the register, the register is shifted down, and the polynomial is added when a one
falls out.  Addition is exclusive or, so the register after a message is linear in the message:
two messages of one length leave registers that differ by what their difference leaves of zero.
Hence an error goes unnoticed only if it leaves zero of zero, and this module gives the two
guarantees a polynomial is chosen for.

Main definitions:

* `Crc.step` — one shift of the register;
* `Crc.run` — the register after a message, low bits first;
* `Crc.parity` — the parity of the bits of a register.

Main results:

* `Crc.run_xor` — the register is linear in the message;
* `Crc.parity_run` — **parity**: a polynomial of odd weight preserves the parity of the message;
* `Crc.run_eq_iterate_step` — a message no longer than the register enters it as one word;
* `Crc.run_ne_zero_of_burst` — **bursts**: under a polynomial with its highest bit set, an error
  inside as many positions as the register has bits is noticed.
-/

import Mathlib

set_option relaxedAutoImplicit false
set_option autoImplicit false

namespace Crc

variable {n : ℕ} (poly : BitVec (n + 1))

/-! ### The register -/

/-- One shift of the register. -/
def step (c : BitVec (n + 1)) : BitVec (n + 1) :=
  if c.getLsbD 0 then (c >>> 1) ^^^ poly else c >>> 1

/-- A bit at the low end of a register. -/
def lowBit (b : Bool) : BitVec (n + 1) := if b then 1 else 0

/-- The register after a message. -/
def run (c : BitVec (n + 1)) (bits : List Bool) : BitVec (n + 1) :=
  bits.foldl (fun c b => step poly (c ^^^ lowBit b)) c

@[simp] theorem lowBit_false : (lowBit false : BitVec (n + 1)) = 0 := rfl

@[simp] theorem run_nil (c : BitVec (n + 1)) : run poly c [] = c := rfl

@[simp] theorem run_cons (c : BitVec (n + 1)) (b : Bool) (bits : List Bool) :
    run poly c (b :: bits) = run poly (step poly (c ^^^ lowBit b)) bits := rfl

theorem run_append (c : BitVec (n + 1)) (bits bits' : List Bool) :
    run poly c (bits ++ bits') = run poly (run poly c bits) bits' :=
  List.foldl_append

@[simp] theorem getLsbD_lowBit (b : Bool) (i : ℕ) :
    (lowBit b : BitVec (n + 1)).getLsbD i = (b && decide (i = 0)) := by
  cases b with
  | false => simp
  | true => cases i <;> simp [lowBit, BitVec.getLsbD_one]

/-! ### Linearity -/

theorem lowBit_xor (a b : Bool) :
    (lowBit (a ^^ b) : BitVec (n + 1)) = lowBit a ^^^ lowBit b := by
  refine BitVec.eq_of_getLsbD_eq fun i _ => ?_
  simp only [BitVec.getLsbD_xor, getLsbD_lowBit]
  cases a <;> cases b <;> simp

theorem step_xor (c d : BitVec (n + 1)) : step poly (c ^^^ d) = step poly c ^^^ step poly d := by
  refine BitVec.eq_of_getLsbD_eq fun i _ => ?_
  simp only [step, BitVec.getLsbD_xor, BitVec.ushiftRight_xor_distrib]
  cases c.getLsbD 0 <;> cases d.getLsbD 0 <;>
    simp only [Bool.xor_self, Bool.xor_false, Bool.xor_true, Bool.not_false,
      Bool.false_eq_true, if_true, if_false, BitVec.getLsbD_xor]
  all_goals
    cases (c >>> 1).getLsbD i <;> cases (d >>> 1).getLsbD i <;> cases poly.getLsbD i <;> rfl

@[simp] theorem step_zero : step poly 0 = 0 := by simp [step]

/-- The register is linear in the message. -/
theorem run_xor {xs ys : List Bool} (h : xs.length = ys.length) (c d : BitVec (n + 1)) :
    run poly (c ^^^ d) (List.zipWith xor xs ys) = run poly c xs ^^^ run poly d ys := by
  induction xs generalizing ys c d with
  | nil =>
      obtain rfl := List.length_eq_zero_iff.1 h.symm
      simp
  | cons x xs ih =>
      cases ys with
      | nil => simp at h
      | cons y ys =>
          -- each message bit goes to the register of its own message
          have hxor : c ^^^ d ^^^ lowBit (x ^^ y) = (c ^^^ lowBit x) ^^^ (d ^^^ lowBit y) := by
            rw [lowBit_xor]
            ac_rfl
          rw [List.zipWith_cons_cons, run_cons, run_cons, run_cons, hxor, step_xor]
          exact ih (Nat.succ.inj h) _ _

/-- Zeros only shift the register. -/
theorem run_of_not_mem {bits : List Bool} (h : true ∉ bits) (c : BitVec (n + 1)) :
    run poly c bits = (step poly)^[bits.length] c := by
  induction bits generalizing c with
  | nil => rfl
  | cons b bits ih =>
      rw [List.mem_cons, not_or] at h
      obtain rfl : b = false := by cases b <;> simp_all
      have hc : c ^^^ lowBit false = c := BitVec.xor_zero
      rw [run_cons, hc, ih h.2, List.length_cons, Function.iterate_succ_apply]

theorem iterate_step_zero (k : ℕ) : (step poly)^[k] 0 = 0 :=
  Function.iterate_fixed (step_zero poly) k

/-! ### Parity -/

/-- The parity of the bits of a register. -/
def parity {w : ℕ} (c : BitVec w) : ZMod 2 := ∑ i : Fin w, ((c.getLsbD i).toNat : ZMod 2)

/-- The parity of a message. -/
def bitParity (bits : List Bool) : ZMod 2 := (bits.count true : ℕ)

@[simp] theorem parity_zero {w : ℕ} : parity (0 : BitVec w) = 0 := by simp [parity]

theorem parity_xor {w : ℕ} (c d : BitVec w) : parity (c ^^^ d) = parity c + parity d := by
  rw [parity, parity, parity, ← Finset.sum_add_distrib]
  refine Finset.sum_congr rfl fun i _ => ?_
  rw [BitVec.getLsbD_xor]
  cases c.getLsbD i <;> cases d.getLsbD i <;> decide

theorem parity_lowBit (b : Bool) :
    parity (lowBit b : BitVec (n + 1)) = (b.toNat : ZMod 2) := by
  rw [parity, Fin.sum_univ_succ]
  simp only [getLsbD_lowBit, Fin.val_zero, Fin.val_succ]
  simp

theorem parity_append {v w : ℕ} (x : BitVec v) (y : BitVec w) :
    parity (x ++ y) = parity x + parity y := by
  have hsum : ∀ {u : ℕ} (z : BitVec u),
      parity z = ∑ i ∈ Finset.range u, ((z.getLsbD i).toNat : ZMod 2) :=
    fun z => Fin.sum_univ_eq_sum_range (fun i => ((z.getLsbD i).toNat : ZMod 2)) _
  rw [hsum, hsum, hsum, show Finset.range (v + w) = Finset.range (w + v) by rw [Nat.add_comm],
    Finset.sum_range_add, add_comm]
  refine congrArg₂ (· + ·) (Finset.sum_congr rfl fun i _ => ?_)
    (Finset.sum_congr rfl fun i hi => ?_)
  · rw [BitVec.getLsbD_append, if_neg (by omega), Nat.add_sub_cancel_left]
  · rw [BitVec.getLsbD_append, if_pos (Finset.mem_range.1 hi)]

theorem bitParity_ofFn {w : ℕ} (f : Fin w → Bool) :
    bitParity (List.ofFn f) = ∑ i, ((f i).toNat : ZMod 2) := by
  induction w with
  | zero => simp [bitParity]
  | succ w ih =>
      have h := ih fun i => f i.succ
      rw [bitParity] at h
      rw [bitParity, List.ofFn_succ, Fin.sum_univ_succ, ← h]
      cases f 0 <;> simp [add_comm]

theorem bitParity_append (bits bits' : List Bool) :
    bitParity (bits ++ bits') = bitParity bits + bitParity bits' := by
  simp [bitParity]

/-- A shift loses the parity of the bit that falls out. -/
theorem parity_ushiftRight (c : BitVec (n + 1)) :
    parity c = ((c.getLsbD 0).toNat : ZMod 2) + parity (c >>> 1) := by
  have htop : (c >>> 1).getLsbD n = false := by
    rw [BitVec.getLsbD_ushiftRight]
    exact BitVec.getLsbD_of_ge _ _ (by omega)
  have hsum : parity (c >>> 1) = ∑ i : Fin n, ((c.getLsbD (i + 1)).toNat : ZMod 2) := by
    rw [parity, Fin.sum_univ_castSucc]
    simp only [Fin.val_castSucc, Fin.val_last, htop, Bool.toNat_false, Nat.cast_zero, add_zero,
      BitVec.getLsbD_ushiftRight, Nat.add_comm 1]
  rw [hsum, parity, Fin.sum_univ_succ]
  rfl

/-- A polynomial of odd weight puts back the parity of the bit that falls out. -/
theorem parity_step (hpoly : parity poly = 1) (c : BitVec (n + 1)) :
    parity (step poly c) = parity c := by
  rw [parity_ushiftRight c, step]
  split_ifs with h
  · rw [parity_xor, hpoly, h, Bool.toNat_true, Nat.cast_one, add_comm]
  · rw [Bool.not_eq_true] at h
    rw [h, Bool.toNat_false, Nat.cast_zero, zero_add]

/-- **Parity**: under a polynomial of odd weight the register keeps the parity of the message. -/
theorem parity_run (hpoly : parity poly = 1) (c : BitVec (n + 1)) (bits : List Bool) :
    parity (run poly c bits) = parity c + bitParity bits := by
  induction bits generalizing c with
  | nil => simp [bitParity]
  | cons b bits ih =>
      rw [run_cons, ih, parity_step poly hpoly, parity_xor, parity_lowBit]
      cases b <;> simp [bitParity, add_comm, add_left_comm]

/-! ### Bursts -/

/-- A register does not forget: only zero is shifted to zero. -/
theorem step_eq_zero_iff (hpoly : poly.getLsbD n = true) (c : BitVec (n + 1)) :
    step poly c = 0 ↔ c = 0 := by
  refine ⟨fun h => ?_, by rintro rfl; exact step_zero poly⟩
  have htop : (c >>> 1).getLsbD n = false := by
    rw [BitVec.getLsbD_ushiftRight]
    exact BitVec.getLsbD_of_ge _ _ (by omega)
  by_cases h0 : c.getLsbD 0 = true
  · -- a one falls out: the shift leaves the highest bit empty, and the polynomial fills it
    rw [step, if_pos h0] at h
    have hbit := congrArg (fun d => d.getLsbD n) h
    simp only [BitVec.getLsbD_xor, htop, hpoly] at hbit
    simp at hbit
  · -- a zero falls out, so every bit of the register is still there
    rw [step, if_neg h0] at h
    refine BitVec.eq_of_getLsbD_eq fun i hi => ?_
    cases i with
    | zero => simpa using h0
    | succ i =>
        have hbit := congrArg (fun d => d.getLsbD i) h
        simpa [Nat.add_comm] using hbit

theorem iterate_step_eq_zero_iff (hpoly : poly.getLsbD n = true) (k : ℕ) (c : BitVec (n + 1)) :
    (step poly)^[k] c = 0 ↔ c = 0 := by
  induction k generalizing c with
  | zero => rfl
  | succ k ih => rw [Function.iterate_succ_apply, ih, step_eq_zero_iff poly hpoly]

/-- The word of a short message, low bits first. -/
def word : List Bool → BitVec (n + 1)
  | [] => 0
  | b :: bits => lowBit b ^^^ (word bits <<< 1)

theorem getLsbD_word (bits : List Bool) {i : ℕ} (hi : i < n + 1) :
    (word bits : BitVec (n + 1)).getLsbD i = bits.getD i false := by
  induction bits generalizing i with
  | nil => simp [word]
  | cons b bits ih =>
      cases i with
      | zero =>
          simp only [word, BitVec.getLsbD_xor, getLsbD_lowBit, BitVec.getLsbD_shiftLeft]
          simp
      | succ i =>
          simp only [word, BitVec.getLsbD_xor, getLsbD_lowBit, BitVec.getLsbD_shiftLeft]
          simp [hi, ih (by omega : i < n + 1)]

/-- What is shifted up is shifted back. -/
theorem step_shiftLeft {c : BitVec (n + 1)} (h : c.getLsbD n = false) :
    step poly (c <<< 1) = c := by
  rw [step, if_neg (by simp)]
  refine BitVec.eq_of_getLsbD_eq fun i hi => ?_
  rw [BitVec.getLsbD_ushiftRight, BitVec.getLsbD_shiftLeft]
  rcases Nat.lt_succ_iff_lt_or_eq.1 hi with hlt | rfl
  · simp only [Nat.add_comm 1 i, Nat.add_sub_cancel]
    simp [hlt]
  · rw [h]
    simp

/-- A message no longer than the register enters it as one word. -/
theorem run_eq_iterate_step {bits : List Bool} (h : bits.length ≤ n + 1) (c : BitVec (n + 1)) :
    run poly c bits = (step poly)^[bits.length] (c ^^^ word bits) := by
  induction bits generalizing c with
  | nil => simp [word]
  | cons b bits ih =>
      rw [List.length_cons] at h
      have htop : (word bits : BitVec (n + 1)).getLsbD n = false := by
        rw [getLsbD_word bits (Nat.lt_succ_self n)]
        exact List.getD_eq_default _ _ (by omega)
      rw [run_cons, ih (by omega), List.length_cons, Function.iterate_succ_apply, word,
        ← BitVec.xor_assoc, step_xor poly (c ^^^ lowBit b), step_shiftLeft poly htop]

/-- **Bursts**: an error whose ones all lie within as many positions as the register has bits is
noticed. -/
theorem run_ne_zero_of_burst (hpoly : poly.getLsbD n = true) {bits : List Bool} {i : ℕ}
    (htrue : true ∈ bits)
    (hburst : ∀ j, bits.getD j false = true → i ≤ j ∧ j < i + (n + 1)) :
    run poly 0 bits ≠ 0 := by
  -- zeros, the window with the ones, and zeros again
  set w := (bits.drop i).take (n + 1) with hw
  have hsplit : bits = bits.take i ++ (w ++ (bits.drop i).drop (n + 1)) := by
    rw [hw, List.take_append_drop, List.take_append_drop]
  have hbefore : true ∉ bits.take i := by
    intro hmem
    obtain ⟨j, hj⟩ := List.mem_iff_getElem?.1 hmem
    rw [List.getElem?_take] at hj
    split_ifs at hj with hlt
    have := (hburst j (by rw [List.getD_eq_getElem?_getD, hj]; rfl)).1
    omega
  have hafter : true ∉ (bits.drop i).drop (n + 1) := by
    intro hmem
    obtain ⟨j, hj⟩ := List.mem_iff_getElem?.1 hmem
    rw [List.drop_drop, List.getElem?_drop] at hj
    have := (hburst _ (by rw [List.getD_eq_getElem?_getD, hj]; rfl)).2
    omega
  have hmem : true ∈ w := by
    rw [hsplit, List.mem_append, List.mem_append] at htrue
    rcases htrue with h | h | h
    · exact absurd h hbefore
    · exact h
    · exact absurd h hafter
  have hword : (word w : BitVec (n + 1)) ≠ 0 := by
    intro hzero
    obtain ⟨j, hj⟩ := List.mem_iff_getElem?.1 hmem
    have hlt : j < n + 1 := by
      have hlen := (List.getElem?_eq_some_iff.1 hj).1
      rw [hw, List.length_take] at hlen
      omega
    have hbit := getLsbD_word w hlt
    rw [hzero, List.getD_eq_getElem?_getD, hj] at hbit
    simp at hbit
  have hlength : w.length ≤ n + 1 := by
    rw [hw, List.length_take]
    exact Nat.min_le_left _ _
  rw [hsplit, run_append, run_append, run_of_not_mem poly hbefore, iterate_step_zero,
    run_of_not_mem poly hafter, Ne, iterate_step_eq_zero_iff poly hpoly,
    run_eq_iterate_step poly hlength, iterate_step_eq_zero_iff poly hpoly]
  simpa using hword

end Crc
