/-
**The two digits of a byte.**

A byte of the protocol often stands for two digits, one in each half: the digits of an IMEI, of a
date in binary-coded decimal, of a hexadecimal rendering, and two four-bit fields of a location.
This module reads the halves as numbers and shows that each of these uses tells two bytes apart.

Main definitions:

* `Gt06.IsBcd` — both halves of a byte are decimal digits.

Main results:

* `Gt06.eq_of_nibbles` — a byte is determined by its halves;
* `Gt06.toNat_nibbleChar` — the character of a nibble;
* `Gt06.bcdToDecimal_injective` — the decimal value determines a byte of two decimal digits.
-/

import Gt06Server.Protocol

set_option relaxedAutoImplicit false
set_option autoImplicit false

namespace Gt06

/-! ### The halves of a byte -/

theorem toNat_shiftRight_four (byte : UInt8) : (byte >>> 4).toNat = byte.toNat / 16 := by
  rw [UInt8.toNat_shiftRight]
  exact Nat.shiftRight_eq_div_pow byte.toNat 4

@[simp] theorem toNat_loNibble (byte : UInt8) : (byte &&& 0x0F).toNat = byte.toNat % 16 := by
  rw [UInt8.toNat_and]
  exact Nat.and_two_pow_sub_one_eq_mod byte.toNat 4

@[simp] theorem toNat_hiNibble (byte : UInt8) :
    ((byte >>> 4) &&& 0x0F).toNat = byte.toNat / 16 := by
  have hlt := byte.toNat_lt
  rw [toNat_loNibble, toNat_shiftRight_four, Nat.mod_eq_of_lt (by omega)]

/-- A byte is determined by its halves. -/
theorem eq_of_nibbles {a b : UInt8} (hhi : a.toNat / 16 = b.toNat / 16)
    (hlo : a.toNat % 16 = b.toNat % 16) : a = b := by
  refine UInt8.toNat_inj.1 ?_
  omega

/-! ### The characters of an IMEI -/

theorem toNat_nibbleChar {nibble : UInt8} (h : nibble.toNat < 16) :
    (nibbleChar nibble).toNat = 48 + nibble.toNat := by
  rw [nibbleChar]
  generalize nibble.toNat = k at h
  interval_cases k <;> decide

theorem nibbleChar_eq_zero {nibble : UInt8} (h : nibble.toNat < 16) :
    nibbleChar nibble = '0' ↔ nibble.toNat = 0 := by
  rw [nibbleChar]
  generalize nibble.toNat = k at h
  interval_cases k <;> decide

/-! ### Binary-coded decimals -/

/-- Both halves of a byte are decimal digits. -/
def IsBcd (byte : UInt8) : Prop := byte.toNat / 16 ≤ 9 ∧ byte.toNat % 16 ≤ 9

instance (byte : UInt8) : Decidable (IsBcd byte) := inferInstanceAs (Decidable (_ ∧ _))

theorem toNat_bcdToDecimal (byte : UInt8) :
    (bcdToDecimal byte).toNat = byte.toNat / 16 * 10 + byte.toNat % 16 := by
  have hlt := byte.toNat_lt
  rw [bcdToDecimal, UInt8.toNat_add, UInt8.toNat_mul, toNat_hiNibble, toNat_loNibble]
  have h10 : (10 : UInt8).toNat = 10 := rfl
  rw [h10]
  omega

/-- The decimal value determines a byte of two decimal digits. -/
theorem bcdToDecimal_injective {a b : UInt8} (ha : IsBcd a) (hb : IsBcd b)
    (h : bcdToDecimal a = bcdToDecimal b) : a = b := by
  have heq := congrArg UInt8.toNat h
  rw [toNat_bcdToDecimal, toNat_bcdToDecimal] at heq
  rw [IsBcd] at ha hb
  exact eq_of_nibbles (by omega) (by omega)

end Gt06
