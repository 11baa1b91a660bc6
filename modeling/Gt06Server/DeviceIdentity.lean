/-
**The identity of a device.**

A terminal names itself in the first eight bytes of its login.  The decoder renders their sixteen
halves as characters and drops a leading zero, without asking whether they are decimal digits; the
bot accepts an IMEI of fifteen decimal digits.  This module proves that the rendering loses
nothing, that it reads back every packed IMEI, and exactly which logins name a device that an owner
can bind.

Main definitions:

* `Gt06.imeiNibbles` — the halves of the identifier;
* `Gt06.IsPackedImei` — a zero and fifteen decimal digits;
* `Gt06.packDigits` — digits packed two in a byte.

Main results:

* `Gt06.isValidImei_decodeBcdImei` — **the bot accepts exactly the packed IMEIs**;
* `Gt06.decodeBcdImei_injective` — the rendering is injective on eight bytes;
* `Gt06.login_imei_valid_iff` — the same of a login and its event;
* `Gt06.device_identity_faithful` — **two terminals never share a key, and a packed IMEI is read
  back.**
-/

import Gt06Server.Nibbles
import Gt06Server.Server
import Gt06Server.Registration

set_option relaxedAutoImplicit false
set_option autoImplicit false

namespace Gt06

/-! ### The halves of an identifier -/

/-- The halves of some bytes, in order. -/
def imeiNibbles (bytes : List UInt8) : List ℕ :=
  bytes.flatMap fun byte => [byte.toNat / 16, byte.toNat % 16]

/-- The characters `decode_bcd_imei` pushes. -/
def imeiChars (bytes : List UInt8) : List Char :=
  bytes.flatMap fun byte : UInt8 => [nibbleChar ((byte >>> 4) &&& 0x0F), nibbleChar (byte &&& 0x0F)]

@[simp] theorem length_imeiNibbles (bytes : List UInt8) :
    (imeiNibbles bytes).length = 2 * bytes.length := by
  simp [imeiNibbles, Nat.mul_comm]

@[simp] theorem length_imeiChars (bytes : List UInt8) :
    (imeiChars bytes).length = 2 * bytes.length := by
  simp [imeiChars, Nat.mul_comm]

theorem hiNibble_lt (byte : UInt8) : ((byte >>> 4) &&& 0x0F).toNat < 16 := by
  have hlt := byte.toNat_lt
  rw [toNat_hiNibble]
  omega

theorem loNibble_lt (byte : UInt8) : (byte &&& 0x0F).toNat < 16 := by
  rw [toNat_loNibble]
  omega

/-- The characters spell the halves. -/
theorem map_toNat_imeiChars (bytes : List UInt8) :
    (imeiChars bytes).map Char.toNat = (imeiNibbles bytes).map (48 + ·) := by
  induction bytes with
  | nil => rfl
  | cons byte bytes ih =>
      have hhi := toNat_nibbleChar (hiNibble_lt byte)
      have hlo := toNat_nibbleChar (loNibble_lt byte)
      rw [toNat_hiNibble] at hhi
      rw [toNat_loNibble] at hlo
      simp only [imeiChars, imeiNibbles, List.flatMap_cons, List.map_append] at ih ⊢
      rw [ih]
      simp [hhi, hlo]

/-- The bytes are determined by their halves. -/
theorem imeiNibbles_injective {bytes bytes' : List UInt8}
    (h : imeiNibbles bytes = imeiNibbles bytes') : bytes = bytes' := by
  induction bytes generalizing bytes' with
  | nil =>
      have hlength := congrArg List.length h
      rw [length_imeiNibbles, length_imeiNibbles] at hlength
      exact (List.length_eq_zero_iff.1 (by simpa using hlength.symm)).symm
  | cons byte bytes ih =>
      cases bytes' with
      | nil => simp [imeiNibbles] at h
      | cons byte' bytes' =>
          simp only [imeiNibbles, List.flatMap_cons, List.cons_append, List.nil_append,
            List.cons.injEq] at h
          obtain ⟨hhi, hlo, hrest⟩ := h
          rw [eq_of_nibbles hhi hlo, ih hrest]

theorem imeiChars_injective {bytes bytes' : List UInt8}
    (h : imeiChars bytes = imeiChars bytes') : bytes = bytes' := by
  have hmap := congrArg (List.map Char.toNat) h
  rw [map_toNat_imeiChars, map_toNat_imeiChars] at hmap
  exact imeiNibbles_injective
    (List.map_injective_iff.2 (fun a b hab => Nat.add_left_cancel hab) hmap)

/-! ### The rendering -/

/-- Of the sixteen characters of an identifier, a leading zero is dropped. -/
theorem toList_decodeBcdImei {bytes : List UInt8} (h : bytes.length = 8) :
    (decodeBcdImei bytes).toList =
      if (imeiChars bytes).head? = some '0' then (imeiChars bytes).tail else imeiChars bytes := by
  have hlength : (imeiChars bytes).length = 16 := by rw [length_imeiChars, h]
  change (if (imeiChars bytes).length = 16 ∧ (imeiChars bytes).head? = some '0' then
    String.ofList (imeiChars bytes).tail else String.ofList (imeiChars bytes)).toList = _
  simp only [hlength, true_and]
  split_ifs
  · exact String.toList_ofList
  · exact String.toList_ofList

theorem eq_cons_tail_of_head? {α : Type} {a : α} {l : List α} (h : l.head? = some a) :
    l = a :: l.tail := (List.cons_head?_tail h).symm

/-- The rendering of an identifier loses nothing: with and without a dropped zero it has two
different lengths. -/
theorem decodeBcdImei_injective {bytes bytes' : List UInt8} (hlen : bytes.length = 8)
    (hlen' : bytes'.length = 8) (h : decodeBcdImei bytes = decodeBcdImei bytes') :
    bytes = bytes' := by
  have hchars := congrArg String.toList h
  have hlength := congrArg List.length hchars
  rw [toList_decodeBcdImei hlen, toList_decodeBcdImei hlen'] at hchars hlength
  refine imeiChars_injective ?_
  split_ifs at hchars hlength with hzero hzero' hzero'
  · rw [eq_cons_tail_of_head? hzero, eq_cons_tail_of_head? hzero', hchars]
  -- fifteen characters are not sixteen
  · simp [hlen, hlen'] at hlength
  · simp [hlen, hlen'] at hlength
  · exact hchars

/-! ### What the bot accepts -/

theorem isValidImei_iff (imei : String) :
    isValidImei imei = true ↔
      imei.toList.length = 15 ∧ ∀ c ∈ imei.toList, c.isDigit = true := by
  constructor
  · intro h
    have hdigits := imeiDigits_of_isValidImei h
    exact ⟨hdigits.1, hdigits.2⟩
  · rintro ⟨hlength, hdigits⟩
    refine decide_eq_true ⟨?_, List.all_eq_true.2 hdigits⟩
    rw [utf8ByteSize_eq_length hdigits, hlength]

/-- An identifier of a zero and fifteen decimal digits. -/
def IsPackedImei (bytes : List UInt8) : Prop :=
  (imeiNibbles bytes).head? = some 0 ∧ ∀ digit ∈ (imeiNibbles bytes).tail, digit ≤ 9

instance (bytes : List UInt8) : Decidable (IsPackedImei bytes) :=
  inferInstanceAs (Decidable (_ ∧ _))

/-- A decimal digit, as a number. -/
theorem isDigit_iff_toNat (c : Char) : c.isDigit = true ↔ 48 ≤ c.toNat ∧ c.toNat ≤ 57 := by
  rw [Char.isDigit, Bool.and_eq_true, decide_eq_true_eq, decide_eq_true_eq, ge_iff_le,
    UInt32.le_iff_toNat_le, UInt32.le_iff_toNat_le]
  exact Iff.rfl

/-- Which characters of an identifier are decimal digits. -/
theorem forall_isDigit_imeiChars (bytes : List UInt8) (k : ℕ) :
    (∀ c ∈ (imeiChars bytes).drop k, c.isDigit = true) ↔
      ∀ digit ∈ (imeiNibbles bytes).drop k, digit ≤ 9 := by
  have hmap : ((imeiChars bytes).drop k).map Char.toNat =
      ((imeiNibbles bytes).drop k).map (48 + ·) := by
    rw [List.map_drop, map_toNat_imeiChars, List.map_drop]
  constructor
  · intro h digit hmem
    have hin : 48 + digit ∈ ((imeiChars bytes).drop k).map Char.toNat := by
      rw [hmap]
      exact List.mem_map_of_mem hmem
    obtain ⟨c, hc, heq⟩ := List.mem_map.1 hin
    have := (isDigit_iff_toNat c).1 (h c hc)
    omega
  · intro h c hmem
    have hin : c.toNat ∈ ((imeiNibbles bytes).drop k).map (48 + ·) := by
      rw [← hmap]
      exact List.mem_map_of_mem hmem
    obtain ⟨digit, hdigit, heq⟩ := List.mem_map.1 hin
    have hle := h digit hdigit
    exact (isDigit_iff_toNat c).2 (by omega)

/-- A character spells a zero exactly when its half is zero. -/
theorem head?_imeiChars (bytes : List UInt8) :
    (imeiChars bytes).head? = some '0' ↔ (imeiNibbles bytes).head? = some 0 := by
  cases bytes with
  | nil => simp [imeiChars, imeiNibbles]
  | cons byte bytes =>
      have hzero := nibbleChar_eq_zero (hiNibble_lt byte)
      rw [toNat_hiNibble] at hzero
      simp only [imeiChars, imeiNibbles, List.flatMap_cons, List.cons_append, List.head?_cons,
        Option.some.injEq]
      exact hzero

/-- **The bot accepts exactly the packed IMEIs.** -/
theorem isValidImei_decodeBcdImei {bytes : List UInt8} (h : bytes.length = 8) :
    isValidImei (decodeBcdImei bytes) = true ↔ IsPackedImei bytes := by
  have htail := forall_isDigit_imeiChars bytes 1
  rw [List.drop_one, List.drop_one] at htail
  rw [isValidImei_iff, toList_decodeBcdImei h, IsPackedImei, ← head?_imeiChars]
  split_ifs with hzero
  · rw [htail, List.length_tail, length_imeiChars, h]
    simp [hzero]
  · rw [length_imeiChars, h]
    simp [hzero]

/-! ### Packed IMEIs -/

/-- Decimal digits, two in a byte. -/
def packDigits : List Char → List UInt8
  | hi :: lo :: digits =>
      UInt8.ofNat ((hi.toNat - 48) * 16 + (lo.toNat - 48)) :: packDigits digits
  | _ => []

/-- Packed digits are read back. -/
theorem imeiChars_packDigits {digits : List Char} (h : ∀ c ∈ digits, c.isDigit = true)
    (heven : Even digits.length) : imeiChars (packDigits digits) = digits := by
  induction digits using packDigits.induct with
  | case1 hi lo digits ih =>
      have hhi := (isDigit_iff_toNat hi).1 (h hi (List.mem_cons_self ..))
      have hlo := (isDigit_iff_toNat lo).1 (h lo (List.mem_cons_of_mem _ (List.mem_cons_self ..)))
      have hbyte : (UInt8.ofNat ((hi.toNat - 48) * 16 + (lo.toNat - 48))).toNat =
          (hi.toNat - 48) * 16 + (lo.toNat - 48) := by
        rw [UInt8.toNat_ofNat']
        omega
      have hrest := ih (fun c hc => h c (List.mem_cons_of_mem _ (List.mem_cons_of_mem _ hc)))
        (by simpa [Nat.even_add_one] using heven)
      have hchar : ∀ {nibble : UInt8} {c : Char}, c.isDigit = true →
          nibble.toNat = c.toNat - 48 → nibbleChar nibble = c := by
        intro nibble c hc hnibble
        have hrange := (isDigit_iff_toNat c).1 hc
        have hsum : '0'.toNat + nibble.toNat = c.toNat := by
          rw [hnibble, show '0'.toNat = 48 from rfl]
          omega
        rw [nibbleChar, hsum, Char.ofNat_toNat]
      rw [packDigits, imeiChars, List.flatMap_cons, ← imeiChars, hrest,
        hchar ((isDigit_iff_toNat hi).2 hhi) (by rw [toNat_hiNibble, hbyte]; omega),
        hchar ((isDigit_iff_toNat lo).2 hlo) (by rw [toNat_loNibble, hbyte]; omega)]
      rfl
  | case2 digits hshort =>
      cases digits with
      | nil => rfl
      | cons c rest =>
          cases rest with
          | nil => simp at heven
          | cons d rest => exact absurd rfl (hshort c d rest)

theorem length_packDigits {digits : List Char} {k : ℕ} (h : digits.length = 2 * k) :
    (packDigits digits).length = k := by
  induction k generalizing digits with
  | zero =>
      rw [List.length_eq_zero_iff.1 h]
      rfl
  | succ k ih =>
      match digits, h with
      | hi :: lo :: digits, h =>
          rw [packDigits, List.length_cons, ih (by simp at h; omega)]

/-- A packed IMEI is rendered as it was. -/
theorem decodeBcdImei_packDigits {imei : String} (hlength : imei.toList.length = 15)
    (hdigits : ∀ c ∈ imei.toList, c.isDigit = true) :
    decodeBcdImei (packDigits ('0' :: imei.toList)) = imei := by
  have hall : ∀ c ∈ '0' :: imei.toList, c.isDigit = true := by
    intro c hc
    rcases List.mem_cons.1 hc with rfl | hc
    · rfl
    · exact hdigits c hc
  have hlen : ('0' :: imei.toList).length = 2 * 8 := by rw [List.length_cons, hlength]
  have hchars := imeiChars_packDigits hall ⟨8, hlen.trans (Nat.two_mul 8)⟩
  refine String.toList_inj.1 ?_
  rw [toList_decodeBcdImei (length_packDigits hlen), hchars]
  exact if_pos rfl

/-! ### Logins -/

/-- What a frame that decodes to a login says. -/
theorem login_of_decodeMessage {frame : Frame} {packet : LoginPacket}
    (h : decodeMessage frame = .ok (.login packet)) :
    8 ≤ frame.payload.length ∧ packet.imei = decodeBcdImei (frame.payload.take 8) ∧
      packet.extraData = frame.payload.drop 8 := by
  have hprotocol := protocolNumber_of_decodeMessage_login h
  rw [decodeMessage, if_pos hprotocol, decodeLogin] at h
  split_ifs at h with hshort
  obtain rfl : _ = packet := by simpa using h
  exact ⟨by omega, rfl, rfl⟩

/-- **A login names a device that the bot accepts exactly when its identifier is a packed IMEI**;
the device under that name is the one its event reports. -/
theorem login_imei_valid_iff (frame : Frame) (packet : LoginPacket)
    (h : decodeMessage frame = .ok (.login packet)) :
    (isValidImei packet.imei = true ↔ IsPackedImei (frame.payload.take 8)) ∧
      ∀ (peerAddr : SocketAddr) (c : Connection), (handleFrame peerAddr c frame).raised =
        c.raised ++ [.login peerAddr packet.imei frame.serial] := by
  obtain ⟨hlength, himei, -⟩ := login_of_decodeMessage h
  constructor
  · rw [himei]
    exact isValidImei_decodeBcdImei (by simp [hlength])
  · intro peerAddr c
    rw [handleFrame, h]

/-- The login of a terminal whose identifier begins with the digit one. -/
def sixteenDigitLogin : Frame where
  protocolNumber := protocolLogin
  payload := [0x12, 0x34, 0x56, 0x78, 0x90, 0x12, 0x34, 0x56]
  serial := 1

theorem login_imei_valid_iff_sixteenDigits :
    isValidImei "1234567890123456" = true ↔ IsPackedImei (sixteenDigitLogin.payload.take 8) :=
  (login_imei_valid_iff sixteenDigitLogin { imei := "1234567890123456", extraData := [] }
    (by decide +kernel)).1

/-- A login without a leading zero reports a name of sixteen digits, which the bot rejects. -/
theorem sixteenDigitLogin_rejected :
    ∃ packet, decodeMessage sixteenDigitLogin = .ok (.login packet) ∧
      packet.imei = "1234567890123456" ∧ isValidImei packet.imei = false :=
  ⟨{ imei := "1234567890123456", extraData := [] }, by decide +kernel, rfl, by decide +kernel⟩

/-- **The identity of a device is faithful**: two logins under one name have one identifier; and
fifteen decimal digits, packed behind a zero and followed by any data, are read back with the
data. -/
theorem device_identity_faithful :
    (∀ (frame frame' : Frame) (packet packet' : LoginPacket),
      decodeMessage frame = .ok (.login packet) → decodeMessage frame' = .ok (.login packet') →
        packet.imei = packet'.imei → frame.payload.take 8 = frame'.payload.take 8) ∧
      ∀ (imei : String) (extraData : List UInt8) (serial : UInt16),
        imei.toList.length = 15 → (∀ c ∈ imei.toList, c.isDigit = true) →
          decodeMessage
              ⟨protocolLogin, packDigits ('0' :: imei.toList) ++ extraData, serial⟩ =
            .ok (.login { imei := imei, extraData := extraData }) := by
  constructor
  · intro frame frame' packet packet' h h' himei
    obtain ⟨hlength, hname, -⟩ := login_of_decodeMessage h
    obtain ⟨hlength', hname', -⟩ := login_of_decodeMessage h'
    rw [hname, hname'] at himei
    exact decodeBcdImei_injective (by simp [hlength]) (by simp [hlength']) himei
  · intro imei extraData serial hlength hdigits
    have hlen : (packDigits ('0' :: imei.toList)).length = 8 :=
      length_packDigits (by rw [List.length_cons, hlength])
    rw [decodeMessage, if_pos rfl, decodeLogin, if_neg (by simp [hlen]), List.take_left' hlen,
      List.drop_left' hlen, decodeBcdImei_packDigits hlength hdigits]

end Gt06
