/-
**What the location archive keeps of a frame.**

A location frame is decoded into a packet, and the packet is stored as columns: the timestamp as
an instant, the coordinates as signed quotients, the small fields as numbers and the extra data in
hexadecimal.  The packet no longer says under which protocol number it came; the statements derive
it from whether there are extra data.  This module proves that the columns determine the payload,
and when the protocol number they show is the one of the frame.

Main definitions:

* `Gt06.yearStart`, `Gt06.dayOfMarchYear` — the two parts of a day number;
* `Gt06.DatedByTerminal` — the timestamp of a payload is a date of the calendar in decimal
  nibbles;
* `Gt06.SameColumns` — two rows that show one location;
* `Gt06.StoredAs` — the protocol number and the family that a transaction stores.

Main results:

* `Gt06.naiveDateTime_injective` — an instant determines its date and its time of day;
* `Gt06.formatBytesHex_injective` — the hexadecimal text determines the bytes;
* `Gt06.location_archive_lossless` — **the archive loses nothing**;
* `Gt06.storedAs_iff` — **the stored family is the frame's own exactly when the frame is a `0x12`
  or carries extra data.**
-/

import Gt06Server.Nibbles
import Gt06Server.DeviceSnapshots

set_option relaxedAutoImplicit false
set_option autoImplicit false

namespace Gt06

/-! ### Days of the calendar -/

/-- The days before the year that begins in March of `y`. -/
def yearStart (y : ℤ) : ℤ := y * 365 + y / 4 - y / 100 + y / 400

/-- The year, counted from March, of a month. -/
def marchYear (year month : ℕ) : ℤ := if month ≤ 2 then year - 1 else year

/-- The number of a month, counted from March. -/
def monthFromMarch (month : ℕ) : ℤ := ((month : ℤ) + 9) % 12

/-- The day in its year counted from March. -/
def dayOfMarchYear (month day : ℕ) : ℤ := (153 * monthFromMarch month + 2) / 5 + day - 1

/-- A date of the calendar. -/
structure IsDate (year month day : ℕ) : Prop where
  month_pos : 1 ≤ month
  month_le : month ≤ 12
  day_pos : 1 ≤ day
  day_le : day ≤ daysInMonth year month

theorem daysFromCivil_eq (year month day : ℕ) :
    daysFromCivil year month day =
      yearStart (marchYear year month) + dayOfMarchYear month day - 719468 := rfl

theorem yearStart_mono {y y' : ℤ} (h : y ≤ y') : yearStart y ≤ yearStart y' := by
  unfold yearStart
  omega

theorem isLeapYear_iff (year : ℕ) :
    isLeapYear year = true ↔ year % 4 = 0 ∧ (year % 100 ≠ 0 ∨ year % 400 = 0) :=
  decide_eq_true_iff

/-- A day lies within its year. -/
theorem IsDate.day_lt_year {year month day : ℕ} (h : IsDate year month day) :
    0 ≤ dayOfMarchYear month day ∧
      yearStart (marchYear year month) + dayOfMarchYear month day <
        yearStart (marchYear year month + 1) := by
  obtain ⟨hpos, hle, hday, hlast⟩ := h
  have hleap := isLeapYear_iff year
  unfold yearStart marchYear dayOfMarchYear monthFromMarch
  unfold daysInMonth at hlast
  by_cases hfebruary : month = 2
  · -- the twenty-ninth of February is the last day of a leap year
    subst hfebruary
    simp only [if_true, le_refl] at hlast ⊢
    by_cases hyear : isLeapYear year = true
    · rw [if_pos hyear] at hlast
      have := hleap.1 hyear
      omega
    · rw [if_neg hyear] at hlast
      omega
  · interval_cases month
    all_goals simp at hlast hfebruary ⊢
    all_goals omega

/-- A day lies within its month, and February ends the year. -/
theorem IsDate.day_lt_month {year month day : ℕ} (h : IsDate year month day)
    (hfebruary : month ≠ 2) :
    dayOfMarchYear month day < (153 * (monthFromMarch month + 1) + 2) / 5 := by
  obtain ⟨hpos, hle, hday, hlast⟩ := h
  unfold dayOfMarchYear monthFromMarch
  unfold daysInMonth at hlast
  interval_cases month
  all_goals simp at hlast hfebruary ⊢
  all_goals omega

theorem monthFromMarch_range (month : ℕ) :
    0 ≤ monthFromMarch month ∧ monthFromMarch month ≤ 11 ∧
      (month = 2 → monthFromMarch month = 11) := by
  unfold monthFromMarch
  omega

/-- Days of an earlier month come earlier in the year. -/
theorem IsDate.day_lt_of_month_lt {year month day month' day' : ℕ} (h : IsDate year month day)
    (hday' : 1 ≤ day') (hlt : monthFromMarch month < monthFromMarch month') :
    dayOfMarchYear month day < dayOfMarchYear month' day' := by
  have hrange := monthFromMarch_range month
  have hrange' := monthFromMarch_range month'
  have hmonth := h.day_lt_month fun hfebruary => by
    have := hrange.2.2 hfebruary
    omega
  unfold dayOfMarchYear at hmonth ⊢
  omega

/-- A day number determines its date. -/
theorem daysFromCivil_injective {year month day year' month' day' : ℕ}
    (h : IsDate year month day) (h' : IsDate year' month' day')
    (heq : daysFromCivil year month day = daysFromCivil year' month' day') :
    year = year' ∧ month = month' ∧ day = day' := by
  rw [daysFromCivil_eq, daysFromCivil_eq] at heq
  have hday := h.day_lt_year
  have hday' := h'.day_lt_year
  -- the years counted from March are the same, since a day lies within its year
  have hyear : marchYear year month = marchYear year' month' := by
    rcases lt_trichotomy (marchYear year month) (marchYear year' month') with hlt | hyear | hlt
    · have := yearStart_mono (Int.add_one_le_of_lt hlt)
      omega
    · exact hyear
    · have := yearStart_mono (Int.add_one_le_of_lt hlt)
      omega
  rw [hyear] at heq
  -- so are the months, since a day lies within its month
  have hmonth : monthFromMarch month = monthFromMarch month' := by
    rcases lt_trichotomy (monthFromMarch month) (monthFromMarch month') with hlt | hmonth | hlt
    · have := h.day_lt_of_month_lt h'.day_pos hlt
      omega
    · exact hmonth
    · have := h'.day_lt_of_month_lt h.day_pos hlt
      omega
  have hm : month = month' := by
    have h₁ := h.month_pos
    have h₂ := h.month_le
    have h₃ := h'.month_pos
    have h₄ := h'.month_le
    unfold monthFromMarch at hmonth
    omega
  subst hm
  refine ⟨?_, rfl, ?_⟩
  · unfold marchYear at hyear
    split_ifs at hyear
    · omega
    · omega
  · unfold dayOfMarchYear at heq
    omega

/-! ### Instants -/

/-- What it means that a timestamp is an instant. -/
theorem naiveDateTime_eq_some {timestamp : GpsTimestamp} {micros : ℤ}
    (h : naiveDateTime timestamp = some micros) :
    IsDate timestamp.year.toNat timestamp.month.toNat timestamp.day.toNat ∧
      timestamp.hour.toNat < 24 ∧ timestamp.minute.toNat < 60 ∧ timestamp.second.toNat < 60 ∧
      micros =
        (((daysFromCivil timestamp.year.toNat timestamp.month.toNat timestamp.day.toNat * 24 +
        timestamp.hour.toNat) * 60 + timestamp.minute.toNat) * 60 + timestamp.second.toNat) *
          microsPerSecond := by
  simp only [naiveDateTime] at h
  split_ifs at h with hvalid
  obtain ⟨h₁, h₂, h₃, h₄, h₅, h₆, h₇⟩ := hvalid
  exact ⟨⟨h₁, h₂, h₃, h₄⟩, h₅, h₆, h₇, (Option.some.inj h).symm⟩

/-- **An instant determines its date and its time of day.** -/
theorem naiveDateTime_injective {timestamp timestamp' : GpsTimestamp} {micros : ℤ}
    (h : naiveDateTime timestamp = some micros) (h' : naiveDateTime timestamp' = some micros) :
    timestamp = timestamp' := by
  obtain ⟨hdate, hhour, hminute, hsecond, hmicros⟩ := naiveDateTime_eq_some h
  obtain ⟨hdate', hhour', hminute', hsecond', hmicros'⟩ := naiveDateTime_eq_some h'
  rw [hmicros] at hmicros'
  unfold microsPerSecond at hmicros'
  have hdays : daysFromCivil timestamp.year.toNat timestamp.month.toNat timestamp.day.toNat =
      daysFromCivil timestamp'.year.toNat timestamp'.month.toNat timestamp'.day.toNat := by
    omega
  obtain ⟨hyear, hmonth, hday⟩ := daysFromCivil_injective hdate hdate' hdays
  obtain ⟨year, month, day, hour, minute, second⟩ := timestamp
  obtain ⟨year', month', day', hour', minute', second'⟩ := timestamp'
  simp only at hyear hmonth hday hhour hhour' hminute hminute' hsecond hsecond' hdays hmicros'
  rw [GpsTimestamp.mk.injEq]
  refine ⟨UInt16.toNat_inj.1 hyear, UInt8.toNat_inj.1 hmonth, UInt8.toNat_inj.1 hday,
    UInt8.toNat_inj.1 ?_, UInt8.toNat_inj.1 ?_, UInt8.toNat_inj.1 ?_⟩
  all_goals omega

/-! ### Hexadecimal texts -/

/-- The text of one byte. -/
def hexPair (byte : UInt8) : List Char := [nibbleToHex (byte >>> 4), nibbleToHex (byte &&& 0x0F)]

theorem nibbleToHex_injective {a b : UInt8} (ha : a.toNat < 16) (hb : b.toNat < 16)
    (h : nibbleToHex a = nibbleToHex b) : a.toNat = b.toNat := by
  have hvalue : ∀ {n : UInt8}, n.toNat < 16 →
      (nibbleToHex n).toNat = if n.toNat ≤ 9 then 48 + n.toNat else 55 + n.toNat := by
    intro n hn
    have hle : n ≤ 9 ↔ n.toNat ≤ 9 := UInt8.le_iff_toNat_le
    rw [nibbleToHex]
    simp only [hle]
    generalize n.toNat = k at hn
    interval_cases k <;> decide
  have heq := congrArg Char.toNat h
  rw [hvalue ha, hvalue hb] at heq
  split_ifs at heq
  all_goals omega

theorem hexPair_injective {a b : UInt8} (h : hexPair a = hexPair b) : a = b := by
  have hbyte := a.toNat_lt
  have hbyte' := b.toNat_lt
  simp only [hexPair, List.cons.injEq, and_true] at h
  refine eq_of_nibbles ?_ ?_
  · have := nibbleToHex_injective (by rw [toNat_shiftRight_four]; omega)
      (by rw [toNat_shiftRight_four]; omega) h.1
    simpa only [toNat_shiftRight_four] using this
  · have := nibbleToHex_injective (by rw [toNat_loNibble]; omega)
      (by rw [toNat_loNibble]; omega) h.2
    simpa only [toNat_loNibble] using this

theorem toList_formatBytesHex (bytes : List UInt8) :
    (formatBytesHex bytes).toList = [' '].intercalate (bytes.map hexPair) := by
  rw [formatBytesHex, String.toList_intercalate, List.map_map]
  refine congrArg _ (List.map_congr_left fun byte _ => ?_)
  exact String.toList_ofList

/-- The text of one byte comes first, and what follows begins with a space. -/
theorem intercalate_hexPair_cons (byte : UInt8) (bytes : List UInt8) :
    [' '].intercalate ((byte :: bytes).map hexPair) =
      hexPair byte ++ if bytes = [] then [] else ' ' :: [' '].intercalate (bytes.map hexPair) := by
  cases bytes with
  | nil => simp
  | cons next bytes =>
      rw [List.map_cons, List.map_cons, List.intercalate_cons_cons, if_neg (by simp),
        List.append_assoc]
      rfl

/-- **The hexadecimal text determines the bytes.** -/
theorem formatBytesHex_injective {bytes bytes' : List UInt8}
    (h : formatBytesHex bytes = formatBytesHex bytes') : bytes = bytes' := by
  have hlist := congrArg String.toList h
  rw [toList_formatBytesHex, toList_formatBytesHex] at hlist
  clear h
  induction bytes generalizing bytes' with
  | nil =>
      cases bytes' with
      | nil => rfl
      | cons byte' bytes' =>
          rw [intercalate_hexPair_cons] at hlist
          simp [hexPair] at hlist
  | cons byte bytes ih =>
      cases bytes' with
      | nil =>
          rw [intercalate_hexPair_cons] at hlist
          simp [hexPair] at hlist
      | cons byte' bytes' =>
          rw [intercalate_hexPair_cons, intercalate_hexPair_cons] at hlist
          obtain ⟨hpair, hrest⟩ := List.append_inj hlist rfl
          rw [hexPair_injective hpair]
          congr 1
          -- a text goes on exactly when there are more bytes
          split_ifs at hrest with hnil hnil' hnil'
          · rw [hnil, hnil']
          · exact ih (List.cons.inj hrest).2

/-! ### The fields of a payload -/

/-- The byte at a position of a payload. -/
def byteAt (frame : Frame) (i : ℕ) : UInt8 := frame.payload.getD i 0

/-- The packet that a payload of at least eighteen bytes is decoded to. -/
theorem decodeLocationPayload_eq_ok {frame : Frame} {packet : LocationPacket}
    {allowExtraData : Bool} {timestampEncoding : TimestampEncoding}
    {hemisphereEncoding : HemisphereEncoding}
    (h : decodeLocationPayload frame allowExtraData timestampEncoding hemisphereEncoding =
      .ok (.location packet)) :
    18 ≤ frame.payload.length ∧ ∃ courseStatus coordinates,
      courseStatus = u16FromBeBytes (byteAt frame 16) (byteAt frame 17) ∧
      coordinates = decodeCoordinates
        (u32FromBeBytes (byteAt frame 7) (byteAt frame 8) (byteAt frame 9) (byteAt frame 10))
        (u32FromBeBytes (byteAt frame 11) (byteAt frame 12) (byteAt frame 13) (byteAt frame 14))
        courseStatus hemisphereEncoding ∧
      packet =
        { timestamp := decodeTimestamp (byteAt frame 0) (byteAt frame 1) (byteAt frame 2)
            (byteAt frame 3) (byteAt frame 4) (byteAt frame 5) timestampEncoding
          gpsInfoLength := byteAt frame 6 >>> 4
          satelliteCount := byteAt frame 6 &&& 0x0F
          latitude := coordinates.1
          longitude := coordinates.2
          speedKph := byteAt frame 15
          course := courseStatus &&& 0x03FF
          courseStatus := courseStatus
          extraData := if allowExtraData then frame.payload.drop 18 else [] } := by
  unfold decodeLocationPayload at h
  by_cases hshort : frame.payload.length < 18
  · rw [dif_pos hshort] at h
    simp at h
  rw [dif_neg hshort] at h
  have hbyte : ∀ i (hi : i < frame.payload.length), frame.payload[i] = byteAt frame i :=
    fun i hi => (List.getD_eq_getElem _ _ hi).symm
  simp only [hbyte, Except.ok.injEq, Gt06Message.location.injEq] at h
  exact ⟨by omega, _, _, rfl, rfl, h.symm⟩

/-- Payloads with the same first eighteen bytes. -/
theorem take_eq_of_byteAt {frame frame' : Frame} (hlen : 18 ≤ frame.payload.length)
    (hlen' : 18 ≤ frame'.payload.length) (h : ∀ i < 18, byteAt frame i = byteAt frame' i) :
    frame.payload.take 18 = frame'.payload.take 18 := by
  refine List.ext_getElem (by simp [hlen, hlen']) fun i hi hi' => ?_
  have h18 : i < 18 := by
    rw [List.length_take] at hi
    omega
  rw [List.getElem_take, List.getElem_take]
  have := h i h18
  rwa [byteAt, byteAt, List.getD_eq_getElem _ _ (by omega), List.getD_eq_getElem _ _ (by omega)]
    at this

/-- What a frame that decodes to a location says of itself. -/
theorem location_of_decodeMessage {frame : Frame} {packet : LocationPacket}
    (h : decodeMessage frame = .ok (.location packet)) :
    (frame.protocolNumber = protocolLocation ∧ decodeLocation frame = .ok (.location packet)) ∨
      (frame.protocolNumber = protocolExtendedLocation ∧
        decodeExtendedLocation frame = .ok (.location packet)) := by
  unfold decodeMessage at h
  split_ifs at h with hlogin hheartbeat hlocation hextended
  · unfold decodeLogin at h
    split_ifs at h
    simp at h
  · unfold decodeHeartbeat at h
    split_ifs at h
    simp at h
  · exact Or.inl ⟨hlocation, h⟩
  · exact Or.inr ⟨hextended, h⟩
  · simp at h

/-- Exactly the frames of the two location protocols with a long enough payload decode to a
location. -/
theorem decodeMessage_location_iff (frame : Frame) :
    (∃ packet, decodeMessage frame = .ok (.location packet)) ↔
      (frame.protocolNumber = protocolLocation ∨
        frame.protocolNumber = protocolExtendedLocation) ∧ 18 ≤ frame.payload.length := by
  constructor
  · rintro ⟨packet, h⟩
    rcases location_of_decodeMessage h with ⟨hprotocol, h⟩ | ⟨hprotocol, h⟩
    · exact ⟨Or.inl hprotocol, (decodeLocationPayload_eq_ok h).1⟩
    · exact ⟨Or.inr hprotocol, (decodeLocationPayload_eq_ok h).1⟩
  · rintro ⟨hprotocol | hprotocol, hlength⟩
    · rw [decodeMessage, if_neg (by rw [hprotocol]; decide), if_neg (by rw [hprotocol]; decide),
        if_pos hprotocol, decodeLocation, decodeLocationPayload, dif_neg (by omega)]
      exact ⟨_, rfl⟩
    · rw [decodeMessage, if_neg (by rw [hprotocol]; decide), if_neg (by rw [hprotocol]; decide),
        if_neg (by rw [hprotocol]; decide), if_pos hprotocol, decodeExtendedLocation,
        decodeLocationPayload, dif_neg (by omega)]
      exact ⟨_, rfl⟩

/-! ### The columns determine the payload -/

/-- The timestamp of a payload is a date of the calendar, and the bytes of it that are in
binary-coded decimal are of decimal nibbles. -/
structure DatedByTerminal (frame : Frame) (packet : LocationPacket) : Prop where
  calendar : (naiveDateTime packet.timestamp).isSome
  decimal : ∀ i < 6, (frame.protocolNumber = protocolLocation ∨ 4 ≤ i) → IsBcd (byteAt frame i)

/-- Two rows that show one location. -/
structure SameColumns (row row' : LocationRow) : Prop where
  gpsTimestamp : row.gpsTimestamp = row'.gpsTimestamp
  latitude : row.latitude = row'.latitude
  longitude : row.longitude = row'.longitude
  speedKph : row.speedKph = row'.speedKph
  course : row.course = row'.course
  courseStatus : row.courseStatus = row'.courseStatus
  satelliteCount : row.satelliteCount = row'.satelliteCount
  gpsInfoLength : row.gpsInfoLength = row'.gpsInfoLength
  extraDataHex : row.extraDataHex = row'.extraDataHex

theorem u16FromBeBytes_injective {hi lo hi' lo' : UInt8}
    (h : u16FromBeBytes hi lo = u16FromBeBytes hi' lo') : hi = hi' ∧ lo = lo' := by
  have hbytes := congrArg u16ToBeBytes h
  rw [u16ToBeBytes_fromBeBytes, u16ToBeBytes_fromBeBytes] at hbytes
  simpa using hbytes

theorem toNat_u32FromBeBytes (b₀ b₁ b₂ b₃ : UInt8) :
    (u32FromBeBytes b₀ b₁ b₂ b₃).toNat =
      ((b₀.toNat * 256 + b₁.toNat) * 256 + b₂.toNat) * 256 + b₃.toNat := by
  have h₀ := b₀.toNat_lt
  have h₁ := b₁.toNat_lt
  have h₂ := b₂.toNat_lt
  have h₃ := b₃.toNat_lt
  rw [u32FromBeBytes, UInt32.toNat_ofNat']
  omega

theorem u32FromBeBytes_injective {b₀ b₁ b₂ b₃ c₀ c₁ c₂ c₃ : UInt8}
    (h : u32FromBeBytes b₀ b₁ b₂ b₃ = u32FromBeBytes c₀ c₁ c₂ c₃) :
    b₀ = c₀ ∧ b₁ = c₁ ∧ b₂ = c₂ ∧ b₃ = c₃ := by
  have h₀ := b₀.toNat_lt
  have h₁ := b₁.toNat_lt
  have h₂ := b₂.toNat_lt
  have h₃ := b₃.toNat_lt
  have h₀' := c₀.toNat_lt
  have h₁' := c₁.toNat_lt
  have h₂' := c₂.toNat_lt
  have h₃' := c₃.toNat_lt
  have heq := congrArg UInt32.toNat h
  rw [toNat_u32FromBeBytes, toNat_u32FromBeBytes] at heq
  refine ⟨UInt8.toNat_inj.1 ?_, UInt8.toNat_inj.1 ?_, UInt8.toNat_inj.1 ?_,
    UInt8.toNat_inj.1 ?_⟩
  all_goals omega

/-- Under one course status, the coordinates determine the raw values, a zero among them. -/
theorem decodeCoordinates_injective {lat lon lat' lon' : UInt32} {courseStatus : UInt16}
    {encoding : HemisphereEncoding}
    (h₁ : (decodeCoordinates lat lon courseStatus encoding).1 =
      (decodeCoordinates lat' lon' courseStatus encoding).1)
    (h₂ : (decodeCoordinates lat lon courseStatus encoding).2 =
      (decodeCoordinates lat' lon' courseStatus encoding).2) : lat = lat' ∧ lon = lon' := by
  have hraw : ∀ {a b : UInt32}, (a.toNat : ℚ) / 1800000 = b.toNat / 1800000 → a = b := by
    intro a b hab
    have hcast : (a.toNat : ℚ) = b.toNat := by linarith
    exact UInt32.toNat_inj.1 (Nat.cast_injective hcast)
  cases encoding with
  | classicGt06 =>
      simp only [decodeCoordinates] at h₁ h₂
      constructor
      · refine hraw ?_
        split_ifs at h₁
        · exact neg_injective h₁
        · exact h₁
      · refine hraw ?_
        split_ifs at h₂
        · exact neg_injective h₂
        · exact h₂
  | concoxExtended =>
      simp only [decodeCoordinates] at h₁ h₂
      constructor
      · refine hraw ?_
        split_ifs at h₁
        · exact neg_injective h₁
        · exact h₁
      · exact hraw h₂

/-- The year of a date, counted from 2000 in one byte. -/
theorem year_injective {a b : UInt8} (h : (2000 : UInt16) + a.toUInt16 = 2000 + b.toUInt16) :
    a = b := by
  have ha := a.toNat_lt
  have hb := b.toNat_lt
  have heq := congrArg UInt16.toNat h
  rw [UInt16.toNat_add, UInt16.toNat_add, UInt8.toNat_toUInt16, UInt8.toNat_toUInt16,
    show (2000 : UInt16).toNat = 2000 from rfl] at heq
  exact UInt8.toNat_inj.1 (by omega)

/-- The timestamp determines its six bytes. -/
theorem byteAt_of_timestamp {frame frame' : Frame} {encoding : TimestampEncoding}
    (h : decodeTimestamp (byteAt frame 0) (byteAt frame 1) (byteAt frame 2) (byteAt frame 3)
        (byteAt frame 4) (byteAt frame 5) encoding =
      decodeTimestamp (byteAt frame' 0) (byteAt frame' 1) (byteAt frame' 2) (byteAt frame' 3)
        (byteAt frame' 4) (byteAt frame' 5) encoding)
    (hbcd : ∀ i < 6, (encoding = .bcd ∨ 4 ≤ i) → IsBcd (byteAt frame i) ∧ IsBcd (byteAt frame' i)) :
    ∀ i < 6, byteAt frame i = byteAt frame' i := by
  have hdecimal : ∀ i < 6, (encoding = .bcd ∨ 4 ≤ i) →
      bcdToDecimal (byteAt frame i) = bcdToDecimal (byteAt frame' i) →
        byteAt frame i = byteAt frame' i := fun i hi hcase hvalue =>
    bcdToDecimal_injective (hbcd i hi hcase).1 (hbcd i hi hcase).2 hvalue
  cases encoding with
  | bcd =>
      simp only [decodeTimestamp, GpsTimestamp.mk.injEq] at h
      obtain ⟨h₀, h₁, h₂, h₃, h₄, h₅⟩ := h
      intro i hi
      refine hdecimal i hi (Or.inl rfl) ?_
      interval_cases i
      · exact year_injective h₀
      · exact h₁
      · exact h₂
      · exact h₃
      · exact h₄
      · exact h₅
  | concoxExtended =>
      simp only [decodeTimestamp, GpsTimestamp.mk.injEq] at h
      obtain ⟨h₀, h₁, h₂, h₃, h₄, h₅⟩ := h
      intro i hi
      interval_cases i
      · exact year_injective h₀
      · exact h₁
      · exact h₂
      · exact h₃
      · exact hdecimal 4 (by omega) (Or.inr le_rfl) h₄
      · exact hdecimal 5 (by omega) (Or.inr (by omega)) h₅

section Columns

variable {frame frame' : Frame} {packet packet' : LocationPacket} {allowExtraData : Bool}
  {timestampEncoding : TimestampEncoding} {hemisphereEncoding : HemisphereEncoding}

/-- Payloads decoded under one protocol to packets that agree have the same fixed part, and the
same extra data if these are kept. -/
theorem payload_eq_of_packet
    (h : decodeLocationPayload frame allowExtraData timestampEncoding hemisphereEncoding =
      .ok (.location packet))
    (h' : decodeLocationPayload frame' allowExtraData timestampEncoding hemisphereEncoding =
      .ok (.location packet'))
    (hbcd : ∀ i < 6, (timestampEncoding = .bcd ∨ 4 ≤ i) →
      IsBcd (byteAt frame i) ∧ IsBcd (byteAt frame' i))
    (hpacket : packet = packet') :
    frame.payload.take 18 = frame'.payload.take 18 ∧
      (allowExtraData = true → frame.payload = frame'.payload) := by
  obtain ⟨hlen, course, coordinates, hcourse, hcoordinates, hfields⟩ :=
    decodeLocationPayload_eq_ok h
  obtain ⟨hlen', course', coordinates', hcourse', hcoordinates', hfields'⟩ :=
    decodeLocationPayload_eq_ok h'
  rw [hfields, hfields', LocationPacket.mk.injEq] at hpacket
  obtain ⟨htimestamp, hinfo, hsatellites, hlat, hlon, hspeed, -, hstatus, hextra⟩ := hpacket
  have hdate := byteAt_of_timestamp htimestamp hbcd
  -- the sixth byte is in two columns, one for each half
  have hgps : byteAt frame 6 = byteAt frame' 6 := by
    have h₁ := congrArg UInt8.toNat hinfo
    have h₂ := congrArg UInt8.toNat hsatellites
    rw [toNat_shiftRight_four, toNat_shiftRight_four] at h₁
    rw [toNat_loNibble, toNat_loNibble] at h₂
    exact eq_of_nibbles h₁ h₂
  -- the hemispheres are in the course status, which is the same, so the signs are
  subst hstatus
  rw [hcoordinates, hcoordinates'] at hlat hlon
  obtain ⟨hrawLat, hrawLon⟩ := decodeCoordinates_injective hlat hlon
  obtain ⟨h₇, h₈, h₉, h₁₀⟩ := u32FromBeBytes_injective hrawLat
  obtain ⟨h₁₁, h₁₂, h₁₃, h₁₄⟩ := u32FromBeBytes_injective hrawLon
  obtain ⟨h₁₆, h₁₇⟩ := u16FromBeBytes_injective (hcourse.symm.trans hcourse')
  have htake : frame.payload.take 18 = frame'.payload.take 18 := by
    refine take_eq_of_byteAt hlen hlen' fun i hi => ?_
    by_cases h6 : i < 6
    · exact hdate i h6
    · interval_cases i
      all_goals assumption
  refine ⟨htake, fun hallow => ?_⟩
  rw [hallow, if_pos rfl, if_pos rfl] at hextra
  rw [← List.take_append_drop 18 frame.payload, htake, hextra, List.take_append_drop]

end Columns

/-- Rows of dated packets that show one location are of one packet. -/
theorem packet_eq_of_sameColumns {packet packet' : LocationPacket}
    {id deviceId id' deviceId' : ℕ} {imei peerAddr imei' peerAddr' : String}
    {receivedAt now receivedAt' now' : ℤ}
    (hdated : (naiveDateTime packet.timestamp).isSome)
    (hdated' : (naiveDateTime packet'.timestamp).isSome)
    (h : SameColumns (locationRow id deviceId imei peerAddr receivedAt now packet)
      (locationRow id' deviceId' imei' peerAddr' receivedAt' now' packet')) : packet = packet' := by
  obtain ⟨micros, hmicros⟩ := Option.isSome_iff_exists.1 hdated
  obtain ⟨micros', hmicros'⟩ := Option.isSome_iff_exists.1 hdated'
  have hinstant : micros = micros' := by
    have := h.gpsTimestamp
    simpa only [locationRow, gpsTimestampToNaive, hmicros, hmicros', Option.getD_some] using this
  have htimestamp := naiveDateTime_injective hmicros (hinstant ▸ hmicros')
  have hextra := formatBytesHex_injective h.extraDataHex
  have hlat := h.latitude
  have hlon := h.longitude
  have hspeed := UInt8.toNat_inj.1 h.speedKph
  have hcourse := UInt16.toNat_inj.1 h.course
  have hstatus := UInt16.toNat_inj.1 h.courseStatus
  have hsatellites := UInt8.toNat_inj.1 h.satelliteCount
  have hinfo := UInt8.toNat_inj.1 h.gpsInfoLength
  cases packet with
  | mk timestamp gpsInfoLength satelliteCount latitude longitude speed course status extra =>
      cases packet' with
      | mk timestamp' gpsInfoLength' satelliteCount' latitude' longitude' speed' course' status'
          extra' =>
          rw [LocationPacket.mk.injEq]
          exact ⟨htimestamp, hinfo, hsatellites, hlat, hlon, hspeed, hcourse, hstatus, hextra⟩

/-- Of two frames of one location protocol whose rows show one location, the payloads are equal as
far as the protocol reads them. -/
theorem payload_eq_of_sameColumns {frame frame' : Frame} {packet packet' : LocationPacket}
    (hprotocol : frame.protocolNumber = frame'.protocolNumber)
    (h : decodeMessage frame = .ok (.location packet))
    (h' : decodeMessage frame' = .ok (.location packet'))
    (hdated : DatedByTerminal frame packet) (hdated' : DatedByTerminal frame' packet')
    {id deviceId id' deviceId' : ℕ} {imei peerAddr imei' peerAddr' : String}
    {receivedAt now receivedAt' now' : ℤ}
    (hsame : SameColumns (locationRow id deviceId imei peerAddr receivedAt now packet)
      (locationRow id' deviceId' imei' peerAddr' receivedAt' now' packet')) :
    frame.payload.take 18 = frame'.payload.take 18 ∧
      (frame.protocolNumber = protocolExtendedLocation → frame.payload = frame'.payload) := by
  have hpacket := packet_eq_of_sameColumns hdated.calendar hdated'.calendar hsame
  rcases location_of_decodeMessage h with ⟨hnumber, hlocation⟩ | ⟨hnumber, hlocation⟩
  · rcases location_of_decodeMessage h' with ⟨hnumber', hlocation'⟩ | ⟨hnumber', -⟩
    · have heq := payload_eq_of_packet hlocation hlocation'
        (fun i hi _ => ⟨hdated.decimal i hi (Or.inl hnumber),
          hdated'.decimal i hi (Or.inl hnumber')⟩) hpacket
      exact ⟨heq.1, fun hextended => by rw [hnumber] at hextended; simp [protocolLocation,
        protocolExtendedLocation] at hextended⟩
    · rw [hprotocol, hnumber'] at hnumber
      simp [protocolLocation, protocolExtendedLocation] at hnumber
  · rcases location_of_decodeMessage h' with ⟨hnumber', -⟩ | ⟨hnumber', hlocation'⟩
    · rw [hprotocol, hnumber'] at hnumber
      simp [protocolLocation, protocolExtendedLocation] at hnumber
    · have heq := payload_eq_of_packet hlocation hlocation'
        (fun i hi hcase => by
          have hfour : 4 ≤ i := hcase.resolve_left (by simp)
          exact ⟨hdated.decimal i hi (Or.inr hfour), hdated'.decimal i hi (Or.inr hfour)⟩) hpacket
      exact ⟨heq.1, fun _ => heq.2 rfl⟩

/-- **The archive loses nothing**: two frames of one location protocol with payloads of at least
eighteen bytes, each dated by its terminal, decode to locations; and if the rows of these show one
location, the payloads are equal in their first eighteen bytes, and in full if the protocol is the
extended one, whatever else the rows hold. -/
theorem location_archive_lossless (frame frame' : Frame)
    (hprotocol : frame.protocolNumber = frame'.protocolNumber)
    (hnumber : frame.protocolNumber = protocolLocation ∨
      frame.protocolNumber = protocolExtendedLocation)
    (hlength : 18 ≤ frame.payload.length) (hlength' : 18 ≤ frame'.payload.length)
    (hdated : ∀ packet, decodeMessage frame = .ok (.location packet) →
      DatedByTerminal frame packet)
    (hdated' : ∀ packet, decodeMessage frame' = .ok (.location packet) →
      DatedByTerminal frame' packet) :
    ∃ packet packet', decodeMessage frame = .ok (.location packet) ∧
      decodeMessage frame' = .ok (.location packet') ∧
      ∀ (id deviceId id' deviceId' : ℕ) (imei peerAddr imei' peerAddr' : String)
        (receivedAt now receivedAt' now' : ℤ),
        SameColumns (locationRow id deviceId imei peerAddr receivedAt now packet)
          (locationRow id' deviceId' imei' peerAddr' receivedAt' now' packet') →
        frame.payload.take 18 = frame'.payload.take 18 ∧
          (frame.protocolNumber = protocolExtendedLocation → frame.payload = frame'.payload) := by
  obtain ⟨packet, h⟩ := (decodeMessage_location_iff frame).2 ⟨hnumber, hlength⟩
  obtain ⟨packet', h'⟩ := (decodeMessage_location_iff frame').2 ⟨hprotocol ▸ hnumber, hlength'⟩
  refine ⟨packet, packet', h, h', ?_⟩
  intro id deviceId id' deviceId' imei peerAddr imei' peerAddr'
    receivedAt now receivedAt' now' hsame
  exact payload_eq_of_sameColumns hprotocol h h' (hdated packet h) (hdated' packet' h') hsame

/-- The fixed part of a location of 9 April 2024. -/
def someFields : List UInt8 :=
  [0x24, 0x04, 0x09, 0x12, 0x34, 0x56, 0xC8, 0x00, 0xA9, 0xE3, 0x58, 0x01, 0x2A, 0x66, 0x10, 0x3C,
    0x00, 0x1E]

/-- The packet of this fixed part under the protocol `0x12`. -/
def someLocation : LocationPacket where
  timestamp := ⟨2024, 4, 9, 12, 34, 56⟩
  gpsInfoLength := 12
  satelliteCount := 8
  latitude := 11133784 / 1800000
  longitude := 19555856 / 1800000
  speedKph := 60
  course := 30
  courseStatus := 30
  extraData := []

/-- A frame whose packet is known is dated by its terminal if the packet is. -/
theorem datedByTerminal_of_decodeMessage {frame : Frame} {packet : LocationPacket}
    (h : decodeMessage frame = .ok (.location packet)) (hdated : DatedByTerminal frame packet) :
    ∀ packet', decodeMessage frame = .ok (.location packet') → DatedByTerminal frame packet' := by
  intro packet' h'
  obtain rfl : packet = packet' := by
    rw [h] at h'
    simpa using h'
  exact hdated

/-- A location and the same one with a byte after it, in rows of two devices. -/
theorem location_archive_lossless_someFields :
    someFields.take 18 = (someFields ++ [0xFF]).take 18 ∧
      (protocolLocation = protocolExtendedLocation → someFields = someFields ++ [0xFF]) := by
  have hdecode : decodeMessage ⟨protocolLocation, someFields, 3⟩ =
      .ok (.location someLocation) := by
    decide +kernel
  have hdecode' : decodeMessage ⟨protocolLocation, someFields ++ [0xFF], 4⟩ =
      .ok (.location someLocation) := by
    decide +kernel
  obtain ⟨packet, packet', h, h', hlossless⟩ :=
    location_archive_lossless ⟨protocolLocation, someFields, 3⟩
      ⟨protocolLocation, someFields ++ [0xFF], 4⟩ rfl (Or.inl rfl) (by decide) (by decide)
      (datedByTerminal_of_decodeMessage hdecode ⟨by decide +kernel, by decide +kernel⟩)
      (datedByTerminal_of_decodeMessage hdecode' ⟨by decide +kernel, by decide +kernel⟩)
  obtain rfl : someLocation = packet := by
    rw [hdecode] at h
    simpa using h
  obtain rfl : someLocation = packet' := by
    rw [hdecode'] at h'
    simpa using h'
  exact hlossless 1 1 2 2 "123456789012345" "peer" "123456789012346" "peer" 0 0 7 7
    ⟨rfl, rfl, rfl, rfl, rfl, rfl, rfl, rfl, rfl⟩

/-! ### The family of a stored location -/

/-- The protocol number and the family of a location protocol. -/
def familyOf (protocolNumber : UInt8) : ℕ × String :=
  (protocolNumber.toNat,
    if protocolNumber = protocolLocation then "location" else "extended_location")

/-- The transaction of an event inserts one location, and its row and the row of the device show
a protocol number and a family. -/
def StoredAs (before after : DeviceTables) (imei : String) (family : ℕ × String) : Prop :=
  ∃ device row, after.deviceOf imei = some device ∧ after.locations = before.locations ++ [row] ∧
    (row.protocolNumber, row.packetFamily) = family ∧
    (device.latestProtocolNumber, device.latestPacketFamily) = (some family.1, some family.2)

/-- What a transaction stores is derived from the extra data. -/
theorem storedAs_persistEvent_iff (tables : DeviceTables) (clock : ClockReadings)
    (peerAddr imei : String) (packet : LocationPacket) (family : ℕ × String) :
    StoredAs tables (tables.persistEvent clock (.location peerAddr (some imei) packet)) imei
        family ↔ (extendedProtocolNumber packet, packetFamily packet) = family := by
  obtain ⟨hdevice, hlocations⟩ := persistEvent_location tables clock peerAddr imei packet
  constructor
  · rintro ⟨device, row, -, hrow, hfamily, -⟩
    rw [hlocations, List.append_cancel_left_eq, List.cons.injEq] at hrow
    rw [← hfamily, ← hrow.1]
    rfl
  · rintro rfl
    exact ⟨_, _, hdevice, hlocations, rfl, rfl⟩

/-- **The stored family is the frame's own exactly when the frame is a `0x12` or carries extra
data.** -/
theorem storedAs_iff (frame : Frame) (packet : LocationPacket)
    (h : decodeMessage frame = .ok (.location packet)) (tables : DeviceTables)
    (clock : ClockReadings) (peerAddr imei : String) :
    StoredAs tables (tables.persistEvent clock (.location peerAddr (some imei) packet)) imei
        (familyOf frame.protocolNumber) ↔
      frame.protocolNumber = protocolLocation ∨ frame.payload.length ≠ 18 := by
  rw [storedAs_persistEvent_iff, extendedProtocolNumber, packetFamily]
  rcases location_of_decodeMessage h with ⟨hnumber, hlocation⟩ | ⟨hnumber, hlocation⟩
  · obtain ⟨-, _, _, -, -, hfields⟩ := decodeLocationPayload_eq_ok hlocation
    have hextra : packet.extraData = [] := by rw [hfields]; rfl
    rw [hextra, hnumber, familyOf]
    simp
  · obtain ⟨hlength, _, _, -, -, hfields⟩ := decodeLocationPayload_eq_ok hlocation
    have hextra : packet.extraData = frame.payload.drop 18 := by rw [hfields]; rfl
    have hne : protocolExtendedLocation ≠ protocolLocation := by decide
    rw [hextra, hnumber, familyOf, if_neg hne]
    -- without extra data the row shows a `0x12`
    by_cases hexact : frame.payload.length = 18
    · rw [List.drop_eq_nil_of_le hexact.le]
      simp [hexact, protocolLocation, protocolExtendedLocation]
    · have hsome : (frame.payload.drop 18).isEmpty = false := by
        rw [List.isEmpty_eq_false_iff, Ne, List.drop_eq_nil_iff]
        omega
      rw [hsome]
      simp [hexact]

/-- The packet of the same fixed part under the protocol `0x22`. -/
def someExtendedLocation (extraData : List UInt8) : LocationPacket where
  timestamp := ⟨2036, 4, 9, 18, 34, 56⟩
  gpsInfoLength := 12
  satelliteCount := 8
  latitude := -11133784 / 1800000
  longitude := 19555856 / 1800000
  speedKph := 60
  course := 30
  courseStatus := 30
  extraData := extraData

theorem storedAs_iff_oneExtraByte :
    StoredAs .empty (DeviceTables.empty.persistEvent tickingClock
        (.location "peer" (some "123456789012345") (someExtendedLocation [0xFF])))
        "123456789012345" (familyOf protocolExtendedLocation) ↔
      protocolExtendedLocation = protocolLocation ∨ (someFields ++ [0xFF]).length ≠ 18 :=
  storedAs_iff ⟨protocolExtendedLocation, someFields ++ [0xFF], 3⟩ (someExtendedLocation [0xFF])
    (by decide +kernel) .empty tickingClock "peer" "123456789012345"

/-- An extended location without extra data is stored as a plain one. -/
theorem shortExtended_stored_as_plain :
    decodeMessage ⟨protocolExtendedLocation, someFields, 3⟩ =
        .ok (.location (someExtendedLocation [])) ∧
      ¬ StoredAs .empty (DeviceTables.empty.persistEvent tickingClock
        (.location "peer" (some "123456789012345") (someExtendedLocation [])))
        "123456789012345" (familyOf protocolExtendedLocation) := by
  refine ⟨by decide +kernel, ?_⟩
  rw [storedAs_persistEvent_iff]
  decide

end Gt06
