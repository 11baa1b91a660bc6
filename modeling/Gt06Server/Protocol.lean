/-
**The GT06 wire protocol.**

This module embeds `src/protocol.rs`: the frame decoder `FrameDecoder::next_frame`, the message
decoder `decode_message`, the acknowledgement encoder `encode_ack` and the checksum `crc16_x25`.
A buffer is the list of the bytes it holds, `advance` and `split_to` are `List.drop` and
`List.take`, and every index of the source is an index with its bound, so that a definition
which typechecks reads no byte outside its buffer.

The two coordinates of a location are the exact quotients of which the source keeps the nearest
`f64`.

Main definitions:

* `Gt06.Frame`, `Gt06.ProtocolError` — what a call of the decoder answers;
* `Gt06.crc16X25` — the checksum;
* `Gt06.nextFrame` — `FrameDecoder::next_frame`, with the buffer it leaves;
* `Gt06.decodeMessage`, `Gt06.Gt06Message` — the messages in a frame;
* `Gt06.buildFrame`, `Gt06.encodeAck` — a frame on the wire, and the acknowledgement.

Main results:

* `Gt06.nextFrame_buildFrame` — **round trip**: a frame on the wire, followed by anything, is
  decoded to itself and what follows it is kept;
* `Gt06.nextFrame_encodeAck` — an acknowledgement decodes to its protocol number and serial.
-/

import Mathlib

set_option relaxedAutoImplicit false
set_option autoImplicit false

namespace Gt06

/-! ### Frames and errors -/

def startBytes : List UInt8 := [0x78, 0x78]

def stopBytes : List UInt8 := [0x0D, 0x0A]

def protocolLogin : UInt8 := 0x01

def protocolLocation : UInt8 := 0x12

def protocolHeartbeat : UInt8 := 0x13

def protocolExtendedLocation : UInt8 := 0x22

/-- One frame, without its markers, its length and its checksum. -/
structure Frame where
  protocolNumber : UInt8
  payload : List UInt8
  serial : UInt16
  deriving DecidableEq, Repr

inductive ProtocolError
  | invalidLength (length : ℕ)
  | invalidStopBytes
  | checksumMismatch
  | invalidPayload (protocolNumber : UInt8) (message : String)
  deriving DecidableEq, Repr

/-! ### Bytes -/

/-- `buffer[i..j]`. -/
def slice (s : List UInt8) (i j : ℕ) : List UInt8 := (s.drop i).take (j - i)

/-- `u16::from_be_bytes`. -/
def u16FromBeBytes (hi lo : UInt8) : UInt16 := UInt16.ofNat (hi.toNat * 256 + lo.toNat)

/-- `u16::to_be_bytes`. -/
def u16ToBeBytes (n : UInt16) : List UInt8 :=
  [UInt8.ofNat (n.toNat / 256), UInt8.ofNat (n.toNat % 256)]

/-- `u32::from_be_bytes`. -/
def u32FromBeBytes (b₀ b₁ b₂ b₃ : UInt8) : UInt32 :=
  UInt32.ofNat (((b₀.toNat * 256 + b₁.toNat) * 256 + b₂.toNat) * 256 + b₃.toNat)

@[simp] theorem length_u16ToBeBytes (n : UInt16) : (u16ToBeBytes n).length = 2 := rfl

theorem u16FromBeBytes_toBeBytes (n : UInt16) :
    u16FromBeBytes (UInt8.ofNat (n.toNat / 256)) (UInt8.ofNat (n.toNat % 256)) = n := by
  have hn := n.toNat_lt
  have hhi : (UInt8.ofNat (n.toNat / 256)).toNat = n.toNat / 256 := by
    rw [UInt8.toNat_ofNat']; omega
  have hlo : (UInt8.ofNat (n.toNat % 256)).toNat = n.toNat % 256 := by
    rw [UInt8.toNat_ofNat']; omega
  rw [u16FromBeBytes, hhi, hlo, Nat.div_add_mod']
  exact UInt16.ofNat_toNat

theorem u16ToBeBytes_fromBeBytes (hi lo : UInt8) :
    u16ToBeBytes (u16FromBeBytes hi lo) = [hi, lo] := by
  have hhi := hi.toNat_lt
  have hlo := lo.toNat_lt
  have hn : (u16FromBeBytes hi lo).toNat = hi.toNat * 256 + lo.toNat := by
    rw [u16FromBeBytes, UInt16.toNat_ofNat']; omega
  have hdiv : (hi.toNat * 256 + lo.toNat) / 256 = hi.toNat := by omega
  have hmod : (hi.toNat * 256 + lo.toNat) % 256 = lo.toNat := by omega
  rw [u16ToBeBytes, hn, hdiv, hmod, UInt8.ofNat_toNat, UInt8.ofNat_toNat]

@[simp] theorem length_slice (s : List UInt8) (i j : ℕ) :
    (slice s i j).length = min (j - i) (s.length - i) := by
  simp [slice]

/-- A slice inside a buffer does not change when the buffer grows. -/
theorem slice_append_left {s : List UInt8} {j : ℕ} (i : ℕ) (t : List UInt8) (h : j ≤ s.length) :
    slice (s ++ t) i j = slice s i j := by
  rcases Nat.le_total j i with hji | hij
  · simp [slice, Nat.sub_eq_zero_of_le hji]
  · rw [slice, slice, List.drop_append_of_le_length (by omega),
      List.take_append_of_le_length (by simp; omega)]

theorem slice_drop (s : List UInt8) (n i j : ℕ) :
    slice (s.drop n) i j = slice s (n + i) (n + j) := by
  rw [slice, slice, List.drop_drop, Nat.add_sub_add_left]

/-! ### The checksum -/

/-- One bit of the checksum register. -/
def crcBit (crc : UInt16) : UInt16 :=
  if crc &&& 0x0001 ≠ 0 then (crc >>> 1) ^^^ 0x8408 else crc >>> 1

/-- One byte of the checksum register: exclusive or with the byte, then eight bits. -/
def crcByte (crc : UInt16) (byte : UInt8) : UInt16 :=
  crcBit^[8] (crc ^^^ byte.toUInt16)

/-- `crc16_x25`. -/
def crc16X25 (data : List UInt8) : UInt16 := ~~~ (data.foldl crcByte 0xFFFF)

/-! ### The frame decoder -/

/-- The body of `FrameDecoder::next_frame` once the buffer begins with the start marker: every
branch returns. -/
def frameAtMarker (buffer : List UInt8) :
    Except ProtocolError (Option Frame) × List UInt8 :=
  if h5 : buffer.length < 5 then (.ok none, buffer)
  else
    let length := buffer[2].toNat
    if hlength : length < 5 then (.error (.invalidLength length), buffer.drop 1)
    else
      let totalFrameLen := length + 5
      if htotal : buffer.length < totalFrameLen then (.ok none, buffer)
      else if slice buffer (totalFrameLen - 2) totalFrameLen ≠ stopBytes then
        (.error .invalidStopBytes, buffer.drop 1)
      else
        let crcIndex := totalFrameLen - 4
        let calculatedCrc := crc16X25 (slice buffer 2 crcIndex)
        let reportedCrc := u16FromBeBytes buffer[crcIndex] buffer[crcIndex + 1]
        if calculatedCrc ≠ reportedCrc then (.error .checksumMismatch, buffer.drop 1)
        else
          let payloadLen := length - 5
          let payloadStart := 4
          let payloadEnd := payloadStart + payloadLen
          (.ok (some
            { protocolNumber := buffer[3]
              payload := slice buffer payloadStart payloadEnd
              serial := u16FromBeBytes buffer[payloadEnd] buffer[payloadEnd + 1] }),
            buffer.drop totalFrameLen)

/-- `FrameDecoder::next_frame`: the answer and the buffer it leaves.  A byte before which no
start marker stands is dropped. -/
def nextFrame : List UInt8 → Except ProtocolError (Option Frame) × List UInt8
  | [] => (.ok none, [])
  | [b] => (.ok none, [b])
  | b₀ :: b₁ :: rest =>
      if [b₀, b₁] ≠ startBytes then nextFrame (b₁ :: rest)
      else frameAtMarker (b₀ :: b₁ :: rest)

/-! ### Frames on the wire -/

/-- A frame on the wire: the markers, the length, the fields and the checksum. -/
def buildFrame (frame : Frame) : List UInt8 :=
  let body := [UInt8.ofNat (frame.payload.length + 5), frame.protocolNumber] ++ frame.payload ++
    u16ToBeBytes frame.serial
  startBytes ++ body ++ u16ToBeBytes (crc16X25 body) ++ stopBytes

/-- `encode_ack`. -/
def encodeAck (protocolNumber : UInt8) (serial : UInt16) : List UInt8 :=
  let bytes := startBytes ++ [0x05] ++ [protocolNumber] ++ u16ToBeBytes serial
  let crc := crc16X25 (bytes.drop 2)
  bytes ++ u16ToBeBytes crc ++ stopBytes

/-- An acknowledgement is a frame with an empty payload. -/
theorem encodeAck_eq_buildFrame (protocolNumber : UInt8) (serial : UInt16) :
    encodeAck protocolNumber serial =
      buildFrame { protocolNumber := protocolNumber, payload := [], serial := serial } := rfl

/-- The decoder on the bytes of a frame, field by field. -/
theorem frameAtMarker_fields {length p s₁ s₂ c₁ c₂ : UInt8} {payload : List UInt8}
    (t : List UInt8) (hlength : length.toNat = payload.length + 5)
    (hcrc : crc16X25 ([length, p] ++ payload ++ [s₁, s₂]) = u16FromBeBytes c₁ c₂) :
    frameAtMarker ([0x78, 0x78, length, p] ++ payload ++ [s₁, s₂, c₁, c₂, 0x0D, 0x0A] ++ t) =
      (.ok (some { protocolNumber := p, payload := payload, serial := u16FromBeBytes s₁ s₂ }),
        t) := by
  set B := [0x78, 0x78, length, p] ++ payload ++ [s₁, s₂, c₁, c₂, 0x0D, 0x0A] ++ t with hB
  have hlen : B.length = payload.length + 10 + t.length := by simp [hB]; omega
  -- the bytes after the payload
  have htail : B.drop (payload.length + 4) = s₁ :: s₂ :: c₁ :: c₂ :: 0x0D :: 0x0A :: t := by
    rw [hB, List.append_assoc]
    exact List.drop_left' (by simp)
  have h2 : B[2] = length := rfl
  have h3 : B[3] = p := rfl
  have hstop : slice B (length.toNat + 5 - 2) (length.toNat + 5) = stopBytes := by
    have h := slice_drop B (payload.length + 4) 4 6
    rw [htail] at h
    rw [hlength, show payload.length + 5 + 5 - 2 = payload.length + 4 + 4 by omega,
      show payload.length + 5 + 5 = payload.length + 4 + 6 by omega, ← h]
    rfl
  have hbody : slice B 2 (length.toNat + 5 - 4) = [length, p] ++ payload ++ [s₁, s₂] := by
    have h : B.drop 2 = ([length, p] ++ payload ++ [s₁, s₂]) ++
        ([c₁, c₂, 0x0D, 0x0A] ++ t) := by simp [hB]
    rw [slice, h]
    exact List.take_left' (by simp; omega)
  have hpayload : slice B 4 (4 + (length.toNat - 5)) = payload := by
    have h : B.drop 4 = payload ++ ([s₁, s₂, c₁, c₂, 0x0D, 0x0A] ++ t) := by simp [hB]
    rw [slice, h]
    exact List.take_left' (by omega)
  have hindex : ∀ k j (hj : j < B.length), j = payload.length + 4 + k →
      some B[j] = (s₁ :: s₂ :: c₁ :: c₂ :: 0x0D :: 0x0A :: t)[k]? := by
    rintro k j hj rfl
    rw [← htail, List.getElem?_drop, List.getElem?_eq_getElem hj]
  have hs₁ : B[4 + (length.toNat - 5)] = s₁ := by
    simpa using hindex 0 (4 + (length.toNat - 5)) (by omega) (by omega)
  have hs₂ : B[4 + (length.toNat - 5) + 1] = s₂ := by
    simpa using hindex 1 (4 + (length.toNat - 5) + 1) (by omega) (by omega)
  have hc₁ : B[length.toNat + 5 - 4] = c₁ := by
    simpa using hindex 2 (length.toNat + 5 - 4) (by omega) (by omega)
  have hc₂ : B[length.toNat + 5 - 4 + 1] = c₂ := by
    simpa using hindex 3 (length.toNat + 5 - 4 + 1) (by omega) (by omega)
  have hrest : B.drop (length.toNat + 5) = t := by
    rw [hlength, show payload.length + 5 + 5 = payload.length + 4 + 6 by omega, ← List.drop_drop,
      htail]
    rfl
  unfold frameAtMarker
  rw [dif_neg (by omega)]
  simp only [h2, h3]
  rw [dif_neg (by omega), dif_neg (by omega), if_neg (not_not.2 hstop), if_neg]
  · simp only [hpayload, hs₁, hs₂, hrest]
  · rw [hbody, hc₁, hc₂]
    exact not_not.2 hcrc

theorem nextFrame_marker (rest : List UInt8) :
    nextFrame (0x78 :: 0x78 :: rest) = frameAtMarker (0x78 :: 0x78 :: rest) := by
  rw [nextFrame, if_neg (by simp [startBytes])]

/-- **Round trip**: a frame whose payload fits its length byte, followed by any bytes, is decoded
to itself, and what follows it is kept. -/
theorem nextFrame_buildFrame {frame : Frame} (h : frame.payload.length ≤ 250) (t : List UInt8) :
    nextFrame (buildFrame frame ++ t) = (.ok (some frame), t) := by
  obtain ⟨p, payload, serial⟩ := frame
  replace h : payload.length ≤ 250 := h
  set length := UInt8.ofNat (payload.length + 5) with hlength
  have hlen : length.toNat = payload.length + 5 := by
    rw [hlength, UInt8.toNat_ofNat']; omega
  set crc := crc16X25 ([length, p] ++ payload ++ u16ToBeBytes serial) with hcrc
  have hwire : buildFrame ⟨p, payload, serial⟩ ++ t =
      [0x78, 0x78, length, p] ++ payload ++
        [UInt8.ofNat (serial.toNat / 256), UInt8.ofNat (serial.toNat % 256),
          UInt8.ofNat (crc.toNat / 256), UInt8.ofNat (crc.toNat % 256), 0x0D, 0x0A] ++ t := by
    simp only [buildFrame, ← hlength, ← hcrc]
    simp [startBytes, stopBytes, u16ToBeBytes]
  have hsum : crc16X25 ([length, p] ++ payload ++
        [UInt8.ofNat (serial.toNat / 256), UInt8.ofNat (serial.toNat % 256)]) =
      u16FromBeBytes (UInt8.ofNat (crc.toNat / 256)) (UInt8.ofNat (crc.toNat % 256)) := by
    rw [u16FromBeBytes_toBeBytes, hcrc]
    rfl
  have hfields := frameAtMarker_fields t hlen hsum
  rw [hwire]
  simp only [List.cons_append, List.nil_append] at hfields ⊢
  rw [nextFrame_marker, hfields, u16FromBeBytes_toBeBytes]

/-- An acknowledgement is decoded to its protocol number and serial, with an empty payload. -/
theorem nextFrame_encodeAck (protocolNumber : UInt8) (serial : UInt16) (t : List UInt8) :
    nextFrame (encodeAck protocolNumber serial ++ t) =
      (.ok (some { protocolNumber := protocolNumber, payload := [], serial := serial }), t) := by
  rw [encodeAck_eq_buildFrame]
  exact nextFrame_buildFrame (by simp) t

/-! ### Messages -/

inductive TimestampEncoding
  | bcd
  | concoxExtended
  deriving DecidableEq, Repr

inductive HemisphereEncoding
  | classicGt06
  | concoxExtended
  deriving DecidableEq, Repr

structure LoginPacket where
  imei : String
  extraData : List UInt8
  deriving DecidableEq, Repr

structure HeartbeatPacket where
  terminalInfo : UInt8
  voltageLevel : UInt8
  gsmSignalStrength : UInt8
  alarmLanguage : UInt16
  deriving DecidableEq, Repr

structure GpsTimestamp where
  year : UInt16
  month : UInt8
  day : UInt8
  hour : UInt8
  minute : UInt8
  second : UInt8
  deriving DecidableEq, Repr

structure LocationPacket where
  timestamp : GpsTimestamp
  gpsInfoLength : UInt8
  satelliteCount : UInt8
  latitude : ℚ
  longitude : ℚ
  speedKph : UInt8
  course : UInt16
  courseStatus : UInt16
  extraData : List UInt8
  deriving DecidableEq

structure UnknownPacket where
  protocolNumber : UInt8
  payload : List UInt8
  deriving DecidableEq, Repr

inductive Gt06Message
  | login (packet : LoginPacket)
  | heartbeat (packet : HeartbeatPacket)
  | location (packet : LocationPacket)
  | unknown (packet : UnknownPacket)
  deriving DecidableEq

/-- `char::from(b'0' + nibble)`: a nibble above nine gives one of the characters after `9`. -/
def nibbleChar (nibble : UInt8) : Char := Char.ofNat ('0'.toNat + nibble.toNat)

/-- `decode_bcd_imei`: two characters a byte; of sixteen, a leading zero is dropped. -/
def decodeBcdImei (bytes : List UInt8) : String :=
  let digits := bytes.flatMap fun byte : UInt8 =>
    [nibbleChar ((byte >>> 4) &&& 0x0F), nibbleChar (byte &&& 0x0F)]
  if digits.length = 16 ∧ digits.head? = some '0' then String.ofList digits.tail
  else String.ofList digits

def bcdToDecimal (byte : UInt8) : UInt8 := ((byte >>> 4) &&& 0x0F) * 10 + (byte &&& 0x0F)

/-- `decode_timestamp`, on the six bytes of the field. -/
def decodeTimestamp (b₀ b₁ b₂ b₃ b₄ b₅ : UInt8) : TimestampEncoding → GpsTimestamp
  | .bcd =>
      { year := 2000 + (bcdToDecimal b₀).toUInt16
        month := bcdToDecimal b₁
        day := bcdToDecimal b₂
        hour := bcdToDecimal b₃
        minute := bcdToDecimal b₄
        second := bcdToDecimal b₅ }
  | .concoxExtended =>
      { year := 2000 + b₀.toUInt16
        month := b₁
        day := b₂
        hour := b₃
        minute := bcdToDecimal b₄
        second := bcdToDecimal b₅ }

def decodeCoordinates (rawLatitude rawLongitude : UInt32) (courseStatus : UInt16) :
    HemisphereEncoding → ℚ × ℚ :=
  let latitude : ℚ := rawLatitude.toNat / 1800000
  let longitude : ℚ := rawLongitude.toNat / 1800000
  fun
  | .classicGt06 =>
      (if courseStatus &&& 0x0400 ≠ 0 then -latitude else latitude,
        if courseStatus &&& 0x0800 ≠ 0 then -longitude else longitude)
  | .concoxExtended =>
      (if courseStatus &&& 0x2000 = 0 then -latitude else latitude, longitude)

def decodeLogin (frame : Frame) : Except ProtocolError Gt06Message :=
  if frame.payload.length < 8 then
    .error (.invalidPayload frame.protocolNumber "login payload must be at least 8 bytes")
  else
    .ok (.login
      { imei := decodeBcdImei (frame.payload.take 8)
        extraData := frame.payload.drop 8 })

def decodeHeartbeat (frame : Frame) : Except ProtocolError Gt06Message :=
  if h : frame.payload.length < 5 then
    .error (.invalidPayload frame.protocolNumber "heartbeat payload must be at least 5 bytes")
  else
    .ok (.heartbeat
      { terminalInfo := frame.payload[0]
        voltageLevel := frame.payload[1]
        gsmSignalStrength := frame.payload[2]
        alarmLanguage := u16FromBeBytes frame.payload[3] frame.payload[4] })

def decodeLocationPayload (frame : Frame) (allowExtraData : Bool)
    (timestampEncoding : TimestampEncoding) (hemisphereEncoding : HemisphereEncoding) :
    Except ProtocolError Gt06Message :=
  if h : frame.payload.length < 18 then
    .error (.invalidPayload frame.protocolNumber "location payload must be at least 18 bytes")
  else
    let p := frame.payload
    let gpsInfo := p[6]
    let courseStatus := u16FromBeBytes p[16] p[17]
    let coordinates := decodeCoordinates (u32FromBeBytes p[7] p[8] p[9] p[10])
      (u32FromBeBytes p[11] p[12] p[13] p[14]) courseStatus hemisphereEncoding
    .ok (.location
      { timestamp := decodeTimestamp p[0] p[1] p[2] p[3] p[4] p[5] timestampEncoding
        gpsInfoLength := gpsInfo >>> 4
        satelliteCount := gpsInfo &&& 0x0F
        latitude := coordinates.1
        longitude := coordinates.2
        speedKph := p[15]
        course := courseStatus &&& 0x03FF
        courseStatus := courseStatus
        extraData := if allowExtraData then p.drop 18 else [] })

def decodeLocation (frame : Frame) : Except ProtocolError Gt06Message :=
  decodeLocationPayload frame false .bcd .classicGt06

def decodeExtendedLocation (frame : Frame) : Except ProtocolError Gt06Message :=
  decodeLocationPayload frame true .concoxExtended .concoxExtended

/-- `decode_message`. -/
def decodeMessage (frame : Frame) : Except ProtocolError Gt06Message :=
  if frame.protocolNumber = protocolLogin then decodeLogin frame
  else if frame.protocolNumber = protocolHeartbeat then decodeHeartbeat frame
  else if frame.protocolNumber = protocolLocation then decodeLocation frame
  else if frame.protocolNumber = protocolExtendedLocation then decodeExtendedLocation frame
  else
    .ok (.unknown { protocolNumber := frame.protocolNumber, payload := frame.payload })

/-- Only a login frame decodes to a login. -/
theorem protocolNumber_of_decodeMessage_login {frame : Frame} {packet : LoginPacket}
    (h : decodeMessage frame = .ok (.login packet)) : frame.protocolNumber = protocolLogin := by
  unfold decodeMessage at h
  split at h
  · assumption
  · simp only [decodeHeartbeat, decodeLocation, decodeExtendedLocation,
      decodeLocationPayload] at h
    split_ifs at h
    all_goals simp_all

/-- Only a heartbeat frame decodes to a heartbeat. -/
theorem protocolNumber_of_decodeMessage_heartbeat {frame : Frame} {packet : HeartbeatPacket}
    (h : decodeMessage frame = .ok (.heartbeat packet)) :
    frame.protocolNumber = protocolHeartbeat := by
  unfold decodeMessage at h
  split at h
  · simp only [decodeLogin] at h
    split_ifs at h
    simp_all
  · split at h
    · assumption
    · simp only [decodeLocation, decodeExtendedLocation, decodeLocationPayload] at h
      split_ifs at h
      all_goals simp_all

end Gt06
