/-
**What the database keeps of a report.**

Every heartbeat and every location of a known device is kept twice: as a row of the history and in
the columns of the device's own row that hold its latest report.  The two statements of a
transaction list their columns separately and compute what they derive separately, among it a
timestamp that falls back to the clock when the tracker sends no date of the calendar.

Instants are read in nanoseconds and kept in microseconds.  The statements that count the distance
of a location touch neither table and are in `ServiceDistance`.

Main definitions:

* `Gt06.DeviceRow`, `Gt06.LocationRow`, `Gt06.HeartbeatRow`, `Gt06.DeviceTables` — the rows;
* `Gt06.gpsTimestampToNaive` — the timestamp of a location, or the clock;
* `Gt06.seenRow`, `Gt06.locationRow`, `Gt06.heartbeatRow`, `Gt06.DeviceRow.latestLocation`,
  `Gt06.DeviceRow.latestHeartbeat` — the columns of each statement;
* `Gt06.DeviceTables.persistEvent` — **the transaction of an event**;
* `Gt06.SnapshotOfHistory` — the device's row shows the row that was inserted.

Main results:

* `Gt06.heartbeatRow_previous` — the lookup of the previous ignition never decides anything;
* `Gt06.snapshotOfHistory_iff` — **the snapshot is the newest row exactly when the timestamp is a
  date of the calendar or both statements read one microsecond.**
-/

import Mathlib
import Gt06Server.Server
import Gt06Server.ServiceDistance

set_option relaxedAutoImplicit false
set_option autoImplicit false

namespace Gt06

open Relational

/-! ### Dates of the calendar -/

def isLeapYear (year : ℕ) : Bool := year % 4 = 0 ∧ (year % 100 ≠ 0 ∨ year % 400 = 0)

def daysInMonth (year month : ℕ) : ℕ :=
  if month = 2 then if isLeapYear year then 29 else 28
  else if month = 4 ∨ month = 6 ∨ month = 9 ∨ month = 11 then 30
  else 31

/-- The days from 1 January 1970 to a date; the year is counted from March. -/
def daysFromCivil (year month day : ℕ) : ℤ :=
  let marchYear : ℤ := if month ≤ 2 then year - 1 else year
  let monthFromMarch : ℤ := ((month : ℤ) + 9) % 12
  let dayOfYear : ℤ := (153 * monthFromMarch + 2) / 5 + day - 1
  marchYear * 365 + marchYear / 4 - marchYear / 100 + marchYear / 400 + dayOfYear - 719468

/-- `NaiveDate::from_ymd_opt` and `NaiveDate::and_hms_opt`: the microseconds of a date and a time
of day, when there are such. -/
def naiveDateTime (timestamp : GpsTimestamp) : Option ℤ :=
  let year := timestamp.year.toNat
  let month := timestamp.month.toNat
  let day := timestamp.day.toNat
  let hour := timestamp.hour.toNat
  let minute := timestamp.minute.toNat
  let second := timestamp.second.toNat
  if 1 ≤ month ∧ month ≤ 12 ∧ 1 ≤ day ∧ day ≤ daysInMonth year month ∧
      hour < 24 ∧ minute < 60 ∧ second < 60 then
    some ((((daysFromCivil year month day * 24 + hour) * 60 + minute) * 60 + second) *
      microsPerSecond)
  else none

/-- `gps_timestamp_to_naive`, as a column keeps it; `now` is what the clock would show. -/
def gpsTimestampToNaive (timestamp : GpsTimestamp) (now : ℤ) : ℤ :=
  (naiveDateTime timestamp).getD (storedMicros now)

example : naiveDateTime ⟨2026, 4, 12, 18, 30, 1⟩ = some 1776018601000000 := by decide

/-! ### Texts of a packet -/

/-- `nibble_to_hex`. -/
def nibbleToHex (nibble : UInt8) : Char :=
  if nibble ≤ 9 then Char.ofNat ('0'.toNat + nibble.toNat)
  else Char.ofNat ('A'.toNat + (nibble.toNat - 10))

/-- `format_bytes_hex`: two digits a byte, with a space between two bytes. -/
def formatBytesHex (bytes : List UInt8) : String :=
  String.intercalate " " (bytes.map fun byte : UInt8 =>
    String.ofList [nibbleToHex (byte >>> 4), nibbleToHex (byte &&& 0x0F)])

/-- `format_byte_bits`: eight binary digits. -/
def formatByteBits (byte : UInt8) : String :=
  String.ofList ((List.range 8).map fun i => if byte.toNat.testBit (7 - i) then '1' else '0')

def packetFamily (packet : LocationPacket) : String :=
  if packet.extraData.isEmpty then "location" else "extended_location"

def extendedProtocolNumber (packet : LocationPacket) : ℕ :=
  if packet.extraData.isEmpty then protocolLocation.toNat else protocolExtendedLocation.toNat

/-! ### Flags of a heartbeat -/

/-- The `EngineStatus` of a packet; the bot has no use for the last one. -/
inductive EngineStatusGuess where
  | on
  | off
  | unknown
  deriving DecidableEq, Repr

def resolveAccHigh (current previous : Option Bool) : Option Bool := current.or previous

def resolveEngineStatusGuess : Option Bool → EngineStatusGuess
  | some true => .on
  | some false => .off
  | none => .unknown

def engineStatusAsStr : EngineStatusGuess → String
  | .on => "on"
  | .off => "off"
  | .unknown => "unknown"

structure TerminalInfoFlags where
  binary : String
  gpsTrackingOn : Bool
  bit1Guess : Bool
  accHigh : Option Bool
  bit3Guess : Bool
  bit4Guess : Bool
  vibrationDetected : Bool
  deriving DecidableEq, Repr

def decodeTerminalInfoFlags (raw : UInt8) : TerminalInfoFlags where
  binary := formatByteBits raw
  gpsTrackingOn := raw &&& 0x01 ≠ 0
  bit1Guess := raw &&& 0x02 ≠ 0
  accHigh := some (raw &&& 0x04 ≠ 0)
  bit3Guess := raw &&& 0x08 ≠ 0
  bit4Guess := raw &&& 0x10 ≠ 0
  vibrationDetected := raw &&& 0x40 ≠ 0

/-! ### Rows -/

/-- A row of `devices`, as far as reports go. -/
structure DeviceRow where
  id : ℕ
  imei : String
  firstSeenAt : ℤ
  lastSeenAt : ℤ
  lastLoginAt : Option ℤ
  lastHeartbeatAt : Option ℤ
  lastLocationAt : Option ℤ
  latestProtocolNumber : Option ℕ
  latestPacketFamily : Option String
  latestGpsTimestamp : Option ℤ
  latestLatitude : Option ℚ
  latestLongitude : Option ℚ
  latestSpeedKph : Option ℕ
  latestCourse : Option ℕ
  latestCourseStatus : Option ℕ
  latestSatelliteCount : Option ℕ
  latestGpsInfoLength : Option ℕ
  latestLocationExtraDataHex : Option String
  latestTerminalInfoRaw : Option ℕ
  latestTerminalInfoBits : Option String
  latestGpsTrackingOn : Option Bool
  latestBit1Guess : Option Bool
  latestAccHigh : Option Bool
  latestBit3Guess : Option Bool
  latestVibrationDetected : Option Bool
  latestBit4Guess : Option Bool
  latestEngineStatusGuess : Option String
  latestVoltageLevel : Option ℕ
  latestGsmSignalStrength : Option ℕ
  latestAlarmLanguage : Option ℕ
  latestPeerAddr : Option String
  deriving DecidableEq

/-- A row of `device_locations`. -/
structure LocationRow where
  id : ℕ
  deviceId : ℕ
  imei : String
  serverReceivedAt : ℤ
  gpsTimestamp : ℤ
  protocolNumber : ℕ
  packetFamily : String
  latitude : ℚ
  longitude : ℚ
  speedKph : ℕ
  course : ℕ
  courseStatus : ℕ
  satelliteCount : ℕ
  gpsInfoLength : ℕ
  extraDataHex : String
  peerAddr : String
  deriving DecidableEq

/-- A row of `device_heartbeats`. -/
structure HeartbeatRow where
  id : ℕ
  deviceId : ℕ
  imei : String
  serverReceivedAt : ℤ
  protocolNumber : ℕ
  peerAddr : String
  terminalInfoRaw : ℕ
  terminalInfoBits : String
  gpsTrackingOn : Bool
  bit1Guess : Bool
  accHigh : Option Bool
  bit3Guess : Bool
  vibrationDetected : Bool
  bit4Guess : Bool
  engineStatusGuess : String
  voltageLevel : ℕ
  gsmSignalStrength : ℕ
  alarmLanguage : ℕ
  deriving DecidableEq

/-! ### The columns of each statement -/

/-- The row of a device that has not reported anything. -/
def newDeviceRow (id : ℕ) (imei peerAddr : String) (now : ℤ) (lastLoginAt : Option ℤ) :
    DeviceRow where
  id := id
  imei := imei
  firstSeenAt := storedMicros now
  lastSeenAt := storedMicros now
  lastLoginAt := lastLoginAt
  lastHeartbeatAt := none
  lastLocationAt := none
  latestProtocolNumber := none
  latestPacketFamily := none
  latestGpsTimestamp := none
  latestLatitude := none
  latestLongitude := none
  latestSpeedKph := none
  latestCourse := none
  latestCourseStatus := none
  latestSatelliteCount := none
  latestGpsInfoLength := none
  latestLocationExtraDataHex := none
  latestTerminalInfoRaw := none
  latestTerminalInfoBits := none
  latestGpsTrackingOn := none
  latestBit1Guess := none
  latestAccHigh := none
  latestBit3Guess := none
  latestVibrationDetected := none
  latestBit4Guess := none
  latestEngineStatusGuess := none
  latestVoltageLevel := none
  latestGsmSignalStrength := none
  latestAlarmLanguage := none
  latestPeerAddr := some peerAddr

/-- The row after `upsert_device_last_seen`; `newId` is for a device without a row. -/
def seenRow (newId : ℕ) (imei peerAddr : String) (now : ℤ) : Option DeviceRow → DeviceRow
  | none => newDeviceRow newId imei peerAddr now none
  | some row => { row with lastSeenAt := storedMicros now, latestPeerAddr := some peerAddr }

/-- The row after `upsert_device_login`. -/
def loginRow (newId : ℕ) (imei peerAddr : String) (now : ℤ) : Option DeviceRow → DeviceRow
  | none => newDeviceRow newId imei peerAddr now (some (storedMicros now))
  | some row =>
      { row with
        lastSeenAt := storedMicros now
        lastLoginAt := some (storedMicros now)
        latestPeerAddr := some peerAddr }

/-- The row `insert_location` inserts. -/
def locationRow (id deviceId : ℕ) (imei peerAddr : String) (serverReceivedAt now : ℤ)
    (packet : LocationPacket) : LocationRow where
  id := id
  deviceId := deviceId
  imei := imei
  serverReceivedAt := storedMicros serverReceivedAt
  gpsTimestamp := gpsTimestampToNaive packet.timestamp now
  protocolNumber := extendedProtocolNumber packet
  packetFamily := packetFamily packet
  latitude := packet.latitude
  longitude := packet.longitude
  speedKph := packet.speedKph.toNat
  course := packet.course.toNat
  courseStatus := packet.courseStatus.toNat
  satelliteCount := packet.satelliteCount.toNat
  gpsInfoLength := packet.gpsInfoLength.toNat
  extraDataHex := formatBytesHex packet.extraData
  peerAddr := peerAddr

/-- The row of the device after `update_device_latest_location`. -/
def DeviceRow.latestLocation (row : DeviceRow) (peerAddr : String) (serverReceivedAt now : ℤ)
    (packet : LocationPacket) : DeviceRow :=
  { row with
    lastSeenAt := storedMicros serverReceivedAt
    lastLocationAt := some (storedMicros serverReceivedAt)
    latestPeerAddr := some peerAddr
    latestProtocolNumber := some (extendedProtocolNumber packet)
    latestPacketFamily := some (packetFamily packet)
    latestGpsTimestamp := some (gpsTimestampToNaive packet.timestamp now)
    latestLatitude := some packet.latitude
    latestLongitude := some packet.longitude
    latestSpeedKph := some packet.speedKph.toNat
    latestCourse := some packet.course.toNat
    latestCourseStatus := some packet.courseStatus.toNat
    latestSatelliteCount := some packet.satelliteCount.toNat
    latestGpsInfoLength := some packet.gpsInfoLength.toNat
    latestLocationExtraDataHex := some (formatBytesHex packet.extraData) }

/-- The row `insert_heartbeat` inserts; `previous` is what `fetch_previous_acc_high` finds. -/
def heartbeatRow (id deviceId : ℕ) (imei peerAddr : String) (serverReceivedAt : ℤ)
    (previous : Option Bool) (packet : HeartbeatPacket) : HeartbeatRow :=
  let flags := decodeTerminalInfoFlags packet.terminalInfo
  let effectiveAccHigh := resolveAccHigh flags.accHigh previous
  { id := id
    deviceId := deviceId
    imei := imei
    serverReceivedAt := storedMicros serverReceivedAt
    protocolNumber := protocolHeartbeat.toNat
    peerAddr := peerAddr
    terminalInfoRaw := packet.terminalInfo.toNat
    terminalInfoBits := flags.binary
    gpsTrackingOn := flags.gpsTrackingOn
    bit1Guess := flags.bit1Guess
    accHigh := effectiveAccHigh
    bit3Guess := flags.bit3Guess
    vibrationDetected := flags.vibrationDetected
    bit4Guess := flags.bit4Guess
    engineStatusGuess := engineStatusAsStr (resolveEngineStatusGuess effectiveAccHigh)
    voltageLevel := packet.voltageLevel.toNat
    gsmSignalStrength := packet.gsmSignalStrength.toNat
    alarmLanguage := packet.alarmLanguage.toNat }

/-- The row of the device after `update_device_latest_heartbeat`. -/
def DeviceRow.latestHeartbeat (row : DeviceRow) (peerAddr : String) (serverReceivedAt : ℤ)
    (previous : Option Bool) (packet : HeartbeatPacket) : DeviceRow :=
  let flags := decodeTerminalInfoFlags packet.terminalInfo
  let effectiveAccHigh := resolveAccHigh flags.accHigh previous
  { row with
    lastSeenAt := storedMicros serverReceivedAt
    lastHeartbeatAt := some (storedMicros serverReceivedAt)
    latestPeerAddr := some peerAddr
    latestProtocolNumber := some protocolHeartbeat.toNat
    latestPacketFamily := some "heartbeat"
    latestTerminalInfoRaw := some packet.terminalInfo.toNat
    latestTerminalInfoBits := some flags.binary
    latestGpsTrackingOn := some flags.gpsTrackingOn
    latestBit1Guess := some flags.bit1Guess
    latestAccHigh := effectiveAccHigh
    latestBit3Guess := some flags.bit3Guess
    latestVibrationDetected := some flags.vibrationDetected
    latestBit4Guess := some flags.bit4Guess
    latestEngineStatusGuess := some (engineStatusAsStr (resolveEngineStatusGuess effectiveAccHigh))
    latestVoltageLevel := some packet.voltageLevel.toNat
    latestGsmSignalStrength := some packet.gsmSignalStrength.toNat
    latestAlarmLanguage := some packet.alarmLanguage.toNat }

/-- `fetch_previous_acc_high`: the ignition of the newest row of the device that has one. -/
def fetchPreviousAccHigh (heartbeats : List HeartbeatRow) (imei : String) : Option Bool :=
  ((heartbeats.filter fun row => row.imei = imei ∧ row.accHigh.isSome).argmax
    HeartbeatRow.id).bind HeartbeatRow.accHigh

/-! ### The tables -/

/-- The three tables; a number that has been given out once is not given out again. -/
structure DeviceTables where
  devices : List DeviceRow
  locations : List LocationRow
  heartbeats : List HeartbeatRow
  lastDeviceId : ℕ
  lastLocationId : ℕ
  lastHeartbeatId : ℕ
  devices_pkey : UniqueOn DeviceRow.id devices
  devices_imei : UniqueOn DeviceRow.imei devices
  devices_id_le : ∀ row ∈ devices, row.id ≤ lastDeviceId

namespace DeviceTables

variable (tables : DeviceTables)

/-- The row of a device. -/
def deviceOf (imei : String) : Option DeviceRow := rowAt DeviceRow.imei imei tables.devices

/-- `INSERT INTO devices … ON CONFLICT (imei) DO UPDATE`, which uses up a number either way. -/
def upsertDevice (imei : String) (f : ℕ → Option DeviceRow → DeviceRow)
    (hnew : ∀ id, (f id none).id = id ∧ (f id none).imei = imei)
    (hold : ∀ id row, (f id (some row)).id = row.id ∧ (f id (some row)).imei = row.imei) :
    DeviceTables where
  devices := upsertAt DeviceRow.imei (f (tables.lastDeviceId + 1) none)
    (fun row => f (tables.lastDeviceId + 1) (some row)) tables.devices
  locations := tables.locations
  heartbeats := tables.heartbeats
  lastDeviceId := tables.lastDeviceId + 1
  lastLocationId := tables.lastLocationId
  lastHeartbeatId := tables.lastHeartbeatId
  devices_pkey := by
    refine tables.devices_pkey.upsertAt_of_fresh (fun row => (hold _ row).1) ?_
    intro row hrow
    have hle := tables.devices_id_le row hrow
    rw [(hnew _).1]
    omega
  devices_imei := tables.devices_imei.upsertAt fun row => (hold _ row).2
  devices_id_le := by
    intro row hrow
    rcases mem_upsertAt hrow with hrow | rfl | ⟨old, hold', rfl⟩
    · exact (tables.devices_id_le row hrow).trans (Nat.le_succ _)
    · exact (hnew _).1.le
    · rw [(hold _ old).1]
      exact (tables.devices_id_le old hold').trans (Nat.le_succ _)

/-- `UPDATE devices SET f WHERE id = $1`. -/
def updateDevice (id : ℕ) (f : DeviceRow → DeviceRow) (hid : ∀ row, (f row).id = row.id)
    (himei : ∀ row, (f row).imei = row.imei) : DeviceTables where
  devices := updateAt DeviceRow.id id f tables.devices
  locations := tables.locations
  heartbeats := tables.heartbeats
  lastDeviceId := tables.lastDeviceId
  lastLocationId := tables.lastLocationId
  lastHeartbeatId := tables.lastHeartbeatId
  devices_pkey := tables.devices_pkey.updateAt _ _ hid
  devices_imei := tables.devices_imei.updateAt _ _ himei
  devices_id_le := by
    intro row hrow
    obtain ⟨old, hold, rfl⟩ := mem_updateAt.1 hrow
    have hle := tables.devices_id_le old hold
    split
    · rw [hid]
      exact hle
    · exact hle

/-! ### The statements of a transaction -/

/-- `upsert_device_last_seen`, with the number it returns. -/
def upsertDeviceLastSeen (imei peerAddr : String) (now : ℤ) : ℕ × DeviceTables :=
  ((seenRow (tables.lastDeviceId + 1) imei peerAddr now (tables.deviceOf imei)).id,
    tables.upsertDevice imei (fun id => seenRow id imei peerAddr now) (fun _ => ⟨rfl, rfl⟩)
      fun _ _ => ⟨rfl, rfl⟩)

def upsertDeviceLogin (imei peerAddr : String) (now : ℤ) : DeviceTables :=
  tables.upsertDevice imei (fun id => loginRow id imei peerAddr now) (fun _ => ⟨rfl, rfl⟩)
    fun _ _ => ⟨rfl, rfl⟩

def insertLocation (deviceId : ℕ) (imei peerAddr : String) (serverReceivedAt now : ℤ)
    (packet : LocationPacket) : DeviceTables :=
  { tables with
    locations := tables.locations ++ [locationRow (tables.lastLocationId + 1) deviceId imei
      peerAddr serverReceivedAt now packet]
    lastLocationId := tables.lastLocationId + 1 }

def updateDeviceLatestLocation (deviceId : ℕ) (peerAddr : String) (serverReceivedAt now : ℤ)
    (packet : LocationPacket) : DeviceTables :=
  tables.updateDevice deviceId
    (fun row => row.latestLocation peerAddr serverReceivedAt now packet) (fun _ => rfl)
    fun _ => rfl

def insertHeartbeat (deviceId : ℕ) (imei peerAddr : String) (serverReceivedAt : ℤ)
    (packet : HeartbeatPacket) : DeviceTables :=
  { tables with
    heartbeats := tables.heartbeats ++ [heartbeatRow (tables.lastHeartbeatId + 1) deviceId imei
      peerAddr serverReceivedAt (fetchPreviousAccHigh tables.heartbeats imei) packet]
    lastHeartbeatId := tables.lastHeartbeatId + 1 }

def updateDeviceLatestHeartbeat (deviceId : ℕ) (imei peerAddr : String) (serverReceivedAt : ℤ)
    (packet : HeartbeatPacket) : DeviceTables :=
  tables.updateDevice deviceId
    (fun row => row.latestHeartbeat peerAddr serverReceivedAt
      (fetchPreviousAccHigh tables.heartbeats imei) packet) (fun _ => rfl) fun _ => rfl

end DeviceTables

/-- The readings of the clock in a transaction: the time the event counts as received, and what
the clock shows at the insert and at the update. -/
structure ClockReadings where
  received : ℤ
  inserted : ℤ
  updated : ℤ
  received_le : received ≤ inserted
  inserted_le : inserted ≤ updated

/-- **The transaction of an event**, once it has committed. -/
def DeviceTables.persistEvent (tables : DeviceTables) (clock : ClockReadings) :
    DeviceEvent → DeviceTables
  | .login peerAddr imei _ => tables.upsertDeviceLogin imei peerAddr clock.received
  | .heartbeat _ none _ => tables
  | .heartbeat peerAddr (some imei) packet =>
      let (deviceId, tables) := tables.upsertDeviceLastSeen imei peerAddr clock.received
      let tables := tables.insertHeartbeat deviceId imei peerAddr clock.received packet
      tables.updateDeviceLatestHeartbeat deviceId imei peerAddr clock.received packet
  | .location _ none _ => tables
  | .location peerAddr (some imei) packet =>
      let (deviceId, tables) := tables.upsertDeviceLastSeen imei peerAddr clock.received
      let tables :=
        tables.insertLocation deviceId imei peerAddr clock.received clock.inserted packet
      tables.updateDeviceLatestLocation deviceId peerAddr clock.received clock.updated packet

/-! ### The snapshot and the history -/

/-- The columns of a device that show its latest location. -/
structure MirrorsLocation (device : DeviceRow) (row : LocationRow) : Prop where
  lastLocationAt : device.lastLocationAt = some row.serverReceivedAt
  gpsTimestamp : device.latestGpsTimestamp = some row.gpsTimestamp
  protocolNumber : device.latestProtocolNumber = some row.protocolNumber
  packetFamily : device.latestPacketFamily = some row.packetFamily
  latitude : device.latestLatitude = some row.latitude
  longitude : device.latestLongitude = some row.longitude
  speedKph : device.latestSpeedKph = some row.speedKph
  course : device.latestCourse = some row.course
  courseStatus : device.latestCourseStatus = some row.courseStatus
  satelliteCount : device.latestSatelliteCount = some row.satelliteCount
  gpsInfoLength : device.latestGpsInfoLength = some row.gpsInfoLength
  extraDataHex : device.latestLocationExtraDataHex = some row.extraDataHex
  peerAddr : device.latestPeerAddr = some row.peerAddr

/-- The columns of a device that show its latest heartbeat. -/
structure MirrorsHeartbeat (device : DeviceRow) (row : HeartbeatRow) : Prop where
  lastHeartbeatAt : device.lastHeartbeatAt = some row.serverReceivedAt
  protocolNumber : device.latestProtocolNumber = some row.protocolNumber
  terminalInfoRaw : device.latestTerminalInfoRaw = some row.terminalInfoRaw
  terminalInfoBits : device.latestTerminalInfoBits = some row.terminalInfoBits
  gpsTrackingOn : device.latestGpsTrackingOn = some row.gpsTrackingOn
  bit1Guess : device.latestBit1Guess = some row.bit1Guess
  accHigh : device.latestAccHigh = row.accHigh
  bit3Guess : device.latestBit3Guess = some row.bit3Guess
  vibrationDetected : device.latestVibrationDetected = some row.vibrationDetected
  bit4Guess : device.latestBit4Guess = some row.bit4Guess
  engineStatusGuess : device.latestEngineStatusGuess = some row.engineStatusGuess
  voltageLevel : device.latestVoltageLevel = some row.voltageLevel
  gsmSignalStrength : device.latestGsmSignalStrength = some row.gsmSignalStrength
  alarmLanguage : device.latestAlarmLanguage = some row.alarmLanguage
  peerAddr : device.latestPeerAddr = some row.peerAddr

/-- The transaction of an event has inserted one row of the history, and the row of the device
shows it. -/
def SnapshotOfHistory (before after : DeviceTables) : DeviceEvent → Prop
  | .heartbeat _ (some imei) _ => ∃ device row, after.deviceOf imei = some device ∧
      after.heartbeats = before.heartbeats ++ [row] ∧ MirrorsHeartbeat device row
  | .location _ (some imei) _ => ∃ device row, after.deviceOf imei = some device ∧
      after.locations = before.locations ++ [row] ∧ MirrorsLocation device row
  | _ => True

/-- The timestamp of a location is a date of the calendar, or both statements that fall back to the
clock read one microsecond. -/
def TimestampSettled (clock : ClockReadings) : DeviceEvent → Prop
  | .location _ (some _) packet => (naiveDateTime packet.timestamp).isSome ∨
      storedMicros clock.inserted = storedMicros clock.updated
  | _ => True

/-- **The lookup of the previous ignition never decides anything**: neither the row that was
inserted a moment before nor an older one changes what is written. -/
theorem heartbeatRow_previous (id deviceId : ℕ) (imei peerAddr : String) (serverReceivedAt : ℤ)
    (previous previous' : Option Bool) (packet : HeartbeatPacket) :
    heartbeatRow id deviceId imei peerAddr serverReceivedAt previous packet =
      heartbeatRow id deviceId imei peerAddr serverReceivedAt previous' packet := rfl

/-- Both statements of a location write one timestamp exactly when it is settled. -/
theorem gpsTimestampToNaive_eq_iff (timestamp : GpsTimestamp) (now now' : ℤ) :
    gpsTimestampToNaive timestamp now = gpsTimestampToNaive timestamp now' ↔
      (naiveDateTime timestamp).isSome ∨ storedMicros now = storedMicros now' := by
  unfold gpsTimestampToNaive
  cases naiveDateTime timestamp with
  | none => simp
  | some micros => simp

namespace DeviceTables

variable {tables : DeviceTables} {imei : String}

/-- What an upsert leaves to be read of its device. -/
theorem deviceOf_upsertDevice {f : ℕ → Option DeviceRow → DeviceRow}
    (hnew : ∀ id, (f id none).id = id ∧ (f id none).imei = imei)
    (hold : ∀ id row, (f id (some row)).id = row.id ∧ (f id (some row)).imei = row.imei) :
    (tables.upsertDevice imei f hnew hold).deviceOf imei =
      some (f (tables.lastDeviceId + 1) (tables.deviceOf imei)) := by
  change rowAt DeviceRow.imei imei (upsertAt DeviceRow.imei _ _ tables.devices) = _
  rw [rowAt_upsertAt fun row => (hold _ row).2, if_pos (hnew _).2]
  rw [deviceOf]
  cases rowAt DeviceRow.imei imei tables.devices with
  | none => rfl
  | some row => rfl

/-- What an update of a device leaves to be read of it. -/
theorem deviceOf_updateDevice {id : ℕ} {f : DeviceRow → DeviceRow}
    (hid : ∀ row, (f row).id = row.id) (himei : ∀ row, (f row).imei = row.imei) {row : DeviceRow}
    (hrow : tables.deviceOf imei = some row) (hkey : row.id = id) :
    (tables.updateDevice id f hid himei).deviceOf imei = some (f row) := by
  change rowAt DeviceRow.imei imei (updateAt DeviceRow.id id f tables.devices) = _
  rw [rowAt_updateAt himei]
  change (tables.deviceOf imei).map _ = _
  rw [hrow]
  exact congrArg some (if_pos hkey)

end DeviceTables

/-! ### One event -/

/-- The columns of a location are those of the row inserted before, but for the timestamp. -/
theorem mirrorsLocation_iff (device : DeviceRow) (id deviceId : ℕ) (imei peerAddr : String)
    (serverReceivedAt now now' : ℤ) (packet : LocationPacket) :
    MirrorsLocation (device.latestLocation peerAddr serverReceivedAt now' packet)
      (locationRow id deviceId imei peerAddr serverReceivedAt now packet) ↔
        gpsTimestampToNaive packet.timestamp now = gpsTimestampToNaive packet.timestamp now' := by
  constructor
  · intro h
    exact (Option.some.inj h.gpsTimestamp).symm
  · intro h
    exact
      { lastLocationAt := rfl
        gpsTimestamp := congrArg some h.symm
        protocolNumber := rfl
        packetFamily := rfl
        latitude := rfl
        longitude := rfl
        speedKph := rfl
        course := rfl
        courseStatus := rfl
        satelliteCount := rfl
        gpsInfoLength := rfl
        extraDataHex := rfl
        peerAddr := rfl }

/-- The columns of a heartbeat are those of the row inserted before, whatever was looked up. -/
theorem mirrorsHeartbeat (device : DeviceRow) (id deviceId : ℕ) (imei peerAddr : String)
    (serverReceivedAt : ℤ) (previous previous' : Option Bool) (packet : HeartbeatPacket) :
    MirrorsHeartbeat (device.latestHeartbeat peerAddr serverReceivedAt previous' packet)
      (heartbeatRow id deviceId imei peerAddr serverReceivedAt previous packet) := by
  rw [heartbeatRow_previous id deviceId imei peerAddr serverReceivedAt previous previous' packet]
  exact
    { lastHeartbeatAt := rfl
      protocolNumber := rfl
      terminalInfoRaw := rfl
      terminalInfoBits := rfl
      gpsTrackingOn := rfl
      bit1Guess := rfl
      accHigh := rfl
      bit3Guess := rfl
      vibrationDetected := rfl
      bit4Guess := rfl
      engineStatusGuess := rfl
      voltageLevel := rfl
      gsmSignalStrength := rfl
      alarmLanguage := rfl
      peerAddr := rfl }

section Transaction

variable (tables : DeviceTables) (clock : ClockReadings) (peerAddr imei : String)

/-- The row of the device in the middle of its transaction. -/
theorem deviceOf_upsertDeviceLastSeen :
    (tables.upsertDeviceLastSeen imei peerAddr clock.received).2.deviceOf imei =
      some (seenRow (tables.lastDeviceId + 1) imei peerAddr clock.received
        (tables.deviceOf imei)) :=
  DeviceTables.deviceOf_upsertDevice _ _

/-- What the transaction of a location leaves. -/
theorem persistEvent_location (packet : LocationPacket) :
    (tables.persistEvent clock (.location peerAddr (some imei) packet)).deviceOf imei =
        some ((seenRow (tables.lastDeviceId + 1) imei peerAddr clock.received
          (tables.deviceOf imei)).latestLocation peerAddr clock.received clock.updated packet) ∧
      (tables.persistEvent clock (.location peerAddr (some imei) packet)).locations =
        tables.locations ++ [locationRow (tables.lastLocationId + 1)
          (seenRow (tables.lastDeviceId + 1) imei peerAddr clock.received
            (tables.deviceOf imei)).id imei peerAddr clock.received clock.inserted packet] := by
  refine ⟨?_, rfl⟩
  exact DeviceTables.deviceOf_updateDevice
    (f := fun row => row.latestLocation peerAddr clock.received clock.updated packet)
    (fun _ => rfl) (fun _ => rfl) (deviceOf_upsertDeviceLastSeen tables clock peerAddr imei) rfl

/-- What the transaction of a heartbeat leaves. -/
theorem persistEvent_heartbeat (packet : HeartbeatPacket) :
    ∃ previous previous',
      (tables.persistEvent clock (.heartbeat peerAddr (some imei) packet)).deviceOf imei =
        some ((seenRow (tables.lastDeviceId + 1) imei peerAddr clock.received
          (tables.deviceOf imei)).latestHeartbeat peerAddr clock.received previous' packet) ∧
      (tables.persistEvent clock (.heartbeat peerAddr (some imei) packet)).heartbeats =
        tables.heartbeats ++ [heartbeatRow (tables.lastHeartbeatId + 1)
          (seenRow (tables.lastDeviceId + 1) imei peerAddr clock.received
            (tables.deviceOf imei)).id imei peerAddr clock.received previous packet] := by
  let seen := tables.upsertDeviceLastSeen imei peerAddr clock.received
  let inserted := seen.2.insertHeartbeat seen.1 imei peerAddr clock.received packet
  refine ⟨fetchPreviousAccHigh seen.2.heartbeats imei,
    fetchPreviousAccHigh inserted.heartbeats imei, ?_, rfl⟩
  exact DeviceTables.deviceOf_updateDevice
    (f := fun row => row.latestHeartbeat peerAddr clock.received
      (fetchPreviousAccHigh inserted.heartbeats imei) packet)
    (fun _ => rfl) (fun _ => rfl) (deviceOf_upsertDeviceLastSeen tables clock peerAddr imei) rfl

end Transaction

/-- **The snapshot is the newest row of the history exactly when the timestamp is a date of the
calendar or both statements of a location read one microsecond.** -/
theorem snapshotOfHistory_iff (tables : DeviceTables) (clock : ClockReadings)
    (event : DeviceEvent) :
    SnapshotOfHistory tables (tables.persistEvent clock event) event ↔
      TimestampSettled clock event := by
  cases event with
  | login peerAddr imei serial => exact Iff.rfl
  | heartbeat peerAddr deviceId packet =>
      cases deviceId with
      | none => exact Iff.rfl
      | some imei =>
          obtain ⟨previous, previous', hdevice, hrows⟩ :=
            persistEvent_heartbeat tables clock peerAddr imei packet
          refine iff_of_true ⟨_, _, hdevice, hrows, ?_⟩ trivial
          exact mirrorsHeartbeat _ _ _ imei peerAddr clock.received previous previous' packet
  | location peerAddr deviceId packet =>
      cases deviceId with
      | none => exact Iff.rfl
      | some imei =>
          obtain ⟨hdevice, hrows⟩ := persistEvent_location tables clock peerAddr imei packet
          refine Iff.trans ?_ (gpsTimestampToNaive_eq_iff packet.timestamp clock.inserted
            clock.updated)
          rw [← mirrorsLocation_iff]
          constructor
          · rintro ⟨device, row, hdevice', hrows', hmirrors⟩
            rw [hdevice, Option.some_inj] at hdevice'
            rw [hrows, List.append_cancel_left_eq, List.singleton_inj] at hrows'
            rw [← hdevice', ← hrows'] at hmirrors
            exact hmirrors
          · intro hmirrors
            exact ⟨_, _, hdevice, hrows, hmirrors⟩

/-! ### A tracker without a date -/

/-- Tables without a row. -/
def DeviceTables.empty : DeviceTables :=
  ⟨[], [], [], 0, 0, 0, List.nodup_nil, List.nodup_nil, by simp⟩

/-- A packet of a tracker that has not found its satellites: the month and the day are zero. -/
def undatedPacket : LocationPacket where
  timestamp := ⟨2000, 0, 0, 0, 0, 0⟩
  gpsInfoLength := 12
  satelliteCount := 0
  latitude := 0
  longitude := 0
  speedKph := 0
  course := 0
  courseStatus := 0
  extraData := []

def undatedLocation : DeviceEvent :=
  .location "10.0.0.7:40001" (some "866221070478388") undatedPacket

/-- A clock that goes on by a millisecond from the insert to the update. -/
def tickingClock : ClockReadings where
  received := 1776018601000000000
  inserted := 1776018601000500000
  updated := 1776018601001500000
  received_le := by decide
  inserted_le := by decide

/-- The history says one time and the snapshot another. -/
theorem undatedLocation_not_snapshot :
    ¬ SnapshotOfHistory DeviceTables.empty
      (DeviceTables.empty.persistEvent tickingClock undatedLocation) undatedLocation := by
  obtain ⟨hdevice, hrows⟩ := persistEvent_location DeviceTables.empty tickingClock
    "10.0.0.7:40001" "866221070478388" undatedPacket
  rintro ⟨device, row, hdevice', hrows', hmirrors⟩
  have hsame : some device = some _ := hdevice'.symm.trans hdevice
  have hrow : DeviceTables.empty.locations ++ [row] = _ := hrows'.symm.trans hrows
  rw [List.append_cancel_left_eq, List.singleton_inj] at hrow
  rw [Option.some.inj hsame, hrow, mirrorsLocation_iff] at hmirrors
  exact absurd hmirrors (by decide)

end Gt06
