/-
**Where the latest report of a device is read.**

What a device last reported is kept in its own row and in the histories, and it is read in both
places.  The page about a device's activity reads the row, and the bot's alerts read the newest
heartbeat; the bot's location messages read the row, and the API's latest location and the live
tracking link read the history, there by time and not by number.  The transactions that write the
two places overlap, may be rolled back, and may commit in another order than that in which they
read the clock.

The row of a device is held from the first statement of a transaction to its commit.  So what the
row shows is the row of the history with the highest number, in every state; and it is the row with
the latest time as well as long as the locks are taken in the order of the times.

Main definitions:

* `Gt06.DeviceActivity`, `Gt06.DeviceHistory.StoredLocation` and the queries of
  `Gt06.DeviceHistory` — what is read, and where;
* `Gt06.ShowsHeartbeat`, `Gt06.ShowsLocation` — the columns of a device that show a row of a
  history, or that there is none;
* `Gt06.DeviceHistory.SnapshotInv` — every device shows its newest rows;
* `Gt06.ChatWorld.Reads` — the tables of the bot's handlers are those that the transactions write.

Main results:

* `Gt06.DeviceHistory.snapshotInv_step` — **what every statement of any transaction preserves**;
* `Gt06.latest_reports_agree` — **all the places agree**, those that go by time as long as the
  locks are taken in the order of the times;
* `Gt06.ChatWorld.Reads.latest` — the handlers of the bot read the same.
-/

import Mathlib
import Gt06Server.Await
import Gt06Server.ChatRequests
import Gt06Server.DeviceHistory
import Gt06Server.Relational
import Gt06Server.RowLocks
import Gt06Server.TelemetryServer

set_option relaxedAutoImplicit false
set_option autoImplicit false

namespace Gt06

open Await Relational RowLocks

/-! ### What is read -/

/-- The body of `get_device_activity`. -/
structure DeviceActivity where
  imei : String
  lastSeenAt : ℤ
  latestEngineStatus : Option String
  latestVoltageLevel : Option ℕ
  batteryReportedAt : Option ℤ
  deriving DecidableEq, Repr

namespace DeviceHistory

/-- The `StoredLocation` of the bot. -/
structure StoredLocation where
  imei : String
  lastSeenAt : Option ℤ
  gpsTimestamp : Option ℤ
  latitude : Option ℚ
  longitude : Option ℚ
  speedKph : Option ℕ
  course : Option ℕ
  satelliteCount : Option ℕ
  deriving DecidableEq, Repr

variable (s : DeviceHistory) (imei : String)

/-- The committed locations. -/
def locations : List LocationRow :=
  s.rows.filterMap fun
    | .location row => some row
    | .heartbeat _ => none

def heartbeatsOf : List HeartbeatRow := s.heartbeats.filter fun row => row.imei = imei

def locationsOf : List LocationRow := s.locations.filter fun row => row.imei = imei

/-- `get_device_activity`; no answer is `DeviceNotFound`. -/
def getDeviceActivity : Option DeviceActivity :=
  (s.store.committed imei).map fun device =>
    { imei := imei
      lastSeenAt := device.lastSeenAt
      latestEngineStatus := device.latestEngineStatusGuess
      latestVoltageLevel := device.latestVoltageLevel
      batteryReportedAt := device.lastHeartbeatAt }

/-- `fetch_latest_heartbeat_for_imei`, with all the columns of the row. -/
def fetchLatestHeartbeatForImei : Option HeartbeatRow :=
  (s.heartbeatsOf imei).argmax HeartbeatRow.id

/-- `fetch_latest_location_for_imei`. -/
def fetchLatestLocationForImei : Option StoredLocation :=
  (s.store.committed imei).map fun device =>
    { imei := imei
      lastSeenAt := some device.lastSeenAt
      gpsTimestamp := device.latestGpsTimestamp
      latitude := device.latestLatitude
      longitude := device.latestLongitude
      speedKph := device.latestSpeedKph
      course := device.latestCourse
      satelliteCount := device.latestSatelliteCount }

/-- The rows with the latest time among some rows. -/
def latestRows (rows : List LocationRow) : List LocationRow :=
  rows.filter fun row => ∀ other ∈ rows, other.serverReceivedAt ≤ row.serverReceivedAt

/-- The row that `get_device_latest_location` shows, the first by `server_received_at DESC, id
DESC`: of the rows with the latest time the one with the highest number. -/
def getDeviceLatestLocation : Option LocationRow :=
  (latestRows (s.locationsOf imei)).argmax LocationRow.id

/-- `fetch_latest_location_received_at`, where the live tracking link begins. -/
def fetchLatestLocationReceivedAt : Option ℤ :=
  (s.getDeviceLatestLocation imei).map LocationRow.serverReceivedAt

/-- The location with the highest number. -/
def newestLocation : Option LocationRow := (s.locationsOf imei).argmax LocationRow.id

end DeviceHistory

/-! ### What the handlers of the bot read -/

/-- The columns that messages show. -/
def DeviceHistory.StoredLocation.shown (location : DeviceHistory.StoredLocation) :
    LatestLocation where
  imei := location.imei
  lastSeenAt := location.lastSeenAt
  latitude := location.latitude
  longitude := location.longitude
  speedKph := location.speedKph

def LocationRow.ridePoint (row : LocationRow) : RidePoint where
  id := row.id
  imei := row.imei
  serverReceivedAt := row.serverReceivedAt
  latitude := row.latitude
  longitude := row.longitude
  speedKph := row.speedKph

def HeartbeatRow.stored (row : HeartbeatRow) : StoredHeartbeat where
  id := row.id
  imei := row.imei
  serverReceivedAt := row.serverReceivedAt
  engineStatusGuess := row.engineStatusGuess

/-- The tables of the handlers are the committed ones. -/
structure ChatWorld.Reads (w : ChatWorld) (s : DeviceHistory) : Prop where
  devices : ∀ row, row ∈ w.devices ↔
    row ∈ (s.fetchLatestLocationForImei row.imei).map DeviceHistory.StoredLocation.shown
  deviceLocations : w.deviceLocations = s.locations.map LocationRow.ridePoint
  deviceHeartbeats : w.deviceHeartbeats = s.heartbeats.map HeartbeatRow.stored

section Reads

variable {w : ChatWorld} {s : DeviceHistory}

theorem ChatWorld.Reads.location (h : w.Reads s) (imei : String) :
    Gt06.fetchLatestLocationForImei w.devices imei =
      (s.fetchLatestLocationForImei imei).map DeviceHistory.StoredLocation.shown := by
  have himei : ∀ row ∈ (s.fetchLatestLocationForImei imei).map DeviceHistory.StoredLocation.shown,
      row.imei = imei := by
    intro row hrow
    obtain ⟨location, hlocation, rfl⟩ := Option.map_eq_some_iff.1 hrow
    obtain ⟨device, -, rfl⟩ := Option.map_eq_some_iff.1 hlocation
    rfl
  unfold Gt06.fetchLatestLocationForImei
  cases hfound : w.devices.find? fun row => row.imei = imei with
  | some row =>
      obtain rfl : row.imei = imei := by simpa using List.find?_some hfound
      exact ((h.devices row).1 (List.mem_of_find?_eq_some hfound)).symm
  | none =>
      cases hshown : (s.fetchLatestLocationForImei imei).map DeviceHistory.StoredLocation.shown with
      | none => rfl
      | some row =>
          obtain rfl : row.imei = imei := himei row hshown
          have hne := List.find?_eq_none.1 hfound row ((h.devices row).2 hshown)
          exact absurd (decide_eq_true rfl) hne

theorem ChatWorld.Reads.heartbeat (h : w.Reads s) (imei : String) :
    Gt06.fetchLatestHeartbeatForImei w.deviceHeartbeats imei =
      (s.fetchLatestHeartbeatForImei imei).map HeartbeatRow.stored := by
  rw [Gt06.fetchLatestHeartbeatForImei, h.deviceHeartbeats]
  exact head?_orderBy_desc_map (fun _ => rfl) (fun _ => rfl) s.heartbeats

/-- The time of the first row by time and number is the latest time. -/
theorem map_argmax_lex (rows : List LocationRow) :
    (rows.argmax fun row => toLex (row.serverReceivedAt, row.id)).map LocationRow.serverReceivedAt =
      ((DeviceHistory.latestRows rows).argmax LocationRow.id).map
        LocationRow.serverReceivedAt := by
  cases hfirst : rows.argmax fun row => toLex (row.serverReceivedAt, row.id) with
  | none =>
      rw [List.argmax_eq_none.1 hfirst]
      rfl
  | some first =>
      obtain ⟨hmem, hmax, -⟩ := List.argmax_eq_some_iff.1 hfirst
      have hlatest : first ∈ DeviceHistory.latestRows rows := by
        refine List.mem_filter.2 ⟨hmem, decide_eq_true fun other hother => ?_⟩
        rcases Prod.Lex.toLex_le_toLex.1 (hmax other hother) with hlt | ⟨heq, -⟩
        · exact hlt.le
        · exact heq.le
      cases hshown : (DeviceHistory.latestRows rows).argmax LocationRow.id with
      | none =>
          rw [List.argmax_eq_none.1 hshown] at hlatest
          cases hlatest
      | some shown =>
          have hshown := List.argmax_mem hshown
          have hle := of_decide_eq_true (List.mem_filter.1 hshown).2 first hmem
          have hge := of_decide_eq_true (List.mem_filter.1 hlatest).2 shown
            (List.mem_of_mem_filter hshown)
          exact congrArg some (le_antisymm hle hge)

theorem ChatWorld.Reads.receivedAt (h : w.Reads s) (imei : String) :
    Gt06.fetchLatestLocationReceivedAt w.deviceLocations imei =
      s.fetchLatestLocationReceivedAt imei := by
  have horder : ∀ a b : RidePoint, decide (b.serverReceivedAt < a.serverReceivedAt ∨
      a.serverReceivedAt = b.serverReceivedAt ∧ b.id ≤ a.id) =
        decide (toLex (b.serverReceivedAt, b.id) ≤ toLex (a.serverReceivedAt, a.id)) := by
    intro a b
    rw [decide_eq_decide, Prod.Lex.toLex_le_toLex]
    simp only [eq_comm]
  have hhead : (((s.locations.map LocationRow.ridePoint).filter fun row =>
      row.imei = imei).mergeSort fun a b =>
        toLex (b.serverReceivedAt, b.id) ≤ toLex (a.serverReceivedAt, a.id)).head? =
      ((s.locationsOf imei).argmax fun row => toLex (row.serverReceivedAt, row.id)).map
        LocationRow.ridePoint :=
    head?_orderBy_desc_map (fun _ => rfl) (fun _ => rfl) s.locations
  unfold Gt06.fetchLatestLocationReceivedAt
  simp only [horder, h.deviceLocations]
  rw [hhead, Option.map_map]
  exact map_argmax_lex (s.locationsOf imei)

/-- **The handlers of the bot read the same.** -/
theorem ChatWorld.Reads.latest (h : w.Reads s) (imei : String) :
    Gt06.fetchLatestLocationForImei w.devices imei =
        (s.fetchLatestLocationForImei imei).map DeviceHistory.StoredLocation.shown ∧
      Gt06.fetchLatestLocationReceivedAt w.deviceLocations imei =
        s.fetchLatestLocationReceivedAt imei ∧
      Gt06.fetchLatestHeartbeatForImei w.deviceHeartbeats imei =
        (s.fetchLatestHeartbeatForImei imei).map HeartbeatRow.stored :=
  ⟨h.location imei, h.receivedAt imei, h.heartbeat imei⟩

end Reads

/-! ### What a device shows -/

/-- The columns of a device that show its latest heartbeat, or that there is none. -/
structure ShowsHeartbeat (device : DeviceRow) (row : Option HeartbeatRow) : Prop where
  lastHeartbeatAt : device.lastHeartbeatAt = row.map HeartbeatRow.serverReceivedAt
  terminalInfoRaw : device.latestTerminalInfoRaw = row.map HeartbeatRow.terminalInfoRaw
  terminalInfoBits : device.latestTerminalInfoBits = row.map HeartbeatRow.terminalInfoBits
  gpsTrackingOn : device.latestGpsTrackingOn = row.map HeartbeatRow.gpsTrackingOn
  bit1Guess : device.latestBit1Guess = row.map HeartbeatRow.bit1Guess
  accHigh : device.latestAccHigh = row.bind HeartbeatRow.accHigh
  bit3Guess : device.latestBit3Guess = row.map HeartbeatRow.bit3Guess
  vibrationDetected : device.latestVibrationDetected = row.map HeartbeatRow.vibrationDetected
  bit4Guess : device.latestBit4Guess = row.map HeartbeatRow.bit4Guess
  engineStatusGuess : device.latestEngineStatusGuess = row.map HeartbeatRow.engineStatusGuess
  voltageLevel : device.latestVoltageLevel = row.map HeartbeatRow.voltageLevel
  gsmSignalStrength : device.latestGsmSignalStrength = row.map HeartbeatRow.gsmSignalStrength
  alarmLanguage : device.latestAlarmLanguage = row.map HeartbeatRow.alarmLanguage

/-- The columns of a device that show its latest location, or that there is none.  The timestamp of
a tracker without a date falls back to the clock, which has moved on since the insert. -/
structure ShowsLocation (device : DeviceRow) (row : Option LocationRow) : Prop where
  lastLocationAt : device.lastLocationAt = row.map LocationRow.serverReceivedAt
  latitude : device.latestLatitude = row.map LocationRow.latitude
  longitude : device.latestLongitude = row.map LocationRow.longitude
  speedKph : device.latestSpeedKph = row.map LocationRow.speedKph
  course : device.latestCourse = row.map LocationRow.course
  courseStatus : device.latestCourseStatus = row.map LocationRow.courseStatus
  satelliteCount : device.latestSatelliteCount = row.map LocationRow.satelliteCount
  gpsInfoLength : device.latestGpsInfoLength = row.map LocationRow.gpsInfoLength
  extraDataHex : device.latestLocationExtraDataHex = row.map LocationRow.extraDataHex

/-- A device shows its newest rows; a device without a row has none. -/
def Shows (heartbeat : Option HeartbeatRow) (location : Option LocationRow) :
    Option DeviceRow → Prop
  | none => heartbeat = none ∧ location = none
  | some device => ShowsHeartbeat device heartbeat ∧ ShowsLocation device location

/-- The newest rows of a device after one more row. -/
def HistoryRow.newerHeartbeat (row : HistoryRow) (newest : Option HeartbeatRow) :
    Option HeartbeatRow :=
  match row with
  | .heartbeat row => some row
  | .location _ => newest

def HistoryRow.newerLocation (row : HistoryRow) (newest : Option LocationRow) :
    Option LocationRow :=
  match row with
  | .heartbeat _ => newest
  | .location row => some row

theorem shows_newDeviceRow (id : ℕ) (imei peerAddr : String) (now : ℤ) (lastLoginAt : Option ℤ) :
    Shows none none (some (newDeviceRow id imei peerAddr now lastLoginAt)) :=
  ⟨⟨rfl, rfl, rfl, rfl, rfl, rfl, rfl, rfl, rfl, rfl, rfl, rfl, rfl⟩,
    ⟨rfl, rfl, rfl, rfl, rfl, rfl, rfl, rfl, rfl⟩⟩

section Columns

variable {device : DeviceRow} {heartbeat : Option HeartbeatRow} {location : Option LocationRow}

/-- `last_seen_at`, `last_login_at` and the peer address show no report. -/
theorem shows_of_seen {lastSeenAt : ℤ} {lastLoginAt : Option ℤ} {peerAddr : Option String}
    (h : Shows heartbeat location (some device)) :
    Shows heartbeat location (some { device with
      lastSeenAt := lastSeenAt
      lastLoginAt := lastLoginAt
      latestPeerAddr := peerAddr }) :=
  ⟨⟨h.1.1, h.1.2, h.1.3, h.1.4, h.1.5, h.1.6, h.1.7, h.1.8, h.1.9, h.1.10, h.1.11, h.1.12,
    h.1.13⟩, ⟨h.2.1, h.2.2, h.2.3, h.2.4, h.2.5, h.2.6, h.2.7, h.2.8, h.2.9⟩⟩

/-- The update of a heartbeat shows the row that was inserted, and leaves the location. -/
theorem shows_latestHeartbeat (h : Shows heartbeat location (some device)) (id deviceId : ℕ)
    (imei peerAddr : String) {receivedAt receivedAt' : ℤ}
    (htime : storedMicros receivedAt = storedMicros receivedAt') (previous previous' : Option Bool)
    (packet : HeartbeatPacket) :
    Shows (some (heartbeatRow id deviceId imei peerAddr receivedAt previous packet)) location
      (some (device.latestHeartbeat peerAddr receivedAt' previous' packet)) :=
  ⟨⟨congrArg some htime.symm, rfl, rfl, rfl, rfl, rfl, rfl, rfl, rfl, rfl, rfl, rfl, rfl⟩,
    ⟨h.2.1, h.2.2, h.2.3, h.2.4, h.2.5, h.2.6, h.2.7, h.2.8, h.2.9⟩⟩

/-- The update of a location shows the row that was inserted, and leaves the heartbeat. -/
theorem shows_latestLocation (h : Shows heartbeat location (some device)) (id deviceId : ℕ)
    (imei peerAddr : String) {receivedAt receivedAt' : ℤ}
    (htime : storedMicros receivedAt = storedMicros receivedAt') (now now' : ℤ)
    (packet : LocationPacket) :
    Shows heartbeat (some (locationRow id deviceId imei peerAddr receivedAt now packet))
      (some (device.latestLocation peerAddr receivedAt' now' packet)) :=
  ⟨⟨h.1.1, h.1.2, h.1.3, h.1.4, h.1.5, h.1.6, h.1.7, h.1.8, h.1.9, h.1.10, h.1.11, h.1.12,
    h.1.13⟩, ⟨congrArg some htime.symm, rfl, rfl, rfl, rfl, rfl, rfl, rfl, rfl⟩⟩

end Columns

/-! ### What the statements do to it -/

namespace DeviceHistory

variable {s s' : DeviceHistory} {t : ℕ} {imei : String}

/-- The newest rows of a device, by the order of the commits. -/
def lastHeartbeat (s : DeviceHistory) (imei : String) : Option HeartbeatRow :=
  (s.heartbeatsOf imei).getLast?

def lastLocation (s : DeviceHistory) (imei : String) : Option LocationRow :=
  (s.locationsOf imei).getLast?

/-- The device shows the newest rows. -/
def ShowsNewest (s : DeviceHistory) (imei : String) (device : Option DeviceRow) : Prop :=
  Shows (s.lastHeartbeat imei) (s.lastLocation imei) device

/-- What the version of its device that a transaction holds shows: the newest rows, and after the
update the row that the transaction has inserted. -/
def HeldShows (s : DeviceHistory) (imei : String) (device : DeviceRow) : EventThread → Prop
  | .idle => False
  | .received _ => False
  | .seen _ _ _ => s.ShowsNewest imei (some device)
  | .inserted _ _ _ => s.ShowsNewest imei (some device)
  | .finished _ _ none => s.ShowsNewest imei (some device)
  | .finished _ _ (some row) =>
      Shows (row.newerHeartbeat (s.lastHeartbeat imei)) (row.newerLocation (s.lastLocation imei))
        (some device)

/-- Every device shows its newest rows, to everybody and to the transaction that holds it; and the
rows of a device have their numbers in the order of the commits. -/
structure SnapshotInv (s : DeviceHistory) : Prop where
  lock : s.LockInv
  consistent : ∀ t, (s.threads t).Consistent
  committed : ∀ imei, s.ShowsNewest imei (s.store.committed imei)
  held : ∀ imei t device, s.store.held imei = some (t, device) →
    s.HeldShows imei device (s.threads t)
  numbered : s.rows.Pairwise fun old row => old.imei = row.imei → old.kind = row.kind →
    old.id < row.id

/-- What one more row makes of the newest rows. -/
theorem newest_append {row : HistoryRow} (hrows : s'.rows = s.rows ++ [row]) (imei : String) :
    (s'.lastHeartbeat imei = if row.imei = imei then row.newerHeartbeat (s.lastHeartbeat imei)
        else s.lastHeartbeat imei) ∧
      s'.lastLocation imei = if row.imei = imei then row.newerLocation (s.lastLocation imei)
        else s.lastLocation imei := by
  simp only [lastHeartbeat, lastLocation, heartbeatsOf, locationsOf, heartbeats, locations, hrows,
    List.filterMap_append, List.filter_append]
  cases row with
  | heartbeat row =>
      by_cases himei : row.imei = imei
      · simp [HistoryRow.imei, HistoryRow.newerHeartbeat, HistoryRow.newerLocation, himei]
      · simp [HistoryRow.imei, himei]
  | location row =>
      by_cases himei : row.imei = imei
      · simp [HistoryRow.imei, HistoryRow.newerHeartbeat, HistoryRow.newerLocation, himei]
      · simp [HistoryRow.imei, himei]

/-- The newest rows depend on the rows only. -/
theorem newest_of_rows (hrows : s'.rows = s.rows) (imei : String) :
    s'.lastHeartbeat imei = s.lastHeartbeat imei ∧ s'.lastLocation imei = s.lastLocation imei := by
  simp only [lastHeartbeat, lastLocation, heartbeatsOf, locationsOf, heartbeats, locations, hrows,
    and_self]

theorem showsNewest_of_rows (hrows : s'.rows = s.rows) (imei : String) (device : Option DeviceRow) :
    s'.ShowsNewest imei device ↔ s.ShowsNewest imei device := by
  rw [ShowsNewest, ShowsNewest, (newest_of_rows hrows imei).1, (newest_of_rows hrows imei).2]

theorem heldShows_of_newest {device : DeviceRow} {thread : EventThread}
    (hnewest : s'.lastHeartbeat imei = s.lastHeartbeat imei ∧
      s'.lastLocation imei = s.lastLocation imei)
    (h : s.HeldShows imei device thread) : s'.HeldShows imei device thread := by
  cases thread with
  | idle => exact h
  | received receipt => exact h
  | seen receipt found deviceId =>
      rw [HeldShows, ShowsNewest, hnewest.1, hnewest.2]
      exact h
  | inserted receipt found row =>
      rw [HeldShows, ShowsNewest, hnewest.1, hnewest.2]
      exact h
  | finished receipt found row =>
      cases row with
      | none =>
          rw [HeldShows, ShowsNewest, hnewest.1, hnewest.2]
          exact h
      | some row =>
          rw [HeldShows, hnewest.1, hnewest.2]
          exact h

/-- The upsert of a transaction shows what the device has shown. -/
theorem shows_upsertRow {receipt : Receipt} {heartbeat : Option HeartbeatRow}
    {location : Option LocationRow} {device : Option DeviceRow}
    (h : Shows heartbeat location device) :
    Shows heartbeat location (some (s.upsertRow receipt device)) := by
  unfold upsertRow
  cases device with
  | none =>
      obtain ⟨rfl, rfl⟩ := h
      cases receipt.event with
      | login peerAddr imei serial => exact shows_newDeviceRow ..
      | heartbeat peerAddr deviceId packet => exact shows_newDeviceRow ..
      | location peerAddr deviceId packet => exact shows_newDeviceRow ..
  | some row =>
      cases receipt.event with
      | login peerAddr imei serial => exact shows_of_seen h
      | heartbeat peerAddr deviceId packet => exact shows_of_seen h
      | location peerAddr deviceId packet => exact shows_of_seen h

/-- The update of a transaction shows the row it has inserted. -/
theorem shows_updateRow {receipt : Receipt} {heartbeat : Option HeartbeatRow}
    {location : Option LocationRow} {device : DeviceRow} {row : HistoryRow}
    (h : Shows heartbeat location (some device)) (hstores : Stores receipt.event row)
    (htime : row.serverReceivedAt = storedMicros receipt.receivedAt) :
    Shows (row.newerHeartbeat heartbeat) (row.newerLocation location)
      (some (s.updateRow receipt device)) := by
  unfold updateRow
  cases hevent : receipt.event with
  | login peerAddr imei serial =>
      rw [hevent] at hstores
      exact hstores.elim
  | heartbeat peerAddr deviceId packet =>
      rw [hevent] at hstores
      cases deviceId with
      | none => exact hstores.elim
      | some imei =>
          cases row with
          | location row => exact hstores.elim
          | heartbeat row =>
              obtain ⟨id, deviceId, receivedAt, previous, rfl⟩ := hstores
              exact shows_latestHeartbeat h id deviceId imei peerAddr htime previous _ packet
  | location peerAddr deviceId packet =>
      rw [hevent] at hstores
      cases deviceId with
      | none => exact hstores.elim
      | some imei =>
          cases row with
          | heartbeat row => exact hstores.elim
          | location row =>
              obtain ⟨id, deviceId, receivedAt, now, rfl⟩ := hstores
              exact shows_latestLocation h id deviceId imei peerAddr htime now _ packet

/-! ### Every step -/

/-- A statement that does not commit and leaves the others what they hold keeps the invariant if it
keeps it for its own transaction. -/
theorem SnapshotInv.of_uncommitted (h : s.SnapshotInv) {e : HistoryEvent}
    (hstep : s.step e = some s') (hcommitted : s'.store.committed = s.store.committed)
    (hrows : s'.rows = s.rows)
    (hothers : ∀ imei u device, u ≠ t → s'.store.held imei = some (u, device) →
      s.store.held imei = some (u, device) ∧ s'.threads u = s.threads u)
    (hown : ∀ imei device, s'.store.held imei = some (t, device) →
      s.HeldShows imei device (s'.threads t)) : s'.SnapshotInv where
  lock := lockInv_step h.lock hstep
  consistent := consistent_step h.consistent hstep
  committed := by
    intro imei
    rw [showsNewest_of_rows hrows, hcommitted]
    exact h.committed imei
  held := by
    intro imei u device hheld
    refine heldShows_of_newest (newest_of_rows hrows imei) ?_
    by_cases hu : u = t
    · subst hu
      exact hown imei device hheld
    · obtain ⟨hheld', hthread⟩ := hothers imei u device hu hheld
      rw [hthread]
      exact h.held imei u device hheld'
  numbered := by
    rw [hrows]
    exact h.numbered

theorem SnapshotInv.received (h : s.SnapshotInv) {receipt : Receipt}
    (hthread : s.threads t = .received receipt) (hadvance : s.advance t = some s') :
    s'.SnapshotInv := by
  have hstep : s.step (.advance t) = some s' := hadvance
  have hframes := frames_of_advance hadvance
  have hnone : ∀ k device, s.store.held k ≠ some (t, device) := by
    have hinv := h.lock.threads t
    rw [ThreadInv, hthread] at hinv
    exact hinv
  simp only [advance, hthread] at hadvance
  obtain ⟨⟨device, store⟩, hupsert, hs'⟩ := Option.bind_eq_some_iff.1 hadvance
  obtain ⟨hdevice, hwrites, hheld, -⟩ := Store.upsert_eq_some hupsert
  have hafter : s'.threads t = afterUpsert receipt
      ((s.store.view t receipt.imei).map DeviceRow.lastSeenAt) device := by
    cases hs'
    exact threads_setThread_self _
  have hstore : s'.store = store := by
    cases hs'
    rfl
  have hrows : s'.rows = s.rows := by
    cases hs'
    rfl
  have hshows : s.ShowsNewest receipt.imei (some device) := by
    rw [hdevice, Store.view_of_not_held (hnone receipt.imei)]
    exact shows_upsertRow (h.committed receipt.imei)
  refine h.of_uncommitted (t := t) hstep (by rw [hstore]; exact hwrites.committed) hrows ?_ ?_
  · intro imei u other hu hother
    rw [hstore] at hother
    exact ⟨(hwrites.held_iff u imei other hu).1 hother, hframes.threads u hu⟩
  · intro imei other hother
    rw [hstore] at hother
    by_cases himei : imei = receipt.imei
    · subst himei
      obtain rfl : device = other := by
        rw [hheld, Option.some_inj, Prod.mk.injEq] at hother
        exact hother.2
      rw [hafter, afterUpsert]
      cases receipt.event with
      | login peerAddr imei serial => exact hshows
      | heartbeat peerAddr deviceId packet => exact hshows
      | location peerAddr deviceId packet => exact hshows
    · rw [hwrites.held_of_ne imei himei] at hother
      exact absurd hother (hnone imei other)

theorem SnapshotInv.seen (h : s.SnapshotInv) {receipt : Receipt} {found : Option ℤ} {deviceId : ℕ}
    (hthread : s.threads t = .seen receipt found deviceId) (hadvance : s.advance t = some s') :
    s'.SnapshotInv := by
  have hstep : s.step (.advance t) = some s' := hadvance
  have hframes := frames_of_advance hadvance
  simp only [advance, hthread] at hadvance
  obtain ⟨row, -, hs'⟩ := Option.bind_eq_some_iff.1 hadvance
  cases hs'
  refine h.of_uncommitted (t := t) hstep rfl rfl
    (fun imei u other hu hother => ⟨hother, hframes.threads u hu⟩) ?_
  intro imei other hother
  have hshows := h.held imei t other hother
  rw [hthread] at hshows
  change s.HeldShows imei other ((s.setThread t _).threads t)
  rw [threads_setThread_self]
  exact hshows

theorem SnapshotInv.inserted (h : s.SnapshotInv) {receipt : Receipt} {found : Option ℤ}
    {row : HistoryRow} (hthread : s.threads t = .inserted receipt found row)
    (hadvance : s.advance t = some s') : s'.SnapshotInv := by
  have hstep : s.step (.advance t) = some s' := hadvance
  have hframes := frames_of_advance hadvance
  have hinv : s.Holds t receipt found ∧ s.Pending receipt row := by
    have hinv := h.lock.threads t
    rw [ThreadInv, hthread] at hinv
    exact hinv
  have hstores : Stores receipt.event row := by
    have hconsistent := h.consistent t
    rw [hthread] at hconsistent
    exact hconsistent
  obtain ⟨⟨⟨device, hheld, -⟩, honly, -⟩, hpending⟩ := hinv
  simp only [advance, hthread] at hadvance
  obtain ⟨store, hupdate, hs'⟩ := Option.bind_eq_some_iff.1 hadvance
  have hwrites := Store.update_eq_some hupdate
  rw [Store.update_of_held hheld, Option.some_inj] at hupdate
  cases hs'
  refine h.of_uncommitted (t := t) hstep hwrites.committed rfl ?_ ?_
  · intro imei u other hu hother
    exact ⟨(hwrites.held_iff u imei other hu).1 hother, hframes.threads u hu⟩
  · intro imei other hother
    change s.HeldShows imei other ((s.setThread t _).threads t)
    rw [threads_setThread_self]
    have hother : store.held imei = some (t, other) := hother
    by_cases himei : imei = receipt.imei
    · subst himei
      have hshows := h.held receipt.imei t device hheld
      rw [hthread] at hshows
      rw [← hupdate, Store.held_hold_self, Option.some_inj, Prod.mk.injEq] at hother
      rw [← hother.2]
      exact shows_updateRow hshows hstores hpending.serverReceivedAt
    · rw [hwrites.held_of_ne imei himei] at hother
      exact absurd (honly imei other hother) himei

/-- The state after the commit of a transaction. -/
def afterCommit (s : DeviceHistory) (t : ℕ) (row : Option HistoryRow) : DeviceHistory :=
  { s.setThread t .idle with
    store := s.store.commit t
    rows := s.rows ++ row.toList }

theorem newest_afterCommit (s : DeviceHistory) (t : ℕ) (row : HistoryRow) (imei : String) :
    ((s.afterCommit t (some row)).lastHeartbeat imei =
        if row.imei = imei then row.newerHeartbeat (s.lastHeartbeat imei)
        else s.lastHeartbeat imei) ∧
      (s.afterCommit t (some row)).lastLocation imei =
        if row.imei = imei then row.newerLocation (s.lastLocation imei)
        else s.lastLocation imei :=
  newest_append rfl imei

/-- The commit: what the transaction has shown is what everybody sees, and its row is the newest. -/
theorem SnapshotInv.finished (h : s.SnapshotInv) {receipt : Receipt} {found : Option ℤ}
    {row : Option HistoryRow} (hthread : s.threads t = .finished receipt found row)
    (hadvance : s.advance t = some s') : s'.SnapshotInv := by
  have hstep : s.step (.advance t) = some s' := hadvance
  have hframes := frames_of_advance hadvance
  have hinv : s.Holds t receipt found ∧ ∀ new ∈ row, s.Pending receipt new := by
    have hinv := h.lock.threads t
    rw [ThreadInv, hthread] at hinv
    exact hinv
  obtain ⟨⟨⟨device, hheld, -⟩, honly, -⟩, hpending⟩ := hinv
  have hshows := h.held receipt.imei t device hheld
  rw [hthread] at hshows
  simp only [advance, hthread, Option.some_inj] at hadvance
  obtain rfl : s.afterCommit t row = s' := hadvance
  have hothers : ∀ imei, imei ≠ receipt.imei →
      (s.afterCommit t row).lastHeartbeat imei = s.lastHeartbeat imei ∧
        (s.afterCommit t row).lastLocation imei = s.lastLocation imei := by
    intro imei himei
    cases row with
    | none => exact newest_of_rows (List.append_nil s.rows) imei
    | some new =>
        have hne : new.imei ≠ imei := fun hnew => himei (hnew.symm.trans (hpending new rfl).imei)
        obtain ⟨hheartbeat, hlocation⟩ := newest_afterCommit s t new imei
        rw [if_neg hne] at hheartbeat hlocation
        exact ⟨hheartbeat, hlocation⟩
  refine
    { lock := lockInv_step h.lock hstep
      consistent := consistent_step h.consistent hstep
      committed := ?_
      held := ?_
      numbered := ?_ }
  · intro imei
    by_cases himei : imei = receipt.imei
    · subst himei
      change ShowsNewest _ _ ((s.store.commit t).committed receipt.imei)
      rw [Store.committed_commit_of_held hheld]
      cases row with
      | none => exact (showsNewest_of_rows (List.append_nil s.rows) _ _).2 hshows
      | some new =>
          have hnew : new.imei = receipt.imei := (hpending new rfl).imei
          obtain ⟨hheartbeat, hlocation⟩ := newest_afterCommit s t new receipt.imei
          rw [if_pos hnew] at hheartbeat hlocation
          rw [ShowsNewest, hheartbeat, hlocation]
          exact hshows
    · change ShowsNewest _ _ ((s.store.commit t).committed imei)
      rw [Store.committed_commit_of_ne fun other hother => himei (honly imei other hother)]
      rw [ShowsNewest, (hothers imei himei).1, (hothers imei himei).2]
      exact h.committed imei
  · intro imei u other hother
    have hother : (s.store.commit t).held imei = some (u, other) := hother
    have hu : u ≠ t := by
      rintro rfl
      exact Store.held_commit_self hother
    rw [Store.held_commit_of_ne hu] at hother
    have himei : imei ≠ receipt.imei := by
      rintro rfl
      rw [hheld, Option.some_inj, Prod.mk.injEq] at hother
      exact hu hother.1.symm
    refine heldShows_of_newest (hothers imei himei) ?_
    rw [hframes.threads u hu]
    exact h.held imei u other hother
  · refine List.pairwise_append.2 ⟨h.numbered, ?_, ?_⟩
    · cases row with
      | none => exact .nil
      | some new => exact List.pairwise_singleton _ _
    · intro old hold new hnew himei hkind
      have hpending := hpending new (by simpa using hnew)
      exact hpending.above old hold (himei.trans hpending.imei) hkind

/-- **Every step of any transaction keeps the newest rows in the row of the device.** -/
theorem snapshotInv_step {e : HistoryEvent} (h : s.SnapshotInv) (hstep : s.step e = some s') :
    s'.SnapshotInv := by
  cases e with
  | tick nanos =>
      cases hstep
      exact ⟨lockInv_step h.lock (e := .tick nanos) rfl, h.consistent, h.committed, h.held,
        h.numbered⟩
  | receive t event =>
      have hstep' := hstep
      simp only [step] at hstep'
      split at hstep'
      · next imei hidle hdevice =>
          cases hstep'
          refine h.of_uncommitted (t := t) hstep rfl rfl
            (fun imei u other hu hother => ⟨hother, threads_setThread_of_ne hu _⟩) ?_
          intro imei other hother
          have hinv := h.lock.threads t
          rw [ThreadInv, hidle] at hinv
          exact absurd hother (hinv imei other)
      · cases hstep'
  | rollback t =>
      have hstep' := hstep
      cases hstep'
      refine h.of_uncommitted (t := t) hstep rfl rfl ?_ ?_
      · intro imei u other hu hother
        exact ⟨(Store.held_rollback_of_ne hu).1 hother, threads_setThread_of_ne hu _⟩
      · intro imei other hother
        exact absurd hother Store.held_rollback_self
  | advance t =>
      cases hthread : s.threads t with
      | idle =>
          simp only [step, advance, hthread] at hstep
          cases hstep
      | received receipt => exact h.received hthread hstep
      | seen receipt found deviceId => exact h.seen hthread hstep
      | inserted receipt found row => exact h.inserted hthread hstep
      | finished receipt found row => exact h.finished hthread hstep

theorem snapshotInv_start (clock : ℤ) : (start clock).SnapshotInv where
  lock := lockInv_start clock
  consistent := fun _ => trivial
  committed := fun _ => ⟨rfl, rfl⟩
  held := by rintro imei t device ⟨⟩
  numbered := .nil

/-! ### All the places agree -/

theorem snapshotInv_of_run {clock : ℤ} {tr : List (DeviceHistory × HistoryEvent)}
    (run : Run DeviceHistory.step (start clock) tr s) : s.SnapshotInv :=
  (run.invariant (I := SnapshotInv) (G := fun _ _ => True)
    (fun _ _ _ h _ hstep => snapshotInv_step h hstep) (snapshotInv_start clock)
    fun _ _ => trivial).2

/-- The rows of one history of a device have their numbers in the order of the commits. -/
theorem SnapshotInv.pairwise_locationsOf (h : s.SnapshotInv) (imei : String) :
    (s.locationsOf imei).Pairwise fun old row => old.id < row.id := by
  refine List.pairwise_filter.2 (List.pairwise_filterMap.2 (h.numbered.imp ?_))
  intro old row hlt a ha b hb himei himei'
  cases old with
  | heartbeat old => cases ha
  | location old =>
      cases row with
      | heartbeat row => cases hb
      | location row =>
          cases ha
          cases hb
          exact hlt ((of_decide_eq_true himei).trans (of_decide_eq_true himei').symm) rfl

theorem SnapshotInv.pairwise_heartbeatsOf (h : s.SnapshotInv) (imei : String) :
    (s.heartbeatsOf imei).Pairwise fun old row => old.id < row.id := by
  refine List.pairwise_filter.2 (List.pairwise_filterMap.2 (h.numbered.imp ?_))
  intro old row hlt a ha b hb himei himei'
  cases old with
  | location old => cases ha
  | heartbeat old =>
      cases row with
      | location row => cases hb
      | heartbeat row =>
          cases ha
          cases hb
          exact hlt ((of_decide_eq_true himei).trans (of_decide_eq_true himei').symm) rfl

/-- When the numbers of a device go the way of its times, its newest location by number is the
latest by time. -/
theorem SnapshotInv.getDeviceLatestLocation_eq (h : s.SnapshotInv) (horder : s.InOrder imei) :
    s.getDeviceLatestLocation imei = s.newestLocation imei := by
  have hids := h.pairwise_locationsOf imei
  rw [getDeviceLatestLocation, newestLocation, latestRows, argmax_eq_getLast? hids,
    argmax_eq_getLast? (hids.filter _)]
  rcases List.eq_nil_or_concat (s.locationsOf imei) with hnil | ⟨before, last, hlast⟩
  · rw [hnil]
    rfl
  · rw [List.concat_eq_append] at hlast
    have htimes : ∀ other ∈ s.locationsOf imei, other.serverReceivedAt ≤ last.serverReceivedAt := by
      intro other hother
      have hmem :
          ∀ row ∈ s.locationsOf imei, HistoryRow.location row ∈ s.rows ∧ row.imei = imei := by
        intro row hrow
        obtain ⟨hrow, himei⟩ := List.mem_filter.1 hrow
        obtain ⟨p, hp, hpr⟩ := List.mem_filterMap.1 hrow
        cases p with
        | heartbeat p => cases hpr
        | location p =>
            cases hpr
            exact ⟨hp, of_decide_eq_true himei⟩
      have hlastmem : last ∈ s.locationsOf imei := by
        rw [hlast]
        exact List.mem_append_right _ (List.mem_singleton_self last)
      rw [hlast] at hids hother
      rcases List.mem_append.1 hother with hother | hother
      · have hlt := (List.pairwise_append.1 hids).2.2 other hother last (List.mem_singleton_self _)
        have hother' := hmem other (by rw [hlast]; exact List.mem_append_left _ hother)
        exact horder _ hother'.1 _ (hmem last hlastmem).1 hother'.2 (hmem last hlastmem).2 rfl hlt
      · rw [List.mem_singleton.1 hother]
    rw [hlast, List.filter_append, List.getLast?_concat, List.filter_cons_of_pos]
    · simp
    · rw [← hlast]
      exact decide_eq_true htimes

end DeviceHistory

open DeviceHistory in
/-- **All the places agree**: in every state that any number of transactions for any devices can
reach, at any relative positions and with any of them rolled back, the activity page shows the
heartbeat that the bot's alerts read, and it knows every device that has reported; the bot's
location message shows the location with the highest number; and as long as the locks of the device
are taken in the order of the times, that is the location the API shows as the latest, where the
live tracking link begins, and no report is later than the `last_seen_at` that both pages show. -/
theorem latest_reports_agree {clock : ℤ} {tr : List (DeviceHistory × HistoryEvent)}
    {s : DeviceHistory} (run : Run DeviceHistory.step (start clock) tr s) (imei : String) :
    (s.getDeviceActivity imei = none →
        s.fetchLatestHeartbeatForImei imei = none ∧ s.newestLocation imei = none) ∧
      (∀ activity ∈ s.getDeviceActivity imei,
        activity.batteryReportedAt =
            (s.fetchLatestHeartbeatForImei imei).map HeartbeatRow.serverReceivedAt ∧
          activity.latestEngineStatus =
            (s.fetchLatestHeartbeatForImei imei).map HeartbeatRow.engineStatusGuess ∧
          activity.latestVoltageLevel =
            (s.fetchLatestHeartbeatForImei imei).map HeartbeatRow.voltageLevel) ∧
      (∀ location ∈ s.fetchLatestLocationForImei imei,
        location.latitude = (s.newestLocation imei).map LocationRow.latitude ∧
          location.longitude = (s.newestLocation imei).map LocationRow.longitude ∧
          location.speedKph = (s.newestLocation imei).map LocationRow.speedKph ∧
          location.course = (s.newestLocation imei).map LocationRow.course ∧
          location.satelliteCount = (s.newestLocation imei).map LocationRow.satelliteCount) ∧
      ((∀ p ∈ tr, p.1.DeviceCommitsInOrder imei p.2) →
        s.getDeviceLatestLocation imei = s.newestLocation imei ∧
          s.fetchLatestLocationReceivedAt imei =
            (s.store.committed imei).bind DeviceRow.lastLocationAt ∧
          ∀ activity ∈ s.getDeviceActivity imei, ∀ row ∈ s.rows, row.imei = imei →
            row.serverReceivedAt ≤ activity.lastSeenAt) := by
  have hinv := snapshotInv_of_run run
  have hheartbeat : s.fetchLatestHeartbeatForImei imei = s.lastHeartbeat imei :=
    argmax_eq_getLast? (hinv.pairwise_heartbeatsOf imei)
  have hlocation : s.newestLocation imei = s.lastLocation imei :=
    argmax_eq_getLast? (hinv.pairwise_locationsOf imei)
  have hshows := hinv.committed imei
  rw [ShowsNewest, ← hheartbeat, ← hlocation] at hshows
  refine ⟨?_, ?_, ?_, ?_⟩
  · intro hnone
    rw [Option.map_eq_none_iff.1 hnone] at hshows
    exact hshows
  · intro activity hactivity
    obtain ⟨device, hdevice, rfl⟩ := Option.map_eq_some_iff.1 hactivity
    rw [hdevice] at hshows
    exact ⟨hshows.1.lastHeartbeatAt, hshows.1.engineStatusGuess, hshows.1.voltageLevel⟩
  · intro location hlocation
    obtain ⟨device, hdevice, rfl⟩ := Option.map_eq_some_iff.1 hlocation
    rw [hdevice] at hshows
    exact ⟨hshows.2.latitude, hshows.2.longitude, hshows.2.speedKph, hshows.2.course,
      hshows.2.satelliteCount⟩
  · intro hguard
    obtain ⟨-, horder⟩ := orderInv_of_run run hguard
    have hlatest := hinv.getDeviceLatestLocation_eq horder.order
    refine ⟨hlatest, ?_, ?_⟩
    · rw [DeviceHistory.fetchLatestLocationReceivedAt, hlatest]
      cases hdevice : s.store.committed imei with
      | none =>
          rw [hdevice] at hshows
          rw [hshows.2]
          rfl
      | some device =>
          rw [hdevice] at hshows
          exact hshows.2.lastLocationAt.symm
    · intro activity hactivity row hrow himei
      obtain ⟨device, hdevice, rfl⟩ := Option.map_eq_some_iff.1 hactivity
      obtain ⟨seenAt, hseen, hle⟩ := horder.seen row hrow himei
      rw [lastSeenAt, hdevice] at hseen
      cases hseen
      exact hle

/-- A heartbeat on one connection and a location on another, whose transaction waits for the row
of the device. -/
def reportedTwice : List HistoryEvent :=
  [.receive 1 (runningHeartbeat "10.0.0.7:40001"), .advance 1, .tick 1000000,
    .receive 2 undatedLocation, .advance 1, .advance 1, .advance 1, .advance 2, .advance 2,
    .advance 2, .advance 2]

theorem replay_reportedTwice :
    (replay DeviceHistory.step (DeviceHistory.start 0) reportedTwice).any
      (fun s => (s.fetchLatestHeartbeatForImei "866221070478388").isSome ∧
        (s.newestLocation "866221070478388").isSome) = true := by
  decide +kernel

/-- The page shows the heartbeat, and there is one. -/
theorem latest_reports_agree_reportedTwice :
    ∃ tr s, tr.map Prod.snd = reportedTwice ∧
      Run DeviceHistory.step (DeviceHistory.start 0) tr s ∧
      ∃ heartbeat ∈ s.fetchLatestHeartbeatForImei "866221070478388",
        ∃ activity ∈ s.getDeviceActivity "866221070478388",
          activity.latestEngineStatus = some heartbeat.engineStatusGuess := by
  obtain ⟨tr, s, hes, run, hs⟩ := run_of_replay_any replay_reportedTwice
  obtain ⟨hheartbeat, -⟩ := of_decide_eq_true hs
  obtain ⟨heartbeat, hheartbeat⟩ := Option.isSome_iff_exists.1 hheartbeat
  obtain ⟨hnone, hactivity, -⟩ := latest_reports_agree run "866221070478388"
  cases hpage : s.getDeviceActivity "866221070478388" with
  | none =>
      rw [(hnone hpage).1] at hheartbeat
      cases hheartbeat
  | some activity =>
      refine ⟨tr, s, hes, run, heartbeat, hheartbeat, activity, hpage, ?_⟩
      rw [(hactivity activity hpage).2.1, hheartbeat]
      rfl

end Gt06
