/-
**The distance a device has covered.**

Every location a device sends is measured against the one before: the segment between them counts
towards the odometer of the device and the distance of its day when it is plausible, and is passed
over when it is not.  The point before is kept in the odometer's own row, at the precision of the
database.  A second program deletes both tables and goes through the history again.

The arithmetic is that of an ordered field and the distance of two positions is a parameter: what is
said here does not depend on how the earth is measured or how binary64 rounds.

Main definitions:

* `Gt06.DistanceOdometer`, `Gt06.DistanceDaily`, `Gt06.DistanceTables` — the rows and the tables;
* `Gt06.acceptedSegmentMeters` — the length of a segment that counts;
* `Gt06.processLocationDistance` — one location;
* `Gt06.backfillDeviceDistance` — the history of a device once more.

Main results:

* `Gt06.acceptedSegmentMeters_stored` — a location counts the same before and after it is stored;
* `Gt06.rowsOf_processLocationDistance` — a location concerns its own device only.
-/

import Mathlib
import Gt06Server.Binary64
import Gt06Server.Primitives
import Gt06Server.Relational

set_option relaxedAutoImplicit false
set_option autoImplicit false

namespace Gt06

open Binary64 Relational

/-! ### Instants in nanoseconds -/

/-- The program's clock counts nanoseconds, a `TIMESTAMPTZ` column microseconds. -/
def nanosPerMicro : ℤ := 1000

/-- What a column keeps of an instant from the year 2000 on.  An earlier one, which the clock of the
server does not read, is rounded towards 2000 and not down. -/
def storedMicros (nanos : ℤ) : ℤ := nanos / nanosPerMicro

/-- An instant as it is read from a column. -/
def readNanos (micros : ℤ) : ℤ := micros * nanosPerMicro

theorem storedMicros_readNanos (micros : ℤ) : storedMicros (readNanos micros) = micros := by
  simp only [storedMicros, readNanos, nanosPerMicro]
  omega

/-- `chrono::Duration::num_seconds`, of a duration in nanoseconds. -/
def gapSecondsOf (duration : ℤ) : ℤ := duration.tdiv (microsPerSecond * nanosPerMicro)

/-- `wib_date`, of an instant in nanoseconds. -/
def wibDateOfNanos (nanos : ℤ) : ℤ :=
  (nanos + wibOffsetSeconds * microsPerSecond * nanosPerMicro) / (microsPerDay * nanosPerMicro)

theorem wibDateOfNanos_eq (nanos : ℤ) : wibDateOfNanos nanos = wibDate (storedMicros nanos) := by
  unfold wibDateOfNanos wibDate storedMicros microsPerDay wibOffsetSeconds microsPerSecond
    nanosPerMicro
  omega

theorem gapSecondsOf_of_nonneg {duration : ℤ} (h : 0 ≤ duration) :
    gapSecondsOf duration = duration / 1000000000 := Int.tdiv_eq_ediv_of_nonneg h

theorem gapSecondsOf_nonneg {duration : ℤ} (h : 0 ≤ duration) : 0 ≤ gapSecondsOf duration := by
  rw [gapSecondsOf_of_nonneg h]
  omega

/-- A duration of a second or more is one forward. -/
theorem pos_of_gapSecondsOf_pos {duration : ℤ} (h : 0 < gapSecondsOf duration) : 0 < duration := by
  by_contra hle
  have hback : 0 ≤ gapSecondsOf (-duration) := gapSecondsOf_nonneg (by omega)
  rw [gapSecondsOf, Int.neg_tdiv] at hback
  rw [gapSecondsOf] at h
  omega

/-- The gap to an instant that was read from a column is the same for what a column keeps, as soon
as either of them is a second or more. -/
theorem gapSecondsOf_stored (nanos micros : ℤ)
    (h : 1 ≤ gapSecondsOf (nanos - readNanos micros) ∨
      1 ≤ gapSecondsOf (readNanos (storedMicros nanos) - readNanos micros)) :
    gapSecondsOf (nanos - readNanos micros) =
      gapSecondsOf (readNanos (storedMicros nanos) - readNanos micros) := by
  have hpos : 0 ≤ nanos - readNanos micros ∧
      0 ≤ readNanos (storedMicros nanos) - readNanos micros := by
    have hforward := h.imp pos_of_gapSecondsOf_pos pos_of_gapSecondsOf_pos
    simp only [readNanos, storedMicros, nanosPerMicro] at hforward ⊢
    omega
  rw [gapSecondsOf_of_nonneg hpos.1, gapSecondsOf_of_nonneg hpos.2]
  simp only [readNanos, storedMicros, nanosPerMicro]
  omega

/-! ### Points -/

structure DistanceLocationPoint where
  id : ℕ
  /-- In nanoseconds. -/
  serverReceivedAt : ℤ
  latitude : F64
  longitude : F64
  speedKph : ℤ
  deriving DecidableEq

structure PreviousDistancePoint where
  id : ℕ
  serverReceivedAt : ℤ
  latitude : F64
  longitude : F64
  speedKph : ℤ
  deriving DecidableEq

/-- A finite number whose magnitude is at most the bound. -/
def withinBounds (bound : ℕ) : F64 → Bool
  | .finite _ units => units ≤ bound * unitsPerOne
  | .infinite _ => false
  | .nan => false

/-- `valid_coordinates`: both are finite, the latitude is from -90 to 90 and the longitude from -180
to 180. -/
def validCoordinates (latitude longitude : F64) : Bool :=
  withinBounds 90 latitude && withinBounds 180 longitude

def maxPointGapSeconds : ℤ := 5 * 60

def minReportedMovingSpeedKph : ℤ := 2

variable {K : Type} [Field K] [LinearOrder K] [IsStrictOrderedRing K]

/-- The length of the segment, if it counts. -/
def acceptedSegmentMeters (distanceMeters : F64 → F64 → F64 → F64 → K)
    (previous : PreviousDistancePoint) (current : DistanceLocationPoint) : Option K :=
  if ¬ validCoordinates previous.latitude previous.longitude ∨
      ¬ validCoordinates current.latitude current.longitude then none
  else
    let gapSeconds := gapSecondsOf (current.serverReceivedAt - previous.serverReceivedAt)
    if ¬(1 ≤ gapSeconds ∧ gapSeconds ≤ maxPointGapSeconds) then none
    else if previous.speedKph < minReportedMovingSpeedKph ∧
        current.speedKph < minReportedMovingSpeedKph then none
    else
      let meters := distanceMeters previous.latitude previous.longitude current.latitude
        current.longitude
      if meters < 5 then none
      else if 180 < meters / 1000 / ((gapSeconds : K) / 3600) then none
      else some meters

/-- What counts is at least the length of the shortest segment. -/
theorem acceptedSegmentMeters_nonneg {distanceMeters : F64 → F64 → F64 → F64 → K}
    {previous : PreviousDistancePoint} {current : DistanceLocationPoint} {meters : K}
    (h : acceptedSegmentMeters distanceMeters previous current = some meters) : 0 ≤ meters := by
  simp only [acceptedSegmentMeters] at h
  split_ifs at h with _ _ _ hshort
  obtain rfl := Option.some.inj h
  exact le_trans (by norm_num) (not_lt.1 hshort)

/-- The point as it is read back from the database. -/
def DistanceLocationPoint.stored (point : DistanceLocationPoint) : DistanceLocationPoint :=
  { point with serverReceivedAt := readNanos (storedMicros point.serverReceivedAt) }

omit [IsStrictOrderedRing K] in
/-- A location counts the same before and after it is stored. -/
theorem acceptedSegmentMeters_stored (distanceMeters : F64 → F64 → F64 → F64 → K)
    {previous : PreviousDistancePoint} {micros : ℤ}
    (hprevious : previous.serverReceivedAt = readNanos micros) (point : DistanceLocationPoint) :
    acceptedSegmentMeters distanceMeters previous point.stored =
      acceptedSegmentMeters distanceMeters previous point := by
  have hgap := gapSecondsOf_stored point.serverReceivedAt micros
  simp only [acceptedSegmentMeters, DistanceLocationPoint.stored, hprevious]
  by_cases hpositive : 1 ≤ gapSecondsOf (point.serverReceivedAt - readNanos micros) ∨
      1 ≤ gapSecondsOf (readNanos (storedMicros point.serverReceivedAt) - readNanos micros)
  · rw [hgap hpositive]
  · -- neither gap is long enough
    rw [not_or] at hpositive
    have hlive : ¬(1 ≤ gapSecondsOf (point.serverReceivedAt - readNanos micros) ∧
        gapSecondsOf (point.serverReceivedAt - readNanos micros) ≤ maxPointGapSeconds) :=
      fun h => hpositive.1 h.1
    have hstored : ¬(1 ≤ gapSecondsOf (readNanos (storedMicros point.serverReceivedAt) -
        readNanos micros) ∧ gapSecondsOf (readNanos (storedMicros point.serverReceivedAt) -
          readNanos micros) ≤ maxPointGapSeconds) := fun h => hpositive.2 h.1
    rw [if_pos hlive, if_pos hstored]

/-! ### Tables -/

/-- A row of `device_distance_odometer`. -/
structure DistanceOdometer (K : Type) [Field K] [LinearOrder K] where
  imei : String
  totalDistanceMeters : K
  lastProcessedLocationId : Option ℕ
  lastServerReceivedAt : Option ℤ
  lastLatitude : Option F64
  lastLongitude : Option F64
  lastSpeedKph : Option ℤ
  total_non_negative : 0 ≤ totalDistanceMeters

/-- A row of `device_distance_daily`. -/
structure DistanceDaily (K : Type) [Field K] [LinearOrder K] where
  imei : String
  distanceDate : ℤ
  distanceMeters : K
  total_non_negative : 0 ≤ distanceMeters

/-- The primary key of `device_distance_daily`. -/
def DistanceDaily.key {K : Type} [Field K] [LinearOrder K] (row : DistanceDaily K) : String × ℤ :=
  (row.imei, row.distanceDate)

/-- The point before, if no column of it is null. -/
def DistanceOdometer.previousPoint {K : Type} [Field K] [LinearOrder K]
    (row : DistanceOdometer K) : Option PreviousDistancePoint := do
  let id ← row.lastProcessedLocationId
  let serverReceivedAt ← row.lastServerReceivedAt
  let latitude ← row.lastLatitude
  let longitude ← row.lastLongitude
  let speedKph ← row.lastSpeedKph
  pure { id, serverReceivedAt := readNanos serverReceivedAt, latitude, longitude, speedKph }

/-- The odometer goes up, and the point becomes the point before. -/
def odometerRow (imei : String) (acceptedMeters : { meters : K // 0 ≤ meters })
    (point : DistanceLocationPoint) : Option (DistanceOdometer K) → DistanceOdometer K
  | none =>
      { imei := imei
        totalDistanceMeters := acceptedMeters
        lastProcessedLocationId := some point.id
        lastServerReceivedAt := some (storedMicros point.serverReceivedAt)
        lastLatitude := some point.latitude
        lastLongitude := some point.longitude
        lastSpeedKph := some point.speedKph
        total_non_negative := acceptedMeters.2 }
  | some row =>
      { row with
        totalDistanceMeters := row.totalDistanceMeters + acceptedMeters
        lastProcessedLocationId := some point.id
        lastServerReceivedAt := some (storedMicros point.serverReceivedAt)
        lastLatitude := some point.latitude
        lastLongitude := some point.longitude
        lastSpeedKph := some point.speedKph
        total_non_negative := add_nonneg row.total_non_negative acceptedMeters.2 }

/-- The distance of the day goes up. -/
def dailyRow (imei : String) (distanceDate : ℤ) (acceptedMeters : { meters : K // 0 ≤ meters }) :
    Option (DistanceDaily K) → DistanceDaily K
  | none =>
      { imei := imei
        distanceDate := distanceDate
        distanceMeters := acceptedMeters
        total_non_negative := acceptedMeters.2 }
  | some row =>
      { row with
        distanceMeters := row.distanceMeters + acceptedMeters
        total_non_negative := add_nonneg row.total_non_negative acceptedMeters.2 }

section Rows

variable (imei : String) (distanceDate : ℤ) (acceptedMeters : { meters : K // 0 ≤ meters })
  (point : DistanceLocationPoint)

@[simp] theorem imei_odometerRow_none :
    (odometerRow imei acceptedMeters point none).imei = imei := rfl

@[simp] theorem imei_odometerRow_some (row : DistanceOdometer K) :
    (odometerRow imei acceptedMeters point (some row)).imei = row.imei := rfl

@[simp] theorem imei_dailyRow_none :
    (dailyRow imei distanceDate acceptedMeters none).imei = imei := rfl

@[simp] theorem imei_dailyRow_some (row : DistanceDaily K) :
    (dailyRow imei distanceDate acceptedMeters (some row)).imei = row.imei := rfl

/-- The column keeps no more of the point than what is stored of it. -/
@[simp] theorem odometerRow_stored (found : Option (DistanceOdometer K)) :
    odometerRow imei acceptedMeters point.stored found =
      odometerRow imei acceptedMeters point found := by
  cases found with
  | none => simp only [odometerRow, DistanceLocationPoint.stored, storedMicros_readNanos]
  | some row => simp only [odometerRow, DistanceLocationPoint.stored, storedMicros_readNanos]

end Rows

/-- The two tables, with their primary keys. -/
@[ext] structure DistanceTables (K : Type) [Field K] [LinearOrder K] where
  odometer : List (DistanceOdometer K)
  daily : List (DistanceDaily K)
  odometer_pkey : UniqueOn DistanceOdometer.imei odometer
  daily_pkey : UniqueOn DistanceDaily.key daily

namespace DistanceTables

def empty : DistanceTables K := ⟨[], [], List.nodup_nil, List.nodup_nil⟩

variable (tables : DistanceTables K)

/-- The rows of one device. -/
def rowsOf (imei : String) : DistanceTables K where
  odometer := tables.odometer.filter fun row => row.imei = imei
  daily := tables.daily.filter fun row => row.imei = imei
  odometer_pkey := List.Nodup.sublist (List.filter_sublist.map _) tables.odometer_pkey
  daily_pkey := List.Nodup.sublist (List.filter_sublist.map _) tables.daily_pkey

/-- The point before the next one of a device. -/
def previousPoint (imei : String) : Option PreviousDistancePoint :=
  (rowAt DistanceOdometer.imei imei tables.odometer).bind DistanceOdometer.previousPoint

def upsertOdometer (imei : String) (acceptedMeters : { meters : K // 0 ≤ meters })
    (point : DistanceLocationPoint) : DistanceTables K where
  odometer := upsertAt DistanceOdometer.imei (odometerRow imei acceptedMeters point none)
    (fun row => odometerRow imei acceptedMeters point (some row)) tables.odometer
  daily := tables.daily
  odometer_pkey := tables.odometer_pkey.upsertAt fun _ => rfl
  daily_pkey := tables.daily_pkey

def upsertDaily (imei : String) (distanceDate : ℤ) (acceptedMeters : { meters : K // 0 ≤ meters }) :
    DistanceTables K where
  odometer := tables.odometer
  daily := upsertAt DistanceDaily.key (dailyRow imei distanceDate acceptedMeters none)
    (fun row => dailyRow imei distanceDate acceptedMeters (some row)) tables.daily
  odometer_pkey := tables.odometer_pkey
  daily_pkey := tables.daily_pkey.upsertAt fun _ => rfl

/-- `DELETE FROM device_distance_daily` and `DELETE FROM device_distance_odometer`, of one
device. -/
def deleteDevice (imei : String) : DistanceTables K where
  odometer := tables.odometer.filter fun row => row.imei ≠ imei
  daily := tables.daily.filter fun row => row.imei ≠ imei
  odometer_pkey := List.Nodup.sublist (List.filter_sublist.map _) tables.odometer_pkey
  daily_pkey := List.Nodup.sublist (List.filter_sublist.map _) tables.daily_pkey

end DistanceTables

/-! ### Locations -/

theorem getD_acceptedSegmentMeters_nonneg (distanceMeters : F64 → F64 → F64 → F64 → K)
    (previous : Option PreviousDistancePoint) (point : DistanceLocationPoint) :
    0 ≤ (previous.bind fun value =>
      acceptedSegmentMeters distanceMeters value point).getD 0 := by
  cases hsegment : previous.bind fun value =>
      acceptedSegmentMeters distanceMeters value point with
  | none => exact le_rfl
  | some meters =>
      obtain ⟨value, -, hmeters⟩ := Option.bind_eq_some_iff.1 hsegment
      exact acceptedSegmentMeters_nonneg hmeters

/-- The length of the segment to the point, and nothing for one that does not count. -/
def acceptedMeters (distanceMeters : F64 → F64 → F64 → F64 → K)
    (previous : Option PreviousDistancePoint) (point : DistanceLocationPoint) :
    { meters : K // 0 ≤ meters } :=
  ⟨(previous.bind fun value => acceptedSegmentMeters distanceMeters value point).getD 0,
    getD_acceptedSegmentMeters_nonneg distanceMeters previous point⟩

theorem acceptedMeters_eq_zero {distanceMeters : F64 → F64 → F64 → F64 → K}
    {previous : Option PreviousDistancePoint} {point : DistanceLocationPoint}
    (h : ¬ 0 < (acceptedMeters distanceMeters previous point).1) :
    (acceptedMeters distanceMeters previous point).1 = 0 :=
  le_antisymm (not_lt.1 h) (Subtype.property _)

/-- One location of a device; a location that has been processed is passed over. -/
def processLocationDistance (distanceMeters : F64 → F64 → F64 → F64 → K)
    (tables : DistanceTables K) (imei : String) (point : DistanceLocationPoint) :
    K × DistanceTables K :=
  let previous := tables.previousPoint imei
  if previous.any fun value => point.id ≤ value.id then (0, tables)
  else
    let accepted := acceptedMeters distanceMeters previous point
    let tables := tables.upsertOdometer imei accepted point
    if 0 < accepted.1 then
      (accepted, tables.upsertDaily imei (wibDateOfNanos point.serverReceivedAt) accepted)
    else (accepted, tables)

/-- The loop of `backfill_device_distance`. -/
def processLocations (distanceMeters : F64 → F64 → F64 → F64 → K) (imei : String)
    (points : List DistanceLocationPoint) (tables : DistanceTables K) : DistanceTables K :=
  points.foldl (fun tables point => (processLocationDistance distanceMeters tables imei point).2)
    tables

/-- The transaction of `backfill_device_distance`, for the points read before it. -/
def backfillPoints (distanceMeters : F64 → F64 → F64 → F64 → K) (imei : String)
    (points : List DistanceLocationPoint) (tables : DistanceTables K) : DistanceTables K :=
  processLocations distanceMeters imei points (tables.deleteDevice imei)

/-! ### A location concerns its own device -/

section Rows

variable {tables : DistanceTables K} {imei other : String}

omit [IsStrictOrderedRing K] in
theorem previousPoint_rowsOf :
    (tables.rowsOf imei).previousPoint imei = tables.previousPoint imei := by
  have hrow : rowAt DistanceOdometer.imei imei (tables.rowsOf imei).odometer =
      rowAt DistanceOdometer.imei imei tables.odometer :=
    rowAt_filter (fun row himei => decide_eq_true himei) tables.odometer
  rw [DistanceTables.previousPoint, hrow, DistanceTables.previousPoint]

theorem rowsOf_upsertOdometer (accepted : { meters : K // 0 ≤ meters })
    (point : DistanceLocationPoint) :
    (tables.upsertOdometer imei accepted point).rowsOf other =
      if imei = other then (tables.rowsOf other).upsertOdometer imei accepted point
      else tables.rowsOf other := by
  by_cases himei : imei = other
  · rw [if_pos himei]
    ext1
    · refine (filter_upsertAt
        (p := fun row : DistanceOdometer K => decide (row.imei = other)) ?_).trans ?_
      · exact fun row hrow => ⟨decide_eq_decide.2 (by rw [hrow]), decide_eq_decide.2 (by
          rw [imei_odometerRow_some, hrow])⟩
      · rw [if_pos (decide_eq_true (by exact himei))]
        rfl
    · rfl
  · rw [if_neg himei]
    ext1
    · refine (filter_upsertAt
        (p := fun row : DistanceOdometer K => decide (row.imei = other)) ?_).trans ?_
      · exact fun row hrow => ⟨decide_eq_decide.2 (by rw [hrow]), decide_eq_decide.2 (by
          rw [imei_odometerRow_some, hrow])⟩
      · rw [if_neg (by exact fun h => himei (of_decide_eq_true h))]
        rfl
    · rfl

theorem rowsOf_upsertDaily (date : ℤ) (accepted : { meters : K // 0 ≤ meters }) :
    (tables.upsertDaily imei date accepted).rowsOf other =
      if imei = other then (tables.rowsOf other).upsertDaily imei date accepted
      else tables.rowsOf other := by
  by_cases himei : imei = other
  · rw [if_pos himei]
    ext1
    · rfl
    · refine (filter_upsertAt
        (p := fun row : DistanceDaily K => decide (row.imei = other)) ?_).trans ?_
      · exact fun row hrow => ⟨decide_eq_decide.2 (by rw [(Prod.mk.inj hrow).1]),
          decide_eq_decide.2 (by rw [imei_dailyRow_some, (Prod.mk.inj hrow).1])⟩
      · rw [if_pos (decide_eq_true (by exact himei))]
        rfl
  · rw [if_neg himei]
    ext1
    · rfl
    · refine (filter_upsertAt
        (p := fun row : DistanceDaily K => decide (row.imei = other)) ?_).trans ?_
      · exact fun row hrow => ⟨decide_eq_decide.2 (by rw [(Prod.mk.inj hrow).1]),
          decide_eq_decide.2 (by rw [imei_dailyRow_some, (Prod.mk.inj hrow).1])⟩
      · rw [if_neg (by exact fun h => himei (of_decide_eq_true h))]
        rfl

/-- A location concerns its own device only, and what it does depends on the rows of that device
only. -/
theorem rowsOf_processLocationDistance (distanceMeters : F64 → F64 → F64 → F64 → K)
    (point : DistanceLocationPoint) :
    (processLocationDistance distanceMeters tables imei point).2.rowsOf other =
      if imei = other then
        (processLocationDistance distanceMeters (tables.rowsOf imei) imei point).2
      else tables.rowsOf other := by
  simp only [processLocationDistance, previousPoint_rowsOf]
  by_cases himei : imei = other
  · subst himei
    rw [if_pos rfl]
    split
    · rfl
    · split
      · rw [rowsOf_upsertDaily, if_pos rfl, rowsOf_upsertOdometer, if_pos rfl]
      · rw [rowsOf_upsertOdometer, if_pos rfl]
  · rw [if_neg himei]
    split
    · rfl
    · split
      · rw [rowsOf_upsertDaily, if_neg himei, rowsOf_upsertOdometer, if_neg himei]
      · rw [rowsOf_upsertOdometer, if_neg himei]

theorem rowsOf_processLocations (distanceMeters : F64 → F64 → F64 → F64 → K)
    (points : List DistanceLocationPoint) :
    (processLocations distanceMeters imei points tables).rowsOf other =
      if imei = other then processLocations distanceMeters imei points (tables.rowsOf imei)
      else tables.rowsOf other := by
  induction points generalizing tables with
  | nil =>
      split
      · rename_i himei
        rw [← himei]
        rfl
      · rfl
  | cons point points ih =>
      change (processLocations distanceMeters imei points
        (processLocationDistance distanceMeters tables imei point).2).rowsOf other = _
      rw [ih]
      by_cases himei : imei = other
      · rw [if_pos himei, if_pos himei, rowsOf_processLocationDistance, if_pos rfl]
        rfl
      · rw [if_neg himei, if_neg himei, rowsOf_processLocationDistance, if_neg himei]

omit [IsStrictOrderedRing K] in
theorem rowsOf_deleteDevice :
    (tables.deleteDevice imei).rowsOf other =
      if imei = other then DistanceTables.empty else tables.rowsOf other := by
  by_cases himei : imei = other
  · subst himei
    rw [if_pos rfl]
    ext1
    · simp [DistanceTables.rowsOf, DistanceTables.deleteDevice, DistanceTables.empty]
    · simp [DistanceTables.rowsOf, DistanceTables.deleteDevice, DistanceTables.empty]
  · rw [if_neg himei]
    have hkeep : ∀ name : String, (decide (name = other) && decide (name ≠ imei)) =
        decide (name = other) := by
      intro name
      by_cases hname : name = other
      · simp [hname, Ne.symm himei]
      · simp [hname]
    ext1
    · simp only [DistanceTables.rowsOf, DistanceTables.deleteDevice, List.filter_filter, hkeep]
    · simp only [DistanceTables.rowsOf, DistanceTables.deleteDevice, List.filter_filter, hkeep]

/-- A backfill starts from nothing for its device and leaves the other devices alone. -/
theorem rowsOf_backfillPoints (distanceMeters : F64 → F64 → F64 → F64 → K)
    (points : List DistanceLocationPoint) :
    (backfillPoints distanceMeters imei points tables).rowsOf other =
      if imei = other then processLocations distanceMeters imei points DistanceTables.empty
      else tables.rowsOf other := by
  rw [backfillPoints, rowsOf_processLocations, rowsOf_deleteDevice, if_pos rfl,
    rowsOf_deleteDevice]
  split
  · rfl
  · rfl

end Rows

/-! ### What is stored of a location -/

omit [IsStrictOrderedRing K] in
/-- The point before was read from the database. -/
theorem previousPoint_stored {tables : DistanceTables K} {imei : String}
    {previous : PreviousDistancePoint} (h : tables.previousPoint imei = some previous) :
    ∃ micros, previous.serverReceivedAt = readNanos micros := by
  simp only [DistanceTables.previousPoint, DistanceOdometer.previousPoint, Option.bind_eq_bind,
    Option.bind_eq_some_iff, Option.pure_def, Option.some.injEq] at h
  obtain ⟨row, -, id, -, micros, -, latitude, -, longitude, -, speed, -, rfl⟩ := h
  exact ⟨micros, rfl⟩

/-- A location does the same before and after it is stored. -/
theorem processLocationDistance_stored (distanceMeters : F64 → F64 → F64 → F64 → K)
    (tables : DistanceTables K) (imei : String) (point : DistanceLocationPoint) :
    processLocationDistance distanceMeters tables imei point.stored =
      processLocationDistance distanceMeters tables imei point := by
  have hmicros : storedMicros point.stored.serverReceivedAt =
      storedMicros point.serverReceivedAt := storedMicros_readNanos _
  have hsegment : (tables.previousPoint imei).bind
      (fun value => acceptedSegmentMeters distanceMeters value point.stored) =
        (tables.previousPoint imei).bind
          fun value => acceptedSegmentMeters distanceMeters value point := by
    cases hprevious : tables.previousPoint imei with
    | none => rfl
    | some previous =>
        obtain ⟨micros, hread⟩ := previousPoint_stored hprevious
        exact acceptedSegmentMeters_stored distanceMeters hread point
  have haccepted : acceptedMeters distanceMeters (tables.previousPoint imei) point.stored =
      acceptedMeters distanceMeters (tables.previousPoint imei) point := by
    exact Subtype.ext (congrArg (fun segment => segment.getD 0) hsegment)
  have hodometer : ∀ accepted, tables.upsertOdometer imei accepted point.stored =
      tables.upsertOdometer imei accepted point := by
    intro accepted
    simp only [DistanceTables.upsertOdometer, odometerRow_stored]
  simp only [processLocationDistance, haccepted, hodometer, wibDateOfNanos_eq, hmicros]
  rfl

end Gt06
