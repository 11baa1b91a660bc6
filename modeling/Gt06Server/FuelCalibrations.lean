/-
**Fuel calibrations.**

A calibration is the stretch between two refuels.  A request starts one at the reading the odometer
has, another completes it at a later reading, and a restart gives up the calibration that is active
and starts a new one.  The requests and the locations of a device take turns: each holds the
advisory lock of the device from its first statement on, so a run is a sequence of transactions,
and one that fails is rolled back.

The response is read after the commit and changes nothing.  The metrics of the stretch are computed
from other tables and are an answer here; a failure to compute them is a transaction that fails.
The numbers of the calibrations are given out without gaps.

Main definitions:

* `Gt06.FuelCalibration`, `Gt06.CalibrationDatabase` — a row with its checks, and the tables;
* `Gt06.CalibrationDatabase.startFuelCalibration`,
  `Gt06.CalibrationDatabase.restartFuelCalibration`,
  `Gt06.CalibrationDatabase.completeFuelCalibration` — **the three requests**;
* `Gt06.CalibrationDatabase.after`, `Gt06.CalibrationDatabase.afterAll` — transactions;
* `Gt06.CalibrationDatabase.acceptedMetersOf` — what the locations of a run have counted;
* `Gt06.CompletedIn` — the stretch of a run that a completed row is about.

Main results:

* `Gt06.CalibrationDatabase.after_calibrations` — what one transaction does to the rows;
* `Gt06.CalibrationDatabase.totalDistanceMeters_afterAll` — the odometer counts what is accepted;
* `Gt06.calibrationInv_afterAll` — the invariant of every run;
* `Gt06.fuelCalibrations_lifecycle` — **the life of a calibration**.
-/

import Mathlib
import Gt06Server.DistanceTotals
import Gt06Server.Primitives

set_option relaxedAutoImplicit false
set_option autoImplicit false

namespace Gt06

open Binary64 Relational

/-! ### Requests -/

/-- The errors of the requests; `query` is a statement that the database refuses. -/
inductive FuelApiError where
  | invalidFuelCalibration (message : String)
  | fuelCalibrationAlreadyActive
  | fuelCalibrationNotFound
  | deviceNotFound
  | query
  deriving DecidableEq, Repr

structure StartFuelCalibrationRequest where
  fuelType : Option String
  deriving DecidableEq, Repr

structure CompleteFuelCalibrationRequest where
  liters : F64
  totalCostIdr : Option ℤ
  fuelType : Option String
  tankFull : Bool
  noMissedRefuels : Bool
  deriving DecidableEq, Repr

/-- `0 < value`. -/
def isPositive : F64 → Bool
  | .finite negative units => !negative && 0 < units
  | .infinite negative => !negative
  | .nan => false

def normalizeOptionalFuelType (value : Option String) : Except FuelApiError (Option String) :=
  match value.map trim with
  | some item =>
      if 40 < item.utf8ByteSize then
        .error (.invalidFuelCalibration "fuel_type must be at most 40 characters")
      else if item.isEmpty then .ok none
      else .ok (some item)
  | none => .ok none

/-- The second refuel, once it has been validated. -/
structure AcceptedRefuel where
  liters : F64
  totalCostIdr : Option ℤ
  liters_positive : isPositive liters = true
  cost_non_negative : ∀ cost ∈ totalCostIdr, 0 ≤ cost

/-- `validate_complete_fuel_calibration`, with what it has found. -/
def validateCompleteFuelCalibration (request : CompleteFuelCalibrationRequest) :
    Except FuelApiError AcceptedRefuel :=
  if hliters : isPositive request.liters = true ∧ withinBounds 100 request.liters = true then
    if hcost : ∀ cost ∈ request.totalCostIdr, 0 ≤ cost then
      if ¬ request.tankFull then
        .error (.invalidFuelCalibration "the second refuel must fill the tank")
      else if ¬ request.noMissedRefuels then
        .error (.invalidFuelCalibration "restart calibration when another refuel was missed")
      else
        .ok {
          liters := request.liters
          totalCostIdr := request.totalCostIdr
          liters_positive := hliters.1
          cost_non_negative := hcost }
    else
      .error (.invalidFuelCalibration "total_cost_idr cannot be negative")
  else
    .error (.invalidFuelCalibration "liters must be greater than 0 and at most 100")

/-! ### Rows -/

/-- The values `fuel_calibrations_status_valid` admits. -/
inductive CalibrationStatus where
  | active
  | completed
  | invalidated
  deriving DecidableEq, Repr

structure FuelWindowMetrics where
  ridingSeconds : ℕ
  engineOnSeconds : ℕ
  tripCount : ℕ
  deriving DecidableEq, Repr

/-- A row of `fuel_calibrations`. -/
structure FuelCalibration (K : Type) [Field K] [LinearOrder K] where
  id : ℕ
  imei : String
  status : CalibrationStatus
  startedAt : ℤ
  startDistanceMeters : K
  completedAt : Option ℤ
  endDistanceMeters : Option K
  distanceMeters : Option K
  liters : Option F64
  totalCostIdr : Option ℤ
  fuelType : Option String
  ridingSeconds : Option ℕ
  engineOnSeconds : Option ℕ
  tripCount : Option ℕ
  start_distance_non_negative : 0 ≤ startDistanceMeters
  end_distance_non_negative : ∀ meters ∈ endDistanceMeters, 0 ≤ meters
  distance_non_negative : ∀ meters ∈ distanceMeters, 0 ≤ meters
  liters_positive : ∀ amount ∈ liters, isPositive amount = true
  cost_non_negative : ∀ cost ∈ totalCostIdr, 0 ≤ cost
  completed_fields : status = .completed →
    completedAt.isSome ∧ endDistanceMeters.isSome ∧ distanceMeters.isSome ∧ liters.isSome ∧
      ridingSeconds.isSome ∧ engineOnSeconds.isSome ∧ tripCount.isSome

def i64Max : ℕ := 2 ^ 63 - 1

variable {K : Type} [Field K] [LinearOrder K]

namespace FuelCalibration

/-- The row an `INSERT` adds. -/
def begun (id : ℕ) (imei : String) (startedAt : ℤ) (startDistanceMeters : K)
    (hstart : 0 ≤ startDistanceMeters) (fuelType : Option String) : FuelCalibration K where
  id := id
  imei := imei
  status := .active
  startedAt := startedAt
  startDistanceMeters := startDistanceMeters
  completedAt := none
  endDistanceMeters := none
  distanceMeters := none
  liters := none
  totalCostIdr := none
  fuelType := fuelType
  ridingSeconds := none
  engineOnSeconds := none
  tripCount := none
  start_distance_non_negative := hstart
  end_distance_non_negative := by simp
  distance_non_negative := by simp
  liters_positive := by simp
  cost_non_negative := by simp
  completed_fields := by simp

/-- `SET status = 'invalidated'`. -/
def invalidated (row : FuelCalibration K) : FuelCalibration K :=
  { row with
    status := .invalidated
    completed_fields := by simp }

/-- The row after the `UPDATE` of a completion. -/
def completed (row : FuelCalibration K) (completedAt : ℤ)
    (endDistanceMeters distanceMeters : { meters : K // 0 ≤ meters }) (refuel : AcceptedRefuel)
    (fuelType : Option String) (metrics : FuelWindowMetrics) : FuelCalibration K :=
  { row with
    status := .completed
    completedAt := some completedAt
    endDistanceMeters := some endDistanceMeters
    distanceMeters := some distanceMeters
    liters := some refuel.liters
    totalCostIdr := refuel.totalCostIdr
    fuelType := fuelType
    ridingSeconds := some (min metrics.ridingSeconds i64Max)
    engineOnSeconds := some metrics.engineOnSeconds
    tripCount := some metrics.tripCount
    end_distance_non_negative := by simpa using endDistanceMeters.2
    distance_non_negative := by simpa using distanceMeters.2
    liters_positive := by simpa using refuel.liters_positive
    cost_non_negative := refuel.cost_non_negative
    completed_fields := by simp }

end FuelCalibration

/-! ### The requests as transactions -/

/-- The devices, the odometers and the calibrations; the primary key is a number that has been
given out once. -/
structure CalibrationDatabase (K : Type) [Field K] [LinearOrder K] where
  devices : List String
  distances : DistanceTables K
  calibrations : List (FuelCalibration K)
  lastCalibrationId : ℕ
  calibrations_pkey : UniqueOn FuelCalibration.id calibrations
  calibrations_id_le : ∀ row ∈ calibrations, row.id ≤ lastCalibrationId

namespace CalibrationDatabase

variable (db : CalibrationDatabase K)

/-- A database before any calibration. -/
def fresh (devices : List String) (distances : DistanceTables K) : CalibrationDatabase K :=
  ⟨devices, distances, [], 0, List.nodup_nil, by simp⟩

/-- `EXISTS (SELECT 1 FROM fuel_calibrations WHERE imei = $1 AND status = 'active')`. -/
def activeExists (imei : String) : Bool :=
  db.calibrations.any fun row => row.imei = imei ∧ row.status = .active

def currentTrackedDistanceMeters (imei : String) : { meters : K // 0 ≤ meters } :=
  ⟨max (db.distances.totalDistanceMeters imei) 0, le_max_right _ _⟩

/-- The `INSERT` of a calibration, under the unique index of active rows. -/
def insertCalibration (imei : String) (startedAt : ℤ) (fuelType : Option String) :
    Except FuelApiError (CalibrationDatabase K) :=
  if db.activeExists imei then .error .query
  else
    let start := db.currentTrackedDistanceMeters imei
    .ok {
      devices := db.devices
      distances := db.distances
      calibrations := db.calibrations ++
        [.begun (db.lastCalibrationId + 1) imei startedAt start.1 start.2 fuelType]
      lastCalibrationId := db.lastCalibrationId + 1
      calibrations_pkey := db.calibrations_pkey.append fun row hrow => by
        have hle := db.calibrations_id_le row hrow
        simp only [FuelCalibration.begun]
        omega
      calibrations_id_le := fun row hrow => by
        rcases List.mem_append.1 hrow with hrow | hrow
        · exact (db.calibrations_id_le row hrow).trans (Nat.le_succ _)
        · rw [List.mem_singleton.1 hrow]
          exact le_rfl }

/-- `UPDATE fuel_calibrations SET f WHERE p`, for an update that leaves the number alone. -/
def updateCalibrations (p : FuelCalibration K → Bool) (f : FuelCalibration K → FuelCalibration K)
    (hf : ∀ row, (f row).id = row.id) : CalibrationDatabase K where
  devices := db.devices
  distances := db.distances
  calibrations := db.calibrations.map fun row => if p row then f row else row
  lastCalibrationId := db.lastCalibrationId
  calibrations_pkey := db.calibrations_pkey.updateWhere hf
  calibrations_id_le := fun row hrow => by
    obtain ⟨old, hold, rfl⟩ := List.mem_map.1 hrow
    have hle := db.calibrations_id_le old hold
    split
    · rw [hf]
      exact hle
    · exact hle

/-- `UPDATE … SET status = 'invalidated' WHERE imei = $1 AND status = 'active'`. -/
def invalidateActive (imei : String) : CalibrationDatabase K :=
  db.updateCalibrations (fun row => row.imei = imei ∧ row.status = .active)
    FuelCalibration.invalidated fun _ => rfl

def startFuelCalibration (imei : String) (request : StartFuelCalibrationRequest) (now : ℤ) :
    Except FuelApiError (CalibrationDatabase K) := do
  let fuelType ← normalizeOptionalFuelType request.fuelType
  if imei ∉ db.devices then .error .deviceNotFound
  else if db.activeExists imei then .error .fuelCalibrationAlreadyActive
  else db.insertCalibration imei now fuelType

def restartFuelCalibration (imei : String) (request : StartFuelCalibrationRequest) (now : ℤ) :
    Except FuelApiError (CalibrationDatabase K) := do
  let fuelType ← normalizeOptionalFuelType request.fuelType
  if imei ∉ db.devices then .error .deviceNotFound
  else (db.invalidateActive imei).insertCalibration imei now fuelType

/-- The active calibration with a number, of a device. -/
def activeCalibration (imei : String) (calibrationId : ℕ) : Option (FuelCalibration K) :=
  db.calibrations.find? fun row =>
    row.id = calibrationId ∧ row.imei = imei ∧ row.status = .active

/-- The last `UPDATE` does not ask for the status again. -/
def completeFuelCalibration (imei : String) (calibrationId : ℕ)
    (request : CompleteFuelCalibrationRequest) (completedAt : ℤ) (metrics : FuelWindowMetrics) :
    Except FuelApiError (CalibrationDatabase K) := do
  let refuel ← validateCompleteFuelCalibration request
  let fuelType ← normalizeOptionalFuelType request.fuelType
  match db.activeCalibration imei calibrationId with
  | none => .error .fuelCalibrationNotFound
  | some calibration =>
      let endDistance := db.currentTrackedDistanceMeters imei
      let distance : { meters : K // 0 ≤ meters } :=
        ⟨max (endDistance.1 - calibration.startDistanceMeters) 0, le_max_right _ _⟩
      .ok (db.updateCalibrations (fun row => row.id = calibrationId ∧ row.imei = imei)
        (fun row => row.completed completedAt endDistance distance refuel
          (fuelType.or calibration.fuelType) metrics) fun _ => rfl)

end CalibrationDatabase

/-! ### Transactions -/

/-- A transaction that is not cut off: a request, or the location of a device. -/
inductive FuelTransaction where
  | startFuelCalibration (imei : String) (request : StartFuelCalibrationRequest) (now : ℤ)
  | restartFuelCalibration (imei : String) (request : StartFuelCalibrationRequest) (now : ℤ)
  | completeFuelCalibration (imei : String) (calibrationId : ℕ)
      (request : CompleteFuelCalibrationRequest) (completedAt : ℤ) (metrics : FuelWindowMetrics)
  | persistLocation (imei : String) (point : DistanceLocationPoint)

/-- The transaction is a request to start or restart a calibration of a device. -/
def FuelTransaction.Begins (imei : String) : Option FuelTransaction → Prop
  | some (.startFuelCalibration other _ _) => other = imei
  | some (.restartFuelCalibration other _ _) => other = imei
  | _ => False

/-- The transaction is a request to complete a calibration of a device. -/
def FuelTransaction.Completes (imei : String) (id : ℕ) : Option FuelTransaction → Prop
  | some (.completeFuelCalibration other calibrationId _ _ _) => other = imei ∧ calibrationId = id
  | _ => False

namespace CalibrationDatabase

/-- What a request leaves behind: an error rolls it back. -/
def commit (db : CalibrationDatabase K) :
    Except FuelApiError (CalibrationDatabase K) → CalibrationDatabase K
  | .ok db' => db'
  | .error _ => db

variable [IsStrictOrderedRing K]

/-- The database after a transaction; `none` is one that fails and is rolled back. -/
def after (distanceMeters : F64 → F64 → F64 → F64 → K) (db : CalibrationDatabase K) :
    Option FuelTransaction → CalibrationDatabase K
  | some (.startFuelCalibration imei request now) =>
      db.commit (db.startFuelCalibration imei request now)
  | some (.restartFuelCalibration imei request now) =>
      db.commit (db.restartFuelCalibration imei request now)
  | some (.completeFuelCalibration imei calibrationId request completedAt metrics) =>
      db.commit (db.completeFuelCalibration imei calibrationId request completedAt metrics)
  | some (.persistLocation imei point) =>
      { db with
        devices := if imei ∈ db.devices then db.devices else db.devices ++ [imei]
        distances := (processLocationDistance distanceMeters db.distances imei point).2 }
  | none => db

/-- The database after a sequence of transactions. -/
def afterAll (distanceMeters : F64 → F64 → F64 → F64 → K) (db : CalibrationDatabase K)
    (transactions : List (Option FuelTransaction)) : CalibrationDatabase K :=
  transactions.foldl (after distanceMeters) db

/-- The metres `process_location_distance` accepts for a device in a transaction. -/
def acceptedMetersIn (distanceMeters : F64 → F64 → F64 → F64 → K) (imei : String)
    (db : CalibrationDatabase K) : Option FuelTransaction → K
  | some (.persistLocation other point) =>
      if other = imei then (processLocationDistance distanceMeters db.distances other point).1
      else 0
  | _ => 0

/-- The sum of what is accepted for a device in a sequence of transactions. -/
def acceptedMetersOf (distanceMeters : F64 → F64 → F64 → F64 → K) (imei : String)
    (db : CalibrationDatabase K) : List (Option FuelTransaction) → K
  | [] => 0
  | transaction :: transactions =>
      db.acceptedMetersIn distanceMeters imei transaction +
        (db.after distanceMeters transaction).acceptedMetersOf distanceMeters imei transactions

end CalibrationDatabase

/-! ### What a transaction does -/

namespace CalibrationDatabase

section Requests

variable {db db' : CalibrationDatabase K} {imei : String}

theorem activeExists_iff : db.activeExists imei = true ↔
    ∃ row ∈ db.calibrations, row.imei = imei ∧ row.status = .active := by
  simp [activeExists]

/-- The `INSERT` adds one active row at the reading of the odometer. -/
theorem insertCalibration_ok {startedAt : ℤ} {fuelType : Option String}
    (h : db.insertCalibration imei startedAt fuelType = .ok db') :
    db.activeExists imei = false ∧ db'.devices = db.devices ∧ db'.distances = db.distances ∧
      db'.lastCalibrationId = db.lastCalibrationId + 1 ∧
      db'.calibrations = db.calibrations ++ [.begun (db.lastCalibrationId + 1) imei startedAt
        (db.currentTrackedDistanceMeters imei).1 (db.currentTrackedDistanceMeters imei).2
        fuelType] := by
  rw [insertCalibration] at h
  split at h
  · cases h
  · rename_i hactive
    cases h
    exact ⟨Bool.eq_false_of_not_eq_true hactive, rfl, rfl, rfl, rfl⟩

/-- Without an active row of the device there is nothing to invalidate. -/
theorem calibrations_invalidateActive_of_not_active (h : db.activeExists imei = false) :
    (db.invalidateActive imei).calibrations = db.calibrations := by
  refine (List.map_congr_left fun row hrow => ?_).trans (List.map_id _)
  refine if_neg fun hactive => ?_
  rw [activeExists_iff.2 ⟨row, hrow, of_decide_eq_true hactive⟩] at h
  cases h

/-- An odometer is never negative, so it is read as it is. -/
theorem currentTrackedDistanceMeters_eq :
    (db.currentTrackedDistanceMeters imei).1 = db.distances.totalDistanceMeters imei := by
  refine max_eq_left ?_
  rw [DistanceTables.totalDistanceMeters]
  cases rowAt DistanceOdometer.imei imei db.distances.odometer with
  | none => exact le_rfl
  | some row => exact row.total_non_negative

theorem exceptBind_ok {ε α β : Type} {x : Except ε α} {f : α → Except ε β} {b : β}
    (h : (x >>= f) = .ok b) : ∃ a, x = .ok a ∧ f a = .ok b := by
  cases x with
  | error e => cases h
  | ok a => exact ⟨a, rfl, h⟩

theorem startFuelCalibration_ok {request : StartFuelCalibrationRequest} {now : ℤ}
    (h : db.startFuelCalibration imei request now = .ok db') :
    ∃ fuelType, db.activeExists imei = false ∧
      db.insertCalibration imei now fuelType = .ok db' := by
  obtain ⟨fuelType, -, h⟩ := exceptBind_ok h
  split at h
  · cases h
  · split at h
    · cases h
    · rename_i hactive
      exact ⟨fuelType, Bool.eq_false_of_not_eq_true hactive, h⟩

theorem restartFuelCalibration_ok {request : StartFuelCalibrationRequest} {now : ℤ}
    (h : db.restartFuelCalibration imei request now = .ok db') :
    ∃ fuelType, (db.invalidateActive imei).insertCalibration imei now fuelType = .ok db' := by
  obtain ⟨fuelType, -, h⟩ := exceptBind_ok h
  split at h
  · cases h
  · exact ⟨fuelType, h⟩

/-- What a completion does to a row. -/
def completion (imei : String) (calibrationId : ℕ) (completedAt : ℤ)
    (endDistance distance : { meters : K // 0 ≤ meters }) (refuel : AcceptedRefuel)
    (fuelType : Option String) (metrics : FuelWindowMetrics) (row : FuelCalibration K) :
    FuelCalibration K :=
  if row.id = calibrationId ∧ row.imei = imei then
    row.completed completedAt endDistance distance refuel fuelType metrics
  else row

theorem completeFuelCalibration_ok {calibrationId : ℕ} {request : CompleteFuelCalibrationRequest}
    {completedAt : ℤ} {metrics : FuelWindowMetrics}
    (h : db.completeFuelCalibration imei calibrationId request completedAt metrics = .ok db') :
    ∃ calibration ∈ db.calibrations, calibration.id = calibrationId ∧ calibration.imei = imei ∧
      calibration.status = .active ∧ db'.devices = db.devices ∧ db'.distances = db.distances ∧
      db'.lastCalibrationId = db.lastCalibrationId ∧
      ∃ (endDistance distance : { meters : K // 0 ≤ meters }) (refuel : AcceptedRefuel)
        (fuelType : Option String),
        distance.1 =
          max ((db.currentTrackedDistanceMeters imei).1 - calibration.startDistanceMeters) 0 ∧
        db'.calibrations = db.calibrations.map
          (completion imei calibrationId completedAt endDistance distance refuel fuelType
            metrics) := by
  obtain ⟨refuel, -, h⟩ := exceptBind_ok h
  obtain ⟨fuelType, -, h⟩ := exceptBind_ok h
  cases hfound : db.activeCalibration imei calibrationId with
  | none =>
      rw [hfound] at h
      cases h
  | some calibration =>
      rw [hfound] at h
      cases h
      have hmem : calibration ∈ db.calibrations := List.mem_of_find?_eq_some hfound
      have hrow : calibration.id = calibrationId ∧ calibration.imei = imei ∧
          calibration.status = .active := by simpa using List.find?_some hfound
      obtain ⟨hid, himei, hstatus⟩ := hrow
      refine ⟨calibration, hmem, hid, himei, hstatus, rfl, rfl, rfl,
        db.currentTrackedDistanceMeters imei, ⟨_, le_max_right _ _⟩, refuel,
        fuelType.or calibration.fuelType, rfl, ?_⟩
      refine List.map_congr_left fun row _ => ?_
      simp only [completion, decide_eq_true_eq]

end Requests

variable [IsStrictOrderedRing K]

variable (distanceMeters : F64 → F64 → F64 → F64 → K) (db : CalibrationDatabase K)

/-- The rows after a calibration of a device has begun. -/
def begunRows (imei : String) (startedAt : ℤ) (fuelType : Option String) :
    List (FuelCalibration K) :=
  (db.invalidateActive imei).calibrations ++ [.begun (db.lastCalibrationId + 1) imei startedAt
    (db.currentTrackedDistanceMeters imei).1 (db.currentTrackedDistanceMeters imei).2 fuelType]

/-- **What one transaction does to the rows**: nothing; or a calibration of a device begins, and
the one that was active is given up; or one that is active is completed. -/
theorem after_calibrations (transaction : Option FuelTransaction) :
    (db.after distanceMeters transaction).calibrations = db.calibrations ∨
    (∃ imei startedAt fuelType, FuelTransaction.Begins imei transaction ∧
      (db.after distanceMeters transaction).distances = db.distances ∧
      (db.after distanceMeters transaction).calibrations =
        db.begunRows imei startedAt fuelType) ∨
    ∃ imei completedAt metrics, ∃ calibration ∈ db.calibrations,
      calibration.imei = imei ∧ calibration.status = .active ∧
      FuelTransaction.Completes imei calibration.id transaction ∧
      ∃ (endDistance distance : { meters : K // 0 ≤ meters }) (refuel : AcceptedRefuel)
        (fuelType : Option String),
        distance.1 =
          max ((db.currentTrackedDistanceMeters imei).1 - calibration.startDistanceMeters) 0 ∧
        (db.after distanceMeters transaction).calibrations = db.calibrations.map
          (completion imei calibration.id completedAt endDistance distance refuel fuelType
            metrics) := by
  cases transaction with
  | none => exact Or.inl rfl
  | some transaction =>
      cases transaction with
      | persistLocation imei point => exact Or.inl rfl
      | startFuelCalibration imei request now =>
          simp only [after]
          cases hrun : db.startFuelCalibration imei request now with
          | error error => exact Or.inl rfl
          | ok db' =>
              obtain ⟨fuelType, hactive, hinsert⟩ := startFuelCalibration_ok hrun
              obtain ⟨-, -, hdistances, -, hrows⟩ := insertCalibration_ok hinsert
              refine Or.inr (Or.inl ⟨imei, now, fuelType, rfl, hdistances, ?_⟩)
              rw [begunRows, calibrations_invalidateActive_of_not_active hactive]
              exact hrows
      | restartFuelCalibration imei request now =>
          simp only [after]
          cases hrun : db.restartFuelCalibration imei request now with
          | error error => exact Or.inl rfl
          | ok db' =>
              obtain ⟨fuelType, hinsert⟩ := restartFuelCalibration_ok hrun
              obtain ⟨-, -, hdistances, -, hrows⟩ := insertCalibration_ok hinsert
              exact Or.inr (Or.inl ⟨imei, now, fuelType, rfl, hdistances, hrows⟩)
      | completeFuelCalibration imei calibrationId request completedAt metrics =>
          simp only [after]
          cases hrun : db.completeFuelCalibration imei calibrationId request completedAt
              metrics with
          | error error => exact Or.inl rfl
          | ok db' =>
              obtain ⟨calibration, hmem, rfl, himei, hstatus, -, -, -, endDistance, distance,
                refuel, fuelType, hdistance, hrows⟩ := completeFuelCalibration_ok hrun
              exact Or.inr (Or.inr ⟨imei, completedAt, metrics, calibration, hmem, himei, hstatus,
                ⟨rfl, rfl⟩, endDistance, distance, refuel, fuelType, hdistance, hrows⟩)

/-! ### The odometer -/

/-- A transaction adds to the odometer of a device what it accepts for the device. -/
theorem totalDistanceMeters_after (imei : String) (transaction : Option FuelTransaction) :
    (db.after distanceMeters transaction).distances.totalDistanceMeters imei =
      db.distances.totalDistanceMeters imei +
        db.acceptedMetersIn distanceMeters imei transaction := by
  cases transaction with
  | none => exact (add_zero _).symm
  | some transaction =>
      cases transaction with
      | persistLocation other point =>
          exact totalDistanceMeters_processLocationDistance distanceMeters point
      | startFuelCalibration other request now =>
          simp only [after, acceptedMetersIn, add_zero]
          cases hrun : db.startFuelCalibration other request now with
          | error error => rfl
          | ok db' =>
              obtain ⟨fuelType, -, hinsert⟩ := startFuelCalibration_ok hrun
              obtain ⟨-, -, hdistances, -, -⟩ := insertCalibration_ok hinsert
              exact congrArg (fun tables => tables.totalDistanceMeters imei) hdistances
      | restartFuelCalibration other request now =>
          simp only [after, acceptedMetersIn, add_zero]
          cases hrun : db.restartFuelCalibration other request now with
          | error error => rfl
          | ok db' =>
              obtain ⟨fuelType, hinsert⟩ := restartFuelCalibration_ok hrun
              obtain ⟨-, -, hdistances, -, -⟩ := insertCalibration_ok hinsert
              exact congrArg (fun tables => tables.totalDistanceMeters imei) hdistances
      | completeFuelCalibration other calibrationId request completedAt metrics =>
          simp only [after, acceptedMetersIn, add_zero]
          cases hrun : db.completeFuelCalibration other calibrationId request completedAt
              metrics with
          | error error => rfl
          | ok db' =>
              obtain ⟨-, -, -, -, -, -, hdistances, -⟩ := completeFuelCalibration_ok hrun
              exact congrArg (fun tables => tables.totalDistanceMeters imei) hdistances

/-- **The odometer counts what is accepted.** -/
theorem totalDistanceMeters_afterAll (imei : String)
    (transactions : List (Option FuelTransaction)) :
    (db.afterAll distanceMeters transactions).distances.totalDistanceMeters imei =
      db.distances.totalDistanceMeters imei +
        db.acceptedMetersOf distanceMeters imei transactions := by
  induction transactions generalizing db with
  | nil => exact (add_zero _).symm
  | cons transaction transactions ih =>
      rw [afterAll, List.foldl_cons]
      change ((db.after distanceMeters transaction).afterAll distanceMeters
        transactions).distances.totalDistanceMeters imei = _
      rw [ih, totalDistanceMeters_after, add_assoc]
      rfl

theorem acceptedMetersIn_nonneg (imei : String) (transaction : Option FuelTransaction) :
    0 ≤ db.acceptedMetersIn distanceMeters imei transaction := by
  unfold acceptedMetersIn
  split
  · split
    · exact processLocationDistance_nonneg distanceMeters _
    · exact le_rfl
  · exact le_rfl

theorem acceptedMetersOf_nonneg (imei : String) (transactions : List (Option FuelTransaction)) :
    0 ≤ db.acceptedMetersOf distanceMeters imei transactions := by
  induction transactions generalizing db with
  | nil => exact le_rfl
  | cons transaction transactions ih =>
      exact add_nonneg (db.acceptedMetersIn_nonneg distanceMeters imei transaction) (ih _)

/-! ### One row and one transaction -/

variable {distanceMeters db}

/-- A calibration of a device keeps its number and device, and either stays as it is or, while it
is active, is given up or completed. -/
def Moves (row row' : FuelCalibration K) : Prop :=
  row'.id = row.id ∧ row'.imei = row.imei ∧
    (row' = row ∨ row.status = .active ∧ (row'.status = .completed ∨ row'.status = .invalidated))

omit [IsStrictOrderedRing K] in
/-- A completion leaves every row alone but the one that was active. -/
theorem completion_cases {imei : String} {calibration row : FuelCalibration K}
    (hmem : calibration ∈ db.calibrations) (himei : calibration.imei = imei)
    (hrow : row ∈ db.calibrations) (completedAt : ℤ)
    (endDistance distance : { meters : K // 0 ≤ meters }) (refuel : AcceptedRefuel)
    (fuelType : Option String) (metrics : FuelWindowMetrics) :
    (row = calibration ∧
      completion imei calibration.id completedAt endDistance distance refuel fuelType metrics row =
        calibration.completed completedAt endDistance distance refuel fuelType metrics) ∨
    row ≠ calibration ∧
      completion imei calibration.id completedAt endDistance distance refuel fuelType metrics row =
        row := by
  by_cases heq : row = calibration
  · subst heq
    exact Or.inl ⟨rfl, if_pos ⟨rfl, himei⟩⟩
  · refine Or.inr ⟨heq, if_neg fun h => heq ?_⟩
    exact db.calibrations_pkey.eq_of_key_eq hrow hmem h.1

/-- No row is lost, and each moves as a calibration does. -/
theorem exists_moves {row : FuelCalibration K} (hrow : row ∈ db.calibrations)
    (transaction : Option FuelTransaction) :
    ∃ row' ∈ (db.after distanceMeters transaction).calibrations, Moves row row' := by
  rcases db.after_calibrations distanceMeters transaction with hsame |
    ⟨imei, startedAt, fuelType, -, -, hrows⟩ |
    ⟨imei, completedAt, metrics, calibration, hmem, himei, hstatus, -, endDistance, distance,
      refuel, fuelType, -, hrows⟩
  · exact ⟨row, hsame ▸ hrow, rfl, rfl, Or.inl rfl⟩
  · rw [hrows]
    refine ⟨_, List.mem_append_left _ (List.mem_map_of_mem hrow), ?_⟩
    split
    · rename_i hactive
      exact ⟨rfl, rfl, Or.inr ⟨(of_decide_eq_true hactive).2, Or.inr rfl⟩⟩
    · exact ⟨rfl, rfl, Or.inl rfl⟩
  · rw [hrows]
    refine ⟨_, List.mem_map_of_mem hrow, ?_⟩
    rcases completion_cases hmem himei hrow completedAt endDistance distance refuel fuelType
      metrics with ⟨rfl, heq⟩ | ⟨-, heq⟩
    · rw [heq]
      exact ⟨rfl, rfl, Or.inr ⟨hstatus, Or.inl rfl⟩⟩
    · rw [heq]
      exact ⟨rfl, rfl, Or.inl rfl⟩

end CalibrationDatabase

/-- The transaction starts a calibration: it is a request to, and the number of the calibration is
that of no row before and of an active row after. -/
def Starts [IsStrictOrderedRing K] (distanceMeters : F64 → F64 → F64 → F64 → K)
    (db : CalibrationDatabase K) (transaction : Option FuelTransaction)
    (row : FuelCalibration K) : Prop :=
  FuelTransaction.Begins row.imei transaction ∧ (∀ old ∈ db.calibrations, old.id ≠ row.id) ∧
    ∃ new ∈ (db.after distanceMeters transaction).calibrations,
      new.id = row.id ∧ new.imei = row.imei ∧ new.status = .active

/-- The transaction completes a calibration: it is a request to, and the row is active before and
what it is from then on after. -/
def CompletesAs [IsStrictOrderedRing K] (distanceMeters : F64 → F64 → F64 → F64 → K)
    (db : CalibrationDatabase K) (transaction : Option FuelTransaction)
    (row : FuelCalibration K) : Prop :=
  FuelTransaction.Completes row.imei row.id transaction ∧
    (∃ old ∈ db.calibrations, old.id = row.id ∧ old.imei = row.imei ∧ old.status = .active) ∧
    row ∈ (db.after distanceMeters transaction).calibrations ∧ row.status = .completed

/-! ### Runs -/

section Runs

variable [IsStrictOrderedRing K] (distanceMeters : F64 → F64 → F64 → F64 → K)
  (db₀ : CalibrationDatabase K)

/-- A calibration was started in a run, at the reading the odometer then had. -/
def BegunIn (transactions : List (Option FuelTransaction)) (row : FuelCalibration K) : Prop :=
  ∃ before start between, transactions = before ++ start :: between ∧
    Starts distanceMeters (db₀.afterAll distanceMeters before) start row ∧
    row.startDistanceMeters = ((db₀.afterAll distanceMeters before).after distanceMeters
      start).distances.totalDistanceMeters row.imei

/-- A calibration was started and completed in a run, and its distance is what was accepted for
its device in between. -/
def CompletedIn (transactions : List (Option FuelTransaction)) (row : FuelCalibration K) : Prop :=
  ∃ before start between complete later,
    transactions = before ++ start :: between ++ complete :: later ∧
    Starts distanceMeters (db₀.afterAll distanceMeters before) start row ∧
    CompletesAs distanceMeters (db₀.afterAll distanceMeters (before ++ start :: between)) complete
      row ∧
    row.distanceMeters = some (((db₀.afterAll distanceMeters before).after distanceMeters
      start).acceptedMetersOf distanceMeters row.imei between)

/-- The invariant of every run. -/
structure CalibrationInv (transactions : List (Option FuelTransaction)) : Prop where
  one_active : ∀ row ∈ (db₀.afterAll distanceMeters transactions).calibrations,
    ∀ row' ∈ (db₀.afterAll distanceMeters transactions).calibrations,
      row.status = .active → row'.status = .active → row.imei = row'.imei → row = row'
  active : ∀ row ∈ (db₀.afterAll distanceMeters transactions).calibrations,
    row.status = .active → BegunIn distanceMeters db₀ transactions row
  completed : ∀ row ∈ (db₀.afterAll distanceMeters transactions).calibrations,
    row.status = .completed → CompletedIn distanceMeters db₀ transactions row

variable {distanceMeters db₀} {transactions : List (Option FuelTransaction)}
  {row : FuelCalibration K}

theorem CalibrationDatabase.afterAll_concat (transaction : Option FuelTransaction) :
    db₀.afterAll distanceMeters (transactions ++ [transaction]) =
      (db₀.afterAll distanceMeters transactions).after distanceMeters transaction :=
  List.foldl_concat ..

theorem BegunIn.concat (h : BegunIn distanceMeters db₀ transactions row)
    (transaction : Option FuelTransaction) :
    BegunIn distanceMeters db₀ (transactions ++ [transaction]) row := by
  obtain ⟨before, start, between, rfl, hstarts, hreading⟩ := h
  exact ⟨before, start, between ++ [transaction], by simp, hstarts, hreading⟩

theorem CompletedIn.concat (h : CompletedIn distanceMeters db₀ transactions row)
    (transaction : Option FuelTransaction) :
    CompletedIn distanceMeters db₀ (transactions ++ [transaction]) row := by
  obtain ⟨before, start, between, complete, later, rfl, hstarts, hcompletes, hdistance⟩ := h
  exact ⟨before, start, between, complete, later ++ [transaction], by simp, hstarts, hcompletes,
    hdistance⟩

/-- The distance at a completion is what was accepted since the start. -/
theorem distance_eq_accepted {before between : List (Option FuelTransaction)}
    {start : Option FuelTransaction}
    (hreading : row.startDistanceMeters = ((db₀.afterAll distanceMeters before).after
      distanceMeters start).distances.totalDistanceMeters row.imei) :
    max (((db₀.afterAll distanceMeters (before ++ start :: between)).currentTrackedDistanceMeters
      row.imei).1 - row.startDistanceMeters) 0 =
      ((db₀.afterAll distanceMeters before).after distanceMeters start).acceptedMetersOf
        distanceMeters row.imei between := by
  set db := (db₀.afterAll distanceMeters before).after distanceMeters start with hdb
  have hrun : db₀.afterAll distanceMeters (before ++ start :: between) =
      db.afterAll distanceMeters between := by
    rw [CalibrationDatabase.afterAll, List.foldl_append]
    rfl
  have hnonneg : 0 ≤ db.acceptedMetersOf distanceMeters row.imei between :=
    db.acceptedMetersOf_nonneg distanceMeters row.imei between
  have htotal : (db.afterAll distanceMeters between).distances.totalDistanceMeters row.imei =
      row.startDistanceMeters + db.acceptedMetersOf distanceMeters row.imei between := by
    rw [db.totalDistanceMeters_afterAll, hreading]
  rw [hrun, CalibrationDatabase.currentTrackedDistanceMeters_eq, htotal, add_sub_cancel_left]
  exact max_eq_left hnonneg

/-- The run without a transaction, from a database without calibrations. -/
theorem calibrationInv_nil (h : db₀.calibrations = []) :
    CalibrationInv distanceMeters db₀ [] := by
  have hempty : ∀ row, row ∉ (db₀.afterAll distanceMeters []).calibrations := by
    intro row hrow
    change row ∈ db₀.calibrations at hrow
    rw [h] at hrow
    cases hrow
  exact ⟨fun row hrow => absurd hrow (hempty row), fun row hrow => absurd hrow (hempty row),
    fun row hrow => absurd hrow (hempty row)⟩

omit [IsStrictOrderedRing K] in
/-- The rows once a calibration has begun: the rows that were there, of which none of the device is
active any more, and the new one. -/
theorem CalibrationDatabase.mem_begunRows {db : CalibrationDatabase K} {imei : String}
    {startedAt : ℤ} {fuelType : Option String}
    (hrow : row ∈ db.begunRows imei startedAt fuelType) :
    (row ∈ db.calibrations ∧ (row.imei = imei → row.status ≠ .active)) ∨
      row.status = .invalidated ∨
      row = .begun (db.lastCalibrationId + 1) imei startedAt
        (db.currentTrackedDistanceMeters imei).1 (db.currentTrackedDistanceMeters imei).2
        fuelType := by
  rcases List.mem_append.1 hrow with hrow | hrow
  · obtain ⟨old, hold, rfl⟩ := List.mem_map.1 hrow
    by_cases hp : decide (old.imei = imei ∧ old.status = .active) = true
    · rw [if_pos hp]
      exact Or.inr (Or.inl rfl)
    · rw [if_neg hp]
      exact Or.inl ⟨hold, fun himei hstatus => hp (decide_eq_true ⟨himei, hstatus⟩)⟩
  · exact Or.inr (Or.inr (List.mem_singleton.1 hrow))

/-- The run goes on with a transaction that begins a calibration. -/
theorem CalibrationInv.begins (h : CalibrationInv distanceMeters db₀ transactions)
    {transaction : Option FuelTransaction} {imei : String} {startedAt : ℤ}
    {fuelType : Option String} (hbegins : FuelTransaction.Begins imei transaction)
    (hdistances : ((db₀.afterAll distanceMeters transactions).after distanceMeters
      transaction).distances = (db₀.afterAll distanceMeters transactions).distances)
    (hrows : ((db₀.afterAll distanceMeters transactions).after distanceMeters
      transaction).calibrations =
        (db₀.afterAll distanceMeters transactions).begunRows imei startedAt fuelType) :
    CalibrationInv distanceMeters db₀ (transactions ++ [transaction]) := by
  constructor
  · rw [CalibrationDatabase.afterAll_concat, hrows]
    intro row hrow row' hrow' hstatus hstatus' himeis
    rcases CalibrationDatabase.mem_begunRows hrow with ⟨hold, hnot⟩ | hinvalid | hnew
    · rcases CalibrationDatabase.mem_begunRows hrow' with ⟨hold', -⟩ | hinvalid' | hnew'
      · exact h.one_active row hold row' hold' hstatus hstatus' himeis
      · rw [hinvalid'] at hstatus'
        cases hstatus'
      · rw [hnew'] at himeis
        exact absurd hstatus (hnot himeis)
    · rw [hinvalid] at hstatus
      cases hstatus
    · rcases CalibrationDatabase.mem_begunRows hrow' with ⟨-, hnot'⟩ | hinvalid' | hnew'
      · rw [hnew] at himeis
        exact absurd hstatus' (hnot' himeis.symm)
      · rw [hinvalid'] at hstatus'
        cases hstatus'
      · rw [hnew, hnew']
  · rw [CalibrationDatabase.afterAll_concat]
    intro row hrow hstatus
    rcases CalibrationDatabase.mem_begunRows (hrows ▸ hrow) with ⟨hold, -⟩ | hinvalid | hnew
    · exact (h.active row hold hstatus).concat transaction
    · rw [hinvalid] at hstatus
      cases hstatus
    · refine ⟨transactions, transaction, [], rfl, ⟨?_, ?_, row, hrow, rfl, rfl, hstatus⟩, ?_⟩
      · rw [hnew]
        exact hbegins
      · -- the number is the one after all that were given out
        intro old hold hid
        have hle := (db₀.afterAll distanceMeters transactions).calibrations_id_le old hold
        rw [hid, hnew] at hle
        exact absurd hle (Nat.not_succ_le_self _)
      · rw [hdistances, hnew]
        exact CalibrationDatabase.currentTrackedDistanceMeters_eq
  · rw [CalibrationDatabase.afterAll_concat, hrows]
    intro row hrow hstatus
    rcases CalibrationDatabase.mem_begunRows hrow with ⟨hold, -⟩ | hinvalid | hnew
    · exact (h.completed row hold hstatus).concat transaction
    · rw [hinvalid] at hstatus
      cases hstatus
    · rw [hnew] at hstatus
      cases hstatus

/-- The run goes on with a transaction that completes a calibration. -/
theorem CalibrationInv.completes (h : CalibrationInv distanceMeters db₀ transactions)
    {transaction : Option FuelTransaction} {imei : String} {completedAt : ℤ}
    {metrics : FuelWindowMetrics} {calibration : FuelCalibration K}
    (hmem : calibration ∈ (db₀.afterAll distanceMeters transactions).calibrations)
    (himei : calibration.imei = imei) (hactive : calibration.status = .active)
    (hcompletes : FuelTransaction.Completes imei calibration.id transaction)
    {endDistance distance : { meters : K // 0 ≤ meters }} {refuel : AcceptedRefuel}
    {fuelType : Option String}
    (hdistance : distance.1 = max (((db₀.afterAll distanceMeters
      transactions).currentTrackedDistanceMeters imei).1 - calibration.startDistanceMeters) 0)
    (hrows : ((db₀.afterAll distanceMeters transactions).after distanceMeters
      transaction).calibrations = (db₀.afterAll distanceMeters transactions).calibrations.map
        (CalibrationDatabase.completion imei calibration.id completedAt endDistance distance refuel
          fuelType metrics)) :
    CalibrationInv distanceMeters db₀ (transactions ++ [transaction]) := by
  have hcases : ∀ row ∈ ((db₀.afterAll distanceMeters transactions).after distanceMeters
      transaction).calibrations, row ∈ (db₀.afterAll distanceMeters transactions).calibrations ∨
        row = calibration.completed completedAt endDistance distance refuel fuelType metrics := by
    intro row hrow
    rw [hrows] at hrow
    obtain ⟨old, hold, rfl⟩ := List.mem_map.1 hrow
    rcases CalibrationDatabase.completion_cases hmem himei hold completedAt endDistance distance
      refuel fuelType metrics with ⟨-, heq⟩ | ⟨-, heq⟩
    · exact Or.inr heq
    · rw [heq]
      exact Or.inl hold
  constructor
  · rw [CalibrationDatabase.afterAll_concat]
    intro row hrow row' hrow' hstatus hstatus' himeis
    rcases hcases row hrow with hold | rfl
    · rcases hcases row' hrow' with hold' | rfl
      · exact h.one_active row hold row' hold' hstatus hstatus' himeis
      · cases hstatus'
    · cases hstatus
  · rw [CalibrationDatabase.afterAll_concat]
    intro row hrow hstatus
    rcases hcases row hrow with hold | rfl
    · exact (h.active row hold hstatus).concat transaction
    · cases hstatus
  · rw [CalibrationDatabase.afterAll_concat]
    intro row hrow hstatus
    rcases hcases row hrow with hold | hnew
    · exact (h.completed row hold hstatus).concat transaction
    · obtain ⟨before, start, between, rfl, hstarts, hreading⟩ := h.active calibration hmem hactive
      have hid : row.id = calibration.id := by rw [hnew]; rfl
      have himeis : row.imei = calibration.imei := by rw [hnew]; rfl
      refine ⟨before, start, between, transaction, [], rfl, ?_, ⟨?_, ?_, hrow, hstatus⟩, ?_⟩
      · rw [Starts, hid, himeis]
        exact hstarts
      · rw [hid, himeis, himei]
        exact hcompletes
      · exact ⟨calibration, hmem, hid.symm, himeis.symm, hactive⟩
      · rw [hnew]
        change some distance.1 = _
        rw [hdistance, ← himei]
        exact congrArg some (distance_eq_accepted hreading)

/-- The run goes on with a transaction. -/
theorem CalibrationInv.concat (h : CalibrationInv distanceMeters db₀ transactions)
    (transaction : Option FuelTransaction) :
    CalibrationInv distanceMeters db₀ (transactions ++ [transaction]) := by
  rcases (db₀.afterAll distanceMeters transactions).after_calibrations distanceMeters
    transaction with hsame | ⟨imei, startedAt, fuelType, hbegins, hdistances, hrows⟩ |
    ⟨imei, completedAt, metrics, calibration, hmem, himei, hactive, hcompletes, endDistance,
      distance, refuel, fuelType, hdistance, hrows⟩
  · constructor
    · rw [CalibrationDatabase.afterAll_concat, hsame]
      exact h.one_active
    · rw [CalibrationDatabase.afterAll_concat, hsame]
      exact fun row hrow hstatus => (h.active row hrow hstatus).concat transaction
    · rw [CalibrationDatabase.afterAll_concat, hsame]
      exact fun row hrow hstatus => (h.completed row hrow hstatus).concat transaction
  · exact h.begins hbegins hdistances hrows
  · exact h.completes hmem himei hactive hcompletes hdistance hrows

/-- **The invariant holds of every run.** -/
theorem calibrationInv_afterAll (h : db₀.calibrations = [])
    (transactions : List (Option FuelTransaction)) :
    CalibrationInv distanceMeters db₀ transactions := by
  induction transactions using List.reverseRecOn with
  | nil => exact calibrationInv_nil h
  | append_singleton transactions transaction ih => exact ih.concat transaction

end Runs

/-! ### The life of a calibration -/

section Lifecycle

variable {db : CalibrationDatabase K} {imei : String}

/-- A request to start changes nothing while a calibration of the device is active. -/
theorem startFuelCalibration_of_active (hactive : db.activeExists imei = true)
    (request : StartFuelCalibrationRequest) (now : ℤ) :
    db.commit (db.startFuelCalibration imei request now) = db := by
  cases hrun : db.startFuelCalibration imei request now with
  | error error => rfl
  | ok db' =>
      obtain ⟨fuelType, hnone, -⟩ := CalibrationDatabase.startFuelCalibration_ok hrun
      rw [hactive] at hnone
      cases hnone

/-- A request to complete changes nothing when the number is not that of an active calibration of
the device. -/
theorem completeFuelCalibration_of_not_active {calibrationId : ℕ}
    (hnone : ¬ ∃ row ∈ db.calibrations,
      row.id = calibrationId ∧ row.imei = imei ∧ row.status = .active)
    (request : CompleteFuelCalibrationRequest) (completedAt : ℤ) (metrics : FuelWindowMetrics) :
    db.commit (db.completeFuelCalibration imei calibrationId request completedAt metrics) = db := by
  cases hrun : db.completeFuelCalibration imei calibrationId request completedAt metrics with
  | error error => rfl
  | ok db' =>
      obtain ⟨row, hrow, hid, himei, hstatus, -⟩ :=
        CalibrationDatabase.completeFuelCalibration_ok hrun
      exact absurd ⟨row, hrow, hid, himei, hstatus⟩ hnone

end Lifecycle

/-- **The life of a calibration**: after any sequence of requests and locations, of which any may
fail, for any devices, a device has at most one active calibration; the next transaction moves rows
from active to completed or invalidated only, and changes nothing when it starts a calibration next
to an active one or completes one that is not active or not of the device; and the distance of a
completed calibration is what was accepted for its device from its start to its completion. -/
theorem fuelCalibrations_lifecycle [IsStrictOrderedRing K]
    (distanceMeters : F64 → F64 → F64 → F64 → K) (devices : List String)
    (distances : DistanceTables K) (transactions : List (Option FuelTransaction)) :
    let db₀ := CalibrationDatabase.fresh devices distances
    let db := db₀.afterAll distanceMeters transactions
    (∀ row ∈ db.calibrations, ∀ row' ∈ db.calibrations,
      row.status = .active → row'.status = .active → row.imei = row'.imei → row = row') ∧
    (∀ transaction, ∀ row ∈ db.calibrations,
      ∃ row' ∈ (db.after distanceMeters transaction).calibrations,
        CalibrationDatabase.Moves row row') ∧
    (∀ imei request now, (∃ row ∈ db.calibrations, row.imei = imei ∧ row.status = .active) →
      db.after distanceMeters (some (.startFuelCalibration imei request now)) = db) ∧
    (∀ imei calibrationId request completedAt metrics,
      (¬ ∃ row ∈ db.calibrations,
        row.id = calibrationId ∧ row.imei = imei ∧ row.status = .active) →
      db.after distanceMeters (some (.completeFuelCalibration imei calibrationId request
        completedAt metrics)) = db) ∧
    ∀ row ∈ db.calibrations, row.status = .completed →
      CompletedIn distanceMeters db₀ transactions row ∧
      ∀ meters ∈ row.distanceMeters, 0 ≤ meters := by
  have hinv : CalibrationInv distanceMeters (CalibrationDatabase.fresh devices distances)
      transactions := calibrationInv_afterAll rfl transactions
  refine ⟨hinv.one_active, ?_, ?_, ?_, ?_⟩
  · intro transaction row hrow
    exact CalibrationDatabase.exists_moves hrow transaction
  · intro imei request now hactive
    exact startFuelCalibration_of_active (CalibrationDatabase.activeExists_iff.2 hactive) request
      now
  · intro imei calibrationId request completedAt metrics hnone
    exact completeFuelCalibration_of_not_active hnone request completedAt metrics
  · intro row hrow hstatus
    have hcompleted := hinv.completed row hrow hstatus
    refine ⟨hcompleted, ?_⟩
    obtain ⟨before, start, between, complete, later, -, -, -, hdistance⟩ := hcompleted
    intro meters hmeters
    rw [hdistance, Option.mem_some_iff] at hmeters
    rw [← hmeters]
    exact CalibrationDatabase.acceptedMetersOf_nonneg distanceMeters _ row.imei between

/-- A location, a calibration, a location that counts, one that is rolled back, and the second
refuel. -/
def twoRefuels : List (Option FuelTransaction) :=
  [some (.persistLocation "866221070478388" ⟨1, 1500, .finite true 0, .finite false 0, 30⟩),
    some (.startFuelCalibration "866221070478388" ⟨some "Pertamax "⟩ 2),
    some (.persistLocation "866221070478388"
      ⟨2, 10000001200, .finite true 0, .finite false 0, 30⟩),
    none,
    some (.completeFuelCalibration "866221070478388" 1
      ⟨.finite false (3 * unitsPerOne), some 30000, none, true, true⟩ 20 ⟨10, 10, 1⟩)]

theorem fuelCalibrations_lifecycle_twoRefuels :
    ∃ row ∈ ((CalibrationDatabase.fresh [] DistanceTables.empty).afterAll
        (fun _ _ _ _ => (100 : ℚ)) twoRefuels).calibrations, row.status = .completed ∧
      CompletedIn (fun _ _ _ _ => (100 : ℚ)) (CalibrationDatabase.fresh [] DistanceTables.empty)
        twoRefuels row := by
  have hlife := fuelCalibrations_lifecycle (fun _ _ _ _ => (100 : ℚ)) []
    DistanceTables.empty twoRefuels
  have hcompleted : ∃ row ∈ ((CalibrationDatabase.fresh [] DistanceTables.empty).afterAll
      (fun _ _ _ _ => (100 : ℚ)) twoRefuels).calibrations, row.status = .completed := by
    decide +kernel
  obtain ⟨row, hrow, hstatus⟩ := hcompleted
  exact ⟨row, hrow, hstatus, (hlife.2.2.2.2 row hrow hstatus).1⟩

/-- In that run the calibration is completed, with the metres of the one location that counts. -/
example : (((CalibrationDatabase.fresh [] DistanceTables.empty).afterAll
    (fun _ _ _ _ => (100 : ℚ)) twoRefuels).calibrations.map fun row =>
      (row.status, row.distanceMeters)) = [(.completed, some 100)] := by
  decide +kernel

end Gt06
