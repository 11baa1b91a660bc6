/-
**The page of fuel calibrations.**

The page of a device shows the calibration that is under way, with the distance it has come to, and
the last twenty that were completed, with what they say about the consumption.  It is put together
from the rows and the odometer, and from the rides of the stretch.

The page is read while nothing is written.  The distances of calibrations are differences of
readings of one odometer, so that together they are no more than the odometer has counted; that the
rows are in the order in which they were completed needs instants in the order of the transactions,
since an instant is read before the transaction waits for its turn.

Main definitions:

* `Gt06.fetchFuelWindowMetrics` — the rides of a stretch;
* `Gt06.CalibrationDatabase.loadDeviceFuelCalibrations` — **the page**;
* `Gt06.completionTimes` — the instants of the requests to complete a calibration;
* `Gt06.FuelCalibration.coveredMeters` — what a calibration has come to.

Main results:

* `Gt06.coveredMeters_afterAll` — no metre is counted for two calibrations;
* `Gt06.historyInv_afterAll` — the invariant of every run;
* `Gt06.fuel_page_of_run` — **what the page shows after a run**;
* `Gt06.refuel_settles_progress` — what it showed as progress is what a refuel stores.
-/

import Mathlib
import Gt06Server.DayPages
import Gt06Server.FuelCalibrations
import Gt06Server.ServiceMilestones

set_option relaxedAutoImplicit false
set_option autoImplicit false

namespace Gt06

open Binary64 Relational

/-! ### The rides of a stretch -/

/-- The rows of `fetch_fuel_window_metrics`; their order does not matter. -/
def fuelWindowSessions (rows : List EngineSession) (imei : String) (startedAt endedAt : ℤ) :
    List EngineSession :=
  rows.filter fun row =>
    row.imei = imei ∧ row.createdAt < endedAt ∧ startedAt < row.resolvedAt.getD endedAt

def fetchFuelWindowMetrics (summarize : List RidePoint → RideSummary) (w : ChatWorld)
    (imei : String) (startedAt endedAt : ℤ) : FuelWindowMetrics :=
  let sessions := fuelWindowSessions w.telegramEngineSessions imei startedAt endedAt
  { ridingSeconds :=
      (fetchRideSummary summarize w.deviceLocations imei startedAt endedAt).ridingSeconds
    engineOnSeconds := (sessions.map fun session =>
      (numSeconds (min (session.resolvedAt.getD endedAt) endedAt -
        max session.createdAt startedAt)).toNat).sum
    tripCount := sessions.length }

/-! ### The page -/

section Page

variable {K : Type} [Field K] [LinearOrder K]

/-- The number a double stands for, where it stands for one. -/
def numberOf : F64 → K
  | .finite negative units => (if negative then -1 else 1) * (units / unitsPerOne)
  | _ => 0

structure FuelCalibrationProgressResponse (K : Type) where
  id : ℕ
  startedAt : ℤ
  startDistanceKm : K
  currentDistanceKm : K
  distanceTraveledKm : K
  ridingSeconds : ℕ
  engineOnSeconds : ℕ
  tripCount : ℕ
  elapsedDays : ℤ
  fuelType : Option String

structure FuelCalibrationResultResponse (K : Type) where
  id : ℕ
  startedAt : ℤ
  completedAt : ℤ
  startDistanceKm : K
  endDistanceKm : K
  distanceTraveledKm : K
  liters : F64
  totalCostIdr : Option ℤ
  fuelType : Option String
  efficiencyKmPerLiter : K
  costPerKmIdr : Option K
  ridingSeconds : ℕ
  engineOnSeconds : ℕ
  tripCount : ℕ

/-- The texts `not_started`, `active` and `completed`. -/
inductive FuelCalibrationState where
  | notStarted
  | active
  | completed
  deriving DecidableEq, Repr

structure DeviceFuelCalibrationResponse (K : Type) where
  imei : String
  timezone : String
  generatedAt : ℤ
  state : FuelCalibrationState
  activeCalibration : Option (FuelCalibrationProgressResponse K)
  latestResult : Option (FuelCalibrationResultResponse K)
  history : List (FuelCalibrationResultResponse K)

/-- A row whose columns are all there. -/
abbrev CompletedCalibration (K : Type) [Field K] [LinearOrder K] : Type :=
  { row : FuelCalibration K // row.status = .completed }

namespace CompletedCalibration

variable (row : CompletedCalibration K)

def completedAt : ℤ := row.1.completedAt.get (row.1.completed_fields row.2).1

def endDistanceMeters : K := row.1.endDistanceMeters.get (row.1.completed_fields row.2).2.1

def distanceMeters : K := row.1.distanceMeters.get (row.1.completed_fields row.2).2.2.1

def liters : F64 := row.1.liters.get (row.1.completed_fields row.2).2.2.2.1

def ridingSeconds : ℕ := row.1.ridingSeconds.get (row.1.completed_fields row.2).2.2.2.2.1

def engineOnSeconds : ℕ := row.1.engineOnSeconds.get (row.1.completed_fields row.2).2.2.2.2.2.1

def tripCount : ℕ := row.1.tripCount.get (row.1.completed_fields row.2).2.2.2.2.2.2

def fuelCalibrationResultFromRow : FuelCalibrationResultResponse K :=
  let distanceMeters := max row.distanceMeters 0
  let distanceKm := distanceMeters / (metersPerKm : K)
  { id := row.1.id
    startedAt := row.1.startedAt
    completedAt := row.completedAt
    startDistanceKm := row.1.startDistanceMeters / (metersPerKm : K)
    endDistanceKm := row.endDistanceMeters / (metersPerKm : K)
    distanceTraveledKm := distanceKm
    liters := row.liters
    totalCostIdr := row.1.totalCostIdr
    fuelType := row.1.fuelType
    efficiencyKmPerLiter :=
      if isPositive row.liters then distanceKm / numberOf row.liters else 0
    costPerKmIdr :=
      (row.1.totalCostIdr.filter fun _ => 0 < distanceKm).map fun cost => cost / distanceKm
    ridingSeconds := row.ridingSeconds
    engineOnSeconds := row.engineOnSeconds
    tripCount := row.tripCount }

/-- `ORDER BY completed_at DESC, id DESC`. -/
def newestFirst (a b : CompletedCalibration K) : Bool :=
  b.completedAt < a.completedAt ∨ a.completedAt = b.completedAt ∧ b.1.id ≤ a.1.id

end CompletedCalibration

/-- The row as a completed one of a device, if it is one. -/
def FuelCalibration.asCompleted (imei : String) (row : FuelCalibration K) :
    Option (CompletedCalibration K) :=
  if h : row.status = .completed then
    if row.imei = imei then some ⟨row, h⟩ else none
  else none

namespace CalibrationDatabase

variable (db : CalibrationDatabase K) (summarize : List RidePoint → RideSummary) (w : ChatWorld)
  (imei : String) (now : ℤ)

/-- The rows `WHERE imei = $1 AND status = 'completed'`. -/
def completedCalibrations : List (CompletedCalibration K) :=
  db.calibrations.filterMap (FuelCalibration.asCompleted imei)

def calibrationHistory : List (CompletedCalibration K) :=
  ((db.completedCalibrations imei).mergeSort CompletedCalibration.newestFirst).take 20

/-- `WHERE imei = $1 AND status = 'active' ORDER BY id DESC LIMIT 1`. -/
def latestActiveCalibration : Option (FuelCalibration K) :=
  ((db.calibrations.filter fun row => row.imei = imei ∧ row.status = .active).mergeSort
    fun a b => b.id ≤ a.id).head?

def calibrationProgress (row : FuelCalibration K) : FuelCalibrationProgressResponse K :=
  let currentDistanceMeters := (db.currentTrackedDistanceMeters imei).1
  let metrics := fetchFuelWindowMetrics summarize w imei row.startedAt now
  let elapsedSeconds := max (numSeconds (now - row.startedAt)) 0
  { id := row.id
    startedAt := row.startedAt
    startDistanceKm := row.startDistanceMeters / (metersPerKm : K)
    currentDistanceKm := currentDistanceMeters / (metersPerKm : K)
    distanceTraveledKm :=
      max (currentDistanceMeters - row.startDistanceMeters) 0 / (metersPerKm : K)
    ridingSeconds := metrics.ridingSeconds
    engineOnSeconds := metrics.engineOnSeconds
    tripCount := metrics.tripCount
    elapsedDays := if elapsedSeconds = 0 then 0 else (elapsedSeconds + 86399) / 86400
    fuelType := row.fuelType }

def loadDeviceFuelCalibrations : Except FuelApiError (DeviceFuelCalibrationResponse K) :=
  if imei ∉ db.devices then .error .deviceNotFound
  else
    let activeCalibration :=
      (db.latestActiveCalibration imei).map (db.calibrationProgress summarize w imei now)
    let history :=
      (db.calibrationHistory imei).map CompletedCalibration.fuelCalibrationResultFromRow
    let latestResult := history.head?
    .ok {
      imei := imei
      timezone := "Asia/Jakarta"
      generatedAt := now
      state :=
        if activeCalibration.isSome then .active
        else if latestResult.isSome then .completed
        else .notStarted
      activeCalibration := activeCalibration
      latestResult := latestResult
      history := history }

end CalibrationDatabase

end Page

/-! ### No metre twice -/

section Covered

variable {K : Type} [Field K] [LinearOrder K]

/-- What a calibration of a device has come to, at a reading of the odometer. -/
def FuelCalibration.coveredMeters (imei : String) (reading : K) (row : FuelCalibration K) : K :=
  if row.imei ≠ imei then 0
  else
    match row.status with
    | .completed => row.distanceMeters.getD 0
    | .active => max (reading - row.startDistanceMeters) 0
    | .invalidated => 0

/-- What the calibrations of a device have come to together. -/
def coveredMeters (imei : String) (reading : K) (rows : List (FuelCalibration K)) : K :=
  (rows.map (FuelCalibration.coveredMeters imei reading)).sum

/-- The calibration of a device is under way. -/
def FuelCalibration.activeOf (imei : String) (row : FuelCalibration K) : Bool :=
  row.imei = imei ∧ row.status = .active

variable {imei : String} {reading meters : K} {row : FuelCalibration K}
  {rows : List (FuelCalibration K)}

theorem FuelCalibration.coveredMeters_nonneg :
    0 ≤ row.coveredMeters imei reading := by
  unfold coveredMeters
  split
  · exact le_rfl
  · split
    · cases hmeters : row.distanceMeters with
      | none => exact le_rfl
      | some meters => exact row.distance_non_negative meters hmeters
    · exact le_max_right _ _
    · exact le_rfl

variable [IsStrictOrderedRing K]

/-- Only a calibration under way comes further with the odometer. -/
theorem FuelCalibration.coveredMeters_add_le (hmeters : 0 ≤ meters) :
    row.coveredMeters imei (reading + meters) ≤
      row.coveredMeters imei reading + if row.activeOf imei then meters else 0 := by
  unfold coveredMeters activeOf
  by_cases himei : row.imei = imei
  · rw [if_neg (not_not.2 himei), if_neg (not_not.2 himei)]
    cases hstatus : row.status with
    | active =>
        rw [if_pos (decide_eq_true ⟨himei, rfl⟩)]
        refine max_le ?_ (add_nonneg (le_max_right _ _) hmeters)
        have hle := le_max_left (reading - row.startDistanceMeters) 0
        calc reading + meters - row.startDistanceMeters
            = reading - row.startDistanceMeters + meters := by ring
          _ ≤ max (reading - row.startDistanceMeters) 0 + meters := by gcongr
    | completed => simp
    | invalidated => simp
  · simp [himei]

omit [LinearOrder K] [IsStrictOrderedRing K] in
/-- A summand of one row at most. -/
theorem sum_ite_le_of_length_filter {α : Type} {p : α → Bool} {l : List α} :
    (l.map fun a => if p a then meters else 0).sum = (l.filter p).length • meters := by
  induction l with
  | nil => simp
  | cons a l ih =>
      rw [List.map_cons, List.sum_cons, ih, List.filter_cons]
      split
      · rw [List.length_cons, succ_nsmul, add_comm]
      · rw [zero_add]

/-- With one calibration of a device under way, all of them come further by what is counted. -/
theorem coveredMeters_add_le (hmeters : 0 ≤ meters)
    (hone : (rows.filter (FuelCalibration.activeOf imei)).length ≤ 1) :
    coveredMeters imei (reading + meters) rows ≤ coveredMeters imei reading rows + meters := by
  calc coveredMeters imei (reading + meters) rows
      ≤ (rows.map fun row => row.coveredMeters imei reading +
          if row.activeOf imei then meters else 0).sum :=
        List.sum_le_sum fun row _ => row.coveredMeters_add_le hmeters
    _ = coveredMeters imei reading rows +
          (rows.filter (FuelCalibration.activeOf imei)).length • meters := by
        rw [List.sum_map_add, sum_ite_le_of_length_filter]
        rfl
    _ ≤ coveredMeters imei reading rows + 1 • meters := by
        gcongr
    _ = coveredMeters imei reading rows + meters := by rw [one_nsmul]

end Covered

/-! ### What a transaction does to the rows -/

section Steps

variable {K : Type} [Field K] [LinearOrder K] {imei : String} {row : FuelCalibration K}
  {db : CalibrationDatabase K} {transaction : Option FuelTransaction}

/-- The instant of a request to complete a calibration of a device. -/
def FuelTransaction.completionTime (imei : String) : Option FuelTransaction → Option ℤ
  | some (.completeFuelCalibration other _ _ completedAt _) =>
      if other = imei then some completedAt else none
  | _ => none

def completionTimes (imei : String) (transactions : List (Option FuelTransaction)) : List ℤ :=
  transactions.filterMap (FuelTransaction.completionTime imei)

/-- The row is the completion of one that was under way, by the transaction. -/
def CompletedBy (db : CalibrationDatabase K) (transaction : Option FuelTransaction)
    (calibration row : FuelCalibration K) : Prop :=
  calibration ∈ db.calibrations ∧ calibration.status = .active ∧ row.status = .completed ∧
    row.id = calibration.id ∧ row.imei = calibration.imei ∧
    row.distanceMeters = some (max ((db.currentTrackedDistanceMeters row.imei).1 -
      calibration.startDistanceMeters) 0) ∧
    row.completedAt = FuelTransaction.completionTime row.imei transaction

variable [IsStrictOrderedRing K] (distanceMeters : F64 → F64 → F64 → F64 → K)

/-- The rows are left alone; or a calibration begins; or each row stays or is completed. -/
theorem CalibrationDatabase.after_rows (db : CalibrationDatabase K)
    (transaction : Option FuelTransaction) :
    (∃ imei startedAt fuelType, (db.after distanceMeters transaction).calibrations =
      db.begunRows imei startedAt fuelType) ∨
    ∃ f : FuelCalibration K → FuelCalibration K,
      (db.after distanceMeters transaction).calibrations = db.calibrations.map f ∧
      ∀ row ∈ db.calibrations, f row = row ∨ CompletedBy db transaction row (f row) := by
  rcases db.after_calibrations distanceMeters transaction with hsame |
    ⟨imei, startedAt, fuelType, -, -, hrows⟩ | ⟨_, _, _, _, _, _, _, hcompletes, _⟩
  · exact Or.inr ⟨id, hsame.trans (List.map_id _).symm, fun row _ => Or.inl rfl⟩
  · exact Or.inl ⟨imei, startedAt, fuelType, hrows⟩
  · cases transaction with
    | none => exact hcompletes.elim
    | some transaction =>
        cases transaction with
        | completeFuelCalibration other calibrationId request completedAt metrics =>
            simp only [after]
            cases hrun : db.completeFuelCalibration other calibrationId request completedAt
                metrics with
            | error error => exact Or.inr ⟨id, (List.map_id _).symm, fun row _ => Or.inl rfl⟩
            | ok db' =>
                obtain ⟨calibration, hmem, rfl, rfl, hstatus, -, -, -, endDistance, distance,
                  refuel, fuelType, hdistance, hrows⟩ := completeFuelCalibration_ok hrun
                refine Or.inr ⟨_, hrows, fun row hrow => ?_⟩
                rcases completion_cases hmem rfl hrow completedAt endDistance distance refuel
                  fuelType metrics with ⟨rfl, heq⟩ | ⟨-, heq⟩
                · rw [heq]
                  refine Or.inr ⟨hmem, hstatus, rfl, rfl, rfl, congrArg some hdistance, ?_⟩
                  exact (if_pos rfl).symm
                · exact Or.inl heq
        | _ => exact hcompletes.elim

omit [IsStrictOrderedRing K] in
/-- What a completed calibration has come to does not change with the completion. -/
theorem CompletedBy.coveredMeters {calibration : FuelCalibration K}
    (h : CompletedBy db transaction calibration row) :
    row.coveredMeters imei (db.distances.totalDistanceMeters imei) =
      calibration.coveredMeters imei (db.distances.totalDistanceMeters imei) := by
  obtain ⟨-, hactive, hcompleted, -, himei, hdistance, -⟩ := h
  unfold FuelCalibration.coveredMeters
  rw [hactive, hcompleted, himei]
  by_cases hdevice : calibration.imei = imei
  · rw [if_neg (not_not.2 hdevice), if_neg (not_not.2 hdevice)]
    dsimp only
    rw [hdistance, Option.getD_some, himei, CalibrationDatabase.currentTrackedDistanceMeters_eq,
      hdevice]
  · rw [if_pos hdevice, if_pos hdevice]

/-- A calibration that begins has come to nothing, and one that is given up counts no more. -/
theorem coveredMeters_begunRows_le (other : String) (startedAt : ℤ)
    (fuelType : Option String) :
    coveredMeters imei (db.distances.totalDistanceMeters imei)
        (db.begunRows other startedAt fuelType) ≤
      coveredMeters imei (db.distances.totalDistanceMeters imei) db.calibrations := by
  have hnew : (FuelCalibration.begun (db.lastCalibrationId + 1) other startedAt
      (db.currentTrackedDistanceMeters other).1 (db.currentTrackedDistanceMeters other).2
      fuelType).coveredMeters imei (db.distances.totalDistanceMeters imei) = 0 := by
    unfold FuelCalibration.coveredMeters
    split
    · rfl
    · next hdevice =>
      obtain rfl : other = imei := not_not.1 hdevice
      change max (_ - (db.currentTrackedDistanceMeters other).1) 0 = 0
      rw [CalibrationDatabase.currentTrackedDistanceMeters_eq, sub_self, max_self]
  unfold coveredMeters CalibrationDatabase.begunRows
  rw [List.map_append, List.sum_append, List.map_singleton, List.sum_singleton, hnew, add_zero]
  change ((List.map _ db.calibrations).map _).sum ≤ _
  rw [List.map_map]
  refine List.sum_le_sum fun row _ => ?_
  rw [Function.comp_apply]
  split
  · refine le_trans ?_ row.coveredMeters_nonneg
    unfold FuelCalibration.coveredMeters
    split
    · exact le_rfl
    · exact le_rfl
  · exact le_rfl

/-! ### Runs -/

omit [IsStrictOrderedRing K] in
/-- At most one calibration of a device is under way. -/
theorem length_filter_activeOf_le {rows : List (FuelCalibration K)}
    (hone : ∀ row ∈ rows, ∀ row' ∈ rows, row.status = .active → row'.status = .active →
      row.imei = row'.imei → row = row')
    (hnodup : UniqueOn FuelCalibration.id rows) :
    (rows.filter (FuelCalibration.activeOf imei)).length ≤ 1 := by
  have hrows : (rows.filter (FuelCalibration.activeOf imei)).Nodup :=
    (List.Nodup.of_map _ hnodup).filter _
  have hactive : ∀ row ∈ rows.filter (FuelCalibration.activeOf imei),
      row ∈ rows ∧ row.imei = imei ∧ row.status = .active := by
    intro row hrow
    obtain ⟨hrow, hactive⟩ := List.mem_filter.1 hrow
    exact ⟨hrow, of_decide_eq_true hactive⟩
  cases hfilter : rows.filter (FuelCalibration.activeOf imei) with
  | nil => exact Nat.zero_le 1
  | cons a rest =>
      cases rest with
      | nil => exact le_rfl
      | cons b rest =>
          rw [hfilter] at hrows hactive
          obtain ⟨ha, hai, has⟩ := hactive a List.mem_cons_self
          obtain ⟨hb, hbi, hbs⟩ := hactive b (List.mem_cons_of_mem _ List.mem_cons_self)
          have heq := hone a ha b hb has hbs (hai.trans hbi.symm)
          exact absurd (heq ▸ List.mem_cons_self) (List.nodup_cons.1 hrows).1

variable {distanceMeters} {db₀ : CalibrationDatabase K}
  {transactions : List (Option FuelTransaction)}

/-- **No metre is counted for two calibrations**: what the calibrations of a device have come to
together is no more than the odometer has counted in the run. -/
theorem coveredMeters_afterAll (h₀ : db₀.calibrations = [])
    (transactions : List (Option FuelTransaction)) (imei : String) :
    coveredMeters imei ((db₀.afterAll distanceMeters transactions).distances.totalDistanceMeters
        imei) (db₀.afterAll distanceMeters transactions).calibrations +
      db₀.distances.totalDistanceMeters imei ≤
      (db₀.afterAll distanceMeters transactions).distances.totalDistanceMeters imei := by
  induction transactions using List.reverseRecOn with
  | nil =>
      change coveredMeters imei _ db₀.calibrations + _ ≤ db₀.distances.totalDistanceMeters imei
      rw [h₀]
      exact (zero_add _).le
  | append_singleton transactions transaction ih =>
      rw [CalibrationDatabase.afterAll_concat, CalibrationDatabase.totalDistanceMeters_after]
      set db := db₀.afterAll distanceMeters transactions with hdb
      have hinv : CalibrationInv distanceMeters db₀ (transactions ++ [transaction]) :=
        calibrationInv_afterAll h₀ _
      have hone : ((db.after distanceMeters transaction).calibrations.filter
          (FuelCalibration.activeOf imei)).length ≤ 1 := by
        refine length_filter_activeOf_le ?_ (db.after distanceMeters transaction).calibrations_pkey
        have hactive := hinv.one_active
        rwa [CalibrationDatabase.afterAll_concat] at hactive
      have hrows : coveredMeters imei (db.distances.totalDistanceMeters imei)
            (db.after distanceMeters transaction).calibrations ≤
          coveredMeters imei (db.distances.totalDistanceMeters imei) db.calibrations := by
        rcases db.after_rows distanceMeters transaction with
          ⟨other, startedAt, fuelType, hrows⟩ | ⟨f, hrows, hf⟩
        · rw [hrows]
          exact coveredMeters_begunRows_le other startedAt fuelType
        · rw [hrows, coveredMeters, coveredMeters, List.map_map]
          refine (congrArg List.sum (List.map_congr_left fun row hrow => ?_)).le
          rcases hf row hrow with hsame | hcompleted
          · rw [Function.comp_apply, hsame]
          · exact hcompleted.coveredMeters
      have hadd : coveredMeters imei (db.distances.totalDistanceMeters imei +
            db.acceptedMetersIn distanceMeters imei transaction)
            (db.after distanceMeters transaction).calibrations ≤
          coveredMeters imei (db.distances.totalDistanceMeters imei)
            (db.after distanceMeters transaction).calibrations +
              db.acceptedMetersIn distanceMeters imei transaction :=
        coveredMeters_add_le (db.acceptedMetersIn_nonneg distanceMeters imei transaction) hone
      linarith only [ih, hrows, hadd]

/-- The order of the rows of a device, in a run with the given instants of completions: the one
under way is the last, and completions are in the order of the numbers. -/
structure HistoryInv (imei : String) (times : List ℤ) (rows : List (FuelCalibration K)) : Prop where
  newest : ∀ active ∈ rows, active.imei = imei → active.status = .active →
    ∀ row ∈ rows, row.imei = imei → row.id ≤ active.id
  times : ∀ row ∈ rows, row.imei = imei → row.status = .completed →
    ∀ time ∈ row.completedAt, time ∈ times
  ordered : ∀ row ∈ rows, ∀ row' ∈ rows, row.imei = imei → row'.imei = imei →
    row.status = .completed → row'.status = .completed → row.id < row'.id →
      ∀ time ∈ row.completedAt, ∀ time' ∈ row'.completedAt, time ≤ time'

omit [IsStrictOrderedRing K] in
/-- A calibration begins. -/
theorem HistoryInv.begins {times : List ℤ} (h : HistoryInv imei times db.calibrations)
    (other : String) (startedAt : ℤ) (fuelType : Option String) :
    HistoryInv imei times (db.begunRows other startedAt fuelType) := by
  have hold : ∀ row ∈ db.begunRows other startedAt fuelType, row.imei = imei →
      row.id ≤ db.lastCalibrationId ∧ (∃ old ∈ db.calibrations, old.id = row.id ∧
        old.imei = imei) ∨ other = imei ∧ row.id = db.lastCalibrationId + 1 := by
    intro row hrow himei
    rcases List.mem_append.1 hrow with hrow | hrow
    · obtain ⟨old, hold, rfl⟩ := List.mem_map.1 hrow
      have hid := db.calibrations_id_le old hold
      split at himei
      · next hactive =>
        rw [if_pos hactive]
        exact Or.inl ⟨hid, old, hold, rfl, himei⟩
      · next hactive =>
        rw [if_neg hactive]
        exact Or.inl ⟨hid, old, hold, rfl, himei⟩
    · rw [List.mem_singleton.1 hrow] at himei ⊢
      exact Or.inr ⟨himei, rfl⟩
  have hcompleted : ∀ row ∈ db.begunRows other startedAt fuelType, row.status = .completed →
      row ∈ db.calibrations := by
    intro row hrow hstatus
    rcases CalibrationDatabase.mem_begunRows hrow with ⟨hrow, -⟩ | hinvalid | rfl
    · exact hrow
    · rw [hinvalid] at hstatus
      cases hstatus
    · cases hstatus
  refine ⟨?_, fun row hrow himei hstatus => h.times row (hcompleted row hrow hstatus) himei hstatus,
    fun row hrow row' hrow' himei himei' hstatus hstatus' =>
      h.ordered row (hcompleted row hrow hstatus) row' (hcompleted row' hrow' hstatus') himei
        himei' hstatus hstatus'⟩
  intro active hactive himei hstatus row hrow himei'
  rcases CalibrationDatabase.mem_begunRows hactive with ⟨hmem, hother⟩ | hinvalid | rfl
  · rcases hold row hrow himei' with ⟨-, old, hold, hid, hdevice⟩ | ⟨rfl, -⟩
    · exact hid ▸ h.newest active hmem himei hstatus old hold hdevice
    · exact (hother himei hstatus).elim
  · rw [hinvalid] at hstatus
    cases hstatus
  · rcases hold row hrow himei' with ⟨hle, -⟩ | ⟨-, hid⟩
    · exact hle.trans (Nat.le_succ _)
    · exact hid.le

omit [IsStrictOrderedRing K] in
/-- A calibration is completed, not before any that was completed before. -/
theorem HistoryInv.completes {times : List ℤ} (h : HistoryInv imei times db.calibrations)
    {f : FuelCalibration K → FuelCalibration K}
    (hf : ∀ row ∈ db.calibrations, f row = row ∨ CompletedBy db transaction row (f row))
    (hlate : ∀ time ∈ FuelTransaction.completionTime imei transaction, ∀ time' ∈ times,
      time' ≤ time) :
    HistoryInv imei (times ++ (FuelTransaction.completionTime imei transaction).toList)
      (db.calibrations.map f) := by
  have hkeep : ∀ row ∈ db.calibrations, (f row).id = row.id ∧ (f row).imei = row.imei := by
    intro row hrow
    rcases hf row hrow with hsame | ⟨-, -, -, hid, himei, -⟩
    · rw [hsame]
      exact ⟨rfl, rfl⟩
    · exact ⟨hid, himei⟩
  refine ⟨?_, ?_, ?_⟩
  · intro active hactive himei hstatus row hrow himei'
    obtain ⟨active, hmem, rfl⟩ := List.mem_map.1 hactive
    obtain ⟨row, hmem', rfl⟩ := List.mem_map.1 hrow
    rcases hf active hmem with hsame | ⟨-, -, hcompleted, -⟩
    · rw [hsame] at himei hstatus ⊢
      rw [(hkeep row hmem').1]
      exact h.newest active hmem himei hstatus row hmem' ((hkeep row hmem').2.symm.trans himei')
    · rw [hcompleted] at hstatus
      cases hstatus
  · intro row hrow himei hstatus time htime
    obtain ⟨row, hmem, rfl⟩ := List.mem_map.1 hrow
    rcases hf row hmem with hsame | ⟨-, -, -, -, -, -, hcompletedAt⟩
    · rw [hsame] at himei hstatus htime
      exact List.mem_append_left _ (h.times row hmem himei hstatus time htime)
    · rw [hcompletedAt, himei] at htime
      exact List.mem_append_right _ (Option.mem_toList.2 htime)
  · intro row hrow row' hrow' himei himei' hstatus hstatus' hlt time htime time' htime'
    obtain ⟨row, hmem, rfl⟩ := List.mem_map.1 hrow
    obtain ⟨row', hmem', rfl⟩ := List.mem_map.1 hrow'
    rw [(hkeep row hmem).1, (hkeep row' hmem').1] at hlt
    rcases hf row hmem with hsame | ⟨-, hactive, -⟩
    · rw [hsame] at himei hstatus htime
      rcases hf row' hmem' with hsame' | ⟨-, -, -, -, -, -, hcompletedAt⟩
      · rw [hsame'] at himei' hstatus' htime'
        exact h.ordered row hmem row' hmem' himei himei' hstatus hstatus' hlt time htime time'
          htime'
      · rw [hcompletedAt, himei'] at htime'
        exact hlate time' htime' time (h.times row hmem himei hstatus time htime)
    · -- the one that was under way is not older than any
      have hdevice := (hkeep row hmem).2.symm.trans himei
      have hdevice' := (hkeep row' hmem').2.symm.trans himei'
      have hle := h.newest row hmem hdevice hactive row' hmem' hdevice'
      omega

/-- The order of the rows in every run whose completions are in the order of the clock. -/
theorem historyInv_afterAll (h₀ : db₀.calibrations = [])
    (hclock : (completionTimes imei transactions).Pairwise (· ≤ ·)) :
    HistoryInv imei (completionTimes imei transactions)
      (db₀.afterAll distanceMeters transactions).calibrations := by
  induction transactions using List.reverseRecOn with
  | nil =>
      have hempty : ∀ row, row ∉ (db₀.afterAll distanceMeters []).calibrations := by
        intro row hrow
        change row ∈ db₀.calibrations at hrow
        rw [h₀] at hrow
        cases hrow
      exact ⟨fun row hrow => (hempty row hrow).elim, fun row hrow => (hempty row hrow).elim,
        fun row hrow => (hempty row hrow).elim⟩
  | append_singleton transactions transaction ih =>
      have htimes : completionTimes imei (transactions ++ [transaction]) =
          completionTimes imei transactions ++
            (FuelTransaction.completionTime imei transaction).toList := by
        rw [completionTimes, List.filterMap_append]
        cases htime : FuelTransaction.completionTime imei transaction with
        | none => simp [completionTimes, htime]
        | some time => simp [completionTimes, htime]
      rw [htimes, List.pairwise_append] at hclock
      obtain ⟨hclock, -, hlate⟩ := hclock
      rw [CalibrationDatabase.afterAll_concat, htimes]
      rcases (db₀.afterAll distanceMeters transactions).after_rows distanceMeters transaction with
        ⟨other, startedAt, fuelType, hrows⟩ | ⟨f, hrows, hf⟩
      · rw [hrows]
        have hbegun := (ih hclock).begins other startedAt fuelType
        exact ⟨hbegun.newest, fun row hrow himei hstatus time htime =>
          List.mem_append_left _ (hbegun.times row hrow himei hstatus time htime), hbegun.ordered⟩
      · rw [hrows]
        refine (ih hclock).completes hf fun time htime time' htime' => ?_
        exact hlate time' htime' time (Option.mem_toList.2 htime)

end Steps

/-! ### Reading the page -/

section Reading

variable {K : Type} [Field K] [LinearOrder K] {imei : String} {db : CalibrationDatabase K}

/-- The completed rows of a device, as rows. -/
theorem map_val_completedCalibrations :
    (db.completedCalibrations imei).map Subtype.val =
      db.calibrations.filter fun row => row.imei = imei ∧ row.status = .completed := by
  unfold CalibrationDatabase.completedCalibrations
  induction db.calibrations with
  | nil => rfl
  | cons row rows ih =>
      rw [List.filterMap_cons, List.filter_cons, ← ih, FuelCalibration.asCompleted]
      by_cases hstatus : row.status = .completed
      · by_cases himei : row.imei = imei
        · simp [hstatus, himei]
        · simp [hstatus, himei]
      · simp [hstatus]

theorem mem_completedCalibrations {row : CompletedCalibration K} :
    row ∈ db.completedCalibrations imei ↔ row.1 ∈ db.calibrations ∧ row.1.imei = imei := by
  have hmem : row ∈ db.completedCalibrations imei ↔
      row.1 ∈ (db.completedCalibrations imei).map Subtype.val :=
    (List.mem_map_of_injective Subtype.val_injective).symm
  rw [hmem, map_val_completedCalibrations, List.mem_filter]
  simp [row.2]

theorem completedAt_mem (row : CompletedCalibration K) : row.completedAt ∈ row.1.completedAt :=
  Option.get_mem _

theorem distanceMeters_eq (row : CompletedCalibration K) :
    row.1.distanceMeters = some row.distanceMeters := (Option.some_get _).symm

theorem distanceMeters_nonneg (row : CompletedCalibration K) : 0 ≤ row.distanceMeters :=
  row.1.distance_non_negative _ (distanceMeters_eq row)

/-- The completed rows of a device from the newest to the oldest. -/
def newestCalibrations (db : CalibrationDatabase K) (imei : String) :
    List (CompletedCalibration K) :=
  (db.completedCalibrations imei).mergeSort CompletedCalibration.newestFirst

theorem newestCalibrations_perm :
    (newestCalibrations db imei).Perm (db.completedCalibrations imei) :=
  List.mergeSort_perm _ _

theorem pairwise_newestFirst :
    (newestCalibrations db imei).Pairwise fun a b => a.newestFirst b = true := by
  refine List.pairwise_mergeSort ?_ ?_ _
  · intro a b c hab hbc
    have hab := of_decide_eq_true hab
    have hbc := of_decide_eq_true hbc
    refine decide_eq_true ?_
    omega
  · intro a b
    refine Bool.or_eq_true_iff.2 ?_
    rcases lt_trichotomy a.completedAt b.completedAt with hlt | heq | hlt
    · exact Or.inr (decide_eq_true (Or.inl hlt))
    · rcases le_total a.1.id b.1.id with hle | hle
      · exact Or.inr (decide_eq_true (Or.inr ⟨heq.symm, hle⟩))
      · exact Or.inl (decide_eq_true (Or.inr ⟨heq, hle⟩))
    · exact Or.inl (decide_eq_true (Or.inl hlt))

/-- When completions are in the order of the numbers, the newest have the highest numbers. -/
theorem pairwise_id_newestCalibrations {times : List ℤ}
    (h : HistoryInv imei times db.calibrations) :
    (newestCalibrations db imei).Pairwise fun a b => b.1.id < a.1.id := by
  have hids : (newestCalibrations db imei).Pairwise fun a b => a.1.id ≠ b.1.id := by
    refine (newestCalibrations_perm.pairwise_iff fun hne => hne.symm).2 ?_
    have hkeys : UniqueOn FuelCalibration.id
        (db.calibrations.filter fun row => row.imei = imei ∧ row.status = .completed) :=
      db.calibrations_pkey.sublist (List.filter_sublist.map _)
    rw [← map_val_completedCalibrations, UniqueOn, List.map_map] at hkeys
    exact List.pairwise_map.1 hkeys
  refine (pairwise_newestFirst.and hids).imp_of_mem ?_
  rintro a b ha hb ⟨hab, hne⟩
  obtain ⟨hamem, haimei⟩ := mem_completedCalibrations.1 (newestCalibrations_perm.subset ha)
  obtain ⟨hbmem, hbimei⟩ := mem_completedCalibrations.1 (newestCalibrations_perm.subset hb)
  refine lt_of_le_of_ne (not_lt.1 fun hlt => ?_) hne.symm
  have htime := h.ordered a.1 hamem b.1 hbmem haimei hbimei a.2 b.2 hlt _ (completedAt_mem a) _
    (completedAt_mem b)
  have hab := of_decide_eq_true hab
  omega

theorem mem_latestActive {row : FuelCalibration K}
    (h : db.latestActiveCalibration imei = some row) :
    row ∈ db.calibrations ∧ row.imei = imei ∧ row.status = .active := by
  have hmem := List.mem_mergeSort.1 (List.mem_of_mem_head? h)
  obtain ⟨hrow, hactive⟩ := List.mem_filter.1 hmem
  exact ⟨hrow, of_decide_eq_true hactive⟩

theorem isSome_latestActive : (db.latestActiveCalibration imei).isSome = db.activeExists imei := by
  rw [Bool.eq_iff_iff, CalibrationDatabase.activeExists_iff]
  constructor
  · intro h
    obtain ⟨row, hrow⟩ := Option.isSome_iff_exists.1 h
    exact ⟨row, mem_latestActive hrow⟩
  · rintro ⟨row, hrow, hactive⟩
    have hmem : row ∈ (db.calibrations.filter fun row => row.imei = imei ∧ row.status = .active) :=
      List.mem_filter.2 ⟨hrow, decide_eq_true hactive⟩
    rw [CalibrationDatabase.latestActiveCalibration, List.isSome_head?, ← List.isEmpty_eq_false_iff]
    exact List.isEmpty_eq_false_iff.2 (List.ne_nil_of_mem (List.mem_mergeSort.2 hmem))

variable [IsStrictOrderedRing K] {reading : K}

omit [IsStrictOrderedRing K] in
/-- What the page shows of a row is what the row has come to. -/
theorem shown_le_coveredMeters (row : FuelCalibration K) :
    (row.asCompleted imei).elim 0 CompletedCalibration.distanceMeters +
        (if row.activeOf imei then max (reading - row.startDistanceMeters) 0 else 0) =
      row.coveredMeters imei reading := by
  unfold FuelCalibration.asCompleted FuelCalibration.activeOf FuelCalibration.coveredMeters
  by_cases hcompleted : row.status = .completed
  · rw [dif_pos hcompleted]
    by_cases himei : row.imei = imei
    · have hmeters := distanceMeters_eq ⟨row, hcompleted⟩
      dsimp only at hmeters
      simp [himei, hcompleted, hmeters]
    · simp [himei]
  · rw [dif_neg hcompleted]
    cases hstatus : row.status with
    | completed => exact absurd hstatus hcompleted
    | active => simp
    | invalidated => simp

/-- What the page shows of a device is what its calibrations have come to, at most. -/
theorem sum_shown_le (db : CalibrationDatabase K) (imei : String) (reading : K) :
    ((db.completedCalibrations imei).map CompletedCalibration.distanceMeters).sum +
        ((db.latestActiveCalibration imei).elim 0 fun row =>
          max (reading - row.startDistanceMeters) 0) ≤
      coveredMeters imei reading db.calibrations := by
  have hcompleted : ∀ rows : List (FuelCalibration K),
      ((rows.filterMap (FuelCalibration.asCompleted imei)).map
        CompletedCalibration.distanceMeters).sum =
      (rows.map fun row =>
        (row.asCompleted imei).elim 0 CompletedCalibration.distanceMeters).sum := by
    intro rows
    induction rows with
    | nil => rfl
    | cons row rows ih =>
        rw [List.filterMap_cons, List.map_cons, List.sum_cons, ← ih]
        cases row.asCompleted imei with
        | none => exact (zero_add _).symm
        | some row => rfl
  have hactive : ((db.latestActiveCalibration imei).elim 0 fun row =>
        max (reading - row.startDistanceMeters) 0) ≤
      (db.calibrations.map fun row => if row.activeOf imei then
        max (reading - row.startDistanceMeters) 0 else 0).sum := by
    have hnonneg : ∀ meters ∈ db.calibrations.map fun row => if row.activeOf imei then
        max (reading - row.startDistanceMeters) 0 else 0, 0 ≤ meters := by
      intro meters hmeters
      obtain ⟨row, -, rfl⟩ := List.mem_map.1 hmeters
      split
      · exact le_max_right _ _
      · exact le_rfl
    cases hlatest : db.latestActiveCalibration imei with
    | none => exact List.sum_nonneg hnonneg
    | some row =>
        obtain ⟨hrow, hactive⟩ := mem_latestActive hlatest
        refine List.single_le_sum hnonneg _ (List.mem_map.2 ⟨row, hrow, ?_⟩)
        exact if_pos (decide_eq_true hactive)
  calc _ ≤ (db.calibrations.map fun row =>
            (row.asCompleted imei).elim 0 CompletedCalibration.distanceMeters).sum +
          (db.calibrations.map fun row => if row.activeOf imei then
            max (reading - row.startDistanceMeters) 0 else 0).sum := by
        rw [CalibrationDatabase.completedCalibrations, hcompleted]
        gcongr
    _ = coveredMeters imei reading db.calibrations := by
        rw [← List.sum_map_add]
        exact congrArg List.sum (List.map_congr_left fun row _ => shown_le_coveredMeters row)

/-- The history leaves out what is older. -/
theorem sum_history_le (db : CalibrationDatabase K) (imei : String) :
    ((db.calibrationHistory imei).map CompletedCalibration.distanceMeters).sum ≤
      ((db.completedCalibrations imei).map CompletedCalibration.distanceMeters).sum := by
  have hperm : (((db.completedCalibrations imei).mergeSort CompletedCalibration.newestFirst).map
        CompletedCalibration.distanceMeters).sum =
      ((db.completedCalibrations imei).map CompletedCalibration.distanceMeters).sum :=
    ((List.mergeSort_perm _ _).map _).sum_eq
  rw [← hperm]
  refine List.Sublist.sum_le_sum ((List.take_sublist _ _).map _) fun meters hmeters => ?_
  obtain ⟨row, -, rfl⟩ := List.mem_map.1 hmeters
  exact distanceMeters_nonneg row

end Reading

/-! ### The page after a run -/

section Shown

variable {K : Type} [Field K] [LinearOrder K] [IsStrictOrderedRing K]
  (distanceMeters : F64 → F64 → F64 → F64 → K) (db₀ : CalibrationDatabase K)
  (transactions : List (Option FuelTransaction)) (imei : String)

/-- A result is about a calibration of the device, from its start to its completion in the run. -/
def FuelCalibrationResultResponse.TellsOf (result : FuelCalibrationResultResponse K) : Prop :=
  ∃ row ∈ (db₀.afterAll distanceMeters transactions).calibrations, row.id = result.id ∧
    row.imei = imei ∧ CompletedIn distanceMeters db₀ transactions row ∧
    row.distanceMeters = some (result.distanceTraveledKm * (metersPerKm : K))

/-- The progress is that of a calibration of the device, and its distance what has been accepted
since it was started. -/
def FuelCalibrationProgressResponse.TellsOf (progress : FuelCalibrationProgressResponse K) : Prop :=
  ∃ row ∈ (db₀.afterAll distanceMeters transactions).calibrations, row.id = progress.id ∧
    row.imei = imei ∧ ∃ before start between, transactions = before ++ start :: between ∧
      Starts distanceMeters (db₀.afterAll distanceMeters before) start row ∧
      progress.distanceTraveledKm * (metersPerKm : K) = ((db₀.afterAll distanceMeters before).after
        distanceMeters start).acceptedMetersOf distanceMeters imei between

/-- What a page shows of a run. -/
structure DeviceFuelCalibrationResponse.ShowsRun (page : DeviceFuelCalibrationResponse K) :
    Prop where
  active_isSome : page.activeCalibration.isSome =
    (db₀.afterAll distanceMeters transactions).activeExists imei
  active_tells : ∀ progress ∈ page.activeCalibration,
    progress.TellsOf distanceMeters db₀ transactions imei
  history_tells : ∀ result ∈ page.history, result.TellsOf distanceMeters db₀ transactions imei
  at_most_twenty : page.history.length ≤ 20
  newest_first : page.history.Pairwise fun a b => b.id < a.id
  active_last : ∀ result ∈ page.history, ∀ progress ∈ page.activeCalibration,
    result.id < progress.id
  nothing_left_out : ∀ row ∈ (db₀.afterAll distanceMeters transactions).calibrations,
    row.imei = imei → row.status = .completed → row.id ∈ page.history.map (·.id) ∨
      page.history.length = 20 ∧ ∀ result ∈ page.history, row.id < result.id
  counted_once : ((page.history.map (·.distanceTraveledKm)).sum +
      page.activeCalibration.elim 0 (·.distanceTraveledKm)) * (metersPerKm : K) ≤
    db₀.acceptedMetersOf distanceMeters imei transactions

variable {distanceMeters db₀ transactions imei}

theorem metersPerKm_ne_zero : (metersPerKm : K) ≠ 0 := by
  rw [cast_metersPerKm]
  norm_num

theorem distanceTraveledKm_mul (row : CompletedCalibration K) :
    row.fuelCalibrationResultFromRow.distanceTraveledKm * (metersPerKm : K) =
      row.distanceMeters := by
  change max row.distanceMeters 0 / (metersPerKm : K) * (metersPerKm : K) = _
  rw [max_eq_left (distanceMeters_nonneg row), div_mul_cancel₀ _ metersPerKm_ne_zero]

/-- A calibration that is under way shows what has been accepted since its start. -/
theorem tells_calibrationProgress (h₀ : db₀.calibrations = []) {row : FuelCalibration K}
    (hrow : row ∈ (db₀.afterAll distanceMeters transactions).calibrations)
    (himei : row.imei = imei) (hactive : row.status = .active)
    (summarize : List RidePoint → RideSummary) (w : ChatWorld) (now : ℤ) :
    ((db₀.afterAll distanceMeters transactions).calibrationProgress summarize w imei now
      row).TellsOf distanceMeters db₀ transactions imei := by
  subst himei
  obtain ⟨before, start, between, rfl, hstarts, hreading⟩ :=
    (calibrationInv_afterAll h₀ transactions).active row hrow hactive
  refine ⟨row, hrow, rfl, rfl, before, start, between, rfl, hstarts, ?_⟩
  rw [← distance_eq_accepted hreading]
  exact div_mul_cancel₀ _ metersPerKm_ne_zero

/-- The distances of the history, in metres. -/
theorem sum_history_mul (rows : List (CompletedCalibration K)) :
    ((rows.map CompletedCalibration.fuelCalibrationResultFromRow).map
        (·.distanceTraveledKm)).sum * (metersPerKm : K) =
      (rows.map CompletedCalibration.distanceMeters).sum := by
  rw [← List.sum_map_mul_right, List.map_map]
  exact congrArg List.sum (List.map_congr_left fun row _ => distanceTraveledKm_mul row)

/-- The distance of the calibration under way, in metres. -/
theorem elim_progress_mul {db : CalibrationDatabase K} {summarize : List RidePoint → RideSummary}
    {w : ChatWorld} {now : ℤ} (active : Option (FuelCalibration K)) :
    (active.map (db.calibrationProgress summarize w imei now)).elim 0 (·.distanceTraveledKm) *
        (metersPerKm : K) =
      active.elim 0 fun row =>
        max (db.distances.totalDistanceMeters imei - row.startDistanceMeters) 0 := by
  cases active with
  | none => exact zero_mul _
  | some row =>
      change max ((db.currentTrackedDistanceMeters imei).1 - _) 0 / (metersPerKm : K) *
        (metersPerKm : K) = _
      rw [div_mul_cancel₀ _ metersPerKm_ne_zero,
        CalibrationDatabase.currentTrackedDistanceMeters_eq]
      rfl

omit [IsStrictOrderedRing K] in
/-- The twenty newest are all there are, or newer than the rest. -/
theorem mem_take_or_newer {db : CalibrationDatabase K} {times : List ℤ}
    (h : HistoryInv imei times db.calibrations) {row : CompletedCalibration K}
    (hrow : row ∈ db.completedCalibrations imei) :
    row ∈ db.calibrationHistory imei ∨ (db.calibrationHistory imei).length = 20 ∧
      ∀ newer ∈ db.calibrationHistory imei, row.1.id < newer.1.id := by
  have hmem : row ∈ newestCalibrations db imei := newestCalibrations_perm.symm.subset hrow
  have hsorted := pairwise_id_newestCalibrations h
  rw [← List.take_append_drop 20 (newestCalibrations db imei)] at hmem hsorted
  rcases List.mem_append.1 hmem with hmem | hmem
  · exact Or.inl hmem
  · have hnewer := (List.pairwise_append.1 hsorted).2.2
    refine Or.inr ⟨?_, fun newer hmem' => hnewer newer hmem' row hmem⟩
    have hlength := List.length_pos_of_mem hmem
    rw [List.length_drop] at hlength
    change (List.take 20 (newestCalibrations db imei)).length = 20
    rw [List.length_take]
    omega

/-- **What the page shows after a run.**  After any sequence of requests and locations for any
devices, of which any may fail, with the completions of the device in the order of the clock: the
page shows progress exactly when a calibration of the device is under way, and its distance is what
was accepted since its start; the history is the at most twenty calibrations of the device that
were completed last, the last one first and all before the one under way, each with what was
accepted from its start to its completion; and all that the page shows together is no more than
what was accepted for the device, so that no metre is counted twice. -/
theorem fuel_page_of_run (devices : List String) (distances : DistanceTables K)
    (hclock : (completionTimes imei transactions).Pairwise (· ≤ ·))
    (hdevice : imei ∈
      ((CalibrationDatabase.fresh devices distances).afterAll distanceMeters transactions).devices)
    (summarize : List RidePoint → RideSummary) (w : ChatWorld) (now : ℤ) :
    ∃ page, ((CalibrationDatabase.fresh devices distances).afterAll distanceMeters
        transactions).loadDeviceFuelCalibrations summarize w imei now = .ok page ∧
      page.ShowsRun distanceMeters (CalibrationDatabase.fresh devices distances) transactions
        imei := by
  set db₀ := CalibrationDatabase.fresh devices distances with hdb₀
  set db := db₀.afterAll distanceMeters transactions with hdb
  have h₀ : db₀.calibrations = [] := rfl
  have hinv : CalibrationInv distanceMeters db₀ transactions := calibrationInv_afterAll h₀ _
  have hhistory : HistoryInv imei (completionTimes imei transactions) db.calibrations :=
    historyInv_afterAll h₀ hclock
  have hmem : ∀ row ∈ db.calibrationHistory imei, row.1 ∈ db.calibrations ∧ row.1.imei = imei :=
    fun row hrow => mem_completedCalibrations.1 (List.mem_mergeSort.1 (List.mem_of_mem_take hrow))
  refine ⟨_, if_neg (not_not.2 hdevice), ?_⟩
  refine ⟨?_, ?_, ?_, ?_, ?_, ?_, ?_, ?_⟩
  · rw [Option.isSome_map]
    exact isSome_latestActive
  · intro progress hprogress
    obtain ⟨row, hlatest, rfl⟩ := Option.map_eq_some_iff.1 hprogress
    obtain ⟨hrow, himei, hactive⟩ := mem_latestActive hlatest
    exact tells_calibrationProgress h₀ hrow himei hactive summarize w now
  · intro result hresult
    obtain ⟨row, hrow, rfl⟩ := List.mem_map.1 hresult
    obtain ⟨hrow, himei⟩ := hmem row hrow
    refine ⟨row.1, hrow, rfl, himei, hinv.completed row.1 hrow row.2, ?_⟩
    rw [distanceTraveledKm_mul]
    exact distanceMeters_eq row
  · exact (List.length_map _).trans_le (List.length_take_le _ _)
  · exact List.pairwise_map.2 ((pairwise_id_newestCalibrations hhistory).sublist
      (List.take_sublist _ _))
  · intro result hresult progress hprogress
    obtain ⟨row, hrow, rfl⟩ := List.mem_map.1 hresult
    obtain ⟨active, hlatest, rfl⟩ := Option.map_eq_some_iff.1 hprogress
    obtain ⟨hrow, himei⟩ := hmem row hrow
    obtain ⟨hactive, hdevice', hstatus⟩ := mem_latestActive hlatest
    refine lt_of_le_of_ne (hhistory.newest active hactive hdevice' hstatus row.1 hrow himei) ?_
    intro hid
    have heq := db.calibrations_pkey.eq_of_key_eq hrow hactive hid
    rw [← heq, row.2] at hstatus
    cases hstatus
  · intro row hrow himei hstatus
    have hcompleted : ⟨row, hstatus⟩ ∈ db.completedCalibrations imei :=
      mem_completedCalibrations.2 ⟨hrow, himei⟩
    rcases mem_take_or_newer hhistory hcompleted with hshown | ⟨hlength, hnewer⟩
    · exact Or.inl (List.mem_map.2 ⟨_, List.mem_map_of_mem hshown, rfl⟩)
    · refine Or.inr ⟨(List.length_map _).trans hlength, fun result hresult => ?_⟩
      obtain ⟨newer, hmem, rfl⟩ := List.mem_map.1 hresult
      exact hnewer newer hmem
  · have hcovered : coveredMeters imei (db.distances.totalDistanceMeters imei) db.calibrations +
        db₀.distances.totalDistanceMeters imei ≤ db.distances.totalDistanceMeters imei :=
      coveredMeters_afterAll h₀ transactions imei
    have htotal : db.distances.totalDistanceMeters imei = db₀.distances.totalDistanceMeters imei +
        db₀.acceptedMetersOf distanceMeters imei transactions :=
      db₀.totalDistanceMeters_afterAll distanceMeters imei transactions
    have hshown := sum_shown_le db imei (db.distances.totalDistanceMeters imei)
    have hle := sum_history_le db imei
    change ((List.map _ (List.map _ (db.calibrationHistory imei))).sum +
      ((db.latestActiveCalibration imei).map _).elim 0 _) * (metersPerKm : K) ≤ _
    rw [add_mul, sum_history_mul, elim_progress_mul]
    linarith only [hcovered, htotal, hshown, hle]

end Shown

section Settled

variable {K : Type} [Field K] [LinearOrder K] [IsStrictOrderedRing K]
  {distanceMeters : F64 → F64 → F64 → F64 → K} {transactions : List (Option FuelTransaction)}
  {imei : String}

omit [IsStrictOrderedRing K] in
/-- A calibration with the highest number is the first of the history. -/
theorem head_calibrationHistory {db : CalibrationDatabase K} {times : List ℤ}
    (h : HistoryInv imei times db.calibrations) {row : CompletedCalibration K}
    (hrow : row ∈ db.completedCalibrations imei)
    (hlast : ∀ other ∈ db.completedCalibrations imei, other.1.id ≤ row.1.id) :
    (db.calibrationHistory imei).head? = some row := by
  have hmem : row ∈ newestCalibrations db imei := newestCalibrations_perm.symm.subset hrow
  have hsorted := pairwise_id_newestCalibrations h
  change (List.take 20 (newestCalibrations db imei)).head? = some row
  cases hlist : newestCalibrations db imei with
  | nil =>
      rw [hlist] at hmem
      cases hmem
  | cons first rest =>
      rw [hlist] at hmem hsorted
      rcases List.mem_cons.1 hmem with rfl | hmem
      · rfl
      · have hlt := (List.pairwise_cons.1 hsorted).1 row hmem
        have hfirst : first ∈ newestCalibrations db imei := hlist ▸ List.mem_cons_self
        exact absurd (hlast first (newestCalibrations_perm.subset hfirst)) (not_le.2 hlt)

omit [IsStrictOrderedRing K] in
/-- The row that a number on the page leads to. -/
theorem activeCalibration_of_latest {db : CalibrationDatabase K} {row : FuelCalibration K}
    (hlatest : db.latestActiveCalibration imei = some row) :
    db.activeCalibration imei row.id = some row := by
  obtain ⟨hrow, himei, hactive⟩ := mem_latestActive hlatest
  have hsome : (db.activeCalibration imei row.id).isSome = true := by
    rw [CalibrationDatabase.activeCalibration, List.find?_isSome]
    exact ⟨row, hrow, decide_eq_true ⟨rfl, himei, hactive⟩⟩
  obtain ⟨found, hfound⟩ := Option.isSome_iff_exists.1 hsome
  have hkey : found.id = row.id ∧ found.imei = imei ∧ found.status = .active := by
    simpa using List.find?_some hfound
  rw [hfound, db.calibrations_pkey.eq_of_key_eq (List.mem_of_find?_eq_some hfound) hrow hkey.1]

omit [IsStrictOrderedRing K] in
/-- What a page has been read from. -/
theorem activeCalibration_of_load {db : CalibrationDatabase K}
    {summarize : List RidePoint → RideSummary} {w : ChatWorld} {now : ℤ}
    {page : DeviceFuelCalibrationResponse K}
    (hpage : db.loadDeviceFuelCalibrations summarize w imei now = .ok page) :
    imei ∈ db.devices ∧ page.activeCalibration =
      (db.latestActiveCalibration imei).map (db.calibrationProgress summarize w imei now) := by
  unfold CalibrationDatabase.loadDeviceFuelCalibrations at hpage
  split at hpage
  · cases hpage
  · next hdevice =>
    cases hpage
    exact ⟨not_not.1 hdevice, rfl⟩

/-- A request to complete the calibration that the page shows, with the metrics it shows. -/
def FuelCalibrationProgressResponse.completeWith (progress : FuelCalibrationProgressResponse K)
    (imei : String) (request : CompleteFuelCalibrationRequest) (completedAt : ℤ) :
    Option FuelTransaction :=
  some (.completeFuelCalibration imei progress.id request completedAt
    ⟨progress.ridingSeconds, progress.engineOnSeconds, progress.tripCount⟩)

/-- The result has the figures of the progress; a riding time is stored as far as it fits. -/
def FuelCalibrationResultResponse.Settles (result : FuelCalibrationResultResponse K)
    (progress : FuelCalibrationProgressResponse K) : Prop :=
  result.id = progress.id ∧ result.startedAt = progress.startedAt ∧
    result.startDistanceKm = progress.startDistanceKm ∧
    result.endDistanceKm = progress.currentDistanceKm ∧
    result.distanceTraveledKm = progress.distanceTraveledKm ∧
    result.ridingSeconds = min progress.ridingSeconds i64Max ∧
    result.engineOnSeconds = progress.engineOnSeconds ∧ result.tripCount = progress.tripCount

omit [Field K] [IsStrictOrderedRing K] in
theorem zero_le_max [Zero K] (meters : K) : 0 ≤ max meters 0 := le_max_right _ _

/-- The way from the start of a calibration to the reading of the odometer. -/
def CalibrationDatabase.distanceSince (db : CalibrationDatabase K) (imei : String)
    (row : FuelCalibration K) : { meters : K // 0 ≤ meters } :=
  ⟨max ((db.currentTrackedDistanceMeters imei).1 - row.startDistanceMeters) 0,
    zero_le_max _⟩

/-- The request goes through. -/
theorem after_completeFuelCalibration {db : CalibrationDatabase K} {row : FuelCalibration K}
    (hlatest : db.latestActiveCalibration imei = some row)
    {request : CompleteFuelCalibrationRequest} {refuel : AcceptedRefuel}
    (hrefuel : validateCompleteFuelCalibration request = .ok refuel) {fuelType : Option String}
    (hfuelType : normalizeOptionalFuelType request.fuelType = .ok fuelType) (completedAt : ℤ)
    (metrics : FuelWindowMetrics) :
    (db.after distanceMeters
        (some (.completeFuelCalibration imei row.id request completedAt metrics))).devices =
      db.devices ∧
    (db.after distanceMeters
        (some (.completeFuelCalibration imei row.id request completedAt metrics))).calibrations =
      db.calibrations.map (CalibrationDatabase.completion imei row.id completedAt
        (db.currentTrackedDistanceMeters imei) (db.distanceSince imei row) refuel
        (fuelType.or row.fuelType) metrics) := by
  have hrun : db.completeFuelCalibration imei row.id request completedAt metrics =
      .ok (db.updateCalibrations (fun other => other.id = row.id ∧ other.imei = imei)
        (fun other => other.completed completedAt (db.currentTrackedDistanceMeters imei)
          (db.distanceSince imei row) refuel (fuelType.or row.fuelType) metrics) fun _ => rfl) := by
    unfold CalibrationDatabase.completeFuelCalibration
    rw [hrefuel, hfuelType, activeCalibration_of_latest hlatest]
    rfl
  simp only [CalibrationDatabase.after, hrun]
  refine ⟨rfl, List.map_congr_left fun other _ => ?_⟩
  simp only [CalibrationDatabase.completion, decide_eq_true_eq]

/-- **A refuel settles what the page showed.**  After any run as above, with the page showing a
calibration under way at an instant: a valid request to complete it at that instant succeeds, and
any page after it shows no calibration under way, and first of all a result with the figures that
were shown as progress. -/
theorem refuel_settles_progress (devices : List String) (distances : DistanceTables K)
    {summarize : List RidePoint → RideSummary} {w : ChatWorld} {now : ℤ}
    (hclock : (completionTimes imei transactions ++ [now]).Pairwise (· ≤ ·))
    {page : DeviceFuelCalibrationResponse K}
    (hpage : ((CalibrationDatabase.fresh devices distances).afterAll distanceMeters
      transactions).loadDeviceFuelCalibrations summarize w imei now = .ok page)
    {progress : FuelCalibrationProgressResponse K}
    (hprogress : page.activeCalibration = some progress)
    {request : CompleteFuelCalibrationRequest} {refuel : AcceptedRefuel}
    (hrefuel : validateCompleteFuelCalibration request = .ok refuel) {fuelType : Option String}
    (hfuelType : normalizeOptionalFuelType request.fuelType = .ok fuelType)
    (summarize' : List RidePoint → RideSummary) (w' : ChatWorld) (now' : ℤ) :
    ∃ page', ((CalibrationDatabase.fresh devices distances).afterAll distanceMeters
        (transactions ++ [progress.completeWith imei request now])).loadDeviceFuelCalibrations
          summarize' w' imei now' = .ok page' ∧
      page'.activeCalibration = none ∧
      ∃ result, page'.latestResult = some result ∧ result.completedAt = now ∧
        result.Settles progress := by
  have h₀ : (CalibrationDatabase.fresh devices distances).calibrations = [] := rfl
  obtain ⟨hdevice, hactive⟩ := activeCalibration_of_load hpage
  rw [hactive] at hprogress
  obtain ⟨row, hlatest, rfl⟩ := Option.map_eq_some_iff.1 hprogress
  obtain ⟨hrow, himei, hstatus⟩ := mem_latestActive hlatest
  set db := (CalibrationDatabase.fresh devices distances).afterAll distanceMeters transactions
    with hdb
  set metrics := fetchFuelWindowMetrics summarize w imei row.startedAt now with hmetrics
  set transaction : Option FuelTransaction :=
    some (.completeFuelCalibration imei row.id request now metrics) with htransaction
  obtain ⟨hdevices, hrows⟩ : (db.after distanceMeters transaction).devices = db.devices ∧
      (db.after distanceMeters transaction).calibrations = db.calibrations.map
        (CalibrationDatabase.completion imei row.id now (db.currentTrackedDistanceMeters imei)
          (db.distanceSince imei row) refuel (fuelType.or row.fuelType) metrics) :=
    after_completeFuelCalibration hlatest hrefuel hfuelType now metrics
  have htimes : completionTimes imei (transactions ++ [transaction]) =
      completionTimes imei transactions ++ [now] := by
    simp [completionTimes, htransaction, FuelTransaction.completionTime]
  have hafter : (CalibrationDatabase.fresh devices distances).afterAll distanceMeters
      (transactions ++ [transaction]) = db.after distanceMeters transaction :=
    CalibrationDatabase.afterAll_concat transaction
  have hhistory : HistoryInv imei (completionTimes imei transactions) db.calibrations :=
    historyInv_afterAll h₀ (List.pairwise_append.1 hclock).1
  have hhistory' : HistoryInv imei (completionTimes imei (transactions ++ [transaction]))
      (db.after distanceMeters transaction).calibrations := by
    rw [← hafter]
    exact historyInv_afterAll h₀ (htimes ▸ hclock)
  have hinv : CalibrationInv distanceMeters (CalibrationDatabase.fresh devices distances)
      transactions := calibrationInv_afterAll h₀ transactions
  -- the row that is settled, and the others
  set settled := row.completed now (db.currentTrackedDistanceMeters imei)
    (db.distanceSince imei row) refuel (fuelType.or row.fuelType) metrics with hsettled
  have hcases : ∀ other ∈ (db.after distanceMeters transaction).calibrations,
      other = settled ∨ other ∈ db.calibrations ∧ other ≠ row := by
    intro other hother
    rw [hrows] at hother
    obtain ⟨old, hold, rfl⟩ := List.mem_map.1 hother
    rcases CalibrationDatabase.completion_cases hrow himei hold now
      (db.currentTrackedDistanceMeters imei) (db.distanceSince imei row) refuel
      (fuelType.or row.fuelType) metrics with ⟨-, heq⟩ | ⟨hne, heq⟩
    · exact Or.inl heq
    · rw [heq]
      exact Or.inr ⟨hold, hne⟩
  have hmem : settled ∈ (db.after distanceMeters transaction).calibrations := by
    rw [hrows]
    exact List.mem_map.2 ⟨row, hrow, if_pos ⟨rfl, himei⟩⟩
  have hnone : (db.after distanceMeters transaction).latestActiveCalibration imei = none := by
    cases hlatest' : (db.after distanceMeters transaction).latestActiveCalibration imei with
    | none => rfl
    | some other =>
        obtain ⟨hother, hdevice', hstatus'⟩ := mem_latestActive hlatest'
        rcases hcases other hother with rfl | ⟨hold, hne⟩
        · cases hstatus'
        · exact absurd (hinv.one_active other hold row hrow hstatus' hstatus
            (hdevice'.trans himei.symm)) hne
  have hfirst : ((db.after distanceMeters transaction).calibrationHistory imei).head? =
      some ⟨settled, rfl⟩ := by
    refine head_calibrationHistory hhistory' (mem_completedCalibrations.2 ⟨hmem, himei⟩) ?_
    intro other hother
    obtain ⟨hother, hdevice'⟩ := mem_completedCalibrations.1 hother
    rcases hcases other.1 hother with heq | ⟨hold, -⟩
    · rw [heq]
    · exact hhistory.newest row hrow himei hstatus other.1 hold hdevice'
  rw [show FuelCalibrationProgressResponse.completeWith _ imei request now = transaction from rfl,
    hafter]
  refine ⟨_, if_neg (not_not.2 (hdevices ▸ hdevice)), ?_, ?_⟩
  · rw [hnone]
    rfl
  · refine ⟨_, (List.head?_map ..).trans (congrArg _ hfirst), rfl, rfl, rfl, rfl, rfl, ?_, rfl, rfl,
      rfl⟩
    change max (db.distanceSince imei row).1 0 / (metersPerKm : K) = _
    rw [max_eq_left (db.distanceSince imei row).2]
    rfl

end Settled

/-- After the second refuel another calibration is started, and a location counts. -/
def thirdRefuelAhead : List (Option FuelTransaction) :=
  twoRefuels ++
    [some (.startFuelCalibration "866221070478388" ⟨none⟩ 21),
      some (.persistLocation "866221070478388"
        ⟨3, 20000001200, .finite true 0, .finite false 0, 30⟩)]

def withoutRides : ChatWorld where
  now := 0
  devices := []
  deviceLocations := []
  deviceHeartbeats := []
  telegramUsers := []
  telegramSubscriptions := []
  telegramEngineSessions := []
  telegramBotState := []

/-- The page shows one result and the calibration under way, with a hundred metres each. -/
theorem fuel_page_of_run_thirdRefuelAhead :
    ∃ page : DeviceFuelCalibrationResponse ℚ,
      page.ShowsRun (fun _ _ _ _ => (100 : ℚ))
        (CalibrationDatabase.fresh [] DistanceTables.empty) thirdRefuelAhead "866221070478388" ∧
      page.history.map (fun result => (result.id, result.distanceTraveledKm)) = [(1, 1 / 10)] ∧
      page.activeCalibration.map (fun progress => (progress.id, progress.distanceTraveledKm)) =
        some (2, 1 / 10) := by
  have hdevice : "866221070478388" ∈ ((CalibrationDatabase.fresh [] DistanceTables.empty).afterAll
      (fun _ _ _ _ => (100 : ℚ)) thirdRefuelAhead).devices := by decide +kernel
  have hclock : (completionTimes "866221070478388" thirdRefuelAhead).Pairwise (· ≤ ·) := by
    decide +kernel
  obtain ⟨page, hpage, hshows⟩ := fuel_page_of_run [] DistanceTables.empty hclock hdevice
    (fun _ => { totalDistanceKm := 0, ridingSeconds := 0 }) withoutRides 86400000000
  have hhistory : (((CalibrationDatabase.fresh [] DistanceTables.empty).afterAll
      (fun _ _ _ _ => (100 : ℚ)) thirdRefuelAhead).loadDeviceFuelCalibrations
        (fun _ => { totalDistanceKm := 0, ridingSeconds := 0 }) withoutRides "866221070478388"
        86400000000).toOption.map (fun page =>
          (page.history.map (fun result => (result.id, result.distanceTraveledKm)),
            page.activeCalibration.map fun progress =>
              (progress.id, progress.distanceTraveledKm))) =
      some ([(1, 1 / 10)], some (2, 1 / 10)) := by
    decide +kernel
  rw [hpage] at hhistory
  have hboth := Prod.mk.inj (Option.some.inj hhistory)
  exact ⟨page, hshows, hboth.1, hboth.2⟩

def thirdRefuel : CompleteFuelCalibrationRequest :=
  ⟨.finite false (3 * unitsPerOne), some 30000, none, true, true⟩

/-- The third refuel settles what the page showed before it. -/
theorem refuel_settles_progress_thirdRefuel :
    ∃ progress : FuelCalibrationProgressResponse ℚ, progress.id = 2 ∧
      progress.distanceTraveledKm = 1 / 10 ∧
      ∃ page : DeviceFuelCalibrationResponse ℚ, page.activeCalibration = none ∧
        ∃ result, page.latestResult = some result ∧ result.completedAt = 40 ∧
          result.Settles progress := by
  have hclock : (completionTimes "866221070478388" thirdRefuelAhead ++ [40]).Pairwise (· ≤ ·) := by
    decide +kernel
  have hshown : (((CalibrationDatabase.fresh [] DistanceTables.empty).afterAll
      (fun _ _ _ _ => (100 : ℚ)) thirdRefuelAhead).loadDeviceFuelCalibrations
        (fun _ => { totalDistanceKm := 0, ridingSeconds := 0 }) withoutRides "866221070478388"
        40).toOption.bind (fun page => page.activeCalibration.map fun progress =>
          (progress.id, progress.distanceTraveledKm)) = some (2, 1 / 10) := by
    decide +kernel
  obtain ⟨page, hpage, hshown⟩ := Option.bind_eq_some_iff.1 hshown
  obtain ⟨progress, hprogress, hfigures⟩ := Option.map_eq_some_iff.1 hshown
  obtain ⟨hid, hdistance⟩ := Prod.mk.inj hfigures
  have hvalid : (validateCompleteFuelCalibration thirdRefuel).isOk = true := by decide +kernel
  obtain ⟨refuel, hrefuel⟩ :
      ∃ refuel, validateCompleteFuelCalibration thirdRefuel = .ok refuel := by
    cases hrefuel : validateCompleteFuelCalibration thirdRefuel with
    | error error =>
        rw [hrefuel] at hvalid
        cases hvalid
    | ok refuel => exact ⟨refuel, rfl⟩
  cases hload : ((CalibrationDatabase.fresh [] DistanceTables.empty).afterAll
      (fun _ _ _ _ => (100 : ℚ)) thirdRefuelAhead).loadDeviceFuelCalibrations
        (fun _ => { totalDistanceKm := 0, ridingSeconds := 0 }) withoutRides "866221070478388"
        40 with
  | error error =>
      rw [hload] at hpage
      cases hpage
  | ok shown =>
      rw [hload] at hpage
      obtain rfl : shown = page := Option.some.inj hpage
      obtain ⟨page', -, hnone, hresult⟩ := refuel_settles_progress [] DistanceTables.empty hclock
        hload hprogress hrefuel rfl (fun _ => { totalDistanceKm := 0, ridingSeconds := 0 })
        withoutRides 50
      exact ⟨progress, hid, hdistance, page', hnone, hresult⟩

end Gt06
