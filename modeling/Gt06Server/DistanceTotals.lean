/-
**The odometer and the days.**

The odometer of a device and its daily distances are written by two statements, and the second one
is left out when there is nothing to add.  Whatever is processed in whatever order, and whichever
transactions are rolled back, the odometer is the sum of the days.

Main definitions:

* `Gt06.DistanceTables.totalDistanceMeters`, `Gt06.DistanceTables.dailyDistanceMeters` — what is
  read, zero for a missing row;
* `Gt06.DistanceTables.sumOfDays` — the sum over the days of a device;
* `Gt06.DistanceTransaction` — what may happen to the two tables.

Main results:

* `Gt06.sumOfDays_processLocationDistance` — one location adds the same to both;
* `Gt06.odometer_eq_sumOfDays` — **the odometer is the sum of the days**, and both only grow between
  backfills.
-/

import Gt06Server.ServiceDistance

set_option relaxedAutoImplicit false
set_option autoImplicit false

namespace Gt06

open Binary64 Relational

variable {K : Type} [Field K] [LinearOrder K] [IsStrictOrderedRing K]

/-! ### What is read -/

namespace DistanceTables

variable (tables : DistanceTables K)

/-- `total_distance_meters` of a device, zero without a row. -/
def totalDistanceMeters (imei : String) : K :=
  ((rowAt DistanceOdometer.imei imei tables.odometer).map
    DistanceOdometer.totalDistanceMeters).getD 0

/-- `distance_meters` of a device on a date, zero without a row. -/
def dailyDistanceMeters (imei : String) (date : ℤ) : K :=
  ((rowAt DistanceDaily.key (imei, date) tables.daily).map DistanceDaily.distanceMeters).getD 0

/-- The sum of `distance_meters` over all dates of a device. -/
def sumOfDays (imei : String) : K :=
  ((tables.daily.filter fun row => row.imei = imei).map DistanceDaily.distanceMeters).sum

/-- `ON DELETE SET NULL` of `last_processed_location_id`. -/
def forgetLocation (locationId : ℕ) : DistanceTables K where
  odometer := tables.odometer.map fun row =>
    if row.lastProcessedLocationId = some locationId then
      { row with lastProcessedLocationId := none }
    else row
  daily := tables.daily
  odometer_pkey := tables.odometer_pkey.updateWhere (by intro _; rfl)
  daily_pkey := tables.daily_pkey

end DistanceTables

/-! ### What is read of a device is read off its rows -/

section Rows

variable {tables : DistanceTables K} {imei : String}

omit [IsStrictOrderedRing K]

theorem totalDistanceMeters_rowsOf :
    (tables.rowsOf imei).totalDistanceMeters imei = tables.totalDistanceMeters imei := by
  have hrow : rowAt DistanceOdometer.imei imei (tables.rowsOf imei).odometer =
      rowAt DistanceOdometer.imei imei tables.odometer :=
    rowAt_filter (fun row himei => decide_eq_true himei) tables.odometer
  rw [DistanceTables.totalDistanceMeters, hrow, DistanceTables.totalDistanceMeters]

/-- A row of a day says what the day shows. -/
theorem dailyDistanceMeters_of_mem {row : DistanceDaily K} (h : row ∈ tables.daily) :
    tables.dailyDistanceMeters row.imei row.distanceDate = row.distanceMeters := by
  have hkey := (rowAt_eq_some_iff tables.daily_pkey).2 ⟨h, rfl⟩
  rw [DistanceDaily.key] at hkey
  rw [DistanceTables.dailyDistanceMeters, hkey]
  rfl

theorem dailyDistanceMeters_rowsOf (date : ℤ) :
    (tables.rowsOf imei).dailyDistanceMeters imei date = tables.dailyDistanceMeters imei date := by
  have hrow : rowAt DistanceDaily.key (imei, date) (tables.rowsOf imei).daily =
      rowAt DistanceDaily.key (imei, date) tables.daily :=
    rowAt_filter (fun row hkey => decide_eq_true (Prod.mk.inj hkey).1) tables.daily
  rw [DistanceTables.dailyDistanceMeters, hrow, DistanceTables.dailyDistanceMeters]

theorem sumOfDays_eq :
    tables.sumOfDays imei = ((tables.rowsOf imei).daily.map DistanceDaily.distanceMeters).sum := rfl

end Rows

/-! ### What one location adds -/

section Add

variable {tables : DistanceTables K} {imei other : String}

theorem totalDistanceMeters_upsertOdometer (accepted : { meters : K // 0 ≤ meters })
    (point : DistanceLocationPoint) :
    (tables.upsertOdometer imei accepted point).totalDistanceMeters other =
      tables.totalDistanceMeters other + if imei = other then accepted.1 else 0 := by
  simp only [DistanceTables.totalDistanceMeters, DistanceTables.upsertOdometer]
  rw [rowAt_upsertAt]
  · by_cases himei : imei = other
    · rw [if_pos (by exact himei), if_pos himei]
      cases rowAt DistanceOdometer.imei other tables.odometer with
      | none => simp [odometerRow]
      | some row => simp [odometerRow]
    · rw [if_neg (by exact himei), if_neg himei, add_zero]
  · intro row
    rfl

theorem dailyDistanceMeters_upsertDaily (date day : ℤ) (accepted : { meters : K // 0 ≤ meters }) :
    (tables.upsertDaily imei date accepted).dailyDistanceMeters other day =
      tables.dailyDistanceMeters other day +
        if imei = other ∧ date = day then accepted.1 else 0 := by
  simp only [DistanceTables.dailyDistanceMeters, DistanceTables.upsertDaily]
  rw [rowAt_upsertAt]
  · change ((if (imei, date) = (other, day) then _ else _ : Option (DistanceDaily K)).map
      DistanceDaily.distanceMeters).getD 0 = _
    by_cases hkey : imei = other ∧ date = day
    · rw [if_pos (Prod.ext hkey.1 hkey.2), if_pos hkey]
      cases rowAt DistanceDaily.key (other, day) tables.daily with
      | none => simp [dailyRow]
      | some row => simp [dailyRow]
    · rw [if_neg fun h => hkey ⟨(Prod.mk.inj h).1, (Prod.mk.inj h).2⟩, if_neg hkey, add_zero]
  · intro row
    rfl

theorem sumOfDays_upsertDaily (date : ℤ) (accepted : { meters : K // 0 ≤ meters }) :
    (tables.upsertDaily imei date accepted).sumOfDays other =
      tables.sumOfDays other + if imei = other then accepted.1 else 0 := by
  change ((((tables.upsertDaily imei date accepted).rowsOf other).daily).map
    DistanceDaily.distanceMeters).sum = _
  rw [rowsOf_upsertDaily]
  by_cases himei : imei = other
  · rw [if_pos himei, if_pos himei]
    exact sum_upsertAt (g := DistanceDaily.distanceMeters) fun row _ => rfl
  · rw [if_neg himei, if_neg himei, add_zero]
    rfl

/-- What a location adds: the length of the segment to it, unless it has been processed. -/
theorem totalDistanceMeters_processLocationDistance
    (distanceMeters : F64 → F64 → F64 → F64 → K) (point : DistanceLocationPoint) :
    (processLocationDistance distanceMeters tables imei point).2.totalDistanceMeters other =
      tables.totalDistanceMeters other + if imei = other then
        (processLocationDistance distanceMeters tables imei point).1 else 0 := by
  simp only [processLocationDistance]
  split
  · simp
  · split
    · exact totalDistanceMeters_upsertOdometer _ point
    · exact totalDistanceMeters_upsertOdometer _ point

/-- The days get the same; the statement that is left out would have added nothing. -/
theorem sumOfDays_processLocationDistance (distanceMeters : F64 → F64 → F64 → F64 → K)
    (point : DistanceLocationPoint) :
    (processLocationDistance distanceMeters tables imei point).2.sumOfDays other =
      tables.sumOfDays other + if imei = other then
        (processLocationDistance distanceMeters tables imei point).1 else 0 := by
  simp only [processLocationDistance]
  split
  · simp
  · rename_i hnew
    split
    · exact sumOfDays_upsertDaily _ _
    · rename_i hzero
      rw [acceptedMeters_eq_zero hzero, ite_self, add_zero]
      rfl

theorem processLocationDistance_nonneg (distanceMeters : F64 → F64 → F64 → F64 → K)
    (point : DistanceLocationPoint) :
    0 ≤ (processLocationDistance distanceMeters tables imei point).1 := by
  simp only [processLocationDistance]
  split
  · exact le_rfl
  · split
    · exact Subtype.property _
    · exact Subtype.property _

theorem dailyDistanceMeters_le_process (distanceMeters : F64 → F64 → F64 → F64 → K)
    (point : DistanceLocationPoint) (date : ℤ) :
    tables.dailyDistanceMeters other date ≤
      (processLocationDistance distanceMeters tables imei point).2.dailyDistanceMeters other
        date := by
  simp only [processLocationDistance]
  split
  · exact le_rfl
  · split
    · rw [dailyDistanceMeters_upsertDaily]
      refine le_add_of_nonneg_right ?_
      split
      · exact Subtype.property _
      · exact le_rfl
    · exact le_rfl

end Add

/-! ### Every history -/

/-- A transaction that commits: a location of whatever age, a backfill from points that were read
before, or the removal of a location. -/
inductive DistanceTransaction where
  | processLocationDistance (imei : String) (point : DistanceLocationPoint)
  | backfillDeviceDistance (imei : String) (points : List DistanceLocationPoint)
  | forgetLocation (locationId : ℕ)

/-- The tables after a transaction; `none` is one that fails and is rolled back. -/
def DistanceTables.after (distanceMeters : F64 → F64 → F64 → F64 → K) (tables : DistanceTables K) :
    Option DistanceTransaction → DistanceTables K
  | some (.processLocationDistance imei point) =>
      (Gt06.processLocationDistance distanceMeters tables imei point).2
  | some (.backfillDeviceDistance imei points) => backfillPoints distanceMeters imei points tables
  | some (.forgetLocation locationId) => tables.forgetLocation locationId
  | none => tables

/-- The tables after a sequence of transactions. -/
def DistanceTables.afterAll (distanceMeters : F64 → F64 → F64 → F64 → K)
    (tables : DistanceTables K) (transactions : List (Option DistanceTransaction)) :
    DistanceTables K :=
  transactions.foldl (DistanceTables.after distanceMeters) tables

/-- The odometer of every device is the sum of its days. -/
def Balanced (tables : DistanceTables K) : Prop :=
  ∀ imei, tables.totalDistanceMeters imei = tables.sumOfDays imei

section Histories

variable {distanceMeters : F64 → F64 → F64 → F64 → K} {tables : DistanceTables K}

theorem Balanced.process (h : Balanced tables) (imei : String) (point : DistanceLocationPoint) :
    Balanced (processLocationDistance distanceMeters tables imei point).2 := by
  intro other
  rw [totalDistanceMeters_processLocationDistance, sumOfDays_processLocationDistance, h other]

theorem Balanced.processLocations (h : Balanced tables) (imei : String)
    (points : List DistanceLocationPoint) :
    Balanced (processLocations distanceMeters imei points tables) := by
  induction points generalizing tables with
  | nil => exact h
  | cons point points ih => exact ih (h.process imei point)

omit [IsStrictOrderedRing K] in
/-- Without the rows of a device both sides are zero for it. -/
theorem Balanced.deleteDevice (h : Balanced tables) (imei : String) :
    Balanced (tables.deleteDevice imei) := by
  intro other
  rw [sumOfDays_eq, ← totalDistanceMeters_rowsOf, rowsOf_deleteDevice]
  by_cases himei : imei = other
  · rw [if_pos himei]
    rfl
  · rw [if_neg himei, totalDistanceMeters_rowsOf]
    exact h other

omit [IsStrictOrderedRing K] in
theorem totalDistanceMeters_forgetLocation (locationId : ℕ) (imei : String) :
    (tables.forgetLocation locationId).totalDistanceMeters imei =
      tables.totalDistanceMeters imei := by
  simp only [DistanceTables.totalDistanceMeters, DistanceTables.forgetLocation]
  induction tables.odometer with
  | nil => rfl
  | cons row rows ih =>
      rw [List.map_cons, rowAt_cons, rowAt_cons]
      by_cases hlast : row.lastProcessedLocationId = some locationId
      · by_cases himei : row.imei = imei
        · simp [hlast, himei]
        · simpa [hlast, himei] using ih
      · by_cases himei : row.imei = imei
        · simp [hlast, himei]
        · simpa [hlast, himei] using ih

theorem Balanced.after (h : Balanced tables) (transaction : Option DistanceTransaction) :
    Balanced (tables.after distanceMeters transaction) := by
  cases transaction with
  | none => exact h
  | some transaction =>
      cases transaction with
      | processLocationDistance imei point => exact h.process imei point
      | backfillDeviceDistance imei points =>
          exact (h.deleteDevice imei).processLocations imei points
      | forgetLocation locationId =>
          intro imei
          change (tables.forgetLocation locationId).totalDistanceMeters imei = tables.sumOfDays imei
          rw [totalDistanceMeters_forgetLocation]
          exact h imei

theorem Balanced.afterAll (h : Balanced tables)
    (transactions : List (Option DistanceTransaction)) :
    Balanced (tables.afterAll distanceMeters transactions) := by
  induction transactions generalizing tables with
  | nil => exact h
  | cons transaction transactions ih => exact ih (h.after transaction)

/-- The transaction is not a backfill of the device. -/
def DistanceTransaction.Spares (imei : String) : Option DistanceTransaction → Prop
  | some (.backfillDeviceDistance other _) => other ≠ imei
  | _ => True

/-- The distances of a device do not go down. -/
structure Grows (imei : String) (tables tables' : DistanceTables K) : Prop where
  total : tables.totalDistanceMeters imei ≤ tables'.totalDistanceMeters imei
  daily : ∀ date, tables.dailyDistanceMeters imei date ≤ tables'.dailyDistanceMeters imei date

omit [IsStrictOrderedRing K] in
theorem Grows.trans {imei : String} {tables₁ tables₂ tables₃ : DistanceTables K}
    (h : Grows imei tables₁ tables₂) (h' : Grows imei tables₂ tables₃) :
    Grows imei tables₁ tables₃ :=
  ⟨h.total.trans h'.total, fun date => (h.daily date).trans (h'.daily date)⟩

omit [IsStrictOrderedRing K] in
theorem grows_of_rowsOf {imei : String} {tables' : DistanceTables K}
    (h : tables'.rowsOf imei = tables.rowsOf imei) : Grows imei tables tables' := by
  constructor
  · have htotal : (tables'.rowsOf imei).totalDistanceMeters imei =
        tables'.totalDistanceMeters imei := totalDistanceMeters_rowsOf
    rw [← htotal, h, totalDistanceMeters_rowsOf]
  · intro date
    have hdaily : (tables'.rowsOf imei).dailyDistanceMeters imei date =
        tables'.dailyDistanceMeters imei date := dailyDistanceMeters_rowsOf date
    rw [← hdaily, h, dailyDistanceMeters_rowsOf]

theorem grows_after {imei : String} {transaction : Option DistanceTransaction}
    (hspares : DistanceTransaction.Spares imei transaction) :
    Grows imei tables (tables.after distanceMeters transaction) := by
  cases transaction with
  | none => exact ⟨le_rfl, fun _ => le_rfl⟩
  | some transaction =>
      cases transaction with
      | processLocationDistance other point =>
          refine ⟨?_, dailyDistanceMeters_le_process distanceMeters point⟩
          change _ ≤
            (processLocationDistance distanceMeters tables other point).2.totalDistanceMeters
            imei
          rw [totalDistanceMeters_processLocationDistance]
          refine le_add_of_nonneg_right ?_
          split
          · exact processLocationDistance_nonneg distanceMeters point
          · exact le_rfl
      | backfillDeviceDistance other points =>
          refine grows_of_rowsOf ?_
          change (backfillPoints distanceMeters other points tables).rowsOf imei = _
          rw [rowsOf_backfillPoints, if_neg hspares]
      | forgetLocation locationId =>
          exact ⟨(totalDistanceMeters_forgetLocation locationId imei).ge, fun _ => le_rfl⟩

theorem grows_afterAll {imei : String} {transactions : List (Option DistanceTransaction)}
    (hspares : ∀ transaction ∈ transactions, DistanceTransaction.Spares imei transaction) :
    Grows imei tables (tables.afterAll distanceMeters transactions) := by
  induction transactions generalizing tables with
  | nil => exact ⟨le_rfl, fun _ => le_rfl⟩
  | cons transaction transactions ih =>
      have hstep : Grows imei tables (tables.after distanceMeters transaction) :=
        grows_after (hspares transaction List.mem_cons_self)
      exact hstep.trans (ih fun t ht => hspares t (List.mem_cons_of_mem _ ht))

end Histories

/-- **The odometer is the sum of the days**: after any sequence of locations, backfills, removed
locations and transactions that are rolled back, for any devices, the odometer of every device is
the sum of its daily distances, and as long as no backfill of the device follows, neither the
odometer nor the distance of any day goes down. -/
theorem odometer_eq_sumOfDays (distanceMeters : F64 → F64 → F64 → F64 → K)
    (transactions : List (Option DistanceTransaction)) (imei : String) :
    (DistanceTables.empty.afterAll distanceMeters transactions).totalDistanceMeters imei =
      (DistanceTables.empty.afterAll distanceMeters transactions).sumOfDays imei ∧
    ∀ later, (∀ transaction ∈ later, DistanceTransaction.Spares imei transaction) →
      Grows imei (DistanceTables.empty.afterAll distanceMeters transactions)
        (DistanceTables.empty.afterAll distanceMeters (transactions ++ later)) := by
  have hempty : Balanced (DistanceTables.empty : DistanceTables K) := fun _ => rfl
  refine ⟨hempty.afterAll transactions imei, ?_⟩
  intro later hspares
  rw [DistanceTables.afterAll, DistanceTables.afterAll, List.foldl_append]
  exact grows_afterAll hspares

/-- Two locations of one device, a location that is rolled back, and a backfill of the first. -/
def locationsAndBackfill : List (Option DistanceTransaction) :=
  [some (.processLocationDistance "866221070478388"
      ⟨1, 1500, .finite true 0, .finite false 0, 30⟩),
    some (.processLocationDistance "866221070478388"
      ⟨2, 10000001200, .finite true 0, .finite false 0, 30⟩),
    none,
    some (.backfillDeviceDistance "866221070478388"
      [⟨1, 1500, .finite true 0, .finite false 0, 30⟩])]

theorem odometer_eq_sumOfDays_locationsAndBackfill :
    (DistanceTables.empty.afterAll (fun _ _ _ _ => (100 : ℚ))
        locationsAndBackfill).totalDistanceMeters "866221070478388" =
      (DistanceTables.empty.afterAll (fun _ _ _ _ => (100 : ℚ))
        locationsAndBackfill).sumOfDays "866221070478388" :=
  (odometer_eq_sumOfDays _ locationsAndBackfill _).1

end Gt06
