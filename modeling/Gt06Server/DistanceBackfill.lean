/-
**Live distances and the backfill.**

The odometer and the daily distances of a device are what its locations add up to, one after the
other.  The live path adds each location when it is persisted, with the instant at the precision of
the clock; the backfill deletes the rows and adds the stored locations again.  Both come to the
same, so that the backfill may be run at any time without ingestion, and as often as one likes.

Main definitions:

* `Gt06.DistanceDatabase` — the locations and the distances;
* `Gt06.DistanceDatabase.persistLocation`, `Gt06.DistanceDatabase.backfillDeviceDistance` — the two
  programs;
* `Gt06.DistanceDatabase.step` — the transactions in the order of their commits;
* `Gt06.LiveInv` — the distances are what the stored locations add up to.

Main results:

* `Gt06.backfill_eq_live` — **the backfill changes nothing**, and neither does a location that has
  been processed.
-/

import Gt06Server.Await
import Gt06Server.ServiceDistance

set_option relaxedAutoImplicit false
set_option autoImplicit false

namespace Gt06

open Await Binary64 Relational

/-! ### Locations and distances -/

/-- A row of `device_locations`. -/
structure StoredLocation where
  id : ℕ
  imei : String
  serverReceivedAt : ℤ
  latitude : F64
  longitude : F64
  speedKph : ℤ
  deriving DecidableEq

/-- The point of a row. -/
def StoredLocation.point (row : StoredLocation) : DistanceLocationPoint where
  id := row.id
  serverReceivedAt := readNanos row.serverReceivedAt
  latitude := row.latitude
  longitude := row.longitude
  speedKph := row.speedKph

/-- The row `insert_location` writes for a point. -/
def DistanceLocationPoint.row (imei : String) (point : DistanceLocationPoint) : StoredLocation where
  id := point.id
  imei := imei
  serverReceivedAt := storedMicros point.serverReceivedAt
  latitude := point.latitude
  longitude := point.longitude
  speedKph := point.speedKph

/-- `SELECT … FROM device_locations WHERE imei = $1 ORDER BY id ASC`. -/
def fetchLocations (rows : List StoredLocation) (imei : String) : List DistanceLocationPoint :=
  ((rows.filter fun row => row.imei = imei).mergeSort fun a b => a.id ≤ b.id).map
    StoredLocation.point

variable {K : Type} [Field K] [LinearOrder K] [IsStrictOrderedRing K]

structure DistanceDatabase (K : Type) [Field K] [LinearOrder K] where
  deviceLocations : List StoredLocation
  distances : DistanceTables K

/-- A transaction that commits. -/
inductive DistanceEvent where
  | persistLocation (imei : String) (point : DistanceLocationPoint)
  | backfillDeviceDistance (imei : String)

namespace DistanceDatabase

variable (distanceMeters : F64 → F64 → F64 → F64 → K)

def empty : DistanceDatabase K := ⟨[], DistanceTables.empty⟩

/-- `persist_event` of a location: the row is inserted and the distance processed. -/
def persistLocation (db : DistanceDatabase K) (imei : String) (point : DistanceLocationPoint) :
    DistanceDatabase K where
  deviceLocations := db.deviceLocations ++ [point.row imei]
  distances := (processLocationDistance distanceMeters db.distances imei point).2

def backfillDeviceDistance (db : DistanceDatabase K) (imei : String) : DistanceDatabase K :=
  { db with
    distances := backfillPoints distanceMeters imei (fetchLocations db.deviceLocations imei)
      db.distances }

/-- `backfill_all_device_distances`, and any other sequence of backfills. -/
def backfillDeviceDistances (db : DistanceDatabase K) (imeis : List String) : DistanceDatabase K :=
  imeis.foldl (backfillDeviceDistance distanceMeters) db

/-- The transactions in the order of their commits.  Two transactions for one device wait for each
other at its row in `devices`, so the ids of its locations grow; no two locations share an id. -/
def step (db : DistanceDatabase K) : DistanceEvent → Option (DistanceDatabase K)
  | .persistLocation imei point =>
      if (∀ row ∈ db.deviceLocations, row.id ≠ point.id) ∧
          ∀ row ∈ db.deviceLocations, row.imei = imei → row.id < point.id then
        some (db.persistLocation distanceMeters imei point)
      else none
  | .backfillDeviceDistance imei => some (db.backfillDeviceDistance distanceMeters imei)

end DistanceDatabase

/-! ### The stored locations of a device -/

/-- The ids of the locations of each device grow. -/
def LocationsInOrder (rows : List StoredLocation) : Prop :=
  ∀ imei, (rows.filter fun row => row.imei = imei).Pairwise fun a b => a.id < b.id

section Fetch

variable {rows : List StoredLocation} {imei : String} {point : DistanceLocationPoint}

/-- Locations that are in order are fetched as they are. -/
theorem fetchLocations_eq (h : LocationsInOrder rows) :
    fetchLocations rows imei =
      (rows.filter fun row => row.imei = imei).map StoredLocation.point := by
  rw [fetchLocations, List.mergeSort_of_pairwise]
  exact (h imei).imp fun hlt => by simpa using hlt.le

theorem LocationsInOrder.persist (h : LocationsInOrder rows)
    (hlater : ∀ row ∈ rows, row.imei = imei → row.id < point.id) :
    LocationsInOrder (rows ++ [point.row imei]) := by
  intro other
  rw [List.filter_append, List.pairwise_append]
  refine ⟨h other, ?_, ?_⟩
  · by_cases himei : imei = other
    · simp [himei, DistanceLocationPoint.row]
    · simp [himei, DistanceLocationPoint.row]
  · intro a ha b hb
    obtain ⟨ha, haImei⟩ := List.mem_filter.1 ha
    obtain ⟨hb, hbImei⟩ := List.mem_filter.1 hb
    obtain rfl := List.mem_singleton.1 hb
    have himei : imei = other := of_decide_eq_true hbImei
    exact hlater a ha ((of_decide_eq_true haImei).trans himei.symm)

/-- A new location is fetched last. -/
theorem fetchLocations_persist (h : LocationsInOrder rows)
    (hlater : ∀ row ∈ rows, row.imei = imei → row.id < point.id) (other : String) :
    fetchLocations (rows ++ [point.row imei]) other =
      if imei = other then fetchLocations rows other ++ [point.stored]
      else fetchLocations rows other := by
  rw [fetchLocations_eq (h.persist hlater), fetchLocations_eq h, List.filter_append,
    List.map_append]
  by_cases himei : imei = other
  · simp [himei, DistanceLocationPoint.row, StoredLocation.point, DistanceLocationPoint.stored]
  · simp [himei, DistanceLocationPoint.row]

end Fetch

/-! ### The distances are what the locations add up to -/

/-- The columns of the point before are all null or none is. -/
def CheckpointComplete (tables : DistanceTables K) : Prop :=
  ∀ row ∈ tables.odometer, row.lastProcessedLocationId.isSome → row.lastServerReceivedAt.isSome ∧
    row.lastLatitude.isSome ∧ row.lastLongitude.isSome ∧ row.lastSpeedKph.isSome

/-- The locations of each device are in order, and its distances are what they add up to. -/
structure LiveInv (distanceMeters : F64 → F64 → F64 → F64 → K) (db : DistanceDatabase K) :
    Prop where
  inOrder : LocationsInOrder db.deviceLocations
  addUp : ∀ imei, db.distances.rowsOf imei =
    processLocations distanceMeters imei (fetchLocations db.deviceLocations imei)
      DistanceTables.empty
  complete : CheckpointComplete db.distances

section Live

variable {distanceMeters : F64 → F64 → F64 → F64 → K} {db db' : DistanceDatabase K}

theorem CheckpointComplete.process {tables : DistanceTables K} (h : CheckpointComplete tables)
    (imei : String) (point : DistanceLocationPoint) :
    CheckpointComplete (processLocationDistance distanceMeters tables imei point).2 := by
  have hodometer : ∀ accepted, CheckpointComplete (tables.upsertOdometer imei accepted point) := by
    intro accepted row hrow hsome
    rcases mem_upsertAt hrow with hrow | rfl | ⟨row, hrow, rfl⟩
    · exact h row hrow hsome
    · exact ⟨rfl, rfl, rfl, rfl⟩
    · exact ⟨rfl, rfl, rfl, rfl⟩
  simp only [processLocationDistance]
  split
  · exact h
  · split
    · exact hodometer _
    · exact hodometer _

theorem CheckpointComplete.processLocations {tables : DistanceTables K}
    (h : CheckpointComplete tables) (imei : String) (points : List DistanceLocationPoint) :
    CheckpointComplete (processLocations distanceMeters imei points tables) := by
  induction points generalizing tables with
  | nil => exact h
  | cons point points ih => exact ih (h.process imei point)

/-- One more location is added to what the ones before add up to. -/
theorem LiveInv.persist (h : LiveInv distanceMeters db) {imei : String}
    {point : DistanceLocationPoint}
    (hlater : ∀ row ∈ db.deviceLocations, row.imei = imei → row.id < point.id) :
    LiveInv distanceMeters (db.persistLocation distanceMeters imei point) := by
  refine ⟨h.inOrder.persist hlater, ?_, h.complete.process imei point⟩
  intro other
  change (processLocationDistance distanceMeters db.distances imei point).2.rowsOf other =
    processLocations distanceMeters other
      (fetchLocations (db.deviceLocations ++ [point.row imei]) other) DistanceTables.empty
  rw [rowsOf_processLocationDistance, fetchLocations_persist h.inOrder hlater]
  by_cases himei : imei = other
  · subst himei
    -- live it is processed as it was received, later as it was stored
    rw [if_pos rfl, if_pos rfl, h.addUp imei, processLocations, processLocations,
      List.foldl_append, List.foldl_cons, List.foldl_nil, processLocationDistance_stored]
  · rw [if_neg himei, if_neg himei, h.addUp other]

/-- The backfill leaves each device with the rows it had. -/
theorem LiveInv.rowsOf_backfill (h : LiveInv distanceMeters db) (imei other : String) :
    (db.backfillDeviceDistance distanceMeters imei).distances.rowsOf other =
      db.distances.rowsOf other := by
  change (backfillPoints distanceMeters imei _ db.distances).rowsOf other = _
  rw [rowsOf_backfillPoints]
  split
  · rename_i himei
    rw [← himei, h.addUp imei]
  · rfl

theorem LiveInv.backfill (h : LiveInv distanceMeters db) (imei : String) :
    LiveInv distanceMeters (db.backfillDeviceDistance distanceMeters imei) := by
  refine ⟨h.inOrder, ?_, ?_⟩
  · intro other
    rw [h.rowsOf_backfill imei other]
    exact h.addUp other
  · refine CheckpointComplete.processLocations ?_ imei _
    intro row hrow
    exact h.complete row (List.mem_filter.1 hrow).1

theorem LiveInv.step {event : DistanceEvent} (h : LiveInv distanceMeters db)
    (hstep : db.step distanceMeters event = some db') : LiveInv distanceMeters db' := by
  cases event with
  | persistLocation imei point =>
      simp only [DistanceDatabase.step] at hstep
      split at hstep
      · rename_i hids
        obtain rfl := Option.some.inj hstep
        exact h.persist hids.2
      · exact absurd hstep (by simp)
  | backfillDeviceDistance imei =>
      obtain rfl := Option.some.inj hstep
      exact h.backfill imei

theorem liveInv_empty : LiveInv distanceMeters DistanceDatabase.empty := by
  refine ⟨?_, ?_, ?_⟩
  · intro imei
    exact List.Pairwise.nil
  · intro imei
    have hnone : fetchLocations [] imei = [] := by simp [fetchLocations]
    change DistanceTables.rowsOf DistanceTables.empty imei =
      processLocations distanceMeters imei (fetchLocations [] imei) DistanceTables.empty
    rw [hnone]
    rfl
  · intro row hrow
    exact absurd hrow List.not_mem_nil

theorem LiveInv.rowsOf_backfills (h : LiveInv distanceMeters db) (imeis : List String)
    (other : String) :
    (db.backfillDeviceDistances distanceMeters imeis).distances.rowsOf other =
      db.distances.rowsOf other := by
  induction imeis generalizing db with
  | nil => rfl
  | cons imei imeis ih =>
      rw [← h.rowsOf_backfill imei other]
      exact ih (h.backfill imei)

/-- A location up to the last processed one is passed over. -/
theorem LiveInv.process_processed (h : LiveInv distanceMeters db) {imei : String}
    {point : DistanceLocationPoint} {row : DistanceOdometer K} {last : ℕ}
    (hrow : row ∈ db.distances.odometer) (himei : row.imei = imei)
    (hlast : row.lastProcessedLocationId = some last) (hle : point.id ≤ last) :
    processLocationDistance distanceMeters db.distances imei point = (0, db.distances) := by
  obtain ⟨htime, hlatitude, hlongitude, hspeed⟩ := h.complete row hrow (by rw [hlast]; rfl)
  obtain ⟨time, htime⟩ := Option.isSome_iff_exists.1 htime
  obtain ⟨latitude, hlatitude⟩ := Option.isSome_iff_exists.1 hlatitude
  obtain ⟨longitude, hlongitude⟩ := Option.isSome_iff_exists.1 hlongitude
  obtain ⟨speed, hspeed⟩ := Option.isSome_iff_exists.1 hspeed
  have hread := (rowAt_eq_some_iff db.distances.odometer_pkey).2 ⟨hrow, himei⟩
  have hprevious : db.distances.previousPoint imei =
      some ⟨last, readNanos time, latitude, longitude, speed⟩ := by
    simp [DistanceTables.previousPoint, DistanceOdometer.previousPoint, hread, hlast, htime,
      hlatitude, hlongitude, hspeed]
  rw [processLocationDistance, hprevious]
  simp [hle]

end Live

/-- **The backfill changes nothing**: after any sequence of locations persisted for any devices,
with backfills at any time in between, the odometer row and the daily rows of every device are
those that a backfill leaves, and any number of further backfills leaves the same; and a location
whose id is at most the last processed one of its device counts nothing and changes nothing. -/
theorem backfill_eq_live (distanceMeters : F64 → F64 → F64 → F64 → K) {db : DistanceDatabase K}
    {tr : List (DistanceDatabase K × DistanceEvent)}
    (run : Run (DistanceDatabase.step distanceMeters) DistanceDatabase.empty tr db) :
    (∀ imeis imei, (db.backfillDeviceDistances distanceMeters imeis).distances.rowsOf imei =
      db.distances.rowsOf imei) ∧
    ∀ imei point, ∀ row ∈ db.distances.odometer, row.imei = imei →
      ∀ last ∈ row.lastProcessedLocationId, point.id ≤ last →
        processLocationDistance distanceMeters db.distances imei point = (0, db.distances) := by
  have hinv : LiveInv distanceMeters db :=
    (run.invariant (G := fun _ _ => True) (fun _ _ _ h _ hstep => h.step hstep) liveInv_empty
      fun _ _ => trivial).2
  refine ⟨hinv.rowsOf_backfills, ?_⟩
  intro imei point row hrow himei last hlast hle
  exact hinv.process_processed hrow himei hlast hle

/-- A device sends two locations ten seconds apart. -/
def twoLocations : List DistanceEvent :=
  [.persistLocation "866221070478388" ⟨1, 1500, .finite true 0, .finite false 0, 30⟩,
    .persistLocation "866221070478388" ⟨2, 10000001200, .finite true 0, .finite false 0, 30⟩]

theorem replay_twoLocations :
    (replay (DistanceDatabase.step fun _ _ _ _ => (100 : ℚ)) DistanceDatabase.empty
      twoLocations).any (fun db => decide
        (db.distances.odometer.map DistanceOdometer.totalDistanceMeters = [100])) = true := by
  decide +kernel

theorem backfill_eq_live_twoLocations :
    ∃ tr db, tr.map Prod.snd = twoLocations ∧
      Run (DistanceDatabase.step fun _ _ _ _ => (100 : ℚ)) DistanceDatabase.empty tr db ∧
      db.distances.odometer.map DistanceOdometer.totalDistanceMeters = [100] ∧
      (db.backfillDeviceDistances (fun _ _ _ _ => 100)
        ["866221070478388"]).distances.rowsOf "866221070478388" =
          db.distances.rowsOf "866221070478388" := by
  obtain ⟨tr, db, hes, run, htotal⟩ := run_of_replay_any replay_twoLocations
  exact ⟨tr, db, hes, run, of_decide_eq_true htotal, (backfill_eq_live _ run).1 _ _⟩

end Gt06
