/-
**A milestone keeps its date.**

The service page finds the date of a milestone again at each request, from the kilometres of the
days, and the days go on growing.  What dates a milestone is one location: the one with which the
odometer goes over the thousand.  As long as the locations of a device do not go back to an earlier
day, the page shows the day of that location, and every later page shows the same, whatever is
driven and however often the distances are counted again; a milestone leaves the page only for
twenty newer ones.

Main definitions:

* `Gt06.DistanceDatabase.credited` — the metres of a device in the order of its locations;
* `Gt06.milestoneGoal` — the metres of a milestone, but for the last bit of a number;
* `Gt06.DeviceServiceResponse.Dates` — what a page shows, by the dates of the milestones.

Main results:

* `Gt06.kmBy_dailyDistances` — the days hold what the locations have added;
* `Gt06.credited_of_run` — a run only adds to it;
* `Gt06.milestones_keep_dates` — **a milestone keeps its date**.
-/

import Mathlib
import Gt06Server.DistanceBackfill
import Gt06Server.DistanceBounds
import Gt06Server.RunningTotals
import Gt06Server.ServiceMilestones

set_option relaxedAutoImplicit false
set_option autoImplicit false

namespace Gt06

open Await Binary64 Relational RunningTotals

variable {K : Type} [Field K] [LinearOrder K] [IsStrictOrderedRing K]

/-! ### What the locations have added -/

/-- The metres of a segment, on the day of its later point. -/
def DistanceSegment.entry (segment : DistanceSegment K) : ℤ × K := (segment.date, segment.meters)

/-- The metres of a device in the order of its locations, each on the day it is credited to. -/
def DistanceDatabase.credited (distanceMeters : F64 → F64 → F64 → F64 → K)
    (db : DistanceDatabase K) (imei : String) : List (ℤ × K) :=
  (countedSegments distanceMeters (fetchLocations db.deviceLocations imei)).map
    DistanceSegment.entry

/-- The locations of a device do not go back to an earlier day. -/
def DaysInOrder (rows : List StoredLocation) (imei : String) : Prop :=
  (rows.filter fun row => row.imei = imei).Pairwise fun a b =>
    wibDate a.serverReceivedAt ≤ wibDate b.serverReceivedAt

section Credited

variable {distanceMeters : F64 → F64 → F64 → F64 → K} {db db' : DistanceDatabase K}
  {imei : String}

omit [LinearOrder K] [IsStrictOrderedRing K] in
theorem totalOf_entries (segments : List (DistanceSegment K)) :
    totalOf (segments.map DistanceSegment.entry) = metersOf segments := by
  rw [totalOf, metersOf, List.map_map]
  rfl

omit [Field K] [LinearOrder K] [IsStrictOrderedRing K] in
/-- The entries of a day are the segments of the day. -/
theorem filter_entries (p : ℤ → Bool) (segments : List (DistanceSegment K)) :
    (segments.map DistanceSegment.entry).filter (fun entry => p entry.1) =
      (segments.filter fun segment => p segment.date).map DistanceSegment.entry :=
  List.filter_map

theorem credited_pos {entry : ℤ × K} (h : entry ∈ db.credited distanceMeters imei) :
    0 < entry.2 := by
  obtain ⟨segment, hsegment, rfl⟩ := List.mem_map.1 h
  have hmeters := (accepted_of_mem_countedSegments hsegment).1.five_le_meters
  exact (by norm_num : (0 : K) < 5).trans_le hmeters

omit [IsStrictOrderedRing K] in
/-- The later points of the segments are points, in their order. -/
theorem sublist_segmentsAfter (earlier : DistanceLocationPoint)
    (points : List DistanceLocationPoint) :
    ((segmentsAfter distanceMeters earlier points).map DistanceSegment.later).Sublist points := by
  induction points generalizing earlier with
  | nil => exact List.Sublist.slnil
  | cons later points ih =>
      rw [segmentsAfter, List.map_append]
      cases hsegment : segmentBetween distanceMeters earlier later with
      | none => exact (ih later).cons later
      | some segment =>
          obtain ⟨meters, -, rfl⟩ := Option.map_eq_some_iff.1 hsegment
          exact (ih later).cons_cons later

omit [IsStrictOrderedRing K] in
theorem sublist_countedSegments (points : List DistanceLocationPoint) :
    ((countedSegments distanceMeters points).map DistanceSegment.later).Sublist points := by
  cases points with
  | nil => exact List.Sublist.slnil
  | cons first points => exact (sublist_segmentsAfter first points).cons first

omit [IsStrictOrderedRing K] in
/-- Locations that do not go back are credited to days that do not go back. -/
theorem credited_inOrder (h : LocationsInOrder db.deviceLocations)
    (hdays : DaysInOrder db.deviceLocations imei) :
    (db.credited distanceMeters imei).Pairwise fun a b => a.1 ≤ b.1 := by
  have hpoints : (fetchLocations db.deviceLocations imei).Pairwise fun p q =>
      wibDateOfNanos p.serverReceivedAt ≤ wibDateOfNanos q.serverReceivedAt := by
    rw [fetchLocations_eq h, List.pairwise_map]
    refine hdays.imp fun {a b} hab => ?_
    have hdate : ∀ row : StoredLocation,
        wibDateOfNanos row.point.serverReceivedAt = wibDate row.serverReceivedAt := by
      intro row
      rw [wibDateOfNanos_eq]
      exact congrArg wibDate (storedMicros_readNanos row.serverReceivedAt)
    rwa [hdate, hdate]
  have hlater : ((countedSegments distanceMeters (fetchLocations db.deviceLocations imei)).map
      DistanceSegment.later).Pairwise fun p q =>
        wibDateOfNanos p.serverReceivedAt ≤ wibDateOfNanos q.serverReceivedAt :=
    hpoints.sublist (sublist_countedSegments _)
  rw [DistanceDatabase.credited, List.pairwise_map]
  exact (List.pairwise_map.1 hlater).imp fun hle => hle

/-! ### The days hold what the locations have added -/

omit [IsStrictOrderedRing K] in
/-- The ids of the fetched locations grow. -/
theorem pairwise_fetchLocations (h : LocationsInOrder db.deviceLocations) :
    (fetchLocations db.deviceLocations imei).Pairwise fun p q => p.id < q.id := by
  rw [fetchLocations_eq h, List.pairwise_map]
  exact h imei

/-- The odometer and the days of a device, by its locations. -/
theorem distances_eq_credited (h : LiveInv distanceMeters db) (imei : String) :
    db.distances.totalDistanceMeters imei = totalOf (db.credited distanceMeters imei) ∧
      ∀ date, db.distances.dailyDistanceMeters imei date =
        totalOf ((db.credited distanceMeters imei).filter fun entry => entry.1 = date) := by
  obtain ⟨htotal, hdaily⟩ := @distances_eq_countedSegments K _ _ _ distanceMeters
    DistanceTables.empty imei (fetchLocations db.deviceLocations imei) rfl
    (pairwise_fetchLocations h.inOrder)
  constructor
  · rw [← totalDistanceMeters_rowsOf, h.addUp imei, htotal, DistanceDatabase.credited,
      totalOf_entries]
  · intro date
    rw [← dailyDistanceMeters_rowsOf, h.addUp imei, hdaily, DistanceDatabase.credited,
      filter_entries (fun day => day = date), totalOf_entries]

/-- The odometer of a live state is the sum of its days. -/
theorem balanced_of_live (h : LiveInv distanceMeters db) : Balanced db.distances := by
  intro imei
  have hempty : Balanced (DistanceTables.empty : DistanceTables K) := fun _ => rfl
  have hbalanced := @Balanced.processLocations K _ _ _ distanceMeters _ hempty imei
    (fetchLocations db.deviceLocations imei) imei
  rw [← h.addUp imei, totalDistanceMeters_rowsOf] at hbalanced
  rw [hbalanced, sumOfDays_eq, sumOfDays_eq]
  have hdaily : ((db.distances.rowsOf imei).rowsOf imei).daily =
      (db.distances.rowsOf imei).daily := by
    simp [DistanceTables.rowsOf]
  rw [hdaily]

theorem sum_days_eq_credited (h : LiveInv distanceMeters db) (imei : String) :
    ((dailyDistances db.distances imei).map Prod.snd).sum =
      totalOf (db.credited distanceMeters imei) := by
  rw [sum_dailyDistances, ← balanced_of_live h imei, (distances_eq_credited h imei).1]

/-- A day on which metres are credited has a row. -/
theorem exists_day_of_credited (h : LiveInv distanceMeters db) {entry : ℤ × K}
    (hentry : entry ∈ db.credited distanceMeters imei) :
    ∃ row ∈ db.distances.daily, row.imei = imei ∧ row.distanceDate = entry.1 := by
  have hday := (distances_eq_credited h imei).2 entry.1
  have hpos : 0 < db.distances.dailyDistanceMeters imei entry.1 := by
    rw [hday]
    have hle : entry.2 ≤ totalOf
        ((db.credited distanceMeters imei).filter fun other => other.1 = entry.1) := by
      refine List.single_le_sum (fun meters hmeters => ?_) _ (List.mem_map_of_mem ?_)
      · obtain ⟨other, hother, rfl⟩ := List.mem_map.1 hmeters
        exact (credited_pos (List.mem_of_mem_filter hother)).le
      · exact List.mem_filter.2 ⟨hentry, decide_eq_true rfl⟩
    exact (credited_pos hentry).trans_le hle
  rw [DistanceTables.dailyDistanceMeters] at hpos
  cases hrow : rowAt DistanceDaily.key (imei, entry.1) db.distances.daily with
  | none =>
      rw [hrow] at hpos
      exact absurd hpos (lt_irrefl _)
  | some row =>
      obtain ⟨hmem, hkey⟩ := mem_of_rowAt hrow
      exact ⟨row, hmem, (Prod.mk.inj hkey).1, (Prod.mk.inj hkey).2⟩

/-- **The days hold what the locations have added**, up to every date. -/
theorem kmBy_dailyDistances (h : LiveInv distanceMeters db) (imei : String) (date : ℤ) :
    kmBy (dailyDistances db.distances imei) date =
      totalBy date (db.credited distanceMeters imei) / (metersPerKm : K) := by
  set rows := (db.distances.daily.filter fun row => row.imei = imei).filter
    fun row => row.distanceDate ≤ date with hrows
  have hmem : ∀ row ∈ rows, row ∈ db.distances.daily ∧ row.imei = imei ∧
      row.distanceDate ≤ date := by
    intro row hrow
    obtain ⟨hrow, hdate⟩ := List.mem_filter.1 hrow
    obtain ⟨hrow, himei⟩ := List.mem_filter.1 hrow
    exact ⟨hrow, of_decide_eq_true himei, of_decide_eq_true hdate⟩
  have hkm : ((dailyDistances db.distances imei).filter fun day => day.1 ≤ date).map Prod.snd =
      (((db.distances.daily.filter fun row => row.imei = imei).mergeSort
        fun a b => a.distanceDate ≤ b.distanceDate).filter
          fun row => row.distanceDate ≤ date).map DistanceDaily.distanceMeters := by
    rw [dailyDistances, List.filter_map, List.map_map]
    exact List.map_congr_left fun row _ => max_eq_left row.total_non_negative
  have hsum : (rows.map DistanceDaily.distanceMeters).sum =
      totalBy date (db.credited distanceMeters imei) := by
    have hnodup : (rows.map DistanceDaily.distanceDate).Nodup := by
      have hkeys := ((List.pairwise_map.1 db.distances.daily_pkey).filter
        fun row => row.imei = imei).filter fun row => row.distanceDate ≤ date
      refine List.pairwise_map.2 (hkeys.imp_of_mem fun {a b} ha hb hne hdate => hne ?_)
      exact Prod.ext ((hmem a ha).2.1.trans (hmem b hb).2.1.symm) hdate
    have hentries : ∀ entry ∈ (db.credited distanceMeters imei).filter fun entry =>
        entry.1 ≤ date, entry.1 ∈ rows.map DistanceDaily.distanceDate := by
      intro entry hentry
      obtain ⟨hentry, hle⟩ := List.mem_filter.1 hentry
      obtain ⟨row, hrow, himei, hdate⟩ := exists_day_of_credited h hentry
      refine List.mem_map.2 ⟨row, List.mem_filter.2 ⟨List.mem_filter.2 ⟨hrow, ?_⟩, ?_⟩, hdate⟩
      · exact decide_eq_true himei
      · rwa [hdate]
    rw [totalBy, ← sum_totalOn hnodup hentries, List.map_map]
    refine congrArg List.sum (List.map_congr_left fun row hrow => ?_)
    obtain ⟨hrow, himei, hle⟩ := hmem row hrow
    -- the entries of a day up to the date are those of the day
    have hday : ((db.credited distanceMeters imei).filter fun entry => entry.1 ≤ date).filter
        (fun entry => entry.1 = row.distanceDate) =
        (db.credited distanceMeters imei).filter fun entry => entry.1 = row.distanceDate := by
      rw [List.filter_filter]
      refine List.filter_congr fun entry _ => ?_
      by_cases hdate : entry.1 = row.distanceDate
      · simp [hdate, hle]
      · simp [hdate]
    rw [Function.comp_apply, hday, ← (distances_eq_credited h imei).2, ← himei,
      dailyDistanceMeters_of_mem hrow]
  rw [kmBy, sumKm_eq, hkm, ← hsum]
  exact congrArg (· / (metersPerKm : K))
    (((List.mergeSort_perm _ _).filter _).map _).sum_eq

end Credited

/-! ### A run only adds -/

section Runs

variable {distanceMeters : F64 → F64 → F64 → F64 → K} {db db' : DistanceDatabase K}

theorem liveInv_of_run {tr : List (DistanceDatabase K × DistanceEvent)}
    (run : Run (DistanceDatabase.step distanceMeters) db tr db') (h : LiveInv distanceMeters db) :
    LiveInv distanceMeters db' :=
  (run.invariant (G := fun _ _ => True) (fun _ _ _ h _ hstep => h.step hstep) h
    fun _ _ => trivial).2

omit [IsStrictOrderedRing K] in
theorem segmentsAfter_append (earlier : DistanceLocationPoint)
    (points more : List DistanceLocationPoint) :
    ∃ last, segmentsAfter distanceMeters earlier (points ++ more) =
      segmentsAfter distanceMeters earlier points ++ segmentsAfter distanceMeters last more := by
  induction points generalizing earlier with
  | nil => exact ⟨earlier, rfl⟩
  | cons later points ih =>
      obtain ⟨last, hlast⟩ := ih later
      refine ⟨last, ?_⟩
      rw [List.cons_append, segmentsAfter, segmentsAfter, hlast, List.append_assoc]

omit [IsStrictOrderedRing K] in
/-- The segments before stay as they are. -/
theorem countedSegments_append (points more : List DistanceLocationPoint) :
    ∃ segments, countedSegments distanceMeters (points ++ more) =
      countedSegments distanceMeters points ++ segments := by
  cases points with
  | nil => exact ⟨_, rfl⟩
  | cons first points =>
      obtain ⟨last, hlast⟩ := @segmentsAfter_append K _ _ distanceMeters first points more
      exact ⟨_, hlast⟩

/-- The locations of a device before stay as they are. -/
theorem fetchLocations_of_step {event : DistanceEvent} (h : LiveInv distanceMeters db)
    (hstep : db.step distanceMeters event = some db') (imei : String) :
    ∃ points, fetchLocations db'.deviceLocations imei =
      fetchLocations db.deviceLocations imei ++ points := by
  cases event with
  | persistLocation other point =>
      simp only [DistanceDatabase.step] at hstep
      split at hstep
      · rename_i hids
        obtain rfl := Option.some.inj hstep
        refine ⟨if other = imei then [point.stored] else [], ?_⟩
        change fetchLocations (db.deviceLocations ++ [point.row other]) imei = _
        rw [fetchLocations_persist h.inOrder hids.2]
        split
        · rfl
        · rw [List.append_nil]
      · cases hstep
  | backfillDeviceDistance other =>
      obtain rfl := Option.some.inj hstep
      exact ⟨[], (List.append_nil _).symm⟩

/-- **A run only adds** to what the locations of a device have added. -/
theorem credited_of_run {tr : List (DistanceDatabase K × DistanceEvent)}
    (run : Run (DistanceDatabase.step distanceMeters) db tr db') (h : LiveInv distanceMeters db)
    (imei : String) :
    ∃ more, db'.credited distanceMeters imei = db.credited distanceMeters imei ++ more := by
  have hpoints : ∃ points, fetchLocations db'.deviceLocations imei =
      fetchLocations db.deviceLocations imei ++ points := by
    have hrun := run.invariant (G := fun _ _ => True)
      (I := fun db' => LiveInv distanceMeters db' ∧ ∃ points,
        fetchLocations db'.deviceLocations imei =
          fetchLocations db.deviceLocations imei ++ points) ?_
      ⟨h, [], (List.append_nil _).symm⟩ fun _ _ => trivial
    · exact hrun.2.2
    · rintro db₁ event db₂ ⟨hinv, points, hpoints⟩ - hstep
      obtain ⟨more, hmore⟩ := fetchLocations_of_step hinv hstep imei
      exact ⟨hinv.step hstep, points ++ more, by rw [hmore, hpoints, List.append_assoc]⟩
  obtain ⟨points, hpoints⟩ := hpoints
  obtain ⟨segments, hsegments⟩ := @countedSegments_append K _ _ distanceMeters
    (fetchLocations db.deviceLocations imei) points
  refine ⟨segments.map DistanceSegment.entry, ?_⟩
  rw [DistanceDatabase.credited, hpoints, hsegments, List.map_append, DistanceDatabase.credited]

end Runs

/-! ### The dates of the milestones -/

section Dates

/-- The metres of a milestone, but for the last bit of a number. -/
def milestoneGoal (number : ℤ) : K := (((number * 1000 : ℤ) : K) - epsilon) * (metersPerKm : K)

theorem milestoneGoal_pos {number : ℤ} (h : 1 ≤ number) : 0 < (milestoneGoal number : K) := by
  have hepsilon : (epsilon : K) ≤ 1 := by
    unfold epsilon
    rw [div_le_one (by positivity)]
    exact one_le_pow₀ one_le_two
  have hnumber : (1000 : K) ≤ ((number * 1000 : ℤ) : K) := by
    exact_mod_cast (by omega : (1000 : ℤ) ≤ number * 1000)
  rw [milestoneGoal, cast_metersPerKm]
  exact mul_pos (by linarith) (by norm_num)

variable {distanceMeters : F64 → F64 → F64 → F64 → K} {db db' : DistanceDatabase K}
  {imei : String}

/-- A milestone is reached by the days as it is reached by the locations. -/
theorem reachedBy_dailyDistances (h : LiveInv distanceMeters db) (number : ℤ) :
    reachedBy (dailyDistances db.distances imei) number =
      {date | milestoneGoal number ≤ totalBy date (db.credited distanceMeters imei)} := by
  ext date
  change _ ≤ kmBy _ date + epsilon ↔ _
  have hpos : 0 < (metersPerKm : K) := by
    rw [cast_metersPerKm]
    norm_num
  rw [kmBy_dailyDistances h, ← sub_le_iff_le_add, le_div_iff₀ hpos]
  rfl

/-- The day of the location with which a milestone is reached is its date. -/
theorem reachedOn_eq (h : LiveInv distanceMeters db)
    (hdays : (db.credited distanceMeters imei).Pairwise fun a b => a.1 ≤ b.1) {number date : ℤ}
    (hnumber : 1 ≤ number)
    (hdate : reachedAt (milestoneGoal number) (db.credited distanceMeters imei) = some date) :
    reachedOn (dailyDistances db.distances imei) number = date := by
  have hleast := isLeast_reachedAt hdays (fun _ hentry => (credited_pos hentry).le)
    (milestoneGoal_pos hnumber) hdate
  rw [reachedOn, reachedBy_dailyDistances h]
  exact hleast.csInf_eq

variable [FloorRing K] (formatDate : ℤ → String)

/-- What a page shows of the metres of a device, with the dates of its milestones. -/
structure DeviceServiceResponse.Dates (page : DeviceServiceResponse K) (credited : List (ℤ × K))
    (completed : ℕ) (date : ℤ → ℤ) : Prop where
  total : page.totalTrackedDistanceKm * (metersPerKm : K) = totalOf credited
  next : page.nextMilestoneKm = ((completed : ℤ) + 1) * 1000
  milestones : page.milestones = (List.range (min 20 completed)).map fun i : ℕ =>
    serviceMilestone formatDate (completed - i) (date (completed - i))
  reached : ∀ number : ℤ, 1 ≤ number → number ≤ completed →
    reachedAt (milestoneGoal number) credited = some (date number)

variable {formatDate}

omit [IsStrictOrderedRing K] [FloorRing K] in
/-- Dates are the same dates up to the completed milestones. -/
theorem DeviceServiceResponse.Dates.congr {page : DeviceServiceResponse K}
    {credited : List (ℤ × K)} {completed : ℕ} {date date' : ℤ → ℤ}
    (h : page.Dates formatDate credited completed date)
    (hdate : ∀ number : ℤ, 1 ≤ number → number ≤ completed → date' number = date number) :
    page.Dates formatDate credited completed date' where
  total := h.total
  next := h.next
  milestones := by
    rw [h.milestones]
    refine List.map_congr_left fun i hi => ?_
    have hlt := List.mem_range.1 hi
    rw [hdate _ (by omega) (by omega)]
  reached := by
    intro number hpos hle
    rw [hdate number hpos hle]
    exact h.reached number hpos hle

variable (formatDate) in
/-- The page of a live state. -/
theorem exists_dates (h : LiveInv distanceMeters db)
    (hdays : (db.credited distanceMeters imei).Pairwise fun a b => a.1 ≤ b.1)
    {devices : List String} (hdevice : imei ∈ devices) (now : ℤ) :
    ∃ page completed, getDeviceService formatDate devices db.distances imei now = .ok page ∧
      ((completed : ℕ) : ℤ) = ⌊totalOf (db.credited distanceMeters imei) / 1000000⌋ ∧
      page.Dates formatDate (db.credited distanceMeters imei) completed
        (reachedOn (dailyDistances db.distances imei)) := by
  obtain ⟨response, hok, htotal, hnext, -, -, -, hmilestones⟩ :=
    getDeviceService_eq formatDate db.distances now hdevice
  have hareDays := areDays_dailyDistances db.distances imei
  have hodometer := (distances_eq_credited h imei).1
  have hsum := sum_days_eq_credited h imei
  obtain ⟨completed, hcompleted⟩ := Int.eq_ofNat_of_zero_le (completed_nonneg hareDays)
  rw [hsum] at hcompleted
  rw [hodometer] at htotal hnext hmilestones
  rw [hcompleted] at hnext hmilestones
  refine ⟨response, completed, hok, hcompleted.symm, ?_, hnext, ?_, ?_⟩
  · rw [htotal, cast_metersPerKm, div_mul_cancel₀ _ (by norm_num)]
  · rw [hmilestones]
    exact buildServiceMilestones_eq hareDays (by rw [hsum, hcompleted])
  · intro number hpos hle
    have hreached : ∃ date, reachedAt (milestoneGoal number) (db.credited distanceMeters imei) =
        some date := by
      refine exists_reachedAt (milestoneGoal_pos hpos) ?_
      have hfloor := Int.floor_le (totalOf (db.credited distanceMeters imei) / 1000000)
      rw [hcompleted] at hfloor
      have hnumber : ((number : ℤ) : K) ≤ (((completed : ℕ) : ℤ) : K) := Int.cast_le.2 hle
      have hepsilon : 0 < (epsilon : K) := epsilon_pos
      rw [milestoneGoal, cast_metersPerKm]
      push_cast at hfloor hnumber ⊢
      linarith
    obtain ⟨date, hdate⟩ := hreached
    rw [hdate, reachedOn_eq h hdays hpos hdate]

variable (formatDate) in
/-- **A milestone keeps its date.**  After any sequence of locations persisted for any devices, with
backfills at any time in between, and after any more of them, with the locations of the device in
the order of their days: the page before and the page after show the milestones with the same
dates, each the day of the location with which the odometer has come to it, but for the last bit of
a number, no later milestone on an earlier day.  What the page before shows is on the page after,
unless twenty newer ones have come. -/
theorem milestones_keep_dates {tr tr' : List (DistanceDatabase K × DistanceEvent)}
    (run : Run (DistanceDatabase.step distanceMeters) DistanceDatabase.empty tr db)
    (run' : Run (DistanceDatabase.step distanceMeters) db tr' db')
    (hdays : DaysInOrder db'.deviceLocations imei) {devices devices' : List String}
    (hdevice : imei ∈ devices) (hdevice' : imei ∈ devices') (now now' : ℤ) :
    ∃ page page' completed completed', ∃ date : ℤ → ℤ,
      getDeviceService formatDate devices db.distances imei now = .ok page ∧
      getDeviceService formatDate devices' db'.distances imei now' = .ok page' ∧
      page.Dates formatDate (db.credited distanceMeters imei) completed date ∧
      page'.Dates formatDate (db'.credited distanceMeters imei) completed' date ∧
      completed ≤ completed' ∧
      (∀ m n : ℤ, 1 ≤ m → m ≤ n → n ≤ completed' → date m ≤ date n) ∧
      ∀ milestone ∈ page.milestones, (completed' : ℤ) - 20 < milestone.milestoneNumber →
        milestone ∈ page'.milestones := by
  have hlive : LiveInv distanceMeters db := liveInv_of_run run liveInv_empty
  have hlive' : LiveInv distanceMeters db' := liveInv_of_run run' hlive
  obtain ⟨more, hmore⟩ := credited_of_run run' hlive imei
  have hdays' : (db'.credited distanceMeters imei).Pairwise fun a b => a.1 ≤ b.1 :=
    credited_inOrder hlive'.inOrder hdays
  have hsorted : (db.credited distanceMeters imei).Pairwise fun a b => a.1 ≤ b.1 :=
    (List.pairwise_append.1 (hmore ▸ hdays')).1
  obtain ⟨page, completed, hok, hcompleted, hpage⟩ :=
    exists_dates formatDate hlive hsorted hdevice now
  obtain ⟨page', completed', hok', hcompleted', hpage'⟩ :=
    exists_dates formatDate hlive' hdays' hdevice' now'
  set date := reachedOn (dailyDistances db'.distances imei) with hdate
  have hle : completed ≤ completed' := by
    have htotal : totalOf (db.credited distanceMeters imei) ≤
        totalOf (db'.credited distanceMeters imei) := by
      rw [hmore, totalOf_append]
      refine le_add_of_nonneg_right (List.sum_nonneg fun meters hmeters => ?_)
      obtain ⟨entry, hentry, rfl⟩ := List.mem_map.1 hmeters
      exact (credited_pos (hmore ▸ List.mem_append_right _ hentry)).le
    have hfloor : ⌊totalOf (db.credited distanceMeters imei) / 1000000⌋ ≤
        ⌊totalOf (db'.credited distanceMeters imei) / 1000000⌋ :=
      Int.floor_le_floor (div_le_div_of_nonneg_right htotal (by norm_num))
    omega
  -- what is reached stays reached on its day
  have hkept : ∀ number : ℤ, 1 ≤ number → number ≤ completed →
      date number = reachedOn (dailyDistances db.distances imei) number := by
    intro number hpos hnumber
    refine reachedOn_eq hlive' hdays' hpos ?_
    rw [hmore]
    exact reachedAt_append (hpage.reached number hpos hnumber) more
  have hpageKept := hpage.congr hkept
  refine ⟨page, page', completed, completed', date, hok, hok', hpageKept, hpage', hle, ?_, ?_⟩
  · intro m n hpos hmn hn
    have hareDays := areDays_dailyDistances db'.distances imei
    rw [← sum_days_eq_credited hlive' imei] at hcompleted'
    exact reachedOn_mono hareDays hcompleted' hpos hmn hn
  · intro milestone hmilestone hnumber
    rw [hpageKept.milestones] at hmilestone
    obtain ⟨i, hi, rfl⟩ := List.mem_map.1 hmilestone
    have hlt := List.mem_range.1 hi
    have hnumber : (completed' : ℤ) - 20 < completed - i := hnumber
    rw [hpage'.milestones]
    refine List.mem_map.2 ⟨completed' - (completed - i), List.mem_range.2 (by omega), ?_⟩
    have hback : ((completed' : ℤ) - ((completed' - (completed - i) : ℕ) : ℤ)) = completed - i := by
      omega
    rw [hback]

end Dates

/-- Seventy locations, each fourteen and a half kilometres from the one before, up to midnight. -/
def untilMidnight : List DistanceEvent :=
  (List.range 70).map fun i => .persistLocation "866221070478388"
    ⟨i + 1, (41180 + 290 * i) * 1000000000, .finite true 0, .finite false 0, 30⟩

/-- One more, after midnight. -/
def afterMidnight : List DistanceEvent :=
  [.persistLocation "866221070478388"
    ⟨71, 61480 * 1000000000, .finite true 0, .finite false 0, 30⟩]

theorem replay_untilMidnight :
    (replay (DistanceDatabase.step fun _ _ _ _ => (14500 : ℚ)) DistanceDatabase.empty
      untilMidnight).any (fun db =>
        (replay (DistanceDatabase.step fun _ _ _ _ => (14500 : ℚ)) db afterMidnight).any fun db' =>
          decide ((db'.deviceLocations.filter fun row => row.imei = "866221070478388").Pairwise
            fun a b => wibDate a.serverReceivedAt ≤ wibDate b.serverReceivedAt) &&
          decide ((getDeviceService toString ["866221070478388"] db.distances "866221070478388"
            61470000000).toOption.map (fun page => page.milestones.map fun milestone =>
              (milestone.milestoneNumber, milestone.achievedOn)) = some [(1, "0")]) &&
          decide ((getDeviceService toString ["866221070478388"] db'.distances "866221070478388"
            61490000000).toOption.map (fun page => page.nextMilestoneKm) = some 2000)) = true := by
  decide +kernel

/-- The first thousand kilometres are reached before midnight, and stay so after it. -/
theorem milestones_keep_dates_untilMidnight :
    ∃ tr db tr' db', tr.map Prod.snd = untilMidnight ∧ tr'.map Prod.snd = afterMidnight ∧
      Run (DistanceDatabase.step fun _ _ _ _ => (14500 : ℚ)) DistanceDatabase.empty tr db ∧
      Run (DistanceDatabase.step fun _ _ _ _ => (14500 : ℚ)) db tr' db' ∧
      ∃ page', getDeviceService toString ["866221070478388"] db'.distances "866221070478388"
          61490000000 = .ok page' ∧
        ∃ milestone ∈ page'.milestones,
          milestone.milestoneNumber = 1 ∧ milestone.achievedOn = "0" := by
  obtain ⟨tr, db, hes, run, hdb⟩ := run_of_replay_any replay_untilMidnight
  obtain ⟨tr', db', hes', run', hdb'⟩ := run_of_replay_any hdb
  rw [Bool.and_eq_true, Bool.and_eq_true] at hdb'
  obtain ⟨⟨hdays, hshown⟩, hnext⟩ := hdb'
  have hdays := of_decide_eq_true hdays
  obtain ⟨page, page', completed, completed', date, hok, hok', -, hpage', -, -, hkept⟩ :=
    milestones_keep_dates toString run run' hdays
      (List.mem_singleton_self _) (List.mem_singleton_self _) 61470000000 61490000000
  have hshown := of_decide_eq_true hshown
  have hnext := of_decide_eq_true hnext
  rw [hok] at hshown
  rw [hok'] at hnext
  obtain ⟨milestone, hmilestone, hfields⟩ := List.mem_map.1
    (Option.some.inj hshown ▸ List.mem_singleton_self (1, "0"))
  obtain ⟨hnumber, hdate⟩ := Prod.mk.inj hfields
  have hcompleted' := hpage'.next.symm.trans (Option.some.inj hnext)
  refine ⟨tr, db, tr', db', hes, hes', run, run', page', hok', milestone, ?_, hnumber, hdate⟩
  exact hkept milestone hmilestone (by rw [hnumber]; omega)

end Gt06
