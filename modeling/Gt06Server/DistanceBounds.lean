/-
**Tracked distances stay within physical bounds.**

A segment between two processed points counts when it passes a test of its own speed, on whole
seconds.  This module carries the test through the fold over the points of a device: its odometer
never shows more than fifty metres for each whole second between the first point and the last, and
no day more than a day and one gap allow, although rejected points move the checkpoint too and a
segment may begin before midnight.

The points are compared as the odometer keeps them, in microseconds: the clock of the program is
finer, and a gap of a second in the database may be a few hundred nanoseconds less on the clock.

Main definitions:

* `Gt06.DistanceSegment`, `Gt06.countedSegments` — the segments of a sequence of points that count;
* `Gt06.metersOf`, `Gt06.gapsOf` — their length and their duration.

Main results:

* `Gt06.distances_eq_countedSegments` — **the tables are what the counted segments add up to**;
* `Gt06.gapsOf_le`, `Gt06.gapsOf_day_le` — how long they last together;
* `Gt06.tracked_distance_within_bounds` — **the bounds of the odometer, of a day and of a segment.**
-/

import Gt06Server.DistanceTotals

set_option relaxedAutoImplicit false
set_option autoImplicit false

namespace Gt06

open Binary64 Relational

variable {K : Type} [Field K] [LinearOrder K] [IsStrictOrderedRing K]

/-! ### Segments that count -/

/-- The point before, as the odometer keeps it. -/
def DistanceLocationPoint.checkpoint (point : DistanceLocationPoint) : PreviousDistancePoint where
  id := point.id
  serverReceivedAt := readNanos (storedMicros point.serverReceivedAt)
  latitude := point.latitude
  longitude := point.longitude
  speedKph := point.speedKph

/-- The whole seconds between two points, as `accepted_segment_meters` counts them. -/
def gapSeconds (earlier later : DistanceLocationPoint) : ℤ :=
  gapSecondsOf (later.serverReceivedAt - earlier.checkpoint.serverReceivedAt)

/-- A segment that counts, with its length. -/
structure DistanceSegment (K : Type) where
  earlier : DistanceLocationPoint
  later : DistanceLocationPoint
  meters : K
  deriving DecidableEq

/-- The day a segment is credited to. -/
def DistanceSegment.date (segment : DistanceSegment K) : ℤ :=
  wibDateOfNanos segment.later.serverReceivedAt

section Segments

variable (distanceMeters : F64 → F64 → F64 → F64 → K)

/-- The segment between two points, if it counts. -/
def segmentBetween (earlier later : DistanceLocationPoint) : Option (DistanceSegment K) :=
  (acceptedSegmentMeters distanceMeters earlier.checkpoint later).map fun meters =>
    { earlier := earlier, later := later, meters := meters }

/-- The segments that count after a point. -/
def segmentsAfter : DistanceLocationPoint → List DistanceLocationPoint → List (DistanceSegment K)
  | _, [] => []
  | earlier, later :: points =>
      (segmentBetween distanceMeters earlier later).toList ++ segmentsAfter later points

/-- The segments of a sequence of points that count. -/
def countedSegments : List DistanceLocationPoint → List (DistanceSegment K)
  | [] => []
  | first :: points => segmentsAfter distanceMeters first points

end Segments

/-- The length of some segments together. -/
def metersOf (segments : List (DistanceSegment K)) : K :=
  (segments.map DistanceSegment.meters).sum

/-- The whole seconds of some segments together. -/
def gapsOf (segments : List (DistanceSegment K)) : ℤ :=
  (segments.map fun segment => gapSeconds segment.earlier segment.later).sum

omit [LinearOrder K] [IsStrictOrderedRing K] in
theorem metersOf_append (segments segments' : List (DistanceSegment K)) :
    metersOf (segments ++ segments') = metersOf segments + metersOf segments' := by
  simp [metersOf]

omit [Field K] [LinearOrder K] [IsStrictOrderedRing K] in
theorem gapsOf_append (segments segments' : List (DistanceSegment K)) :
    gapsOf (segments ++ segments') = gapsOf segments + gapsOf segments' := by
  simp [gapsOf]

omit [Field K] [LinearOrder K] [IsStrictOrderedRing K] in
@[simp] theorem gapsOf_nil : gapsOf ([] : List (DistanceSegment K)) = 0 := rfl

omit [Field K] [LinearOrder K] [IsStrictOrderedRing K] in
@[simp] theorem gapsOf_singleton (segment : DistanceSegment K) :
    gapsOf [segment] = gapSeconds segment.earlier segment.later := by
  simp [gapsOf]

/-! ### One segment -/

section Segment

variable {distanceMeters : F64 → F64 → F64 → F64 → K} {earlier later : DistanceLocationPoint}
  {segment : DistanceSegment K}

/-- What is known of a segment that counts. -/
structure DistanceSegment.Accepted (distanceMeters : F64 → F64 → F64 → F64 → K)
    (segment : DistanceSegment K) : Prop where
  meters : segment.meters = distanceMeters segment.earlier.latitude segment.earlier.longitude
    segment.later.latitude segment.later.longitude
  earlier_valid : validCoordinates segment.earlier.latitude segment.earlier.longitude = true
  later_valid : validCoordinates segment.later.latitude segment.later.longitude = true
  one_le_gap : 1 ≤ gapSeconds segment.earlier segment.later
  gap_le : gapSeconds segment.earlier segment.later ≤ 300
  five_le_meters : 5 ≤ segment.meters
  speed : segment.meters ≤ 50 * (gapSeconds segment.earlier segment.later : K)

theorem accepted_of_segmentBetween
    (h : segmentBetween distanceMeters earlier later = some segment) :
    segment.earlier = earlier ∧ segment.later = later ∧ segment.Accepted distanceMeters := by
  obtain ⟨meters, hmeters, rfl⟩ := Option.map_eq_some_iff.1 h
  simp only [acceptedSegmentMeters] at hmeters
  split_ifs at hmeters with hvalid hgap hmoving hshort hfast
  obtain rfl := Option.some.inj hmeters
  rw [not_or, not_not, not_not] at hvalid
  refine ⟨rfl, rfl, ⟨rfl, hvalid.1, hvalid.2, hgap.1, hgap.2, not_lt.1 hshort, ?_⟩⟩
  -- fifty metres a second are a hundred and eighty kilometres an hour
  have hpos : (0 : K) < gapSeconds earlier later := by
    exact_mod_cast lt_of_lt_of_le Int.zero_lt_one hgap.1
  have hspeed : distanceMeters earlier.latitude earlier.longitude later.latitude later.longitude /
      1000 / ((gapSeconds earlier later : K) / 3600) ≤ 180 := not_lt.1 hfast
  rw [div_le_iff₀ (div_pos hpos (by norm_num)), div_le_iff₀ (by norm_num)] at hspeed
  refine hspeed.trans (le_of_eq ?_)
  change 180 * ((gapSeconds earlier later : K) / 3600) * 1000 = 50 * (gapSeconds earlier later : K)
  ring

/-- A gap that counts is no longer than the time between the two points in the database. -/
theorem gapSeconds_le (h : 1 ≤ gapSeconds earlier later) :
    gapSeconds earlier later * microsPerSecond ≤
      storedMicros later.serverReceivedAt - storedMicros earlier.serverReceivedAt := by
  have hstored : gapSeconds earlier later = gapSecondsOf
      (readNanos (storedMicros later.serverReceivedAt) -
        readNanos (storedMicros earlier.serverReceivedAt)) :=
    gapSecondsOf_stored later.serverReceivedAt (storedMicros earlier.serverReceivedAt) (Or.inl h)
  have hnonneg : 0 ≤ readNanos (storedMicros later.serverReceivedAt) -
      readNanos (storedMicros earlier.serverReceivedAt) := by
    rw [hstored] at h
    exact (pos_of_gapSecondsOf_pos h).le
  rw [hstored, gapSecondsOf_of_nonneg hnonneg]
  simp only [readNanos, microsPerSecond, nanosPerMicro]
  omega

end Segment

/-! ### How long the counted segments last -/

section Gaps

variable {distanceMeters : F64 → F64 → F64 → F64 → K}

/-- Points that are not out of order. -/
def InOrder (points : List DistanceLocationPoint) : Prop :=
  points.Pairwise fun earlier later => earlier.serverReceivedAt ≤ later.serverReceivedAt

theorem storedMicros_mono {s t : ℤ} (h : s ≤ t) : storedMicros s ≤ storedMicros t :=
  Int.ediv_le_ediv (by decide) h

/-- The segments of one kind that follow a point last no longer than the time to where the last of
them can end. -/
theorem gapsOf_filter_le {p : DistanceSegment K → Bool} {stop : ℤ}
    {earlier : DistanceLocationPoint} {points : List DistanceLocationPoint}
    (hstop : ∀ segment : DistanceSegment K, segment.later ∈ points → p segment = true →
      storedMicros segment.later.serverReceivedAt ≤ stop)
    (h : InOrder (earlier :: points)) :
    gapsOf ((segmentsAfter distanceMeters earlier points).filter p) * microsPerSecond ≤
      max 0 (stop - storedMicros earlier.serverReceivedAt) := by
  induction points generalizing earlier with
  | nil => simp [segmentsAfter]
  | cons later points ih =>
      have hle : earlier.serverReceivedAt ≤ later.serverReceivedAt :=
        List.rel_of_pairwise_cons h (List.mem_cons_self ..)
      have hrest := ih (fun segment hmem => hstop segment (List.mem_cons_of_mem _ hmem))
        (List.Pairwise.of_cons h)
      have hmono := storedMicros_mono hle
      rw [segmentsAfter, List.filter_append, gapsOf_append, add_mul]
      cases hsegment : segmentBetween distanceMeters earlier later with
      | none =>
          rw [Option.toList_none, List.filter_nil, gapsOf_nil, zero_mul, zero_add]
          omega
      | some segment =>
          obtain ⟨hearlier, hlater, haccepted⟩ := accepted_of_segmentBetween hsegment
          have hgap := gapSeconds_le haccepted.one_le_gap
          rw [hearlier, hlater] at hgap
          rw [Option.toList_some]
          by_cases hp : p segment = true
          · have hend := hstop segment (by rw [hlater]; exact List.mem_cons_self ..) hp
            rw [hlater] at hend
            rw [List.filter_cons_of_pos hp, List.filter_nil, gapsOf_singleton, hearlier, hlater]
            omega
          · -- a segment that is not looked at leaves room
            rw [List.filter_cons_of_neg hp, List.filter_nil, gapsOf_nil, zero_mul, zero_add]
            omega

/-- The first instant of a day, in microseconds. -/
def wibDayBegin (date : ℤ) : ℤ := date * microsPerDay - wibOffsetSeconds * microsPerSecond

omit [Field K] [LinearOrder K] [IsStrictOrderedRing K] in
theorem date_eq_iff (segment : DistanceSegment K) (date : ℤ) :
    segment.date = date ↔
      wibDayBegin date ≤ storedMicros segment.later.serverReceivedAt ∧
        storedMicros segment.later.serverReceivedAt < wibDayBegin (date + 1) := by
  rw [DistanceSegment.date, wibDateOfNanos_eq]
  unfold wibDate wibDayBegin microsPerDay wibOffsetSeconds microsPerSecond
  omega

/-- The segments of one day last no longer than the day and the gap in which it begins. -/
theorem gapsOf_day_le {earlier : DistanceLocationPoint} {points : List DistanceLocationPoint}
    (date : ℤ) (h : InOrder (earlier :: points)) :
    gapsOf ((segmentsAfter distanceMeters earlier points).filter fun segment =>
      segment.date = date) * microsPerSecond < (86400 + 300) * microsPerSecond := by
  induction points generalizing earlier with
  | nil => simp [segmentsAfter, microsPerSecond]
  | cons later points ih =>
      have hrest := ih (List.Pairwise.of_cons h)
      rw [segmentsAfter, List.filter_append, gapsOf_append, add_mul]
      cases hsegment : segmentBetween distanceMeters earlier later with
      | none =>
          rw [Option.toList_none, List.filter_nil, gapsOf_nil, zero_mul, zero_add]
          exact hrest
      | some segment =>
          obtain ⟨hearlier, hlater, haccepted⟩ := accepted_of_segmentBetween hsegment
          rw [Option.toList_some]
          by_cases hdate : segment.date = date
          · -- the first segment of the day: what follows lies within the day
            have hgap := haccepted.gap_le
            have hbegin := (date_eq_iff segment date).1 hdate
            rw [hearlier, hlater] at hgap
            rw [hlater] at hbegin
            have hfollow : gapsOf ((segmentsAfter distanceMeters later points).filter
                fun segment => segment.date = date) * microsPerSecond ≤
                  max 0 (wibDayBegin (date + 1) - 1 - storedMicros later.serverReceivedAt) := by
              refine gapsOf_filter_le (fun segment _ hp => ?_) (List.Pairwise.of_cons h)
              have := (date_eq_iff segment date).1 (of_decide_eq_true hp)
              omega
            rw [List.filter_cons_of_pos (by simpa using hdate), List.filter_nil,
              gapsOf_singleton, hearlier, hlater]
            simp only [wibDayBegin, microsPerDay, microsPerSecond] at hfollow hbegin ⊢
            omega
          · rw [List.filter_cons_of_neg (by simpa using hdate), List.filter_nil, gapsOf_nil,
              zero_mul, zero_add]
            exact hrest

end Gaps

/-! ### The tables are what the counted segments add up to -/

section Tables

variable {distanceMeters : F64 → F64 → F64 → F64 → K} {tables : DistanceTables K} {imei : String}

/-- After a point has been counted, it is the point before. -/
theorem previousPoint_upsertOdometer (accepted : { meters : K // 0 ≤ meters })
    (point : DistanceLocationPoint) :
    (tables.upsertOdometer imei accepted point).previousPoint imei = some point.checkpoint := by
  simp only [DistanceTables.previousPoint, DistanceTables.upsertOdometer]
  rw [rowAt_upsertAt]
  · rw [if_pos (by rfl)]
    cases rowAt DistanceOdometer.imei imei tables.odometer with
    | none => rfl
    | some row => rfl
  · intro row
    rfl

/-- What a location adds to a day. -/
theorem dailyDistanceMeters_processLocationDistance (point : DistanceLocationPoint) (date : ℤ) :
    (processLocationDistance distanceMeters tables imei point).2.dailyDistanceMeters imei date =
      tables.dailyDistanceMeters imei date +
        if wibDateOfNanos point.serverReceivedAt = date then
          (processLocationDistance distanceMeters tables imei point).1 else 0 := by
  simp only [processLocationDistance]
  split
  · simp
  · split
    · rw [dailyDistanceMeters_upsertDaily]
      simp only [true_and]
      rfl
    · rename_i hzero
      rw [acceptedMeters_eq_zero hzero, ite_self, add_zero]
      rfl

/-- A point after the point before: the segment between them is what it counts. -/
theorem processLocationDistance_after {earlier later : DistanceLocationPoint}
    (h : tables.previousPoint imei = some earlier.checkpoint) (hid : earlier.id < later.id) :
    (processLocationDistance distanceMeters tables imei later).1 =
        metersOf (segmentBetween distanceMeters earlier later).toList ∧
      (processLocationDistance distanceMeters tables imei later).2.previousPoint imei =
        some later.checkpoint := by
  have hnew : ¬((tables.previousPoint imei).any fun value => later.id ≤ value.id) = true := by
    rw [h]
    simpa [DistanceLocationPoint.checkpoint] using hid
  have hmeters : (acceptedMeters distanceMeters (tables.previousPoint imei) later).1 =
      metersOf (segmentBetween distanceMeters earlier later).toList := by
    rw [acceptedMeters, h, segmentBetween]
    cases hsegment : acceptedSegmentMeters distanceMeters earlier.checkpoint later with
    | none => simp [metersOf, hsegment]
    | some meters => simp [metersOf, hsegment]
  simp only [processLocationDistance]
  rw [if_neg hnew]
  split
  · exact ⟨hmeters, previousPoint_upsertOdometer _ later⟩
  · exact ⟨hmeters, previousPoint_upsertOdometer _ later⟩

/-- The first point of a device counts nothing. -/
theorem processLocationDistance_first (h : tables.previousPoint imei = none)
    (first : DistanceLocationPoint) :
    (processLocationDistance distanceMeters tables imei first).1 = 0 ∧
      (processLocationDistance distanceMeters tables imei first).2.previousPoint imei =
        some first.checkpoint := by
  have hmeters : (acceptedMeters distanceMeters (tables.previousPoint imei) first).1 = 0 := by
    rw [acceptedMeters, h]
    rfl
  simp only [processLocationDistance, h, Option.any_none, Bool.false_eq_true, if_false]
  rw [h] at hmeters
  split
  · exact ⟨hmeters, previousPoint_upsertOdometer _ first⟩
  · exact ⟨hmeters, previousPoint_upsertOdometer _ first⟩

/-- The points of a device after the point before add up to their counted segments, on the odometer
and day by day. -/
theorem distances_after {earlier : DistanceLocationPoint} {points : List DistanceLocationPoint}
    (h : tables.previousPoint imei = some earlier.checkpoint)
    (hids : (earlier :: points).Pairwise fun p q => p.id < q.id) :
    (processLocations distanceMeters imei points tables).totalDistanceMeters imei =
        tables.totalDistanceMeters imei + metersOf (segmentsAfter distanceMeters earlier points) ∧
      ∀ date, (processLocations distanceMeters imei points tables).dailyDistanceMeters imei date =
        tables.dailyDistanceMeters imei date +
          metersOf ((segmentsAfter distanceMeters earlier points).filter fun segment =>
            segment.date = date) := by
  induction points generalizing earlier tables with
  | nil => simp [segmentsAfter, processLocations, metersOf]
  | cons later points ih =>
      have hid : earlier.id < later.id := List.rel_of_pairwise_cons hids (List.mem_cons_self ..)
      obtain ⟨hmeters, hprevious⟩ :=
        @processLocationDistance_after K _ _ _ distanceMeters tables imei earlier later h hid
      obtain ⟨htotal, hdaily⟩ := ih hprevious (List.Pairwise.of_cons hids)
      constructor
      · change (processLocations distanceMeters imei points
          (processLocationDistance distanceMeters tables imei later).2).totalDistanceMeters imei = _
        rw [htotal, totalDistanceMeters_processLocationDistance, if_pos rfl, hmeters,
          segmentsAfter, metersOf_append, add_assoc]
      · intro date
        change (processLocations distanceMeters imei points
          (processLocationDistance distanceMeters tables imei later).2).dailyDistanceMeters imei
            date = _
        rw [hdaily, dailyDistanceMeters_processLocationDistance, hmeters, segmentsAfter,
          List.filter_append, metersOf_append, add_assoc]
        congr 2
        -- the segment to this point is credited to the day of this point
        cases hsegment : segmentBetween distanceMeters earlier later with
        | none => simp [metersOf]
        | some segment =>
            have hlater := (accepted_of_segmentBetween hsegment).2.1
            rw [Option.toList_some, ← hlater]
            change (if segment.date = date then _ else _) = _
            by_cases hdate : segment.date = date
            · rw [if_pos hdate, List.filter_cons_of_pos (by simpa using hdate), List.filter_nil]
            · rw [if_neg hdate, List.filter_cons_of_neg (by simpa using hdate), List.filter_nil]
              rfl

omit [IsStrictOrderedRing K] in
/-- A device without rows has no point before and no distance. -/
theorem distances_of_empty (h : tables.rowsOf imei = DistanceTables.empty) :
    tables.previousPoint imei = none ∧ tables.totalDistanceMeters imei = 0 ∧
      ∀ date, tables.dailyDistanceMeters imei date = 0 := by
  refine ⟨?_, ?_, fun date => ?_⟩
  · rw [← previousPoint_rowsOf, h]
    rfl
  · rw [← totalDistanceMeters_rowsOf, h]
    rfl
  · rw [← dailyDistanceMeters_rowsOf, h]
    rfl

/-- **The tables are what the counted segments add up to**, each on the day of its later point. -/
theorem distances_eq_countedSegments {points : List DistanceLocationPoint}
    (hempty : tables.rowsOf imei = DistanceTables.empty)
    (hids : points.Pairwise fun p q => p.id < q.id) :
    (processLocations distanceMeters imei points tables).totalDistanceMeters imei =
        metersOf (countedSegments distanceMeters points) ∧
      ∀ date, (processLocations distanceMeters imei points tables).dailyDistanceMeters imei date =
        metersOf ((countedSegments distanceMeters points).filter fun segment =>
          segment.date = date) := by
  obtain ⟨hprevious, htotal, hdaily⟩ := distances_of_empty hempty
  cases points with
  | nil => exact ⟨htotal, hdaily⟩
  | cons first points =>
      obtain ⟨hmeters, hcheckpoint⟩ :=
        @processLocationDistance_first K _ _ _ distanceMeters tables imei hprevious first
      obtain ⟨hsum, hdays⟩ := @distances_after K _ _ _ distanceMeters _ imei first points
        hcheckpoint hids
      constructor
      · refine hsum.trans ?_
        rw [totalDistanceMeters_processLocationDistance, hmeters, htotal, ite_self, add_zero,
          zero_add]
        rfl
      · intro date
        refine (hdays date).trans ?_
        rw [dailyDistanceMeters_processLocationDistance, hmeters, hdaily, ite_self, add_zero,
          zero_add]
        rfl

end Tables

/-! ### The bounds -/

section Bounds

variable {distanceMeters : F64 → F64 → F64 → F64 → K}

/-- The counted segments of a sequence join consecutive points of it. -/
theorem accepted_of_mem_segmentsAfter {segment : DistanceSegment K}
    {earlier : DistanceLocationPoint} {points : List DistanceLocationPoint}
    (h : segment ∈ segmentsAfter distanceMeters earlier points) :
    segment.Accepted distanceMeters ∧ ∃ before after,
      earlier :: points = before ++ segment.earlier :: segment.later :: after := by
  induction points generalizing earlier with
  | nil => simp [segmentsAfter] at h
  | cons later points ih =>
      rw [segmentsAfter, List.mem_append, Option.mem_toList] at h
      rcases h with hsegment | hrest
      · obtain ⟨hearlier, hlater, haccepted⟩ := accepted_of_segmentBetween hsegment
        exact ⟨haccepted, [], points, by rw [hearlier, hlater]; rfl⟩
      · obtain ⟨haccepted, before, after, heq⟩ := ih hrest
        exact ⟨haccepted, earlier :: before, after, by rw [heq]; rfl⟩

theorem accepted_of_mem_countedSegments {segment : DistanceSegment K}
    {points : List DistanceLocationPoint} (h : segment ∈ countedSegments distanceMeters points) :
    segment.Accepted distanceMeters ∧ ∃ before after,
      points = before ++ segment.earlier :: segment.later :: after := by
  cases points with
  | nil => simp [countedSegments] at h
  | cons first points => exact accepted_of_mem_segmentsAfter h

/-- Segments that count are no longer than fifty metres a second. -/
theorem metersOf_le {segments : List (DistanceSegment K)}
    (h : ∀ segment ∈ segments, segment.Accepted distanceMeters) :
    metersOf segments ≤ 50 * (gapsOf segments : K) := by
  induction segments with
  | nil => simp [metersOf]
  | cons segment segments ih =>
      have hfirst := (h segment (List.mem_cons_self ..)).speed
      have hrest := ih fun s hs => h s (List.mem_cons_of_mem _ hs)
      simp only [metersOf, gapsOf, List.map_cons, List.sum_cons, Int.cast_add, mul_add]
        at hrest ⊢
      exact add_le_add hfirst hrest

theorem metersOf_le_of_gapsOf_le {segments : List (DistanceSegment K)} {seconds : ℤ}
    (h : ∀ segment ∈ segments, segment.Accepted distanceMeters)
    (hgaps : gapsOf segments ≤ seconds) :
    metersOf segments ≤ 50 * (seconds : K) := by
  refine (metersOf_le h).trans ?_
  have hcast : (gapsOf segments : K) ≤ seconds := by exact_mod_cast hgaps
  linarith

/-- All counted segments together last no longer than the points. -/
theorem gapsOf_le {first last : DistanceLocationPoint} {points : List DistanceLocationPoint}
    (h : InOrder (first :: points)) (hlast : (first :: points).getLast? = some last) :
    gapsOf (segmentsAfter distanceMeters first points) ≤
      gapSecondsOf (last.stored.serverReceivedAt - first.stored.serverReceivedAt) := by
  -- in order, no point comes after the last
  have hmem : ∀ point ∈ first :: points, storedMicros point.serverReceivedAt ≤
      storedMicros last.serverReceivedAt := by
    intro point hpoint
    obtain ⟨before, hbefore⟩ := List.getLast?_eq_some_iff.1 hlast
    rw [hbefore] at hpoint h
    rcases List.mem_append.1 hpoint with hpoint | hpoint
    · exact storedMicros_mono ((List.pairwise_append.1 h).2.2 point hpoint last
        (List.mem_singleton_self _))
    · rw [List.mem_singleton.1 hpoint]
  have hgaps : gapsOf ((segmentsAfter distanceMeters first points).filter fun _ => true) *
      microsPerSecond ≤
        max 0 (storedMicros last.serverReceivedAt - storedMicros first.serverReceivedAt) :=
    gapsOf_filter_le (fun segment hsegment _ => hmem _ (List.mem_cons_of_mem _ hsegment)) h
  have hfirst := hmem first (List.mem_cons_self ..)
  rw [List.filter_true] at hgaps
  simp only [DistanceLocationPoint.stored, gapSecondsOf, readNanos, microsPerSecond,
    nanosPerMicro] at hgaps ⊢
  rw [Int.tdiv_eq_ediv_of_nonneg (by omega)]
  omega

/-- Those of one day last no longer than a day and one gap. -/
theorem gapsOf_countedSegments_day_le {points : List DistanceLocationPoint} (h : InOrder points)
    (date : ℤ) :
    gapsOf ((countedSegments distanceMeters points).filter fun segment => segment.date = date) ≤
      86400 + 300 := by
  cases points with
  | nil => simp [countedSegments]
  | cons first points =>
      have hday := @gapsOf_day_le K _ _ _ distanceMeters first points date h
      simp only [microsPerSecond] at hday
      change gapsOf ((segmentsAfter distanceMeters first points).filter _) ≤ _
      omega

/-- **Tracked distances stay within their bounds**: from points of a device in the order of their
ids and of their times, counted from nothing, the odometer shows at most fifty metres for each
whole second between the first point and the last as the database keeps them, and no day more than
a day and a gap allow; both are what the counted segments add up to, each on the day of its later
point; and such a segment is at least five metres long and joins two consecutive points with valid
coordinates at most three hundred whole seconds apart. -/
theorem tracked_distance_within_bounds (distanceMeters : F64 → F64 → F64 → F64 → K)
    (tables : DistanceTables K) (imei : String) (points : List DistanceLocationPoint)
    (hempty : tables.rowsOf imei = DistanceTables.empty)
    (hids : points.Pairwise fun p q => p.id < q.id)
    (hinOrder : points.Pairwise fun p q => p.serverReceivedAt ≤ q.serverReceivedAt) :
    let after := processLocations distanceMeters imei points tables
    (∀ first ∈ points.head?, ∀ last ∈ points.getLast?, after.totalDistanceMeters imei ≤
        50 * ((gapSecondsOf (last.stored.serverReceivedAt - first.stored.serverReceivedAt) : ℤ) :
          K)) ∧
      (∀ row ∈ after.daily, row.imei = imei → row.distanceMeters ≤ 50 * (86400 + 300)) ∧
      after.totalDistanceMeters imei = metersOf (countedSegments distanceMeters points) ∧
      (∀ date, after.dailyDistanceMeters imei date =
        metersOf ((countedSegments distanceMeters points).filter fun segment =>
          wibDateOfNanos segment.later.serverReceivedAt = date)) ∧
      ∀ segment ∈ countedSegments distanceMeters points,
        5 ≤ segment.meters ∧
          (∃ before after, points = before ++ segment.earlier :: segment.later :: after) ∧
          validCoordinates segment.earlier.latitude segment.earlier.longitude = true ∧
          validCoordinates segment.later.latitude segment.later.longitude = true ∧
          gapSeconds segment.earlier segment.later ≤ 300 := by
  obtain ⟨htotal, hdaily⟩ :=
    @distances_eq_countedSegments K _ _ _ distanceMeters tables imei points hempty hids
  have haccepted : ∀ segment ∈ countedSegments distanceMeters points,
      segment.Accepted distanceMeters :=
    fun segment hsegment => (accepted_of_mem_countedSegments hsegment).1
  refine ⟨?_, ?_, htotal, hdaily, ?_⟩
  · intro first hfirst last hlast
    rw [htotal]
    cases points with
    | nil => simp at hfirst
    | cons first' points =>
        obtain rfl : first' = first := by simpa using hfirst
        exact metersOf_le_of_gapsOf_le haccepted (gapsOf_le hinOrder hlast)
  · intro row hrow himei
    have hread := dailyDistanceMeters_of_mem hrow
    rw [himei, hdaily] at hread
    rw [← hread]
    have hmeters := metersOf_le_of_gapsOf_le
      (fun segment hsegment => haccepted segment (List.mem_of_mem_filter hsegment))
      (gapsOf_countedSegments_day_le hinOrder row.distanceDate)
    have hcast : ((86400 + 300 : ℤ) : K) = 86400 + 300 := by norm_num
    rw [hcast] at hmeters
    exact hmeters
  · intro segment hsegment
    obtain ⟨hcounts, hconsecutive⟩ := accepted_of_mem_countedSegments hsegment
    exact ⟨hcounts.five_le_meters, hconsecutive, hcounts.earlier_valid, hcounts.later_valid,
      hcounts.gap_le⟩

end Bounds

/-! ### Parts of a second -/

/-- Two points of the first minutes of 2026, half a second more than five minutes apart. -/
def fiveMinutesApart : List DistanceLocationPoint :=
  [⟨1, 1767225600000000000, .finite true 0, .finite false 0, 30⟩,
    ⟨2, 1767225900500000000, .finite true 0, .finite false 0, 30⟩]

theorem tracked_distance_within_bounds_fiveMinutesApart :
    let after := processLocations (fun _ _ _ _ => (10 : ℚ)) "866221070478388" fiveMinutesApart
      DistanceTables.empty
    after.totalDistanceMeters "866221070478388" = 10 ∧ (10 : ℚ) ≤ 50 * 300 := by
  have htotal : (processLocations (fun _ _ _ _ => (10 : ℚ)) "866221070478388" fiveMinutesApart
      DistanceTables.empty).totalDistanceMeters "866221070478388" = 10 := by decide +kernel
  have hbound := (tracked_distance_within_bounds (fun _ _ _ _ => (10 : ℚ)) DistanceTables.empty
    "866221070478388" fiveMinutesApart rfl (by decide) (by decide)).1
    ⟨1, 1767225600000000000, .finite true 0, .finite false 0, 30⟩ rfl
    ⟨2, 1767225900500000000, .finite true 0, .finite false 0, 30⟩ rfl
  rw [htotal] at hbound
  have hseconds : gapSecondsOf (readNanos (storedMicros 1767225900500000000) -
      readNanos (storedMicros 1767225600000000000)) = 300 := by decide
  exact ⟨htotal, by simpa [DistanceLocationPoint.stored, hseconds] using hbound⟩

/-- A segment of five minutes and a half second counts; and a segment of a second in the database
does, though the second point comes 500 nanoseconds less than a second after the first. -/
theorem segment_over_parts_of_a_second :
    (∃ segment ∈ countedSegments (fun _ _ _ _ => (10 : ℚ)) fiveMinutesApart,
      300 * 1000000000 <
        segment.later.serverReceivedAt - segment.earlier.serverReceivedAt) ∧
      50 * ((gapSecondsOf (1767225601000000000 - 1767225600000000500) : ℤ) : ℚ) <
        (processLocations (fun _ _ _ _ => (50 : ℚ)) "866221070478388"
          [⟨1, 1767225600000000500, .finite true 0, .finite false 0, 30⟩,
            ⟨2, 1767225601000000000, .finite true 0, .finite false 0, 30⟩]
          DistanceTables.empty).totalDistanceMeters "866221070478388" := by
  constructor
  · exact ⟨⟨⟨1, 1767225600000000000, .finite true 0, .finite false 0, 30⟩,
      ⟨2, 1767225900500000000, .finite true 0, .finite false 0, 30⟩, 10⟩, by decide +kernel,
      by decide⟩
  · decide +kernel

end Gt06
