/-
**The time under way.**

The riding time of a list of points is summed over its windows of two: the whole seconds between
two points at which the device moved, unless they are too far apart to know what happened in
between.  The report of a range sums it over the rides that fall into the range.  The rides begin
and end when the owner says so, so that a window may be cut by them, or lie in none; but it lies in
no two of them, unless they overlap.  So the report does not count more than was ridden.

Instants of points are nanoseconds here, as the program has them; the rows keep microseconds.

Main definitions:

* `Gt06.totalRidingSeconds` — the riding time of a list of points;
* `Gt06.analyticsRideSummary` — the rides of a range, over a history that stands still;
* `Gt06.MeetAtEnds` — two sessions share at most an instant at their ends.

Main results:

* `Gt06.totalRidingSeconds_append` — what is lost where a list is taken apart;
* `Gt06.totalRidingSeconds_le_elapsed` — no more than the time that has passed;
* `Gt06.riding_time_never_over_counted` — **a report never counts too much**;
* `Gt06.answered_fetchAnalyticsRideSummary` — the rides the bot adds up are those.
-/

import Gt06Server.ChatHandlers
import Gt06Server.Neighbours
import Gt06Server.ServiceDistance

set_option relaxedAutoImplicit false
set_option autoImplicit false

namespace Gt06

open Await Neighbours Relational

/-! ### A list of points -/

def ridingTimeMovingSpeedKph : ℤ := 3

def ridingTimeMaxPointGapSecs : ℤ := 5 * 60

/-- What a window adds, if it counts: the points are instants, in nanoseconds, with speeds. -/
def countedGap (previous current : ℤ × ℤ) : Option ℕ :=
  if previous.2 < ridingTimeMovingSpeedKph ∨ current.2 < ridingTimeMovingSpeedKph then none
  else
    let gapSeconds := gapSecondsOf (current.1 - previous.1)
    if 1 ≤ gapSeconds ∧ gapSeconds ≤ ridingTimeMaxPointGapSecs then some gapSeconds.toNat else none

def totalRidingSeconds (points : List (ℤ × ℤ)) : ℕ :=
  ((windows points).filterMap fun window => countedGap window.1 window.2).sum

/-- What a window adds. -/
def ridingGap (previous current : ℤ × ℤ) : ℕ := (countedGap previous current).getD 0

theorem totalRidingSeconds_eq (points : List (ℤ × ℤ)) :
    totalRidingSeconds points = total ridingGap points := by
  unfold totalRidingSeconds total
  induction windows points with
  | nil => rfl
  | cons window rest ih =>
      rw [List.map_cons, List.sum_cons, ← ih, List.filterMap_cons, ridingGap]
      cases countedGap window.1 window.2 with
      | none => exact (Nat.zero_add _).symm
      | some gap => exact List.sum_cons

/-- A window either adds nothing, or the whole seconds between its ends, of which there are from
one to 300. -/
theorem ridingGap_cases (p q : ℤ × ℤ) :
    ridingGap p q = 0 ∨
      (ridingGap p q : ℤ) = gapSecondsOf (q.1 - p.1) ∧ 1 ≤ gapSecondsOf (q.1 - p.1) ∧
        gapSecondsOf (q.1 - p.1) ≤ 300 := by
  unfold ridingGap countedGap
  dsimp only
  split
  · exact Or.inl rfl
  · split
    next hgap => exact Or.inr ⟨Int.toNat_of_nonneg (by omega), hgap⟩
    next => exact Or.inl rfl

theorem ridingGap_le (p q : ℤ × ℤ) : ridingGap p q ≤ 300 := by
  have h := ridingGap_cases p q
  omega

/-- A window that adds something has a beginning and an end. -/
theorem lt_of_ridingGap_ne_zero {p q : ℤ × ℤ} (h : ridingGap p q ≠ 0) : p.1 < q.1 := by
  obtain ⟨-, hgap, -⟩ := (ridingGap_cases p q).resolve_left h
  exact sub_pos.1 (pos_of_gapSecondsOf_pos hgap)

/-- A list taken apart loses the window between its parts. -/
theorem totalRidingSeconds_append (l r : List (ℤ × ℤ)) :
    totalRidingSeconds l + totalRidingSeconds r ≤ totalRidingSeconds (l ++ r) ∧
      totalRidingSeconds (l ++ r) ≤ totalRidingSeconds l + totalRidingSeconds r + 300 := by
  simp only [totalRidingSeconds_eq]
  cases l using List.reverseRecOn with
  | nil => simp
  | append_singleton l p =>
      cases r with
      | nil => simp
      | cons q r =>
          have hgap := ridingGap_le p q
          rw [total_append_append]
          omega

example : totalRidingSeconds [(0, 0), (60000000000, 3), (180000000000, 4), (240000000000, 2),
    (300000000000, 5), (660000000000, 5), (720000000000, 5)] = 180 := by decide

/-- No more is counted than the whole seconds from the first point to the last. -/
theorem totalRidingSeconds_le_elapsed {p q : ℤ × ℤ} {l : List (ℤ × ℤ)}
    (hl : l.Pairwise fun p q => p.1 ≤ q.1) (hfirst : l.head? = some p)
    (hlast : l.getLast? = some q) : (totalRidingSeconds l : ℤ) ≤ gapSecondsOf (q.1 - p.1) := by
  rw [totalRidingSeconds_eq]
  induction l generalizing p with
  | nil => cases hfirst
  | cons a l ih =>
      obtain rfl := Option.some.inj hfirst
      obtain ⟨ha, hl⟩ := List.pairwise_cons.1 hl
      cases l with
      | nil =>
          have hq : a = q := Option.some.inj hlast
          rw [hq, sub_self]
          exact le_rfl
      | cons b l =>
          have hab := ha b List.mem_cons_self
          have hrest := ih hl rfl hlast
          have hgap := ridingGap_cases a b
          have hbq : 0 ≤ q.1 - b.1 := by
            have hmem : q ∈ b :: l := List.mem_of_getLast? hlast
            cases List.mem_cons.1 hmem with
            | inl h => rw [h, sub_self]
            | inr h => exact sub_nonneg.2 ((List.pairwise_cons.1 hl).1 q h)
          -- whole seconds of two stretches are whole seconds of both together
          have hsum : gapSecondsOf (b.1 - a.1) + gapSecondsOf (q.1 - b.1) ≤
              gapSecondsOf (q.1 - a.1) := by
            rw [gapSecondsOf_of_nonneg (sub_nonneg.2 hab), gapSecondsOf_of_nonneg hbq,
              gapSecondsOf_of_nonneg (by omega)]
            omega
          have hpos := gapSecondsOf_nonneg (sub_nonneg.2 hab)
          rw [total_cons_cons]
          push_cast
          omega

/-! ### The points of a device -/

/-- A row, as the sum of the riding time reads it. -/
def RidePoint.speedPoint (row : RidePoint) : ℤ × ℤ := (readNanos row.serverReceivedAt, row.speedKph)

/-- Distance and riding time of the points of a ride; how a route is measured is a parameter. -/
def summarizeRide (routeKm : List (ℚ × ℚ) → ℚ) (points : List RidePoint) : RideSummary :=
  { totalDistanceKm := routeKm (points.map fun row => (row.latitude, row.longitude))
    ridingSeconds := totalRidingSeconds (points.map RidePoint.speedPoint) }

/-- The order of the rows. -/
def RidePoint.before (a b : RidePoint) : Bool :=
  a.serverReceivedAt < b.serverReceivedAt ∨ a.serverReceivedAt = b.serverReceivedAt ∧ a.id ≤ b.id

/-- All the points of a device. -/
def rideHistory (rows : List RidePoint) (imei : String) : List RidePoint :=
  (rows.filter fun row => row.imei = imei).mergeSort RidePoint.before

theorem RidePoint.before_trans (a b c : RidePoint) (hab : a.before b = true)
    (hbc : b.before c = true) : a.before c = true := by
  simp only [RidePoint.before, decide_eq_true_eq] at hab hbc ⊢
  omega

theorem RidePoint.before_total (a b : RidePoint) : (a.before b || b.before a) = true := by
  simp only [RidePoint.before, Bool.or_eq_true, decide_eq_true_eq]
  omega

theorem rideHistory_sorted (rows : List RidePoint) (imei : String) :
    (rideHistory rows imei).Pairwise fun a b => a.serverReceivedAt ≤ b.serverReceivedAt := by
  refine (List.pairwise_mergeSort RidePoint.before_trans RidePoint.before_total _).imp ?_
  intro a b hab
  simp only [RidePoint.before, decide_eq_true_eq] at hab
  omega

/-- The rows of a stretch are a stretch of the history. -/
theorem ridePoints_eq (rows : List RidePoint) (imei : String) (startedAt endedAt : ℤ) :
    ridePoints rows imei startedAt endedAt =
      (rideHistory rows imei).filter fun row =>
        startedAt ≤ row.serverReceivedAt ∧ row.serverReceivedAt ≤ endedAt := by
  rw [rideHistory, filter_mergeSort _ RidePoint.before_trans RidePoint.before_total,
    List.filter_filter]
  unfold ridePoints
  congr 1
  refine List.filter_congr fun row _ => ?_
  rw [← Bool.decide_and]
  exact decide_eq_decide.2 and_comm

/-- What a window of two rows adds. -/
def rowGap (a b : RidePoint) : ℕ := ridingGap a.speedPoint b.speedPoint

theorem lt_of_rowGap_ne_zero {a b : RidePoint} (h : rowGap a b ≠ 0) :
    a.serverReceivedAt < b.serverReceivedAt := by
  have hlt : readNanos a.serverReceivedAt < readNanos b.serverReceivedAt :=
    lt_of_ridingGap_ne_zero h
  unfold readNanos nanosPerMicro at hlt
  omega

section Source

variable (routeKm : List (ℚ × ℚ) → ℚ) (rows : List RidePoint) (imei : String)

/-- The riding time of a stretch, whether or not it has two points. -/
theorem ridingSeconds_fetchRideSummary (startedAt endedAt : ℤ) :
    (fetchRideSummary (summarizeRide routeKm) rows imei startedAt endedAt).ridingSeconds =
      totalRidingSeconds ((ridePoints rows imei startedAt endedAt).map RidePoint.speedPoint) := by
  unfold fetchRideSummary
  dsimp only
  split
  next hshort =>
    cases hpoints : ridePoints rows imei startedAt endedAt with
    | nil => rfl
    | cons p rest =>
        cases rest with
        | nil => rfl
        | cons q rest =>
            rw [hpoints, List.length_cons, List.length_cons] at hshort
            omega
  next => rfl

/-- It is summed over the windows of the history that lie in the stretch. -/
theorem ridingSeconds_eq_total (startedAt endedAt : ℤ) :
    (fetchRideSummary (summarizeRide routeKm) rows imei startedAt endedAt).ridingSeconds =
      total (fun a b => if startedAt ≤ a.serverReceivedAt ∧ b.serverReceivedAt ≤ endedAt
        then rowGap a b else 0) (rideHistory rows imei) := by
  rw [ridingSeconds_fetchRideSummary, totalRidingSeconds_eq, total_map, ridePoints_eq]
  exact total_filter_between rowGap RidePoint.serverReceivedAt startedAt endedAt
    (rideHistory_sorted rows imei)

/-! ### The rides of a range -/

def RideSummary.add (total summary : RideSummary) : RideSummary :=
  { totalDistanceKm := total.totalDistanceKm + summary.totalDistanceKm
    ridingSeconds := total.ridingSeconds + summary.ridingSeconds }

/-- The body of the loop of `fetch_analytics_ride_summary`. -/
def addRide (rangeStart rangeEnd : ℤ) (total : RideSummary) (session : EngineSession) :
    RideSummary :=
  let clippedStart := max session.createdAt rangeStart
  let clippedEnd := min (session.resolvedAt.getD rangeEnd) rangeEnd
  if clippedEnd ≤ clippedStart then total
  else total.add (fetchRideSummary (summarizeRide routeKm) rows imei clippedStart clippedEnd)

/-- `fetch_analytics_ride_summary`, while nothing is written to the history. -/
def analyticsRideSummary (sessions : List EngineSession) (rangeStart rangeEnd : ℤ) : RideSummary :=
  sessions.foldl (addRide routeKm rows imei rangeStart rangeEnd)
    { totalDistanceKm := 0, ridingSeconds := 0 }

/-- The sessions share no time but an instant at the end of one of them; a session that goes on
ends with the range. -/
def MeetAtEnds (rangeEnd : ℤ) (s t : EngineSession) : Prop :=
  min (s.resolvedAt.getD rangeEnd) (t.resolvedAt.getD rangeEnd) ≤ max s.createdAt t.createdAt

instance (rangeEnd : ℤ) : DecidableRel (MeetAtEnds rangeEnd) :=
  fun _ _ => inferInstanceAs (Decidable (_ ≤ _))

variable {sessions : List EngineSession} {rangeStart rangeEnd : ℤ}

/-- The riding time of the rides that are clipped to the range. -/
def windowSeconds (sessions : List EngineSession) (rangeStart rangeEnd : ℤ) : List ℕ :=
  (analyticsWindows sessions rangeStart rangeEnd).map fun window =>
    (fetchRideSummary (summarizeRide routeKm) rows imei window.1 window.2).ridingSeconds

theorem ridingSeconds_foldl_addRide (summary : RideSummary) :
    (sessions.foldl (addRide routeKm rows imei rangeStart rangeEnd) summary).ridingSeconds =
      summary.ridingSeconds +
        (windowSeconds routeKm rows imei sessions rangeStart rangeEnd).sum := by
  induction sessions generalizing summary with
  | nil => rfl
  | cons session rest ih =>
      rw [List.foldl_cons, ih]
      unfold addRide windowSeconds analyticsWindows
      rw [List.filterMap_cons]
      unfold rideWindow
      dsimp only
      split
      next => rfl
      next =>
        rw [List.map_cons, List.sum_cons, ← Nat.add_assoc]
        rfl

/-- The sum is one over the windows of the rides. -/
theorem ridingSeconds_analyticsRideSummary :
    (analyticsRideSummary routeKm rows imei sessions rangeStart rangeEnd).ridingSeconds =
      (windowSeconds routeKm rows imei sessions rangeStart rangeEnd).sum :=
  (ridingSeconds_foldl_addRide routeKm rows imei _).trans (Nat.zero_add _)

/-- A stretch of time lies in one session at most. -/
theorem countedIn_windows_le_one (hmeet : sessions.Pairwise (MeetAtEnds rangeEnd)) {a b : ℤ}
    (hab : a < b) : (analyticsWindows sessions rangeStart rangeEnd).countP (countedIn a b) ≤ 1 := by
  induction sessions with
  | nil => exact Nat.zero_le 1
  | cons s sessions ih =>
      obtain ⟨hs, hmeet⟩ := List.pairwise_cons.1 hmeet
      have hrest := ih hmeet
      unfold analyticsWindows at hrest ⊢
      cases hwindow : rideWindow rangeStart rangeEnd s with
      | none => rwa [List.filterMap_cons_none hwindow]
      | some window =>
          rw [List.filterMap_cons_some hwindow]
          by_cases hcounted : countedIn a b window = true
          · -- the other sessions end before the stretch, or begin after it
            have hnone : (sessions.filterMap (rideWindow rangeStart rangeEnd)).countP
                (countedIn a b) = 0 := by
              rw [List.countP_eq_zero]
              intro other hother hcounted'
              obtain ⟨t, ht, hother⟩ := List.mem_filterMap.1 hother
              have hst := hs t ht
              have hin := clipped_of_countedIn hwindow hcounted
              have hin' := clipped_of_countedIn hother hcounted'
              unfold MeetAtEnds at hst
              omega
            rw [List.countP_cons_of_pos hcounted, hnone]
          · rwa [List.countP_cons_of_neg hcounted]

/-- What the rides count of a window, the range counts once. -/
theorem sum_rides_le_range (hmeet : sessions.Pairwise (MeetAtEnds rangeEnd)) (a b : RidePoint) :
    ((analyticsWindows sessions rangeStart rangeEnd).map fun window =>
        if window.1 ≤ a.serverReceivedAt ∧ b.serverReceivedAt ≤ window.2
        then rowGap a b else 0).sum ≤
      if rangeStart ≤ a.serverReceivedAt ∧ b.serverReceivedAt ≤ rangeEnd
      then rowGap a b else 0 := by
  have hcount : ∀ windows : List (ℤ × ℤ),
      (windows.map fun window =>
        if window.1 ≤ a.serverReceivedAt ∧ b.serverReceivedAt ≤ window.2
        then rowGap a b else 0).sum =
      windows.countP (countedIn a.serverReceivedAt b.serverReceivedAt) * rowGap a b := by
    intro windows
    induction windows with
    | nil => exact (Nat.zero_mul _).symm
    | cons window windows ih =>
        rw [List.map_cons, List.sum_cons, ih, List.countP_cons, Nat.add_mul, Nat.add_comm]
        simp [countedIn]
  rw [hcount]
  by_cases hgap : rowGap a b = 0
  · rw [hgap, Nat.mul_zero]
    exact Nat.zero_le _
  · have hle : (analyticsWindows sessions rangeStart rangeEnd).countP
        (countedIn a.serverReceivedAt b.serverReceivedAt) ≤ 1 :=
      countedIn_windows_le_one hmeet (lt_of_rowGap_ne_zero hgap)
    split
    next => exact (Nat.mul_le_mul_right _ hle).trans_eq (Nat.one_mul _)
    next hout =>
      -- a ride that counts the window lies in the range
      have hnone : (analyticsWindows sessions rangeStart rangeEnd).countP
          (countedIn a.serverReceivedAt b.serverReceivedAt) = 0 := by
        rw [List.countP_eq_zero]
        intro window hwindow hcounted
        obtain ⟨session, -, hwindow⟩ := List.mem_filterMap.1 hwindow
        have hin := clipped_of_countedIn hwindow hcounted
        omega
      rw [hnone, Nat.zero_mul]

theorem gapSecondsOf_readNanos (s t : ℤ) :
    gapSecondsOf (readNanos t - readNanos s) = numSeconds (t - s) := by
  rw [gapSecondsOf, readNanos, readNanos, ← Int.sub_mul, numSeconds]
  exact Int.mul_tdiv_mul_of_pos_left _ _ (by decide)

/-- A ride is not longer than the time from its first point to its last. -/
theorem ridingSeconds_le_elapsed {startedAt endedAt : ℤ} {first last : RidePoint}
    (hfirst : (ridePoints rows imei startedAt endedAt).head? = some first)
    (hlast : (ridePoints rows imei startedAt endedAt).getLast? = some last) :
    ((fetchRideSummary (summarizeRide routeKm) rows imei startedAt endedAt).ridingSeconds : ℤ) ≤
      numSeconds (last.serverReceivedAt - first.serverReceivedAt) := by
  have hsorted : ((ridePoints rows imei startedAt endedAt).map RidePoint.speedPoint).Pairwise
      fun p q => p.1 ≤ q.1 := by
    rw [List.pairwise_map, ridePoints_eq]
    refine ((rideHistory_sorted rows imei).filter _).imp ?_
    intro a b hab
    change readNanos a.serverReceivedAt ≤ readNanos b.serverReceivedAt
    unfold readNanos nanosPerMicro
    omega
  rw [ridingSeconds_fetchRideSummary, ← gapSecondsOf_readNanos]
  refine totalRidingSeconds_le_elapsed hsorted (p := first.speedPoint) (q := last.speedPoint) ?_ ?_
  · rw [List.head?_map, hfirst, Option.map_some]
  · rw [List.getLast?_map, hlast, Option.map_some]

/-- **A report never counts too much.**  The rides of a range, if they meet at most at their ends,
have together no more riding time than the range, and the range no more than the whole seconds
between its first point and its last.  A list of points taken apart loses at most 300 seconds, and
gains none. -/
theorem riding_time_never_over_counted (hmeet : sessions.Pairwise (MeetAtEnds rangeEnd)) :
    (analyticsRideSummary routeKm rows imei sessions rangeStart rangeEnd).ridingSeconds ≤
        (fetchRideSummary (summarizeRide routeKm) rows imei rangeStart rangeEnd).ridingSeconds ∧
      (∀ first ∈ (ridePoints rows imei rangeStart rangeEnd).head?,
        ∀ last ∈ (ridePoints rows imei rangeStart rangeEnd).getLast?,
          ((fetchRideSummary (summarizeRide routeKm) rows imei
            rangeStart rangeEnd).ridingSeconds : ℤ) ≤
            numSeconds (last.serverReceivedAt - first.serverReceivedAt)) ∧
      ∀ l r : List (ℤ × ℤ),
        totalRidingSeconds l + totalRidingSeconds r ≤ totalRidingSeconds (l ++ r) ∧
          totalRidingSeconds (l ++ r) ≤ totalRidingSeconds l + totalRidingSeconds r + 300 := by
  refine ⟨?_, ?_, totalRidingSeconds_append⟩
  · rw [ridingSeconds_analyticsRideSummary, windowSeconds]
    simp only [ridingSeconds_eq_total]
    rw [sum_map_total]
    exact total_le_total (rideHistory_sorted rows imei) fun a b _ => sum_rides_le_range hmeet a b
  · intro first hfirst last hlast
    exact ridingSeconds_le_elapsed routeKm rows imei hfirst hlast

/-- A ride, as far as its riding time depends on it. -/
def rideOf (id : ℕ) (createdAt : ℤ) (resolvedAt : Option ℤ) : EngineSession :=
  { id := id
    imei := "866221070478388"
    chatId := 1
    triggerHeartbeatId := id
    promptMessageId := id
    rideStatusMessageId := none
    sessionStatus := .finished
    createdAt := createdAt
    resolvedAt := resolvedAt }

/-- Three points a minute apart: the middle one belongs to two rides. -/
def threePoints : List RidePoint :=
  [⟨1, "866221070478388", 0, -6, 106, 20⟩, ⟨2, "866221070478388", 60000000, -6, 107, 30⟩,
    ⟨3, "866221070478388", 120000000, -6, 108, 20⟩]

theorem riding_time_never_over_counted_shared_point :
    (analyticsRideSummary (fun _ => 0) threePoints "866221070478388"
        [rideOf 1 0 (some 60000000), rideOf 2 60000000 none] 0 180000000).ridingSeconds ≤
      (fetchRideSummary (summarizeRide fun _ => 0) threePoints "866221070478388" 0
        180000000).ridingSeconds :=
  (riding_time_never_over_counted _ _ _ (by decide)).1

/-! ### The bot -/

/-- What a program comes to while its requests are answered so. -/
def answered {ρ α : Type} {reply : ρ → Type} (answer : (r : ρ) → reply r) :
    Prog ρ reply α → Option α
  | .done a => some a
  | .fail => none
  | .call r k => answered answer (k (some (answer r)))

theorem answered_foldlM_request {ρ α β : Type} {reply : ρ → Type} (answer : (r : ρ) → reply r)
    (ask : β → ρ) (read : (b : β) → reply (ask b) → α) (l : List β) (as : List α) :
    answered answer (l.foldlM (fun as b => do
      let x ← request (ask b)
      pure (as ++ [read b x])) as : Prog ρ reply (List α)) =
      some (as ++ l.map fun b => read b (answer (ask b))) := by
  induction l generalizing as with
  | nil => simp [answered]
  | cons b l ih =>
      have hrest := ih (as ++ [read b (answer (ask b))])
      rw [List.append_assoc, List.singleton_append] at hrest
      rw [List.foldlM_cons, List.map_cons, ← hrest]
      rfl

variable {routeKm rows imei} in
/-- The rides that the bot adds up are those of the history. -/
theorem answered_fetchAnalyticsRideSummary {answer : (r : ChatRequest) → r.Reply}
    (hanswer : ∀ startedAt endedAt, answer (.fetchRideSummary imei startedAt endedAt) =
      fetchRideSummary (summarizeRide routeKm) rows imei startedAt endedAt) :
    ∃ rides, answered answer (fetchAnalyticsRideSummary imei sessions rangeStart rangeEnd) =
        some rides ∧
      (rides.map RideSummary.ridingSeconds).sum =
        (analyticsRideSummary routeKm rows imei sessions rangeStart rangeEnd).ridingSeconds := by
  refine ⟨_, answered_foldlM_request answer
    (fun window : ℤ × ℤ => ChatRequest.fetchRideSummary imei window.1 window.2) (fun _ x => x) _ [],
    ?_⟩
  rw [ridingSeconds_analyticsRideSummary, windowSeconds, List.nil_append, List.map_map]
  simp only [Function.comp_def, hanswer]

end Source

end Gt06
