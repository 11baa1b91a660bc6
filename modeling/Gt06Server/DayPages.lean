/-
**The pages of a day.**

The API shows a device by the day: the rides that touch a date, and what was ridden on it.  The bot
shows a chat what was ridden in a range of dates.  Each clips the rides to its own range, and a ride
that goes on ends with the range.  So a ride through the night is cut at midnight, and a stretch of
the road about midnight is in no page; everything else is in one page and in the report.

Dates are read off texts by a parameter, and how a route is measured is one.

Main definitions:

* `Gt06.getDeviceDailySummary`, `Gt06.getDeviceSessions` — the pages;
* `Gt06.stretchSeconds` — the riding time of the rides clipped to a range;
* `Gt06.midnightsRidden` — how many midnights the rides go through.

Main results:

* `Gt06.stretchSeconds_cut` — what is lost where a range is cut;
* `Gt06.day_pages_add_up` — **the pages of consecutive days are the report of their range**, up to
  the stretches about the midnights that were ridden through.
-/

import Mathlib
import Gt06Server.CalendarEnds
import Gt06Server.RidingTime
import Gt06Server.SubscriptionsPage

set_option relaxedAutoImplicit false
set_option autoImplicit false

namespace Gt06

open Neighbours Relational

/-! ### The pages -/

structure DeviceDailySummaryResponse where
  imei : String
  date : NaiveDate
  timezone : String
  generatedAt : ℤ
  customerName : Option String
  totalDistanceKm : ℚ
  ridingSeconds : ℕ
  averageSpeedKph : ℚ

inductive SessionState where
  | completed
  | ongoing
  deriving DecidableEq, Repr

structure DeviceSessionResponse where
  id : ℕ
  startedAt : ℤ
  endedAt : Option ℤ
  state : SessionState
  durationSeconds : ℤ
  distanceKm : ℚ
  deriving DecidableEq, Repr

structure DeviceSessionsResponse where
  imei : String
  date : NaiveDate
  timezone : String
  sessions : List DeviceSessionResponse

section Source

variable (parseDate : String → Option NaiveDate) (routeKm : List (ℚ × ℚ) → ℚ) (w : ChatWorld)
  (customers : List CustomerRow) (imei : String)

/-- The average of a distance over a time, in kilometers an hour. -/
def averageSpeedKph (totalDistanceKm : ℚ) (ridingSeconds : ℕ) : ℚ :=
  let ridingHours : ℚ := ridingSeconds / 3600
  if 0 < ridingHours then totalDistanceKm / ridingHours else 0

/-- The loop over the rows of `get_device_daily_summary`. -/
def dailySummary (dayStart dayEnd now : ℤ) : RideSummary :=
  (dailySummarySessions w.telegramEngineSessions imei dayStart dayEnd now).foldl
    (addRide routeKm w.deviceLocations imei dayStart (min dayEnd now))
    { totalDistanceKm := 0, ridingSeconds := 0 }

/-- The page of a date, by the instants of the date. -/
def dailySummaryPage (now : ℤ) (day : NaiveDate × ℤ × ℤ) : DeviceDailySummaryResponse :=
  let summary := dailySummary routeKm w imei day.2.1 day.2.2 now
  { imei := imei
    date := day.1
    timezone := "Asia/Jakarta"
    generatedAt := now
    customerName := (customerOf customers imei).map CustomerRow.name
    totalDistanceKm := summary.totalDistanceKm
    ridingSeconds := summary.ridingSeconds
    averageSpeedKph := averageSpeedKph summary.totalDistanceKm summary.ridingSeconds }

def getDeviceDailySummary (date : String) (now : ℤ) :
    Except Panic (Except Calendar.DateError DeviceDailySummaryResponse) := do
  return (← Calendar.wibDayBounds parseDate date).map
    (dailySummaryPage routeKm w customers imei now)

/-- The rows of `get_device_sessions`: `ORDER BY created_at DESC, id DESC`. -/
def pageSessions (rows : List EngineSession) (dayStart dayEnd now : ℤ) : List EngineSession :=
  (rows.filter fun row => row.imei = imei ∧ row.createdAt < dayEnd ∧
    dayStart < row.resolvedAt.getD now).mergeSort fun a b =>
      b.createdAt < a.createdAt ∨ a.createdAt = b.createdAt ∧ b.id ≤ a.id

def deviceSessionResponse (now : ℤ) (session : EngineSession) : DeviceSessionResponse :=
  let effectiveEnd := session.resolvedAt.getD now
  { id := session.id
    startedAt := session.createdAt
    endedAt := session.resolvedAt
    state := if session.resolvedAt.isSome then .completed else .ongoing
    durationSeconds := max (numSeconds (effectiveEnd - session.createdAt)) 0
    distanceKm := (fetchRideSummary (summarizeRide routeKm) w.deviceLocations imei session.createdAt
      effectiveEnd).totalDistanceKm }

def sessionsPage (now : ℤ) (day : NaiveDate × ℤ × ℤ) : DeviceSessionsResponse :=
  { imei := imei
    date := day.1
    timezone := "Asia/Jakarta"
    sessions := (pageSessions imei w.telegramEngineSessions day.2.1 day.2.2 now).map
      (deviceSessionResponse routeKm w imei now) }

def getDeviceSessions (date : String) (now : ℤ) :
    Except Panic (Except Calendar.DateError DeviceSessionsResponse) := do
  return (← Calendar.wibDayBounds parseDate date).map (sessionsPage routeKm w imei now)

end Source

/-! ### The riding time of a range -/

section Stretch

variable (rows : List RidePoint) (imei : String)

/-- The riding time from an instant to another. -/
def secondsBetween (startedAt endedAt : ℤ) : ℕ :=
  total (between rowGap RidePoint.serverReceivedAt startedAt endedAt) (rideHistory rows imei)

/-- The riding time of the rides clipped to a range; a ride that goes on lasts until now. -/
def stretchSeconds (now : ℤ) (sessions : List EngineSession) (a b : ℤ) : ℕ :=
  (sessions.map fun session => secondsBetween rows imei (max session.createdAt a)
    (min (session.resolvedAt.getD now) b)).sum

/-- The ride goes on from before an instant until after it. -/
def RidesThrough (now t : ℤ) (session : EngineSession) : Prop :=
  session.createdAt < t ∧ t < session.resolvedAt.getD now

instance (now t : ℤ) : DecidablePred (RidesThrough now t) :=
  fun _ => inferInstanceAs (Decidable (_ ∧ _))

variable {rows imei}

theorem ridingSeconds_eq_secondsBetween (routeKm : List (ℚ × ℚ) → ℚ) (startedAt endedAt : ℤ) :
    (fetchRideSummary (summarizeRide routeKm) rows imei startedAt endedAt).ridingSeconds =
      secondsBetween rows imei startedAt endedAt := ridingSeconds_eq_total routeKm rows imei _ _

theorem rowGap_le (a b : RidePoint) : rowGap a b ≤ 300 := ridingGap_le _ _

theorem rowGap_eq_zero (a b : RidePoint) (h : a.serverReceivedAt = b.serverReceivedAt) :
    rowGap a b = 0 := by
  by_contra hgap
  exact absurd (lt_of_rowGap_ne_zero hgap) (lt_irrefl _ <| h ▸ ·)

theorem secondsBetween_eq_zero {startedAt endedAt : ℤ} (h : endedAt ≤ startedAt) :
    secondsBetween rows imei startedAt endedAt = 0 := by
  have hle : secondsBetween rows imei startedAt endedAt ≤
      total (fun _ _ => 0) (rideHistory rows imei) := by
    refine total_le_total (rideHistory_sorted rows imei) fun a b hab => ?_
    unfold between
    split
    next hin => exact (rowGap_eq_zero a b (by omega)).le
    next => exact le_rfl
  rw [total_zero] at hle
  exact Nat.le_zero.1 hle

theorem cut_secondsBetween (startedAt endedAt t : ℤ) :
    secondsBetween rows imei startedAt (min endedAt t) +
        secondsBetween rows imei (max startedAt t) endedAt ≤
      secondsBetween rows imei startedAt endedAt ∧
    secondsBetween rows imei startedAt endedAt ≤
      secondsBetween rows imei startedAt (min endedAt t) +
        secondsBetween rows imei (max startedAt t) endedAt +
          if startedAt < t ∧ t < endedAt then 300 else 0 :=
  total_between_cut (fun _ _ => Nat.zero_le _) rowGap_le (by decide) rowGap_eq_zero
    (rideHistory_sorted rows imei)

/-- A ride that is cut at an instant loses at most the window about it, and none unless it goes
through it. -/
theorem secondsBetween_cut {a b t now : ℤ} (hat : a ≤ t) (htb : t ≤ b) (session : EngineSession) :
    secondsBetween rows imei (max session.createdAt a) (min (session.resolvedAt.getD now) t) +
        secondsBetween rows imei (max session.createdAt t) (min (session.resolvedAt.getD now) b) ≤
      secondsBetween rows imei (max session.createdAt a) (min (session.resolvedAt.getD now) b) ∧
    secondsBetween rows imei (max session.createdAt a) (min (session.resolvedAt.getD now) b) ≤
      secondsBetween rows imei (max session.createdAt a) (min (session.resolvedAt.getD now) t) +
        secondsBetween rows imei (max session.createdAt t) (min (session.resolvedAt.getD now) b) +
          if RidesThrough now t session then 300 else 0 := by
  have hcut := @cut_secondsBetween rows imei (max session.createdAt a)
    (min (session.resolvedAt.getD now) b) t
  rw [min_assoc, min_eq_right htb, max_assoc, max_eq_right hat] at hcut
  refine ⟨hcut.1, hcut.2.trans (Nat.add_le_add_left ?_ _)⟩
  split
  next hin =>
    have hthrough : RidesThrough now t session := by
      unfold RidesThrough
      omega
    rw [if_pos hthrough]
  next => exact Nat.zero_le _

/-- A range that is cut loses at most one window of every ride through the cut. -/
theorem stretchSeconds_cut {a b t now : ℤ} (hat : a ≤ t) (htb : t ≤ b)
    (sessions : List EngineSession) :
    stretchSeconds rows imei now sessions a t + stretchSeconds rows imei now sessions t b ≤
        stretchSeconds rows imei now sessions a b ∧
      stretchSeconds rows imei now sessions a b ≤
        stretchSeconds rows imei now sessions a t + stretchSeconds rows imei now sessions t b +
          300 * sessions.countP fun session => RidesThrough now t session := by
  unfold stretchSeconds
  induction sessions with
  | nil => simp
  | cons session sessions ih =>
      have hsession := @secondsBetween_cut rows imei a b t now hat htb session
      simp only [List.map_cons, List.sum_cons, List.countP_cons, decide_eq_true_eq]
      split at hsession
      next hthrough =>
        rw [if_pos hthrough]
        omega
      next hpast =>
        rw [if_neg hpast]
        omega

/-- How many midnights the rides go through, of those between so many days and the next. -/
def midnightsRidden (now first : ℤ) (n : ℕ) (sessions : List EngineSession) : ℕ :=
  ∑ i ∈ Finset.range n, sessions.countP fun session =>
    RidesThrough now (wibDayStart (first + (i + 1 : ℕ))) session

theorem wibDayStart_mono {day day' : ℤ} (h : day ≤ day') : wibDayStart day ≤ wibDayStart day' := by
  unfold wibDayStart days microsPerDay microsPerSecond
  omega

/-- Days after one another are their range, but for the midnights. -/
theorem stretchSeconds_days (now first : ℤ) (n : ℕ) (sessions : List EngineSession) :
    ∑ i ∈ Finset.range (n + 1), stretchSeconds rows imei now sessions
          (wibDayStart (first + i)) (wibDayStart (first + i + 1)) ≤
        stretchSeconds rows imei now sessions (wibDayStart first)
          (wibDayStart (first + (n + 1 : ℕ))) ∧
      stretchSeconds rows imei now sessions (wibDayStart first)
          (wibDayStart (first + (n + 1 : ℕ))) ≤
        ∑ i ∈ Finset.range (n + 1), stretchSeconds rows imei now sessions
            (wibDayStart (first + i)) (wibDayStart (first + i + 1)) +
          300 * midnightsRidden now first n sessions := by
  induction n with
  | zero => simp [midnightsRidden]
  | succ n ih =>
      have hcut := @stretchSeconds_cut rows imei (wibDayStart first)
        (wibDayStart (first + (n + 1 + 1 : ℕ))) (wibDayStart (first + (n + 1 : ℕ))) now
        (wibDayStart_mono (by omega)) (wibDayStart_mono (by omega)) sessions
      have hnext : first + ((n + 1 + 1 : ℕ) : ℤ) = first + ((n + 1 : ℕ) : ℤ) + 1 := by
        push_cast
        ring
      have hmidnights : midnightsRidden now first (n + 1) sessions =
          midnightsRidden now first n sessions + sessions.countP fun session =>
            RidesThrough now (wibDayStart (first + (n + 1 : ℕ))) session :=
        Finset.sum_range_succ _ _
      rw [Finset.sum_range_succ _ (n + 1), hmidnights]
      rw [hnext] at hcut ⊢
      omega

end Stretch

/-! ### The pages and the report -/

section Pages

variable {routeKm : List (ℚ × ℚ) → ℚ} {w : ChatWorld} {imei : String} {chatId now : ℤ}

/-- The rides of the device that are over ended before now. -/
def EndedBy (now : ℤ) (sessions : List EngineSession) : Prop :=
  ∀ session ∈ sessions, ∀ resolvedAt ∈ session.resolvedAt, resolvedAt ≤ now

instance (now : ℤ) (sessions : List EngineSession) : Decidable (EndedBy now sessions) :=
  inferInstanceAs (Decidable (∀ session ∈ sessions, _))

theorem secondsBetween_window {rows : List RidePoint} {session : EngineSession} {a b : ℤ}
    (hended : ∀ resolvedAt ∈ session.resolvedAt, resolvedAt ≤ now) :
    ((rideWindow a (min b now) session).map fun window =>
        secondsBetween rows imei window.1 window.2).getD 0 =
      secondsBetween rows imei (max session.createdAt a)
        (min (session.resolvedAt.getD now) b) := by
  have hend : min (session.resolvedAt.getD (min b now)) (min b now) =
      min (session.resolvedAt.getD now) b := by
    cases hresolved : session.resolvedAt with
    | none =>
        simp only [Option.getD_none]
        omega
    | some resolvedAt =>
        have hle := hended resolvedAt hresolved
        simp only [Option.getD_some]
        omega
  unfold rideWindow
  dsimp only
  rw [hend]
  split
  next hempty => exact (secondsBetween_eq_zero hempty).symm
  next => rfl

/-- The windows of a report have the riding time of the rides clipped to its range. -/
theorem windowSeconds_eq {rows : List RidePoint} {sessions : List EngineSession}
    (hended : EndedBy now sessions) (a b : ℤ) :
    (windowSeconds routeKm rows imei sessions a (min b now)).sum =
      stretchSeconds rows imei now sessions a b := by
  unfold windowSeconds analyticsWindows stretchSeconds
  induction sessions with
  | nil => rfl
  | cons session sessions ih =>
      obtain ⟨hsession, hrest⟩ := List.forall_mem_cons.1 hended
      have hwindow := @secondsBetween_window imei now rows session a b hsession
      rw [List.map_cons, List.sum_cons, ← ih hrest, ← hwindow]
      cases hcase : rideWindow a (min b now) session with
      | none =>
          rw [List.filterMap_cons_none hcase]
          exact (Nat.zero_add _).symm
      | some window =>
          rw [List.filterMap_cons_some hcase, List.map_cons, List.sum_cons,
            ridingSeconds_eq_secondsBetween]
          rfl

/-- The rides that touch a range are those that are clipped to something. -/
theorem stretchSeconds_filter {rows : List RidePoint} (sessions : List EngineSession) (a b : ℤ) :
    stretchSeconds rows imei now
        (sessions.filter fun row => row.createdAt < b ∧ a < row.resolvedAt.getD now) a b =
      stretchSeconds rows imei now sessions a b := by
  unfold stretchSeconds
  induction sessions with
  | nil => rfl
  | cons session sessions ih =>
      rw [List.filter_cons, List.map_cons, List.sum_cons, ← ih]
      split
      next => rw [List.map_cons, List.sum_cons]
      next hout =>
        have hzero : secondsBetween rows imei (max session.createdAt a)
            (min (session.resolvedAt.getD now) b) = 0 := by
          refine secondsBetween_eq_zero ?_
          simp only [decide_eq_true_eq, not_and_or] at hout
          omega
        rw [hzero, Nat.zero_add]

/-- The rides of a device. -/
def deviceSessions (rows : List EngineSession) (imei : String) : List EngineSession :=
  rows.filter fun row => row.imei = imei

theorem stretchSeconds_dailySummarySessions (a b : ℤ) :
    stretchSeconds w.deviceLocations imei now
        (dailySummarySessions w.telegramEngineSessions imei a b now) a b =
      stretchSeconds w.deviceLocations imei now
        (deviceSessions w.telegramEngineSessions imei) a b := by
  rw [← stretchSeconds_filter (deviceSessions _ _)]
  unfold stretchSeconds dailySummarySessions deviceSessions
  refine List.Perm.sum_eq (List.Perm.map _ ((List.mergeSort_perm _ _).trans ?_))
  rw [List.filter_filter]
  refine List.Perm.of_eq (List.filter_congr fun row _ => ?_)
  rw [← Bool.decide_and]
  exact decide_eq_decide.2 and_comm

/-- What a day's page adds up. -/
theorem ridingSeconds_dailySummary
    (hended : EndedBy now (deviceSessions w.telegramEngineSessions imei)) (a b : ℤ) :
    (dailySummary routeKm w imei a b now).ridingSeconds =
      stretchSeconds w.deviceLocations imei now
        (deviceSessions w.telegramEngineSessions imei) a b := by
  have hpage : EndedBy now (dailySummarySessions w.telegramEngineSessions imei a b now) := by
    intro session hsession
    rw [dailySummarySessions, List.mem_mergeSort, List.mem_filter, decide_eq_true_eq] at hsession
    exact hended session (List.mem_filter.2 ⟨hsession.1, decide_eq_true hsession.2.1⟩)
  rw [dailySummary, ridingSeconds_foldl_addRide, Nat.zero_add, windowSeconds_eq hpage,
    stretchSeconds_dailySummarySessions]

/-- While the device has been bound to one chat, the bot asks for the rides of the page. -/
theorem fetchAnalyticsSessions_eq
    (honeChat : ∀ session ∈ deviceSessions w.telegramEngineSessions imei, session.chatId = chatId)
    (a b : ℤ) : fetchAnalyticsSessions w.telegramEngineSessions imei chatId a b now =
      dailySummarySessions w.telegramEngineSessions imei a b now := by
  unfold fetchAnalyticsSessions dailySummarySessions
  congr 1
  refine List.filter_congr fun session hsession => decide_eq_decide.2 ?_
  constructor
  · rintro ⟨himei, -, hrange⟩
    exact ⟨himei, hrange⟩
  · rintro ⟨himei, hrange⟩
    exact ⟨himei, honeChat session (List.mem_filter.2 ⟨hsession, decide_eq_true himei⟩), hrange⟩

end Pages

/-! ### The bot's report -/

section Report

variable {routeKm : List (ℚ × ℚ) → ℚ} {w : ChatWorld} {imei : String} {chatId now : ℤ}

theorem answered_bind {ρ α β : Type} {reply : ρ → Type} (answer : (r : ρ) → reply r)
    (p : Await.Prog ρ reply α) (f : α → Await.Prog ρ reply β) :
    answered answer (p >>= f) = (answered answer p).bind fun a => answered answer (f a) := by
  induction p with
  | done a => rfl
  | fail => rfl
  | call r k ih => exact ih (some (answer r))

/-- The rides of a report, over a history that stands still. -/
def reportRides (routeKm : List (ℚ × ℚ) → ℚ) (w : ChatWorld) (imei : String) (chatId now : ℤ)
    (range : AnalyticsDateRange) : List RideSummary :=
  (analyticsWindows (fetchAnalyticsSessions w.telegramEngineSessions imei chatId range.startedAt
    range.endedAt now) range.startedAt (min now range.endedAt)).map fun window =>
      fetchRideSummary (summarizeRide routeKm) w.deviceLocations imei window.1 window.2

/-- A report whose text is made of the rides. -/
theorem answered_reportRides (outcome : ChatOutcome) (range : AnalyticsDateRange)
    (text : List RideSummary → AnalyticsReport) :
    answered (fun r => (w.execute (summarizeRide routeKm) outcome r).1) (do
        let rides ← fetchAnalyticsRideSummary imei (fetchAnalyticsSessions w.telegramEngineSessions
          imei chatId range.startedAt range.endedAt now) range.startedAt (min now range.endedAt)
        pure (text rides)) =
      some (text (reportRides routeKm w imei chatId now range)) := by
  have hrides : answered (fun r => (w.execute (summarizeRide routeKm) outcome r).1)
      (fetchAnalyticsRideSummary imei (fetchAnalyticsSessions w.telegramEngineSessions imei chatId
        range.startedAt range.endedAt now) range.startedAt (min now range.endedAt)) =
      some (reportRides routeKm w imei chatId now range) :=
    answered_foldlM_request (fun r => (w.execute (summarizeRide routeKm) outcome r).1)
      (fun window : ℤ × ℤ => ChatRequest.fetchRideSummary imei window.1 window.2)
      (fun _ summary => summary) (analyticsWindows _ _ _) []
  rw [answered_bind, hrides]
  rfl

theorem answered_buildAnalyticsReport (outcome : ChatOutcome) (range : AnalyticsDateRange) :
    answered (fun r => (w.execute (summarizeRide routeKm) outcome r).1)
        (buildAnalyticsReport chatId imei .metrics range now) =
      some (.metrics range (reportRides routeKm w imei chatId now range)) ∧
    answered (fun r => (w.execute (summarizeRide routeKm) outcome r).1)
        (buildAnalyticsReport chatId imei .totalDrivingTime range now) =
      some (.totalDrivingTime range (reportRides routeKm w imei chatId now range)) :=
  ⟨answered_reportRides outcome range (.metrics range),
    answered_reportRides outcome range (.totalDrivingTime range)⟩

/-- What the rides of a report add up to. -/
def totalRides (rides : List RideSummary) : RideSummary :=
  { totalDistanceKm := (rides.map RideSummary.totalDistanceKm).sum
    ridingSeconds := (rides.map RideSummary.ridingSeconds).sum }

theorem foldl_addRide (rows : List RidePoint) (sessions : List EngineSession) (a b : ℤ)
    (summary : RideSummary) :
    sessions.foldl (addRide routeKm rows imei a b) summary =
      summary.add (totalRides ((analyticsWindows sessions a b).map fun window =>
        fetchRideSummary (summarizeRide routeKm) rows imei window.1 window.2)) := by
  unfold totalRides
  induction sessions generalizing summary with
  | nil => simp [analyticsWindows, RideSummary.add]
  | cons session sessions ih =>
      rw [List.foldl_cons, ih]
      unfold addRide analyticsWindows
      rw [List.filterMap_cons]
      unfold rideWindow
      dsimp only
      split
      next => rfl
      next => simp only [List.map_cons, List.sum_cons, RideSummary.add, add_assoc]

/-- The page of a day adds up the rides of the bot's report of the day. -/
theorem dailySummary_eq
    (honeChat : ∀ session ∈ deviceSessions w.telegramEngineSessions imei, session.chatId = chatId)
    (range : AnalyticsDateRange) :
    dailySummary routeKm w imei range.startedAt range.endedAt now =
      totalRides (reportRides routeKm w imei chatId now range) := by
  rw [dailySummary, foldl_addRide, reportRides, fetchAnalyticsSessions_eq honeChat, min_comm,
    RideSummary.add]
  simp only [zero_add]

/-- The rides of a range have the riding time of the rides clipped to it. -/
theorem ridingSeconds_reportRides
    (hended : EndedBy now (deviceSessions w.telegramEngineSessions imei))
    (honeChat : ∀ session ∈ deviceSessions w.telegramEngineSessions imei, session.chatId = chatId)
    (range : AnalyticsDateRange) :
    (totalRides (reportRides routeKm w imei chatId now range)).ridingSeconds =
      stretchSeconds w.deviceLocations imei now (deviceSessions w.telegramEngineSessions imei)
        range.startedAt range.endedAt := by
  rw [← dailySummary_eq honeChat, ridingSeconds_dailySummary hended]

/-- The order of the page of the rides. -/
def EngineSession.NotBefore (s t : EngineSession) : Prop :=
  t.createdAt < s.createdAt ∨ s.createdAt = t.createdAt ∧ t.id ≤ s.id

/-- The page of the rides has the rides of the report, the last one first. -/
theorem pageSessions_eq (hid : UniqueOn EngineSession.id w.telegramEngineSessions)
    (honeChat : ∀ session ∈ deviceSessions w.telegramEngineSessions imei, session.chatId = chatId)
    (a b : ℤ) : pageSessions imei w.telegramEngineSessions a b now =
      (fetchAnalyticsSessions w.telegramEngineSessions imei chatId a b now).reverse := by
  rw [fetchAnalyticsSessions_eq honeChat]
  have hsubset : ∀ session ∈ pageSessions imei w.telegramEngineSessions a b now,
      session ∈ w.telegramEngineSessions :=
    fun session h => List.mem_of_mem_filter (List.mem_mergeSort.1 h)
  have hperm : (pageSessions imei w.telegramEngineSessions a b now).Perm
      (dailySummarySessions w.telegramEngineSessions imei a b now).reverse :=
    (List.mergeSort_perm _ _).trans
      ((List.mergeSort_perm _ _).symm.trans (List.reverse_perm _).symm)
  have hpage : (pageSessions imei w.telegramEngineSessions a b now).Pairwise
      EngineSession.NotBefore := by
    refine (List.pairwise_mergeSort ?_ ?_ _).imp fun {s t} hst => ?_
    · intro s t u hst htu
      simp only [decide_eq_true_eq] at hst htu ⊢
      omega
    · intro s t
      simp only [Bool.or_eq_true, decide_eq_true_eq]
      omega
    · have hst := of_decide_eq_true hst
      exact hst
  have hreport : (dailySummarySessions w.telegramEngineSessions imei a b now).reverse.Pairwise
      EngineSession.NotBefore := by
    refine List.pairwise_reverse.2 ((List.pairwise_mergeSort ?_ ?_ _).imp fun {s t} hst => ?_)
    · intro s t u hst htu
      simp only [decide_eq_true_eq] at hst htu ⊢
      omega
    · intro s t
      simp only [Bool.or_eq_true, decide_eq_true_eq]
      omega
    · have hst := of_decide_eq_true hst
      unfold EngineSession.NotBefore
      omega
  refine hperm.eq_of_pairwise ?_ hpage hreport
  intro s t hs ht hst hts
  refine hid.eq_of_key_eq (hsubset s hs) (hsubset t (hperm.symm.subset ht)) ?_
  unfold EngineSession.NotBefore at hst hts
  omega

end Report

/-- The range of some days that the bot makes of two dates. -/
def dayRange (label : String) (first : ℤ) (days : ℕ) : AnalyticsDateRange :=
  ⟨label, wibDayStart first, wibDayStart (first + days)⟩

/-- The pages of a date and the bot's report of it. -/
structure PagesAgree (routeKm : List (ℚ × ℚ) → ℚ) (w : ChatWorld) (imei : String)
    (chatId now : ℤ) (range : AnalyticsDateRange) (summary : DeviceDailySummaryResponse)
    (page : DeviceSessionsResponse) : Prop where
  distance : summary.totalDistanceKm =
    (totalRides (reportRides routeKm w imei chatId now range)).totalDistanceKm
  seconds : summary.ridingSeconds =
    (totalRides (reportRides routeKm w imei chatId now range)).ridingSeconds
  rides : page.sessions.map DeviceSessionResponse.id =
    ((fetchAnalyticsSessions w.telegramEngineSessions imei chatId range.startedAt range.endedAt
      now).map EngineSession.id).reverse

/-- The instants of a date that is not the first one of the calendar. -/
def dayBounds (date : NaiveDate) : NaiveDate × ℤ × ℤ :=
  (date, wibDayStart date.day, wibDayStart (date.day + 1))

theorem day_of_consecutive {day : ℕ → NaiveDate} {n : ℕ}
    (hnext : ∀ i < n, (day i).checkedNextDay = some (day (i + 1))) :
    ∀ i ≤ n, (day i).day = (day 0).day + i := by
  intro i hi
  induction i with
  | zero => simp
  | succ i ih =>
      rw [NaiveDate.day_of_checkedNextDay (hnext i hi), ih (by omega)]
      push_cast
      ring

/-- **The pages of consecutive days are the report of their range.**  For a device that has been
bound to one chat, while nothing is written: the pages of a date show the rides of the bot's report
of the date, and add up the same distance and riding time; and the riding time of the bot's report
of several days is that of the pages of the days, but for at most 300 seconds for every midnight
that a ride goes through, and never less. -/
theorem day_pages_add_up {parseDate : String → Option NaiveDate} {routeKm : List (ℚ × ℚ) → ℚ}
    {w : ChatWorld} {imei : String} {chatId now : ℤ} {n : ℕ} {date : ℕ → String}
    {day : ℕ → NaiveDate} (hparse : ∀ i ≤ n, parseDate (date i) = some (day i))
    (hnext : ∀ i < n, (day i).checkedNextDay = some (day (i + 1)))
    (hfirst : day 0 ≠ NaiveDate.first)
    (hid : UniqueOn EngineSession.id w.telegramEngineSessions)
    (hended : EndedBy now (deviceSessions w.telegramEngineSessions imei))
    (honeChat : ∀ session ∈ deviceSessions w.telegramEngineSessions imei, session.chatId = chatId)
    (customers : List CustomerRow) (outcome : ChatOutcome) (label : String) :
    ∃ (summary : ℕ → DeviceDailySummaryResponse) (page : ℕ → DeviceSessionsResponse)
      (rides : List RideSummary),
      (∀ i ≤ n,
        getDeviceDailySummary parseDate routeKm w customers imei (date i) now =
            .ok (.ok (summary i)) ∧
          getDeviceSessions parseDate routeKm w imei (date i) now = .ok (.ok (page i)) ∧
          PagesAgree routeKm w imei chatId now (dayRange label (day i).day 1) (summary i)
            (page i)) ∧
      answered (fun r => (w.execute (summarizeRide routeKm) outcome r).1)
          (buildAnalyticsReport chatId imei .totalDrivingTime
            (dayRange label (day 0).day (n + 1)) now) =
        some (.totalDrivingTime (dayRange label (day 0).day (n + 1)) rides) ∧
      ∑ i ∈ Finset.range (n + 1), (summary i).ridingSeconds ≤ (totalRides rides).ridingSeconds ∧
      (totalRides rides).ridingSeconds ≤
        ∑ i ∈ Finset.range (n + 1), (summary i).ridingSeconds + 300 * midnightsRidden now
          (day 0).day n (deviceSessions w.telegramEngineSessions imei) := by
  have hday := day_of_consecutive hnext
  have hne : ∀ i ≤ n, day i ≠ NaiveDate.first := by
    intro i hi heq
    have hle := (day 0).firstDay_le
    rw [Ne, NaiveDate.eq_first_iff] at hfirst
    rw [NaiveDate.eq_first_iff, hday i hi] at heq
    omega
  refine ⟨fun i => dailySummaryPage routeKm w customers imei now (dayBounds (day i)),
    fun i => sessionsPage routeKm w imei now (dayBounds (day i)),
    reportRides routeKm w imei chatId now (dayRange label (day 0).day (n + 1)), ?_,
    (answered_buildAnalyticsReport outcome _).2, ?_⟩
  · intro i hi
    have hbounds := Calendar.wibDayBounds_of_ne (hparse i hi) (hne i hi)
    have htotal := @dailySummary_eq routeKm w imei chatId now honeChat
      (dayRange label (day i).day 1)
    refine ⟨?_, ?_, ?_, ?_, ?_⟩
    · rw [getDeviceDailySummary, hbounds]
      rfl
    · rw [getDeviceSessions, hbounds]
      rfl
    · exact congrArg RideSummary.totalDistanceKm htotal
    · exact congrArg RideSummary.ridingSeconds htotal
    · have hpage := @pageSessions_eq w imei chatId now hid honeChat (wibDayStart (day i).day)
        (wibDayStart ((day i).day + 1))
      refine List.map_map.trans ?_
      rw [← List.map_reverse]
      exact congrArg (List.map EngineSession.id) hpage
  · have hpages : ∑ i ∈ Finset.range (n + 1),
        (dailySummaryPage routeKm w customers imei now (dayBounds (day i))).ridingSeconds =
        ∑ i ∈ Finset.range (n + 1), stretchSeconds w.deviceLocations imei now
          (deviceSessions w.telegramEngineSessions imei) (wibDayStart ((day 0).day + i))
          (wibDayStart ((day 0).day + i + 1)) := by
      refine Finset.sum_congr rfl fun i hi => ?_
      rw [← hday i (by simpa [Nat.lt_succ_iff] using hi)]
      exact ridingSeconds_dailySummary hended _ _
    rw [hpages, ridingSeconds_reportRides hended honeChat]
    exact stretchSeconds_days now (day 0).day n _

/-- A ride through two midnights, ridden around the first of them. -/
def nightRider : ChatWorld where
  now := 259200000000
  devices := []
  deviceLocations :=
    [⟨1, "866221070478388", 61140000000, -6, 106, 20⟩,
      ⟨2, "866221070478388", 61260000000, -6, 107, 30⟩,
      ⟨3, "866221070478388", 61320000000, -6, 108, 20⟩]
  deviceHeartbeats := []
  telegramUsers := []
  telegramSubscriptions := []
  telegramEngineSessions := [rideOf 1 61000000000 none]
  telegramBotState := []

/-- The first two dates of 1970, as they are written. -/
def epochDate (i : ℕ) : String := if i = 0 then "1970-01-01" else "1970-01-02"

def epochDay (i : ℕ) : NaiveDate :=
  if i = 0 then ⟨0, by decide, by decide⟩ else ⟨1, by decide, by decide⟩

def parseEpochDate (text : String) : Option NaiveDate :=
  if text = epochDate 0 then some (epochDay 0)
  else if text = epochDate 1 then some (epochDay 1)
  else none

/-- The ride goes through the midnight between the two dates, and what is in no page is less than
five minutes. -/
theorem day_pages_add_up_nightRider :
    ∃ (summary : ℕ → DeviceDailySummaryResponse) (rides : List RideSummary),
      getDeviceDailySummary parseEpochDate (fun _ => 0) nightRider [] "866221070478388"
          "1970-01-02" 259200000000 = .ok (.ok (summary 1)) ∧
        ∑ i ∈ Finset.range 2, (summary i).ridingSeconds ≤ (totalRides rides).ridingSeconds ∧
        (totalRides rides).ridingSeconds ≤
          ∑ i ∈ Finset.range 2, (summary i).ridingSeconds + 300 := by
  have hmidnights : midnightsRidden 259200000000 (epochDay 0).day 1
      (deviceSessions nightRider.telegramEngineSessions "866221070478388") = 1 := by decide
  have hparse : ∀ i ≤ 1, parseEpochDate (epochDate i) = some (epochDay i) := by
    intro i hi
    interval_cases i
    · rfl
    · rfl
  have hnext : ∀ i < 1, (epochDay i).checkedNextDay = some (epochDay (i + 1)) := by
    intro i hi
    interval_cases i
    rfl
  obtain ⟨summary, page, rides, hpages, -, hle, hlost⟩ := @day_pages_add_up parseEpochDate
    (fun _ => 0) nightRider "866221070478388" 1 259200000000 1 epochDate epochDay hparse hnext
    (by decide) (by decide) (by decide) (by decide) [] ⟨false, 1, 0⟩ "Rentang custom"
  rw [hmidnights] at hlost
  exact ⟨summary, rides, (hpages 1 le_rfl).1, hle, hlost⟩

end Gt06
