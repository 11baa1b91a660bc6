/-
**Rides and their GPS segments.**

A row of `telegram_engine_sessions` is a ride: it begins when the row is created and lasts until
it is resolved, or until further notice.  The distance and the riding time of a report are summed
over the rides of a range, each clipped to the range, so that a stretch of the road is counted
once for every ride it falls into.

Rides that share no time do not share a stretch either.

Main definitions:

* `Gt06.EngineSession.Covers` — a stretch of time falls into a ride;
* `Gt06.rideWindow` — a ride clipped to a range;
* `Gt06.analyticsWindows`, `Gt06.dailySummaryWindows` — the windows the two reports sum over;
* `Gt06.RidesSeparate` — the rides of a device and chat share no time, and no stretch is counted
  twice.

Main results:

* `Gt06.ridesSeparate_of_disjoint` — a stretch is counted twice only if two rides share time.
-/

import Gt06Server.Bot

set_option relaxedAutoImplicit false
set_option autoImplicit false

namespace Gt06

open Relational

/-! ### Rides -/

/-- The time from `a` to `b` falls into the ride. -/
def EngineSession.Covers (session : EngineSession) (a b : ℤ) : Prop :=
  session.createdAt ≤ a ∧ ∀ resolvedAt ∈ session.resolvedAt, b ≤ resolvedAt

instance (session : EngineSession) (a b : ℤ) : Decidable (session.Covers a b) :=
  inferInstanceAs (Decidable (_ ∧ ∀ resolvedAt ∈ session.resolvedAt, b ≤ resolvedAt))

/-- The ride clipped to a range, as `fetch_analytics_ride_summary` and `get_device_daily_summary`
do it; a window without length is passed over. -/
def rideWindow (rangeStart rangeEnd : ℤ) (session : EngineSession) : Option (ℤ × ℤ) :=
  let clippedStart := max session.createdAt rangeStart
  let clippedEnd := min (session.resolvedAt.getD rangeEnd) rangeEnd
  if clippedEnd ≤ clippedStart then none else some (clippedStart, clippedEnd)

/-- Both ends of a GPS segment lie in the window, so that `fetch_ride_summary` counts it. -/
def countedIn (a b : ℤ) (window : ℤ × ℤ) : Bool := window.1 ≤ a ∧ b ≤ window.2

/-- The time from `a` to `b` lies in the ride and in the range. -/
theorem clipped_of_countedIn {rangeStart rangeEnd a b : ℤ} {session : EngineSession}
    {window : ℤ × ℤ} (h : rideWindow rangeStart rangeEnd session = some window)
    (hcounted : countedIn a b window = true) :
    max session.createdAt rangeStart ≤ a ∧ b ≤ min (session.resolvedAt.getD rangeEnd) rangeEnd := by
  simp only [rideWindow] at h
  split at h
  · exact absurd h (by simp)
  · obtain rfl := Option.some.inj h
    simpa [countedIn] using hcounted

theorem covers_of_rideWindow {rangeStart rangeEnd a b : ℤ} {session : EngineSession}
    {window : ℤ × ℤ} (h : rideWindow rangeStart rangeEnd session = some window)
    (hcounted : countedIn a b window = true) : session.Covers a b := by
  have hclipped := clipped_of_countedIn h hcounted
  constructor
  · exact (le_max_left _ _).trans hclipped.1
  · intro resolvedAt hresolved
    have hle := hclipped.2.trans (min_le_left _ _)
    rwa [show session.resolvedAt = some resolvedAt from hresolved] at hle

/-! ### Reports -/

/-- `fetch_analytics_sessions`. -/
def fetchAnalyticsSessions (rows : List EngineSession) (imei : String)
    (chatId startedAt endedAt referenceTime : ℤ) : List EngineSession :=
  (rows.filter fun row => row.imei = imei ∧ row.chatId = chatId ∧ row.createdAt < endedAt ∧
    startedAt < row.resolvedAt.getD referenceTime).mergeSort fun a b =>
      a.createdAt < b.createdAt ∨ a.createdAt = b.createdAt ∧ a.id ≤ b.id

/-- The windows `fetch_analytics_ride_summary` sums over. -/
def analyticsWindows (sessions : List EngineSession) (rangeStart rangeEnd : ℤ) : List (ℤ × ℤ) :=
  sessions.filterMap (rideWindow rangeStart rangeEnd)

/-- The rows of `get_device_daily_summary`, of whatever chat. -/
def dailySummarySessions (rows : List EngineSession) (imei : String)
    (dayStart dayEnd now : ℤ) : List EngineSession :=
  (rows.filter fun row => row.imei = imei ∧ row.createdAt < dayEnd ∧
    dayStart < row.resolvedAt.getD now).mergeSort fun a b =>
      a.createdAt < b.createdAt ∨ a.createdAt = b.createdAt ∧ a.id ≤ b.id

/-- The windows `get_device_daily_summary` sums over. -/
def dailySummaryWindows (rows : List EngineSession) (imei : String)
    (dayStart dayEnd now : ℤ) : List (ℤ × ℤ) :=
  (dailySummarySessions rows imei dayStart dayEnd now).filterMap
    (rideWindow dayStart (min dayEnd now))

/-! ### Separate rides -/

/-- Two rides of one device and chat share no time of positive length. -/
def RidesDisjoint (rows : List EngineSession) : Prop :=
  ∀ s ∈ rows, ∀ t ∈ rows, s.id ≠ t.id → s.imei = t.imei → s.chatId = t.chatId →
    ∀ a b : ℤ, a < b → ¬(s.Covers a b ∧ t.Covers a b)

/-- No ride ends before it begins, the rides of a device and chat share no time, and no GPS
segment is counted in two rides: not by the analytics of a chat, and not by the daily summary of a
device whose rides are those of one chat. -/
structure RidesSeparate (rows : List EngineSession) : Prop where
  ordered : ∀ row ∈ rows, ∀ resolvedAt ∈ row.resolvedAt, row.createdAt ≤ resolvedAt
  disjoint : RidesDisjoint rows
  analytics : ∀ (imei : String)
    (chatId startedAt endedAt referenceTime rangeStart rangeEnd a b : ℤ),
    a < b → (analyticsWindows (fetchAnalyticsSessions rows imei chatId startedAt endedAt
      referenceTime) rangeStart rangeEnd).countP (countedIn a b) ≤ 1
  dailySummary : ∀ (imei : String) (dayStart dayEnd now a b : ℤ), a < b →
    (∀ s ∈ rows, ∀ t ∈ rows, s.imei = imei → t.imei = imei → s.chatId = t.chatId) →
      (dailySummaryWindows rows imei dayStart dayEnd now).countP (countedIn a b) ≤ 1

/-- At most one element of a list without repetitions has a property that no two elements
share. -/
theorem countP_le_one {α : Type} {l : List α} {p : α → Bool} (hnodup : l.Nodup)
    (h : ∀ x ∈ l, ∀ y ∈ l, p x = true → p y = true → x = y) : l.countP p ≤ 1 := by
  induction l with
  | nil => simp
  | cons x l ih =>
      obtain ⟨hx, hnodup⟩ := List.nodup_cons.1 hnodup
      by_cases hp : p x = true
      · have hrest : l.countP p = 0 := by
          rw [List.countP_eq_zero]
          intro y hy hpy
          obtain rfl := h x List.mem_cons_self y (List.mem_cons_of_mem x hy) hp hpy
          exact hx hy
        rw [List.countP_cons_of_pos hp, hrest]
      · rw [List.countP_cons_of_neg hp]
        refine ih hnodup ?_
        intro y hy z hz
        exact h y (List.mem_cons_of_mem x hy) z (List.mem_cons_of_mem x hz)

/-- The windows of separate rides do not share a segment. -/
theorem countP_windows_le_one {rows sessions : List EngineSession} {rangeStart rangeEnd a b : ℤ}
    (hdisjoint : RidesDisjoint rows) (hid : UniqueOn EngineSession.id rows)
    (hnodup : sessions.Nodup) (hrows : ∀ s ∈ sessions, s ∈ rows)
    (hkey : ∀ s ∈ sessions, ∀ t ∈ sessions, s.imei = t.imei ∧ s.chatId = t.chatId) (hab : a < b) :
    (sessions.filterMap (rideWindow rangeStart rangeEnd)).countP (countedIn a b) ≤ 1 := by
  rw [List.countP_filterMap]
  refine countP_le_one hnodup ?_
  intro s hs t ht hps hpt
  have hcovers : ∀ {u : EngineSession},
      ((rideWindow rangeStart rangeEnd u).map (countedIn a b)).getD false = true →
        u.Covers a b := by
    intro u hu
    cases hwindow : rideWindow rangeStart rangeEnd u with
    | none => simp [hwindow] at hu
    | some window => exact covers_of_rideWindow hwindow (by simpa [hwindow] using hu)
  refine hid.eq_of_key_eq (hrows s hs) (hrows t ht) ?_
  by_contra hne
  obtain ⟨himei, hchat⟩ := hkey s hs t ht
  exact hdisjoint s (hrows s hs) t (hrows t ht) hne himei hchat a b hab
    ⟨hcovers (by simpa using hps), hcovers (by simpa using hpt)⟩

/-- A segment is counted twice only if two rides share time. -/
theorem ridesSeparate_of_disjoint {rows : List EngineSession}
    (hid : UniqueOn EngineSession.id rows)
    (ordered : ∀ row ∈ rows, ∀ resolvedAt ∈ row.resolvedAt, row.createdAt ≤ resolvedAt)
    (disjoint : RidesDisjoint rows) : RidesSeparate rows where
  ordered := ordered
  disjoint := disjoint
  analytics := by
    intro imei chatId startedAt endedAt referenceTime rangeStart rangeEnd a b hab
    have hmem : ∀ s ∈ fetchAnalyticsSessions rows imei chatId startedAt endedAt referenceTime,
        s ∈ rows ∧ s.imei = imei ∧ s.chatId = chatId := by
      intro s hs
      rw [fetchAnalyticsSessions, List.mem_mergeSort, List.mem_filter] at hs
      have h := of_decide_eq_true hs.2
      exact ⟨hs.1, h.1, h.2.1⟩
    refine countP_windows_le_one disjoint hid ?_ (fun s hs => (hmem s hs).1) ?_ hab
    · exact (List.mergeSort_perm _ _).nodup_iff.2 (hid.of_map _ |>.filter _)
    · intro s hs t ht
      obtain ⟨-, himei, hchat⟩ := hmem s hs
      obtain ⟨-, himei', hchat'⟩ := hmem t ht
      exact ⟨himei.trans himei'.symm, hchat.trans hchat'.symm⟩
  dailySummary := by
    intro imei dayStart dayEnd now a b hab honeChat
    have hmem : ∀ s ∈ dailySummarySessions rows imei dayStart dayEnd now,
        s ∈ rows ∧ s.imei = imei := by
      intro s hs
      rw [dailySummarySessions, List.mem_mergeSort, List.mem_filter] at hs
      exact ⟨hs.1, (of_decide_eq_true hs.2).1⟩
    refine countP_windows_le_one disjoint hid ?_ (fun s hs => (hmem s hs).1) ?_ hab
    · exact (List.mergeSort_perm _ _).nodup_iff.2 (hid.of_map _ |>.filter _)
    · intro s hs t ht
      obtain ⟨hs, himei⟩ := hmem s hs
      obtain ⟨ht, himei'⟩ := hmem t ht
      exact ⟨himei.trans himei'.symm, honeChat s hs t ht himei himei'⟩

end Gt06
