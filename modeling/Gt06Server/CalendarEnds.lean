/-
**Dates at the ends of the calendar.**

The calendar of the library ends: its first date is 1 January -262143, its last one 31 December
262142, and its instants are those of these dates in UTC.  A text may name any date of it.  Midnight
in Western Indonesian Time is seven hours before midnight in UTC, which for the first date is before
the first instant; and the last date has no next one.  The program takes both for impossible in some
places, and there it panics.

Reading a date off a text is the library's business and a parameter here.

Main definitions:

* `Gt06.NaiveDate` — the dates of the calendar;
* `Gt06.Panic` — how a call ends that does not return;
* `Gt06.Calendar.wibDayBounds`, `Gt06.Calendar.parseCustomAnalyticsRange` — the functions that are
  given a text, with the calendar they have;
* `Gt06.Calendar.NamesEnd` — the texts for which the calendar matters.

Main results:

* `Gt06.Calendar.returns_iff` — **the texts for which they return**;
* `Gt06.Calendar.panics_at_ends` — a text for each panic;
* `Gt06.Calendar.parseCustomAnalyticsRange_eq`, `Gt06.Calendar.parseCustomAnalyticsRange_some` —
  **otherwise the calendar does not matter**: the range is that of the module on ranges.
-/

import Gt06Server.AnalyticsRanges
import Gt06Server.DeviceSnapshots

set_option relaxedAutoImplicit false
set_option autoImplicit false

namespace Gt06

/-! ### The calendar -/

/-- The number of a date in any year; after 400 years the calendar begins anew. -/
def dayNumber (year : ℤ) (month day : ℕ) : ℤ :=
  daysFromCivil (year % 400).toNat month day + 146097 * (year / 400)

/-- The days of a month in any year. -/
def monthLength (year : ℤ) (month : ℕ) : ℕ := daysInMonth (year % 400).toNat month

def firstDay : ℤ := dayNumber (-262143) 1 1

def lastDay : ℤ := dayNumber 262142 12 31

example : firstDay = -96465292 := by decide

example : lastDay = 95026236 := by decide

/-- A date of the calendar, by the number of its day. -/
@[ext]
structure NaiveDate where
  day : ℤ
  firstDay_le : firstDay ≤ day
  le_lastDay : day ≤ lastDay

instance : DecidableEq NaiveDate := fun a b =>
  decidable_of_iff (a.day = b.day) NaiveDate.ext_iff.symm

namespace NaiveDate

theorem firstDay_le_lastDay : firstDay ≤ lastDay := by decide

/-- `NaiveDate::MIN`. -/
def first : NaiveDate := ⟨firstDay, le_rfl, firstDay_le_lastDay⟩

/-- `NaiveDate::MAX`. -/
def last : NaiveDate := ⟨lastDay, firstDay_le_lastDay, le_rfl⟩

/-- The date with a number, if there is one. -/
def ofDay (day : ℤ) : Option NaiveDate :=
  if h : firstDay ≤ day ∧ day ≤ lastDay then some ⟨day, h.1, h.2⟩ else none

/-- `from_ymd_opt`. -/
def ofYmd (year : ℤ) (month day : ℕ) : Option NaiveDate :=
  if 1 ≤ month ∧ month ≤ 12 ∧ 1 ≤ day ∧ day ≤ monthLength year month then
    ofDay (dayNumber year month day)
  else none

/-- `and_hms_opt(0, 0, 0)`, which there always is: local midnight, in microseconds. -/
def midnight (date : NaiveDate) : ℤ := days date.day

/-- `checked_add_signed(Duration::days(1))`. -/
def checkedNextDay (date : NaiveDate) : Option NaiveDate := ofDay (date.day + 1)

theorem eq_first_iff {date : NaiveDate} : date = first ↔ date.day = firstDay := NaiveDate.ext_iff

theorem eq_last_iff {date : NaiveDate} : date = last ↔ date.day = lastDay := NaiveDate.ext_iff

theorem checkedNextDay_eq_none_iff {date : NaiveDate} :
    date.checkedNextDay = none ↔ date = last := by
  have hfirst := date.firstDay_le
  have hlast := date.le_lastDay
  rw [checkedNextDay, ofDay, dite_eq_right_iff, eq_last_iff]
  constructor
  · intro h
    by_contra hne
    cases h ⟨by omega, by omega⟩
  · intro h hnext
    omega

theorem day_of_checkedNextDay {date next : NaiveDate} (h : date.checkedNextDay = some next) :
    next.day = date.day + 1 := by
  unfold checkedNextDay ofDay at h
  split at h
  · obtain rfl := Option.some.inj h
    rfl
  · cases h

end NaiveDate

/-! ### Instants -/

/-- The instants a `DateTime<Utc>` can be, in microseconds. -/
def InstantInRange (t : ℤ) : Prop := days firstDay ≤ t ∧ t < days (lastDay + 1)

instance (t : ℤ) : Decidable (InstantInRange t) := inferInstanceAs (Decidable (_ ∧ _))

/-- How a call ends that does not return: by an `expect`, or where an operator overflows. -/
inductive Panic where
  | expect (message : String)
  | overflow (message : String)
  deriving DecidableEq, Repr

def expect {α : Type} (message : String) (x : Option α) : Except Panic α :=
  match x with
  | some a => .ok a
  | none => .error (.expect message)

namespace Calendar

/-- `from_local_datetime(..).single()` in Western Indonesian Time. -/
def fromLocalDatetime (value : ℤ) : Option ℤ :=
  if InstantInRange (value - wibOffsetSeconds * microsPerSecond) then
    some (value - wibOffsetSeconds * microsPerSecond)
  else none

/-- `DateTime + Duration`. -/
def addDuration (t duration : ℤ) : Except Panic ℤ :=
  if InstantInRange (t + duration) then .ok (t + duration)
  else .error (.overflow "`DateTime + TimeDelta` overflowed")

/-! ### The functions that are given a text -/

inductive DateError where
  | invalidDate
  deriving DecidableEq, Repr

section Source

variable (parseDate : String → Option NaiveDate)

def wibDayBounds (date : String) : Except Panic (Except DateError (NaiveDate × ℤ × ℤ)) :=
  match parseDate date with
  | none => return .error .invalidDate
  | some date => do
      let startAt ← expect "fixed WIB offset must resolve one local datetime"
        (fromLocalDatetime date.midnight)
      let endAt ← addDuration startAt (days 1)
      return .ok (date, startAt, endAt)

def wibDatetimeToUtc (value : ℤ) : Except Panic ℤ :=
  expect "WIB has no ambiguous local datetime" (fromLocalDatetime value)

def analyticsSingleDayRange (date : NaiveDate) (label : String) :
    Except Panic AnalyticsDateRange := do
  let startedAt ← wibDatetimeToUtc date.midnight
  let next ← expect "valid next day" date.checkedNextDay
  let endedAt ← wibDatetimeToUtc next.midnight
  return ⟨label, startedAt, endedAt⟩

def parseCustomAnalyticsSingleDate (value : String) : Except Panic (Option AnalyticsDateRange) :=
  match parseDate (trim value) with
  | none => return none
  | some date => do return some (← analyticsSingleDayRange date "Tanggal custom")

def parseWibDateStart (value : String) : Except Panic (Option ℤ) :=
  match parseDate value with
  | none => return none
  | some parsed => do return some (← wibDatetimeToUtc parsed.midnight)

def parseWibDateEnd (value : String) : Except Panic (Option ℤ) :=
  match (parseDate value).bind NaiveDate.checkedNextDay with
  | none => return none
  | some next => do return some (← wibDatetimeToUtc next.midnight)

def parseCustomAnalyticsRange (kind : AnalyticsKind) (value : String) :
    Except Panic (Option AnalyticsDateRange) :=
  if kind = .sessions then parseCustomAnalyticsSingleDate parseDate value
  else
    match splitOnce " to ".toList (trim value).toList with
    | none => return none
    | some (start, finish) => do
        match ← parseWibDateStart parseDate (trim (String.ofList start)) with
        | none => return none
        | some startedAt =>
            match ← parseWibDateEnd parseDate (trim (String.ofList finish)) with
            | none => return none
            | some endedAt => return some ⟨"Rentang custom", startedAt, endedAt⟩

end Source

/-! ### What each of them does -/

/-- Only the first date begins too early. -/
theorem fromLocalDatetime_midnight (date : NaiveDate) :
    fromLocalDatetime date.midnight =
      if date = NaiveDate.first then none else some (wibDayStart date.day) := by
  have hfirst := date.firstDay_le
  have hlast := date.le_lastDay
  have hrange : InstantInRange (date.midnight - wibOffsetSeconds * microsPerSecond) ↔
      date ≠ NaiveDate.first := by
    rw [ne_eq, NaiveDate.eq_first_iff]
    unfold InstantInRange NaiveDate.midnight days wibOffsetSeconds microsPerDay microsPerSecond
    omega
  unfold fromLocalDatetime
  by_cases h : date = NaiveDate.first
  · rw [if_pos h, if_neg (fun hin => hrange.1 hin h)]
  · rw [if_neg h, if_pos (hrange.2 h)]
    rfl

theorem wibDatetimeToUtc_midnight {date : NaiveDate} (h : date ≠ NaiveDate.first) :
    wibDatetimeToUtc date.midnight = .ok (wibDayStart date.day) := by
  rw [wibDatetimeToUtc, fromLocalDatetime_midnight, if_neg h]
  rfl

theorem wibDatetimeToUtc_first :
    wibDatetimeToUtc NaiveDate.first.midnight =
      .error (.expect "WIB has no ambiguous local datetime") := by
  rw [wibDatetimeToUtc, fromLocalDatetime_midnight, if_pos rfl]
  rfl

section Returns

variable {parseDate : String → Option NaiveDate}

theorem wibDayBounds_of_ne {value : String} {date : NaiveDate}
    (hparse : parseDate value = some date) (h : date ≠ NaiveDate.first) :
    wibDayBounds parseDate value =
      .ok (.ok (date, wibDayStart date.day, wibDayStart (date.day + 1))) := by
  have hend : addDuration (wibDayStart date.day) (days 1) = .ok (wibDayStart (date.day + 1)) := by
    have hfirst := date.firstDay_le
    have hlast := date.le_lastDay
    have hsum : wibDayStart date.day + days 1 = wibDayStart (date.day + 1) := by
      unfold wibDayStart days
      ring
    have hrange : InstantInRange (wibDayStart (date.day + 1)) := by
      unfold InstantInRange wibDayStart days wibOffsetSeconds microsPerDay microsPerSecond
      omega
    rw [addDuration, hsum, if_pos hrange]
  unfold wibDayBounds
  rw [hparse]
  simp only [fromLocalDatetime_midnight, if_neg h, expect]
  change (do let endAt ← addDuration (wibDayStart date.day) (days 1); _) = _
  rw [hend]
  rfl

theorem wibDayBounds_first {value : String} (hparse : parseDate value = some NaiveDate.first) :
    wibDayBounds parseDate value =
      .error (.expect "fixed WIB offset must resolve one local datetime") := by
  unfold wibDayBounds
  rw [hparse]
  simp only [fromLocalDatetime_midnight, if_pos, expect]
  rfl

/-- The date after one is never the first. -/
theorem ne_first_of_checkedNextDay {date next : NaiveDate}
    (h : date.checkedNextDay = some next) : next ≠ NaiveDate.first := by
  have hday := NaiveDate.day_of_checkedNextDay h
  have hfirst := date.firstDay_le
  rw [ne_eq, NaiveDate.eq_first_iff]
  omega

theorem analyticsSingleDayRange_of_ne {date : NaiveDate} (hfirst : date ≠ NaiveDate.first)
    (hlast : date ≠ NaiveDate.last) (label : String) :
    analyticsSingleDayRange date label = .ok (Gt06.analyticsSingleDayRange date.day label) := by
  obtain ⟨next, hnext⟩ := Option.ne_none_iff_exists'.1
    fun h => hlast (NaiveDate.checkedNextDay_eq_none_iff.1 h)
  unfold analyticsSingleDayRange
  rw [wibDatetimeToUtc_midnight hfirst, hnext]
  change (do let endedAt ← wibDatetimeToUtc next.midnight; _) = _
  rw [wibDatetimeToUtc_midnight (ne_first_of_checkedNextDay hnext),
    NaiveDate.day_of_checkedNextDay hnext]
  rfl

/-- At either end of the calendar there is no range of a day. -/
theorem analyticsSingleDayRange_panics {date : NaiveDate}
    (h : date = NaiveDate.first ∨ date = NaiveDate.last) (label : String) :
    ∃ panic, analyticsSingleDayRange date label = .error panic := by
  unfold analyticsSingleDayRange
  by_cases hfirst : date = NaiveDate.first
  · rw [hfirst, wibDatetimeToUtc_first]
    exact ⟨_, rfl⟩
  · have hlast := NaiveDate.checkedNextDay_eq_none_iff.2 (h.resolve_left hfirst)
    rw [wibDatetimeToUtc_midnight hfirst, hlast]
    exact ⟨_, rfl⟩

theorem parseWibDateStart_of_ne {value : String} (h : parseDate value ≠ some NaiveDate.first) :
    parseWibDateStart parseDate value =
      .ok ((parseDate value).map fun date => wibDayStart date.day) := by
  unfold parseWibDateStart
  cases hparse : parseDate value with
  | none => rfl
  | some date =>
      have hne : date ≠ NaiveDate.first := fun hdate => h (by rw [hparse, hdate])
      simp only [wibDatetimeToUtc_midnight hne]
      rfl

theorem parseWibDateStart_first {value : String}
    (h : parseDate value = some NaiveDate.first) :
    parseWibDateStart parseDate value =
      .error (.expect "WIB has no ambiguous local datetime") := by
  unfold parseWibDateStart
  simp only [h, wibDatetimeToUtc_first]
  rfl

/-- The end of a range never panics: a date without a next one is no end. -/
theorem parseWibDateEnd_eq (value : String) :
    parseWibDateEnd parseDate value =
      .ok (((parseDate value).bind NaiveDate.checkedNextDay).map fun next =>
        wibDayStart next.day) := by
  unfold parseWibDateEnd
  cases hnext : (parseDate value).bind NaiveDate.checkedNextDay with
  | none => rfl
  | some next =>
      obtain ⟨date, -, hdate⟩ := Option.bind_eq_some_iff.1 hnext
      simp only [wibDatetimeToUtc_midnight (ne_first_of_checkedNextDay hdate)]
      rfl

/-! ### Which texts panic -/

/-- The call returns a range or an error. -/
def Returns {α : Type} (x : Except Panic α) : Prop := ∃ a, x = .ok a

theorem returns_ok {α : Type} (a : α) : Returns (Except.ok a) := ⟨a, rfl⟩

theorem not_returns_error {α : Type} (panic : Panic) :
    ¬ Returns (Except.error panic : Except Panic α) := by
  rintro ⟨a, h⟩
  cases h

theorem returns_wibDayBounds_iff (value : String) :
    Returns (wibDayBounds parseDate value) ↔ parseDate value ≠ some NaiveDate.first := by
  by_cases hfirst : parseDate value = some NaiveDate.first
  · rw [wibDayBounds_first hfirst]
    exact iff_of_false (not_returns_error _) fun h => h hfirst
  · refine iff_of_true ?_ hfirst
    cases hparse : parseDate value with
    | none =>
        unfold wibDayBounds
        rw [hparse]
        exact returns_ok _
    | some date =>
        rw [wibDayBounds_of_ne hparse fun hdate => hfirst (by rw [hparse, hdate])]
        exact returns_ok _

theorem parseCustomAnalyticsSingleDate_of_some {value : String} {date : NaiveDate}
    (hparse : parseDate (trim value) = some date) :
    parseCustomAnalyticsSingleDate parseDate value =
      (analyticsSingleDayRange date "Tanggal custom").map some := by
  unfold parseCustomAnalyticsSingleDate
  simp only [hparse]
  cases analyticsSingleDayRange date "Tanggal custom" with
  | error panic => rfl
  | ok range => rfl

theorem returns_singleDate_iff (value : String) :
    Returns (parseCustomAnalyticsSingleDate parseDate value) ↔
      parseDate (trim value) ≠ some NaiveDate.first ∧
        parseDate (trim value) ≠ some NaiveDate.last := by
  cases hparse : parseDate (trim value) with
  | none =>
      unfold parseCustomAnalyticsSingleDate
      simp only [hparse]
      exact iff_of_true (returns_ok _) ⟨by simp, by simp⟩
  | some date =>
      rw [parseCustomAnalyticsSingleDate_of_some hparse]
      simp only [ne_eq, Option.some.injEq]
      by_cases hend : date = NaiveDate.first ∨ date = NaiveDate.last
      · obtain ⟨panic, hpanic⟩ := analyticsSingleDayRange_panics hend "Tanggal custom"
        rw [hpanic]
        exact iff_of_false (not_returns_error panic) fun h => hend.elim h.1 h.2
      · rw [not_or] at hend
        rw [analyticsSingleDayRange_of_ne hend.1 hend.2]
        exact iff_of_true (returns_ok _) hend

/-- What becomes of the two dates of a range. -/
theorem parseCustomAnalyticsRange_of_split {kind : AnalyticsKind} (hkind : kind ≠ .sessions)
    {value : String} {start finish : List Char}
    (hsplit : splitOnce " to ".toList (trim value).toList = some (start, finish))
    (hstart : parseDate (trim (String.ofList start)) ≠ some NaiveDate.first) :
    parseCustomAnalyticsRange parseDate kind value =
      .ok ((parseDate (trim (String.ofList start))).bind fun a =>
        ((parseDate (trim (String.ofList finish))).bind NaiveDate.checkedNextDay).map fun next =>
          ⟨"Rentang custom", wibDayStart a.day, wibDayStart next.day⟩) := by
  unfold parseCustomAnalyticsRange
  rw [if_neg hkind]
  simp only [hsplit, parseWibDateStart_of_ne hstart, parseWibDateEnd_eq]
  cases parseDate (trim (String.ofList start)) with
  | none => rfl
  | some a =>
      cases (parseDate (trim (String.ofList finish))).bind NaiveDate.checkedNextDay with
      | none => rfl
      | some next => rfl

theorem returns_range_iff {kind : AnalyticsKind} (hkind : kind ≠ .sessions) (value : String) :
    Returns (parseCustomAnalyticsRange parseDate kind value) ↔
      ∀ start finish, splitOnce " to ".toList (trim value).toList = some (start, finish) →
        parseDate (trim (String.ofList start)) ≠ some NaiveDate.first := by
  cases hsplit : splitOnce " to ".toList (trim value).toList with
  | none =>
      unfold parseCustomAnalyticsRange
      rw [if_neg hkind]
      simp only [hsplit]
      exact iff_of_true (returns_ok _) fun start finish h => by cases h
  | some parts =>
      obtain ⟨start, finish⟩ := parts
      by_cases hfirst : parseDate (trim (String.ofList start)) = some NaiveDate.first
      · unfold parseCustomAnalyticsRange
        rw [if_neg hkind]
        simp only [hsplit, parseWibDateStart_first hfirst]
        exact iff_of_false (not_returns_error _) fun h => h start finish rfl hfirst
      · rw [parseCustomAnalyticsRange_of_split hkind hsplit hfirst]
        refine iff_of_true (returns_ok _) ?_
        rintro start' finish' h
        obtain ⟨rfl, rfl⟩ := Prod.mk.inj (Option.some.inj h)
        exact hfirst

variable (parseDate) in
/-- **When a text is answered**, however dates are read off texts.  The bounds of a day panic for
the first date of the calendar only, the range of a single day for the first and the last, and a
range of two dates when the first of the two is the first of the calendar. -/
theorem returns_iff (value : String) :
    (Returns (wibDayBounds parseDate value) ↔ parseDate value ≠ some NaiveDate.first) ∧
      (Returns (parseCustomAnalyticsRange parseDate .sessions value) ↔
        parseDate (trim value) ≠ some NaiveDate.first ∧
          parseDate (trim value) ≠ some NaiveDate.last) ∧
      ∀ kind, kind ≠ .sessions →
        (Returns (parseCustomAnalyticsRange parseDate kind value) ↔
          ∀ start finish, splitOnce " to ".toList (trim value).toList = some (start, finish) →
            parseDate (trim (String.ofList start)) ≠ some NaiveDate.first) := by
  refine ⟨returns_wibDayBounds_iff value, ?_, fun kind hkind => returns_range_iff hkind value⟩
  unfold parseCustomAnalyticsRange
  rw [if_pos rfl]
  exact returns_singleDate_iff value

end Returns

/-! ### Texts at the ends -/

def readNumber (digits : List Char) (width : ℕ) : Option ℕ :=
  if digits.isEmpty || !digits.all Char.isDigit || width < digits.length then none
  else some (Nat.ofDigitChars 10 digits 0)

/-- A reader of dates in the format `%Y-%m-%d`, of texts without white space: the year has up to
four digits, or any number of digits behind a sign. -/
def readDate (value : String) : Option NaiveDate :=
  let (negative, width, unsigned) :=
    match value.toList with
    | '-' :: unsigned => (true, unsigned.length, unsigned)
    | '+' :: unsigned => (false, unsigned.length, unsigned)
    | unsigned => (false, 4, unsigned)
  match unsigned.splitOn '-' with
  | [year, month, day] => do
      let year ← readNumber year width
      let month ← readNumber month 2
      let day ← readNumber day 2
      NaiveDate.ofYmd (if negative then -(year : ℤ) else year) month day
  | _ => none

example : (readDate "2026-05-16").map NaiveDate.day = some 20589 := by decide +kernel

/-- A day in the URL, a day for the report of the sessions, and the start of a range: none of them
is answered. -/
theorem panics_at_ends :
    wibDayBounds readDate "-262143-01-01" =
        .error (.expect "fixed WIB offset must resolve one local datetime") ∧
      parseCustomAnalyticsRange readDate .sessions "+262142-12-31" =
        .error (.expect "valid next day") ∧
      parseCustomAnalyticsRange readDate .metrics "-262143-01-01 to 2026-05-17" =
        .error (.expect "WIB has no ambiguous local datetime") ∧
      ¬ ∀ value, Returns (wibDayBounds readDate value) ∧
        ∀ kind, Returns (parseCustomAnalyticsRange readDate kind value) := by
  have hfirst : readDate "-262143-01-01" = some NaiveDate.first := by decide +kernel
  have hbounds := wibDayBounds_first hfirst
  refine ⟨hbounds, by decide +kernel, by decide +kernel, ?_⟩
  intro h
  obtain ⟨bounds, hok⟩ := (h "-262143-01-01").1
  rw [hbounds] at hok
  cases hok

/-! ### Away from the ends -/

section Away

variable {parseDate : String → Option NaiveDate} {kind : AnalyticsKind} {value : String}

/-- The reader of the numbers of the dates. -/
def dayReader (parseDate : String → Option NaiveDate) (value : String) : Option ℤ :=
  (parseDate value).map NaiveDate.day

/-- The text names an end of the calendar for a range to begin or to end with. -/
def NamesEnd (parseDate : String → Option NaiveDate) (kind : AnalyticsKind) (value : String) :
    Prop :=
  if kind = .sessions then
    parseDate (trim value) = some NaiveDate.first ∨ parseDate (trim value) = some NaiveDate.last
  else
    ∃ start finish, splitOnce " to ".toList (trim value).toList = some (start, finish) ∧
      (parseDate (trim (String.ofList start)) = some NaiveDate.first ∨
        parseDate (trim (String.ofList finish)) = some NaiveDate.last)

theorem parseCustomAnalyticsSingleDate_eq
    (hfirst : parseDate (trim value) ≠ some NaiveDate.first)
    (hlast : parseDate (trim value) ≠ some NaiveDate.last) :
    parseCustomAnalyticsSingleDate parseDate value =
      .ok (Gt06.parseCustomAnalyticsSingleDate (dayReader parseDate) value) := by
  unfold Gt06.parseCustomAnalyticsSingleDate dayReader
  cases hparse : parseDate (trim value) with
  | none =>
      unfold parseCustomAnalyticsSingleDate
      simp only [hparse]
      rfl
  | some date =>
      rw [hparse] at hfirst hlast
      rw [parseCustomAnalyticsSingleDate_of_some hparse, analyticsSingleDayRange_of_ne
        (fun hdate => hfirst (congrArg some hdate)) fun hdate => hlast (congrArg some hdate)]
      rfl

theorem parseWibDateStart_eq (h : parseDate value ≠ some NaiveDate.first) :
    parseWibDateStart parseDate value =
      .ok (Gt06.parseWibDateStart (dayReader parseDate) value) := by
  rw [parseWibDateStart_of_ne h, Gt06.parseWibDateStart, dayReader, Option.map_map]
  rfl

theorem parseWibDateEnd_of_ne (h : parseDate value ≠ some NaiveDate.last) :
    parseWibDateEnd parseDate value = .ok (Gt06.parseWibDateEnd (dayReader parseDate) value) := by
  rw [parseWibDateEnd_eq, Gt06.parseWibDateEnd, dayReader, Option.map_map]
  cases hparse : parseDate value with
  | none => rfl
  | some date =>
      have hne : date ≠ NaiveDate.last := fun hdate => h (by rw [hparse, hdate])
      obtain ⟨next, hnext⟩ := Option.ne_none_iff_exists'.1
        fun hnone => hne (NaiveDate.checkedNextDay_eq_none_iff.1 hnone)
      rw [Option.bind_some, hnext, Option.map_some, NaiveDate.day_of_checkedNextDay hnext]
      rfl

/-- **Away from the ends the calendar does not matter.** -/
theorem parseCustomAnalyticsRange_eq (h : ¬ NamesEnd parseDate kind value) :
    parseCustomAnalyticsRange parseDate kind value =
      .ok (Gt06.parseCustomAnalyticsRange (dayReader parseDate) kind value) := by
  unfold NamesEnd at h
  unfold parseCustomAnalyticsRange Gt06.parseCustomAnalyticsRange
  by_cases hkind : kind = .sessions
  · rw [if_pos hkind, not_or] at h
    rw [if_pos hkind, if_pos hkind]
    exact parseCustomAnalyticsSingleDate_eq h.1 h.2
  · rw [if_neg hkind] at h
    rw [if_neg hkind, if_neg hkind]
    cases hsplit : splitOnce " to ".toList (trim value).toList with
    | none => rfl
    | some parts =>
        obtain ⟨start, finish⟩ := parts
        have hstart : parseDate (trim (String.ofList start)) ≠ some NaiveDate.first :=
          fun hfirst => h ⟨start, finish, hsplit, Or.inl hfirst⟩
        have hfinish : parseDate (trim (String.ofList finish)) ≠ some NaiveDate.last :=
          fun hlast => h ⟨start, finish, hsplit, Or.inr hlast⟩
        simp only [parseWibDateStart_eq hstart, parseWibDateEnd_of_ne hfinish,
          Option.bind_eq_bind, Option.bind_some]
        cases Gt06.parseWibDateStart (dayReader parseDate) (trim (String.ofList start)) with
        | none => rfl
        | some startedAt =>
            cases Gt06.parseWibDateEnd (dayReader parseDate) (trim (String.ofList finish)) with
            | none => rfl
            | some endedAt => rfl

/-- At the ends no text is accepted. -/
theorem parseCustomAnalyticsRange_of_namesEnd (h : NamesEnd parseDate kind value)
    (range : AnalyticsDateRange) :
    parseCustomAnalyticsRange parseDate kind value ≠ .ok (some range) := by
  intro hrange
  have hreturns : Returns (parseCustomAnalyticsRange parseDate kind value) := ⟨_, hrange⟩
  unfold NamesEnd at h
  by_cases hkind : kind = .sessions
  · rw [if_pos hkind] at h
    unfold parseCustomAnalyticsRange at hreturns
    rw [if_pos hkind, returns_singleDate_iff] at hreturns
    exact h.elim hreturns.1 hreturns.2
  · rw [if_neg hkind] at h
    obtain ⟨start, finish, hsplit, hend⟩ := h
    have hfirst := (returns_range_iff hkind value).1 hreturns start finish hsplit
    rw [parseCustomAnalyticsRange_of_split hkind hsplit hfirst, hend.resolve_left hfirst,
      Option.bind_some, NaiveDate.checkedNextDay_eq_none_iff.2 rfl] at hrange
    obtain ⟨a, -, hnone⟩ := Option.bind_eq_some_iff.1 (Except.ok.inj hrange)
    cases hnone

/-- A range that is accepted is the one there would be if the calendar had no ends. -/
theorem parseCustomAnalyticsRange_some {range : AnalyticsDateRange}
    (h : parseCustomAnalyticsRange parseDate kind value = .ok (some range)) :
    Gt06.parseCustomAnalyticsRange (dayReader parseDate) kind value = some range := by
  have hends : ¬ NamesEnd parseDate kind value :=
    fun hends => parseCustomAnalyticsRange_of_namesEnd hends range h
  rw [parseCustomAnalyticsRange_eq hends] at h
  exact Except.ok.inj h

end Away

end Calendar

end Gt06
