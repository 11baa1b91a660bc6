/-
**One day for the whole program.**

A day in Western Indonesian Time is used for the distance of a device, for the fine of a
subscription, for the history the web page shows and for the reports of the bot.  Two functions
turn an instant into its date; three more turn a date, or two of them, into instants.  They are
written apart from each other and must agree about the instant at which a day ends.

Instants are counted in nanoseconds where the program has them so; the bounds of days are whole
seconds.

Main definitions:

* `Gt06.WibDay` — the instants that every function agrees on for a date;
* `Gt06.nextYmd` — the date after a date, by year, month and day.

Main results:

* `Gt06.dayNumber_nextYmd` — the next date has the next number, at the end of months and years too;
* `Gt06.wib_days_agree` — **all the functions agree, and every instant belongs to one day**.
-/

import Gt06Server.CalendarEnds

set_option relaxedAutoImplicit false
set_option autoImplicit false

namespace Gt06

/-! ### The next date -/

/-- The date after a date. -/
def nextYmd (year : ℤ) (month day : ℕ) : ℤ × ℕ × ℕ :=
  if day < monthLength year month then (year, month, day + 1)
  else if month < 12 then (year, month + 1, 1)
  else (year + 1, 1, 1)

theorem isLeapYear_of_era {year : ℤ} :
    isLeapYear (year % 400).toNat = true ↔ year % 4 = 0 ∧ (year % 100 ≠ 0 ∨ year % 400 = 0) := by
  unfold isLeapYear
  rw [decide_eq_true_iff]
  omega

/-- The number of a month in the formula grows by its length, but for February, behind which the
year of the formula begins. -/
theorem month_formula_succ (year : ℤ) {month : ℕ} (hpos : 1 ≤ month) (hlt : month < 12)
    (hfebruary : month ≠ 2) :
    (153 * ((((month + 1 : ℕ) : ℤ) + 9) % 12) + 2) / 5 =
      (153 * (((month : ℤ) + 9) % 12) + 2) / 5 + monthLength year month := by
  unfold monthLength daysInMonth
  rw [if_neg hfebruary]
  interval_cases month
  all_goals first
    | exact absurd rfl hfebruary
    | rfl

/-- The first of March follows the last of February. -/
theorem dayNumber_march {year : ℤ} :
    dayNumber year 3 1 = dayNumber year 2 (monthLength year 2) + 1 := by
  have hleap : isLeapYear (year % 400).toNat = true ↔
      year % 4 = 0 ∧ (year % 100 ≠ 0 ∨ year % 400 = 0) := isLeapYear_of_era
  have hera : ((year % 400).toNat : ℤ) = year % 400 := Int.toNat_of_nonneg (by omega)
  unfold dayNumber daysFromCivil monthLength daysInMonth
  cases h : isLeapYear (year % 400).toNat with
  | true =>
      have := hleap.1 h
      simp
      omega
  | false =>
      have : ¬(year % 4 = 0 ∧ (year % 100 ≠ 0 ∨ year % 400 = 0)) := by
        rw [← hleap, h]
        exact Bool.false_ne_true
      simp
      omega

/-- The first of a month follows the last of the month before. -/
theorem dayNumber_month_succ {year : ℤ} {month : ℕ} (hpos : 1 ≤ month) (hlt : month < 12) :
    dayNumber year (month + 1) 1 = dayNumber year month (monthLength year month) + 1 := by
  by_cases hfebruary : month = 2
  · rw [hfebruary]
    exact dayNumber_march
  · have hyear : month + 1 ≤ 2 ↔ month ≤ 2 := by omega
    have hmonth := month_formula_succ year hpos hlt hfebruary
    simp only [dayNumber, daysFromCivil, hyear, hmonth]
    push_cast
    ring

/-- The next date has the next number. -/
theorem dayNumber_nextYmd {year : ℤ} {month day : ℕ} (hmonth : 1 ≤ month ∧ month ≤ 12)
    (hday : 1 ≤ day ∧ day ≤ monthLength year month) :
    dayNumber (nextYmd year month day).1 (nextYmd year month day).2.1
      (nextYmd year month day).2.2 = dayNumber year month day + 1 := by
  unfold nextYmd
  split
  · unfold dayNumber daysFromCivil
    push_cast
    omega
  next hend =>
    have hlast : day = monthLength year month := by omega
    split
    · next hlt => rw [hlast, dayNumber_month_succ hmonth.1 hlt]
    · next hdecember =>
      obtain rfl : month = 12 := by omega
      have hlength : monthLength year 12 = 31 := rfl
      rw [hlast, hlength]
      unfold dayNumber daysFromCivil
      have hera : ((year % 400).toNat : ℤ) = year % 400 := Int.toNat_of_nonneg (by omega)
      have hnext : (((year + 1) % 400).toNat : ℤ) = (year + 1) % 400 :=
        Int.toNat_of_nonneg (by omega)
      simp
      omega

theorem one_le_monthLength {year : ℤ} {month : ℕ} (h : 1 ≤ month ∧ month ≤ 12) :
    1 ≤ monthLength year month := by
  obtain ⟨hpos, hle⟩ := h
  unfold monthLength daysInMonth
  interval_cases month <;> simp
  split <;> omega

/-- The next date of the calendar is the next one by year, month and day. -/
theorem ofYmd_nextYmd {year : ℤ} {month day : ℕ} {date : NaiveDate}
    (h : NaiveDate.ofYmd year month day = some date) :
    NaiveDate.ofYmd (nextYmd year month day).1 (nextYmd year month day).2.1
      (nextYmd year month day).2.2 = date.checkedNextDay := by
  unfold NaiveDate.ofYmd at h
  split at h
  next hvalid =>
    obtain ⟨hpos, hle, hday⟩ := hvalid
    have hnumber : date.day = dayNumber year month day := by
      unfold NaiveDate.ofDay at h
      split at h
      · obtain rfl := Option.some.inj h
        rfl
      · cases h
    have hnext : 1 ≤ (nextYmd year month day).2.1 ∧ (nextYmd year month day).2.1 ≤ 12 ∧
        1 ≤ (nextYmd year month day).2.2 ∧ (nextYmd year month day).2.2 ≤
          monthLength (nextYmd year month day).1 (nextYmd year month day).2.1 := by
      unfold nextYmd
      split
      next hlt => exact ⟨hpos, hle, Nat.le_add_left 1 day, hlt⟩
      next =>
        split
        next hlt =>
          exact ⟨Nat.le_add_left 1 month, hlt, le_rfl,
            one_le_monthLength ⟨Nat.le_add_left 1 month, hlt⟩⟩
        next =>
          have hjanuary : 1 ≤ 12 := by decide
          exact ⟨le_rfl, hjanuary, le_rfl, one_le_monthLength ⟨le_rfl, hjanuary⟩⟩
    rw [NaiveDate.ofYmd, if_pos hnext, dayNumber_nextYmd ⟨hpos, hle⟩ hday, ← hnumber]
    rfl
  · cases h

/-! ### From instants to dates -/

theorem wibDate_eq_iff {t day : ℤ} :
    wibDate t = day ↔ wibDayStart day ≤ t ∧ t < wibDayStart (day + 1) := by
  unfold wibDate wibDayStart days wibOffsetSeconds microsPerDay microsPerSecond
  omega

theorem wibDateOfNanos_eq_iff {nanos day : ℤ} :
    wibDateOfNanos nanos = day ↔
      readNanos (wibDayStart day) ≤ nanos ∧ nanos < readNanos (wibDayStart (day + 1)) := by
  unfold wibDateOfNanos readNanos wibDayStart days wibOffsetSeconds microsPerDay microsPerSecond
    nanosPerMicro
  omega

theorem wibDayStart_lt_iff {day day' : ℤ} : wibDayStart day < wibDayStart day' ↔ day < day' := by
  unfold wibDayStart days wibOffsetSeconds microsPerDay microsPerSecond
  omega

/-! ### Two dates in a text -/

/-- A text that white space neither surrounds nor interrupts. -/
structure BlankFree (text : String) : Prop where
  ne_nil : text.toList ≠ []
  blankFree : ∀ c ∈ text.toList, isWhitespace c = false

theorem trim_of_ends {text : String} (hhead : ∀ c ∈ text.toList.head?, isWhitespace c = false)
    (hlast : ∀ c ∈ text.toList.getLast?, isWhitespace c = false) : trim text = text := by
  have hdrop : text.toList.dropWhile isWhitespace = text.toList := by
    cases htext : text.toList with
    | nil => rfl
    | cons c cs =>
        rw [List.dropWhile_cons_of_neg]
        rw [hhead c (by rw [htext]; rfl)]
        exact Bool.false_ne_true
  have hrdrop : text.toList.rdropWhile isWhitespace = text.toList := by
    rw [List.rdropWhile_eq_self_iff]
    intro hne
    rw [hlast _ (List.getLast?_eq_getLast_of_ne_nil hne)]
    exact Bool.false_ne_true
  rw [trim, hdrop, hrdrop, String.ofList_toList]

theorem BlankFree.trim {text : String} (h : BlankFree text) : Gt06.trim text = text :=
  trim_of_ends (fun c hc => h.blankFree c (List.mem_of_mem_head? hc))
    fun c hc => h.blankFree c (List.mem_of_mem_getLast? hc)

section Pair

variable {x y : String} (hx : BlankFree x) (hy : BlankFree y)

include hx hy in
theorem trim_pair : trim (x ++ " to " ++ y) = x ++ " to " ++ y := by
  refine trim_of_ends ?_ ?_
  · intro c hc
    rw [String.toList_append, String.toList_append, List.append_assoc,
      List.head?_append_of_ne_nil _ hx.ne_nil] at hc
    exact hx.blankFree c (List.mem_of_mem_head? hc)
  · intro c hc
    rw [String.toList_append, List.getLast?_append_of_ne_nil _ hy.ne_nil] at hc
    exact hy.blankFree c (List.mem_of_mem_getLast? hc)

include hx in
theorem splitOnce_pair :
    splitOnce " to ".toList (x ++ " to " ++ y).toList = some (x.toList, y.toList) := by
  have hsplit : ∀ xs : List Char, (∀ c ∈ xs, isWhitespace c = false) →
      splitOnce " to ".toList (xs ++ (" to ".toList ++ y.toList)) = some (xs, y.toList) := by
    intro xs hxs
    induction xs with
    | nil => rfl
    | cons c xs ih =>
        have hc : (' ' == c) = false := by
          rw [beq_eq_false_iff_ne]
          rintro rfl
          exact absurd (hxs ' ' List.mem_cons_self) (by decide)
        have hprefix : List.isPrefixOf " to ".toList (c :: (xs ++ (" to ".toList ++ y.toList))) =
            false := by
          change ((' ' == c) && _) = false
          rw [hc, Bool.false_and]
        rw [List.cons_append, splitOnce, hprefix, if_neg Bool.false_ne_true,
          ih fun d hd => hxs d (List.mem_cons_of_mem c hd)]
        rfl
  rw [String.toList_append, String.toList_append, List.append_assoc]
  exact hsplit x.toList hx.blankFree

end Pair

/-- A text is two dates, with or without white space about them. -/
def ReadsAsRange (parseDate : String → Option NaiveDate) (value : String) (a b : NaiveDate) :
    Prop :=
  ∃ start finish, splitOnce " to ".toList (trim value).toList = some (start, finish) ∧
    parseDate (trim (String.ofList start)) = some a ∧
    parseDate (trim (String.ofList finish)) = some b

section Source

variable {parseDate : String → Option NaiveDate}

theorem readsAsRange_pair {x y : String} {a b : NaiveDate} (hx : BlankFree x) (hy : BlankFree y)
    (ha : parseDate x = some a) (hb : parseDate y = some b) :
    ReadsAsRange parseDate (x ++ " to " ++ y) a b := by
  refine ⟨x.toList, y.toList, ?_, ?_, ?_⟩
  · rw [trim_pair hx hy, splitOnce_pair hx]
  · rw [String.ofList_toList, hx.trim, ha]
  · rw [String.ofList_toList, hy.trim, hb]

/-- The range of two dates goes from the start of the first to the end of the second. -/
theorem parseCustomAnalyticsRange_of_reads {kind : AnalyticsKind} (hkind : kind ≠ .sessions)
    {value : String} {a b : NaiveDate} (h : ReadsAsRange parseDate value a b)
    (ha : a ≠ NaiveDate.first) (hb : b ≠ NaiveDate.last) :
    Calendar.parseCustomAnalyticsRange parseDate kind value =
      .ok (some ⟨"Rentang custom", wibDayStart a.day, wibDayStart (b.day + 1)⟩) := by
  obtain ⟨start, finish, hsplit, hstart, hfinish⟩ := h
  obtain ⟨next, hnext⟩ := Option.ne_none_iff_exists'.1
    fun h => hb (NaiveDate.checkedNextDay_eq_none_iff.1 h)
  have hfirst : parseDate (trim (String.ofList start)) ≠ some NaiveDate.first := by
    rw [hstart]
    exact fun h => ha (Option.some.inj h)
  rw [Calendar.parseCustomAnalyticsRange_of_split hkind hsplit hfirst, hstart, hfinish]
  simp only [Option.bind_some, hnext, Option.map_some, NaiveDate.day_of_checkedNextDay hnext]

theorem mem_range_iff {a b nanos : ℤ} :
    readNanos (wibDayStart a) ≤ nanos ∧ nanos < readNanos (wibDayStart (b + 1)) ↔
      a ≤ wibDateOfNanos nanos ∧ wibDateOfNanos nanos ≤ b := by
  unfold wibDateOfNanos readNanos wibDayStart days wibOffsetSeconds microsPerDay microsPerSecond
    nanosPerMicro
  omega

/-! ### One day -/

/-- Every function agrees on the instants of a date: the bounds the web page asks for, the range of
the bot, the date a distance is counted for and the date a subscription is judged by.  The last is
given an instant to the microsecond or finer. -/
structure WibDay (parseDate : String → Option NaiveDate) (date : NaiveDate) (startAt endAt : ℤ) :
    Prop where
  bounds : ∀ value, parseDate value = some date →
    Calendar.wibDayBounds parseDate value = .ok (.ok (date, startAt, endAt))
  singleDay : ∀ label, Calendar.analyticsSingleDayRange date label = .ok ⟨label, startAt, endAt⟩
  serviceDistance : ∀ nanos, wibDateOfNanos nanos = date.day ↔
    readNanos startAt ≤ nanos ∧ nanos < readNanos endAt
  maintenance : ∀ t, wibDate t = date.day ↔ startAt ≤ t ∧ t < endAt
  maintenanceNanos : ∀ nanos, wibDate (storedMicros nanos) = date.day ↔
    readNanos startAt ≤ nanos ∧ nanos < readNanos endAt

theorem wibDay_of_ne {date : NaiveDate} (hfirst : date ≠ NaiveDate.first)
    (hlast : date ≠ NaiveDate.last) :
    WibDay parseDate date (wibDayStart date.day) (wibDayStart (date.day + 1)) where
  bounds value hparse := Calendar.wibDayBounds_of_ne hparse hfirst
  singleDay label := Calendar.analyticsSingleDayRange_of_ne hfirst hlast label
  serviceDistance nanos := wibDateOfNanos_eq_iff
  maintenance t := wibDate_eq_iff
  maintenanceNanos nanos := by
    rw [← wibDateOfNanos_eq]
    exact wibDateOfNanos_eq_iff

/-- The day an instant belongs to. -/
theorem existsUnique_wibDay {nanos : ℤ} (hfirst : firstDay < wibDateOfNanos nanos)
    (hlast : wibDateOfNanos nanos < lastDay) :
    ∃! date : NaiveDate, ∃ startAt endAt, WibDay parseDate date startAt endAt ∧
      readNanos startAt ≤ nanos ∧ nanos < readNanos endAt := by
  let date : NaiveDate := ⟨wibDateOfNanos nanos, hfirst.le, hlast.le⟩
  have hne_first : date ≠ NaiveDate.first := fun h => hfirst.ne' (NaiveDate.eq_first_iff.1 h)
  have hne_last : date ≠ NaiveDate.last := fun h => hlast.ne (NaiveDate.eq_last_iff.1 h)
  refine ⟨date, ⟨_, _, wibDay_of_ne hne_first hne_last, wibDateOfNanos_eq_iff.1 rfl⟩, ?_⟩
  rintro other ⟨startAt, endAt, hday, hin⟩
  exact NaiveDate.ext ((hday.serviceDistance nanos).2 hin).symm

variable (parseDate) in
/-- **One day for the whole program**, however dates are read off texts: away from the ends of the
calendar all the functions agree on the instants of a date, its end is the start of the next one, a
text of two dates stands for the instants of the dates from the one to the other, and every instant
belongs to one date.  The next date is the next one by year, month and day. -/
theorem wib_days_agree :
    (∀ date, date ≠ NaiveDate.first → date ≠ NaiveDate.last →
      ∃ startAt endAt, WibDay parseDate date startAt endAt ∧
        ∀ next, date.checkedNextDay = some next → next ≠ NaiveDate.last →
          ∃ nextEnd, WibDay parseDate next endAt nextEnd) ∧
      (∀ kind, kind ≠ .sessions → ∀ value a b, ReadsAsRange parseDate value a b →
        a ≠ NaiveDate.first → b ≠ NaiveDate.last →
          ∃ range, Calendar.parseCustomAnalyticsRange parseDate kind value = .ok (some range) ∧
            (∀ nanos, readNanos range.startedAt ≤ nanos ∧ nanos < readNanos range.endedAt ↔
              a.day ≤ wibDateOfNanos nanos ∧ wibDateOfNanos nanos ≤ b.day) ∧
            (range.startedAt < range.endedAt ↔ a.day ≤ b.day)) ∧
      (∀ x y a b, BlankFree x → BlankFree y → parseDate x = some a → parseDate y = some b →
        ReadsAsRange parseDate (x ++ " to " ++ y) a b) ∧
      (∀ nanos, firstDay < wibDateOfNanos nanos → wibDateOfNanos nanos < lastDay →
        ∃! date : NaiveDate, ∃ startAt endAt, WibDay parseDate date startAt endAt ∧
          readNanos startAt ≤ nanos ∧ nanos < readNanos endAt) ∧
      ∀ year month day date, NaiveDate.ofYmd year month day = some date →
        NaiveDate.ofYmd (nextYmd year month day).1 (nextYmd year month day).2.1
          (nextYmd year month day).2.2 = date.checkedNextDay := by
  refine ⟨?_, ?_, fun x y a b => readsAsRange_pair, fun nanos => existsUnique_wibDay,
    fun year month day date => ofYmd_nextYmd⟩
  · intro date hfirst hlast
    refine ⟨_, _, wibDay_of_ne hfirst hlast, ?_⟩
    intro next hnext hne_last
    rw [← NaiveDate.day_of_checkedNextDay hnext]
    exact ⟨_, wibDay_of_ne (Calendar.ne_first_of_checkedNextDay hnext) hne_last⟩
  · intro kind hkind value a b hreads ha hb
    refine ⟨_, parseCustomAnalyticsRange_of_reads hkind hreads ha hb,
      fun nanos => mem_range_iff, ?_⟩
    rw [wibDayStart_lt_iff, Int.lt_add_one_iff]

end Source

example : nextYmd 2026 12 31 = (2027, 1, 1) := by decide

example : nextYmd 2028 2 28 = (2028, 2, 29) := by decide

end Gt06
