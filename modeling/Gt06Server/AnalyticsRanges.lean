/-
**The ranges of the reports.**

A report covers a range of time, chosen with a button or typed as one or two calendar dates.  The
dates are those of Western Indonesian Time; a day ends where the next one begins.

Reading a date off a text is a library's business and a parameter here.  The calendar of the library
ends somewhere, that of this module does not; `Gt06.Calendar` has the functions with its ends.

Main definitions:

* `Gt06.AnalyticsDateRange` — a range with its label;
* `Gt06.resolvePresetAnalyticsRange` — the range of a button;
* `Gt06.parseCustomAnalyticsRange` — the range of a text.
-/

import Gt06Server.CallbackData
import Gt06Server.Primitives

set_option relaxedAutoImplicit false
set_option autoImplicit false

namespace Gt06

structure AnalyticsDateRange where
  label : String
  startedAt : ℤ
  endedAt : ℤ
  deriving DecidableEq, Repr

/-- `wib_datetime_to_utc` of the midnight a date begins with. -/
def wibDayStart (date : ℤ) : ℤ := days date - wibOffsetSeconds * microsPerSecond

/-- The day of the month of a date; the years are counted from March, in eras of 400 of them. -/
def dayOfMonth (date : ℤ) : ℤ :=
  let dayOfEra := (date + 719468) % 146097
  let yearOfEra := (dayOfEra - dayOfEra / 1460 + dayOfEra / 36524 - dayOfEra / 146096) / 365
  let dayOfYear := dayOfEra - (365 * yearOfEra + yearOfEra / 4 - yearOfEra / 100)
  let monthFromMarch := (5 * dayOfYear + 2) / 153
  dayOfYear - (153 * monthFromMarch + 2) / 5 + 1

def resolvePresetAnalyticsRange (range : AnalyticsRange) (referenceTime : ℤ) :
    Option AnalyticsDateRange :=
  let today := wibDate referenceTime
  match range with
  | .today => some ⟨"Hari ini", wibDayStart today, referenceTime⟩
  | .yesterday => some ⟨"Kemarin", wibDayStart (today - 1), wibDayStart today⟩
  | .month => some ⟨"Bulan ini", wibDayStart (today - (dayOfMonth today - 1)), referenceTime⟩
  | .select => none
  | .custom => none

/-- 16 May 2026, half past three in the afternoon UTC. -/
example : resolvePresetAnalyticsRange .month 1778945400000000 =
    some ⟨"Bulan ini", 1777568400000000, 1778945400000000⟩ := by decide

def analyticsSingleDayRange (date : ℤ) (label : String) : AnalyticsDateRange :=
  ⟨label, wibDayStart date, wibDayStart (date + 1)⟩

/-- `split_once`, at the first occurrence of a separator. -/
def splitOnce (separator : List Char) : List Char → Option (List Char × List Char)
  | [] => none
  | c :: cs =>
      if separator.isPrefixOf (c :: cs) then some ([], (c :: cs).drop separator.length)
      else (splitOnce separator cs).map fun parts => (c :: parts.1, parts.2)

section Custom

variable (parseDate : String → Option ℤ)

def parseCustomAnalyticsSingleDate (value : String) : Option AnalyticsDateRange :=
  (parseDate (trim value)).map fun date => analyticsSingleDayRange date "Tanggal custom"

def parseWibDateStart (value : String) : Option ℤ := (parseDate value).map wibDayStart

def parseWibDateEnd (value : String) : Option ℤ :=
  (parseDate value).map fun date => wibDayStart (date + 1)

def parseCustomAnalyticsRange (kind : AnalyticsKind) (value : String) :
    Option AnalyticsDateRange :=
  if kind = .sessions then parseCustomAnalyticsSingleDate parseDate value
  else do
    let (start, finish) ← splitOnce " to ".toList (trim value).toList
    let startedAt ← parseWibDateStart parseDate (trim (String.ofList start))
    let endedAt ← parseWibDateEnd parseDate (trim (String.ofList finish))
    return ⟨"Rentang custom", startedAt, endedAt⟩

end Custom

end Gt06
