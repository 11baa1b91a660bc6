/-
**Instants and texts of the program.**

An instant (a `DateTime<Utc>` of the source) is a whole number of microseconds since the Unix
epoch, the resolution of a `TIMESTAMPTZ` column, and a duration is a difference of instants.  The
program counts days in Western Indonesian Time, seven hours ahead of UTC; a calendar date is the
number of its day since 1 January 1970.

Of a `str` the program asks which characters are white space, and the text without the white space
around it.  Lengths are counted in bytes of UTF-8.

Main definitions:

* `Gt06.days` — a duration in days;
* `Gt06.numSeconds` — the whole seconds of a duration, towards zero;
* `Gt06.wibDate` — the calendar date of an instant in Western Indonesian Time;
* `Gt06.isWhitespace`, `Gt06.trim` — white space, and a text without it.

Main results:

* `Gt06.utf8ByteSize_eq_length` — one byte for each ASCII digit.
-/

import Mathlib

set_option relaxedAutoImplicit false
set_option autoImplicit false

namespace Gt06

/-! ### Instants -/

def microsPerSecond : ℤ := 1000000

def microsPerDay : ℤ := 24 * 60 * 60 * microsPerSecond

/-- `chrono::Duration::days`. -/
def days (n : ℤ) : ℤ := n * microsPerDay

/-- `chrono::Duration::num_seconds`: the whole seconds, towards zero. -/
def numSeconds (duration : ℤ) : ℤ := duration.tdiv microsPerSecond

def wibOffsetSeconds : ℤ := 7 * 60 * 60

/-- `wib_date`: the day of an instant in Western Indonesian Time. -/
def wibDate (value : ℤ) : ℤ := (value + wibOffsetSeconds * microsPerSecond) / microsPerDay

theorem days_pos {n : ℤ} (h : 0 < n) : 0 < days n := by
  unfold days microsPerDay microsPerSecond
  omega

theorem wibDate_mono {s t : ℤ} (h : s ≤ t) : wibDate s ≤ wibDate t := by
  unfold wibDate
  exact Int.ediv_le_ediv (by decide) (by omega)

/-! ### Texts -/

/-- The characters `trim` removes: those with the property `White_Space`. -/
def isWhitespace (c : Char) : Bool :=
  let n := c.toNat
  (0x9 ≤ n && n ≤ 0xD) || n == 0x20 || n == 0x85 || n == 0xA0 || n == 0x1680 ||
    (0x2000 ≤ n && n ≤ 0x200A) || n == 0x2028 || n == 0x2029 || n == 0x202F || n == 0x205F ||
    n == 0x3000

/-- `str::trim`. -/
def trim (text : String) : String :=
  String.ofList ((text.toList.dropWhile isWhitespace).rdropWhile isWhitespace)

theorem utf8Size_of_isDigit {c : Char} (h : c.isDigit = true) : c.utf8Size = 1 := by
  have hle : c.val ≤ 0x7F := by
    simp only [Char.isDigit, ge_iff_le, Bool.and_eq_true, decide_eq_true_eq] at h
    exact UInt32.le_trans h.2 (by decide)
  simp [Char.utf8Size, hle]

theorem size_utf8Encode {cs : List Char} (h : ∀ c ∈ cs, c.isDigit = true) :
    cs.utf8Encode.size = cs.length := by
  induction cs with
  | nil => rfl
  | cons c cs ih =>
      have hc := utf8Size_of_isDigit (h c List.mem_cons_self)
      rw [List.utf8Encode_cons, ByteArray.size_append,
        ih fun c hc => h c (List.mem_cons_of_mem _ hc),
        List.utf8Encode_singleton]
      simp [hc, Nat.add_comm]

/-- One byte for each ASCII digit. -/
theorem utf8ByteSize_eq_length {text : String} (h : ∀ c ∈ text.toList, c.isDigit = true) :
    text.utf8ByteSize = text.toList.length := by
  rw [← size_utf8Encode h, ← String.toByteArray_ofList, String.ofList_toList]
  rfl

end Gt06
