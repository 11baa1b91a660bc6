/-
**Running totals and the totals of days.**

Entries are booked one after the other, each on a day, and their amounts add up.  A goal is reached
with an entry; kept by days only, it is reached on the first day by whose end the days have come to
it.  Where the days do not go back, that is the day of the entry: and since what comes later changes
nothing about the entries before, a goal that is reached stays reached on its day.

Main definitions:

* `RunningTotals.totalOf`, `RunningTotals.totalBy` — all that is booked, and all up to a day;
* `RunningTotals.reachedAt` — the day of the entry with which a goal is reached.

Main results:

* `RunningTotals.reachedAt_append` — more entries change nothing;
* `RunningTotals.isLeast_reachedAt` — **the day of the entry is the first day of the days**;
* `RunningTotals.sum_totalOn` — the totals of the days are the total.
-/

import Mathlib

set_option relaxedAutoImplicit false
set_option autoImplicit false

namespace RunningTotals

variable {ι M : Type*}

/-! ### Totals -/

section Totals

variable [AddCommMonoid M]

/-- All that is booked. -/
def totalOf (entries : List (ι × M)) : M := (entries.map Prod.snd).sum

@[simp] theorem totalOf_nil : totalOf ([] : List (ι × M)) = 0 := rfl

@[simp] theorem totalOf_cons (entry : ι × M) (entries : List (ι × M)) :
    totalOf (entry :: entries) = entry.2 + totalOf entries := List.sum_cons

@[simp] theorem totalOf_append (entries more : List (ι × M)) :
    totalOf (entries ++ more) = totalOf entries + totalOf more := by
  simp [totalOf]

/-- The totals of the days are the total, if no day is left out and none counted twice. -/
theorem sum_totalOn [DecidableEq ι] {days : List ι} (hdays : days.Nodup) {entries : List (ι × M)}
    (hentries : ∀ entry ∈ entries, entry.1 ∈ days) :
    (days.map fun day => totalOf (entries.filter fun entry => entry.1 = day)).sum =
      totalOf entries := by
  induction entries with
  | nil => simp
  | cons entry entries ih =>
      have hsplit : ∀ day, totalOf ((entry :: entries).filter fun entry => entry.1 = day) =
          (if day = entry.1 then entry.2 else 0) +
            totalOf (entries.filter fun entry => entry.1 = day) := by
        intro day
        by_cases hday : entry.1 = day
        · rw [List.filter_cons_of_pos (by simpa using hday), totalOf_cons, if_pos hday.symm]
        · rw [List.filter_cons_of_neg (by simpa using hday), if_neg fun h => hday h.symm, zero_add]
      have hown : (days.map fun day => if day = entry.1 then entry.2 else 0).sum = entry.2 := by
        rw [List.sum_map_eq_nsmul_single entry.1 _ fun day hne _ => if_neg hne, if_pos rfl,
          List.count_eq_one_of_mem hdays (hentries entry List.mem_cons_self), one_smul]
      simp only [hsplit, List.sum_map_add, hown, totalOf_cons,
        ih fun other hother => hentries other (List.mem_cons_of_mem _ hother)]

variable [LinearOrder ι]

/-- All that is booked up to a day, that day included. -/
def totalBy (day : ι) (entries : List (ι × M)) : M :=
  totalOf (entries.filter fun entry => entry.1 ≤ day)

theorem totalBy_cons_of_le {day : ι} {entry : ι × M} (h : entry.1 ≤ day)
    (entries : List (ι × M)) : totalBy day (entry :: entries) = entry.2 + totalBy day entries := by
  rw [totalBy, List.filter_cons_of_pos (by simpa using h), totalOf_cons, totalBy]

theorem totalBy_of_lt {day : ι} {entries : List (ι × M)} (h : ∀ entry ∈ entries, day < entry.1) :
    totalBy day entries = 0 := by
  have hnone : (entries.filter fun entry => entry.1 ≤ day) = [] := by
    rw [List.filter_eq_nil_iff]
    intro entry hentry hle
    exact absurd (of_decide_eq_true hle) (not_le.2 (h entry hentry))
  rw [totalBy, hnone, totalOf_nil]

end Totals

/-! ### Goals -/

section Goals

variable [AddCommGroup M] [LinearOrder M]

/-- The day of the entry with which a goal is reached. -/
def reachedAt (goal : M) : List (ι × M) → Option ι
  | [] => none
  | entry :: entries =>
      if goal ≤ entry.2 then some entry.1 else reachedAt (goal - entry.2) entries

/-- More entries change nothing about a goal that is reached. -/
theorem reachedAt_append {goal : M} {entries : List (ι × M)} {day : ι}
    (h : reachedAt goal entries = some day) (more : List (ι × M)) :
    reachedAt goal (entries ++ more) = some day := by
  induction entries generalizing goal with
  | nil => nomatch h
  | cons entry entries ih =>
      rw [List.cons_append, reachedAt]
      rw [reachedAt] at h
      split at h
      · rwa [if_pos ‹_›]
      · rw [if_neg ‹_›]
        exact ih h

/-- The day is that of an entry. -/
theorem mem_of_reachedAt {goal : M} {entries : List (ι × M)} {day : ι}
    (h : reachedAt goal entries = some day) : ∃ entry ∈ entries, entry.1 = day := by
  induction entries generalizing goal with
  | nil => nomatch h
  | cons entry entries ih =>
      rw [reachedAt] at h
      split at h
      · exact ⟨entry, List.mem_cons_self, Option.some.inj h⟩
      · obtain ⟨other, hother, hday⟩ := ih h
        exact ⟨other, List.mem_cons_of_mem _ hother, hday⟩

variable [IsOrderedAddMonoid M]

/-- A goal is reached as soon as all that is booked comes to it. -/
theorem exists_reachedAt {goal : M} {entries : List (ι × M)} (hgoal : 0 < goal)
    (htotal : goal ≤ totalOf entries) : ∃ day, reachedAt goal entries = some day := by
  induction entries generalizing goal with
  | nil => exact absurd htotal (not_le.2 hgoal)
  | cons entry entries ih =>
      rw [reachedAt]
      split
      · exact ⟨_, rfl⟩
      · rename_i hlt
        refine ih (sub_pos.2 (not_le.1 hlt)) ?_
        rw [totalOf_cons] at htotal
        exact sub_le_iff_le_add'.2 htotal

theorem totalBy_nonneg [LinearOrder ι] {day : ι} {entries : List (ι × M)}
    (h : ∀ entry ∈ entries, 0 ≤ entry.2) : 0 ≤ totalBy day entries := by
  refine List.sum_nonneg fun amount hamount => ?_
  obtain ⟨entry, hentry, rfl⟩ := List.mem_map.1 hamount
  exact h entry (List.mem_of_mem_filter hentry)

/-- **The day of the entry is the first day of the days**: entries are booked on days that do not go
back, and nothing is taken back.  Then the day of the entry with which a goal is reached is the
first day by which the days have come to the goal. -/
theorem isLeast_reachedAt [LinearOrder ι] {goal : M} {entries : List (ι × M)} {day : ι}
    (hdays : entries.Pairwise fun a b => a.1 ≤ b.1) (hamounts : ∀ entry ∈ entries, 0 ≤ entry.2)
    (hgoal : 0 < goal) (h : reachedAt goal entries = some day) :
    IsLeast {day | goal ≤ totalBy day entries} day := by
  induction entries generalizing goal with
  | nil => nomatch h
  | cons entry entries ih =>
      obtain ⟨hfirst, hdays⟩ := List.pairwise_cons.1 hdays
      -- on the days before the first entry nothing is booked
      have hbefore : ∀ date, goal ≤ totalBy date (entry :: entries) → entry.1 ≤ date := by
        intro date hdate
        by_contra hlt
        rw [totalBy_of_lt] at hdate
        · exact absurd hdate (not_le.2 hgoal)
        · intro other hother
          cases List.mem_cons.1 hother with
          | inl heq => exact heq ▸ not_le.1 hlt
          | inr hmem => exact (not_le.1 hlt).trans_le (hfirst other hmem)
      have hrest : ∀ other ∈ entries, 0 ≤ other.2 :=
        fun other hother => hamounts other (List.mem_cons_of_mem _ hother)
      rw [reachedAt] at h
      split at h
      · rename_i hreached
        obtain rfl := Option.some.inj h
        refine ⟨?_, hbefore⟩
        change goal ≤ totalBy entry.1 (entry :: entries)
        rw [totalBy_cons_of_le le_rfl]
        exact hreached.trans (le_add_of_nonneg_right (totalBy_nonneg hrest))
      · rename_i hlt
        obtain ⟨hday, hleast⟩ := ih hdays hrest (sub_pos.2 (not_le.1 hlt)) h
        obtain ⟨other, hother, hon⟩ := mem_of_reachedAt h
        have hle : entry.1 ≤ day := hon ▸ hfirst other hother
        refine ⟨?_, ?_⟩
        · change goal ≤ totalBy day (entry :: entries)
          rw [totalBy_cons_of_le hle]
          exact sub_le_iff_le_add'.1 hday
        · intro date hdate
          have hdate' : goal ≤ totalBy date (entry :: entries) := hdate
          rw [totalBy_cons_of_le (hbefore date hdate)] at hdate'
          exact hleast (sub_le_iff_le_add'.2 hdate')

end Goals

end RunningTotals
