/-
**Decimal texts of integers, and digits in groups.**

An integer is written as its decimal digits, behind a minus sign when it is negative.  Two integers
with a mark between them that is no digit can be read off their text again, also when the mark is
the minus sign itself: a sign stands only in front of a digit, and digits end before the mark.

A long row of digits is read more easily in groups of a fixed size, counted from the end.  A loop
over the row can place the marks going forwards, by what is still to come, or going backwards, by
what it has passed; both put them at the same places.

Main definitions:

* `Decimals.insertBefore` — a mark in front of every element whose index asks for one;
* `Decimals.groupForwards`, `Decimals.groupBackwards` — marks between groups, by either loop.

Main results:

* `Decimals.append_cons_inj` — an integer and what follows it can be told apart;
* `Decimals.groupForwards_eq_groupBackwards` — the two loops agree;
* `Decimals.splitOn_groupForwards` — the groups have the size asked for, but for the first.
-/

import Mathlib

set_option relaxedAutoImplicit false
set_option autoImplicit false

namespace Decimals

/-! ### Integers as texts -/

theorem toList_toString_of_nonneg {n : ℤ} (h : 0 ≤ n) :
    (toString n).toList = Nat.toDigits 10 n.toNat := by
  rw [Int.toString_eq_repr, Int.repr_eq_if, if_pos h, Nat.toList_repr]

theorem toList_toString_of_neg {n : ℤ} (h : n < 0) :
    (toString n).toList = '-' :: Nat.toDigits 10 (-n).toNat := by
  rw [Int.toString_eq_repr, Int.repr_eq_if, if_neg (by omega), String.toList_append,
    Nat.toList_repr]
  rfl

theorem isDigit_of_mem_toDigits {n : ℕ} {c : Char} (h : c ∈ Nat.toDigits 10 n) :
    c.isDigit = true := Nat.isDigit_of_mem_toDigits (by decide) (by decide) h

/-- Only signs and digits make up an integer. -/
theorem isDigit_of_mem_toString {n : ℤ} {c : Char} (h : c ∈ (toString n).toList) :
    c = '-' ∨ c.isDigit = true := by
  by_cases hn : 0 ≤ n
  · rw [toList_toString_of_nonneg hn] at h
    exact Or.inr (isDigit_of_mem_toDigits h)
  · rw [toList_toString_of_neg (by omega)] at h
    exact (List.mem_cons.1 h).imp_right isDigit_of_mem_toDigits

theorem toDigits_injective {m n : ℕ} (h : Nat.toDigits 10 m = Nat.toDigits 10 n) : m = n := by
  rw [← Nat.ofDigitChars_ten_toDigits (n := m), h, Nat.ofDigitChars_ten_toDigits]

theorem toList_toString_inj {m n : ℤ} :
    (toString m).toList = (toString n).toList ↔ m = n := by
  rw [String.toList_inj, Int.toString_eq_repr, Int.toString_eq_repr, Int.repr_inj]

/-- Where a run of elements with a property ends. -/
theorem run_append_cons_inj {α : Type} {p : α → Bool} {xs ys rest rest' : List α} {mark : α}
    (hxs : ∀ x ∈ xs, p x = true) (hys : ∀ y ∈ ys, p y = true) (hmark : p mark = false)
    (h : xs ++ mark :: rest = ys ++ mark :: rest') : xs = ys ∧ rest = rest' := by
  have hrun : ∀ (zs tail : List α), (∀ z ∈ zs, p z = true) →
      (zs ++ mark :: tail).takeWhile p = zs := by
    intro zs tail hzs
    rw [List.takeWhile_append_of_pos hzs, List.takeWhile_cons_of_neg (by simp [hmark]),
      List.append_nil]
  have hxy : xs = ys := by rw [← hrun xs rest hxs, h, hrun ys rest' hys]
  subst hxy
  exact ⟨rfl, (List.cons.inj (List.append_cancel_left h)).2⟩

theorem toDigits_append_cons_inj {m n : ℕ} {mark : Char} {rest rest' : List Char}
    (hmark : mark.isDigit = false)
    (h : Nat.toDigits 10 m ++ mark :: rest = Nat.toDigits 10 n ++ mark :: rest') :
    m = n ∧ rest = rest' := by
  obtain ⟨hdigits, hrest⟩ := run_append_cons_inj (fun _ => isDigit_of_mem_toDigits)
    (fun _ => isDigit_of_mem_toDigits) hmark h
  exact ⟨toDigits_injective hdigits, hrest⟩

/-- The digits of an integer do not begin with a sign. -/
theorem toDigits_append_ne_cons {n : ℕ} {c : Char} (hc : c.isDigit = false)
    (rest rest' : List Char) : Nat.toDigits 10 n ++ rest ≠ c :: rest' := by
  intro h
  cases hdigits : Nat.toDigits 10 n with
  | nil => exact Nat.toDigits_ne_nil hdigits
  | cons d ds =>
      have hd : d.isDigit = true := isDigit_of_mem_toDigits (n := n) (by simp [hdigits])
      rw [hdigits, List.cons_append] at h
      rw [(List.cons.inj h).1, hc] at hd
      cases hd

/-- An integer and what follows it behind a mark, which may be the minus sign, can be told
apart. -/
theorem append_cons_inj {m n : ℤ} {mark : Char} {rest rest' : List Char}
    (hmark : mark.isDigit = false)
    (h : (toString m).toList ++ mark :: rest = (toString n).toList ++ mark :: rest') :
    m = n ∧ rest = rest' := by
  by_cases hm : 0 ≤ m
  · by_cases hn : 0 ≤ n
    · rw [toList_toString_of_nonneg hm, toList_toString_of_nonneg hn] at h
      obtain ⟨hdigits, hrest⟩ := toDigits_append_cons_inj hmark h
      exact ⟨by omega, hrest⟩
    · rw [toList_toString_of_nonneg hm, toList_toString_of_neg (by omega)] at h
      exact absurd h (toDigits_append_ne_cons (by decide) _ _)
  · by_cases hn : 0 ≤ n
    · rw [toList_toString_of_neg (by omega), toList_toString_of_nonneg hn] at h
      exact absurd h.symm (toDigits_append_ne_cons (by decide) _ _)
    · rw [toList_toString_of_neg (by omega), toList_toString_of_neg (by omega)] at h
      obtain ⟨hdigits, hrest⟩ := toDigits_append_cons_inj hmark (List.cons.inj h).2
      exact ⟨by omega, hrest⟩

/-! ### Marks -/

section Groups

variable {α : Type} (mark : α)

/-- The elements of a list, with a mark in front of those whose index asks for one; the indices
count from `i`. -/
def insertBefore (separates : ℕ → Bool) : ℕ → List α → List α
  | _, [] => []
  | i, x :: xs =>
      if separates i then mark :: x :: insertBefore separates (i + 1) xs
      else x :: insertBefore separates (i + 1) xs

variable {mark} {separates separates' : ℕ → Bool}

theorem insertBefore_append (i : ℕ) (xs ys : List α) :
    insertBefore mark separates i (xs ++ ys) =
      insertBefore mark separates i xs ++ insertBefore mark separates (i + xs.length) ys := by
  induction xs generalizing i with
  | nil => rfl
  | cons x xs ih =>
      rw [List.cons_append, insertBefore, insertBefore, ih, List.length_cons,
        show i + 1 + xs.length = i + (xs.length + 1) by omega]
      split
      · rfl
      · rfl

/-- Only the indices of the elements count. -/
theorem insertBefore_congr (i i' : ℕ) (xs : List α)
    (h : ∀ j < xs.length, separates (i + j) = separates' (i' + j)) :
    insertBefore mark separates i xs = insertBefore mark separates' i' xs := by
  induction xs generalizing i i' with
  | nil => rfl
  | cons x xs ih =>
      have hhead : separates i = separates' i' := h 0 (by simp)
      have htail : insertBefore mark separates (i + 1) xs =
          insertBefore mark separates' (i' + 1) xs := by
        refine ih _ _ fun j hj => ?_
        have := h (j + 1) (by simpa using hj)
        rwa [show i + (j + 1) = i + 1 + j by omega,
          show i' + (j + 1) = i' + 1 + j by omega] at this
      rw [insertBefore, insertBefore, hhead, htail]

theorem insertBefore_eq_self (i : ℕ) (xs : List α)
    (h : ∀ j < xs.length, separates (i + j) = false) :
    insertBefore mark separates i xs = xs := by
  induction xs generalizing i with
  | nil => rfl
  | cons x xs ih =>
      have hhead : separates i = false := h 0 (by simp)
      rw [insertBefore, hhead, if_neg Bool.false_ne_true, ih (i + 1)]
      intro j hj
      rw [show i + 1 + j = i + (j + 1) by omega]
      exact h (j + 1) (by simpa using hj)

/-- A mark in front of the first element only. -/
theorem insertBefore_eq_cons (i : ℕ) {xs : List α} (hxs : xs ≠ []) (hfirst : separates i = true)
    (hrest : ∀ j, 0 < j → j < xs.length → separates (i + j) = false) :
    insertBefore mark separates i xs = mark :: xs := by
  cases xs with
  | nil => exact absurd rfl hxs
  | cons x xs =>
      rw [insertBefore, if_pos hfirst, insertBefore_eq_self (i + 1) xs]
      intro j hj
      rw [show i + 1 + j = i + (j + 1) by omega]
      exact hrest (j + 1) (by omega) (by simpa using hj)

/-- Taking the marks out again. -/
theorem filter_insertBefore [DecidableEq α] (i : ℕ) {xs : List α} (h : mark ∉ xs) :
    (insertBefore mark separates i xs).filter (· ≠ mark) = xs := by
  induction xs generalizing i with
  | nil => rfl
  | cons x xs ih =>
      have hx : x ≠ mark := fun heq => h (heq ▸ List.mem_cons_self)
      have hxs : mark ∉ xs := fun hmem => h (List.mem_cons_of_mem x hmem)
      rw [insertBefore]
      have hkeep : decide (x ≠ mark) = true := decide_eq_true hx
      split
      · rw [List.filter_cons, if_neg (by simp), List.filter_cons, if_pos hkeep, ih (i + 1) hxs]
      · rw [List.filter_cons, if_pos hkeep, ih (i + 1) hxs]

/-! ### Groups -/

variable (mark) (size : ℕ)

/-- A mark wherever a multiple of the size is still to come. -/
def groupForwards (xs : List α) : List α :=
  insertBefore mark (fun i => 0 < i && (xs.length - i) % size == 0) 0 xs

/-- From the end: a mark wherever a multiple of the size has passed. -/
def groupBackwards (xs : List α) : List α :=
  (insertBefore mark (fun i => 0 < i && i % size == 0) 0 xs.reverse).reverse

variable {mark size}

/-- No mark at the start, and none less than a group away from one. -/
theorem no_mark_of_lt {i passed : ℕ} (h : i = 0 ∨ 0 < passed ∧ passed < size) :
    (decide (0 < i) && passed % size == 0) = false := by
  obtain rfl | ⟨hpos, hlt⟩ := h
  · rfl
  · rw [Nat.mod_eq_of_lt hlt, beq_eq_false_iff_ne.2 hpos.ne', Bool.and_false]

/-- A list is at most one group, or what is in front of its last one. -/
theorem groups_induction (hsize : 0 < size) {motive : List α → Prop}
    (short : ∀ xs, xs.length ≤ size → motive xs)
    (append : ∀ xs group, xs ≠ [] → group.length = size → motive xs → motive (xs ++ group))
    (xs : List α) : motive xs := by
  induction hn : xs.length using Nat.strong_induction_on generalizing xs with
  | _ n ih =>
      by_cases hle : xs.length ≤ size
      · exact short xs hle
      · rw [← List.take_append_drop (xs.length - size) xs]
        refine append _ _ ?_ ?_ (ih _ ?_ _ rfl)
        · rw [ne_eq, List.take_eq_nil_iff, ← List.length_eq_zero_iff]
          omega
        · rw [List.length_drop]
          omega
        · rw [List.length_take]
          omega

theorem groupForwards_short {xs : List α} (h : xs.length ≤ size) :
    groupForwards mark size xs = xs := by
  refine insertBefore_eq_self 0 xs fun j hj => ?_
  exact no_mark_of_lt (by omega)

theorem groupForwards_append {xs group : List α} (hxs : xs ≠ []) (hsize : 0 < size)
    (hgroup : group.length = size) :
    groupForwards mark size (xs ++ group) = groupForwards mark size xs ++ mark :: group := by
  have hpos : 0 < xs.length := List.length_pos_iff.2 hxs
  rw [groupForwards, insertBefore_append, List.length_append]
  congr 1
  · refine insertBefore_congr 0 0 xs fun j hj => ?_
    rw [show xs.length + group.length - (0 + j) = xs.length - (0 + j) + size by omega,
      Nat.add_mod_right]
  · refine insertBefore_eq_cons _ (List.length_pos_iff.1 (by omega)) ?_ ?_
    · rw [show xs.length + group.length - (0 + xs.length) = size by omega, Nat.mod_self]
      simpa using hpos
    · intro j hj hjlt
      exact no_mark_of_lt (by omega)

theorem groupBackwards_short {xs : List α} (h : xs.length ≤ size) :
    groupBackwards mark size xs = xs := by
  rw [groupBackwards, insertBefore_eq_self, List.reverse_reverse]
  intro j hj
  rw [List.length_reverse] at hj
  exact no_mark_of_lt (by omega)

theorem groupBackwards_append {xs group : List α} (hxs : xs ≠ []) (hsize : 0 < size)
    (hgroup : group.length = size) :
    groupBackwards mark size (xs ++ group) = groupBackwards mark size xs ++ mark :: group := by
  obtain ⟨y, ys, hys⟩ : ∃ y ys, xs.reverse = y :: ys :=
    List.exists_cons_of_ne_nil (by simpa using hxs)
  have hlast : insertBefore mark (fun i => 0 < i && i % size == 0) 0 group.reverse =
      group.reverse := by
    refine insertBefore_eq_self 0 _ fun j hj => ?_
    rw [List.length_reverse] at hj
    exact no_mark_of_lt (by omega)
  -- behind the last group the next mark is due at once, and then where it was without that group
  have hrest : insertBefore mark (fun i => 0 < i && i % size == 0) size (y :: ys) =
      mark :: insertBefore mark (fun i => 0 < i && i % size == 0) 0 (y :: ys) := by
    have htail : insertBefore mark (fun i => 0 < i && i % size == 0) (size + 1) ys =
        insertBefore mark (fun i => 0 < i && i % size == 0) (0 + 1) ys := by
      refine insertBefore_congr _ _ ys fun j _ => ?_
      rw [show size + 1 + j = 0 + 1 + j + size by omega, Nat.add_mod_right,
        decide_eq_true (show 0 < 0 + 1 + j + size by omega),
        decide_eq_true (show 0 < 0 + 1 + j by omega)]
    rw [insertBefore, insertBefore, htail, if_pos (by simp [hsize]), if_neg (by simp)]
  rw [groupBackwards, List.reverse_append, insertBefore_append, hlast, List.length_reverse, hgroup,
    Nat.zero_add, hys, hrest, ← hys, List.reverse_append, List.reverse_cons, List.reverse_reverse,
    List.append_assoc, groupBackwards]
  rfl

/-- The two loops put the marks at the same places. -/
theorem groupForwards_eq_groupBackwards (hsize : 0 < size) (xs : List α) :
    groupForwards mark size xs = groupBackwards mark size xs := by
  induction xs using groups_induction hsize with
  | short xs h => rw [groupForwards_short h, groupBackwards_short h]
  | append xs group hxs hgroup ih =>
      rw [groupForwards_append hxs hsize hgroup, groupBackwards_append hxs hsize hgroup, ih]

/-- Between marks there are groups of the given size, of which the first may be shorter, and
together they are the list. -/
theorem splitOn_groupForwards [DecidableEq α] (hsize : 0 < size) {xs : List α} (hxs : xs ≠ [])
    (hmark : mark ∉ xs) :
    ∃ first groups, (groupForwards mark size xs).splitOn mark = first :: groups ∧
      (first :: groups).flatten = xs ∧ 0 < first.length ∧ first.length ≤ size ∧
      ∀ group ∈ groups, group.length = size := by
  induction xs using groups_induction hsize with
  | short xs h =>
      refine ⟨xs, [], ?_, by simp, List.length_pos_iff.2 hxs, h, by simp⟩
      rw [groupForwards_short h, List.splitOn_eq_singleton hmark]
  | append xs last hne hlast ih =>
      rw [List.mem_append, not_or] at hmark
      obtain ⟨first, groups, hsplit, hflatten, hpos, hle, hgroups⟩ := ih hne hmark.1
      refine ⟨first, groups ++ [last], ?_, ?_, hpos, hle, ?_⟩
      · rw [groupForwards_append hne hsize hlast, List.splitOn_append_cons_self, hsplit,
          List.splitOn_eq_singleton hmark.2, List.cons_append]
      · rw [← List.cons_append, List.flatten_append, hflatten, List.flatten_singleton]
      · intro group hgroup
        obtain hgroup | hgroup := List.mem_append.1 hgroup
        · exact hgroups group hgroup
        · rw [List.mem_singleton.1 hgroup, hlast]

end Groups

end Decimals
