/-
**Sums over the neighbours in a list.**

The length of a route and the time under way are sums over the windows of two neighbours of a list:
of points, of instants.  What is said about them is about lists.  A list that is taken apart loses
one window; a stretch of a list that is ordered has the windows of the list that lie in it; and
where the cost is a distance, to pass over elements makes the sum no larger.

Main definitions:

* `Neighbours.windows` — the windows of two neighbours;
* `Neighbours.total` — the sum of a cost over them.

Main results:

* `Neighbours.total_append` — a list taken apart at an element;
* `Neighbours.total_filter_between` — **the sum over a stretch of an ordered list**;
* `Neighbours.total_between_cut` — **a stretch cut in two loses at most the window about the cut**;
* `Neighbours.total_le_of_sublist` — **shortcuts are no longer than the way**.
-/

import Mathlib

set_option relaxedAutoImplicit false
set_option autoImplicit false

namespace Neighbours

variable {α β M : Type*}

/-! ### Windows -/

/-- The windows of two neighbours, in their order. -/
def windows : List α → List (α × α)
  | a :: b :: l => (a, b) :: windows (b :: l)
  | _ => []

/-- The sum of a cost over the windows. -/
def total [AddCommMonoid M] (cost : α → α → M) (l : List α) : M :=
  ((windows l).map fun window => cost window.1 window.2).sum

section Sum

variable [AddCommMonoid M] (cost : α → α → M)

@[simp] theorem total_nil : total cost [] = 0 := rfl

@[simp] theorem total_singleton (a : α) : total cost [a] = 0 := rfl

@[simp] theorem total_cons_cons (a b : α) (l : List α) :
    total cost (a :: b :: l) = cost a b + total cost (b :: l) := List.sum_cons

/-- A list taken apart at an element, which both parts keep. -/
theorem total_append (l r : List α) (a : α) :
    total cost (l ++ a :: r) = total cost (l ++ [a]) + total cost (a :: r) := by
  induction l with
  | nil => simp
  | cons b l ih =>
      cases l with
      | nil => simp
      | cons c l =>
          have htail : total cost (c :: (l ++ a :: r)) =
              total cost (c :: (l ++ [a])) + total cost (a :: r) := ih
          simp only [List.cons_append, total_cons_cons, htail, add_assoc]

/-- A list taken apart between two neighbours. -/
theorem total_append_append (l r : List α) (a b : α) :
    total cost ((l ++ [a]) ++ b :: r) =
      total cost (l ++ [a]) + cost a b + total cost (b :: r) := by
  rw [List.append_assoc, List.singleton_append, total_append, total_cons_cons, ← add_assoc]

theorem total_map (f : β → α) (l : List β) :
    total cost (l.map f) = total (fun a b => cost (f a) (f b)) l := by
  induction l with
  | nil => rfl
  | cons a l ih =>
      cases l with
      | nil => rfl
      | cons b l =>
          simp only [List.map_cons, total_cons_cons] at ih ⊢
          rw [ih]

/-- The sums of several costs are together the sum of their sums. -/
theorem sum_map_total (costs : List β) (cost : β → α → α → M) (l : List α) :
    (costs.map fun x => total (cost x) l).sum =
      total (fun a b => (costs.map fun x => cost x a b).sum) l := by
  induction l with
  | nil => simp
  | cons a l ih =>
      cases l with
      | nil => simp
      | cons b l => simp only [total_cons_cons, List.sum_map_add, ih]

theorem total_add (cost' : α → α → M) (l : List α) :
    total (fun a b => cost a b + cost' a b) l = total cost l + total cost' l := by
  induction l with
  | nil => simp
  | cons a l ih =>
      cases l with
      | nil => simp
      | cons b l =>
          rw [total_cons_cons, total_cons_cons, total_cons_cons, ih]
          exact add_add_add_comm ..

theorem total_zero (l : List α) : total (fun _ _ => (0 : M)) l = 0 := by
  induction l with
  | nil => rfl
  | cons a l ih =>
      cases l with
      | nil => rfl
      | cons b l => rw [total_cons_cons, ih, add_zero]

end Sum

/-- A smaller cost of the windows has the smaller sum. -/
theorem total_le_total [AddCommMonoid M] [PartialOrder M] [IsOrderedAddMonoid M]
    {R : α → α → Prop} {cost cost' : α → α → M} {l : List α} (hl : l.Pairwise R)
    (h : ∀ a b, R a b → cost a b ≤ cost' a b) : total cost l ≤ total cost' l := by
  induction l with
  | nil => exact le_rfl
  | cons a l ih =>
      obtain ⟨ha, hl⟩ := List.pairwise_cons.1 hl
      cases l with
      | nil => exact le_rfl
      | cons b l =>
          rw [total_cons_cons, total_cons_cons]
          exact add_le_add (h a b (ha b List.mem_cons_self)) (ih hl)

/-! ### Shortcuts -/

section Shortcut

variable [AddCommMonoid M] [PartialOrder M] [IsOrderedAddMonoid M] {d : α → α → M}

theorem total_nonneg (hpos : ∀ a b, 0 ≤ d a b) (l : List α) : 0 ≤ total d l := by
  refine List.sum_nonneg ?_
  intro x hx
  obtain ⟨window, -, rfl⟩ := List.mem_map.1 hx
  exact hpos window.1 window.2

/-- To begin elsewhere and come is no shorter. -/
theorem total_cons_le (hpos : ∀ a b, 0 ≤ d a b) (htriangle : ∀ a b c, d a c ≤ d a b + d b c)
    (a b : α) (l : List α) : total d (a :: l) ≤ d a b + total d (b :: l) := by
  cases l with
  | nil => simpa using hpos a b
  | cons c l =>
      rw [total_cons_cons, total_cons_cons, ← add_assoc]
      exact add_le_add_left (htriangle a b c) _

/-- From a given start, to pass over elements is no longer. -/
theorem total_cons_le_of_sublist (hpos : ∀ a b, 0 ≤ d a b)
    (htriangle : ∀ a b c, d a c ≤ d a b + d b c) {l l' : List α} (h : l.Sublist l') (a : α) :
    total d (a :: l) ≤ total d (a :: l') := by
  induction h generalizing a with
  | slnil => exact le_rfl
  | cons b _ ih =>
      rw [total_cons_cons]
      exact (total_cons_le hpos htriangle a b _).trans (add_le_add_right (ih b) _)
  | cons_cons b _ ih =>
      rw [total_cons_cons, total_cons_cons]
      exact add_le_add_right (ih b) _

/-- Shortcuts are no longer than the way. -/
theorem total_le_of_sublist (hpos : ∀ a b, 0 ≤ d a b)
    (htriangle : ∀ a b c, d a c ≤ d a b + d b c) {l l' : List α} (h : l.Sublist l') :
    total d l ≤ total d l' := by
  induction h with
  | slnil => exact le_rfl
  | @cons l l' b h ih =>
      refine ih.trans ?_
      cases l' with
      | nil => exact le_rfl
      | cons c l' =>
          rw [total_cons_cons]
          exact le_add_of_nonneg_left (hpos b c)
  | cons_cons b h _ => exact total_cons_le_of_sublist hpos htriangle h b

end Shortcut

/-! ### Stretches of an ordered list -/

section Stretch

variable [AddCommMonoid M] {β : Type*} [LinearOrder β]

/-- In an ordered list the windows of a stretch are those of the list whose ends lie in it. -/
theorem total_filter_between (cost : α → α → M) (key : α → β) (lo hi : β) {l : List α}
    (hl : l.Pairwise fun a b => key a ≤ key b) :
    total cost (l.filter fun a => lo ≤ key a ∧ key a ≤ hi) =
      total (fun a b => if lo ≤ key a ∧ key b ≤ hi then cost a b else 0) l := by
  induction l with
  | nil => rfl
  | cons a l ih =>
      obtain ⟨ha, hl⟩ := List.pairwise_cons.1 hl
      have hrest := ih hl
      cases l with
      | nil => rw [List.filter_cons]; split <;> rfl
      | cons b l =>
          have hab := ha b List.mem_cons_self
          rw [total_cons_cons, ← hrest, List.filter_cons]
          by_cases hin : lo ≤ key a ∧ key b ≤ hi
          · -- both ends lie in the stretch, and stay neighbours
            have hain : lo ≤ key a ∧ key a ≤ hi := ⟨hin.1, hab.trans hin.2⟩
            have hbin : lo ≤ key b ∧ key b ≤ hi := ⟨hin.1.trans hab, hin.2⟩
            have hkept : (b :: l).filter (fun c => lo ≤ key c ∧ key c ≤ hi) =
                b :: l.filter (fun c => lo ≤ key c ∧ key c ≤ hi) :=
              List.filter_cons_of_pos (decide_eq_true hbin)
            rw [if_pos hin, if_pos (decide_eq_true hain), hkept, total_cons_cons]
          · rw [if_neg hin, zero_add]
            split
            next hain =>
              -- the stretch ends with this element
              have hain := of_decide_eq_true hain
              have hempty : (b :: l).filter (fun c => lo ≤ key c ∧ key c ≤ hi) = [] := by
                rw [List.filter_eq_nil_iff]
                intro c hc hcin
                have hbc : key b ≤ key c := by
                  cases List.mem_cons.1 hc with
                  | inl h => rw [h]
                  | inr h => exact (List.pairwise_cons.1 hl).1 c h
                exact hin ⟨hain.1, hbc.trans (of_decide_eq_true hcin).2⟩
              rw [hempty, total_singleton, total_nil]
            next => rfl

/-- What the windows of a stretch cost. -/
def between (cost : α → α → M) (key : α → β) (lo hi : β) (a b : α) : M :=
  if lo ≤ key a ∧ key b ≤ hi then cost a b else 0

section Cut

variable [PartialOrder M] [IsOrderedAddMonoid M] {cost : α → α → M} {key : α → β} {bound : M}
  {lo hi t : β}

/-- At most one window of an ordered list lies about a point. -/
theorem total_about_le (hnonneg : 0 ≤ bound) (hbound : ∀ a b, cost a b ≤ bound) {l : List α}
    (hl : l.Pairwise fun a b => key a ≤ key b) :
    total (fun a b => if key a < t ∧ t < key b then cost a b else 0) l ≤ bound := by
  induction l with
  | nil => exact hnonneg
  | cons a l ih =>
      obtain ⟨-, hl⟩ := List.pairwise_cons.1 hl
      cases l with
      | nil => exact hnonneg
      | cons b l =>
          rw [total_cons_cons]
          split
          next habout =>
            -- the windows after this one begin behind the point
            have hbehind : (b :: l).Pairwise fun c _ => t < key c := by
              refine hl.imp_of_mem fun {c d} hc _ _ => ?_
              rcases List.mem_cons.1 hc with rfl | hc
              · exact habout.2
              · exact habout.2.trans_le ((List.pairwise_cons.1 hl).1 c hc)
            have hrest : total (fun c d => if key c < t ∧ t < key d then cost c d else 0) (b :: l) ≤
                total (fun _ _ => 0) (b :: l) :=
              total_le_total hbehind fun c d hc => (if_neg fun h => h.1.not_gt hc).le
            rw [total_zero] at hrest
            exact (add_le_add (hbound a b) hrest).trans_eq (add_zero bound)
          next => exact (zero_add _).trans_le (ih hl)

/-- A stretch that is cut at a point loses at most one window, and none unless it is cut inside. -/
theorem total_between_cut (hnonneg : ∀ a b, 0 ≤ cost a b) (hbound : ∀ a b, cost a b ≤ bound)
    (hpos : 0 ≤ bound) (hstill : ∀ a b, key a = key b → cost a b = 0) {l : List α}
    (hl : l.Pairwise fun a b => key a ≤ key b) :
    total (between cost key lo (min hi t)) l + total (between cost key (max lo t) hi) l ≤
        total (between cost key lo hi) l ∧
      total (between cost key lo hi) l ≤
        total (between cost key lo (min hi t)) l + total (between cost key (max lo t) hi) l +
          if lo < t ∧ t < hi then bound else 0 := by
  constructor
  · rw [← total_add]
    refine total_le_total hl fun a b hab => ?_
    unfold between
    by_cases hstretch : lo ≤ key a ∧ key b ≤ hi
    · rw [if_pos hstretch]
      by_cases hbefore : key b ≤ t
      · rw [if_pos ⟨hstretch.1, le_min hstretch.2 hbefore⟩]
        by_cases hafter : t ≤ key a
        · rw [hstill a b (hab.antisymm (hbefore.trans hafter))]
          simp
        · rw [if_neg fun h => hafter ((le_max_right _ _).trans h.1), add_zero]
      · rw [if_neg fun h => hbefore (h.2.trans (min_le_right _ _)), zero_add]
        split
        · exact le_rfl
        · exact hnonneg a b
    · rw [if_neg hstretch, if_neg fun h => hstretch ⟨h.1, h.2.trans (min_le_left _ _)⟩,
        if_neg fun h => hstretch ⟨(le_max_left _ _).trans h.1, h.2⟩, add_zero]
  · have hcut : total (fun a b => if (lo < t ∧ t < hi) ∧ key a < t ∧ t < key b then cost a b else 0)
        l ≤ if lo < t ∧ t < hi then bound else 0 := by
      by_cases hinside : lo < t ∧ t < hi
      · simp only [hinside, true_and, and_self, if_true]
        exact total_about_le hpos hbound hl
      · simp only [hinside, false_and, if_false, total_zero, le_refl]
    refine le_trans ?_ (add_le_add_right hcut _)
    have hite : ∀ (p : Prop) [Decidable p] (a b : α), 0 ≤ if p then cost a b else 0 := by
      intro p _ a b
      split
      · exact hnonneg a b
      · exact le_rfl
    rw [← total_add, ← total_add]
    refine total_le_total hl fun a b hab => ?_
    unfold between
    by_cases hstretch : lo ≤ key a ∧ key b ≤ hi
    · rw [if_pos hstretch]
      by_cases hbefore : key b ≤ t
      · rw [if_pos ⟨hstretch.1, le_min hstretch.2 hbefore⟩, add_assoc]
        exact le_add_of_nonneg_right (add_nonneg (hite ..) (hite ..))
      · by_cases hafter : t ≤ key a
        · rw [if_pos (show max lo t ≤ key a ∧ key b ≤ hi from
            ⟨max_le hstretch.1 hafter, hstretch.2⟩)]
          exact (le_add_of_nonneg_left (hite ..)).trans (le_add_of_nonneg_right (hite ..))
        · have habout : key a < t ∧ t < key b := ⟨not_le.1 hafter, not_le.1 hbefore⟩
          have hinside : lo < t ∧ t < hi :=
            ⟨hstretch.1.trans_lt habout.1, habout.2.trans_le hstretch.2⟩
          rw [if_pos (show (lo < t ∧ t < hi) ∧ key a < t ∧ t < key b from ⟨hinside, habout⟩)]
          exact le_add_of_nonneg_left (add_nonneg (hite ..) (hite ..))
    · rw [if_neg hstretch]
      exact add_nonneg (add_nonneg (hite ..) (hite ..)) (hite ..)

end Cut

end Stretch

end Neighbours
