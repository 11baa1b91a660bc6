/-
**The length of a route.**

A route is the list of positions a device reported.  Now and then the receiver is wrong by a
kilometre for one position; before a route is measured, a position is passed over when it is far
from both of its neighbours while these are near each other.  The neighbours are those of the list
as it came, so that a wrong position takes part in the verdict on the right ones beside it.

How the earth is measured does not matter: the distance of two positions is a parameter, of which
it is assumed only that it is the same both ways and that detours are not shorter.

Main definitions:

* `Gt06.isSpike` — the verdict on a position;
* `Gt06.filterGpsSpikeOutliers` — the route without the positions that are passed over;
* `Gt06.totalRouteDistanceKm` — its length.

Main results:

* `Gt06.filterGpsSpikeOutliers_sublist` — nothing is moved, and the ends stay;
* `Gt06.filterGpsSpikeOutliers_insert` — a wrong position is taken out, and nothing besides;
* `Gt06.spike_removal_sound` — **neither lengthens a route**;
* `Gt06.totalDistanceKm_le` — a ride is no longer than the way along its points.
-/

import Gt06Server.RidingTime

set_option relaxedAutoImplicit false
set_option autoImplicit false

namespace Gt06

open Neighbours

section Distance

variable {P K : Type} [Field K] [LinearOrder K]

/-- `SPIKE_KM`. -/
def spikeKm : K := 8 / 100

/-- How near its neighbours are to each other, by the distance of a spike. -/
def spikeRatio : K := ((1 / 2 : ℚ) : K)

variable (haversineDistanceKm : P → P → K)

def isSpike (previous current next : P) : Bool :=
  let distanceFromPrevious := haversineDistanceKm previous current
  let distanceToNext := haversineDistanceKm current next
  let neighbourDistance := haversineDistanceKm previous next
  spikeKm < distanceFromPrevious ∧ spikeKm < distanceToNext ∧
    neighbourDistance < max distanceFromPrevious distanceToNext * spikeRatio

/-- The loop, from a position on, and the last position behind it. -/
def cleanedFrom (previous current : P) : List P → List P
  | [] => [current]
  | next :: rest =>
      if isSpike haversineDistanceKm previous current next then cleanedFrom current next rest
      else current :: cleanedFrom current next rest

def filterGpsSpikeOutliers : List P → List P
  | first :: current :: next :: rest =>
      first :: cleanedFrom haversineDistanceKm first current (next :: rest)
  | points => points

def totalRouteDistanceKm (points : List P) : K :=
  total haversineDistanceKm (filterGpsSpikeOutliers haversineDistanceKm points)

/-! ### What stays -/

/-- Two positions are like more of them: the second is the last. -/
theorem filterGpsSpikeOutliers_cons_cons (first current : P) (rest : List P) :
    filterGpsSpikeOutliers haversineDistanceKm (first :: current :: rest) =
      first :: cleanedFrom haversineDistanceKm first current rest := by
  cases rest with
  | nil => rfl
  | cons next rest => rfl

theorem cleanedFrom_sublist (previous current : P) (rest : List P) :
    (cleanedFrom haversineDistanceKm previous current rest).Sublist (current :: rest) := by
  induction rest generalizing previous current with
  | nil => exact List.Sublist.refl _
  | cons next rest ih =>
      rw [cleanedFrom]
      split
      · exact (ih current next).cons current
      · exact (ih current next).cons_cons current

theorem getLast?_cleanedFrom (previous current : P) (rest : List P) :
    (cleanedFrom haversineDistanceKm previous current rest).getLast? =
      (current :: rest).getLast? := by
  induction rest generalizing previous current with
  | nil => rfl
  | cons next rest ih =>
      have hrest := ih current next
      rw [cleanedFrom, List.getLast?_cons_cons]
      split
      · exact hrest
      · rw [List.getLast?_cons, hrest, List.getLast?_cons]
        rfl

/-- Positions are passed over and not moved, and the ends of the route stay. -/
theorem filterGpsSpikeOutliers_sublist (points : List P) :
    (filterGpsSpikeOutliers haversineDistanceKm points).Sublist points ∧
      (filterGpsSpikeOutliers haversineDistanceKm points).head? = points.head? ∧
      (filterGpsSpikeOutliers haversineDistanceKm points).getLast? = points.getLast? := by
  cases points with
  | nil => exact ⟨List.Sublist.refl _, rfl, rfl⟩
  | cons first rest =>
      cases rest with
      | nil => exact ⟨List.Sublist.refl _, rfl, rfl⟩
      | cons current rest =>
          rw [filterGpsSpikeOutliers_cons_cons]
          refine ⟨(cleanedFrom_sublist haversineDistanceKm first current rest).cons_cons first, rfl,
            ?_⟩
          rw [List.getLast?_cons, getLast?_cleanedFrom, List.getLast?_cons_cons, List.getLast?_cons]
          rfl

/-- A position that is passed over is missing. -/
theorem cleanedFrom_cons_eq_iff {previous current next : P} {rest : List P} :
    cleanedFrom haversineDistanceKm previous current (next :: rest) = current :: next :: rest ↔
      isSpike haversineDistanceKm previous current next = false ∧
        cleanedFrom haversineDistanceKm current next rest = next :: rest := by
  rw [cleanedFrom]
  split
  next hspike =>
    have hshort := (cleanedFrom_sublist haversineDistanceKm current next rest).length_le
    refine iff_of_false ?_ fun h => by rw [hspike] at h; cases h.1
    intro h
    rw [h] at hshort
    simp at hshort
  next hspike => simp [hspike]

/-! ### A wrong position -/

/-- A position `s` between `a` and `b` that is wrong, on a route that comes to `a` through the
positions of `l` and goes on from `b` through those of `r`. -/
structure WrongBetween (l : List P) (a s b : P) (r : List P) : Prop where
  far_from : spikeKm < haversineDistanceKm a s
  far_to : spikeKm < haversineDistanceKm s b
  near : haversineDistanceKm a b <
    max (haversineDistanceKm a s) (haversineDistanceKm s b) * (1 / 2)
  leg_before : ∀ p ∈ l.getLast?, 2 * haversineDistanceKm p a ≤ haversineDistanceKm a s
  leg_after : ∀ n ∈ r.head?, 2 * haversineDistanceKm b n ≤ haversineDistanceKm s b

end Distance

section Insert

variable {P K : Type} [Field K] [LinearOrder K] [IsStrictOrderedRing K] {d : P → P → K}

/-- Distances that are the same both ways, and not shorter by a detour, are not negative. -/
theorem distance_nonneg (hsymm : ∀ p q, d p q = d q p) (htriangle : ∀ p q r, d p r ≤ d p q + d q r)
    (p q : P) : 0 ≤ d p q := by
  have hself : 0 ≤ d p p := by linarith [htriangle p p p]
  have hback := htriangle p q p
  rw [hsymm q p] at hback
  linarith

theorem spikeRatio_eq : (spikeRatio : K) = 1 / 2 := by
  unfold spikeRatio
  norm_num

/-- A position is kept if it is at least twice as far from one neighbour as from the other. -/
theorem isSpike_eq_false {p q r : P} (hsymm : ∀ p q, d p q = d q p)
    (htriangle : ∀ p q r, d p r ≤ d p q + d q r)
    (h : 2 * d p q ≤ d q r ∨ 2 * d q r ≤ d p q) : isSpike d p q r = false := by
  have hpq := distance_nonneg hsymm htriangle p q
  have hqr := distance_nonneg hsymm htriangle q r
  have hnear : max (d p q) (d q r) * (1 / 2) ≤ d p r := by
    cases h with
    | inl h =>
        have hdetour := htriangle q p r
        rw [hsymm q p] at hdetour
        rw [max_eq_right (by linarith)]
        linarith
    | inr h =>
        have hdetour := htriangle p r q
        rw [hsymm r q] at hdetour
        rw [max_eq_left (by linarith)]
        linarith
  simp only [isSpike, decide_eq_false_iff_not, spikeRatio_eq]
  exact fun hspike => absurd hspike.2.2 (not_lt.2 hnear)

variable (hsymm : ∀ p q, d p q = d q p) (htriangle : ∀ p q r, d p r ≤ d p q + d q r)

theorem WrongBetween.isSpike {l r : List P} {a s b : P} (h : WrongBetween d l a s b r) :
    isSpike d a s b = true := by
  simp only [Gt06.isSpike, decide_eq_true_eq, spikeRatio_eq]
  exact ⟨h.far_from, h.far_to, h.near⟩

include hsymm htriangle in
/-- The wrong position is passed over, the one behind it is not. -/
theorem cleanedFrom_wrong {l r : List P} {a s b : P} (h : WrongBetween d l a s b r)
    (hclean : cleanedFrom d a b r = b :: r) : cleanedFrom d a s (b :: r) = b :: r := by
  rw [cleanedFrom, if_pos h.isSpike]
  cases r with
  | nil => rfl
  | cons n r =>
      rw [cleanedFrom_cons_eq_iff] at hclean ⊢
      exact ⟨isSpike_eq_false hsymm htriangle (Or.inr (h.leg_after n rfl)), hclean.2⟩

include hsymm htriangle in
/-- Neither is the one before it, nor any before that. -/
theorem cleanedFrom_insert {l r : List P} {p c a s b : P}
    (h : WrongBetween d (p :: c :: l) a s b r)
    (hclean : cleanedFrom d p c (l ++ a :: b :: r) = c :: (l ++ a :: b :: r)) :
    cleanedFrom d p c (l ++ a :: s :: b :: r) = c :: (l ++ a :: b :: r) := by
  induction l generalizing p c with
  | nil =>
      obtain ⟨hc, hclean⟩ := (cleanedFrom_cons_eq_iff d).1 hclean
      have ha : isSpike d c a s = false :=
        isSpike_eq_false hsymm htriangle (Or.inl (h.leg_before c rfl))
      have hs := cleanedFrom_wrong hsymm htriangle h ((cleanedFrom_cons_eq_iff d).1 hclean).2
      rw [List.nil_append, cleanedFrom, hc, if_neg Bool.false_ne_true, cleanedFrom, ha,
        if_neg Bool.false_ne_true, hs]
      rfl
  | cons x l ih =>
      obtain ⟨hc, hclean⟩ := (cleanedFrom_cons_eq_iff d).1 hclean
      have hrest : WrongBetween d (c :: x :: l) a s b r :=
        { h with leg_before := fun q hq => h.leg_before q (by rwa [List.getLast?_cons_cons]) }
      rw [List.cons_append, cleanedFrom, hc, if_neg Bool.false_ne_true, ih hrest hclean]
      rfl

include hsymm htriangle in
/-- **A wrong position is taken out and nothing besides**, wherever on a route it is. -/
theorem filterGpsSpikeOutliers_insert {l r : List P} {a s b : P} (h : WrongBetween d l a s b r)
    (hclean : filterGpsSpikeOutliers d (l ++ a :: b :: r) = l ++ a :: b :: r) :
    filterGpsSpikeOutliers d (l ++ a :: s :: b :: r) = l ++ a :: b :: r := by
  cases l with
  | nil =>
      rw [List.nil_append, filterGpsSpikeOutliers_cons_cons] at hclean ⊢
      rw [cleanedFrom_wrong hsymm htriangle h (List.tail_eq_of_cons_eq hclean)]
      rfl
  | cons p l =>
      cases l with
      | nil =>
          rw [List.singleton_append, filterGpsSpikeOutliers_cons_cons] at hclean ⊢
          have hclean := (cleanedFrom_cons_eq_iff d).1 (List.tail_eq_of_cons_eq hclean)
          have ha : isSpike d p a s = false :=
            isSpike_eq_false hsymm htriangle (Or.inl (h.leg_before p rfl))
          rw [cleanedFrom, ha, if_neg Bool.false_ne_true,
            cleanedFrom_wrong hsymm htriangle h hclean.2]
          rfl
      | cons c l =>
          simp only [List.cons_append, filterGpsSpikeOutliers_cons_cons] at hclean ⊢
          rw [cleanedFrom_insert hsymm htriangle h (List.tail_eq_of_cons_eq hclean)]

include hsymm htriangle in
theorem total_filterGpsSpikeOutliers_le (points : List P) :
    totalRouteDistanceKm d points ≤ total d points :=
  total_le_of_sublist (distance_nonneg hsymm htriangle) htriangle
    (filterGpsSpikeOutliers_sublist d points).1

include hsymm htriangle in
/-- **Neither what is passed over nor what is wrong lengthens a route.**  What stays of a list of
positions is a part of it with the same ends, and no longer.  A wrong position between two of a
route of which nothing is passed over does not change its length: one that is more than 80 metres
from either of them, more than twice as far from one of them as they are from each other, and at
least twice as far from each as the leg of the route on the other side is long. -/
theorem spike_removal_sound :
    (∀ points, (filterGpsSpikeOutliers d points).Sublist points ∧
      (filterGpsSpikeOutliers d points).head? = points.head? ∧
      (filterGpsSpikeOutliers d points).getLast? = points.getLast? ∧
      total d (filterGpsSpikeOutliers d points) ≤ total d points) ∧
      ∀ l a s b r, WrongBetween d l a s b r →
        filterGpsSpikeOutliers d (l ++ a :: b :: r) = l ++ a :: b :: r →
          totalRouteDistanceKm d (l ++ a :: s :: b :: r) =
            totalRouteDistanceKm d (l ++ a :: b :: r) := by
  constructor
  · intro points
    obtain ⟨hsublist, hhead, hlast⟩ := filterGpsSpikeOutliers_sublist d points
    exact ⟨hsublist, hhead, hlast, total_filterGpsSpikeOutliers_le hsymm htriangle points⟩
  · intro l a s b r hwrong hclean
    rw [totalRouteDistanceKm, totalRouteDistanceKm, hclean,
      filterGpsSpikeOutliers_insert hsymm htriangle hwrong hclean]

/-- On a line, a position a kilometre off does not lengthen a route of 20 metres. -/
theorem spike_removal_sound_line :
    totalRouteDistanceKm (fun p q : ℚ => |p - q|) [0, 1 / 100, 1, 2 / 100] =
      totalRouteDistanceKm (fun p q : ℚ => |p - q|) [0, 1 / 100, 2 / 100] :=
  (spike_removal_sound (fun p q => abs_sub_comm p q) fun p q r => abs_sub_le p q r).2
    [0] (1 / 100) 1 (2 / 100) []
    { far_from := by decide +kernel
      far_to := by decide +kernel
      near := by decide +kernel
      leg_before := by decide +kernel
      leg_after := by decide +kernel }
    (by decide +kernel)

end Insert

/-! ### Rides -/

/-- A ride is no longer than the way along the points it has. -/
theorem totalDistanceKm_le {d : ℚ × ℚ → ℚ × ℚ → ℚ} (hsymm : ∀ p q, d p q = d q p)
    (htriangle : ∀ p q r, d p r ≤ d p q + d q r) (rows : List RidePoint) (imei : String)
    (startedAt endedAt : ℤ) :
    (fetchRideSummary (summarizeRide (totalRouteDistanceKm d)) rows imei startedAt
        endedAt).totalDistanceKm ≤
      total d ((ridePoints rows imei startedAt endedAt).map fun row =>
        (row.latitude, row.longitude)) := by
  unfold fetchRideSummary
  dsimp only
  split
  · exact total_nonneg (distance_nonneg hsymm htriangle) _
  · exact total_filterGpsSpikeOutliers_le hsymm htriangle _

end Gt06
