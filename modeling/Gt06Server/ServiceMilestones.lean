/-
**When the device is due for service.**

Every thousand kilometres the owner is reminded of what to look after.  The page shows how far it
is to the next time, and when the last twenty times were: on which day the kilometres that were
counted day by day had reached the next thousand.  The kilometres themselves come from the odometer,
which is another table.

The arithmetic is that of an ordered field, and whole numbers have no bound.  The text of a date is
the library's.

Main definitions:

* `Gt06.serviceRecommendation` — what is due, by the kilometres;
* `Gt06.buildServiceMilestones` — the times before;
* `Gt06.getDeviceService` — the page;
* `Gt06.kmBy`, `Gt06.reachedOn` — the kilometres up to a date, and the date of a milestone.

Main results:

* `Gt06.buildServiceMilestones_eq` — the milestones, newest first, each with its date;
* `Gt06.service_milestones_match_odometer` — **the days agree with the odometer**;
* `Gt06.getDeviceService_of_balanced` — so does the page, whatever has been counted.
-/

import Gt06Server.AmountGrouping
import Gt06Server.DistanceTotals

set_option relaxedAutoImplicit false
set_option autoImplicit false

namespace Gt06

open Relational

/-! ### What is due -/

structure ServiceRecommendation where
  code : String
  intervalKm : ℤ
  title : String
  items : List String
  deriving DecidableEq, Repr

def service20000 : ServiceRecommendation where
  code := "service_20000"
  intervalKm := 20000
  title := "Rekomendasi servis besar 20.000 km"
  items :=
    ["Ganti V-belt (untuk motor matic)",
      "Ganti roller CVT jika aus (untuk motor matic)",
      "Ganti coolant (jika menggunakan radiator)",
      "Ganti filter udara",
      "Ganti busi",
      "Cek bearing roda",
      "Cek shockbreaker",
      "Cek kompresi mesin",
      "Cek rantai keteng",
      "Lakukan pemeriksaan menyeluruh seluruh sistem motor",
      "Servis besar direkomendasikan pada rentang 20.000–25.000 km"]

def service10000 : ServiceRecommendation where
  code := "service_10000"
  intervalKm := 10000
  title := "Rekomendasi servis 10.000 km"
  items :=
    ["Lakukan semua pemeriksaan interval 5.000 km",
      "Ganti filter udara jika diperlukan",
      "Ganti busi jika diperlukan",
      "Ganti minyak rem",
      "Setel celah klep (valve clearance)",
      "Servis throttle body atau injektor",
      "Cek coolant (jika menggunakan radiator)"]

def service5000 : ServiceRecommendation where
  code := "service_5000"
  intervalKm := 5000
  title := "Rekomendasi servis 5.000 km"
  items :=
    ["Lakukan semua pemeriksaan interval 3.000 km",
      "Ganti oli gardan (untuk motor matic)",
      "Cek V-belt dan roller CVT (untuk motor matic)",
      "Cek gear dan rantai (untuk motor manual)",
      "Cek suspensi depan dan belakang",
      "Cek bearing roda",
      "Cek sistem kemudi"]

def service3000 : ServiceRecommendation where
  code := "service_3000"
  intervalKm := 3000
  title := "Rekomendasi servis 3.000 km"
  items :=
    ["Lakukan semua pemeriksaan interval 1.000 km",
      "Ganti oli mesin",
      "Bersihkan filter udara",
      "Cek busi",
      "Cek throttle body atau karburator",
      "Setel rantai (untuk motor manual)",
      "Cek kampas rem",
      "Cek baut-baut penting"]

def service1000 : ServiceRecommendation where
  code := "service_1000"
  intervalKm := 1000
  title := "Rekomendasi servis 1.000 km"
  items :=
    ["Cek kondisi dan ganti oli mesin sesuai kebutuhan",
      "Cek tekanan dan kondisi ban",
      "Cek rem depan dan belakang",
      "Cek lampu, klakson, dan sein",
      "Cek aki atau baterai",
      "Cek kebocoran oli atau cairan",
      "Cek rantai dan pelumas rantai (untuk motor manual)"]

/-- The longest interval that ends there. -/
def serviceRecommendation (milestoneKm : ℤ) : ServiceRecommendation :=
  if milestoneKm.tmod 20000 = 0 then service20000
  else if milestoneKm.tmod 10000 = 0 then service10000
  else if milestoneKm.tmod 5000 = 0 then service5000
  else if milestoneKm.tmod 3000 = 0 then service3000
  else service1000

example : [1000, 3000, 15000, 30000, 40000].map (fun km => (serviceRecommendation km).code) =
    ["service_1000", "service_3000", "service_5000", "service_10000", "service_20000"] := by
  decide

/-! ### The milestones -/

structure ServiceMilestone where
  milestoneNumber : ℤ
  milestoneKm : ℤ
  achievedOn : String
  recommendationCode : String
  recommendationLabel : String
  recommendationTitle : String
  recommendationItems : List String
  deriving DecidableEq, Repr

section Source

variable (formatDate : ℤ → String)

/-- The milestone with a number, reached on a date. -/
def serviceMilestone (number date : ℤ) : ServiceMilestone :=
  let milestoneKm := number * 1000
  let recommendation := serviceRecommendation milestoneKm
  { milestoneNumber := number
    milestoneKm := milestoneKm
    achievedOn := formatDate date
    recommendationCode := recommendation.code
    recommendationLabel :=
      "Rekomendasi interval " ++ formatKmGrouped recommendation.intervalKm ++ " km"
    recommendationTitle := recommendation.title
    recommendationItems := recommendation.items }

variable {K : Type} [Field K] [LinearOrder K]

def metersPerKm : ℤ := 1000

def kmPerMilestone : ℤ := 1000

/-- `f64::EPSILON`. -/
def epsilon : K := 1 / 2 ^ 52

/-- The inner loop, which ends when the milestones are used up at the latest. -/
def pushMilestones (completedMilestones date : ℤ) (cumulativeKm : K) :
    ℕ → ℤ → List ServiceMilestone → ℤ × List ServiceMilestone
  | 0, number, milestones => (number, milestones)
  | left + 1, number, milestones =>
      if number ≤ completedMilestones ∧ ((number * 1000 : ℤ) : K) ≤ cumulativeKm + epsilon then
        pushMilestones completedMilestones date cumulativeKm left (number + 1)
          (milestones ++ [serviceMilestone formatDate number date])
      else (number, milestones)

/-- The variables of the outer loop. -/
structure MilestoneLoop (K : Type) where
  cumulativeKm : K
  nextMilestoneNumber : ℤ
  milestones : List ServiceMilestone

/-- One day. -/
def MilestoneLoop.day (completedMilestones : ℤ) (loop : MilestoneLoop K) (daily : ℤ × K) :
    MilestoneLoop K :=
  let cumulativeKm := loop.cumulativeKm + daily.2 / (metersPerKm : K)
  let pushed := pushMilestones formatDate completedMilestones daily.1 cumulativeKm
    (completedMilestones + 1 - loop.nextMilestoneNumber).toNat loop.nextMilestoneNumber
    loop.milestones
  { cumulativeKm := cumulativeKm
    nextMilestoneNumber := pushed.1
    milestones := pushed.2 }

def MilestoneLoop.start : MilestoneLoop K := ⟨0, 1, []⟩

def buildServiceMilestones (dailyDistances : List (ℤ × K)) (completedMilestones : ℤ) :
    List ServiceMilestone :=
  (dailyDistances.foldl (MilestoneLoop.day formatDate completedMilestones)
    MilestoneLoop.start).milestones.reverse.take 20

example : (buildServiceMilestones toString [((20662 : ℤ), (2500000 : ℚ)), (20663, 22500000)]
    25).map (fun milestone => (milestone.milestoneKm, milestone.achievedOn)) =
    (List.range 20).map fun i => (25000 - 1000 * (i : ℤ), "20663") := by
  decide +kernel

/-! ### The page -/

structure DeviceServiceResponse (K : Type) where
  imei : String
  timezone : String
  generatedAt : ℤ
  totalTrackedDistanceKm : K
  nextMilestoneKm : ℤ
  distanceRemainingKm : K
  nextRecommendation : ServiceRecommendation
  milestones : List ServiceMilestone

inductive ServiceError where
  | deviceNotFound
  deriving DecidableEq, Repr

/-- The days of a device, in their order. -/
def dailyDistances (tables : DistanceTables K) (imei : String) : List (ℤ × K) :=
  ((tables.daily.filter fun row => row.imei = imei).mergeSort
    fun a b => a.distanceDate ≤ b.distanceDate).map
      fun row => (row.distanceDate, max row.distanceMeters 0)

variable [FloorRing K]

def getDeviceService (devices : List String) (tables : DistanceTables K) (imei : String)
    (now : ℤ) : Except ServiceError (DeviceServiceResponse K) :=
  if imei ∉ devices then .error .deviceNotFound
  else
    let totalDistanceMeters := max (tables.totalDistanceMeters imei) 0
    let totalTrackedDistanceKm := totalDistanceMeters / (metersPerKm : K)
    let completedMilestones := ⌊totalTrackedDistanceKm / (kmPerMilestone : K)⌋
    let nextMilestoneKm := (completedMilestones + 1) * 1000
    .ok
      { imei := imei
        timezone := "Asia/Jakarta"
        generatedAt := now
        totalTrackedDistanceKm := totalTrackedDistanceKm
        nextMilestoneKm := nextMilestoneKm
        distanceRemainingKm := max ((nextMilestoneKm : K) - totalTrackedDistanceKm) 0
        nextRecommendation := serviceRecommendation nextMilestoneKm
        milestones :=
          buildServiceMilestones formatDate (dailyDistances tables imei) completedMilestones }

end Source

/-! ### The date of a milestone -/

section Dates

variable {K : Type} [Field K] [LinearOrder K]

/-- The kilometres of a list of days. -/
def sumKm (days : List (ℤ × K)) : K := (days.map fun day => day.2 / (metersPerKm : K)).sum

/-- The kilometres up to a date, that day included. -/
def kmBy (daily : List (ℤ × K)) (date : ℤ) : K := sumKm (daily.filter fun day => day.1 ≤ date)

/-- The dates by which a milestone is reached, but for the last bit of a number. -/
def reachedBy (daily : List (ℤ × K)) (number : ℤ) : Set ℤ :=
  {date | ((number * 1000 : ℤ) : K) ≤ kmBy daily date + epsilon}

/-- The date a milestone is reached on. -/
noncomputable def reachedOn (daily : List (ℤ × K)) (number : ℤ) : ℤ := sInf (reachedBy daily number)

variable [IsStrictOrderedRing K]

omit [LinearOrder K] [IsStrictOrderedRing K] in
theorem cast_metersPerKm : (metersPerKm : K) = 1000 := by
  unfold metersPerKm
  norm_cast

omit [LinearOrder K] [IsStrictOrderedRing K] in
theorem cast_kmPerMilestone : (kmPerMilestone : K) = 1000 := by
  unfold kmPerMilestone
  norm_cast

theorem epsilon_pos : 0 < (epsilon : K) := by
  unfold epsilon
  positivity

/-- A later milestone is not reached before an earlier one. -/
theorem reachedBy_anti {daily : List (ℤ × K)} {m n : ℤ} (h : m ≤ n) :
    reachedBy daily n ⊆ reachedBy daily m := by
  intro date hdate
  have hkm : ((m * 1000 : ℤ) : K) ≤ ((n * 1000 : ℤ) : K) := Int.cast_le.2 (by omega)
  exact hkm.trans hdate

/-- The days of a device: a date comes once, and nothing is taken back. -/
structure AreDays (daily : List (ℤ × K)) : Prop where
  ascending : daily.Pairwise fun a b => a.1 < b.1
  non_negative : ∀ day ∈ daily, 0 ≤ day.2

variable {daily done rest : List (ℤ × K)} {day : ℤ × K}

omit [IsStrictOrderedRing K] in
/-- On a day of the list the kilometres are those of the days so far. -/
theorem kmBy_day (h : AreDays daily) (hdaily : daily = done ++ day :: rest) :
    kmBy daily day.1 = sumKm (done ++ [day]) := by
  obtain ⟨-, hrest, hdone⟩ := List.pairwise_append.1 (hdaily ▸ h.ascending)
  have hkept : done.filter (fun d => d.1 ≤ day.1) = done := by
    rw [List.filter_eq_self]
    exact fun d hd => decide_eq_true (hdone d hd day List.mem_cons_self).le
  have hdropped : rest.filter (fun d => d.1 ≤ day.1) = [] := by
    rw [List.filter_eq_nil_iff]
    exact fun d hd hle =>
      absurd (of_decide_eq_true hle) (not_le.2 ((List.pairwise_cons.1 hrest).1 d hd))
  rw [kmBy, hdaily, List.filter_append, hkept, List.filter_cons, if_pos (decide_eq_true le_rfl),
    hdropped]

/-- Before a day of the list they are at most those of the days before. -/
theorem kmBy_le_of_lt (h : AreDays daily) (hdaily : daily = done ++ day :: rest) {date : ℤ}
    (hdate : date < day.1) : kmBy daily date ≤ sumKm done := by
  obtain ⟨-, hrest, -⟩ := List.pairwise_append.1 (hdaily ▸ h.ascending)
  have hdropped : (day :: rest).filter (fun d => d.1 ≤ date) = [] := by
    rw [List.filter_eq_nil_iff]
    intro d hd hle
    have hday : day.1 ≤ d.1 := by
      cases List.mem_cons.1 hd with
      | inl h => rw [h]
      | inr h => exact ((List.pairwise_cons.1 hrest).1 d h).le
    exact absurd ((of_decide_eq_true hle).trans_lt hdate) (not_lt.2 hday)
  rw [kmBy, hdaily, List.filter_append, hdropped, List.append_nil]
  refine (List.filter_sublist.map _).sum_le_sum ?_
  intro km hkm
  obtain ⟨d, hd, rfl⟩ := List.mem_map.1 hkm
  have hpos := h.non_negative d (hdaily ▸ List.mem_append_left _ hd)
  rw [cast_metersPerKm]
  positivity

/-- A milestone is reached on a day on which it had not been reached before. -/
theorem isLeast_reachedBy (h : AreDays daily) (hdaily : daily = done ++ day :: rest) {number : ℤ}
    (hbefore : sumKm done + epsilon < ((number * 1000 : ℤ) : K))
    (hreached : ((number * 1000 : ℤ) : K) ≤ sumKm (done ++ [day]) + epsilon) :
    IsLeast (reachedBy daily number) day.1 := by
  constructor
  · change _ ≤ kmBy daily day.1 + epsilon
    rw [kmBy_day h hdaily]
    exact hreached
  · intro date hdate
    by_contra hlt
    have hkm := kmBy_le_of_lt h hdaily (not_le.1 hlt)
    have hdate : ((number * 1000 : ℤ) : K) ≤ kmBy daily date + epsilon := hdate
    linarith

/-! ### The loops -/

variable (formatDate : ℤ → String)

/-- The milestones up to a number, oldest first, each with the date it was reached on. -/
structure Crossed (daily : List (ℤ × K)) (count : ℕ) (milestones : List ServiceMilestone) :
    Prop where
  isLeast : ∀ number : ℤ, 1 ≤ number → number ≤ count →
    IsLeast (reachedBy daily number) (reachedOn daily number)
  milestones_eq : milestones = (List.range count).map fun i : ℕ =>
    serviceMilestone formatDate (i + 1) (reachedOn daily (i + 1))

variable {formatDate}

omit [IsStrictOrderedRing K] in
/-- The next milestone. -/
theorem Crossed.push {count : ℕ} {milestones : List ServiceMilestone} {date : ℤ}
    (h : Crossed formatDate daily count milestones)
    (hdate : IsLeast (reachedBy daily (count + 1)) date) :
    Crossed formatDate daily (count + 1)
      (milestones ++ [serviceMilestone formatDate (count + 1) date]) := by
  have hon : reachedOn daily (count + 1) = date := hdate.csInf_eq
  constructor
  · intro number hpos hle
    by_cases hold : number ≤ count
    · exact h.isLeast number hpos hold
    · obtain rfl : number = count + 1 := by omega
      rwa [hon]
  · rw [List.range_succ, List.map_append, ← h.milestones_eq, List.map_singleton, hon]

/-- What holds between two days: `done` are the days so far. -/
structure MilestoneLoop.Inv (formatDate : ℤ → String) (daily : List (ℤ × K))
    (completedMilestones : ℤ) (done : List (ℤ × K)) (loop : MilestoneLoop K) (count : ℕ) :
    Prop where
  cumulativeKm : loop.cumulativeKm = sumKm done
  next : loop.nextMilestoneNumber = count + 1
  count_le : (count : ℤ) ≤ completedMilestones
  crossed : Crossed formatDate daily count loop.milestones
  stopped : (count : ℤ) < completedMilestones →
    loop.cumulativeKm + epsilon < (((count + 1) * 1000 : ℤ) : K)

/-- The inner loop goes on to the first milestone that is not reached that day. -/
theorem pushMilestones_crossed {completedMilestones : ℤ} {cumulativeKm : K} (h : AreDays daily)
    (hdaily : daily = done ++ day :: rest) (hcumulative : cumulativeKm = sumKm (done ++ [day]))
    (left count : ℕ) (hleft : (count : ℤ) + left = completedMilestones)
    (milestones : List ServiceMilestone) (hcrossed : Crossed formatDate daily count milestones)
    (hbefore : (count : ℤ) < completedMilestones →
      sumKm done + epsilon < (((count + 1) * 1000 : ℤ) : K)) :
    ∃ count' : ℕ, (pushMilestones formatDate completedMilestones day.1 cumulativeKm left
        (count + 1) milestones).1 = count' + 1 ∧
      (count' : ℤ) ≤ completedMilestones ∧
      Crossed formatDate daily count' (pushMilestones formatDate completedMilestones day.1
        cumulativeKm left (count + 1) milestones).2 ∧
      ((count' : ℤ) < completedMilestones →
        cumulativeKm + epsilon < (((count' + 1) * 1000 : ℤ) : K)) := by
  induction left generalizing count milestones with
  | zero =>
      refine ⟨count, rfl, by omega, hcrossed, ?_⟩
      intro hlt
      omega
  | succ left ih =>
      rw [pushMilestones]
      have hlt : (count : ℤ) < completedMilestones := by omega
      by_cases hreached : (((count + 1) * 1000 : ℤ) : K) ≤ cumulativeKm + epsilon
      · rw [if_pos ⟨by omega, hreached⟩]
        have hdate := isLeast_reachedBy h hdaily (hbefore hlt) (hcumulative ▸ hreached)
        have hpushed := ih (count + 1) (by push_cast at hleft ⊢; omega) _ (hcrossed.push hdate) ?_
        · exact_mod_cast hpushed
        · -- what was too little for this milestone is too little for the next one
          intro _
          have hnext : (((count + 1) * 1000 : ℤ) : K) ≤ ((((count + 1 : ℕ) + 1) * 1000 : ℤ) : K) :=
            Int.cast_le.2 (by push_cast; omega)
          exact (hbefore hlt).trans_le hnext
      · rw [if_neg fun hguard => hreached hguard.2]
        exact ⟨count, rfl, by omega, hcrossed, fun _ => not_le.1 hreached⟩

/-- The step lemma: a day. -/
theorem MilestoneLoop.Inv.afterDay {completedMilestones : ℤ} {loop : MilestoneLoop K} {count : ℕ}
    (h : AreDays daily) (hdaily : daily = done ++ day :: rest)
    (hinv : loop.Inv formatDate daily completedMilestones done count) :
    ∃ count', (loop.day formatDate completedMilestones day).Inv formatDate daily
      completedMilestones (done ++ [day]) count' := by
  have hcumulative : loop.cumulativeKm + day.2 / (metersPerKm : K) = sumKm (done ++ [day]) := by
    rw [hinv.cumulativeKm, sumKm, sumKm, List.map_append, List.sum_append, List.map_singleton,
      List.sum_singleton]
  have hcount := hinv.count_le
  have hleft : (count : ℤ) + (completedMilestones + 1 - (count + 1)).toNat =
      completedMilestones := by omega
  obtain ⟨count', hnext, hle, hcrossed, hstopped⟩ := pushMilestones_crossed h hdaily hcumulative _
    count hleft loop.milestones hinv.crossed (hinv.cumulativeKm ▸ hinv.stopped)
  rw [← hinv.next] at hnext hcrossed
  exact ⟨count', hcumulative, hnext, hle, hcrossed, hstopped⟩

/-- The run lemma: all the days. -/
theorem MilestoneLoop.Inv.afterDays {completedMilestones : ℤ} (h : AreDays daily)
    {loop : MilestoneLoop K} {count : ℕ} (hdaily : daily = done ++ rest)
    (hinv : loop.Inv formatDate daily completedMilestones done count) :
    ∃ count', (rest.foldl (MilestoneLoop.day formatDate completedMilestones) loop).Inv formatDate
      daily completedMilestones daily count' := by
  induction rest generalizing done loop count with
  | nil =>
      rw [List.append_nil] at hdaily
      exact ⟨count, hdaily ▸ hinv⟩
  | cons day rest ih =>
      obtain ⟨count', hinv⟩ := hinv.afterDay h hdaily
      exact ih (by rw [hdaily, List.append_assoc, List.singleton_append]) hinv

theorem MilestoneLoop.inv_start {completedMilestones : ℤ} (hcompleted : 0 ≤ completedMilestones) :
    (MilestoneLoop.start : MilestoneLoop K).Inv formatDate daily completedMilestones [] 0 where
  cumulativeKm := rfl
  next := rfl
  count_le := hcompleted
  crossed := ⟨fun number hpos hle => by omega, rfl⟩
  stopped := by
    intro _
    have hepsilon : (epsilon : K) ≤ 1 := by
      unfold epsilon
      rw [div_le_one (by positivity)]
      exact one_le_pow₀ one_le_two
    change 0 + epsilon < _
    push_cast
    linarith

/-! ### The page and the days -/

omit [LinearOrder K] [IsStrictOrderedRing K] in
theorem sumKm_eq (daily : List (ℤ × K)) :
    sumKm daily = (daily.map Prod.snd).sum / (metersPerKm : K) := by
  unfold sumKm
  induction daily with
  | nil => exact (zero_div _).symm
  | cons day daily ih => simp only [List.map_cons, List.sum_cons, ih, add_div]

/-- The last twenty of some numbers, the greatest first. -/
theorem take_reverse_range (count : ℕ) :
    (List.range count).reverse.take 20 =
      (List.range (min 20 count)).map fun i => count - 1 - i := by
  refine List.ext_getElem (by simp) ?_
  intro i hi hi'
  simp [List.getElem_reverse]

variable [FloorRing K]

theorem completed_nonneg (h : AreDays daily) : 0 ≤ ⌊(daily.map Prod.snd).sum / 1000000⌋ := by
  have hsum : 0 ≤ (daily.map Prod.snd).sum := by
    refine List.sum_nonneg ?_
    intro meters hmeters
    obtain ⟨day, hday, rfl⟩ := List.mem_map.1 hmeters
    exact h.non_negative day hday
  exact Int.floor_nonneg.2 (by positivity)

/-- The last day has reached every completed milestone. -/
theorem crossed_all (h : AreDays daily) {completed : ℕ}
    (hcompleted : (completed : ℤ) = ⌊(daily.map Prod.snd).sum / 1000000⌋) :
    Crossed formatDate daily completed (daily.foldl (MilestoneLoop.day formatDate completed)
      MilestoneLoop.start).milestones := by
  have hstart : (MilestoneLoop.start : MilestoneLoop K).Inv formatDate daily completed [] 0 :=
    MilestoneLoop.inv_start (Nat.cast_nonneg completed)
  obtain ⟨count, hinv⟩ := hstart.afterDays h (List.nil_append daily).symm
  have hcount : count = completed := by
    by_contra hne
    have hlt : (count : ℤ) < completed := by
      have := hinv.count_le
      omega
    have hstopped := hinv.stopped hlt
    have hfloor := Int.floor_le ((daily.map Prod.snd).sum / 1000000)
    have hnext : (((count + 1) * 1000 : ℤ) : K) ≤ (((completed : ℤ) * 1000 : ℤ) : K) :=
      Int.cast_le.2 (by omega)
    have hepsilon : 0 < (epsilon : K) := epsilon_pos
    rw [hinv.cumulativeKm, sumKm_eq, cast_metersPerKm] at hstopped
    rw [← hcompleted] at hfloor
    push_cast at hstopped hnext hfloor
    linarith
  exact hcount ▸ hinv.crossed

/-- The milestones of a list of days, newest first and at most twenty, each with its date. -/
theorem buildServiceMilestones_eq (h : AreDays daily) {completed : ℕ}
    (hcompleted : (completed : ℤ) = ⌊(daily.map Prod.snd).sum / 1000000⌋) :
    buildServiceMilestones formatDate daily completed =
      (List.range (min 20 completed)).map fun i : ℕ =>
        serviceMilestone formatDate (completed - i) (reachedOn daily (completed - i)) := by
  have hcrossed : Crossed formatDate daily completed _ := crossed_all h hcompleted
  rw [buildServiceMilestones, hcrossed.milestones_eq, ← List.map_reverse, ← List.map_take,
    take_reverse_range, List.map_map]
  refine List.map_congr_left fun i hi => ?_
  have hlt : i < min 20 completed := List.mem_range.1 hi
  have hnumber : ((completed - 1 - i : ℕ) : ℤ) + 1 = completed - i := by omega
  rw [Function.comp_apply, hnumber]

/-- A later milestone is not reached before an earlier one. -/
theorem reachedOn_mono (h : AreDays daily) {completed : ℕ}
    (hcompleted : (completed : ℤ) = ⌊(daily.map Prod.snd).sum / 1000000⌋) {m n : ℤ} (hpos : 1 ≤ m)
    (hmn : m ≤ n) (hle : n ≤ completed) : reachedOn daily m ≤ reachedOn daily n := by
  have hcrossed : Crossed toString daily completed _ := crossed_all h hcompleted
  exact (hcrossed.isLeast n (hpos.trans hmn) hle).mono
    (hcrossed.isLeast m hpos (hmn.trans hle)) (reachedBy_anti hmn)

section Page

variable (formatDate) {devices : List String} (tables : DistanceTables K) {imei : String} (now : ℤ)

/-- What the page says besides the milestones, if the odometer is not negative. -/
theorem getDeviceService_eq (hdevice : imei ∈ devices) :
    ∃ response, getDeviceService formatDate devices tables imei now = .ok response ∧
      response.totalTrackedDistanceKm = tables.totalDistanceMeters imei / 1000 ∧
      response.nextMilestoneKm = (⌊tables.totalDistanceMeters imei / 1000000⌋ + 1) * 1000 ∧
      response.distanceRemainingKm =
        (response.nextMilestoneKm : K) - response.totalTrackedDistanceKm ∧
      0 < response.distanceRemainingKm ∧ response.distanceRemainingKm ≤ 1000 ∧
      response.milestones = buildServiceMilestones formatDate (dailyDistances tables imei)
        ⌊tables.totalDistanceMeters imei / 1000000⌋ := by
  have hpos : 0 ≤ tables.totalDistanceMeters imei := by
    unfold DistanceTables.totalDistanceMeters
    cases rowAt DistanceOdometer.imei imei tables.odometer with
    | none => exact le_rfl
    | some row => exact row.total_non_negative
  have hkm : tables.totalDistanceMeters imei / 1000 / 1000 =
      tables.totalDistanceMeters imei / 1000000 := by
    rw [div_div]
    norm_num
  have hfloor := Int.floor_le (tables.totalDistanceMeters imei / 1000000)
  have hlt := Int.lt_floor_add_one (tables.totalDistanceMeters imei / 1000000)
  have hremaining : (((⌊tables.totalDistanceMeters imei / 1000000⌋ + 1) * 1000 : ℤ) : K) -
      tables.totalDistanceMeters imei / 1000 ≤ 1000 ∧
      0 < (((⌊tables.totalDistanceMeters imei / 1000000⌋ + 1) * 1000 : ℤ) : K) -
        tables.totalDistanceMeters imei / 1000 := by
    push_cast
    constructor
    · linarith
    · linarith
  refine ⟨_, by rw [getDeviceService, if_neg (not_not.2 hdevice)], ?_⟩
  simp only [max_eq_left hpos, cast_metersPerKm, cast_kmPerMilestone, hkm,
    max_eq_left hremaining.2.le]
  exact ⟨trivial, trivial, trivial, hremaining.2, hremaining.1, trivial⟩

end Page

variable (formatDate) in
/-- **The days agree with the odometer**: for a list of days, the milestones that are completed are
the whole thousands of kilometres in their sum.  Each was reached on one of the days, no later one
before an earlier one; the list has the last twenty of them, newest first.  The page of a device
whose odometer is that sum shows this list, and that from nothing to a thousand kilometres, the
latter included, are left to the next one. -/
theorem service_milestones_match_odometer (h : AreDays daily) :
    ∃ completed : ℕ, (completed : ℤ) = ⌊(daily.map Prod.snd).sum / 1000000⌋ ∧
      (∀ number : ℤ, 1 ≤ number → number ≤ completed →
        IsLeast (reachedBy daily number) (reachedOn daily number)) ∧
      (∀ m n : ℤ, 1 ≤ m → m ≤ n → n ≤ completed → reachedOn daily m ≤ reachedOn daily n) ∧
      buildServiceMilestones formatDate daily completed =
        (List.range (min 20 completed)).map (fun i : ℕ =>
          serviceMilestone formatDate (completed - i) (reachedOn daily (completed - i))) ∧
      ∀ (devices : List String) (tables : DistanceTables K) (imei : String) (now : ℤ),
        imei ∈ devices → tables.totalDistanceMeters imei = (daily.map Prod.snd).sum →
          dailyDistances tables imei = daily →
            ∃ response, getDeviceService formatDate devices tables imei now = .ok response ∧
              response.totalTrackedDistanceKm = (daily.map Prod.snd).sum / 1000 ∧
              response.nextMilestoneKm = ((completed : ℤ) + 1) * 1000 ∧
              response.distanceRemainingKm =
                (response.nextMilestoneKm : K) - response.totalTrackedDistanceKm ∧
              0 < response.distanceRemainingKm ∧ response.distanceRemainingKm ≤ 1000 ∧
              response.milestones = buildServiceMilestones formatDate daily completed := by
  obtain ⟨completed, hcompleted⟩ := Int.eq_ofNat_of_zero_le (completed_nonneg h)
  refine ⟨completed, hcompleted.symm, ?_, ?_, ?_, ?_⟩
  · have hcrossed : Crossed formatDate daily completed _ := crossed_all h hcompleted.symm
    exact hcrossed.isLeast
  · exact fun m n hpos hmn hle => reachedOn_mono h hcompleted.symm hpos hmn hle
  · exact buildServiceMilestones_eq h hcompleted.symm
  · intro devices tables imei now hdevice htotal hdaily
    have hpage := getDeviceService_eq formatDate tables now hdevice
    rwa [htotal, hdaily, hcompleted] at hpage

/-- Two days, of which the first reaches two milestones and the second the other 23. -/
theorem service_milestones_match_odometer_two_days :
    ∃ completed : ℕ,
      (completed : ℤ) =
        ⌊([((20662 : ℤ), (2500000 : ℚ)), (20663, 22500000)].map Prod.snd).sum / 1000000⌋ ∧
      buildServiceMilestones toString [((20662 : ℤ), (2500000 : ℚ)), (20663, 22500000)] completed =
        (List.range (min 20 completed)).map fun i : ℕ =>
          serviceMilestone toString (completed - i)
            (reachedOn [((20662 : ℤ), (2500000 : ℚ)), (20663, 22500000)] (completed - i)) := by
  have hdays : AreDays [((20662 : ℤ), (2500000 : ℚ)), (20663, 22500000)] :=
    ⟨by decide +kernel, by decide +kernel⟩
  obtain ⟨completed, hcompleted, -, -, hmilestones, -⟩ :=
    service_milestones_match_odometer toString hdays
  exact ⟨completed, hcompleted, hmilestones⟩

/-! ### The days of the tables -/

variable {tables : DistanceTables K} {imei : String}

omit [FloorRing K] [IsStrictOrderedRing K] in
theorem areDays_dailyDistances (tables : DistanceTables K) (imei : String) :
    AreDays (dailyDistances tables imei) := by
  have hperm := List.mergeSort_perm (tables.daily.filter fun row => row.imei = imei)
    fun a b => a.distanceDate ≤ b.distanceDate
  constructor
  · have hsorted := pairwise_orderBy DistanceDaily.distanceDate
      (tables.daily.filter fun row => row.imei = imei)
    -- the days of one device have different dates
    have hkeys : (tables.daily.filter fun row => row.imei = imei).Pairwise
        fun a b => a.key ≠ b.key := (List.pairwise_map.1 tables.daily_pkey).filter _
    have hdates := hperm.symm.pairwise hkeys fun hne => hne.symm
    rw [dailyDistances, List.pairwise_map]
    refine (hsorted.and hdates).imp_of_mem ?_
    intro a b ha hb hab
    have hdevice : ∀ row ∈ (tables.daily.filter fun row => row.imei = imei).mergeSort
        (fun a b => a.distanceDate ≤ b.distanceDate), row.imei = imei := by
      intro row hrow
      exact of_decide_eq_true (List.mem_filter.1 (List.mem_mergeSort.1 hrow)).2
    refine lt_of_le_of_ne hab.1 fun hdate => hab.2 ?_
    exact Prod.ext ((hdevice a ha).trans (hdevice b hb).symm) hdate
  · intro day hday
    obtain ⟨row, -, rfl⟩ := List.mem_map.1 hday
    exact le_max_right _ _

omit [FloorRing K] [IsStrictOrderedRing K] in
theorem sum_dailyDistances :
    ((dailyDistances tables imei).map Prod.snd).sum = tables.sumOfDays imei := by
  rw [dailyDistances, List.map_map, DistanceTables.sumOfDays]
  have hmeters : (Prod.snd ∘ fun row : DistanceDaily K =>
      (row.distanceDate, max row.distanceMeters 0)) = DistanceDaily.distanceMeters := by
    funext row
    exact max_eq_left row.total_non_negative
  rw [hmeters]
  exact ((List.mergeSort_perm _ _).map _).sum_eq

/-- Whatever has been counted, the page of a device says how far its odometer is from the next
milestone, and lists those before by its days. -/
theorem getDeviceService_of_balanced {devices : List String} {now : ℤ} (h : Balanced tables)
    (hdevice : imei ∈ devices) :
    ∃ response, getDeviceService formatDate devices tables imei now = .ok response ∧
      ∃ completed : ℕ, response.nextMilestoneKm = ((completed : ℤ) + 1) * 1000 ∧
        response.milestones = (List.range (min 20 completed)).map fun i : ℕ =>
          serviceMilestone formatDate (completed - i)
            (reachedOn (dailyDistances tables imei) (completed - i)) := by
  have hdays := areDays_dailyDistances tables imei
  obtain ⟨completed, hcompleted⟩ := Int.eq_ofNat_of_zero_le (completed_nonneg hdays)
  obtain ⟨response, hok, -, hnext, -, -, -, hmilestones⟩ :=
    getDeviceService_eq formatDate tables now hdevice
  have htotal : tables.totalDistanceMeters imei =
      ((dailyDistances tables imei).map Prod.snd).sum := by
    rw [sum_dailyDistances, h imei]
  rw [htotal, hcompleted] at hnext hmilestones
  exact ⟨response, hok, completed, hnext,
    hmilestones.trans (buildServiceMilestones_eq hdays hcompleted.symm)⟩

end Dates

end Gt06
