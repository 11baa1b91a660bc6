/-
**A distance is counted in isolation.**

`processLocationDistance` adds a location to the tables in one go.  In the server it is four
statements of a transaction, and other transactions move between them.  They cannot get in its way:
whoever writes the distances of a device holds the row of the device, and so does the transaction
until it ends.  What it sees at the end of the count is therefore what `processLocationDistance`
makes of what it saw before the count, whatever the others have done meanwhile.

Main definitions:

* `Gt06.DistanceServer.Sees` — the distances of a device, as a transaction sees them;
* `Gt06.DistanceServer.CountsFrom` — what a transaction remembers and sees behind a statement.

Main results:

* `Gt06.DistanceServer.CountsFrom.statement`, `Gt06.DistanceServer.CountsFrom.step` — what the
  statements of the transaction preserve, and those of the others;
* `Gt06.DistanceServer.sees_of_counted` — **refinement**: the statements come to
  `processLocationDistance`.
-/

import Gt06Server.DistanceLocks

set_option relaxedAutoImplicit false
set_option autoImplicit false

namespace Gt06

open Await Binary64 Relational RowLocks

namespace DistanceServer

variable {K : Type} [Field K] [LinearOrder K] [IsStrictOrderedRing K]

/-! ### What a transaction sees -/

/-- The rows of the distances of a device, as a transaction sees them. -/
structure Sees (s : DistanceServer K) (t : ℕ) (imei : String) (tables : DistanceTables K) :
    Prop where
  odometer : s.odometer.view t imei = rowAt DistanceOdometer.imei imei tables.odometer
  daily : ∀ date, s.daily.view t (imei, date) = rowAt DistanceDaily.key (imei, date) tables.daily

/-- What a transaction remembers and sees behind a statement, when it has seen the tables before
the count. -/
def CountsFrom (distanceMeters : F64 → F64 → F64 → F64 → K) (s : DistanceServer K) (t : ℕ)
    (imei : String) (point : DistanceLocationPoint) (tables : DistanceTables K) : Prop :=
  match s.distances t with
  | .waiting => s.Sees t imei tables
  | .locked => s.Sees t imei tables
  | .read previous =>
      previous = tables.previousPoint imei ∧
        ¬ (previous.any fun value => point.id ≤ value.id) = true ∧ s.Sees t imei tables
  | .written accepted =>
      accepted = acceptedMeters distanceMeters (tables.previousPoint imei) point ∧
        ¬ ((tables.previousPoint imei).any fun value => point.id ≤ value.id) = true ∧
        0 < accepted.1 ∧ s.Sees t imei (tables.upsertOdometer imei accepted point)
  | .counted => s.Sees t imei (processLocationDistance distanceMeters tables imei point).2

variable {hashtext : String → ℤ} {distanceMeters : F64 → F64 → F64 → F64 → K}
  {peer : ℕ → SocketAddr} {s s' : DistanceServer K} {t u : ℕ} {imei : String}
  {point : DistanceLocationPoint} {tables : DistanceTables K}

omit [IsStrictOrderedRing K] in
theorem Sees.congr (h : s.Sees t imei tables) (hodometer : s'.odometer = s.odometer)
    (hdaily : s'.daily = s.daily) : s'.Sees t imei tables :=
  ⟨by rw [hodometer]; exact h.odometer, by rw [hdaily]; exact h.daily⟩

/-- A point that has been processed changes nothing. -/
theorem processLocationDistance_of_passed
    (h : ((tables.previousPoint imei).any fun value => point.id ≤ value.id) = true) :
    (processLocationDistance distanceMeters tables imei point).2 = tables := by
  simp only [processLocationDistance, h, if_true]

/-- A segment that counts goes to the odometer and to its day, another one to neither. -/
theorem processLocationDistance_of_not_passed {accepted : { meters : K // 0 ≤ meters }}
    (haccepted : accepted = acceptedMeters distanceMeters (tables.previousPoint imei) point)
    (h : ¬ ((tables.previousPoint imei).any fun value => point.id ≤ value.id) = true) :
    (processLocationDistance distanceMeters tables imei point).2 =
      if 0 < accepted.1 then
        (tables.upsertOdometer imei accepted point).upsertDaily imei
          (wibDateOfNanos point.serverReceivedAt) accepted
      else tables.upsertOdometer imei accepted point := by
  subst haccepted
  simp only [processLocationDistance, if_neg h]
  split
  · rfl
  · rfl

/-! ### The statements -/

/-- The odometer is written. -/
theorem Sees.upsertOdometer (h : s.Sees t imei tables) {accepted : { meters : K // 0 ≤ meters }}
    {row : DistanceOdometer K} {odometer : Store String ℕ fun _ => DistanceOdometer K}
    (hwrite : s.odometer.upsert t imei (odometerRow imei accepted point) = some (row, odometer))
    (hodometer : s'.odometer = odometer) (hdaily : s'.daily = s.daily) :
    s'.Sees t imei (tables.upsertOdometer imei accepted point) := by
  obtain ⟨hrow, -, hheld, -⟩ := Store.upsert_eq_some hwrite
  refine ⟨?_, by rw [hdaily]; exact h.daily⟩
  rw [hodometer, Store.view_of_held hheld, hrow, h.odometer]
  simp only [DistanceTables.upsertOdometer, rowAt_upsertAt fun _ => imei_odometerRow_some ..]
  rw [if_pos (imei_odometerRow_none ..)]
  cases rowAt DistanceOdometer.imei imei tables.odometer with
  | none => rfl
  | some row => rfl

/-- The row of a day is written. -/
theorem Sees.upsertDaily (h : s.Sees t imei tables) {date : ℤ}
    {accepted : { meters : K // 0 ≤ meters }} {row : DistanceDaily K}
    {daily : Store (String × ℤ) ℕ fun _ => DistanceDaily K}
    (hwrite : s.daily.upsert t (imei, date) (dailyRow imei date accepted) = some (row, daily))
    (hodometer : s'.odometer = s.odometer) (hdaily : s'.daily = daily) :
    s'.Sees t imei (tables.upsertDaily imei date accepted) := by
  obtain ⟨hrow, hwrites, hheld, -⟩ := Store.upsert_eq_some hwrite
  refine ⟨by rw [hodometer]; exact h.odometer, fun other => ?_⟩
  have hkept : ∀ row : DistanceDaily K,
      (dailyRow imei date accepted (some row)).key = row.key := fun _ => rfl
  simp only [DistanceTables.upsertDaily, rowAt_upsertAt hkept]
  by_cases hother : (imei, other) = (imei, date)
  · obtain rfl := (Prod.mk.inj hother).2
    have hkey : (dailyRow imei other accepted none).key = (imei, other) := rfl
    rw [hdaily, Store.view_of_held hheld, hrow, h.daily, if_pos hkey]
    cases rowAt DistanceDaily.key (imei, other) tables.daily with
    | none => rfl
    | some row => rfl
  · rw [hdaily, hwrites.view_of_ne hother, h.daily]
    exact (if_neg fun hkey => hother hkey.symm).symm

/-- **What a statement of the count preserves.** -/
theorem CountsFrom.statement (h : s.CountsFrom distanceMeters t imei point tables)
    (hstatement : s.distanceStatement hashtext distanceMeters t imei point = some s') :
    s'.CountsFrom distanceMeters t imei point tables := by
  unfold distanceStatement at hstatement
  unfold CountsFrom at h ⊢
  cases hstage : s.distances t with
  | waiting =>
      rw [hstage] at h hstatement
      obtain ⟨advisory, -, hs'⟩ := Option.bind_eq_some_iff.1 hstatement
      cases hs'
      simp only [setDistance, Function.update_self]
      exact Sees.congr h rfl rfl
  | locked =>
      rw [hstage] at h hstatement
      obtain ⟨⟨row, odometer⟩, hread, hs'⟩ := Option.bind_eq_some_iff.1 hstatement
      have hsees : s'.Sees t imei tables := by
        cases hs'
        exact ⟨(Store.view_selectForUpdate hread imei).trans h.odometer, h.daily⟩
      have hprevious : row.bind DistanceOdometer.previousPoint = tables.previousPoint imei := by
        rw [(Store.selectForUpdate_eq_some hread).1, h.odometer]
        rfl
      have hafter : s'.distances t = afterRead point (tables.previousPoint imei) := by
        cases hs'
        rw [← hprevious]
        exact Function.update_self ..
      by_cases hpassed : ((tables.previousPoint imei).any fun value => point.id ≤ value.id) = true
      · rw [hafter, afterRead, if_pos hpassed]
        change s'.Sees t imei _
        rwa [processLocationDistance_of_passed hpassed]
      · rw [hafter, afterRead, if_neg hpassed]
        exact ⟨rfl, hpassed, hsees⟩
  | read previous =>
      rw [hstage] at h hstatement
      obtain ⟨rfl, hpassed, hsees⟩ := h
      obtain ⟨⟨row, odometer⟩, hwrite, hs'⟩ := Option.bind_eq_some_iff.1 hstatement
      have hwritten : s'.Sees t imei (tables.upsertOdometer imei
          (acceptedMeters distanceMeters (tables.previousPoint imei) point) point) := by
        cases hs'
        exact hsees.upsertOdometer hwrite rfl rfl
      have hafter : s'.distances t =
          afterWrite (acceptedMeters distanceMeters (tables.previousPoint imei) point) := by
        cases hs'
        exact Function.update_self ..
      by_cases hpos : 0 < (acceptedMeters distanceMeters (tables.previousPoint imei) point).1
      · rw [hafter, afterWrite, if_pos hpos]
        exact ⟨rfl, hpassed, hpos, hwritten⟩
      · rw [hafter, afterWrite, if_neg hpos]
        change s'.Sees t imei _
        rwa [processLocationDistance_of_not_passed rfl hpassed, if_neg hpos]
  | written accepted =>
      rw [hstage] at h hstatement
      obtain ⟨haccepted, hpassed, hpos, hsees⟩ := h
      obtain ⟨⟨row, daily⟩, hwrite, hs'⟩ := Option.bind_eq_some_iff.1 hstatement
      have hwritten : s'.Sees t imei ((tables.upsertOdometer imei accepted point).upsertDaily imei
          (wibDateOfNanos point.serverReceivedAt) accepted) := by
        cases hs'
        exact hsees.upsertDaily hwrite rfl rfl
      have hafter : s'.distances t = .counted := by
        cases hs'
        exact Function.update_self ..
      rw [hafter]
      change s'.Sees t imei _
      rwa [processLocationDistance_of_not_passed haccepted hpassed, if_pos hpos]
  | counted =>
      rw [hstage] at hstatement
      cases hstatement

/-! ### The others -/

omit [IsStrictOrderedRing K] in
/-- The count of another device. -/
theorem Sees.counts (h : s.Sees t imei tables) {other : String}
    (hcounts : Counts hashtext s u other s') (hne : imei ≠ other) : s'.Sees t imei tables := by
  cases hcounts with
  | lock _ _ _ hodometer hdaily => exact h.congr hodometer hdaily
  | odometer _ _ _ hodometer hdaily =>
      refine ⟨(hodometer.view_of_ne hne t).trans h.odometer, ?_⟩
      rw [hdaily]
      exact h.daily
  | daily date _ _ _ hodometer hdaily =>
      refine ⟨?_, fun date' => (hdaily.view_of_ne ?_ t).trans (h.daily date')⟩
      · rw [hodometer]
        exact h.odometer
      · exact fun hkey => hne (Prod.mk.inj hkey).1

omit [IsStrictOrderedRing K] in
/-- Another statement of another transaction, which may be its commit. -/
theorem Sees.afterStatement (h : s.Sees t imei tables) (hinv : s.DistanceInv)
    (hholds : s.server.history.HoldsRow t imei) (hu : t ≠ u) (server : Gt06TcpServer) :
    (s.afterStatement u server).Sees t imei tables := by
  unfold DistanceServer.afterStatement
  split
  · refine ⟨(Store.view_commit_of_ne hu ?_).trans h.odometer,
      fun date => (Store.view_commit_of_ne hu ?_).trans (h.daily date)⟩
    · exact fun row hheld => hu ((hinv.odometer u imei row hheld).unique hholds)
    · exact fun row hheld => hu ((hinv.daily u (imei, date) row hheld).unique hholds)
  · exact h.congr rfl rfl

omit [IsStrictOrderedRing K] in
theorem Sees.rolledBack (h : s.Sees t imei tables) (hu : t ≠ u) (server : Gt06TcpServer) :
    (s.rolledBack u server).Sees t imei tables :=
  ⟨(Store.view_rollback_of_ne hu).trans h.odometer,
    fun date => (Store.view_rollback_of_ne hu).trans (h.daily date)⟩

/-- What the others preserve, who leave alone what the transaction sees. -/
theorem CountsFrom.others (h : s.CountsFrom distanceMeters t imei point tables)
    (hdistance : s'.distances t = s.distances t)
    (hsees : ∀ tables', s.Sees t imei tables' → s'.Sees t imei tables') :
    s'.CountsFrom distanceMeters t imei point tables := by
  unfold CountsFrom at h ⊢
  rw [hdistance]
  cases hstage : s.distances t with
  | waiting =>
      rw [hstage] at h
      exact hsees _ h
  | locked =>
      rw [hstage] at h
      exact hsees _ h
  | read previous =>
      rw [hstage] at h
      exact ⟨h.1, h.2.1, hsees _ h.2.2⟩
  | written accepted =>
      rw [hstage] at h
      exact ⟨h.1, h.2.1, h.2.2.1, hsees _ h.2.2.2⟩
  | counted =>
      rw [hstage] at h
      exact hsees _ h

/-! ### Runs -/

section Count

variable {receipt : Receipt} {found : Option ℤ} {row : LocationRow}

/-- **What every step preserves**, until the distance is counted or the transaction rolled back. -/
theorem CountsFrom.step {e : ServerEvent}
    (h : s.CountsFrom distanceMeters t receipt.imei (row.point receipt.receivedAt) tables)
    (hthread : s.server.history.threads t = .inserted receipt found (.location row))
    (hlock : s.server.history.LockInv) (hinv : s.DistanceInv)
    (hstep : s.step hashtext distanceMeters peer e = some s')
    (hcounted : e = .advance t → (s.distances t).isCounted = false) (hrollback : e ≠ .rollback t) :
    s'.server.history.threads t = .inserted receipt found (.location row) ∧
      s'.CountsFrom distanceMeters t receipt.imei (row.point receipt.receivedAt) tables := by
  have hbusy : (s.server.history.threads t).isIdle = false := by
    rw [hthread]
    rfl
  have hholds := DeviceHistory.holdsRow_of_inserted hlock hthread
  cases moves_of_step hstep with
  | count u other point' event hcounting hstatement =>
      obtain ⟨hserver, hothers, -⟩ := frames_of_distanceStatement hstatement
      refine ⟨by rw [hserver]; exact hthread, ?_⟩
      obtain ⟨receipt', found', row', hthread', rfl, rfl, -⟩ := of_counting hcounting
      by_cases hu : t = u
      · subst hu
        rw [hthread] at hthread'
        cases hthread'
        exact h.statement hstatement
      · refine h.others (hothers t hu) fun tables' hsees =>
          hsees.counts (counts_of_distanceStatement hstatement) ?_
        intro himei
        have hholds' := DeviceHistory.holdsRow_of_inserted hlock hthread'
        exact hu ((himei ▸ hholds').unique hholds)
  | statement u server event hcounting hserver hs' =>
      subst event hs'
      have hu : t ≠ u := by
        rintro rfl
        unfold counting at hcounting
        rw [hthread] at hcounting
        simp only [hcounted rfl] at hcounting
        cases hcounting
      obtain ⟨history, hadvanced, rfl⟩ := Gt06TcpServer.of_step_advance hserver
      have hkept := (DeviceHistory.frames_of_advance hadvanced).threads t hu
      refine ⟨by rw [server_afterStatement]; exact hkept.trans hthread, ?_⟩
      exact h.others (distances_afterStatement_of_ne hu _) fun tables' hsees =>
        hsees.afterStatement hinv hholds hu _
  | rollback u server event hserver hs' =>
      subst event hs'
      have hu : t ≠ u := by
        rintro rfl
        exact hrollback rfl
      simp only [Gt06TcpServer.step] at hserver
      split at hserver
      · cases hserver
      · cases hserver
        have hkept := s.server.history.threads_setThread_of_ne hu .idle
        refine ⟨hkept.trans hthread, ?_⟩
        exact h.others (Function.update_of_ne hu ..) fun tables' hsees => hsees.rolledBack hu _
  | outside server hadvance hrollback hserver hs' =>
      subst hs'
      have hkept := (Gt06TcpServer.outside_step hserver hadvance hrollback).2 t hbusy
      exact ⟨hkept.trans hthread, h.others rfl fun tables' hsees => hsees.congr rfl rfl⟩

/-- **Refinement**: a transaction that comes to the end of the count sees there what
`processLocationDistance` makes of what it saw before the count, whatever the others have done in
between. -/
theorem sees_of_counted {tr : List (DistanceServer K × ServerEvent)}
    (hserver : Gt06TcpServer.ServerInv peer s.server) (hinv : s.DistanceInv)
    (hthread : s.server.history.threads t = .inserted receipt found (.location row))
    (hbefore : s.distances t = .waiting) (hsees : s.Sees t receipt.imei tables)
    (run : Run (step hashtext distanceMeters peer) s tr s')
    (hcounted : ∀ p ∈ tr, p.2 = .advance t → (p.1.distances t).isCounted = false)
    (hrollback : ∀ p ∈ tr, p.2 ≠ .rollback t) (hafter : s'.distances t = .counted) :
    s'.Sees t receipt.imei (processLocationDistance distanceMeters tables receipt.imei
      (row.point receipt.receivedAt)).2 := by
  have hstart : s.CountsFrom distanceMeters t receipt.imei (row.point receipt.receivedAt)
      tables := by
    unfold CountsFrom
    rw [hbefore]
    exact hsees
  have hend := (run.invariant
    (I := fun s => (Gt06TcpServer.ServerInv peer s.server ∧ s.DistanceInv) ∧
      s.server.history.threads t = .inserted receipt found (.location row) ∧
      s.CountsFrom distanceMeters t receipt.imei (row.point receipt.receivedAt) tables)
    (G := fun s e => (e = .advance t → (s.distances t).isCounted = false) ∧ e ≠ .rollback t)
    ?_ ⟨⟨hserver, hinv⟩, hthread, hstart⟩ fun p hp => ⟨hcounted p hp, hrollback p hp⟩).2.2.2
  · unfold CountsFrom at hend
    rwa [hafter] at hend
  · rintro s e s' ⟨⟨hserver, hinv⟩, hthread, hcounts⟩ ⟨hcounted, hrollback⟩ hstep
    exact ⟨⟨serverInv_of_step hserver hstep, distanceInv_step hinv hserver.lock hstep⟩,
      hcounts.step hthread hserver.lock hinv hstep hcounted hrollback⟩

end Count

end DistanceServer

end Gt06
