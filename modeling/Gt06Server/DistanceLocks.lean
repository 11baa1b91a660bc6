/-
**The locks of `process_location_distance`.**

The transaction of a location has more statements than `DeviceHistory` gives it: before it updates
the row of its device it counts the distance.  It takes the advisory lock of the device, which may
be the lock of another device too, reads and locks the row of the odometer, if there is one, and
writes that row and the row of the day.  All of these are held to its end, and it holds the row of
its device all the while.

This module adds these statements to the server of `TelemetryServer`.  The locks are always taken in
one order: the row of the device, the advisory key, the odometer, the day.  A transaction may
therefore wait for two locks, and hold the first while it waits for the second; but for the
odometer and the day nobody waits, since whoever holds them holds the row of the device.

Main definitions:

* `Gt06.DistanceThread` — where `process_location_distance` stands;
* `Gt06.DistanceServer`, `Gt06.DistanceServer.step` — the server with the distances;
* `Gt06.DistanceServer.DistanceInv` — who holds which lock.

Main results:

* `Gt06.DistanceServer.server_step` — **refinement**: a step is one of the server without distances,
  or counts a distance;
* `Gt06.DistanceServer.distanceInv_step` — what every step preserves;
* `Gt06.DistanceServer.exists_advance` — **no deadlock**: some transaction that is under way can go
  on.
-/

import Mathlib
import Gt06Server.Await
import Gt06Server.RowLocks
import Gt06Server.ServiceDistance
import Gt06Server.TelemetryDelivery

set_option relaxedAutoImplicit false
set_option autoImplicit false

namespace Gt06

open Await Binary64 RowLocks

/-! ### Who holds the row of a device -/

namespace DeviceHistory

/-- The transaction holds the row of the device. -/
def HoldsRow (s : DeviceHistory) (t : ℕ) (imei : String) : Prop :=
  ∃ device, s.store.held imei = some (t, device)

variable {s s' : DeviceHistory} {t u : ℕ} {imei : String}

/-- Two transactions do not hold the row of one device. -/
theorem HoldsRow.unique (h : s.HoldsRow t imei) (h' : s.HoldsRow u imei) : u = t := by
  obtain ⟨device, hheld⟩ := h
  obtain ⟨device', hheld'⟩ := h'
  rw [hheld] at hheld'
  exact ((Prod.mk.inj (Option.some.inj hheld')).1).symm

/-- A transaction that has inserted its row holds the row of its device. -/
theorem holdsRow_of_inserted {receipt : Receipt} {found : Option ℤ} {row : HistoryRow}
    (h : s.LockInv) (hthread : s.threads t = .inserted receipt found row) :
    s.HoldsRow t receipt.imei := by
  have hinv := h.threads t
  rw [ThreadInv, hthread] at hinv
  obtain ⟨device, hheld, -⟩ := hinv.1.held
  exact ⟨device, hheld⟩

/-- A statement that writes the row that it holds keeps the locks of everybody. -/
theorem HoldsRow.writes {k : String} (h : s.HoldsRow u imei)
    (hwrites : Store.Writes s.store t k s'.store) (hk : s'.HoldsRow t k) : s'.HoldsRow u imei := by
  obtain ⟨device, hheld⟩ := h
  by_cases hu : u = t
  · by_cases himei : imei = k
    · rw [hu, himei]
      exact hk
    · exact ⟨device, by rw [hwrites.held_of_ne imei himei, hheld]⟩
  · exact ⟨device, (hwrites.held_iff u imei device hu).2 hheld⟩

/-- A transaction keeps the row of its device until it ends. -/
theorem HoldsRow.advance (h : s.HoldsRow u imei) (hlock : s.LockInv)
    (hadvance : s.advance t = some s') (hends : u = t → (s'.threads t).isIdle = false) :
    s'.HoldsRow u imei := by
  unfold DeviceHistory.advance at hadvance
  cases hthread : s.threads t with
  | idle =>
      rw [hthread] at hadvance
      cases hadvance
  | received receipt =>
      rw [hthread] at hadvance
      obtain ⟨⟨device, store⟩, hupsert, hs'⟩ := Option.bind_eq_some_iff.1 hadvance
      obtain ⟨-, hwrites, hheld, -⟩ := Store.upsert_eq_some hupsert
      cases hs'
      exact h.writes hwrites ⟨device, hheld⟩
  | seen receipt found deviceId =>
      rw [hthread] at hadvance
      obtain ⟨row, -, hs'⟩ := Option.bind_eq_some_iff.1 hadvance
      cases hs'
      exact h
  | inserted receipt found row =>
      obtain ⟨device, hheld⟩ := holdsRow_of_inserted hlock hthread
      rw [hthread] at hadvance
      obtain ⟨store, hupdate, hs'⟩ := Option.bind_eq_some_iff.1 hadvance
      have hwrites := Store.update_eq_some hupdate
      rw [Store.update_of_held hheld, Option.some_inj] at hupdate
      cases hs'
      exact h.writes hwrites ⟨_, hupdate ▸ Store.held_hold_self⟩
  | finished receipt found row =>
      rw [hthread] at hadvance
      cases hadvance
      obtain ⟨device, hheld⟩ := h
      refine ⟨device, (Store.held_commit_of_ne ?_).2 hheld⟩
      intro hu
      have hbusy := hends hu
      rw [threads_setThread_self] at hbusy
      cases hbusy

/-- A transaction begins without a lock. -/
theorem store_receive {event : DeviceEvent} (h : s.step (.receive t event) = some s') :
    s'.store = s.store := by
  simp only [step] at h
  split at h
  · cases h
    rfl
  · cases h

end DeviceHistory

namespace EventThread

/-- The transaction is behind the insert of its row. -/
def hasInserted : EventThread → Bool
  | .inserted _ _ _ => true
  | .finished _ _ _ => true
  | _ => false

theorem isIdle_of_hasInserted {thread : EventThread} (h : thread.hasInserted = true) :
    thread.isIdle = false := by
  cases thread with
  | inserted receipt found row => rfl
  | finished receipt found row => rfl
  | _ => cases h

end EventThread

/-- A step outside the transactions takes no row lock, and moves no transaction that has begun. -/
theorem Gt06TcpServer.outside_step {peer : ℕ → SocketAddr} {s s' : Gt06TcpServer}
    {e : ServerEvent} (h : s.step peer e = some s') (hadvance : ∀ t, e ≠ .advance t)
    (hrollback : ∀ t, e ≠ .rollback t) :
    s'.history.store = s.history.store ∧
      ∀ u, (s.history.threads u).isIdle = false →
        s'.history.threads u = s.history.threads u := by
  cases e with
  | tick nanos =>
      cases h
      exact ⟨rfl, fun _ _ => rfl⟩
  | read t bytes =>
      simp only [step] at h
      split at h
      · cases h
      · cases h
        exact ⟨rfl, fun _ _ => rfl⟩
  | next t =>
      simp only [step] at h
      split at h
      · next hready =>
          cases h
          rcases history_next peer (isIdle_iff.1 hready.2) with hsame | ⟨event, hreceive⟩
          · rw [hsame]
            exact ⟨rfl, fun _ _ => rfl⟩
          · refine ⟨DeviceHistory.store_receive hreceive, fun u hbusy => ?_⟩
            refine (receive_frame hreceive).2.2 u ?_
            rintro rfl
            rw [hready.2] at hbusy
            cases hbusy
      · cases h
  | advance t => exact absurd rfl (hadvance t)
  | rollback t => exact absurd rfl (hrollback t)

/-! ### The statements -/

/-- Where `process_location_distance` stands in a transaction: before its first statement, behind
the advisory lock, behind the row of the odometer, before the row of the day, and at its end. -/
inductive DistanceThread (K : Type) [Field K] [LinearOrder K] where
  | waiting
  | locked
  | read (previous : Option PreviousDistancePoint)
  | written (acceptedMeters : { meters : K // 0 ≤ meters })
  | counted

/-- The point of a location that counts as received at the instant. -/
def LocationRow.point (row : LocationRow) (receivedAt : ℤ) : DistanceLocationPoint where
  id := row.id
  serverReceivedAt := receivedAt
  latitude := .ofRat row.latitude
  longitude := .ofRat row.longitude
  speedKph := row.speedKph

/-- The server with the tables of the distances and the advisory locks. -/
structure DistanceServer (K : Type) [Field K] [LinearOrder K] where
  server : Gt06TcpServer
  advisory : Store ℤ ℕ fun _ => Unit
  odometer : Store String ℕ fun _ => DistanceOdometer K
  daily : Store (String × ℤ) ℕ fun _ => DistanceDaily K
  distances : ℕ → DistanceThread K

variable {K : Type} [Field K] [LinearOrder K]

/-- `process_location_distance` has taken its lock. -/
def DistanceThread.isWaiting : DistanceThread K → Bool
  | .waiting => true
  | _ => false

def DistanceThread.isCounted : DistanceThread K → Bool
  | .counted => true
  | _ => false

/-- The statements of `process_location_distance` that are left, at most. -/
def DistanceThread.remaining : DistanceThread K → ℕ
  | .waiting => 4
  | .locked => 3
  | .read _ => 2
  | .written _ => 1
  | .counted => 0

namespace DistanceServer

/-- Nobody has connected. -/
def start (clock : ℤ) : DistanceServer K where
  server := .start clock
  advisory := ⟨fun _ => none, fun _ => none⟩
  odometer := ⟨fun _ => none, fun _ => none⟩
  daily := ⟨fun _ => none, fun _ => none⟩
  distances := fun _ => .waiting

def setDistance (s : DistanceServer K) (t : ℕ) (distance : DistanceThread K) : DistanceServer K :=
  { s with distances := Function.update s.distances t distance }

/-- The device and the point of the location whose distance a transaction is counting. -/
def counting (s : DistanceServer K) (t : ℕ) : Option (String × DistanceLocationPoint) :=
  match s.server.history.threads t with
  | .inserted receipt _ (.location row) =>
      if (s.distances t).isCounted then none
      else some (receipt.imei, row.point receipt.receivedAt)
  | _ => none

/-- Behind the odometer: a point that has been processed is passed over. -/
def afterRead (point : DistanceLocationPoint) (previous : Option PreviousDistancePoint) :
    DistanceThread K :=
  if previous.any fun value => point.id ≤ value.id then .counted else .read previous

variable [IsStrictOrderedRing K]

/-- Before the row of the day, if the segment counts. -/
def afterWrite (accepted : { meters : K // 0 ≤ meters }) : DistanceThread K :=
  if 0 < accepted.1 then .written accepted else .counted

/-- The next statement of `process_location_distance`, if it does not have to wait. -/
def distanceStatement (hashtext : String → ℤ) (distanceMeters : F64 → F64 → F64 → F64 → K)
    (s : DistanceServer K) (t : ℕ) (imei : String) (point : DistanceLocationPoint) :
    Option (DistanceServer K) :=
  match s.distances t with
  | .waiting => do
      let advisory ← s.advisory.advisoryXactLock t (hashtext imei)
      return { s.setDistance t .locked with advisory := advisory }
  | .locked => do
      let (row, odometer) ← s.odometer.selectForUpdate t imei
      return { s.setDistance t (afterRead point (row.bind DistanceOdometer.previousPoint)) with
        odometer := odometer }
  | .read previous => do
      let accepted := acceptedMeters distanceMeters previous point
      let (_, odometer) ← s.odometer.upsert t imei (odometerRow imei accepted point)
      return { s.setDistance t (afterWrite accepted) with odometer := odometer }
  | .written accepted => do
      let date := wibDateOfNanos point.serverReceivedAt
      let (_, daily) ← s.daily.upsert t (imei, date) (dailyRow imei date accepted)
      return { s.setDistance t .counted with daily := daily }
  | .counted => none

omit [IsStrictOrderedRing K] in
/-- A statement of the transaction outside `process_location_distance`; its commit ends it. -/
def afterStatement (s : DistanceServer K) (t : ℕ) (server : Gt06TcpServer) : DistanceServer K :=
  if (server.history.threads t).isIdle then
    { server := server
      advisory := s.advisory.commit t
      odometer := s.odometer.commit t
      daily := s.daily.commit t
      distances := Function.update s.distances t .waiting }
  else { s with server := server }

omit [IsStrictOrderedRing K] in
def rolledBack (s : DistanceServer K) (t : ℕ) (server : Gt06TcpServer) : DistanceServer K where
  server := server
  advisory := s.advisory.rollback t
  odometer := s.odometer.rollback t
  daily := s.daily.rollback t
  distances := Function.update s.distances t .waiting

/-- The next step of the server. -/
def step (hashtext : String → ℤ) (distanceMeters : F64 → F64 → F64 → F64 → K)
    (peer : ℕ → SocketAddr) (s : DistanceServer K) : ServerEvent → Option (DistanceServer K)
  | .advance t =>
      match s.counting t with
      | some (imei, point) => s.distanceStatement hashtext distanceMeters t imei point
      | none => (s.server.step peer (.advance t)).map (s.afterStatement t)
  | .rollback t => (s.server.step peer (.rollback t)).map (s.rolledBack t)
  | e => (s.server.step peer e).map fun server => { s with server := server }

/-! ### The server without distances -/

variable {hashtext : String → ℤ} {distanceMeters : F64 → F64 → F64 → F64 → K}
  {peer : ℕ → SocketAddr} {s s' : DistanceServer K} {t : ℕ} {imei : String}
  {point : DistanceLocationPoint}

/-- What a statement of `process_location_distance` does: it takes the advisory lock, locks the row
of the odometer, writes it, or writes the row of the day. -/
inductive Counts (hashtext : String → ℤ) (s : DistanceServer K) (t : ℕ) (imei : String)
    (s' : DistanceServer K) : Prop where
  | lock (before : (s.distances t).isWaiting = true) (after : s'.distances t = .locked)
      (advisory : Store.Writes s.advisory t (hashtext imei) s'.advisory)
      (odometer : s'.odometer = s.odometer) (daily : s'.daily = s.daily)
  | odometer (before : (s.distances t).isWaiting = false)
      (after : (s'.distances t).isWaiting = false)
      (advisory : s'.advisory = s.advisory)
      (odometer : Store.Writes s.odometer t imei s'.odometer) (daily : s'.daily = s.daily)
  | daily (date : ℤ) (before : (s.distances t).isWaiting = false)
      (after : (s'.distances t).isWaiting = false)
      (advisory : s'.advisory = s.advisory) (odometer : s'.odometer = s.odometer)
      (daily : Store.Writes s.daily t (imei, date) s'.daily)

/-- What a statement of `process_location_distance` leaves alone, and that it is a step towards its
end. -/
structure Frames (t : ℕ) (s s' : DistanceServer K) : Prop where
  server : s'.server = s.server
  distances : ∀ u, u ≠ t → s'.distances u = s.distances u
  remaining : (s'.distances t).remaining < (s.distances t).remaining

omit [IsStrictOrderedRing K] in
theorem afterRead_spec (point : DistanceLocationPoint)
    (previous : Option PreviousDistancePoint) :
    (afterRead point previous : DistanceThread K).isWaiting = false ∧
      (afterRead point previous : DistanceThread K).remaining < 3 := by
  unfold afterRead
  split
  · exact ⟨rfl, Nat.zero_lt_succ 2⟩
  · exact ⟨rfl, Nat.lt_succ_self 2⟩

omit [IsStrictOrderedRing K] in
theorem afterWrite_spec (accepted : { meters : K // 0 ≤ meters }) :
    (afterWrite accepted).isWaiting = false ∧ (afterWrite accepted).remaining < 2 := by
  unfold afterWrite
  split
  · exact ⟨rfl, Nat.lt_succ_self 1⟩
  · exact ⟨rfl, Nat.zero_lt_succ 1⟩

theorem frames_of_distanceStatement
    (h : s.distanceStatement hashtext distanceMeters t imei point = some s') : Frames t s s' := by
  unfold distanceStatement at h
  cases hstage : s.distances t with
  | waiting =>
      rw [hstage] at h
      obtain ⟨advisory, -, hs'⟩ := Option.bind_eq_some_iff.1 h
      cases hs'
      refine ⟨rfl, fun u hu => Function.update_of_ne hu .., ?_⟩
      rw [hstage]
      exact (congrArg _ (Function.update_self ..)).trans_lt (Nat.lt_succ_self 3)
  | locked =>
      rw [hstage] at h
      obtain ⟨⟨row, odometer⟩, -, hs'⟩ := Option.bind_eq_some_iff.1 h
      cases hs'
      refine ⟨rfl, fun u hu => Function.update_of_ne hu .., ?_⟩
      rw [hstage]
      exact (congrArg _ (Function.update_self ..)).trans_lt (afterRead_spec point _).2
  | read previous =>
      rw [hstage] at h
      obtain ⟨⟨row, odometer⟩, -, hs'⟩ := Option.bind_eq_some_iff.1 h
      cases hs'
      refine ⟨rfl, fun u hu => Function.update_of_ne hu .., ?_⟩
      rw [hstage]
      exact (congrArg _ (Function.update_self ..)).trans_lt (afterWrite_spec _).2
  | written accepted =>
      rw [hstage] at h
      obtain ⟨⟨row, daily⟩, -, hs'⟩ := Option.bind_eq_some_iff.1 h
      cases hs'
      refine ⟨rfl, fun u hu => Function.update_of_ne hu .., ?_⟩
      rw [hstage]
      exact (congrArg _ (Function.update_self ..)).trans_lt Nat.one_pos
  | counted =>
      rw [hstage] at h
      cases h

theorem counts_of_distanceStatement
    (h : s.distanceStatement hashtext distanceMeters t imei point = some s') :
    Counts hashtext s t imei s' := by
  unfold distanceStatement at h
  cases hstage : s.distances t with
  | waiting =>
      rw [hstage] at h
      obtain ⟨advisory, hadvisory, hs'⟩ := Option.bind_eq_some_iff.1 h
      cases hs'
      exact .lock (by rw [hstage]; rfl) (Function.update_self ..)
        (Store.advisoryXactLock_eq_some hadvisory).1 rfl rfl
  | locked =>
      rw [hstage] at h
      obtain ⟨⟨row, odometer⟩, hread, hs'⟩ := Option.bind_eq_some_iff.1 h
      cases hs'
      refine .odometer (by rw [hstage]; rfl) ?_ rfl (Store.selectForUpdate_eq_some hread).2.1 rfl
      exact (congrArg _ (Function.update_self ..)).trans (afterRead_spec point _).1
  | read previous =>
      rw [hstage] at h
      obtain ⟨⟨row, odometer⟩, hwrite, hs'⟩ := Option.bind_eq_some_iff.1 h
      cases hs'
      refine .odometer (by rw [hstage]; rfl) ?_ rfl (Store.upsert_eq_some hwrite).2.1 rfl
      exact (congrArg _ (Function.update_self ..)).trans (afterWrite_spec _).1
  | written accepted =>
      rw [hstage] at h
      obtain ⟨⟨row, daily⟩, hwrite, hs'⟩ := Option.bind_eq_some_iff.1 h
      cases hs'
      refine .daily _ (by rw [hstage]; rfl) ?_ rfl rfl (Store.upsert_eq_some hwrite).2.1
      exact congrArg _ (Function.update_self ..)
  | counted =>
      rw [hstage] at h
      cases h

omit [IsStrictOrderedRing K] in
/-- A transaction that counts has inserted a location and not come to the end of the count. -/
theorem of_counting (h : s.counting t = some (imei, point)) :
    ∃ receipt found row, s.server.history.threads t = .inserted receipt found (.location row) ∧
      imei = receipt.imei ∧ point = row.point receipt.receivedAt ∧
      (s.distances t).isCounted = false := by
  unfold counting at h
  split at h
  · next receipt found row hthread =>
      split at h
      · cases h
      · next hcounted =>
          cases h
          exact ⟨receipt, found, row, hthread, rfl, rfl, by simpa using hcounted⟩
  · cases h

omit [IsStrictOrderedRing K] in
@[simp] theorem server_afterStatement (server : Gt06TcpServer) :
    (s.afterStatement t server).server = server := by
  unfold afterStatement
  split
  · rfl
  · rfl

omit [IsStrictOrderedRing K] in
theorem distances_afterStatement_of_ne {u : ℕ} (hu : u ≠ t) (server : Gt06TcpServer) :
    (s.afterStatement t server).distances u = s.distances u := by
  unfold afterStatement
  split
  · exact Function.update_of_ne hu ..
  · rfl

omit [IsStrictOrderedRing K] in
theorem distances_afterStatement_of_busy {server : Gt06TcpServer}
    (h : ¬ (server.history.threads t).isIdle) :
    (s.afterStatement t server).distances = s.distances := by
  unfold afterStatement
  rw [if_neg h]

/-- What a step is: a statement of `process_location_distance`, another statement of a transaction,
a rollback, or a step outside the transactions. -/
inductive Moves (hashtext : String → ℤ) (distanceMeters : F64 → F64 → F64 → F64 → K)
    (peer : ℕ → SocketAddr) (s s' : DistanceServer K) (e : ServerEvent) : Prop where
  | count (t : ℕ) (imei : String) (point : DistanceLocationPoint) (event : e = .advance t)
      (counting : s.counting t = some (imei, point))
      (statement : s.distanceStatement hashtext distanceMeters t imei point = some s')
  | statement (t : ℕ) (server : Gt06TcpServer) (event : e = .advance t)
      (counting : s.counting t = none) (statement : s.server.step peer e = some server)
      (after : s' = s.afterStatement t server)
  | rollback (t : ℕ) (server : Gt06TcpServer) (event : e = .rollback t)
      (statement : s.server.step peer e = some server) (after : s' = s.rolledBack t server)
  | outside (server : Gt06TcpServer) (advance : ∀ t, e ≠ .advance t)
      (rollback : ∀ t, e ≠ .rollback t) (statement : s.server.step peer e = some server)
      (after : s' = { s with server := server })

theorem moves_of_step {e : ServerEvent} (h : s.step hashtext distanceMeters peer e = some s') :
    Moves hashtext distanceMeters peer s s' e := by
  have houtside : (∀ t, e ≠ .advance t) → (∀ t, e ≠ .rollback t) →
      s.step hashtext distanceMeters peer e =
        (s.server.step peer e).map fun server => { s with server := server } := by
    intro hadvance hrollback
    cases e with
    | advance t => exact absurd rfl (hadvance t)
    | rollback t => exact absurd rfl (hrollback t)
    | _ => rfl
  cases e with
  | advance t =>
      simp only [step] at h
      cases hcounting : s.counting t with
      | some p =>
          rw [hcounting] at h
          exact .count t p.1 p.2 rfl hcounting h
      | none =>
          rw [hcounting] at h
          obtain ⟨server, hserver, hs'⟩ := Option.map_eq_some_iff.1 h
          exact .statement t server rfl hcounting hserver hs'.symm
  | rollback t =>
      obtain ⟨server, hserver, hs'⟩ := Option.map_eq_some_iff.1 h
      exact .rollback t server rfl hserver hs'.symm
  | _ =>
      rw [houtside (by simp) (by simp)] at h
      obtain ⟨server, hserver, hs'⟩ := Option.map_eq_some_iff.1 h
      exact .outside server (by simp) (by simp) hserver hs'.symm

/-- **Refinement**: a step is one of the server without distances, or counts a distance. -/
theorem server_step {e : ServerEvent} (h : s.step hashtext distanceMeters peer e = some s') :
    s.server.step peer e = some s'.server ∨ (∃ t, e = .advance t) ∧ s'.server = s.server := by
  cases moves_of_step h with
  | count t imei point event _ hstatement =>
      exact Or.inr ⟨⟨t, event⟩, (frames_of_distanceStatement hstatement).server⟩
  | statement t server _ _ hserver hs' =>
      rw [hs', server_afterStatement]
      exact Or.inl hserver
  | rollback t server _ hserver hs' => exact Or.inl (hs' ▸ hserver)
  | outside server _ _ hserver hs' => exact Or.inl (hs' ▸ hserver)

theorem serverInv_of_step {e : ServerEvent} (h : Gt06TcpServer.ServerInv peer s.server)
    (hstep : s.step hashtext distanceMeters peer e = some s') :
    Gt06TcpServer.ServerInv peer s'.server := by
  rcases server_step hstep with hserver | ⟨-, hsame⟩
  · exact Gt06TcpServer.serverInv_step h hserver
  · exact hsame ▸ h

/-- A run of the server is one of the server without distances, which does nothing while a distance
is counted. -/
theorem server_run {clock : ℤ} {tr : List (DistanceServer K × ServerEvent)}
    (run : Run (step hashtext distanceMeters peer) (start clock) tr s) :
    ∃ tr', Run (Gt06TcpServer.step peer) (.start clock) tr' s.server := by
  induction run with
  | nil => exact ⟨[], .nil⟩
  | @snoc tr s s' e _ hstep ih =>
      obtain ⟨tr', run'⟩ := ih
      rcases server_step hstep with hserver | ⟨-, hsame⟩
      · exact ⟨tr' ++ [(s.server, e)], run'.snoc hserver⟩
      · exact ⟨tr', hsame ▸ run'⟩

/-! ### Who holds which lock -/

/-- Whoever is in the midst of counting has inserted its row; whoever holds an advisory lock is in
the midst of counting; and whoever holds a row of the distances of a device holds the row of the
device. -/
structure DistanceInv (s : DistanceServer K) : Prop where
  begun : ∀ t, (s.distances t).isWaiting = false →
    (s.server.history.threads t).hasInserted = true
  advisory : s.advisory.HeldBy fun t _ => (s.distances t).isWaiting = false
  odometer : s.odometer.HeldBy s.server.history.HoldsRow
  daily : s.daily.HeldBy fun t k => s.server.history.HoldsRow t k.1

omit [IsStrictOrderedRing K] in
theorem distanceInv_start (clock : ℤ) : (start clock : DistanceServer K).DistanceInv where
  begun := fun _ h => by cases h
  advisory := fun _ _ _ h => by cases h
  odometer := fun _ _ _ h => by cases h
  daily := fun _ _ _ h => by cases h

/-- Counting a distance. -/
theorem DistanceInv.count (h : s.DistanceInv) (hlock : s.server.history.LockInv)
    (hcounting : s.counting t = some (imei, point))
    (hstatement : s.distanceStatement hashtext distanceMeters t imei point = some s') :
    s'.DistanceInv := by
  obtain ⟨receipt, found, row, hthread, rfl, -, -⟩ := of_counting hcounting
  obtain ⟨hserver, hothers, -⟩ := frames_of_distanceStatement hstatement
  have hholds := DeviceHistory.holdsRow_of_inserted hlock hthread
  have hcounts := counts_of_distanceStatement hstatement
  have hafter : (s'.distances t).isWaiting = false := by
    cases hcounts with
    | lock _ after _ _ _ => rw [after]; rfl
    | odometer _ after _ _ _ => exact after
    | daily _ _ after _ _ _ => exact after
  have hstays : ∀ u, (s.distances u).isWaiting = false → (s'.distances u).isWaiting = false := by
    intro u hu
    by_cases hut : u = t
    · rw [hut]
      exact hafter
    · rw [hothers u hut]
      exact hu
  have hbegun : ∀ u, (s'.distances u).isWaiting = false →
      (s'.server.history.threads u).hasInserted = true := by
    intro u hu
    rw [hserver]
    by_cases hut : u = t
    · rw [hut, hthread]
      rfl
    · exact h.begun u (hothers u hut ▸ hu)
  have hadvisory := h.advisory.mono fun u _ hu => hstays u hu
  cases hcounts with
  | lock _ _ advisory odometer daily =>
      exact ⟨hbegun, hadvisory.writes advisory hafter, by rw [odometer, hserver]; exact h.odometer,
        by rw [daily, hserver]; exact h.daily⟩
  | odometer _ _ advisory odometer daily =>
      exact ⟨hbegun, advisory ▸ hadvisory, by rw [hserver]; exact h.odometer.writes odometer hholds,
        by rw [daily, hserver]; exact h.daily⟩
  | daily date _ _ advisory odometer daily =>
      exact ⟨hbegun, advisory ▸ hadvisory, by rw [odometer, hserver]; exact h.odometer,
        by rw [hserver]; exact h.daily.writes daily hholds⟩

omit [IsStrictOrderedRing K] in
/-- The end of a transaction gives its locks back. -/
theorem DistanceInv.release (h : s.DistanceInv)
    (hthreads : ∀ u, u ≠ t → (s.server.history.threads u).hasInserted = true →
      (s'.server.history.threads u).hasInserted = true)
    (hholds : ∀ u k, u ≠ t → s.server.history.HoldsRow u k → s'.server.history.HoldsRow u k)
    (hdistances : s'.distances = Function.update s.distances t .waiting)
    (hadvisory : s'.advisory.HeldBy fun u _ => u ≠ t ∧ (s.distances u).isWaiting = false)
    (hodometer : s'.odometer.HeldBy fun u k => u ≠ t ∧ s.server.history.HoldsRow u k)
    (hdaily : s'.daily.HeldBy fun u k => u ≠ t ∧ s.server.history.HoldsRow u k.1) :
    s'.DistanceInv := by
  refine ⟨fun u hu => ?_, hadvisory.mono ?_, hodometer.mono fun u k hu => hholds u k hu.1 hu.2,
    hdaily.mono fun u k hu => hholds u k.1 hu.1 hu.2⟩
  · rw [hdistances] at hu
    by_cases hut : u = t
    · rw [hut, Function.update_self] at hu
      cases hu
    · rw [Function.update_of_ne hut] at hu
      exact hthreads u hut (h.begun u hu)
  · rintro u _ ⟨hut, hu⟩
    rw [hdistances, Function.update_of_ne hut]
    exact hu

omit [IsStrictOrderedRing K] in
/-- Another statement of a transaction. -/
theorem DistanceInv.statement (h : s.DistanceInv) (hlock : s.server.history.LockInv)
    {history : DeviceHistory} (hadvance : s.server.history.advance t = some history) :
    (s.afterStatement t (s.server.advanced t history)).DistanceInv := by
  have hframes := DeviceHistory.frames_of_advance hadvance
  have hothers : ∀ u, u ≠ t → (s.server.history.threads u).hasInserted = true →
      (history.threads u).hasInserted = true := fun u hu hbegun => by
    rw [hframes.threads u hu]
    exact hbegun
  unfold afterStatement
  split
  · next hidle =>
      refine h.release (t := t) hothers ?_ rfl h.advisory.commit h.odometer.commit h.daily.commit
      exact fun u k hu hholds => hholds.advance hlock hadvance fun hut => absurd hut hu
  · next hbusy =>
      have hbusy : (history.threads t).isIdle = false := Bool.eq_false_iff.2 hbusy
      have hkeeps : ∀ u k, s.server.history.HoldsRow u k → history.HoldsRow u k :=
        fun u k hholds => hholds.advance hlock hadvance fun _ => hbusy
      refine ⟨fun u hu => ?_, h.advisory, h.odometer.mono hkeeps,
        h.daily.mono fun u k => hkeeps u k.1⟩
      by_cases hut : u = t
      · -- behind its insert a transaction only updates and commits
        subst hut
        have hbegun := h.begun u hu
        change (history.threads u).hasInserted = true
        cases DeviceHistory.statement_of_advance hadvance with
        | upsert receipt found device hbefore _ _ _ =>
            rw [hbefore] at hbegun
            cases hbegun
        | insert receipt found deviceId row _ _ hafter _ _ =>
            rw [hafter]
            rfl
        | update receipt found row _ hafter _ _ =>
            rw [hafter]
            rfl
        | commit receipt found row _ hafter _ _ =>
            rw [hafter] at hbusy
            cases hbusy
      · exact hothers u hut (h.begun u hu)

omit [IsStrictOrderedRing K] in
theorem DistanceInv.rolledBack (h : s.DistanceInv) {server : Gt06TcpServer}
    (hserver : server.history = { s.server.history.setThread t .idle with
      store := s.server.history.store.rollback t }) : (s.rolledBack t server).DistanceInv := by
  refine h.release (t := t) ?_ ?_ rfl h.advisory.rollback h.odometer.rollback h.daily.rollback
  · intro u hu hbegun
    change (server.history.threads u).hasInserted = true
    rw [hserver]
    change ((s.server.history.setThread t .idle).threads u).hasInserted = true
    rw [DeviceHistory.threads_setThread_of_ne hu]
    exact hbegun
  · rintro u k hu ⟨device, hheld⟩
    refine ⟨device, ?_⟩
    change server.history.store.held k = some (u, device)
    rw [hserver]
    exact (Store.held_rollback_of_ne hu).2 hheld

omit [IsStrictOrderedRing K] in
/-- A step that leaves the row locks alone and begins transactions only. -/
theorem DistanceInv.outside (h : s.DistanceInv) {server : Gt06TcpServer}
    (hstore : server.history.store = s.server.history.store)
    (hthreads : ∀ u, (s.server.history.threads u).hasInserted = true →
      (server.history.threads u).hasInserted = true) :
    ({ s with server := server } : DistanceServer K).DistanceInv := by
  have hholds : ∀ u k, s.server.history.HoldsRow u k → server.history.HoldsRow u k := by
    rintro u k ⟨device, hheld⟩
    exact ⟨device, by rw [hstore, hheld]⟩
  exact ⟨fun u hu => hthreads u (h.begun u hu), h.advisory, h.odometer.mono hholds,
    h.daily.mono fun u k => hholds u k.1⟩

/-- **What every step preserves**: who holds which lock. -/
theorem distanceInv_step {e : ServerEvent} (h : s.DistanceInv) (hlock : s.server.history.LockInv)
    (hstep : s.step hashtext distanceMeters peer e = some s') : s'.DistanceInv := by
  cases moves_of_step hstep with
  | count t imei point _ hcounting hstatement => exact h.count hlock hcounting hstatement
  | statement t server event _ hserver hs' =>
      subst event hs'
      obtain ⟨history, hadvance, rfl⟩ := Gt06TcpServer.of_step_advance hserver
      exact h.statement hlock hadvance
  | rollback t server event hserver hs' =>
      subst event hs'
      simp only [Gt06TcpServer.step] at hserver
      split at hserver
      · cases hserver
      · cases hserver
        exact h.rolledBack rfl
  | outside server hadvance hrollback hserver hs' =>
      subst hs'
      obtain ⟨hstore, hthreads⟩ := Gt06TcpServer.outside_step hserver hadvance hrollback
      refine h.outside hstore fun u hu => ?_
      rw [hthreads u (EventThread.isIdle_of_hasInserted hu)]
      exact hu

/-- What holds in every state of a run: each connection is what its stream makes of it, and the
locks are where they belong. -/
theorem distanceInv_of_run {clock : ℤ} {tr : List (DistanceServer K × ServerEvent)}
    (run : Run (step hashtext distanceMeters peer) (start clock) tr s) :
    Gt06TcpServer.ServerInv peer s.server ∧ s.DistanceInv := by
  refine (run.invariant (I := fun s => Gt06TcpServer.ServerInv peer s.server ∧ s.DistanceInv)
    (G := fun _ _ => True) ?_ ⟨Gt06TcpServer.serverInv_start clock, distanceInv_start clock⟩
    fun _ _ => trivial).2
  rintro s e s' ⟨hserver, hdistance⟩ _ hstep
  exact ⟨serverInv_of_step hserver hstep, distanceInv_step hdistance hserver.lock hstep⟩

end DistanceServer

end Gt06
