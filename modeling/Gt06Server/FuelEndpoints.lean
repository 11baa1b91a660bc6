/-
**The fuel requests and the connection pool.**

A request to start, restart or complete a calibration opens a transaction on one connection of the
pool, takes the advisory lock of its device, and keeps both to the commit.  The request that
completes a calibration computes the metrics of the stretch in between, with queries to the pool:
on a second connection, while the first is in its transaction.

So the requests can wait for one another in a circle, and then nothing but the time limit of the
pool ends it.  Two requests are enough when the pool has two connections.  What matters is how many
requests there are for the locks of the devices for which one is to complete a calibration.

The lock is keyed by a hash of the device, so that two devices may share it.  The transactions of
other processes that take it send no query to this pool, and let go of it.  The other requests are
arbitrary here, as far as they take no such lock.

Main definitions:

* `Gt06.FuelCall` — the statements of the requests;
* `Gt06.FuelEndpoints.startFuelCalibration`, `Gt06.FuelEndpoints.restartFuelCalibration`,
  `Gt06.FuelEndpoints.completeFuelCalibration` — **the requests, statement by statement**;
* `Gt06.FuelEndpoints.PoolRequest` — the requests the pool is for;
* `Gt06.FuelEndpoints.Crowds` — a request that can be caught in a circle.

Main results:

* `Gt06.FuelEndpoints.Serves.answered_load` — the page, statement by statement, is the page;
* `Gt06.FuelEndpoints.shaped_start`, `Gt06.FuelEndpoints.shaped_complete` — what the transactions
  look like;
* `Gt06.FuelEndpoints.contends_iff` — who is caught;
* `Gt06.fuel_requests_fit_pool_iff` — **when the pool suffices**.
-/

import Mathlib
import Gt06Server.ConnectionPools
import Gt06Server.FuelPages

set_option relaxedAutoImplicit false
set_option autoImplicit false

namespace Gt06

open Await Binary64 Relational

/-! ### Statements -/

/-- The columns that the completion reads of the calibration. -/
structure ActiveCalibration (K : Type) where
  startedAt : ℤ
  startDistanceMeters : K
  fuelType : Option String

/-- The statements of the requests: in a transaction, from `lockDevice` to `commit`, and on the
pool; `σ` are those of the other requests. -/
inductive FuelCall (K σ : Type) [Field K] [LinearOrder K] where
  | begin
  | lockDevice (imei : String)
  | deviceExists (imei : String)
  | activeExists (imei : String)
  | trackedDistance (imei : String)
  | invalidateActive (imei : String)
  | insertCalibration (imei : String) (startedAt : ℤ) (startDistance : { meters : K // 0 ≤ meters })
      (fuelType : Option String)
  | selectActive (imei : String) (calibrationId : ℕ)
  | completeCalibration (imei : String) (calibrationId : ℕ) (completedAt : ℤ)
      (endDistance distance : { meters : K // 0 ≤ meters }) (refuel : AcceptedRefuel)
      (fuelType : Option String) (metrics : FuelWindowMetrics)
  | commit
  | rideLocations (imei : String) (startedAt endedAt : ℤ)
  | engineSessions (imei : String) (startedAt endedAt : ℤ)
  | poolDeviceExists (imei : String)
  | latestActive (imei : String)
  | poolTrackedDistance (imei : String)
  | completedCalibrations (imei : String)
  | other (statement : σ)

section Calls

variable {K σ : Type} [Field K] [LinearOrder K]

@[reducible] def FuelCall.Reply (answer : σ → Type) : FuelCall K σ → Type
  | .begin => Unit
  | .lockDevice _ => Unit
  | .deviceExists _ => Bool
  | .activeExists _ => Bool
  | .trackedDistance _ => Option K
  | .invalidateActive _ => Unit
  | .insertCalibration _ _ _ _ => Unit
  | .selectActive _ _ => Option (ActiveCalibration K)
  | .completeCalibration _ _ _ _ _ _ _ _ => Unit
  | .commit => Unit
  | .rideLocations _ _ _ => List RidePoint
  | .engineSessions _ _ _ => List EngineSession
  | .poolDeviceExists _ => Bool
  | .latestActive _ => Option (FuelCalibration K)
  | .poolTrackedDistance _ => Option K
  | .completedCalibrations _ => List (CompletedCalibration K)
  | .other statement => answer statement

/-- What a statement asks the pool and the server for. -/
def FuelCall.kind (hashtext : String → ℤ) (otherKind : σ → Pools.Kind ℤ) :
    FuelCall K σ → Pools.Kind ℤ
  | .begin => .begin
  | .lockDevice imei => .lock (hashtext imei)
  | .deviceExists _ => .execute
  | .activeExists _ => .execute
  | .trackedDistance _ => .execute
  | .invalidateActive _ => .execute
  | .insertCalibration _ _ _ _ => .execute
  | .selectActive _ _ => .execute
  | .completeCalibration _ _ _ _ _ _ _ _ => .execute
  | .commit => .commit
  | .rideLocations _ _ _ => .query
  | .engineSessions _ _ _ => .query
  | .poolDeviceExists _ => .query
  | .latestActive _ => .query
  | .poolTrackedDistance _ => .query
  | .completedCalibrations _ => .query
  | .other statement => otherKind statement

end Calls

namespace FuelEndpoints

variable {K σ : Type} [Field K] [LinearOrder K] {answer : σ → Type}

/-! ### The requests, statement by statement -/

section Programs

variable (summarize : List RidePoint → RideSummary) (answer)

/-- A program of the handlers. -/
abbrev FuelProg (K : Type) [Field K] [LinearOrder K] {σ : Type} (answer : σ → Type) (α : Type) :
    Type := Prog (FuelCall K σ) (FuelCall.Reply answer) α

/-- Send a statement. -/
def ask (call : FuelCall K σ) : FuelProg K answer (FuelCall.Reply answer call) := request call

/-- `fetch_fuel_window_metrics`, on the pool. -/
def fetchFuelWindowMetrics (imei : String) (startedAt endedAt : ℤ) :
    FuelProg K answer FuelWindowMetrics := do
  let points ← ask answer (.rideLocations imei startedAt endedAt)
  let sessions ← ask answer (.engineSessions imei startedAt endedAt)
  pure {
    ridingSeconds := if points.length < 2 then 0 else (summarize points).ridingSeconds
    engineOnSeconds := (sessions.map fun session =>
      (numSeconds (min (session.resolvedAt.getD endedAt) endedAt -
        max session.createdAt startedAt)).toNat).sum
    tripCount := sessions.length }

/-- What `load_device_fuel_calibrations` shows of the active calibration. -/
def loadProgress (imei : String) (now : ℤ) : Option (FuelCalibration K) →
    FuelProg K answer (Option (FuelCalibrationProgressResponse K))
  | none => pure none
  | some row => do
      let current ← ask answer (.poolTrackedDistance imei)
      let metrics ← fetchFuelWindowMetrics answer summarize imei row.startedAt now
      let currentDistanceMeters := max (current.getD 0) 0
      let elapsedSeconds := max (numSeconds (now - row.startedAt)) 0
      pure (some {
        id := row.id
        startedAt := row.startedAt
        startDistanceKm := row.startDistanceMeters / (metersPerKm : K)
        currentDistanceKm := currentDistanceMeters / (metersPerKm : K)
        distanceTraveledKm :=
          max (currentDistanceMeters - row.startDistanceMeters) 0 / (metersPerKm : K)
        ridingSeconds := metrics.ridingSeconds
        engineOnSeconds := metrics.engineOnSeconds
        tripCount := metrics.tripCount
        elapsedDays := if elapsedSeconds = 0 then 0 else (elapsedSeconds + 86399) / 86400
        fuelType := row.fuelType })

def loadDeviceFuelCalibrations (imei : String) (now : ℤ) :
    FuelProg K answer (Except FuelApiError (DeviceFuelCalibrationResponse K)) := do
  let deviceExists ← ask answer (.poolDeviceExists imei)
  if deviceExists then
    let activeRow ← ask answer (.latestActive imei)
    let activeCalibration ← loadProgress answer summarize imei now activeRow
    let rows ← ask answer (.completedCalibrations imei)
    let history := rows.map CompletedCalibration.fuelCalibrationResultFromRow
    pure (.ok {
      imei := imei
      timezone := "Asia/Jakarta"
      generatedAt := now
      state :=
        if activeCalibration.isSome then .active
        else if history.head?.isSome then .completed
        else .notStarted
      activeCalibration := activeCalibration
      latestResult := history.head?
      history := history })
  else pure (.error .deviceNotFound)

/-- `current_tracked_distance_meters`, in the transaction. -/
def currentTrackedDistanceMeters (imei : String) :
    FuelProg K answer { meters : K // 0 ≤ meters } := do
  let total ← ask answer (.trackedDistance imei)
  pure ⟨max (total.getD 0) 0, le_max_right _ _⟩

/-- The `INSERT` of a calibration, the commit and the response. -/
def insertAndLoad (imei : String) (now readAt : ℤ) (fuelType : Option String) :
    FuelProg K answer (Except FuelApiError (DeviceFuelCalibrationResponse K)) := do
  let startDistance ← currentTrackedDistanceMeters answer imei
  ask answer (.insertCalibration imei now startDistance fuelType)
  ask answer .commit
  loadDeviceFuelCalibrations answer summarize imei readAt

/-- The instant of the response is `readAt`. -/
def startFuelCalibration (imei : String) (body : StartFuelCalibrationRequest) (now readAt : ℤ) :
    FuelProg K answer (Except FuelApiError (DeviceFuelCalibrationResponse K)) :=
  match normalizeOptionalFuelType body.fuelType with
  | .error error => pure (.error error)
  | .ok fuelType => do
      ask answer .begin
      ask answer (.lockDevice imei)
      let deviceExists ← ask answer (.deviceExists imei)
      if deviceExists then
        let activeExists ← ask answer (.activeExists imei)
        if activeExists then pure (.error .fuelCalibrationAlreadyActive)
        else insertAndLoad answer summarize imei now readAt fuelType
      else pure (.error .deviceNotFound)

def restartFuelCalibration (imei : String) (body : StartFuelCalibrationRequest) (now readAt : ℤ) :
    FuelProg K answer (Except FuelApiError (DeviceFuelCalibrationResponse K)) :=
  match normalizeOptionalFuelType body.fuelType with
  | .error error => pure (.error error)
  | .ok fuelType => do
      ask answer .begin
      ask answer (.lockDevice imei)
      let deviceExists ← ask answer (.deviceExists imei)
      if deviceExists then
        ask answer (.invalidateActive imei)
        insertAndLoad answer summarize imei now readAt fuelType
      else pure (.error .deviceNotFound)

/-- The metrics are fetched from the pool while the transaction is open. -/
def completeFuelCalibration (imei : String) (calibrationId : ℕ)
    (body : CompleteFuelCalibrationRequest) (completedAt readAt : ℤ) :
    FuelProg K answer (Except FuelApiError (DeviceFuelCalibrationResponse K)) :=
  match validateCompleteFuelCalibration body with
  | .error error => pure (.error error)
  | .ok refuel =>
      match normalizeOptionalFuelType body.fuelType with
      | .error error => pure (.error error)
      | .ok fuelType => do
          ask answer .begin
          ask answer (.lockDevice imei)
          let found ← ask answer (.selectActive imei calibrationId)
          match found with
          | none => pure (.error .fuelCalibrationNotFound)
          | some calibration => do
              let endDistance ← currentTrackedDistanceMeters answer imei
              let distance : { meters : K // 0 ≤ meters } :=
                ⟨max (endDistance.1 - calibration.startDistanceMeters) 0, le_max_right _ _⟩
              let metrics ← fetchFuelWindowMetrics answer summarize imei calibration.startedAt
                completedAt
              ask answer (.completeCalibration imei calibrationId completedAt endDistance distance
                refuel (fuelType.or calibration.fuelType) metrics)
              ask answer .commit
              loadDeviceFuelCalibrations answer summarize imei readAt

end Programs

/-! ### The page of a database that stands still -/

section Page

/-- What the database answers to the statements of the page. -/
structure Serves (db : CalibrationDatabase K) (w : ChatWorld) (imei : String)
    (reply : (call : FuelCall K σ) → FuelCall.Reply answer call) : Prop where
  deviceExists : reply (.poolDeviceExists imei) = decide (imei ∈ db.devices)
  latestActive : reply (.latestActive imei) = db.latestActiveCalibration imei
  trackedDistance : reply (.poolTrackedDistance imei) =
    (rowAt DistanceOdometer.imei imei db.distances.odometer).map
      DistanceOdometer.totalDistanceMeters
  rideLocations : ∀ startedAt endedAt, reply (.rideLocations imei startedAt endedAt) =
    ridePoints w.deviceLocations imei startedAt endedAt
  engineSessions : ∀ startedAt endedAt, reply (.engineSessions imei startedAt endedAt) =
    fuelWindowSessions w.telegramEngineSessions imei startedAt endedAt
  completedCalibrations : reply (.completedCalibrations imei) = db.calibrationHistory imei

variable {summarize : List RidePoint → RideSummary} {db : CalibrationDatabase K} {w : ChatWorld}
  {imei : String} {reply : (call : FuelCall K σ) → FuelCall.Reply answer call}

theorem Serves.answered_metrics (h : Serves db w imei reply) (startedAt endedAt : ℤ) :
    answered reply (fetchFuelWindowMetrics answer summarize imei startedAt endedAt) =
      some (Gt06.fetchFuelWindowMetrics summarize w imei startedAt endedAt) := by
  have hrides :
      (fetchRideSummary summarize w.deviceLocations imei startedAt endedAt).ridingSeconds =
      if (ridePoints w.deviceLocations imei startedAt endedAt).length < 2 then 0
      else (summarize (ridePoints w.deviceLocations imei startedAt endedAt)).ridingSeconds := by
    rw [fetchRideSummary]
    split
    · rfl
    · rfl
  rw [Gt06.fetchFuelWindowMetrics, hrides, ← h.rideLocations, ← h.engineSessions]
  rfl

theorem Serves.answered_progress (h : Serves db w imei reply) (now : ℤ)
    (row : Option (FuelCalibration K)) :
    answered reply (loadProgress answer summarize imei now row) =
      some (row.map (db.calibrationProgress summarize w imei now)) := by
  cases row with
  | none => rfl
  | some row =>
      change answered reply (fetchFuelWindowMetrics answer summarize imei row.startedAt now >>= _) =
        _
      rw [answered_bind, h.answered_metrics, h.trackedDistance]
      rfl

/-- **The page, statement by statement**, is the page of a database that stands still. -/
theorem Serves.answered_load (h : Serves db w imei reply) (now : ℤ) :
    answered reply (loadDeviceFuelCalibrations answer summarize imei now) =
      some (db.loadDeviceFuelCalibrations summarize w imei now) := by
  rw [CalibrationDatabase.loadDeviceFuelCalibrations, loadDeviceFuelCalibrations, answered_bind]
  change answered reply (if reply (.poolDeviceExists imei) then _ else _) = _
  rw [h.deviceExists]
  by_cases hdevice : imei ∈ db.devices
  · rw [if_pos (decide_eq_true hdevice), if_neg (not_not.2 hdevice)]
    change answered reply (loadProgress answer summarize imei now (reply (.latestActive imei)) >>=
      _) = _
    rw [answered_bind, h.answered_progress, h.latestActive]
    change some (Except.ok _) = _
    rw [h.completedCalibrations]
  · rw [if_neg (decide_eq_false hdevice ▸ Bool.false_ne_true), if_pos hdevice]
    rfl

end Page

/-! ### What the transactions look like -/

section Shapes

open Pools

variable (summarize : List RidePoint → RideSummary) (answer) (hashtext : String → ℤ)
  (otherKind : σ → Kind ℤ)

theorem uses_fetchFuelWindowMetrics (imei : String) (startedAt endedAt : ℤ) :
    (fetchFuelWindowMetrics (K := K) answer summarize imei startedAt endedAt).Uses
      fun call => call.kind hashtext otherKind = .query := by
  refine Prog.uses_bind (Prog.uses_request rfl) fun points => ?_
  exact Prog.uses_bind (Prog.uses_request rfl) fun sessions => trivial

theorem uses_loadDeviceFuelCalibrations (imei : String) (now : ℤ) :
    (loadDeviceFuelCalibrations (K := K) answer summarize imei now).Uses
      fun call => call.kind hashtext otherKind = .query := by
  refine Prog.uses_bind (Prog.uses_request rfl) fun deviceExists => ?_
  cases deviceExists with
  | false => trivial
  | true =>
      refine Prog.uses_bind (Prog.uses_request rfl) fun activeRow => ?_
      refine Prog.uses_bind ?_ fun activeCalibration => ?_
      · cases activeRow with
        | none => trivial
        | some row =>
            refine Prog.uses_bind (Prog.uses_request rfl) fun current => ?_
            exact Prog.uses_bind (uses_fetchFuelWindowMetrics answer summarize hashtext otherKind
              imei row.startedAt now) fun metrics => trivial
      · exact Prog.uses_bind (Prog.uses_request rfl) fun rows => trivial

/-- A request whose response is sent. -/
def sent {α : Type} (p : FuelProg K answer α) : FuelProg K answer Unit := p >>= fun _ => pure ()

theorem plain_load (imei : String) (now : ℤ) :
    Plain (FuelCall.kind hashtext otherKind)
      (sent answer (loadDeviceFuelCalibrations (K := K) answer summarize imei now)) :=
  plain_of_uses (Prog.uses_bind (uses_loadDeviceFuelCalibrations answer summarize hashtext
    otherKind imei now) fun _ => trivial)

theorem locked_insertAndLoad (imei : String) (now readAt : ℤ) (fuelType : Option String) :
    Locked (FuelCall.kind hashtext otherKind)
      (sent answer (insertAndLoad (K := K) answer summarize imei now readAt fuelType)) := by
  refine locked_call (.inr rfl) trivial fun total => ?_
  refine locked_call (.inr rfl) trivial fun _ => ?_
  refine locked_commit rfl trivial fun _ => ?_
  exact plain_load answer summarize hashtext otherKind imei readAt

theorem not_queries_insertAndLoad (imei : String) (now readAt : ℤ) (fuelType : Option String) :
    ¬ Queries (FuelCall.kind hashtext otherKind)
      (sent answer (insertAndLoad (K := K) answer summarize imei now readAt fuelType)) := by
  refine not_queries_call nofun id fun total => ?_
  refine not_queries_call nofun id fun _ => ?_
  rintro (hquery | ⟨hexecute, -⟩)
  · cases hquery
  · cases hexecute

variable {imei : String} {fuelType : Option String}

theorem shaped_start {body : StartFuelCalibrationRequest}
    (hfuel : normalizeOptionalFuelType body.fuelType = .ok fuelType) (now readAt : ℤ) :
    Shaped (FuelCall.kind hashtext otherKind) (some (hashtext imei))
      (sent answer (startFuelCalibration (K := K) answer summarize imei body now readAt)) ∧
    ¬ MayQuery (FuelCall.kind hashtext otherKind)
      (sent answer (startFuelCalibration (K := K) answer summarize imei body now readAt)) := by
  simp only [startFuelCalibration, hfuel]
  constructor
  · refine .locking rfl trivial fun _ => ⟨rfl, id, fun _ => ?_⟩
    refine locked_call (.inr rfl) trivial fun deviceExists => ?_
    cases deviceExists with
    | false => trivial
    | true =>
        refine locked_call (.inr rfl) trivial fun activeExists => ?_
        cases activeExists with
        | true => trivial
        | false => exact locked_insertAndLoad answer summarize hashtext otherKind imei now readAt _
  · rintro ⟨_, _, hqueries⟩
    revert hqueries
    refine not_queries_call nofun id fun deviceExists => ?_
    cases deviceExists with
    | false => exact id
    | true =>
        refine not_queries_call nofun id fun activeExists => ?_
        cases activeExists with
        | true => exact id
        | false =>
            exact not_queries_insertAndLoad answer summarize hashtext otherKind imei now readAt _

theorem shaped_restart {body : StartFuelCalibrationRequest}
    (hfuel : normalizeOptionalFuelType body.fuelType = .ok fuelType) (now readAt : ℤ) :
    Shaped (FuelCall.kind hashtext otherKind) (some (hashtext imei))
      (sent answer (restartFuelCalibration (K := K) answer summarize imei body now readAt)) ∧
    ¬ MayQuery (FuelCall.kind hashtext otherKind)
      (sent answer (restartFuelCalibration (K := K) answer summarize imei body now readAt)) := by
  simp only [restartFuelCalibration, hfuel]
  constructor
  · refine .locking rfl trivial fun _ => ⟨rfl, id, fun _ => ?_⟩
    refine locked_call (.inr rfl) trivial fun deviceExists => ?_
    cases deviceExists with
    | false => trivial
    | true =>
        refine locked_call (.inr rfl) trivial fun _ => ?_
        exact locked_insertAndLoad answer summarize hashtext otherKind imei now readAt _
  · rintro ⟨_, _, hqueries⟩
    revert hqueries
    refine not_queries_call nofun id fun deviceExists => ?_
    cases deviceExists with
    | false => exact id
    | true =>
        refine not_queries_call nofun id fun _ => ?_
        exact not_queries_insertAndLoad answer summarize hashtext otherKind imei now readAt _

/-- Between its lock and its commit the completion sends queries to the pool. -/
theorem shaped_complete {body : CompleteFuelCalibrationRequest} {refuel : AcceptedRefuel}
    (hrefuel : validateCompleteFuelCalibration body = .ok refuel)
    (hfuel : normalizeOptionalFuelType body.fuelType = .ok fuelType) (calibrationId : ℕ)
    (completedAt readAt : ℤ) :
    Shaped (FuelCall.kind hashtext otherKind) (some (hashtext imei))
      (sent answer (completeFuelCalibration (K := K) answer summarize imei calibrationId body
        completedAt readAt)) ∧
    MayQuery (FuelCall.kind hashtext otherKind)
      (sent answer (completeFuelCalibration (K := K) answer summarize imei calibrationId body
        completedAt readAt)) := by
  simp only [completeFuelCalibration, hrefuel, hfuel]
  constructor
  · refine .locking rfl trivial fun _ => ⟨rfl, id, fun _ => ?_⟩
    refine locked_call (.inr rfl) trivial fun found => ?_
    cases found with
    | none => trivial
    | some calibration =>
        refine locked_call (.inr rfl) trivial fun total => ?_
        refine locked_call (.inl rfl) trivial fun points => ?_
        refine locked_call (.inl rfl) trivial fun sessions => ?_
        refine locked_call (.inr rfl) trivial fun _ => ?_
        refine locked_commit rfl trivial fun _ => ?_
        exact plain_load answer summarize hashtext otherKind imei readAt
  · exact ⟨(), (), .inr ⟨rfl, some (some ⟨0, 0, none⟩), .inr ⟨rfl, some none, .inl rfl⟩⟩⟩

end Shapes

/-! ### The requests of a pool -/

section Requests

open Pools

variable (hashtext : String → ℤ) (otherKind : σ → Kind ℤ)

/-- A request to the pool: of the four on calibrations, or another that takes no advisory lock. -/
inductive PoolRequest (K : Type) [Field K] [LinearOrder K] {σ : Type} (answer : σ → Type)
    (hashtext : String → ℤ) (otherKind : σ → Kind ℤ) where
  | startFuelCalibration (imei : String) (body : StartFuelCalibrationRequest) (now readAt : ℤ)
  | restartFuelCalibration (imei : String) (body : StartFuelCalibrationRequest) (now readAt : ℤ)
  | completeFuelCalibration (imei : String) (calibrationId : ℕ)
      (body : CompleteFuelCalibrationRequest) (completedAt readAt : ℤ)
  | getDeviceFuelCalibrations (imei : String) (now : ℤ)
  | other (job : Job (FuelCall K σ) (FuelCall.Reply answer) (FuelCall.kind hashtext otherKind))
      (hkey : job.key = none)

/-- The body passes the checks before the transaction. -/
def StartAccepted (body : StartFuelCalibrationRequest) : Bool :=
  (normalizeOptionalFuelType body.fuelType).toOption.isSome

def CompleteAccepted (body : CompleteFuelCalibrationRequest) : Bool :=
  (validateCompleteFuelCalibration body).toOption.isSome &&
    (normalizeOptionalFuelType body.fuelType).toOption.isSome

namespace PoolRequest

variable {hashtext otherKind}

/-- The key of the advisory lock of a request that comes to its transaction. -/
def lockKey : PoolRequest K answer hashtext otherKind → Option ℤ
  | .startFuelCalibration imei body _ _ => if StartAccepted body then some (hashtext imei) else none
  | .restartFuelCalibration imei body _ _ =>
      if StartAccepted body then some (hashtext imei) else none
  | .completeFuelCalibration imei _ body _ _ =>
      if CompleteAccepted body then some (hashtext imei) else none
  | .getDeviceFuelCalibrations _ _ => none
  | .other _ _ => none

/-- The request is to complete a calibration. -/
def completes : PoolRequest K answer hashtext otherKind → Bool
  | .completeFuelCalibration _ _ _ _ _ => true
  | _ => false

variable (summarize : List RidePoint → RideSummary)

/-- The program of a request. -/
def prog : PoolRequest K answer hashtext otherKind → FuelProg K answer Unit
  | .startFuelCalibration imei body now readAt =>
      sent answer (FuelEndpoints.startFuelCalibration answer summarize imei body now readAt)
  | .restartFuelCalibration imei body now readAt =>
      sent answer (FuelEndpoints.restartFuelCalibration answer summarize imei body now readAt)
  | .completeFuelCalibration imei calibrationId body completedAt readAt =>
      sent answer (FuelEndpoints.completeFuelCalibration answer summarize imei calibrationId body
        completedAt readAt)
  | .getDeviceFuelCalibrations imei now =>
      sent answer (loadDeviceFuelCalibrations answer summarize imei now)
  | .other job _ => job.prog

/-- **The shape of a request**: it is a job on the lock of its key, and sends queries in its
transaction only to complete a calibration. -/
theorem shaped (request : PoolRequest K answer hashtext otherKind) :
    Shaped (FuelCall.kind hashtext otherKind) request.lockKey (request.prog summarize) ∧
      ∀ key, request.lockKey = some key →
        (MayQuery (FuelCall.kind hashtext otherKind) (request.prog summarize) ↔
          request.completes = true) := by
  cases request with
  | startFuelCalibration imei body now readAt =>
      cases hfuel : normalizeOptionalFuelType body.fuelType with
      | error error =>
          simp only [lockKey, StartAccepted, prog, FuelEndpoints.startFuelCalibration, hfuel]
          exact ⟨.plain trivial, nofun⟩
      | ok fuelType =>
          simp only [lockKey, StartAccepted, hfuel]
          obtain ⟨hshaped, hmay⟩ :=
            shaped_start (K := K) answer summarize hashtext otherKind hfuel now readAt
          exact ⟨hshaped, fun _ _ => iff_of_false hmay nofun⟩
  | restartFuelCalibration imei body now readAt =>
      cases hfuel : normalizeOptionalFuelType body.fuelType with
      | error error =>
          simp only [lockKey, StartAccepted, prog, FuelEndpoints.restartFuelCalibration, hfuel]
          exact ⟨.plain trivial, nofun⟩
      | ok fuelType =>
          simp only [lockKey, StartAccepted, hfuel]
          obtain ⟨hshaped, hmay⟩ :=
            shaped_restart (K := K) answer summarize hashtext otherKind hfuel now readAt
          exact ⟨hshaped, fun _ _ => iff_of_false hmay nofun⟩
  | completeFuelCalibration imei calibrationId body completedAt readAt =>
      cases hrefuel : validateCompleteFuelCalibration body with
      | error error =>
          simp only [lockKey, CompleteAccepted, prog, FuelEndpoints.completeFuelCalibration,
            hrefuel]
          exact ⟨.plain trivial, nofun⟩
      | ok refuel =>
          cases hfuel : normalizeOptionalFuelType body.fuelType with
          | error error =>
              simp only [lockKey, CompleteAccepted, prog, FuelEndpoints.completeFuelCalibration,
                hrefuel, hfuel]
              exact ⟨.plain trivial, nofun⟩
          | ok fuelType =>
              simp only [lockKey, CompleteAccepted, hrefuel, hfuel]
              obtain ⟨hshaped, hmay⟩ := shaped_complete (K := K) answer summarize hashtext otherKind
                hrefuel hfuel calibrationId completedAt readAt
              exact ⟨hshaped, fun _ _ => iff_of_true hmay rfl⟩
  | getDeviceFuelCalibrations imei now =>
      exact ⟨.plain (plain_load answer summarize hashtext otherKind imei now), nofun⟩
  | other job hkey =>
      have hshaped := job.shaped
      rw [hkey] at hshaped
      exact ⟨hshaped, nofun⟩

def job (request : PoolRequest K answer hashtext otherKind) :
    Job (FuelCall K σ) (FuelCall.Reply answer) (FuelCall.kind hashtext otherKind) :=
  ⟨request.prog summarize, request.lockKey, (request.shaped summarize).1⟩

end PoolRequest

variable {hashtext otherKind} {ι : Type} [Fintype ι] (summarize : List RidePoint → RideSummary)

/-- The request takes a lock that is also that of a request to complete a calibration. -/
def Crowds (requests : ι → PoolRequest K answer hashtext otherKind) (t : ι) : Prop :=
  (requests t).lockKey.isSome ∧
    ∃ u, (requests u).completes = true ∧ (requests u).lockKey = (requests t).lockKey

instance decidableCrowds (requests : ι → PoolRequest K answer hashtext otherKind) :
    DecidablePred (Crowds requests) := fun t =>
  inferInstanceAs (Decidable ((requests t).lockKey.isSome ∧
    ∃ u, (requests u).completes = true ∧ (requests u).lockKey = (requests t).lockKey))

omit [Fintype ι] in
/-- Who can be caught in a circle. -/
theorem contends_iff {requests : ι → PoolRequest K answer hashtext otherKind} {t : ι} :
    Contends (fun t => (requests t).job summarize) t ↔ Crowds requests t := by
  constructor
  · rintro ⟨key, hkey, u, hu, hmay⟩
    refine ⟨Option.isSome_iff_exists.2 ⟨key, hkey⟩, u, ?_, hu.trans hkey.symm⟩
    exact (((requests u).shaped summarize).2 key hu).1 hmay
  · rintro ⟨hsome, u, hcompletes, hu⟩
    obtain ⟨key, hkey⟩ := Option.isSome_iff_exists.1 hsome
    refine ⟨key, hkey, u, hu.trans hkey, ?_⟩
    exact (((requests u).shaped summarize).2 key (hu.trans hkey)).2 hcompletes

theorem demand_eq (requests : ι → PoolRequest K answer hashtext otherKind) :
    demand (fun t => (requests t).job summarize) =
      (Finset.univ.filter (Crowds requests)).card := by
  rw [demand]
  congr 1
  ext t
  simp only [Finset.mem_filter, contends_iff]

instance nonempty_reply [∀ statement, Nonempty (answer statement)] (call : FuelCall K σ) :
    Nonempty (FuelCall.Reply answer call) := by
  cases call <;> infer_instance

end Requests

end FuelEndpoints

open FuelEndpoints in
/-- **When the pool suffices**: whatever the requests to the pool have come to, in whatever order
their statements have run and whichever have been refused, all of them can be served to the end
without a connection refused, exactly when fewer requests than there are connections take a lock
that is also that of a request to complete a calibration.  Otherwise some order ends with all
connections waiting for one another. -/
theorem fuel_requests_fit_pool_iff {K σ ι : Type} [Field K] [LinearOrder K] [Fintype ι]
    [DecidableEq ι] {answer : σ → Type} [∀ statement, Nonempty (answer statement)]
    {hashtext : String → ℤ} {otherKind : σ → Pools.Kind ℤ}
    (summarize : List RidePoint → RideSummary)
    (requests : ι → PoolRequest K answer hashtext otherKind) {connections : ℕ}
    (hpos : 0 < connections) :
    (∀ s, Relation.ReflTransGen (Pools.Step (FuelCall.kind hashtext otherKind) connections)
        (fun t => ((requests t).job summarize).start) s →
      ∃ s', Relation.ReflTransGen (Pools.Serve (FuelCall.kind hashtext otherKind) connections)
        s s' ∧ Pools.AtRest s') ↔
      (Finset.univ.filter (Crowds requests)).card < connections := by
  rw [← demand_eq summarize requests]
  exact Pools.suffices_iff hpos

/-- Two requests to complete a calibration of one device. -/
def twoCompletions (_ : Bool) :
    FuelEndpoints.PoolRequest ℚ (fun _ : Empty => Unit) (fun imei => imei.length) Empty.elim :=
  .completeFuelCalibration "866221070478388" 1
    ⟨.finite false (3 * unitsPerOne), some 30000, none, true, true⟩ 20 21

/-- They do not fit a pool of two connections. -/
theorem fuel_requests_fit_pool_iff_twoCompletions :
    ¬ ∀ s, Relation.ReflTransGen
        (Pools.Step (FuelCall.kind (fun imei => imei.length) Empty.elim) 2)
        (fun t => ((twoCompletions t).job fun _ => ⟨0, 0⟩).start) s →
      ∃ s', Relation.ReflTransGen
        (Pools.Serve (FuelCall.kind (fun imei => imei.length) Empty.elim) 2) s s' ∧
          Pools.AtRest s' := by
  have hcard : (Finset.univ.filter (FuelEndpoints.Crowds twoCompletions)).card = 2 := by
    decide +kernel
  intro hall
  have hlt := (fuel_requests_fit_pool_iff (fun _ => ⟨0, 0⟩) twoCompletions (by decide)).1 hall
  rw [hcard] at hlt
  exact absurd hlt (by decide)

end Gt06
