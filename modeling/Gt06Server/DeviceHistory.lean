/-
**Reports of one device on several connections.**

The transaction of an event reads the clock, then takes the lock of the device's row with its
upsert, and then is given the number of its row in the history.  A tracker that reconnects has two
connections for a while, and the transactions of the two may stand at any two places: the one that
has read the clock first need not be the first to get the lock.

The two histories are one list here, in the order of the commits, and each has its own numbers,
which are used up also by a transaction that is rolled back.  The statements that count the
distance of a location are in `ServiceDistance`.

Main definitions:

* `Gt06.EventThread` — where a transaction stands;
* `Gt06.DeviceHistory`, `Gt06.DeviceHistory.step` — any number of transactions over one store;
* `Gt06.DeviceHistory.InOrder` — the numbers of a device's rows go the way of their times;
* `Gt06.DeviceHistory.CommitsInOrder`, `Gt06.DeviceHistory.DeviceCommitsInOrder` — the locks of all
  devices, or of one, are taken in the order of the times, by the transactions that commit.

Main results:

* `Gt06.DeviceHistory.lockInv_step` — what a transaction that holds a lock may rely on;
* `Gt06.DeviceHistory.orderInv_step` — what a commit in order preserves;
* `Gt06.DeviceHistory.inOrderThroughout_iff`, `Gt06.deviceHistory_inOrder_iff` — **the history of a
  device is in order exactly when its locks are taken in the order of the times.**
-/

import Mathlib
import Gt06Server.Await
import Gt06Server.DeviceSnapshots
import Gt06Server.RowLocks

set_option relaxedAutoImplicit false
set_option autoImplicit false

namespace Gt06

open Await RowLocks

/-! ### Transactions -/

inductive HistoryKind where
  | location
  | heartbeat
  deriving DecidableEq, Repr

/-- A row of `device_locations` or `device_heartbeats`. -/
inductive HistoryRow where
  | location (row : LocationRow)
  | heartbeat (row : HeartbeatRow)

namespace HistoryRow

def kind : HistoryRow → HistoryKind
  | .location _ => .location
  | .heartbeat _ => .heartbeat

def id : HistoryRow → ℕ
  | .location row => row.id
  | .heartbeat row => row.id

def imei : HistoryRow → String
  | .location row => row.imei
  | .heartbeat row => row.imei

def serverReceivedAt : HistoryRow → ℤ
  | .location row => row.serverReceivedAt
  | .heartbeat row => row.serverReceivedAt

end HistoryRow

/-- An event of a known device, and the reading of the clock that it counts as received at. -/
structure Receipt where
  event : DeviceEvent
  imei : String
  receivedAt : ℤ

/-- The device an event is about, if the connection knows it. -/
def DeviceEvent.device : DeviceEvent → Option String
  | .login _ imei _ => some imei
  | .heartbeat _ deviceId _ => deviceId
  | .location _ deviceId _ => deviceId

/-- Where a transaction stands: what it has done, with the `last_seen_at` its upsert has replaced
and the row it has inserted. -/
inductive EventThread where
  | idle
  | received (receipt : Receipt)
  | seen (receipt : Receipt) (found : Option ℤ) (deviceId : ℕ)
  | inserted (receipt : Receipt) (found : Option ℤ) (row : HistoryRow)
  | finished (receipt : Receipt) (found : Option ℤ) (row : Option HistoryRow)

/-- The store of `devices`, the committed rows of the histories, the sequences, the clock in
nanoseconds, and the transactions. -/
structure DeviceHistory where
  store : Store String ℕ fun _ => DeviceRow
  rows : List HistoryRow
  lastDeviceId : ℕ
  lastId : HistoryKind → ℕ
  clock : ℤ
  threads : ℕ → EventThread

/-- What may happen next: time passes, a connection reports an event, a transaction runs its next
statement, or it is rolled back. -/
inductive HistoryEvent where
  | tick (nanos : ℕ)
  | receive (thread : ℕ) (event : DeviceEvent)
  | advance (thread : ℕ)
  | rollback (thread : ℕ)

namespace DeviceHistory

/-- Nothing has been reported. -/
def start (clock : ℤ) : DeviceHistory where
  store := ⟨fun _ => none, fun _ => none⟩
  rows := []
  lastDeviceId := 0
  lastId := fun _ => 0
  clock := clock
  threads := fun _ => .idle

variable (s : DeviceHistory)

def setThread (t : ℕ) (thread : EventThread) : DeviceHistory :=
  { s with threads := Function.update s.threads t thread }

/-- `last_seen_at` of a device, for everybody to see. -/
def lastSeenAt (imei : String) : Option ℤ := (s.store.committed imei).map DeviceRow.lastSeenAt

/-- The committed heartbeats. -/
def heartbeats : List HeartbeatRow :=
  s.rows.filterMap fun
    | .heartbeat row => some row
    | .location _ => none

/-- The upsert a transaction begins with. -/
def upsertRow (receipt : Receipt) : Option DeviceRow → DeviceRow :=
  match receipt.event with
  | .login peerAddr _ _ =>
      loginRow (s.lastDeviceId + 1) receipt.imei peerAddr receipt.receivedAt
  | .heartbeat peerAddr _ _ =>
      seenRow (s.lastDeviceId + 1) receipt.imei peerAddr receipt.receivedAt
  | .location peerAddr _ _ =>
      seenRow (s.lastDeviceId + 1) receipt.imei peerAddr receipt.receivedAt

/-- The row the transaction inserts, with the next number of its history; a login has none. -/
def newRow (receipt : Receipt) (deviceId : ℕ) : Option HistoryRow :=
  match receipt.event with
  | .login _ _ _ => none
  | .heartbeat peerAddr _ packet =>
      some (.heartbeat (heartbeatRow (s.lastId .heartbeat + 1) deviceId receipt.imei peerAddr
        receipt.receivedAt (fetchPreviousAccHigh s.heartbeats receipt.imei) packet))
  | .location peerAddr _ packet =>
      some (.location (locationRow (s.lastId .location + 1) deviceId receipt.imei peerAddr
        receipt.receivedAt s.clock packet))

/-- The update of the device's columns that the transaction ends with. -/
def updateRow (receipt : Receipt) (device : DeviceRow) : DeviceRow :=
  match receipt.event with
  | .login _ _ _ => device
  | .heartbeat peerAddr _ packet =>
      device.latestHeartbeat peerAddr receipt.receivedAt
        (fetchPreviousAccHigh s.heartbeats receipt.imei) packet
  | .location peerAddr _ packet =>
      device.latestLocation peerAddr receipt.receivedAt s.clock packet

/-- The transaction after its upsert. -/
def afterUpsert (receipt : Receipt) (found : Option ℤ) (device : DeviceRow) : EventThread :=
  match receipt.event with
  | .login _ _ _ => .finished receipt found none
  | .heartbeat _ _ _ => .seen receipt found device.id
  | .location _ _ _ => .seen receipt found device.id

/-- The next statement of a transaction, if it does not have to wait. -/
def advance (t : ℕ) : Option DeviceHistory :=
  match s.threads t with
  | .idle => none
  | .received receipt => do
      let (device, store) ← s.store.upsert t receipt.imei (s.upsertRow receipt)
      let found := (s.store.view t receipt.imei).map DeviceRow.lastSeenAt
      return { s.setThread t (afterUpsert receipt found device) with
        store := store
        lastDeviceId := s.lastDeviceId + 1 }
  | .seen receipt found deviceId => do
      let row ← s.newRow receipt deviceId
      return { s.setThread t (.inserted receipt found row) with
        lastId := Function.update s.lastId row.kind (s.lastId row.kind + 1) }
  | .inserted receipt found row => do
      let store ← s.store.update t receipt.imei (s.updateRow receipt)
      return { s.setThread t (.finished receipt found (some row)) with store := store }
  | .finished _ _ row =>
      some { s.setThread t .idle with
        store := s.store.commit t
        rows := s.rows ++ row.toList }

def step : HistoryEvent → Option DeviceHistory
  | .tick nanos => some { s with clock := s.clock + nanos }
  | .receive t event =>
      match s.threads t, event.device with
      | .idle, some imei => some (s.setThread t (.received ⟨event, imei, s.clock⟩))
      | _, _ => none
  | .advance t => s.advance t
  | .rollback t => some { s.setThread t .idle with store := s.store.rollback t }

/-! ### What is asked of a history -/

/-- The numbers of a device's rows go the way of their times, in either history. -/
def InOrder (imei : String) : Prop :=
  ∀ row ∈ s.rows, ∀ row' ∈ s.rows, row.imei = imei → row'.imei = imei → row.kind = row'.kind →
    row.id < row'.id → row.serverReceivedAt ≤ row'.serverReceivedAt

instance (imei : String) : Decidable (s.InOrder imei) :=
  inferInstanceAs (Decidable (∀ row ∈ s.rows, ∀ row' ∈ s.rows, row.imei = imei → row'.imei = imei →
    row.kind = row'.kind → row.id < row'.id → row.serverReceivedAt ≤ row'.serverReceivedAt))

/-- `last_seen_at` of a device does not decrease. -/
def SeenGrows (imei : String) (s s' : DeviceHistory) : Prop :=
  ∀ seenAt ∈ s.lastSeenAt imei, ∃ seenAt' ∈ s'.lastSeenAt imei, seenAt ≤ seenAt'

/-- A transaction commits only if the `last_seen_at` it found when it took the lock is no later than
its own time: of the transactions that commit, none gets the lock after one with a later time. -/
def CommitsInOrder : HistoryEvent → Prop
  | .advance t =>
      match s.threads t with
      | .finished receipt found _ => ∀ seenAt ∈ found, seenAt ≤ storedMicros receipt.receivedAt
      | _ => True
  | _ => True

/-- The same of the transactions of one device. -/
def DeviceCommitsInOrder (imei : String) : HistoryEvent → Prop
  | .advance t =>
      match s.threads t with
      | .finished receipt found _ =>
          receipt.imei = imei → ∀ seenAt ∈ found, seenAt ≤ storedMicros receipt.receivedAt
      | _ => True
  | _ => True

/-! ### What a transaction holds -/

/-- The transaction holds the row of its device and nothing else, with its own time in it, and the
time it has found there is still the committed one. -/
structure Holds (t : ℕ) (receipt : Receipt) (found : Option ℤ) : Prop where
  held : ∃ device, s.store.held receipt.imei = some (t, device) ∧
    device.lastSeenAt = storedMicros receipt.receivedAt
  only : ∀ k device, s.store.held k = some (t, device) → k = receipt.imei
  found_eq : found = s.lastSeenAt receipt.imei

/-- A row that is not committed yet: its number is above those of the device's committed rows. -/
structure Pending (receipt : Receipt) (row : HistoryRow) : Prop where
  imei : row.imei = receipt.imei
  serverReceivedAt : row.serverReceivedAt = storedMicros receipt.receivedAt
  id_le : row.id ≤ s.lastId row.kind
  above : ∀ old ∈ s.rows, old.imei = receipt.imei → old.kind = row.kind → old.id < row.id

/-- What a transaction may rely on where it stands. -/
def ThreadInv (t : ℕ) : Prop :=
  match s.threads t with
  | .idle => ∀ k device, s.store.held k ≠ some (t, device)
  | .received _ => ∀ k device, s.store.held k ≠ some (t, device)
  | .seen receipt found _ => s.Holds t receipt found
  | .inserted receipt found row => s.Holds t receipt found ∧ s.Pending receipt row
  | .finished receipt found row => s.Holds t receipt found ∧ ∀ new ∈ row, s.Pending receipt new

/-- The invariant of the locks. -/
structure LockInv : Prop where
  threads : ∀ t, s.ThreadInv t
  ids : ∀ row ∈ s.rows, row.id ≤ s.lastId row.kind

section Frame

variable {s} {s' : DeviceHistory} {u : ℕ}

/-- What the others leave to a transaction: what it holds, the committed version of it, and the
committed rows of its device. -/
structure Leaves (u : ℕ) (s s' : DeviceHistory) : Prop where
  thread : s'.threads u = s.threads u
  held : ∀ k (device : DeviceRow),
    s'.store.held k = some (u, device) ↔ s.store.held k = some (u, device)
  committed : ∀ k device, s.store.held k = some (u, device) →
    s'.store.committed k = s.store.committed k
  rows : ∀ k device, s.store.held k = some (u, device) →
    ∀ row ∈ s'.rows, row.imei = k → row ∈ s.rows
  lastId : ∀ kind, s.lastId kind ≤ s'.lastId kind

theorem Holds.frame {receipt : Receipt} {found : Option ℤ} (h : s.Holds u receipt found)
    (hleaves : Leaves u s s') : s'.Holds u receipt found := by
  obtain ⟨device, hheld, hseen⟩ := h.held
  refine ⟨⟨device, (hleaves.held _ _).2 hheld, hseen⟩, ?_, ?_⟩
  · intro k other hother
    exact h.only k other ((hleaves.held k other).1 hother)
  · rw [h.found_eq, lastSeenAt, lastSeenAt, hleaves.committed _ device hheld]

theorem Pending.frame {receipt : Receipt} {found : Option ℤ} {row : HistoryRow}
    (h : s.Pending receipt row) (hholds : s.Holds u receipt found) (hleaves : Leaves u s s') :
    s'.Pending receipt row := by
  obtain ⟨device, hheld, -⟩ := hholds.held
  refine ⟨h.imei, h.serverReceivedAt, h.id_le.trans (hleaves.lastId _), ?_⟩
  intro old hold himei hkind
  exact h.above old (hleaves.rows _ device hheld old hold himei) himei hkind

/-- A transaction that is left alone may rely on the same. -/
theorem ThreadInv.frame (h : s.ThreadInv u) (hleaves : Leaves u s s') : s'.ThreadInv u := by
  unfold ThreadInv at h ⊢
  rw [hleaves.thread]
  cases hthread : s.threads u with
  | idle =>
      rw [hthread] at h
      exact fun k device hheld => h k device ((hleaves.held k device).1 hheld)
  | received receipt =>
      rw [hthread] at h
      exact fun k device hheld => h k device ((hleaves.held k device).1 hheld)
  | seen receipt found deviceId =>
      rw [hthread] at h
      exact h.frame hleaves
  | inserted receipt found row =>
      rw [hthread] at h
      exact ⟨h.1.frame hleaves, h.2.frame h.1 hleaves⟩
  | finished receipt found row =>
      rw [hthread] at h
      exact ⟨h.1.frame hleaves, fun new hnew => (h.2 new hnew).frame h.1 hleaves⟩

/-- A statement of another transaction that does not commit leaves a transaction alone. -/
theorem leaves_of_writes {t : ℕ} {k : String} (hne : u ≠ t)
    (hwrites : Store.Writes s.store t k s'.store) (hthread : s'.threads u = s.threads u)
    (hrows : s'.rows = s.rows) (hids : ∀ kind, s.lastId kind ≤ s'.lastId kind) :
    Leaves u s s' where
  thread := hthread
  held := fun l device => hwrites.held_iff u l device hne
  committed := fun l _ _ => congrFun hwrites.committed l
  rows := fun _ _ _ _ hrow _ => hrows ▸ hrow
  lastId := hids

end Frame

/-! ### What each statement does -/

section Statements

variable {s} {s' : DeviceHistory} {t : ℕ} {receipt : Receipt} {found : Option ℤ}

/-- Every upsert of a transaction writes its time. -/
theorem lastSeenAt_upsertRow (device : Option DeviceRow) :
    (s.upsertRow receipt device).lastSeenAt = storedMicros receipt.receivedAt := by
  unfold upsertRow
  cases receipt.event with
  | login peerAddr imei serial =>
      cases device with
      | none => rfl
      | some row => rfl
  | heartbeat peerAddr deviceId packet =>
      cases device with
      | none => rfl
      | some row => rfl
  | location peerAddr deviceId packet =>
      cases device with
      | none => rfl
      | some row => rfl

/-- So does its last update. -/
theorem lastSeenAt_updateRow {device : DeviceRow}
    (h : device.lastSeenAt = storedMicros receipt.receivedAt) :
    (s.updateRow receipt device).lastSeenAt = storedMicros receipt.receivedAt := by
  unfold updateRow
  cases receipt.event with
  | login peerAddr imei serial => exact h
  | heartbeat peerAddr deviceId packet => rfl
  | location peerAddr deviceId packet => rfl

/-- The row of the history is one of the device, with the time of the transaction and the next
number. -/
theorem newRow_eq_some {deviceId : ℕ} {row : HistoryRow}
    (h : s.newRow receipt deviceId = some row) :
    row.imei = receipt.imei ∧ row.serverReceivedAt = storedMicros receipt.receivedAt ∧
      row.id = s.lastId row.kind + 1 := by
  unfold newRow at h
  cases hevent : receipt.event with
  | login peerAddr imei serial =>
      rw [hevent] at h
      cases h
  | heartbeat peerAddr deviceId packet =>
      rw [hevent] at h
      cases h
      exact ⟨rfl, rfl, rfl⟩
  | location peerAddr deviceId packet =>
      rw [hevent] at h
      cases h
      exact ⟨rfl, rfl, rfl⟩

@[simp] theorem threads_setThread_self (thread : EventThread) :
    (s.setThread t thread).threads t = thread := Function.update_self ..

theorem threads_setThread_of_ne {u : ℕ} (hne : u ≠ t) (thread : EventThread) :
    (s.setThread t thread).threads u = s.threads u := Function.update_of_ne hne ..

/-- The upsert: the transaction holds the row of the device, with its time in it. -/
theorem LockInv.received (h : s.LockInv) (hthread : s.threads t = .received receipt)
    (hstep : s.advance t = some s') : s'.LockInv := by
  have hnone : ∀ k device, s.store.held k ≠ some (t, device) := by
    have hinv := h.threads t
    rw [ThreadInv, hthread] at hinv
    exact hinv
  simp only [advance, hthread] at hstep
  obtain ⟨⟨device, store⟩, hupsert, hs'⟩ := Option.bind_eq_some_iff.1 hstep
  obtain ⟨hdevice, hwrites, hheld, -⟩ := Store.upsert_eq_some hupsert
  cases hs'
  have hholds : ∀ thread, ({ s.setThread t thread with
      store := store
      lastDeviceId := s.lastDeviceId + 1 } : DeviceHistory).Holds t receipt
        ((s.store.view t receipt.imei).map DeviceRow.lastSeenAt) := by
    intro thread
    refine ⟨⟨device, hheld, hdevice ▸ lastSeenAt_upsertRow _⟩, ?_, ?_⟩
    · intro k other hother
      by_contra hne
      rw [hwrites.held_of_ne k hne] at hother
      exact hnone k other hother
    · rw [Store.view_of_not_held (hnone receipt.imei), lastSeenAt, hwrites.committed]
  refine ⟨fun u => ?_, h.ids⟩
  by_cases hu : u = t
  · subst hu
    unfold ThreadInv
    simp only [threads_setThread_self, afterUpsert]
    cases receipt.event with
    | login peerAddr imei serial => exact ⟨hholds _, by simp⟩
    | heartbeat peerAddr deviceId packet => exact hholds _
    | location peerAddr deviceId packet => exact hholds _
  · refine (h.threads u).frame (leaves_of_writes hu hwrites ?_ rfl fun _ => le_rfl)
    exact threads_setThread_of_ne hu _

/-- The insert: the row is given the next number, which is above all numbers in use. -/
theorem LockInv.seen {deviceId : ℕ} (h : s.LockInv)
    (hthread : s.threads t = .seen receipt found deviceId) (hstep : s.advance t = some s') :
    s'.LockInv := by
  have hholds : s.Holds t receipt found := by
    have hinv := h.threads t
    rw [ThreadInv, hthread] at hinv
    exact hinv
  simp only [advance, hthread] at hstep
  obtain ⟨row, hrow, hs'⟩ := Option.bind_eq_some_iff.1 hstep
  obtain ⟨himei, hreceived, hid⟩ := newRow_eq_some hrow
  cases hs'
  have hgrows : ∀ kind, s.lastId kind ≤
      Function.update s.lastId row.kind (s.lastId row.kind + 1) kind := by
    intro kind
    by_cases hkind : kind = row.kind
    · rw [hkind, Function.update_self]
      exact Nat.le_succ _
    · rw [Function.update_of_ne hkind]
  refine ⟨fun u => ?_, fun old hold => (h.ids old hold).trans (hgrows _)⟩
  by_cases hu : u = t
  · subst hu
    unfold ThreadInv
    simp only [threads_setThread_self]
    refine ⟨⟨hholds.held, hholds.only, hholds.found_eq⟩, himei, hreceived, ?_, ?_⟩
    · change row.id ≤ Function.update s.lastId row.kind (s.lastId row.kind + 1) row.kind
      rw [hid, Function.update_self]
    · intro old hold _ hkind
      have hle := h.ids old hold
      rw [hkind] at hle
      rw [hid]
      exact Nat.lt_succ_of_le hle
  · refine (h.threads u).frame ?_
    exact leaves_of_writes hu (Store.Writes.refl _ t receipt.imei) (threads_setThread_of_ne hu _)
      rfl hgrows

/-- The update: the transaction still holds the row, with its time in it. -/
theorem LockInv.inserted {row : HistoryRow} (h : s.LockInv)
    (hthread : s.threads t = .inserted receipt found row) (hstep : s.advance t = some s') :
    s'.LockInv := by
  have hinv : s.Holds t receipt found ∧ s.Pending receipt row := by
    have hinv := h.threads t
    rw [ThreadInv, hthread] at hinv
    exact hinv
  obtain ⟨⟨⟨device, hheld, hseen⟩, honly, hfound⟩, hpending⟩ := hinv
  simp only [advance, hthread] at hstep
  obtain ⟨store, hupdate, hs'⟩ := Option.bind_eq_some_iff.1 hstep
  have hwrites := Store.update_eq_some hupdate
  rw [Store.update_of_held hheld, Option.some_inj] at hupdate
  cases hs'
  refine ⟨fun u => ?_, h.ids⟩
  by_cases hu : u = t
  · subst hu
    unfold ThreadInv
    simp only [threads_setThread_self]
    refine ⟨⟨⟨s.updateRow receipt device, ?_, lastSeenAt_updateRow hseen⟩, ?_, ?_⟩, ?_⟩
    · rw [← hupdate]
      exact Store.held_hold_self
    · intro k other hother
      by_contra hne
      rw [hwrites.held_of_ne k hne] at hother
      exact hne (honly k other hother)
    · rw [hfound, lastSeenAt, lastSeenAt, hwrites.committed]
    · rintro new ⟨⟩
      exact ⟨hpending.imei, hpending.serverReceivedAt, hpending.id_le, hpending.above⟩
  · refine (h.threads u).frame ?_
    exact leaves_of_writes hu hwrites (threads_setThread_of_ne hu _) rfl fun _ => le_rfl

/-- The commit: what the others hold is of other devices. -/
theorem LockInv.finished {row : Option HistoryRow} (h : s.LockInv)
    (hthread : s.threads t = .finished receipt found row) (hstep : s.advance t = some s') :
    s'.LockInv := by
  have hinv : s.Holds t receipt found ∧ ∀ new ∈ row, s.Pending receipt new := by
    have hinv := h.threads t
    rw [ThreadInv, hthread] at hinv
    exact hinv
  obtain ⟨hholds, hpending⟩ := hinv
  simp only [advance, hthread, Option.some_inj] at hstep
  subst hstep
  refine ⟨fun u => ?_, ?_⟩
  · by_cases hu : u = t
    · subst hu
      unfold ThreadInv
      simp only [threads_setThread_self]
      exact fun k device => Store.held_commit_self
    · refine (h.threads u).frame
        { thread := threads_setThread_of_ne hu _
          held := fun k device => Store.held_commit_of_ne hu
          committed := ?_
          rows := ?_
          lastId := fun _ => le_rfl }
      · intro k device hheld
        refine Store.committed_commit_of_ne fun other hother => ?_
        rw [hheld, Option.some_inj, Prod.mk.injEq] at hother
        exact hu hother.1
      · intro k device hheld new hnew himei
        rcases List.mem_append.1 hnew with hnew | hnew
        · exact hnew
        · -- the new row is of the device the transaction holds
          have hown := (hpending new (by simpa using hnew)).imei
          obtain ⟨own, hownHeld, -⟩ := hholds.held
          rw [← hown, himei, hheld, Option.some_inj, Prod.mk.injEq] at hownHeld
          exact absurd hownHeld.1 hu
  · intro new hnew
    rcases List.mem_append.1 hnew with hnew | hnew
    · exact h.ids new hnew
    · exact (hpending new (by simpa using hnew)).id_le

/-- A rollback gives up what the transaction holds. -/
theorem LockInv.rollback (h : s.LockInv) (hstep : s.step (.rollback t) = some s') :
    s'.LockInv := by
  simp only [step, Option.some_inj] at hstep
  subst hstep
  refine ⟨fun u => ?_, h.ids⟩
  by_cases hu : u = t
  · subst hu
    unfold ThreadInv
    simp only [threads_setThread_self]
    exact fun k device => Store.held_rollback_self
  · refine (h.threads u).frame
      { thread := threads_setThread_of_ne hu _
        held := fun k device => Store.held_rollback_of_ne hu
        committed := fun _ _ _ => rfl
        rows := fun _ _ _ _ hrow _ => hrow
        lastId := fun _ => le_rfl }

/-- A connection that reports an event holds nothing yet. -/
theorem LockInv.receive {event : DeviceEvent} (h : s.LockInv)
    (hstep : s.step (.receive t event) = some s') : s'.LockInv := by
  simp only [step] at hstep
  split at hstep
  · rename_i imei hidle hdevice
    cases hstep
    refine ⟨fun u => ?_, h.ids⟩
    by_cases hu : u = t
    · subst hu
      have hinv := h.threads u
      rw [ThreadInv, hidle] at hinv
      unfold ThreadInv
      simp only [threads_setThread_self]
      exact hinv
    · refine (h.threads u).frame ?_
      exact leaves_of_writes hu (Store.Writes.refl _ t imei) (threads_setThread_of_ne hu _) rfl
        fun _ => le_rfl
  · cases hstep

end Statements

/-- **What a transaction that holds a lock may rely on, every step preserves.** -/
theorem lockInv_step {s s' : DeviceHistory} {e : HistoryEvent} (h : s.LockInv)
    (hstep : s.step e = some s') : s'.LockInv := by
  cases e with
  | tick nanos =>
      cases hstep
      exact ⟨fun u => (h.threads u).frame (leaves_of_writes (t := u + 1) (Nat.succ_ne_self u).symm
        (Store.Writes.refl _ _ "") rfl rfl fun _ => le_rfl), h.ids⟩
  | receive t event => exact h.receive hstep
  | rollback t => exact h.rollback hstep
  | advance t =>
      cases hthread : s.threads t with
      | idle =>
          simp only [step, advance, hthread] at hstep
          cases hstep
      | received receipt => exact h.received hthread hstep
      | seen receipt found deviceId => exact h.seen hthread hstep
      | inserted receipt found row => exact h.inserted hthread hstep
      | finished receipt found row => exact h.finished hthread hstep

/-! ### What a commit does -/

section Commits

variable {s s' : DeviceHistory} {imei : String}

/-- Only a commit changes what everybody sees. -/
theorem committed_step {e : HistoryEvent} (hstep : s.step e = some s') :
    (s'.store.committed = s.store.committed ∧ s'.rows = s.rows) ∨
      ∃ t receipt found row, e = .advance t ∧ s.threads t = .finished receipt found row ∧
        s'.store = s.store.commit t ∧ s'.rows = s.rows ++ row.toList := by
  cases e with
  | tick nanos =>
      cases hstep
      exact Or.inl ⟨rfl, rfl⟩
  | receive t event =>
      simp only [step] at hstep
      split at hstep
      · cases hstep
        exact Or.inl ⟨rfl, rfl⟩
      · cases hstep
  | rollback t =>
      cases hstep
      exact Or.inl ⟨rfl, rfl⟩
  | advance t =>
      simp only [step, advance] at hstep
      cases hthread : s.threads t with
      | idle =>
          rw [hthread] at hstep
          cases hstep
      | received receipt =>
          rw [hthread] at hstep
          obtain ⟨⟨device, store⟩, hupsert, hs'⟩ := Option.bind_eq_some_iff.1 hstep
          cases hs'
          exact Or.inl ⟨(Store.upsert_eq_some hupsert).2.1.committed, rfl⟩
      | seen receipt found deviceId =>
          rw [hthread] at hstep
          obtain ⟨row, -, hs'⟩ := Option.bind_eq_some_iff.1 hstep
          cases hs'
          exact Or.inl ⟨rfl, rfl⟩
      | inserted receipt found row =>
          rw [hthread] at hstep
          obtain ⟨store, hupdate, hs'⟩ := Option.bind_eq_some_iff.1 hstep
          cases hs'
          exact Or.inl ⟨(Store.update_eq_some hupdate).committed, rfl⟩
      | finished receipt found row =>
          rw [hthread] at hstep
          cases hstep
          exact Or.inr ⟨t, receipt, found, row, rfl, hthread, rfl, rfl⟩

/-- A commit makes the time of the transaction the device's `last_seen_at`, in the place of the one
the transaction has found. -/
theorem lastSeenAt_commit (h : s.LockInv) {t : ℕ} {receipt : Receipt} {found : Option ℤ}
    {row : Option HistoryRow} (hthread : s.threads t = .finished receipt found row)
    (hstore : s'.store = s.store.commit t) :
    s.lastSeenAt receipt.imei = found ∧
      s'.lastSeenAt receipt.imei = some (storedMicros receipt.receivedAt) ∧
      (∀ k, k ≠ receipt.imei → s'.lastSeenAt k = s.lastSeenAt k) ∧
      ∀ new ∈ row, s.Pending receipt new := by
  have hinv : s.Holds t receipt found ∧ ∀ new ∈ row, s.Pending receipt new := by
    have hinv := h.threads t
    rw [ThreadInv, hthread] at hinv
    exact hinv
  obtain ⟨⟨⟨device, hheld, hseen⟩, honly, hfound⟩, hpending⟩ := hinv
  refine ⟨hfound.symm, ?_, ?_, hpending⟩
  · rw [lastSeenAt, hstore, Store.committed_commit_of_held hheld, Option.map_some, hseen]
  · intro k hne
    have hnot : ∀ other, s.store.held k ≠ some (t, other) := fun other hother =>
      hne (honly k other hother)
    rw [lastSeenAt, lastSeenAt, hstore, Store.committed_commit_of_ne hnot]

/-- The invariant of a device's history in order: no row is later than its `last_seen_at`. -/
structure OrderInv (imei : String) (s : DeviceHistory) : Prop where
  lock : s.LockInv
  order : s.InOrder imei
  seen : ∀ row ∈ s.rows, row.imei = imei →
    ∃ seenAt ∈ s.lastSeenAt imei, row.serverReceivedAt ≤ seenAt

theorem seenGrows_of_eq (h : s'.lastSeenAt imei = s.lastSeenAt imei) : SeenGrows imei s s' :=
  fun seenAt hseen => ⟨seenAt, h ▸ hseen, le_rfl⟩

/-- What a commit in order leaves of the device to be seen. -/
theorem seenGrows_commit (h : s.LockInv) {t : ℕ} {receipt : Receipt} {found : Option ℤ}
    {row : Option HistoryRow} (hthread : s.threads t = .finished receipt found row)
    (hstore : s'.store = s.store.commit t)
    (hguard : ∀ seenAt ∈ found, seenAt ≤ storedMicros receipt.receivedAt) :
    SeenGrows receipt.imei s s' := by
  obtain ⟨hfound, hown, -, -⟩ := lastSeenAt_commit h hthread hstore
  intro seenAt hseen
  exact ⟨_, hown, hguard seenAt (hfound ▸ hseen)⟩

/-- A commit in order keeps the history of its device in order. -/
theorem OrderInv.commit {t : ℕ} {receipt : Receipt} {found : Option ℤ} {row : Option HistoryRow}
    (h : s.OrderInv receipt.imei) (hlock : s'.LockInv)
    (hthread : s.threads t = .finished receipt found row) (hstore : s'.store = s.store.commit t)
    (hrows : s'.rows = s.rows ++ row.toList)
    (hguard : ∀ seenAt ∈ found, seenAt ≤ storedMicros receipt.receivedAt) :
    s'.OrderInv receipt.imei := by
  have hgrows := seenGrows_commit h.lock hthread hstore hguard
  obtain ⟨hfound, hown, -, hpending⟩ := lastSeenAt_commit h.lock hthread hstore
  -- no committed row of the device is later than the time found, nor than the transaction
  have hbefore : ∀ old ∈ s.rows, old.imei = receipt.imei →
      old.serverReceivedAt ≤ storedMicros receipt.receivedAt := by
    intro old hold himei
    obtain ⟨seenAt, hseen, hle⟩ := h.seen old hold himei
    rw [hfound] at hseen
    exact hle.trans (hguard seenAt hseen)
  refine ⟨hlock, ?_, ?_⟩
  · intro old hold new hnew hi hi' hkind hlt
    rw [hrows] at hold hnew
    rcases List.mem_append.1 hold with hold | hold
    · rcases List.mem_append.1 hnew with hnew | hnew
      · exact h.order old hold new hnew hi hi' hkind hlt
      · have hp := hpending new (by simpa using hnew)
        rw [hp.serverReceivedAt]
        exact hbefore old hold hi
    · have hp := hpending old (by simpa using hold)
      rcases List.mem_append.1 hnew with hnew | hnew
      · -- the number of the new row is above that of every committed one
        have hbelow := hp.above new hnew hi' hkind.symm
        omega
      · have hp' := hpending new (by simpa using hnew)
        rw [hp.serverReceivedAt, hp'.serverReceivedAt]
  · intro new hnew himei
    rw [hrows] at hnew
    rcases List.mem_append.1 hnew with hnew | hnew
    · obtain ⟨seenAt, hseen, hle⟩ := h.seen new hnew himei
      obtain ⟨seenAt', hseen', hle'⟩ := hgrows seenAt hseen
      exact ⟨seenAt', hseen', hle.trans hle'⟩
    · have hp := hpending new (by simpa using hnew)
      exact ⟨_, hown, hp.serverReceivedAt.le⟩

/-- What becomes visible of another device leaves the history of a device in order. -/
theorem OrderInv.of_rows (h : s.OrderInv imei) (hlock : s'.LockInv)
    (hrows : ∀ row ∈ s'.rows, row.imei = imei → row ∈ s.rows)
    (hseen : s'.lastSeenAt imei = s.lastSeenAt imei) : s'.OrderInv imei := by
  refine ⟨hlock, ?_, ?_⟩
  · intro old hold new hnew hi hi' hkind hlt
    exact h.order old (hrows old hold hi) new (hrows new hnew hi') hi hi' hkind hlt
  · intro row hrow hi
    rw [hseen]
    exact h.seen row (hrows row hrow hi) hi

/-- **A step that commits in order preserves the order of a device's history.** -/
theorem orderInv_step {e : HistoryEvent} (h : s.OrderInv imei)
    (hguard : s.DeviceCommitsInOrder imei e) (hstep : s.step e = some s') :
    s'.OrderInv imei ∧ SeenGrows imei s s' := by
  have hlock := lockInv_step h.lock hstep
  rcases committed_step hstep with ⟨hcommitted, hrows⟩ |
    ⟨t, receipt, found, row, rfl, hthread, hstore, hrows⟩
  · have hseen : s'.lastSeenAt imei = s.lastSeenAt imei := by
      rw [lastSeenAt, lastSeenAt, hcommitted]
    exact ⟨h.of_rows hlock (fun row hrow _ => hrows ▸ hrow) hseen, seenGrows_of_eq hseen⟩
  · simp only [DeviceCommitsInOrder, hthread] at hguard
    by_cases himei : receipt.imei = imei
    · subst himei
      exact ⟨h.commit hlock hthread hstore hrows (hguard rfl),
        seenGrows_commit h.lock hthread hstore (hguard rfl)⟩
    · -- the commit of another device
      obtain ⟨-, -, hothers, hpending⟩ := lastSeenAt_commit h.lock hthread hstore
      have hseen := hothers imei (Ne.symm himei)
      refine ⟨h.of_rows hlock (fun new hnew hi => ?_) hseen, seenGrows_of_eq hseen⟩
      rw [hrows] at hnew
      rcases List.mem_append.1 hnew with hnew | hnew
      · exact hnew
      · have hp := hpending new (by simpa using hnew)
        exact absurd (hp.imei.symm.trans hi) himei

/-- An event out of order is the commit of a transaction that found a later time than its own. -/
theorem exists_of_not_deviceCommitsInOrder {e : HistoryEvent}
    (h : ¬ s.DeviceCommitsInOrder imei e) :
    ∃ t receipt found row, e = .advance t ∧ s.threads t = .finished receipt found row ∧
      receipt.imei = imei ∧ ∃ seenAt ∈ found, storedMicros receipt.receivedAt < seenAt := by
  cases e with
  | tick nanos => exact absurd trivial h
  | receive t event => exact absurd trivial h
  | rollback t => exact absurd trivial h
  | advance t =>
      cases hthread : s.threads t with
      | finished receipt found row =>
          simp only [DeviceCommitsInOrder, hthread] at h
          push Not at h
          exact ⟨t, receipt, found, row, rfl, hthread, h⟩
      | _ =>
          simp only [DeviceCommitsInOrder, hthread] at h
          exact absurd trivial h

/-- A commit out of order turns `last_seen_at` back. -/
theorem not_seenGrows_of_not_deviceCommitsInOrder {e : HistoryEvent} (h : s.LockInv)
    (hguard : ¬ s.DeviceCommitsInOrder imei e) (hstep : s.step e = some s') :
    ¬ SeenGrows imei s s' := by
  obtain ⟨t, receipt, found, row, rfl, hthread, rfl, seenAt, hfoundAt, hlate⟩ :=
    exists_of_not_deviceCommitsInOrder hguard
  have hstore : s'.store = s.store.commit t := by
    simp only [step, advance, hthread, Option.some_inj] at hstep
    rw [← hstep]
  obtain ⟨hfound, hown, -, -⟩ := lastSeenAt_commit h hthread hstore
  intro hgrows
  obtain ⟨seenAt', hseen', hle⟩ := hgrows seenAt (hfound ▸ hfoundAt)
  rw [hown, Option.mem_some_iff] at hseen'
  omega

/-- All the transactions are those of the devices. -/
theorem commitsInOrder_iff (e : HistoryEvent) :
    s.CommitsInOrder e ↔ ∀ imei, s.DeviceCommitsInOrder imei e := by
  cases e with
  | tick nanos => exact ⟨fun _ _ => trivial, fun _ => trivial⟩
  | receive t event => exact ⟨fun _ _ => trivial, fun _ => trivial⟩
  | rollback t => exact ⟨fun _ _ => trivial, fun _ => trivial⟩
  | advance t =>
      simp only [CommitsInOrder, DeviceCommitsInOrder]
      cases s.threads t with
      | finished receipt found row => exact ⟨fun h _ _ => h, fun h => h receipt.imei rfl⟩
      | _ => exact ⟨fun _ _ => trivial, fun _ => trivial⟩

end Commits

/-! ### Runs -/

theorem lockInv_start (clock : ℤ) : (start clock).LockInv :=
  ⟨fun _ _ _ h => (Option.some_ne_none _ h.symm).elim, fun _ h => absurd h List.not_mem_nil⟩

theorem orderInv_start (clock : ℤ) (imei : String) : (start clock).OrderInv imei :=
  ⟨lockInv_start clock, fun _ h => absurd h List.not_mem_nil,
    fun _ h => absurd h List.not_mem_nil⟩

/-- The histories of a run that takes the locks of a device in order. -/
theorem orderInv_of_run {clock : ℤ} {tr : List (DeviceHistory × HistoryEvent)} {s : DeviceHistory}
    (run : Run step (start clock) tr s) {imei : String}
    (hguard : ∀ p ∈ tr, p.1.DeviceCommitsInOrder imei p.2) :
    (∀ p ∈ tr, p.1.OrderInv imei) ∧ s.OrderInv imei :=
  run.invariant (I := OrderInv imei) (G := fun s e => s.DeviceCommitsInOrder imei e)
    (fun _ _ _ h hg hstep => (orderInv_step h hg hstep).1) (orderInv_start clock imei) hguard

/-- The history of a device is in order throughout a run: in every state the numbers go the way of
the times, and at no step does `last_seen_at` decrease. -/
structure InOrderThroughout (tr : List (DeviceHistory × HistoryEvent)) (s : DeviceHistory)
    (imei : String) : Prop where
  before : ∀ p ∈ tr, p.1.InOrder imei
  after : s.InOrder imei
  grows : ∀ p ∈ tr, ∀ s', p.1.step p.2 = some s' → SeenGrows imei p.1 s'

/-- **The history of a device is in order exactly when the locks of the device are taken in the
order of the times.** -/
theorem inOrderThroughout_iff {clock : ℤ} {tr : List (DeviceHistory × HistoryEvent)}
    {s : DeviceHistory} (run : Run step (start clock) tr s) (imei : String) :
    InOrderThroughout tr s imei ↔ ∀ p ∈ tr, p.1.DeviceCommitsInOrder imei p.2 := by
  constructor
  · intro h p hp
    by_contra hguard
    obtain ⟨hlock, -⟩ := run.invariant (I := LockInv) (G := fun _ _ => True)
      (fun _ _ _ hinv _ hstep => lockInv_step hinv hstep) (lockInv_start clock)
      (fun _ _ => trivial)
    obtain ⟨s', hstep⟩ := run.step_of_mem hp
    exact not_seenGrows_of_not_deviceCommitsInOrder (hlock p hp) hguard hstep
      (h.grows p hp s' hstep)
  · intro hguard
    obtain ⟨hbefore, hafter⟩ := orderInv_of_run run hguard
    refine ⟨fun p hp => (hbefore p hp).order, hafter.order, ?_⟩
    intro p hp s' hstep
    exact (orderInv_step (hbefore p hp) (hguard p hp) hstep).2

end DeviceHistory

open DeviceHistory in
/-- **The history of a device is in order exactly when its locks are taken in the order of the
times**: in every run of any number of transactions for any devices, at any relative positions and
with any of them rolled back, the rows of every device are in order in every state and its
`last_seen_at` never decreases, exactly when no transaction commits that found a later time than
its own when it took the lock. -/
theorem deviceHistory_inOrder_iff {clock : ℤ} {tr : List (DeviceHistory × HistoryEvent)}
    {s : DeviceHistory} (run : Run DeviceHistory.step (start clock) tr s) :
    (∀ imei, InOrderThroughout tr s imei) ↔ ∀ p ∈ tr, p.1.CommitsInOrder p.2 := by
  constructor
  · intro h p hp
    exact (commitsInOrder_iff p.2).2 fun imei => (inOrderThroughout_iff run imei).1 (h imei) p hp
  · intro hguard imei
    exact (inOrderThroughout_iff run imei).2 fun p hp =>
      (commitsInOrder_iff p.2).1 (hguard p hp) imei

/-! ### A tracker that reconnects -/

/-- A heartbeat of the tracker, with the engine running. -/
def runningHeartbeat (peerAddr : String) : DeviceEvent :=
  .heartbeat peerAddr (some "866221070478388") ⟨0x45, 6, 3, 2⟩

/-- The old connection reads the clock, and before its upsert the new one goes through. -/
def overtaken : List HistoryEvent :=
  [.receive 1 (runningHeartbeat "10.0.0.7:40001"), .tick 1000000,
    .receive 2 (runningHeartbeat "10.0.0.7:40002"), .advance 2, .advance 2, .advance 2, .advance 2,
    .advance 1, .advance 1, .advance 1, .advance 1]

theorem replay_overtaken :
    (replay DeviceHistory.step (DeviceHistory.start 0) overtaken).any
      (fun s => decide ¬ s.InOrder "866221070478388") = true := by
  decide +kernel

/-- The heartbeat that was received first gets the higher number. -/
theorem overtaken_not_inOrder :
    ∃ tr s, tr.map Prod.snd = overtaken ∧ Run DeviceHistory.step (DeviceHistory.start 0) tr s ∧
      ¬ s.InOrder "866221070478388" := by
  obtain ⟨tr, s, hes, run, hnot⟩ := run_of_replay_any replay_overtaken
  exact ⟨tr, s, hes, run, of_decide_eq_true hnot⟩

/-- In that run a commit is out of order. -/
theorem deviceHistory_inOrder_iff_overtaken :
    ∃ tr s, tr.map Prod.snd = overtaken ∧ Run DeviceHistory.step (DeviceHistory.start 0) tr s ∧
      ¬ ∀ p ∈ tr, p.1.CommitsInOrder p.2 := by
  obtain ⟨tr, s, hes, run, hnot⟩ := run_of_replay_any replay_overtaken
  refine ⟨tr, s, hes, run, fun hguard => of_decide_eq_true hnot ?_⟩
  exact ((deviceHistory_inOrder_iff run).2 hguard _).after

end Gt06
