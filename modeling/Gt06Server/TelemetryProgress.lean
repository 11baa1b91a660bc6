/-
**The server comes to rest.**

A transaction may wait for the row of its device, and that of a location also for the advisory
lock of its device, which it waits for while it holds the row.  But nobody waits who holds an
advisory lock: the rows of the odometer and of the day are those of a device whose row is held.  So
whoever holds an advisory lock can go on, when nobody holds one the holder of a row can, and when
nobody holds a row nobody has to wait.  From any state the server can therefore finish what it has
read, without another byte from anybody; every statement and every answer of a decoder brings it
closer to that.

The server is the only process here: the backfill and the requests of the API are not beside it, and
a transaction has one connection of the pool.

Together with `TelemetryDelivery` this says that a report is stored or rolled back, and never
stuck between the two.

Main definitions:

* `Gt06.DistanceServer.work`, `Gt06.DistanceServer.workBelow` — how much is left to do;
* `Gt06.Gt06TcpServer.Bounded` — only finitely many connections have something to do.

Main results:

* `Gt06.DeviceHistory.exists_advance` — among the row locks some transaction that is under way can
  go on;
* `Gt06.DistanceServer.exists_advance` — **no deadlock**: so it is with the locks of
  `process_location_distance`;
* `Gt06.DistanceServer.exists_progress` — a server that is not at rest can do something;
* `Gt06.server_comes_to_rest` — **the server comes to rest**, and then has stored every report
  that was not rolled back, and nobody holds a lock.
-/

import Mathlib
import Gt06Server.Await
import Gt06Server.DistanceLocks
import Gt06Server.TelemetryDelivery

set_option relaxedAutoImplicit false
set_option autoImplicit false

namespace Gt06

open Await Binary64 RowLocks

/-! ### No deadlock -/

namespace DeviceHistory

variable {s : DeviceHistory} {t : ℕ}

/-- A transaction that has begun waits for no lock after its first. -/
theorem advance_isSome_of_seen (h : s.LockInv) (hconsistent : (s.threads t).Consistent)
    (hidle : (s.threads t).isIdle = false)
    (hwaiting : ∀ receipt, s.threads t ≠ .received receipt) : (s.advance t).isSome := by
  cases hthread : s.threads t with
  | idle =>
      rw [hthread] at hidle
      cases hidle
  | received receipt => exact absurd hthread (hwaiting receipt)
  | seen receipt found deviceId =>
      rw [hthread] at hconsistent
      have hnew : (s.newRow receipt deviceId).isSome := by
        unfold newRow
        cases hevent : receipt.event with
        | login peerAddr imei serial =>
            have hreport := hconsistent.2
            rw [hevent] at hreport
            cases hreport
        | heartbeat peerAddr device packet => rfl
        | location peerAddr device packet => rfl
      obtain ⟨row, hrow⟩ := Option.isSome_iff_exists.1 hnew
      simp [advance, hthread, hrow]
  | inserted receipt found row =>
      obtain ⟨device, hheld⟩ := holdsRow_of_inserted h hthread
      simp [advance, hthread, Store.update_of_held hheld]
  | finished receipt found row => simp [advance, hthread]

/-- When no transaction has begun, the lock it needs is free. -/
theorem advance_isSome_of_received (h : s.LockInv) {receipt : Receipt}
    (hthread : s.threads t = .received receipt)
    (hnone : ∀ u, (s.threads u).isIdle = true ∨ ∃ receipt, s.threads u = .received receipt) :
    (s.advance t).isSome := by
  have hfree : s.store.FreeFor t receipt.imei := by
    rintro ⟨u, device⟩ hheld
    have hinv := h.threads u
    rw [ThreadInv] at hinv
    rcases hnone u with hidle | ⟨other, hother⟩
    · rw [Gt06TcpServer.isIdle_iff.1 hidle] at hinv
      exact absurd hheld (hinv receipt.imei device)
    · rw [hother] at hinv
      exact absurd hheld (hinv receipt.imei device)
  simp [advance, hthread, Store.upsert, hfree]

/-- **No deadlock**: when a transaction is under way, one of those under way can go on. -/
theorem exists_advance (h : s.LockInv) (hconsistent : ∀ u, (s.threads u).Consistent)
    (hidle : (s.threads t).isIdle = false) :
    ∃ u s', (s.threads u).isIdle = false ∧ s.advance u = some s' := by
  by_cases hbegun : ∃ u, (s.threads u).isIdle = false ∧ ∀ receipt, s.threads u ≠ .received receipt
  · obtain ⟨u, hu, hwaiting⟩ := hbegun
    obtain ⟨s', hs'⟩ := Option.isSome_iff_exists.1
      (advance_isSome_of_seen h (hconsistent u) hu hwaiting)
    exact ⟨u, s', hu, hs'⟩
  · push Not at hbegun
    have hnone : ∀ u, (s.threads u).isIdle = true ∨ ∃ receipt, s.threads u = .received receipt := by
      intro u
      cases hu : (s.threads u).isIdle with
      | true => exact Or.inl rfl
      | false => exact Or.inr (hbegun u hu)
    obtain ⟨receipt, hreceipt⟩ := hbegun t hidle
    obtain ⟨s', hs'⟩ := Option.isSome_iff_exists.1 (advance_isSome_of_received h hreceipt hnone)
    exact ⟨t, s', hidle, hs'⟩

/-- A statement brings its transaction closer to its end. -/
theorem remaining_advance {s' : DeviceHistory} (h : s.advance t = some s') :
    (s'.threads t).remaining < (s.threads t).remaining := by
  cases statement_of_advance h with
  | upsert receipt found device hbefore hafter _ _ =>
      rw [hbefore, hafter, afterUpsert]
      cases receipt.event with
      | login peerAddr imei serial => exact (by decide : 1 < 4)
      | heartbeat peerAddr deviceId packet => exact Nat.lt_succ_self 3
      | location peerAddr deviceId packet => exact Nat.lt_succ_self 3
  | insert receipt found deviceId row hbefore _ hafter _ _ =>
      rw [hbefore, hafter]
      exact Nat.lt_succ_self 2
  | update receipt found row hbefore hafter _ _ =>
      rw [hbefore, hafter]
      exact Nat.lt_succ_self 1
  | commit receipt found row hbefore hafter _ _ =>
      rw [hbefore, hafter]
      exact Nat.one_pos

end DeviceHistory

/-! ### One connection -/

namespace Gt06TcpServer

variable {s s' : Gt06TcpServer} {t : ℕ}

/-- The connections from the `n`-th on wait for their sockets. -/
def Bounded (n : ℕ) (s : Gt06TcpServer) : Prop := ∀ t, n ≤ t → (s.tasks t).draining = false

/-- The decoder asks for more bytes, or an answer of it costs at least one byte. -/
theorem task_next (peer : ℕ → SocketAddr) (hdraining : (s.tasks t).draining = true) :
    (((s.next peer t).tasks t).buffer.length ≤ (s.tasks t).buffer.length ∧
        ((s.next peer t).tasks t).draining = false ∧
        (s.next peer t).history.threads t = s.history.threads t) ∨
      (((s.next peer t).tasks t).buffer.length < (s.tasks t).buffer.length ∧
        ((s.next peer t).tasks t).draining = true) := by
  unfold Gt06TcpServer.next
  split
  · next rest hnext =>
      have hle := frameDecoder.next_rest_length_le (s.tasks t).buffer
      rw [hnext] at hle
      refine Or.inl ⟨?_, ?_, rfl⟩
      · rw [tasks_setTask_self]
        exact hle
      · rw [tasks_setTask_self]
  · next answer rest hnext =>
      have hlt := frameDecoder.next_shrinks hnext
      have htask : (s.handleAnswer peer t answer rest).tasks t =
          { s.tasks t with
            connection := handleDecoded (peer t) (s.tasks t).connection answer
            buffer := rest } := tasks_setTask_self _
      exact Or.inr ⟨by rw [htask]; exact hlt, by rw [htask]; exact hdraining⟩

/-- What a connection has read does not depend on what the decoder makes of it. -/
theorem read_next (peer : ℕ → SocketAddr) (u : ℕ) :
    ((s.next peer t).tasks u).read = (s.tasks u).read := by
  by_cases hu : u = t
  · subst hu
    unfold Gt06TcpServer.next
    split
    · simp only [tasks_setTask_self]
    · simp only [handleAnswer, tasks_setTask_self]
  · rw [tasks_next_of_ne hu]

/-- Only the connections that have read something have something to do. -/
theorem bounded_step {peer : ℕ → SocketAddr} {e : ServerEvent} {n : ℕ} (h : s.Bounded n)
    (hstep : s.step peer e = some s') : ∃ n', s'.Bounded n' := by
  cases e with
  | tick nanos =>
      cases hstep
      exact ⟨n, h⟩
  | read t bytes =>
      simp only [step] at hstep
      split at hstep
      · cases hstep
      · cases hstep
        refine ⟨max n (t + 1), fun u hu => ?_⟩
        rw [readBytes, tasks_setTask_of_ne (by omega)]
        exact h u (by omega)
  | next t =>
      simp only [step] at hstep
      split at hstep
      · cases hstep
        refine ⟨max n (t + 1), fun u hu => ?_⟩
        rw [tasks_next_of_ne (by omega)]
        exact h u (by omega)
      · cases hstep
  | advance t =>
      obtain ⟨history, -, rfl⟩ := Option.map_eq_some_iff.1 hstep
      exact ⟨n, h⟩
  | rollback t =>
      simp only [step] at hstep
      split at hstep
      · cases hstep
      · cases hstep
        exact ⟨n, h⟩

/-- In a run only finitely many connections have something to do. -/
theorem bounded_of_run {peer : ℕ → SocketAddr} {clock : ℤ}
    {tr : List (Gt06TcpServer × ServerEvent)} (run : Run (step peer) (start clock) tr s) :
    ∃ n, s.Bounded n :=
  (run.invariant (I := fun s => ∃ n, s.Bounded n) (G := fun _ _ => True)
    (fun _ _ _ ⟨_, h⟩ _ hstep => bounded_step h hstep) ⟨0, fun _ _ => rfl⟩
    fun _ _ => trivial).2

end Gt06TcpServer

/-! ### No deadlock with the advisory locks -/

namespace DistanceServer

variable {K : Type} [Field K] [LinearOrder K] [IsStrictOrderedRing K] {hashtext : String → ℤ}
  {distanceMeters : F64 → F64 → F64 → F64 → K} {peer : ℕ → SocketAddr} {s s' : DistanceServer K}
  {t : ℕ} {imei : String} {point : DistanceLocationPoint}

theorem step_advance_of_counting (h : s.counting t = some (imei, point)) :
    s.step hashtext distanceMeters peer (.advance t) =
      s.distanceStatement hashtext distanceMeters t imei point := by
  simp only [step, h]

theorem step_advance_of_not_counting (h : s.counting t = none) {history : DeviceHistory}
    (hadvance : s.server.history.advance t = some history) :
    s.step hashtext distanceMeters peer (.advance t) =
      some (s.afterStatement t (s.server.advanced t history)) := by
  simp only [step, h, Gt06TcpServer.step, hadvance, Option.map_some, Gt06TcpServer.advanced]

/-- Counting a distance waits for no lock but the advisory one. -/
theorem distanceStatement_isSome (h : s.DistanceInv) (hlock : s.server.history.LockInv)
    (hcounting : s.counting t = some (imei, point))
    (hfree : (s.distances t).isWaiting = true → s.advisory.FreeFor t (hashtext imei)) :
    (s.distanceStatement hashtext distanceMeters t imei point).isSome := by
  obtain ⟨receipt, found, row, hthread, rfl, -, hcounted⟩ := of_counting hcounting
  have hholds := DeviceHistory.holdsRow_of_inserted hlock hthread
  have hodometer : s.odometer.FreeFor t receipt.imei := h.odometer.freeFor fun u hu =>
    hholds.unique hu
  have hdaily : ∀ date, s.daily.FreeFor t (receipt.imei, date) := fun date =>
    h.daily.freeFor fun u hu => hholds.unique hu
  unfold distanceStatement
  cases hstage : s.distances t with
  | waiting =>
      have hadvisory := hfree (by rw [hstage]; rfl)
      simp [Store.advisoryXactLock, hadvisory]
  | locked =>
      obtain ⟨p, hp⟩ := Option.isSome_iff_exists.1 (Store.selectForUpdate_isSome hodometer)
      simp [hp]
  | read previous => simp [Store.upsert, hodometer]
  | written accepted => simp [Store.upsert, hdaily]
  | counted =>
      rw [hstage] at hcounted
      cases hcounted

/-- Whoever is in the midst of counting, or behind it, can go on. -/
theorem advance_isSome_of_counting (hserver : Gt06TcpServer.ServerInv peer s.server)
    (h : s.DistanceInv) (hbegun : (s.distances t).isWaiting = false) :
    (s.step hashtext distanceMeters peer (.advance t)).isSome := by
  cases hcounting : s.counting t with
  | some p =>
      rw [step_advance_of_counting hcounting]
      refine distanceStatement_isSome h hserver.lock hcounting fun hwaiting => ?_
      rw [hbegun] at hwaiting
      cases hwaiting
  | none =>
      have hinserted := h.begun t hbegun
      have hidle : (s.server.history.threads t).isIdle = false := by
        cases hthread : s.server.history.threads t with
        | idle =>
            rw [hthread] at hinserted
            cases hinserted
        | _ => rfl
      obtain ⟨history, hadvance⟩ := Option.isSome_iff_exists.1
        (DeviceHistory.advance_isSome_of_seen hserver.lock (hserver.consistent t) hidle (by
          rintro receipt hreceived
          rw [hreceived] at hinserted
          cases hinserted))
      rw [step_advance_of_not_counting hcounting hadvance]
      rfl

/-- **No deadlock**: when a transaction is under way, one of those under way can go on. -/
theorem exists_advance (hserver : Gt06TcpServer.ServerInv peer s.server) (h : s.DistanceInv)
    (hidle : (s.server.history.threads t).isIdle = false) :
    ∃ u s', (s.server.history.threads u).isIdle = false ∧
      s.step hashtext distanceMeters peer (.advance u) = some s' := by
  obtain ⟨u, history, hu, hadvance⟩ :=
    DeviceHistory.exists_advance hserver.lock hserver.consistent hidle
  cases hcounting : s.counting u with
  | none => exact ⟨u, _, hu, step_advance_of_not_counting hcounting hadvance⟩
  | some p =>
      by_cases hfree : s.advisory.FreeFor u (hashtext p.1)
      · obtain ⟨s', hs'⟩ := Option.isSome_iff_exists.1
          (distanceStatement_isSome h hserver.lock hcounting fun _ => hfree)
        exact ⟨u, s', hu, by rw [step_advance_of_counting hcounting, hs']⟩
      · -- whoever holds the advisory lock is behind its wait
        simp only [Store.FreeFor, not_forall] at hfree
        obtain ⟨⟨v, _⟩, hheld, -⟩ := hfree
        have hbegun := h.advisory v _ _ hheld
        have hinserted := h.begun v hbegun
        have hgoes : (s.step hashtext distanceMeters peer (.advance v)).isSome :=
          advance_isSome_of_counting hserver h hbegun
        obtain ⟨s', hs'⟩ := Option.isSome_iff_exists.1 hgoes
        refine ⟨v, s', ?_, hs'⟩
        cases hthread : s.server.history.threads v with
        | idle =>
            rw [hthread] at hinserted
            cases hinserted
        | _ => rfl

/-! ### What is left to do -/

/-- The statements that a transaction has left, at most. -/
def remaining (s : DistanceServer K) (t : ℕ) : ℕ :=
  if (s.server.history.threads t).isIdle then 0
  else (s.server.history.threads t).remaining + (s.distances t).remaining

/-- What a connection has left to do: a byte of its buffer may become a transaction of eight
statements. -/
def work (s : DistanceServer K) (t : ℕ) : ℕ :=
  9 * (s.server.tasks t).buffer.length + s.remaining t +
    if (s.server.tasks t).draining then 1 else 0

/-- What the first connections have left to do. -/
def workBelow (n : ℕ) (s : DistanceServer K) : ℕ := ∑ t ∈ Finset.range n, s.work t

omit [IsStrictOrderedRing K] in
theorem remaining_le (t : ℕ) : s.remaining t ≤ 8 := by
  have hstatements : (s.server.history.threads t).remaining ≤ 4 := by
    cases s.server.history.threads t with
    | idle => exact Nat.zero_le 4
    | received receipt => exact le_rfl
    | seen receipt found deviceId => exact Nat.le_succ 3
    | inserted receipt found row => exact (by decide : 2 ≤ 4)
    | finished receipt found row => exact (by decide : 1 ≤ 4)
  have hdistance : (s.distances t).remaining ≤ 4 := by
    cases s.distances t with
    | waiting => exact le_rfl
    | locked => exact Nat.le_succ 3
    | read previous => exact (by decide : 2 ≤ 4)
    | written accepted => exact (by decide : 1 ≤ 4)
    | counted => exact Nat.zero_le 4
  unfold remaining
  split
  · exact Nat.zero_le 8
  · omega

omit [IsStrictOrderedRing K] in
/-- Less work for one connection is less work, when the others are left alone. -/
theorem workBelow_lt {n : ℕ} (ht : t < n) (hwork : s'.work t < s.work t)
    (hothers : ∀ u, u ≠ t → s'.work u = s.work u) : s'.workBelow n < s.workBelow n := by
  refine Finset.sum_lt_sum ?_ ⟨t, Finset.mem_range.2 ht, hwork⟩
  intro u _
  by_cases hu : u = t
  · rw [hu]
    exact hwork.le
  · exact (hothers u hu).le

/-- The server after the decoder's next answer. -/
def next (s : DistanceServer K) (peer : ℕ → SocketAddr) (t : ℕ) : DistanceServer K :=
  { s with server := s.server.next peer t }

omit [IsStrictOrderedRing K] in
theorem work_next (hdraining : (s.server.tasks t).draining = true)
    (hidle : s.server.history.threads t = .idle) : (s.next peer t).work t < s.work t := by
  have hbefore : s.work t = 9 * (s.server.tasks t).buffer.length + 1 := by
    simp [work, remaining, hdraining, hidle, EventThread.isIdle]
  have hremaining := remaining_le (s := s.next peer t) t
  rw [hbefore, work]
  rcases Gt06TcpServer.task_next peer hdraining with ⟨hle, hrests, hstays⟩ | ⟨hlt, hgoes⟩
  · have hafter : (s.next peer t).remaining t = 0 := by
      rw [remaining, if_pos]
      change ((s.server.next peer t).history.threads t).isIdle = true
      rw [hstays, hidle]
      rfl
    change 9 * ((s.server.next peer t).tasks t).buffer.length + _ +
      (if ((s.server.next peer t).tasks t).draining then 1 else 0) < _
    rw [hafter, hrests, if_neg Bool.false_ne_true]
    omega
  · change 9 * ((s.server.next peer t).tasks t).buffer.length + _ +
      (if ((s.server.next peer t).tasks t).draining then 1 else 0) < _
    rw [hgoes, if_pos rfl]
    omega

omit [IsStrictOrderedRing K] in
theorem work_next_of_ne {u : ℕ} (hne : u ≠ t) (hidle : s.server.history.threads t = .idle) :
    (s.next peer t).work u = s.work u := by
  have hthread : (s.server.next peer t).history.threads u = s.server.history.threads u := by
    rcases Gt06TcpServer.history_next peer hidle with hhistory | ⟨event, hstep⟩
    · rw [hhistory]
    · exact (Gt06TcpServer.receive_frame hstep).2.2 u hne
  rw [work, work, remaining, remaining]
  change 9 * ((s.server.next peer t).tasks u).buffer.length +
    (if ((s.server.next peer t).history.threads u).isIdle then 0
      else ((s.server.next peer t).history.threads u).remaining + (s.distances u).remaining) +
    (if ((s.server.next peer t).tasks u).draining then 1 else 0) = _
  rw [Gt06TcpServer.tasks_next_of_ne hne, hthread]

/-- What a statement of a transaction leaves alone, and that it brings the transaction closer to its
end. -/
structure Advances (t : ℕ) (s s' : DistanceServer K) : Prop where
  tasks : s'.server.tasks = s.server.tasks
  lost : s'.server.lost = s.server.lost
  others : ∀ u, u ≠ t → s'.remaining u = s.remaining u
  remaining : s'.remaining t < s.remaining t

theorem advances_of_step (h : s.step hashtext distanceMeters peer (.advance t) = some s') :
    Advances t s s' := by
  cases moves_of_step h with
  | count u imei point event hcounting hstatement =>
      cases event
      obtain ⟨receipt, found, row, hthread, -⟩ := of_counting hcounting
      obtain ⟨hserver, hothers, hless⟩ := frames_of_distanceStatement hstatement
      refine ⟨by rw [hserver], by rw [hserver], fun u hu => ?_, ?_⟩
      · rw [remaining, remaining, hserver, hothers u hu]
      · have hbusy : ¬ (s.server.history.threads t).isIdle := by
          rw [hthread]
          exact Bool.false_ne_true
        rw [remaining, remaining, hserver, if_neg hbusy, if_neg hbusy]
        exact Nat.add_lt_add_left hless _
  | statement u server event _ hserver hs' =>
      cases event
      subst hs'
      obtain ⟨history, hadvance, rfl⟩ := Gt06TcpServer.of_step_advance hserver
      have hframes := DeviceHistory.frames_of_advance hadvance
      have hless := DeviceHistory.remaining_advance hadvance
      have hbusy : ¬ (s.server.history.threads t).isIdle := by
        intro hidle
        rw [Gt06TcpServer.isIdle_iff.1 hidle] at hless
        exact absurd hless (Nat.not_lt_zero _)
      refine ⟨by rw [server_afterStatement, Gt06TcpServer.advanced], by
        rw [server_afterStatement, Gt06TcpServer.advanced], fun u hu => ?_, ?_⟩
      · rw [remaining, remaining, server_afterStatement, distances_afterStatement_of_ne hu]
        change (if (history.threads u).isIdle then _ else (history.threads u).remaining + _) = _
        rw [hframes.threads u hu]
      · rw [remaining, remaining, server_afterStatement, if_neg hbusy]
        split
        · exact (Nat.zero_le _).trans_lt (hless.trans_le (Nat.le_add_right _ _))
        · next hstays =>
            rw [distances_afterStatement_of_busy hstays]
            exact Nat.add_lt_add_right hless _
  | rollback u server event _ _ => cases event
  | outside server hadvance _ _ _ => exact absurd rfl (hadvance t)

/-! ### Progress -/

/-- A step with which the server goes on without another byte from anybody. -/
def IsProgress (e : ServerEvent) : Prop := ∃ t, e = .next t ∨ e = .advance t

/-- Nobody holds a lock. -/
def NothingHeld (s : DistanceServer K) : Prop :=
  (∀ k, s.server.history.store.held k = none) ∧ (∀ k, s.advisory.held k = none) ∧
    (∀ k, s.odometer.held k = none) ∧ ∀ k, s.daily.held k = none

omit [IsStrictOrderedRing K] in
/-- When no transaction is under way nobody holds a lock. -/
theorem DistanceInv.nothingHeld (h : s.DistanceInv) (hlock : s.server.history.LockInv)
    (hidle : ∀ t, s.server.history.threads t = .idle) : s.NothingHeld := by
  have hrows : ∀ u k, ¬ s.server.history.HoldsRow u k := by
    rintro u k ⟨device, hheld⟩
    have hinv := hlock.threads u
    rw [DeviceHistory.ThreadInv, hidle u] at hinv
    exact hinv k device hheld
  refine ⟨fun k => ?_, fun k => ?_, fun k => ?_, fun k => ?_⟩
  · rw [Option.eq_none_iff_forall_ne_some]
    exact fun p hheld => hrows p.1 k ⟨p.2, hheld⟩
  · rw [Option.eq_none_iff_forall_ne_some]
    intro p hheld
    have hbegun := h.begun p.1 (h.advisory p.1 k p.2 hheld)
    rw [hidle] at hbegun
    cases hbegun
  · rw [Option.eq_none_iff_forall_ne_some]
    exact fun p hheld => hrows p.1 k (h.odometer p.1 k p.2 hheld)
  · rw [Option.eq_none_iff_forall_ne_some]
    exact fun p hheld => hrows p.1 k.1 (h.daily p.1 k p.2 hheld)

/-- **A server that is not at rest can do something**, and has less to do afterwards. -/
theorem exists_progress (hserver : Gt06TcpServer.ServerInv peer s.server) (h : s.DistanceInv)
    {n : ℕ} (hbounded : s.server.Bounded n) (hbusy : ¬ s.server.AtRest) :
    ∃ e s', IsProgress e ∧ s.step hashtext distanceMeters peer e = some s' ∧
      s'.server.Bounded n ∧ s'.workBelow n < s.workBelow n ∧
      (∀ t, (s'.server.tasks t).read = (s.server.tasks t).read) ∧
      s'.server.lost = s.server.lost := by
  simp only [Gt06TcpServer.AtRest, not_forall, Bool.not_eq_false] at hbusy
  obtain ⟨t, hdraining⟩ := hbusy
  cases hidle : (s.server.history.threads t).isIdle with
  | true =>
      -- the task asks the decoder
      have hidle' := Gt06TcpServer.isIdle_iff.1 hidle
      have ht : t < n := by
        by_contra hle
        rw [hbounded t (not_lt.1 hle)] at hdraining
        cases hdraining
      refine ⟨.next t, s.next peer t, ⟨t, Or.inl rfl⟩, ?_, ?_, ?_, ?_,
        (Gt06TcpServer.commits_next peer s.server t).2⟩
      · simp [step, Gt06TcpServer.step, hdraining, hidle, next]
      · intro u hu
        change ((s.server.next peer t).tasks u).draining = false
        rw [Gt06TcpServer.tasks_next_of_ne (by omega)]
        exact hbounded u hu
      · exact workBelow_lt ht (work_next hdraining hidle')
          fun u hu => work_next_of_ne hu hidle'
      · exact fun u => Gt06TcpServer.read_next peer u
  | false =>
      -- its transaction is under way, and one of those under way can go on
      obtain ⟨u, s', hu, hstep⟩ : ∃ u s', (s.server.history.threads u).isIdle = false ∧
          s.step hashtext distanceMeters peer (.advance u) = some s' :=
        exists_advance hserver h hidle
      obtain ⟨htasks, hlost, hothers, hless⟩ := advances_of_step hstep
      have hun : u < n := by
        by_contra hle
        have hidle' := ((hserver.tasks u).waits (hbounded u (not_lt.1 hle))).2
        rw [hidle'] at hu
        cases hu
      refine ⟨.advance u, s', ⟨u, Or.inr rfl⟩, hstep, ?_, workBelow_lt hun ?_ ?_, ?_, hlost⟩
      · intro v hv
        rw [htasks]
        exact hbounded v hv
      · rw [work, work, htasks]
        omega
      · intro v hv
        rw [work, work, htasks, hothers v hv]
      · exact fun v => by rw [htasks]

end DistanceServer

open DistanceServer in
/-- **The server comes to rest**: from every state it can reach, whatever its connections are
doing, whichever of them wait for the same device and whichever devices have one advisory lock, the
tasks can go on without another byte and without a rollback until all of them wait for their
sockets and nobody holds a lock; and then every connection has stored all the reports of its
stream, in order, but those that were rolled back before. -/
theorem server_comes_to_rest {K : Type} [Field K] [LinearOrder K] [IsStrictOrderedRing K]
    {hashtext : String → ℤ} {distanceMeters : F64 → F64 → F64 → F64 → K}
    {peer : ℕ → SocketAddr} {clock : ℤ} {tr : List (DistanceServer K × ServerEvent)}
    {s : DistanceServer K} (run : Run (step hashtext distanceMeters peer) (start clock) tr s) :
    ∃ tr' s', Run (step hashtext distanceMeters peer) s tr' s' ∧ (∀ p ∈ tr', IsProgress p.2) ∧
      s'.server.AtRest ∧ s'.NothingHeld ∧
      ∀ t, ∃ kept,
        kept.Sublist (reports (eventsOf (peer t) (streamFrames (s.server.tasks t).read))) ∧
        List.Forall₂ Stores kept (s'.server.storedBy t) ∧
        kept.length + s.server.lost t =
          (reports (eventsOf (peer t) (streamFrames (s.server.tasks t).read))).length := by
  obtain ⟨trServer, runServer⟩ := server_run run
  obtain ⟨n, hbounded⟩ := Gt06TcpServer.bounded_of_run runServer
  have progress : ∀ r : DistanceServer K,
      (Gt06TcpServer.ServerInv peer r.server ∧ r.DistanceInv ∧ r.server.Bounded n ∧
        (∀ t, (r.server.tasks t).read = (s.server.tasks t).read) ∧
        r.server.lost = s.server.lost) → ¬ r.server.AtRest →
      ∃ e r', IsProgress e ∧ r.step hashtext distanceMeters peer e = some r' ∧
        (Gt06TcpServer.ServerInv peer r'.server ∧ r'.DistanceInv ∧ r'.server.Bounded n ∧
          (∀ t, (r'.server.tasks t).read = (s.server.tasks t).read) ∧
          r'.server.lost = s.server.lost) ∧ r'.workBelow n < r.workBelow n := by
    rintro r ⟨hserver, hdistance, hr, hread, hlost⟩ hbusy
    obtain ⟨e, r', he, hstep, hr', hlt, hread', hlost'⟩ :=
      exists_progress hserver hdistance hr hbusy
    exact ⟨e, r', he, hstep, ⟨serverInv_of_step hserver hstep,
      distanceInv_step hdistance hserver.lock hstep, hr', fun t => (hread' t).trans (hread t),
      hlost'.trans hlost⟩, hlt⟩
  obtain ⟨hserver, hdistance⟩ := distanceInv_of_run run
  obtain ⟨tr', s', run', hprogress, ⟨hserver', hdistance', -, hread, hlost⟩, hrest⟩ :=
    exists_run_of_decreasing (workBelow n) progress
      ⟨hserver, hdistance, hbounded, fun _ => rfl, rfl⟩
  refine ⟨tr', s', run', hprogress, hrest, ?_, fun t => ?_⟩
  · exact hdistance'.nothingHeld hserver'.lock fun t => ((hserver'.tasks t).waits (hrest t)).2
  · obtain ⟨kept, hkept, hstores, hlength⟩ := (hserver'.tasks t).storedOf_stream
    have hlength := hlength (hrest t)
    rw [hread t] at hkept hlength
    rw [hlost] at hlength
    exact ⟨kept, hkept, hstores, hlength⟩

/-- The location of a vehicle that stands still. -/
def trackerLocation : Frame :=
  ⟨protocolLocation, [0x20, 0x04, 0x25, 0x10, 0x00, 0x00, 0xC4, 0x00, 0xAA, 0x00, 0x00, 0x0B, 0x60,
    0x00, 0x00, 0x00, 0x00, 0x00], 2⟩

/-- The login of another device. -/
def otherLogin : Frame :=
  ⟨protocolLogin, [0x08, 0x66, 0x22, 0x10, 0x70, 0x47, 0x83, 0x89], 1⟩

/-- Two devices log in and report a location each; the first one is counting its distance when the
second one comes to its advisory lock. -/
def bothCounting : List ServerEvent :=
  [.read 1 (buildFrame trackerLogin ++ buildFrame trackerLocation),
    .read 2 (buildFrame otherLogin ++ buildFrame trackerLocation)] ++
  [1, 2].flatMap (fun t => [.next t, .advance t, .advance t, .next t, .advance t, .advance t]) ++
  [.advance 1]

/-- Their advisory locks are one. -/
def oneKey : String → ℤ := fun _ => 0

theorem replay_bothCounting :
    (replay (DistanceServer.step oneKey (fun _ _ _ _ => (0 : ℚ)) trackerPeer)
      (DistanceServer.start 0) bothCounting).any
      (fun s => (s.server.tasks 1).draining = true ∧
        (s.step oneKey (fun _ _ _ _ => (0 : ℚ)) trackerPeer
          (.advance 2)).isNone = true) = true := by
  decide +kernel

/-- The second transaction waits for the advisory lock of the first, and the server can come to
rest. -/
theorem server_comes_to_rest_bothCounting :
    ∃ tr s, tr.map Prod.snd = bothCounting ∧
      Run (DistanceServer.step oneKey (fun _ _ _ _ => (0 : ℚ)) trackerPeer)
        (DistanceServer.start 0) tr s ∧
      s.step oneKey (fun _ _ _ _ => (0 : ℚ)) trackerPeer (.advance 2) = none ∧
      ¬ s.server.AtRest ∧
      ∃ tr' s', Run (DistanceServer.step oneKey (fun _ _ _ _ => (0 : ℚ)) trackerPeer) s tr' s' ∧
        s'.server.AtRest := by
  obtain ⟨tr, s, hes, run, hs⟩ := run_of_replay_any replay_bothCounting
  obtain ⟨hbusy, hwaits⟩ := of_decide_eq_true hs
  obtain ⟨tr', s', run', -, hrest, -⟩ := server_comes_to_rest run
  refine ⟨tr, s, hes, run, Option.isNone_iff_eq_none.1 hwaits, fun h => ?_, tr', s', run', hrest⟩
  rw [h 1] at hbusy
  cases hbusy

end Gt06
