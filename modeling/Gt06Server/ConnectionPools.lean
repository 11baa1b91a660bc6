/-
**Tasks that share connections and locks.**

Tasks take connections from a pool of a fixed size.  A query takes one and gives it back; a
transaction keeps its connection to the end, may wait for a lock that it keeps as well, and may send
a query on a second connection while it is open.  Whoever finds the pool empty waits, and so does
whoever finds a lock taken.  So tasks can wait for one another in a circle that goes through the
pool: a transaction waits for a second connection, and all of them are with transactions that wait
for its lock, or for a second connection themselves.

When that can happen is a matter of counting.  A transaction can be caught in such a circle only if
some transaction on its lock sends queries while it is open; and if there are at least as many
transactions of this kind as there are connections, some order of events ends in one.

Main definitions:

* `Pools.Kind`, `Pools.Move` — what a request asks for, and what happens to one task;
* `Pools.Step`, `Pools.Serve` — what happens to the tasks, and what happens without a refusal;
* `Pools.Job` — a program with at most one transaction on at most one lock;
* `Pools.demand` — the number of transactions that can be caught.

Main results:

* `Pools.Stage.move` — the stages of a job, kept by whatever happens to it;
* `Pools.wellFounded_step`, `Pools.exists_rest` — no task goes on for ever;
* `Pools.PoolInv.serve`, `Pools.exists_deadlock` — progress, and the circle;
* `Pools.suffices_iff` — **a pool suffices exactly when the demand is less than its size**.
-/

import Mathlib
import Gt06Server.Await

set_option relaxedAutoImplicit false
set_option autoImplicit false

namespace Pools

open Await

variable {ρ : Type} {reply : ρ → Type} {κ ι : Type}

/-! ### One task -/

/-- What a request asks for: a connection for one statement, a connection for a transaction, a lock
that the transaction keeps, nothing but the connection it has, or the end of the transaction. -/
inductive Kind (κ : Type) where
  | query
  | begin
  | lock (key : κ)
  | execute
  | commit

/-- A task: the rest of its program, the connection and the lock of its transaction, and whether a
connection has been handed to the request it waits for. -/
structure Worker (ρ : Type) (reply : ρ → Type) (κ : Type) where
  rest : Prog ρ reply Unit
  inTx : Bool
  lock : Option κ
  busy : Bool

/-- The program waits for an answer. -/
def Waits : Prog ρ reply Unit → Prop
  | .call _ _ => True
  | _ => False

namespace Worker

/-- A program that ends drops its transaction. -/
def resume (rest : Prog ρ reply Unit) (inTx : Bool) (lock : Option κ) : Worker ρ reply κ :=
  match rest with
  | .call r k => ⟨.call r k, inTx, lock, false⟩
  | .done a => ⟨.done a, false, none, false⟩
  | .fail => ⟨.fail, false, none, false⟩

/-- The connections a task has. -/
def connections (w : Worker ρ reply κ) : ℕ := w.inTx.toNat + w.busy.toNat

@[simp] theorem rest_resume (rest : Prog ρ reply Unit) (inTx : Bool) (lock : Option κ) :
    (resume rest inTx lock : Worker ρ reply κ).rest = rest := by
  cases rest with
  | done a => rfl
  | fail => rfl
  | call r k => rfl

@[simp] theorem busy_resume (rest : Prog ρ reply Unit) (inTx : Bool) (lock : Option κ) :
    (resume rest inTx lock : Worker ρ reply κ).busy = false := by
  cases rest with
  | done a => rfl
  | fail => rfl
  | call r k => rfl

@[simp] theorem resume_outside (rest : Prog ρ reply Unit) :
    (resume rest false none : Worker ρ reply κ) = ⟨rest, false, none, false⟩ := by
  cases rest with
  | done a => rfl
  | fail => rfl
  | call r k => rfl

theorem resume_of_waits {rest : Prog ρ reply Unit} (h : Waits rest) (inTx : Bool)
    (lock : Option κ) : (resume rest inTx lock : Worker ρ reply κ) = ⟨rest, inTx, lock, false⟩ := by
  cases rest with
  | done a => exact h.elim
  | fail => exact h.elim
  | call r k => rfl

end Worker

/-- What a move of a task needs from the others. -/
inductive Action (κ : Type) where
  | acquire
  | lock (key : κ)
  | answer
  | refuse

section Moves

variable (kind : ρ → Kind κ)

/-- The moves of one task.  Any answer may come, and any waiting may be refused. -/
inductive Move : Worker ρ reply κ → Action κ → Worker ρ reply κ → Prop
  | acquire {r : ρ} {k : Option (reply r) → Prog ρ reply Unit} {inTx : Bool} {lock : Option κ}
      (h : kind r = .query ∨ kind r = .begin) :
      Move ⟨.call r k, inTx, lock, false⟩ .acquire ⟨.call r k, inTx, lock, true⟩
  | query {r : ρ} {k : Option (reply r) → Prog ρ reply Unit} {inTx : Bool} {lock : Option κ}
      (h : kind r = .query) (x : Option (reply r)) :
      Move ⟨.call r k, inTx, lock, true⟩ .answer (.resume (k x) inTx lock)
  | begin {r : ρ} {k : Option (reply r) → Prog ρ reply Unit} {inTx : Bool} {lock : Option κ}
      (h : kind r = .begin) (x : Option (reply r)) :
      Move ⟨.call r k, inTx, lock, true⟩ .answer (.resume (k x) x.isSome none)
  | lock {r : ρ} {k : Option (reply r) → Prog ρ reply Unit} {inTx : Bool} {lock : Option κ}
      {key : κ} (h : kind r = .lock key) (a : reply r) :
      Move ⟨.call r k, inTx, lock, false⟩ (.lock key) (.resume (k (some a)) inTx (some key))
  | execute {r : ρ} {k : Option (reply r) → Prog ρ reply Unit} {inTx : Bool} {lock : Option κ}
      (h : kind r = .execute) (x : Option (reply r)) :
      Move ⟨.call r k, inTx, lock, false⟩ .answer (.resume (k x) inTx lock)
  | commit {r : ρ} {k : Option (reply r) → Prog ρ reply Unit} {inTx : Bool} {lock : Option κ}
      (h : kind r = .commit) (x : Option (reply r)) :
      Move ⟨.call r k, inTx, lock, false⟩ .answer (.resume (k x) false none)
  | refuse {r : ρ} {k : Option (reply r) → Prog ρ reply Unit} {inTx : Bool} {lock : Option κ}
      (h : kind r = .query ∨ kind r = .begin ∨ ∃ key, kind r = .lock key) :
      Move ⟨.call r k, inTx, lock, false⟩ .refuse (.resume (k none) inTx lock)

variable {kind}

/-- Every answer leaves a smaller program. -/
theorem acc_worker (p : Prog ρ reply Unit) (w : Worker ρ reply κ) (hw : w.rest = p) :
    Acc (fun w' w => ∃ a, Move kind w a w') w := by
  induction p generalizing w with
  | done a =>
      refine ⟨_, fun w' ⟨_, h⟩ => ?_⟩
      cases h <;> cases hw
  | fail =>
      refine ⟨_, fun w' ⟨_, h⟩ => ?_⟩
      cases h <;> cases hw
  | call r k ih =>
      have hresume : ∀ x inTx lock, Acc (fun w' w => ∃ a, Move kind w a w')
          (Worker.resume (k x) inTx lock) :=
        fun x inTx lock => ih x _ (Worker.rest_resume ..)
      obtain ⟨rest, inTx, lock, busy⟩ := w
      obtain rfl : rest = .call r k := hw
      have htrue : Acc (fun w' w => ∃ a, Move kind w a w') ⟨.call r k, inTx, lock, true⟩ := by
        refine ⟨_, fun w' ⟨_, h⟩ => ?_⟩
        cases h with
        | query h x => exact hresume x _ _
        | begin h x => exact hresume x _ _
      cases busy with
      | true => exact htrue
      | false =>
          refine ⟨_, fun w' ⟨_, h⟩ => ?_⟩
          cases h with
          | acquire h => exact htrue
          | lock h a => exact hresume _ _ _
          | execute h x => exact hresume x _ _
          | commit h x => exact hresume x _ _
          | refuse h => exact hresume _ _ _

end Moves

/-! ### The tasks -/

section Tasks

variable [DecidableEq ι] [Fintype ι] (kind : ρ → Kind κ) (connections : ℕ)

/-- The connections that are with the tasks. -/
def used (s : ι → Worker ρ reply κ) : ℕ := ∑ t, (s t).connections

/-- What a move of a task needs: a free connection, or a lock that no other task has. -/
def Allows (s : ι → Worker ρ reply κ) (t : ι) : Action κ → Prop
  | .acquire => used s < connections
  | .lock key => ∀ u, u ≠ t → (s u).lock ≠ some key
  | .answer => True
  | .refuse => True

/-- One task moves. -/
inductive Step (s : ι → Worker ρ reply κ) : (ι → Worker ρ reply κ) → Prop
  | move (t : ι) {a : Action κ} {w : Worker ρ reply κ} (h : Move kind (s t) a w)
      (hallows : Allows connections s t a) : Step s (Function.update s t w)

/-- One task moves, and it is not refused what it waits for. -/
inductive Serve (s : ι → Worker ρ reply κ) : (ι → Worker ρ reply κ) → Prop
  | move (t : ι) {a : Action κ} {w : Worker ρ reply κ} (h : Move kind (s t) a w) (ha : a ≠ .refuse)
      (hallows : Allows connections s t a) : Serve s (Function.update s t w)

/-- No task waits for anything. -/
def AtRest (s : ι → Worker ρ reply κ) : Prop := ∀ t, ¬ Waits (s t).rest

variable {kind connections} {s s' : ι → Worker ρ reply κ}

theorem Serve.step (h : Serve kind connections s s') : Step kind connections s s' := by
  cases h with
  | move t h ha hallows => exact .move t h hallows

/-- No task goes on for ever. -/
theorem wellFounded_step :
    WellFounded fun s' s : ι → Worker ρ reply κ => Step kind connections s s' := by
  have hmove : WellFounded fun w' w : Worker ρ reply κ => ∃ a, Move kind w a w' :=
    ⟨fun w => acc_worker w.rest w rfl⟩
  have hlex := Pi.Lex.wellFounded WellOrderingRel fun _ : ι => hmove
  refine Subrelation.wf ?_ hlex
  intro s' s h
  cases h with
  | move t h hallows =>
      refine ⟨t, fun u hu => ?_, ?_⟩
      · have hne : u ≠ t := by
          rintro rfl
          exact irrefl _ hu
        exact Function.update_of_ne hne ..
      · rw [Function.update_self]
        exact ⟨_, h⟩

/-- When in every state of an invariant some task can be served unless all are at rest, all can be
served to the end. -/
theorem exists_rest {I : (ι → Worker ρ reply κ) → Prop}
    (hI : ∀ s s', I s → Serve kind connections s s' → I s')
    (hprogress : ∀ s, I s → AtRest s ∨ ∃ s', Serve kind connections s s')
    (s : ι → Worker ρ reply κ) (h : I s) :
    ∃ s', Relation.ReflTransGen (Serve kind connections) s s' ∧ AtRest s' := by
  have hwf : WellFounded fun s' s : ι → Worker ρ reply κ => Step kind connections s s' :=
    wellFounded_step
  induction s using hwf.induction with
  | _ s ih =>
      rcases hprogress s h with hrest | ⟨s₁, hserve⟩
      · exact ⟨s, .refl, hrest⟩
      · obtain ⟨s', hrun, hrest⟩ := ih s₁ hserve.step (hI s s₁ h hserve)
        exact ⟨s', .head hserve hrun, hrest⟩

end Tasks

/-! ### Jobs -/

section Shapes

variable (kind : ρ → Kind κ)

/-- Queries and nothing else. -/
def Plain : Prog ρ reply Unit → Prop
  | .call r k => kind r = .query ∧ ∀ x, Plain (k x)
  | _ => True

/-- The rest of a transaction without a lock and without queries. -/
def Quiet : Prog ρ reply Unit → Prop
  | .call r k =>
      kind r = .execute ∧ (∀ x, Quiet (k x)) ∨ kind r = .commit ∧ ∀ x, Plain kind (k x)
  | _ => True

/-- The rest of a transaction that has its lock. -/
def Locked : Prog ρ reply Unit → Prop
  | .call r k =>
      (kind r = .query ∨ kind r = .execute) ∧ (∀ x, Locked (k x)) ∨
        kind r = .commit ∧ ∀ x, Plain kind (k x)
  | _ => True

/-- The rest of a transaction that is about to take its lock. -/
def Locking (key : κ) : Prog ρ reply Unit → Prop
  | .call r k => kind r = .lock key ∧ ¬ Waits (k none) ∧ ∀ a, Locked kind (k (some a))
  | _ => False

variable {kind} in
theorem plain_of_uses {p : Prog ρ reply Unit} (h : p.Uses fun r => kind r = .query) :
    Plain kind p := by
  induction p with
  | done a => trivial
  | fail => trivial
  | call r k ih => exact ⟨h.1, fun x => ih x (h.2 x)⟩

variable {kind} in
/-- A statement of a transaction that has its lock. -/
theorem locked_call {r : ρ} {k : Option (reply r) → Prog ρ reply Unit}
    (h : kind r = .query ∨ kind r = .execute) (hnone : Locked kind (k none))
    (hsome : ∀ a, Locked kind (k (some a))) : Locked kind (.call r k) := by
  refine .inl ⟨h, fun x => ?_⟩
  cases x with
  | none => exact hnone
  | some a => exact hsome a

variable {kind} in
/-- The commit of a transaction. -/
theorem locked_commit {r : ρ} {k : Option (reply r) → Prog ρ reply Unit} (h : kind r = .commit)
    (hnone : Plain kind (k none)) (hsome : ∀ a, Plain kind (k (some a))) :
    Locked kind (.call r k) := by
  refine .inr ⟨h, fun x => ?_⟩
  cases x with
  | none => exact hnone
  | some a => exact hsome a

/-- Programs with at most one transaction, to begin with, and with the lock it takes. -/
inductive Shaped : Option κ → Prog ρ reply Unit → Prop
  | plain {p : Prog ρ reply Unit} (h : Plain kind p) : Shaped none p
  | quiet {r : ρ} {k : Option (reply r) → Prog ρ reply Unit} (h : kind r = .begin)
      (hnone : Plain kind (k none)) (hsome : ∀ a, Quiet kind (k (some a))) :
      Shaped none (.call r k)
  | locking {key : κ} {r : ρ} {k : Option (reply r) → Prog ρ reply Unit} (h : kind r = .begin)
      (hnone : Plain kind (k none)) (hsome : ∀ a, Locking kind key (k (some a))) :
      Shaped (some key) (.call r k)

/-- A program with the lock of its transaction. -/
structure Job (ρ : Type) (reply : ρ → Type) (kind : ρ → Kind κ) where
  prog : Prog ρ reply Unit
  key : Option κ
  shaped : Shaped kind key prog

/-- Some answers lead to a query in the rest of a transaction that has its lock. -/
def Queries : Prog ρ reply Unit → Prop
  | .call r k => kind r = .query ∨ kind r = .execute ∧ ∃ x, Queries (k x)
  | _ => False

/-- So they do in a transaction that takes its lock. -/
def QueriesLocked : Prog ρ reply Unit → Prop
  | .call _ k => ∃ a, Queries kind (k (some a))
  | _ => False

/-- So they do in a program that begins with its transaction. -/
def MayQuery : Prog ρ reply Unit → Prop
  | .call _ k => ∃ a, QueriesLocked kind (k (some a))
  | _ => False

variable {kind} in
/-- No query comes of a statement when none comes of its answers. -/
theorem not_queries_call {r : ρ} {k : Option (reply r) → Prog ρ reply Unit} (h : kind r ≠ .query)
    (hnone : ¬ Queries kind (k none)) (hsome : ∀ a, ¬ Queries kind (k (some a))) :
    ¬ Queries kind (.call r k) := by
  rintro (hquery | ⟨-, x, hx⟩)
  · exact h hquery
  · cases x with
    | none => exact hnone hx
    | some a => exact hsome a hx

end Shapes

section Jobs

variable {kind : ρ → Kind κ}

/-- A job before it is begun. -/
def Job.start (j : Job ρ reply kind) : Worker ρ reply κ := ⟨j.prog, false, none, false⟩

/-- A transaction that can be caught: some job on its lock may send queries. -/
def Contends (jobs : ι → Job ρ reply kind) (t : ι) : Prop :=
  ∃ key, (jobs t).key = some key ∧ ∃ u, (jobs u).key = some key ∧ MayQuery kind (jobs u).prog

open Classical in
/-- The number of transactions that can be caught. -/
noncomputable def demand [Fintype ι] (jobs : ι → Job ρ reply kind) : ℕ :=
  (Finset.univ.filter (Contends jobs)).card

/-! ### The stages of a job -/

/-- Where a job is. -/
inductive Stage (j : Job ρ reply kind) : Worker ρ reply κ → Prop
  | start {r : ρ} {k : Option (reply r) → Prog ρ reply Unit} (hprog : j.prog = .call r k)
      (h : kind r = .begin) (busy : Bool) : Stage j ⟨.call r k, false, none, busy⟩
  | plain {p : Prog ρ reply Unit} {busy : Bool} (h : Plain kind p)
      (hbusy : busy = true → Waits p) : Stage j ⟨p, false, none, busy⟩
  | quiet {p : Prog ρ reply Unit} (h : Quiet kind p) (hwaits : Waits p) :
      Stage j ⟨p, true, none, false⟩
  | opened {key : κ} {r : ρ} {k : Option (reply r) → Prog ρ reply Unit} (hkey : j.key = some key)
      (h : Locking kind key (.call r k))
      (hmay : QueriesLocked kind (.call r k) → MayQuery kind j.prog) :
      Stage j ⟨.call r k, true, none, false⟩
  | locked {key : κ} {r : ρ} {k : Option (reply r) → Prog ρ reply Unit} {busy : Bool}
      (hkey : j.key = some key) (h : Locked kind (.call r k))
      (hmay : Queries kind (.call r k) → MayQuery kind j.prog)
      (hbusy : busy = true → kind r = .query) : Stage j ⟨.call r k, true, some key, busy⟩

variable {j : Job ρ reply kind} {w w' : Worker ρ reply κ} {a : Action κ}

theorem stage_of_plain {p : Prog ρ reply Unit} (h : Plain kind p) :
    Stage j (Worker.resume p false none) := by
  rw [Worker.resume_outside]
  exact .plain h nofun

/-- A program that has ended has dropped its transaction. -/
theorem stage_of_ended {p : Prog ρ reply Unit} (h : ¬ Waits p) (inTx : Bool) (lock : Option κ) :
    Stage j (Worker.resume p inTx lock) := by
  cases p with
  | done a => exact .plain trivial nofun
  | fail => exact .plain trivial nofun
  | call r k => exact absurd trivial h

theorem stage_of_quiet {p : Prog ρ reply Unit} (h : Quiet kind p) :
    Stage j (Worker.resume p true none) := by
  by_cases hwaits : Waits p
  · rw [Worker.resume_of_waits hwaits]
    exact .quiet h hwaits
  · exact stage_of_ended hwaits true none

theorem stage_of_locked {key : κ} {p : Prog ρ reply Unit} (hkey : j.key = some key)
    (h : Locked kind p) (hmay : Queries kind p → MayQuery kind j.prog) :
    Stage j (Worker.resume p true (some key)) := by
  cases p with
  | done a => exact .plain trivial nofun
  | fail => exact .plain trivial nofun
  | call r k => exact .locked hkey h hmay nofun

theorem stage_start (j : Job ρ reply kind) : Stage j j.start := by
  obtain ⟨prog, key, hshaped⟩ := j
  cases hshaped with
  | plain h => exact .plain h nofun
  | quiet h _ _ => exact .start rfl h false
  | locking h _ _ => exact .start rfl h false

/-- What the first answer of a transaction leads to. -/
theorem stage_of_begun {r : ρ} {k : Option (reply r) → Prog ρ reply Unit}
    (hprog : j.prog = .call r k) (h : kind r = .begin) (x : Option (reply r)) :
    Stage j (Worker.resume (k x) x.isSome none) := by
  have hshaped := j.shaped
  rw [hprog] at hshaped
  generalize hkey : j.key = key at hshaped
  cases hshaped with
  | plain hplain => exact nomatch h.symm.trans hplain.1
  | quiet _ hnone hsome =>
      cases x with
      | none => exact stage_of_plain hnone
      | some a => exact stage_of_quiet (hsome a)
  | locking _ hnone hsome =>
      cases x with
      | none => exact stage_of_plain hnone
      | some a =>
          have hlocking := hsome a
          cases hrest : k (some a) with
          | done _ =>
              rw [hrest] at hlocking
              exact hlocking.elim
          | fail =>
              rw [hrest] at hlocking
              exact hlocking.elim
          | call r' k' =>
              rw [hrest] at hlocking
              refine .opened hkey hlocking fun hqueries => ?_
              rw [hprog]
              exact ⟨a, hrest ▸ hqueries⟩

/-- **The stages of a job**: whatever happens to it, it is in one of them. -/
theorem Stage.move (h : Stage j w) (hmove : Move kind w a w') : Stage j w' := by
  cases h with
  | start hprog hbegin busy =>
      cases hmove with
      | acquire _ => exact .start hprog hbegin true
      | query hkind _ => exact nomatch hbegin.symm.trans hkind
      | begin _ x => exact stage_of_begun hprog hbegin x
      | lock hkind _ => exact nomatch hbegin.symm.trans hkind
      | execute hkind _ => exact nomatch hbegin.symm.trans hkind
      | commit hkind _ => exact nomatch hbegin.symm.trans hkind
      | refuse _ => exact stage_of_begun hprog hbegin none
  | plain hplain hbusy =>
      cases hmove with
      | acquire _ => exact .plain hplain fun _ => trivial
      | query _ x => exact stage_of_plain (hplain.2 x)
      | begin hkind _ => exact nomatch hplain.1.symm.trans hkind
      | lock hkind _ => exact nomatch hplain.1.symm.trans hkind
      | execute hkind _ => exact nomatch hplain.1.symm.trans hkind
      | commit hkind _ => exact nomatch hplain.1.symm.trans hkind
      | refuse _ => exact stage_of_plain (hplain.2 none)
  | quiet hquiet hwaits =>
      cases hmove with
      | acquire hkind =>
          rcases hquiet with ⟨hexecute, -⟩ | ⟨hcommit, -⟩
          · rcases hkind with hkind | hkind
            · exact nomatch hexecute.symm.trans hkind
            · exact nomatch hexecute.symm.trans hkind
          · rcases hkind with hkind | hkind
            · exact nomatch hcommit.symm.trans hkind
            · exact nomatch hcommit.symm.trans hkind
      | lock hkind _ =>
          rcases hquiet with ⟨hexecute, -⟩ | ⟨hcommit, -⟩
          · exact nomatch hexecute.symm.trans hkind
          · exact nomatch hcommit.symm.trans hkind
      | execute hkind x =>
          rcases hquiet with ⟨-, hrest⟩ | ⟨hcommit, -⟩
          · exact stage_of_quiet (hrest x)
          · exact nomatch hcommit.symm.trans hkind
      | commit hkind x =>
          rcases hquiet with ⟨hexecute, -⟩ | ⟨-, hrest⟩
          · exact nomatch hexecute.symm.trans hkind
          · exact stage_of_plain (hrest x)
      | refuse hkind =>
          rcases hquiet with ⟨hexecute, -⟩ | ⟨hcommit, -⟩
          · rw [hexecute] at hkind
            rcases hkind with hkind | hkind | ⟨key, hkind⟩ <;> cases hkind
          · rw [hcommit] at hkind
            rcases hkind with hkind | hkind | ⟨key, hkind⟩ <;> cases hkind
  | opened hkey hlocking hmay =>
      obtain ⟨hlock, hnone, hsome⟩ := hlocking
      cases hmove with
      | acquire hkind =>
          rw [hlock] at hkind
          rcases hkind with hkind | hkind <;> cases hkind
      | lock hkind x =>
          obtain rfl := Kind.lock.inj (hlock.symm.trans hkind)
          exact stage_of_locked hkey (hsome x) fun hqueries => hmay ⟨x, hqueries⟩
      | execute hkind _ => exact nomatch hlock.symm.trans hkind
      | commit hkind _ => exact nomatch hlock.symm.trans hkind
      | refuse _ => exact stage_of_ended hnone true none
  | locked hkey hlocked hmay hbusy =>
      cases hmove with
      | acquire hkind =>
          rcases hkind with hkind | hkind
          · exact .locked hkey hlocked hmay fun _ => hkind
          · rcases hlocked with ⟨hquery | hexecute, -⟩ | ⟨hcommit, -⟩
            · exact nomatch hquery.symm.trans hkind
            · exact nomatch hexecute.symm.trans hkind
            · exact nomatch hcommit.symm.trans hkind
      | query hkind x =>
          rcases hlocked with ⟨-, hrest⟩ | ⟨hcommit, -⟩
          · exact stage_of_locked hkey (hrest x) fun _ => hmay (.inl hkind)
          · exact nomatch hcommit.symm.trans hkind
      | begin hkind _ => exact nomatch (hbusy rfl).symm.trans hkind
      | lock hkind _ =>
          rcases hlocked with ⟨hquery | hexecute, -⟩ | ⟨hcommit, -⟩
          · exact nomatch hquery.symm.trans hkind
          · exact nomatch hexecute.symm.trans hkind
          · exact nomatch hcommit.symm.trans hkind
      | execute hkind x =>
          rcases hlocked with ⟨-, hrest⟩ | ⟨hcommit, -⟩
          · exact stage_of_locked hkey (hrest x) fun hqueries => hmay (.inr ⟨hkind, x, hqueries⟩)
          · exact nomatch hcommit.symm.trans hkind
      | commit hkind x =>
          rcases hlocked with ⟨hquery | hexecute, -⟩ | ⟨-, hrest⟩
          · exact nomatch hquery.symm.trans hkind
          · exact nomatch hexecute.symm.trans hkind
          · exact stage_of_plain (hrest x)
      | refuse hkind =>
          rcases hlocked with ⟨hquery | hexecute, hrest⟩ | ⟨hcommit, -⟩
          · exact stage_of_locked hkey (hrest none) fun _ => hmay (.inl hquery)
          · rw [hexecute] at hkind
            rcases hkind with hkind | hkind | ⟨key, hkind⟩ <;> cases hkind
          · rw [hcommit] at hkind
            rcases hkind with hkind | hkind | ⟨key, hkind⟩ <;> cases hkind

/-- A task that has been handed a connection can be answered. -/
theorem Stage.answer_of_busy (h : Stage j w) (hbusy : w.busy = true) :
    ∃ w', Move kind w .answer w' := by
  cases h with
  | @start r k _ hbegin busy =>
      obtain rfl : busy = true := hbusy
      exact ⟨_, .begin hbegin none⟩
  | @plain p busy hplain hwaits =>
      obtain rfl : busy = true := hbusy
      cases p with
      | done a => exact (hwaits rfl).elim
      | fail => exact (hwaits rfl).elim
      | call r k => exact ⟨_, .query hplain.1 none⟩
  | quiet _ _ => nomatch hbusy
  | opened _ _ _ => nomatch hbusy
  | @locked key r k busy _ _ _ hquery =>
      obtain rfl : busy = true := hbusy
      exact ⟨_, .query (hquery rfl) none⟩

/-- What a task that waits, with no connection handed to it, waits for: an answer, a connection, or
the lock of its job. -/
inductive Stuck (j : Job ρ reply kind) (w : Worker ρ reply κ) : Prop
  | answer (w' : Worker ρ reply κ) (h : Move kind w .answer w')
  | acquire (w' : Worker ρ reply κ) (h : Move kind w .acquire w')
      (hquery : ∀ key, w.lock = some key → MayQuery kind j.prog) (hlock : w.inTx = w.lock.isSome)
  | lock (key : κ) (w' : Worker ρ reply κ) (h : Move kind w (.lock key) w')
      (hkey : j.key = some key)

theorem Stage.stuck [∀ r, Nonempty (reply r)] (h : Stage j w) (hwaits : Waits w.rest)
    (hbusy : w.busy = false) : Stuck j w := by
  cases h with
  | @start r k _ hbegin busy =>
      obtain rfl : busy = false := hbusy
      exact .acquire _ (.acquire (.inr hbegin)) nofun rfl
  | @plain p busy hplain _ =>
      obtain rfl : busy = false := hbusy
      cases p with
      | done a => exact hwaits.elim
      | fail => exact hwaits.elim
      | call r k => exact .acquire _ (.acquire (.inl hplain.1)) nofun rfl
  | @quiet p hquiet _ =>
      cases p with
      | done a => exact hwaits.elim
      | fail => exact hwaits.elim
      | call r k =>
          rcases hquiet with ⟨hexecute, -⟩ | ⟨hcommit, -⟩
          · exact .answer _ (.execute hexecute none)
          · exact .answer _ (.commit hcommit none)
  | @opened key r k hkey hlocking _ =>
      obtain ⟨a⟩ := (inferInstance : Nonempty (reply r))
      exact .lock key _ (.lock hlocking.1 a) hkey
  | @locked key r k busy _ hlocked hmay _ =>
      obtain rfl : busy = false := hbusy
      rcases hlocked with ⟨hquery | hexecute, -⟩ | ⟨hcommit, -⟩
      · exact .acquire _ (.acquire (.inl hquery)) (fun _ _ => hmay (.inl hquery)) rfl
      · exact .answer _ (.execute hexecute none)
      · exact .answer _ (.commit hcommit none)

/-- A task that has a lock has the lock of its job and waits for something. -/
theorem Stage.of_lock {key : κ} (h : Stage j w) (hlock : w.lock = some key) :
    j.key = some key ∧ Waits w.rest ∧ w.inTx = true := by
  cases h with
  | start _ _ _ => nomatch hlock
  | plain _ _ => nomatch hlock
  | quiet _ _ => nomatch hlock
  | opened _ _ _ => nomatch hlock
  | locked hkey _ _ _ => exact ⟨hlock ▸ hkey, trivial, rfl⟩

theorem Stage.waits_of_inTx (h : Stage j w) (htx : w.inTx = true) : Waits w.rest := by
  cases h with
  | start _ _ _ => nomatch htx
  | plain _ _ => nomatch htx
  | quiet _ hwaits => exact hwaits
  | opened _ _ _ => trivial
  | locked _ _ _ _ => trivial

/-- A task takes a lock only by a move for it. -/
theorem lock_of_move (hmove : Move kind w a w') {key : κ} (hlock : w'.lock = some key) :
    w.lock = some key ∨ a = .lock key := by
  have hresume : ∀ (p : Prog ρ reply Unit) inTx lock,
      (Worker.resume p inTx lock : Worker ρ reply κ).lock = some key → lock = some key := by
    intro p inTx lock h
    cases p with
    | done a => nomatch h
    | fail => nomatch h
    | call r k => exact h
  cases hmove with
  | acquire _ => exact .inl hlock
  | query _ x => exact .inl (hresume _ _ _ hlock)
  | begin _ x => exact nomatch hresume _ _ _ hlock
  | lock _ x => exact .inr (congrArg _ (Option.some.inj (hresume _ _ _ hlock)))
  | execute _ x => exact .inl (hresume _ _ _ hlock)
  | commit _ x => exact nomatch hresume _ _ _ hlock
  | refuse _ => exact .inl (hresume _ _ _ hlock)

end Jobs

/-! ### When a pool suffices -/

section Suffices

variable [DecidableEq ι] [Fintype ι] {kind : ρ → Kind κ} {connections : ℕ}
  {jobs : ι → Job ρ reply kind} {s s' : ι → Worker ρ reply κ}

/-- Every job is in one of its stages, and no lock is with two of them. -/
structure PoolInv (jobs : ι → Job ρ reply kind) (s : ι → Worker ρ reply κ) : Prop where
  stage : ∀ t, Stage (jobs t) (s t)
  exclusive : ∀ t u key, (s t).lock = some key → (s u).lock = some key → t = u

/-- **What one step preserves.** -/
theorem PoolInv.step (h : PoolInv jobs s) (hstep : Step kind connections s s') :
    PoolInv jobs s' := by
  cases hstep with
  | @move t a w hmove hallows =>
      constructor
      · intro u
        by_cases hu : u = t
        · subst hu
          rw [Function.update_self]
          exact (h.stage u).move hmove
        · rw [Function.update_of_ne hu]
          exact h.stage u
      · -- whoever takes a lock, no other task has it
        have hother : ∀ u key, u ≠ t → (s u).lock = some key →
            (Function.update s t w t).lock ≠ some key := by
          intro u key hu hlock hlock'
          rw [Function.update_self] at hlock'
          rcases lock_of_move hmove hlock' with hold | rfl
          · exact hu (h.exclusive u t key hlock hold)
          · exact hallows u hu hlock
        intro u v key hu hv
        by_cases hut : u = t
        · by_cases hvt : v = t
          · rw [hut, hvt]
          · rw [Function.update_of_ne hvt] at hv
            exact absurd (hut ▸ hu) (hother v key hvt hv)
        · rw [Function.update_of_ne hut] at hu
          by_cases hvt : v = t
          · exact absurd (hvt ▸ hv) (hother u key hut hu)
          · rw [Function.update_of_ne hvt] at hv
            exact h.exclusive u v key hu hv

omit [DecidableEq ι] [Fintype ι] in
theorem poolInv_start (jobs : ι → Job ρ reply kind) : PoolInv jobs fun t => (jobs t).start :=
  ⟨fun t => stage_start (jobs t), nofun⟩

theorem PoolInv.run (h : PoolInv jobs s)
    (hrun : Relation.ReflTransGen (Step kind connections) s s') : PoolInv jobs s' := by
  induction hrun with
  | refl => exact h
  | tail _ hstep ih => exact ih.step hstep

omit [DecidableEq ι] in
/-- The connections are with open transactions, if no other is handed out. -/
theorem used_eq_card (hbusy : ∀ t, (s t).busy = false) :
    used s = (Finset.univ.filter fun t => (s t).inTx = true).card := by
  rw [used, Finset.card_filter]
  refine Finset.sum_congr rfl fun t _ => ?_
  rw [Worker.connections, hbusy t]
  cases (s t).inTx with
  | false => rfl
  | true => rfl

/-- **Progress**: as long as the demand is less than the size of the pool, some task can be served,
or none waits. -/
theorem PoolInv.serve [∀ r, Nonempty (reply r)] (h : PoolInv jobs s)
    (hdemand : demand jobs < connections) :
    AtRest s ∨ ∃ s', Serve kind connections s s' := by
  by_contra hstuck
  obtain ⟨hrest, hserve⟩ := not_or.1 hstuck
  have hserve : ∀ s', ¬ Serve kind connections s s' := fun s' h => hserve ⟨s', h⟩
  have hanswer : ∀ t w', ¬ Move kind (s t) .answer w' :=
    fun t w' hmove => hserve _ (.move t hmove nofun trivial)
  have hbusy : ∀ t, (s t).busy = false := by
    intro t
    by_contra hb
    obtain ⟨w', hmove⟩ := (h.stage t).answer_of_busy (Bool.eq_true_of_not_eq_false hb)
    exact hanswer t w' hmove
  have hfull : ∀ t w', Move kind (s t) .acquire w' → connections ≤ used s :=
    fun t w' hmove => not_lt.1 fun hlt => hserve _ (.move t hmove nofun hlt)
  have hholder : ∀ t key w', Move kind (s t) (.lock key) w' →
      ∃ u, u ≠ t ∧ (s u).lock = some key := by
    intro t key w' hmove
    by_contra hnone
    exact hserve _ (.move t hmove nofun fun u hu hlock => hnone ⟨u, hu, hlock⟩)
  -- whoever has a lock waits for a second connection
  have hquery : ∀ u key, (s u).lock = some key →
      MayQuery kind (jobs u).prog ∧ connections ≤ used s := by
    intro u key hlock
    obtain ⟨hkey, hwaits, -⟩ := (h.stage u).of_lock hlock
    cases (h.stage u).stuck hwaits (hbusy u) with
    | answer w' hmove => exact absurd hmove (hanswer u w')
    | acquire w' hmove hmay _ => exact ⟨hmay key hlock, hfull u w' hmove⟩
    | lock key' w' hmove hkey' =>
        obtain ⟨v, hv, hlock'⟩ := hholder u key' w' hmove
        obtain rfl := Option.some.inj (hkey.symm.trans hkey')
        exact absurd (h.exclusive v u key hlock' hlock) hv
  have hused : connections ≤ used s := by
    obtain ⟨t, hwaits⟩ := not_forall.1 hrest
    cases (h.stage t).stuck (not_not.1 hwaits) (hbusy t) with
    | answer w' hmove => exact absurd hmove (hanswer t w')
    | acquire w' hmove _ _ => exact hfull t w' hmove
    | lock key w' hmove _ =>
        obtain ⟨u, -, hlock⟩ := hholder t key w' hmove
        exact (hquery u key hlock).2
  -- so every open transaction is caught
  have hcontends : ∀ t, (s t).inTx = true → Contends jobs t := by
    intro t htx
    cases (h.stage t).stuck ((h.stage t).waits_of_inTx htx) (hbusy t) with
    | answer w' hmove => exact absurd hmove (hanswer t w')
    | acquire w' hmove hmay hlock =>
        obtain ⟨key, hkey⟩ := Option.isSome_iff_exists.1 (hlock ▸ htx)
        have hown := ((h.stage t).of_lock hkey).1
        exact ⟨key, hown, t, hown, hmay key hkey⟩
    | lock key w' hmove hkey =>
        obtain ⟨u, -, hlock⟩ := hholder t key w' hmove
        exact ⟨key, hkey, u, ((h.stage u).of_lock hlock).1, (hquery u key hlock).1⟩
  have hcount : used s ≤ demand jobs := by
    classical
    rw [used_eq_card hbusy, demand]
    exact Finset.card_le_card (Finset.monotone_filter_right _ fun t _ => hcontends t)
  exact absurd (hused.trans hcount) (not_le.2 hdemand)

/-! ### When a pool does not suffice -/

omit [DecidableEq ι] [Fintype ι] in
/-- A job with a lock opens its transaction with one connection. -/
theorem Job.exists_opened [∀ r, Nonempty (reply r)] (j : Job ρ reply kind) {key : κ}
    (hkey : j.key = some key) :
    ∃ (r : ρ) (k : Option (reply r) → Prog ρ reply Unit),
      Locking kind key (.call r k) ∧
      (MayQuery kind j.prog → QueriesLocked kind (.call r k)) ∧
      ∃ w, Move kind j.start .acquire w ∧ Move kind w .answer ⟨.call r k, true, none, false⟩ := by
  obtain ⟨prog, key', hshaped⟩ := j
  obtain rfl : key' = some key := hkey
  cases hshaped with
  | @locking _ r₀ k₀ hbegin _ hsome =>
      -- the answer that leads to the queries, if there is one
      obtain ⟨a, hmay⟩ : ∃ a, MayQuery kind (.call r₀ k₀) → QueriesLocked kind (k₀ (some a)) := by
        by_cases hmay : MayQuery kind (.call r₀ k₀)
        · obtain ⟨a, ha⟩ := hmay
          exact ⟨a, fun _ => ha⟩
        · exact ⟨Classical.choice inferInstance, fun h => absurd h hmay⟩
      have hlocking := hsome a
      have hanswer : Move kind (⟨.call r₀ k₀, false, none, true⟩ : Worker ρ reply κ) .answer
          (Worker.resume (k₀ (some a)) true none) := .begin hbegin (some a)
      cases hrest : k₀ (some a) with
      | done _ =>
          rw [hrest] at hlocking
          exact hlocking.elim
      | fail =>
          rw [hrest] at hlocking
          exact hlocking.elim
      | call r k =>
          rw [hrest] at hlocking hmay hanswer
          exact ⟨r, k, hlocking, hmay, _, .acquire (.inr hbegin), hanswer⟩

omit [DecidableEq ι] [Fintype ι] in
/-- The answers that lead to a query. -/
theorem exists_query {p : Prog ρ reply Unit} (h : Queries kind p) (key : κ) :
    ∃ (r : ρ) (k : Option (reply r) → Prog ρ reply Unit), kind r = .query ∧
      Relation.ReflTransGen (fun w w' => Move kind w .answer w')
        (Worker.resume p true (some key)) ⟨.call r k, true, some key, false⟩ := by
  induction p with
  | done a => exact h.elim
  | fail => exact h.elim
  | call r k ih =>
      rcases h with hquery | ⟨hexecute, x, hx⟩
      · exact ⟨r, k, hquery, .refl⟩
      · obtain ⟨r', k', hquery, hanswers⟩ := ih x hx
        exact ⟨r', k', hquery, .head (.execute hexecute x) hanswers⟩

omit [DecidableEq ι] [Fintype ι] in
/-- A transaction that may send queries takes its lock and comes to one. -/
theorem exists_caught {key : κ} {r : ρ} {k : Option (reply r) → Prog ρ reply Unit}
    (h : Locking kind key (.call r k)) (hqueries : QueriesLocked kind (.call r k)) :
    ∃ (r' : ρ) (k' : Option (reply r') → Prog ρ reply Unit), kind r' = .query ∧
      ∃ w, Move kind ⟨.call r k, true, none, false⟩ (.lock key) w ∧
        Relation.ReflTransGen (fun w w' => Move kind w .answer w') w
          ⟨.call r' k', true, some key, false⟩ := by
  obtain ⟨a, ha⟩ := hqueries
  obtain ⟨r', k', hquery, hanswers⟩ := exists_query ha key
  exact ⟨r', k', hquery, _, .lock h.1 a, hanswers⟩

/-- A task that only needs answers gets them. -/
theorem reach_of_answers {t : ι} {w w' : Worker ρ reply κ}
    (h : Relation.ReflTransGen (fun w w' => Move kind w .answer w') w w') (hs : s t = w) :
    Relation.ReflTransGen (Step kind connections) s (Function.update s t w') := by
  induction h with
  | refl =>
      rw [← hs, Function.update_eq_self]
  | @tail w₁ w₂ _ hmove ih =>
      have hself : Move kind (Function.update s t w₁ t) .answer w₂ := by
        rwa [Function.update_self]
      have hstep := ih.tail (.move t hself trivial)
      rwa [Function.update_idem] at hstep

/-- As many transactions as there are connections can be opened. -/
theorem reach_opened {opened : ι → Worker ρ reply κ} {U : Finset ι} (hU : U.card ≤ connections)
    (hstart : ∀ t, (s t).connections = 0) (hopened : ∀ t ∈ U, (opened t).connections = 1)
    (hmoves : ∀ t ∈ U, ∃ w, Move kind (s t) .acquire w ∧ Move kind w .answer (opened t)) :
    ∀ V ⊆ U, Relation.ReflTransGen (Step kind connections) s (V.piecewise opened s) := by
  intro V
  induction V using Finset.induction_on with
  | empty =>
      intro _
      rw [Finset.piecewise_empty]
  | @insert t V ht ih =>
      intro hV
      obtain ⟨htU, hV⟩ := Finset.insert_subset_iff.1 hV
      obtain ⟨w, hacquire, hanswer⟩ := hmoves t htU
      have hused : used (V.piecewise opened s) = V.card := by
        rw [used, Finset.card_eq_sum_ones, ← Finset.sum_subset (Finset.subset_univ V)]
        · refine Finset.sum_congr rfl fun u hu => ?_
          rw [Finset.piecewise_eq_of_mem _ _ _ hu, hopened u (hV hu)]
        · intro u _ hu
          rw [Finset.piecewise_eq_of_notMem _ _ _ hu, hstart u]
      have hfree : used (V.piecewise opened s) < connections := by
        rw [hused]
        exact (Finset.card_lt_card ⟨hV, fun hle => ht (hle htU)⟩).trans_le hU
      have hself : Move kind (V.piecewise opened s t) .acquire w := by
        rwa [Finset.piecewise_eq_of_notMem _ _ _ ht]
      have hself' : Move kind (Function.update (V.piecewise opened s) t w t) .answer
          (opened t) := by
        rwa [Function.update_self]
      have hstep := ((ih hV).tail (.move t hself hfree)).tail (.move t hself' trivial)
      rwa [Function.update_idem, ← Finset.piecewise_insert] at hstep

/-- Tasks take different locks and go on as far as they get. -/
theorem reach_caught {caught : ι → Worker ρ reply κ} {C : Finset ι} {key : ι → κ}
    (hfree : ∀ t ∈ C, ∀ u, (s u).lock ≠ some (key t))
    (hcaught : ∀ t ∈ C, (caught t).lock = some (key t))
    (hkeys : ∀ t ∈ C, ∀ u ∈ C, key t = key u → t = u)
    (hmoves : ∀ t ∈ C, ∃ w, Move kind (s t) (.lock (key t)) w ∧
      Relation.ReflTransGen (fun w w' => Move kind w .answer w') w (caught t)) :
    ∀ V ⊆ C, Relation.ReflTransGen (Step kind connections) s (V.piecewise caught s) := by
  intro V
  induction V using Finset.induction_on with
  | empty =>
      intro _
      rw [Finset.piecewise_empty]
  | @insert t V ht ih =>
      intro hV
      obtain ⟨htC, hV⟩ := Finset.insert_subset_iff.1 hV
      obtain ⟨w, hlock, hanswers⟩ := hmoves t htC
      have hself : Move kind (V.piecewise caught s t) (.lock (key t)) w := by
        rwa [Finset.piecewise_eq_of_notMem _ _ _ ht]
      have hallows : Allows connections (V.piecewise caught s) t (.lock (key t)) := by
        intro u hu hheld
        by_cases huV : u ∈ V
        · rw [Finset.piecewise_eq_of_mem _ _ _ huV, hcaught u (hV huV)] at hheld
          exact hu (hkeys u (hV huV) t htC (Option.some.inj hheld))
        · rw [Finset.piecewise_eq_of_notMem _ _ _ huV] at hheld
          exact hfree t htC u hheld
      have hlocked := (ih hV).tail (.move t hself hallows)
      have hstep := hlocked.trans (reach_of_answers hanswers (Function.update_self ..))
      rwa [Function.update_idem, ← Finset.piecewise_insert] at hstep

open Classical in
/-- The transactions to be caught: one that may send queries for each of their locks. -/
theorem exists_circle {jobs : ι → Job ρ reply kind} (h : connections ≤ demand jobs) :
    ∃ U C : Finset ι, U.card = connections ∧ C ⊆ U ∧
      (∀ t ∈ C, MayQuery kind (jobs t).prog) ∧
      (∀ t ∈ C, ∀ u ∈ C, (jobs t).key = (jobs u).key → t = u) ∧
      ∀ t ∈ U, ∃ key, (jobs t).key = some key ∧ ∃ u ∈ C, (jobs u).key = some key := by
  -- one for each lock
  set first : Option κ → Option ι := fun key =>
    if h : ∃ u, (jobs u).key = key ∧ MayQuery kind (jobs u).prog then some h.choose else none
    with hfirst
  have hspec : ∀ key u, first key = some u →
      (jobs u).key = key ∧ MayQuery kind (jobs u).prog := by
    intro key u hu
    rw [hfirst] at hu
    by_cases hex : ∃ u, (jobs u).key = key ∧ MayQuery kind (jobs u).prog
    · have hchoose := hex.choose_spec
      simp only [dif_pos hex, Option.some.injEq] at hu
      rwa [hu] at hchoose
    · simp only [dif_neg hex] at hu
      nomatch hu
  set T := Finset.univ.filter (Contends jobs) with hT
  set C := T.filter fun t => first (jobs t).key = some t with hC
  have hsome : ∀ t ∈ T, ∃ key, (jobs t).key = some key ∧ ∃ u ∈ C, (jobs u).key = some key ∧
      first (jobs t).key = some u := by
    intro t ht
    obtain ⟨key, hkey, u, hu, hmay⟩ := (Finset.mem_filter.1 ht).2
    have hex : ∃ u, (jobs u).key = (jobs t).key ∧ MayQuery kind (jobs u).prog :=
      ⟨u, hu.trans hkey.symm, hmay⟩
    have hchosen : first (jobs t).key = some hex.choose := dif_pos hex
    obtain ⟨hkey', hmay'⟩ := hspec _ _ hchosen
    refine ⟨key, hkey, hex.choose, ?_, hkey'.trans hkey, hchosen⟩
    refine Finset.mem_filter.2 ⟨Finset.mem_filter.2 ⟨Finset.mem_univ _, ?_⟩, ?_⟩
    · exact ⟨key, hkey'.trans hkey, _, hkey'.trans hkey, hmay'⟩
    · rw [hkey', hchosen]
  have hmay : ∀ t ∈ C, MayQuery kind (jobs t).prog :=
    fun t ht => (hspec _ _ (Finset.mem_filter.1 ht).2).2
  have hkeys : ∀ t ∈ C, ∀ u ∈ C, (jobs t).key = (jobs u).key → t = u := by
    intro t ht u hu hkey
    have hfirst := (Finset.mem_filter.1 ht).2
    rw [hkey, (Finset.mem_filter.1 hu).2] at hfirst
    exact (Option.some.inj hfirst).symm
  have hcard : connections ≤ T.card := h
  rcases le_total C.card connections with hle | hle
  · -- all of them, and others that wait for their locks
    obtain ⟨U, hCU, hUT, hU⟩ := Finset.exists_subsuperset_card_eq (Finset.filter_subset _ T) hle
      hcard
    refine ⟨U, C, hU, hCU, hmay, hkeys, fun t ht => ?_⟩
    obtain ⟨key, hkey, u, hu, huKey, -⟩ := hsome t (hUT ht)
    exact ⟨key, hkey, u, hu, huKey⟩
  · -- enough of them
    obtain ⟨U, hUC, hU⟩ := Finset.exists_subset_card_eq hle
    refine ⟨U, U, hU, subset_rfl, fun t ht => hmay t (hUC ht),
      fun t ht u hu => hkeys t (hUC ht) u (hUC hu), fun t ht => ?_⟩
    obtain ⟨key, hkey, -⟩ := hsome t (Finset.mem_filter.1 (hUC ht)).1
    exact ⟨key, hkey, t, ht, hkey⟩

/-! #### The deadlock -/

omit [DecidableEq ι] [Fintype ι] in
/-- Before its first answer a job asks for a connection. -/
theorem Job.acquire_of_start {j : Job ρ reply kind} {a : Action κ} {w : Worker ρ reply κ}
    (hmove : Move kind j.start a w) (ha : a ≠ .refuse) : a = .acquire := by
  obtain ⟨prog, key, hshaped⟩ := j
  have hfirst : ∀ r k, prog = .call r k → kind r = .query ∨ kind r = .begin := by
    rintro r k rfl
    cases hshaped with
    | plain h => exact .inl h.1
    | quiet h _ _ => exact .inr h
    | locking h _ _ => exact .inr h
  rw [Job.start] at hmove
  generalize hw : (⟨prog, false, none, false⟩ : Worker ρ reply κ) = w₀ at hmove
  cases hmove with
  | acquire _ => rfl
  | query _ _ => cases hw
  | begin _ _ => cases hw
  | refuse _ => exact absurd rfl ha
  | lock h _ =>
      cases hw
      rcases hfirst _ _ rfl with h' | h' <;> exact nomatch h'.symm.trans h
  | execute h _ =>
      cases hw
      rcases hfirst _ _ rfl with h' | h' <;> exact nomatch h'.symm.trans h
  | commit h _ =>
      cases hw
      rcases hfirst _ _ rfl with h' | h' <;> exact nomatch h'.symm.trans h

omit [DecidableEq ι] [Fintype ι] in
theorem acquire_of_query {r : ρ} {k : Option (reply r) → Prog ρ reply Unit} {inTx : Bool}
    {lock : Option κ} {a : Action κ} {w : Worker ρ reply κ} (h : kind r = .query)
    (hmove : Move kind ⟨.call r k, inTx, lock, false⟩ a w) (ha : a ≠ .refuse) : a = .acquire := by
  cases hmove with
  | acquire _ => rfl
  | lock h' _ => exact nomatch h.symm.trans h'
  | execute h' _ => exact nomatch h.symm.trans h'
  | commit h' _ => exact nomatch h.symm.trans h'
  | refuse _ => exact absurd rfl ha

omit [DecidableEq ι] [Fintype ι] in
theorem lock_of_locking {r : ρ} {k : Option (reply r) → Prog ρ reply Unit} {inTx : Bool}
    {lock : Option κ} {key : κ} {a : Action κ} {w : Worker ρ reply κ} (h : kind r = .lock key)
    (hmove : Move kind ⟨.call r k, inTx, lock, false⟩ a w) (ha : a ≠ .refuse) :
    a = .lock key := by
  cases hmove with
  | acquire h' =>
      rw [h] at h'
      rcases h' with h' | h' <;> cases h'
  | lock h' _ => rw [Kind.lock.inj (h.symm.trans h')]
  | execute h' _ => exact nomatch h.symm.trans h'
  | commit h' _ => exact nomatch h.symm.trans h'
  | refuse _ => exact absurd rfl ha

/-- A transaction caught with its lock: it waits for a second connection. -/
def Caught (kind : ρ → Kind κ) (key : κ) (w : Worker ρ reply κ) : Prop :=
  ∃ (r : ρ) (k : Option (reply r) → Prog ρ reply Unit),
    kind r = .query ∧ w = ⟨.call r k, true, some key, false⟩

/-- A transaction that waits for its lock. -/
def Opened (kind : ρ → Kind κ) (key : κ) (w : Worker ρ reply κ) : Prop :=
  ∃ (r : ρ) (k : Option (reply r) → Prog ρ reply Unit),
    kind r = .lock key ∧ w = ⟨.call r k, true, none, false⟩

/-- **The circle**: when all connections are with transactions that wait for their locks or, with
their locks, for a second connection, nothing is served. -/
theorem not_serve_of_circle {key : ι → κ} {U C : Finset ι} (hU : U.card = connections)
    (hcaught : ∀ t ∈ C, Caught kind (key t) (s t))
    (hopened : ∀ t ∈ U, t ∉ C → Opened kind (key t) (s t) ∧ ∃ u ∈ C, key u = key t)
    (hstart : ∀ t, t ∉ U → s t = (jobs t).start) (s' : ι → Worker ρ reply κ) :
    ¬ Serve kind connections s s' := by
  have hbusy : ∀ t, (s t).busy = false := by
    intro t
    by_cases htU : t ∈ U
    · by_cases htC : t ∈ C
      · obtain ⟨r, k, -, h⟩ := hcaught t htC
        rw [h]
      · obtain ⟨⟨r, k, -, h⟩, -⟩ := hopened t htU htC
        rw [h]
    · rw [hstart t htU, Job.start]
  have htx : ∀ t, (s t).inTx = true ↔ t ∈ U := by
    intro t
    by_cases htU : t ∈ U
    · refine iff_of_true ?_ htU
      by_cases htC : t ∈ C
      · obtain ⟨r, k, -, h⟩ := hcaught t htC
        rw [h]
      · obtain ⟨⟨r, k, -, h⟩, -⟩ := hopened t htU htC
        rw [h]
    · refine iff_of_false ?_ htU
      rw [hstart t htU, Job.start]
      exact nofun
  have hfull : used s = connections := by
    rw [used_eq_card hbusy, ← hU]
    congr 1
    ext t
    rw [Finset.mem_filter, htx t]
    exact and_iff_right (Finset.mem_univ t)
  have hacquire : ∀ t, ¬ Allows connections s t .acquire := fun _ h => absurd h hfull.not_lt
  intro hserve
  cases hserve with
  | @move t a w hmove ha hallows =>
      by_cases htU : t ∈ U
      · by_cases htC : t ∈ C
        · obtain ⟨r, k, hquery, h⟩ := hcaught t htC
          rw [h] at hmove
          exact hacquire t (acquire_of_query hquery hmove ha ▸ hallows)
        · obtain ⟨⟨r, k, hlock, h⟩, u, hu, hkey⟩ := hopened t htU htC
          rw [h] at hmove
          obtain rfl := lock_of_locking hlock hmove ha
          obtain ⟨r', k', -, h'⟩ := hcaught u hu
          refine hallows u ?_ (by rw [h', hkey])
          rintro rfl
          exact htC hu
      · rw [hstart t htU] at hmove
        exact hacquire t (Job.acquire_of_start hmove ha ▸ hallows)

/-- The circle is reached. -/
theorem exists_deadlock [∀ r, Nonempty (reply r)] (hpos : 0 < connections)
    (h : connections ≤ demand jobs) :
    ∃ s, Relation.ReflTransGen (Step kind connections) (fun t => (jobs t).start) s ∧
      ¬ AtRest s ∧ ∀ s', ¬ Serve kind connections s s' := by
  obtain ⟨U, C, hU, hCU, hmay, hkeys, hcircle⟩ := exists_circle h
  have hne : U.Nonempty := Finset.card_pos.1 (hU ▸ hpos)
  obtain ⟨t₀, ht₀⟩ := hne
  obtain ⟨key₀, -⟩ := hcircle t₀ ht₀
  have : Nonempty κ := ⟨key₀⟩
  have : Nonempty ι := ⟨t₀⟩
  have : Nonempty (Worker ρ reply κ) := ⟨⟨.fail, false, none, false⟩⟩
  choose! key hkey rep hrep hrepKey using hcircle
  have hrepKey : ∀ t ∈ U, key (rep t) = key t := fun t ht =>
    Option.some.inj ((hkey (rep t) (hCU (hrep t ht))).symm.trans (hrepKey t ht))
  -- every transaction of the circle is opened
  have hopens : ∀ t ∈ U, ∃ w, Opened kind (key t) w ∧
      (MayQuery kind (jobs t).prog → ∃ w', Caught kind (key t) w' ∧ ∃ w₁,
        Move kind w (.lock (key t)) w₁ ∧
          Relation.ReflTransGen (fun w w' => Move kind w .answer w') w₁ w') ∧
      ∃ w₁, Move kind (jobs t).start .acquire w₁ ∧ Move kind w₁ .answer w := by
    intro t ht
    obtain ⟨r, k, hlocking, hqueries, hmoves⟩ := (jobs t).exists_opened (hkey t ht)
    refine ⟨_, ⟨r, k, hlocking.1, rfl⟩, fun hq => ?_, hmoves⟩
    obtain ⟨r', k', hquery, hcaught⟩ := exists_caught hlocking (hqueries hq)
    exact ⟨_, ⟨r', k', hquery, rfl⟩, hcaught⟩
  choose! opened hopened hcatch hopen using hopens
  have hcatch : ∀ t ∈ C, ∃ w', Caught kind (key t) w' ∧ ∃ w₁,
      Move kind (opened t) (.lock (key t)) w₁ ∧
        Relation.ReflTransGen (fun w w' => Move kind w .answer w') w₁ w' :=
    fun t ht => hcatch t (hCU ht) (hmay t ht)
  choose! caught hcaught hcatch using hcatch
  set start : ι → Worker ρ reply κ := fun t => (jobs t).start with hstart
  have hlockOpened : ∀ t ∈ U, (opened t).lock = none ∧ (opened t).connections = 1 := by
    intro t ht
    obtain ⟨r, k, -, h⟩ := hopened t ht
    rw [h]
    exact ⟨rfl, rfl⟩
  have hall : Relation.ReflTransGen (Step kind connections) start (U.piecewise opened start) :=
    reach_opened hU.le (fun _ => rfl) (fun t ht => (hlockOpened t ht).2) hopen U subset_rfl
  have hfree : ∀ t ∈ C, ∀ u, (U.piecewise opened start u).lock ≠ some (key t) := by
    intro t _ u
    by_cases hu : u ∈ U
    · rw [Finset.piecewise_eq_of_mem _ _ _ hu, (hlockOpened u hu).1]
      exact nofun
    · rw [Finset.piecewise_eq_of_notMem _ _ _ hu]
      exact nofun
  have hlockCaught : ∀ t ∈ C, (caught t).lock = some (key t) := by
    intro t ht
    obtain ⟨r, k, -, h⟩ := hcaught t ht
    rw [h]
  have hdistinct : ∀ t ∈ C, ∀ u ∈ C, key t = key u → t = u := by
    intro t ht u hu htu
    refine hkeys t ht u hu ?_
    rw [hkey t (hCU ht), hkey u (hCU hu), htu]
  have hcatch' : ∀ t ∈ C, ∃ w, Move kind (U.piecewise opened start t) (.lock (key t)) w ∧
      Relation.ReflTransGen (fun w w' => Move kind w .answer w') w (caught t) := by
    intro t ht
    rw [Finset.piecewise_eq_of_mem _ _ _ (hCU ht)]
    exact hcatch t ht
  have hrun := hall.trans (reach_caught hfree hlockCaught hdistinct hcatch' C subset_rfl)
  set circle := C.piecewise caught (U.piecewise opened start) with hcircle
  have hinC : ∀ t ∈ C, Caught kind (key t) (circle t) := by
    intro t ht
    rw [hcircle, Finset.piecewise_eq_of_mem _ _ _ ht]
    exact hcaught t ht
  have hinU : ∀ t ∈ U, t ∉ C → Opened kind (key t) (circle t) ∧ ∃ u ∈ C, key u = key t := by
    intro t ht htC
    rw [hcircle, Finset.piecewise_eq_of_notMem _ _ _ htC, Finset.piecewise_eq_of_mem _ _ _ ht]
    exact ⟨hopened t ht, rep t, hrep t ht, hrepKey t ht⟩
  have houtside : ∀ t, t ∉ U → circle t = (jobs t).start := by
    intro t ht
    rw [hcircle, Finset.piecewise_eq_of_notMem _ _ _ fun h => ht (hCU h),
      Finset.piecewise_eq_of_notMem _ _ _ ht]
  refine ⟨circle, hrun, fun hrest => ?_, not_serve_of_circle hU hinC hinU houtside⟩
  obtain ⟨r, k, -, h⟩ := hinC _ (hrep t₀ ht₀)
  have hwaits := hrest (rep t₀)
  rw [h] at hwaits
  exact hwaits trivial

/-- **A pool suffices exactly when the demand is less than its size**: only then can all tasks be
served to the end, without a refusal, from whatever state they have come to. -/
theorem suffices_iff [∀ r, Nonempty (reply r)] (hpos : 0 < connections) :
    (∀ s, Relation.ReflTransGen (Step kind connections) (fun t => (jobs t).start) s →
      ∃ s', Relation.ReflTransGen (Serve kind connections) s s' ∧ AtRest s') ↔
      demand jobs < connections := by
  constructor
  · intro hall
    by_contra hlt
    obtain ⟨s, hrun, hrest, hstuck⟩ := exists_deadlock hpos (not_lt.1 hlt)
    obtain ⟨s', hserve, hrest'⟩ := hall s hrun
    rcases Relation.ReflTransGen.cases_head hserve with rfl | ⟨s₁, hfirst, -⟩
    · exact hrest hrest'
    · exact hstuck s₁ hfirst
  · intro hdemand s hrun
    have hinv : PoolInv jobs s := (poolInv_start jobs).run hrun
    exact exists_rest (fun _ _ h hserve => h.step hserve.step) (fun _ h => h.serve hdemand) s hinv

end Suffices

end Pools
