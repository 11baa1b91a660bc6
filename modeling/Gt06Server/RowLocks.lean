/-
**Row locks under read committed.**

A store of keyed rows that several transactions read and write statement by statement.  A
transaction that locks or writes a row holds it until it commits or rolls back; the others still
read the committed version, and a statement of theirs that would have to wait is not enabled.  A
row that is not there cannot be locked.

Main definitions:

* `RowLocks.Store` — the committed rows and the rows that are held;
* `RowLocks.Store.view` — what a statement of a transaction sees;
* `RowLocks.Store.selectForUpdate`, `RowLocks.Store.upsert`, `RowLocks.Store.update`,
  `RowLocks.Store.advisoryXactLock`, `RowLocks.Store.commit`, `RowLocks.Store.rollback` — the
  statements;
* `RowLocks.Store.HeldBy` — a condition on whoever holds a key.

Main results:

* `RowLocks.Store.Writes` and its lemmas — a statement touches one row and nothing that another
  transaction holds;
* `RowLocks.Store.held_commit_of_ne`, `RowLocks.Store.committed_commit_of_ne` — a commit touches
  only what the transaction holds;
* `RowLocks.Store.view_commit_of_ne`, `RowLocks.Store.view_rollback_of_ne` — and what others see;
* `RowLocks.Store.HeldBy.writes`, `RowLocks.Store.HeldBy.commit`, `RowLocks.Store.HeldBy.freeFor` —
  the condition through the statements, and the locks it keeps free.
-/

import Mathlib

set_option relaxedAutoImplicit false
set_option autoImplicit false

namespace RowLocks

variable {κ τ : Type} [DecidableEq κ] [DecidableEq τ] {ρ : κ → Type}

/-- The committed rows, and for each key the transaction that holds it with the row as that
transaction sees it. -/
structure Store (κ τ : Type) (ρ : κ → Type) where
  committed : (k : κ) → Option (ρ k)
  held : (k : κ) → Option (τ × ρ k)

namespace Store

/-- No other transaction holds the key. -/
def FreeFor (s : Store κ τ ρ) (t : τ) (k : κ) : Prop := ∀ h ∈ s.held k, h.1 = t

instance (s : Store κ τ ρ) (t : τ) (k : κ) : Decidable (s.FreeFor t k) :=
  inferInstanceAs (Decidable (∀ h ∈ s.held k, h.1 = t))

/-- What a statement of the transaction sees: its own version, or the committed one. -/
def view (s : Store κ τ ρ) (t : τ) (k : κ) : Option (ρ k) :=
  match s.held k with
  | some (holder, row) => if holder = t then some row else s.committed k
  | none => s.committed k

/-- The store in which the transaction holds the key with the row. -/
def hold (s : Store κ τ ρ) (t : τ) (k : κ) (row : ρ k) : Store κ τ ρ :=
  { s with held := Function.update s.held k (some (t, row)) }

/-! ### Statements -/

/-- `SELECT … FOR UPDATE`: a row that is there is locked, and one that is not is not. -/
def selectForUpdate (s : Store κ τ ρ) (t : τ) (k : κ) : Option (Option (ρ k) × Store κ τ ρ) :=
  match s.view t k with
  | none => some (none, s)
  | some row => if s.FreeFor t k then some (some row, s.hold t k row) else none

/-- `INSERT … ON CONFLICT DO UPDATE`: waits for whoever holds the key, also for an insert of it
that is not committed. -/
def upsert (s : Store κ τ ρ) (t : τ) (k : κ) (f : Option (ρ k) → ρ k) :
    Option (ρ k × Store κ τ ρ) :=
  if s.FreeFor t k then some (f (s.view t k), s.hold t k (f (s.view t k))) else none

/-- `UPDATE … WHERE key = k`: does nothing when there is no such row. -/
def update (s : Store κ τ ρ) (t : τ) (k : κ) (f : ρ k → ρ k) : Option (Store κ τ ρ) :=
  match s.view t k with
  | none => some s
  | some row => if s.FreeFor t k then some (s.hold t k (f row)) else none

/-- `pg_advisory_xact_lock`: a key without a row. -/
def advisoryXactLock (s : Store κ τ fun _ => Unit) (t : τ) (k : κ) :
    Option (Store κ τ fun _ => Unit) :=
  if s.FreeFor t k then some (s.hold t k ()) else none

/-- `COMMIT`: what the transaction sees is what everybody sees, and it holds nothing any more. -/
def commit (s : Store κ τ ρ) (t : τ) : Store κ τ ρ where
  committed := fun k => s.view t k
  held := fun k => (s.held k).filter fun h => h.1 ≠ t

/-- `ROLLBACK`. -/
def rollback (s : Store κ τ ρ) (t : τ) : Store κ τ ρ :=
  { s with held := fun k => (s.held k).filter fun h => h.1 ≠ t }

/-! ### What a transaction sees -/

variable {s s' : Store κ τ ρ} {t u : τ} {k l : κ} {row row' : ρ k}

omit [DecidableEq κ] in
theorem view_of_held (h : s.held k = some (t, row)) : s.view t k = some row := by
  simp only [view, h, if_true]

omit [DecidableEq κ] in
theorem view_of_held_of_ne (h : s.held k = some (u, row)) (hne : u ≠ t) :
    s.view t k = s.committed k := by
  simp only [view, h, if_neg hne]

omit [DecidableEq κ] in
theorem view_of_not_held (h : ∀ row, s.held k ≠ some (t, row)) : s.view t k = s.committed k := by
  cases hheld : s.held k with
  | none => simp only [view, hheld]
  | some p =>
      obtain ⟨holder, row⟩ := p
      refine view_of_held_of_ne hheld ?_
      rintro rfl
      exact h row hheld

omit [DecidableEq τ] in
@[simp] theorem committed_hold : (s.hold t k row).committed = s.committed := rfl

omit [DecidableEq τ] in
@[simp] theorem held_hold_self : (s.hold t k row).held k = some (t, row) :=
  Function.update_self ..

omit [DecidableEq τ] in
theorem held_hold_of_ne (hne : l ≠ k) : (s.hold t k row).held l = s.held l :=
  Function.update_of_ne hne ..

/-! ### What a statement does -/

/-- The statement of `t` leaves the committed rows alone, touches at most the key `k`, and leaves
what the others hold. -/
structure Writes (s : Store κ τ ρ) (t : τ) (k : κ) (s' : Store κ τ ρ) : Prop where
  committed : s'.committed = s.committed
  held_of_ne : ∀ l, l ≠ k → s'.held l = s.held l
  held_iff : ∀ u l (row : ρ l), u ≠ t → (s'.held l = some (u, row) ↔ s.held l = some (u, row))

omit [DecidableEq κ] [DecidableEq τ] in
theorem Writes.refl (s : Store κ τ ρ) (t : τ) (k : κ) : Writes s t k s :=
  ⟨rfl, fun _ _ => rfl, fun _ _ _ _ => Iff.rfl⟩

omit [DecidableEq τ] in
theorem Writes.hold (hfree : s.FreeFor t k) (row : ρ k) : Writes s t k (s.hold t k row) := by
  refine ⟨rfl, fun l hl => held_hold_of_ne hl, ?_⟩
  intro u l row' hu
  by_cases hl : l = k
  · subst hl
    rw [held_hold_self]
    constructor
    · intro h
      exact absurd (Prod.mk.inj (Option.some_inj.1 h)).1.symm hu
    · intro h
      exact absurd (hfree _ h) hu
  · rw [held_hold_of_ne hl]

/-- A `SELECT … FOR UPDATE` that is enabled reads the view, and holds the row if there is one. -/
theorem selectForUpdate_eq_some {found : Option (ρ k)}
    (h : s.selectForUpdate t k = some (found, s')) :
    found = s.view t k ∧ Writes s t k s' ∧
      (∀ row, found = some row → s'.held k = some (t, row)) ∧ (found = none → s' = s) := by
  unfold selectForUpdate at h
  cases hview : s.view t k with
  | none =>
      simp only [hview, Option.some_inj, Prod.mk.injEq] at h
      obtain ⟨rfl, rfl⟩ := h
      exact ⟨rfl, Writes.refl .., by simp, fun _ => rfl⟩
  | some row =>
      simp only [hview] at h
      split at h
      · next hfree =>
          simp only [Option.some_inj, Prod.mk.injEq] at h
          obtain ⟨rfl, rfl⟩ := h
          refine ⟨rfl, Writes.hold hfree row, ?_, by simp⟩
          rintro row' ⟨⟩
          exact held_hold_self
      · exact absurd h (by simp)

/-- A key that is free for the transaction can be read. -/
theorem selectForUpdate_isSome (hfree : s.FreeFor t k) : (s.selectForUpdate t k).isSome := by
  unfold selectForUpdate
  cases hview : s.view t k with
  | none => rfl
  | some row => simp [hfree]

/-- An upsert that is enabled holds the row it returns. -/
theorem upsert_eq_some {f : Option (ρ k) → ρ k} (h : s.upsert t k f = some (row, s')) :
    row = f (s.view t k) ∧ Writes s t k s' ∧ s'.held k = some (t, row) ∧ s.FreeFor t k := by
  unfold upsert at h
  split at h
  · next hfree =>
      simp only [Option.some_inj, Prod.mk.injEq] at h
      obtain ⟨rfl, rfl⟩ := h
      exact ⟨rfl, Writes.hold hfree _, held_hold_self, hfree⟩
  · exact absurd h (by simp)

theorem update_eq_some {f : ρ k → ρ k} (h : s.update t k f = some s') : Writes s t k s' := by
  unfold update at h
  cases hview : s.view t k with
  | none =>
      simp only [hview, Option.some_inj] at h
      subst h
      exact Writes.refl ..
  | some row =>
      simp only [hview] at h
      split at h
      · next hfree =>
          simp only [Option.some_inj] at h
          subst h
          exact Writes.hold hfree _
      · exact absurd h (by simp)

/-- An update of a row that is held goes through. -/
theorem update_of_held {f : ρ k → ρ k} (h : s.held k = some (t, row)) :
    s.update t k f = some (s.hold t k (f row)) := by
  have hfree : s.FreeFor t k := by
    intro holder hholder
    rw [h, Option.mem_some_iff] at hholder
    rw [← hholder]
  simp only [update, view_of_held h, if_pos hfree]

theorem advisoryXactLock_eq_some {s s' : Store κ τ fun _ => Unit}
    (h : s.advisoryXactLock t k = some s') : Writes s t k s' ∧ s'.held k = some (t, ()) := by
  unfold advisoryXactLock at h
  split at h
  · next hfree =>
      cases h
      exact ⟨Writes.hold hfree (), held_hold_self⟩
  · exact absurd h (by simp)

omit [DecidableEq κ] in
/-- A rollback leaves what the others hold. -/
theorem held_rollback_of_ne (hne : u ≠ t) :
    (s.rollback t).held k = some (u, row) ↔ s.held k = some (u, row) := by
  simp only [rollback, Option.filter_eq_some_iff]
  constructor
  · exact fun h => h.1
  · exact fun h => ⟨h, by simpa using hne⟩

omit [DecidableEq κ] in
/-- After a rollback the transaction holds nothing. -/
theorem held_rollback_self : (s.rollback t).held k ≠ some (t, row) := by
  simp [rollback, Option.filter_eq_some_iff]

omit [DecidableEq κ] in
/-- After a commit the transaction holds nothing. -/
theorem held_commit_self : (s.commit t).held k ≠ some (t, row) := by
  simp [commit, Option.filter_eq_some_iff]

omit [DecidableEq κ] in
/-- A commit leaves what the others hold. -/
theorem held_commit_of_ne (hne : u ≠ t) :
    (s.commit t).held k = some (u, row) ↔ s.held k = some (u, row) := by
  simp only [commit, Option.filter_eq_some_iff]
  constructor
  · exact fun h => h.1
  · exact fun h => ⟨h, by simpa using hne⟩

omit [DecidableEq κ] in
/-- A commit leaves the committed version of what the transaction does not hold. -/
theorem committed_commit_of_ne (h : ∀ row, s.held k ≠ some (t, row)) :
    (s.commit t).committed k = s.committed k := view_of_not_held h

omit [DecidableEq κ] in
theorem committed_commit_of_held (h : s.held k = some (t, row)) :
    (s.commit t).committed k = some row := view_of_held h

/-! ### What a statement leaves to see -/

omit [DecidableEq κ] in
theorem Writes.view_of_ne (h : Writes s t k s') (hne : l ≠ k) (u : τ) :
    s'.view u l = s.view u l := by
  simp only [view, h.held_of_ne l hne, h.committed]

/-- A `SELECT … FOR UPDATE` changes nothing of what the transaction sees. -/
theorem view_selectForUpdate {found : Option (ρ k)}
    (h : s.selectForUpdate t k = some (found, s')) (l : κ) : s'.view t l = s.view t l := by
  obtain ⟨hfound, hwrites, hheld, hsame⟩ := selectForUpdate_eq_some h
  by_cases hl : l = k
  · subst hl
    cases found with
    | none => rw [hsame rfl]
    | some row => rw [view_of_held (hheld row rfl), hfound]
  · exact hwrites.view_of_ne hl t

omit [DecidableEq κ] in
/-- A commit changes nothing for the others but what the transaction holds. -/
theorem view_commit_of_ne (hne : u ≠ t) (h : ∀ row, s.held k ≠ some (t, row)) :
    (s.commit t).view u k = s.view u k := by
  by_cases hheld : ∃ row, s.held k = some (u, row)
  · obtain ⟨row, hheld⟩ := hheld
    rw [view_of_held hheld, view_of_held ((held_commit_of_ne hne).2 hheld)]
  · have hnot : ∀ row, s.held k ≠ some (u, row) := not_exists.1 hheld
    rw [view_of_not_held hnot, ← committed_commit_of_ne h]
    exact view_of_not_held fun row hheld => hnot row ((held_commit_of_ne hne).1 hheld)

omit [DecidableEq κ] in
/-- A rollback changes nothing for the others. -/
theorem view_rollback_of_ne (hne : u ≠ t) : (s.rollback t).view u k = s.view u k := by
  by_cases h : ∃ row, s.held k = some (u, row)
  · obtain ⟨row, hheld⟩ := h
    rw [view_of_held hheld, view_of_held ((held_rollback_of_ne hne).2 hheld)]
  · have hnot : ∀ row, s.held k ≠ some (u, row) := not_exists.1 h
    rw [view_of_not_held hnot]
    exact view_of_not_held fun row hheld => hnot row ((held_rollback_of_ne hne).1 hheld)

/-! ### Who holds what -/

/-- Whoever holds a key satisfies a condition. -/
def HeldBy (s : Store κ τ ρ) (P : τ → κ → Prop) : Prop :=
  ∀ u k row, s.held k = some (u, row) → P u k

omit [DecidableEq κ] [DecidableEq τ] in
theorem HeldBy.mono {P Q : τ → κ → Prop} (h : s.HeldBy P) (hPQ : ∀ u k, P u k → Q u k) :
    s.HeldBy Q := fun u k row hheld => hPQ u k (h u k row hheld)

/-- A statement takes the one lock that it takes. -/
theorem HeldBy.writes {P : τ → κ → Prop} (h : s.HeldBy P) (hwrites : Writes s t k s')
    (hk : P t k) : s'.HeldBy P := by
  intro u l row hheld
  by_cases hu : u = t
  · by_cases hl : l = k
    · rw [hu, hl]
      exact hk
    · rw [hwrites.held_of_ne l hl] at hheld
      exact h u l row hheld
  · exact h u l row ((hwrites.held_iff u l row hu).1 hheld)

omit [DecidableEq κ] in
theorem HeldBy.commit {P : τ → κ → Prop} (h : s.HeldBy P) :
    (s.commit t).HeldBy fun u k => u ≠ t ∧ P u k := by
  intro u k row hheld
  obtain ⟨hheld, hne⟩ := (Option.filter_eq_some_iff ..).1 hheld
  exact ⟨by simpa using hne, h u k row hheld⟩

omit [DecidableEq κ] in
theorem HeldBy.rollback {P : τ → κ → Prop} (h : s.HeldBy P) :
    (s.rollback t).HeldBy fun u k => u ≠ t ∧ P u k := by
  intro u k row hheld
  obtain ⟨hheld, hne⟩ := (Option.filter_eq_some_iff ..).1 hheld
  exact ⟨by simpa using hne, h u k row hheld⟩

omit [DecidableEq κ] [DecidableEq τ] in
/-- A key that nobody else may hold is free. -/
theorem HeldBy.freeFor {P : τ → κ → Prop} (h : s.HeldBy P) (hP : ∀ u, P u k → u = t) :
    s.FreeFor t k := by
  rintro ⟨u, row⟩ hheld
  exact hP u (h u k row hheld)

end Store

end RowLocks
