/-
**Rows that name rows.**

A foreign key is a column that names the key of a row of another table, and a duplicate is a row
that another row of the same owner comes before.  This module gives a meaning to the statements
that clean a table of its duplicates: number the rows of an owner, send what names a duplicate to
the row that stays, and delete the duplicates.

Main definitions:

* `Relational.RefersTo` — a foreign key holds;
* `Relational.rowNumber` — `ROW_NUMBER` over the rows of an owner;
* `Relational.FirstIn` — no row of the owner comes before this one;
* `Relational.rewriteTo` — where an update from a list of pairs sends a key.

Main results:

* `Relational.rowNumber_eq_one_iff` — the first number is that of the first row;
* `Relational.exists_firstIn`, `Relational.FirstIn.unique` — every owner has one first row;
* `Relational.rewriteTo_of_mem` — a rewriting that is a function does what its pairs say.
-/

import Mathlib
import Gt06Server.Relational

set_option relaxedAutoImplicit false
set_option autoImplicit false

namespace Relational

variable {ρ κ ο : Type} [DecidableEq κ]

/-! ### Foreign keys -/

/-- `FOREIGN KEY (ref) REFERENCES …`: what a row names is one of the keys.  A null names nothing. -/
def RefersTo (ref : ρ → Option κ) (rows : List ρ) (keys : List κ) : Prop :=
  ∀ r ∈ rows, ∀ k ∈ ref r, k ∈ keys

instance (ref : ρ → Option κ) (rows : List ρ) (keys : List κ) :
    Decidable (RefersTo ref rows keys) :=
  inferInstanceAs (Decidable (∀ r ∈ rows, ∀ k ∈ ref r, k ∈ keys))

omit [DecidableEq κ] in
/-- A foreign key to a unique key names one row. -/
theorem RefersTo.exists_row {σ : Type} {ref : ρ → Option κ} {rows : List ρ} {key : σ → κ}
    {targets : List σ} (h : RefersTo ref rows (targets.map key)) {r : ρ} (hr : r ∈ rows) {k : κ}
    (hk : ref r = some k) : ∃ s ∈ targets, key s = k :=
  List.mem_map.1 (h r hr k hk)

/-! ### Row numbers -/

section RowNumber

variable [LinearOrder ο]

/-- `ROW_NUMBER() OVER (PARTITION BY part ORDER BY sortKey DESC)`: one more than the rows of the
partition that come before, for a sort key that no two rows share. -/
def rowNumber (part : ρ → κ) (sortKey : ρ → ο) (rows : List ρ) (r : ρ) : ℕ :=
  (rows.filter fun s => part s = part r ∧ sortKey r < sortKey s).length + 1

/-- A row that no row of its partition comes before. -/
def FirstIn (part : ρ → κ) (sortKey : ρ → ο) (rows : List ρ) (r : ρ) : Prop :=
  r ∈ rows ∧ ∀ s ∈ rows, part s = part r → sortKey s ≤ sortKey r

variable {part : ρ → κ} {sortKey : ρ → ο} {rows : List ρ} {r s : ρ}

/-- The first number is that of the first row. -/
theorem rowNumber_eq_one_iff (hr : r ∈ rows) :
    rowNumber part sortKey rows r = 1 ↔ FirstIn part sortKey rows r := by
  rw [rowNumber, Nat.add_eq_right, List.length_eq_zero_iff, List.filter_eq_nil_iff]
  constructor
  · intro h
    refine ⟨hr, fun s hs hpart => ?_⟩
    have hnot := h s hs
    simp only [decide_eq_true_eq, not_and, not_lt] at hnot
    exact hnot hpart
  · rintro ⟨-, hfirst⟩ s hs hbefore
    obtain ⟨hpart, hlt⟩ := of_decide_eq_true hbefore
    exact absurd hlt (not_lt.2 (hfirst s hs hpart))

/-- Every other row has a higher number. -/
theorem one_lt_rowNumber_iff (hr : r ∈ rows) :
    1 < rowNumber part sortKey rows r ↔ ¬ FirstIn part sortKey rows r := by
  rw [← rowNumber_eq_one_iff hr, rowNumber]
  omega

variable (part sortKey) in
/-- The partition of a row has a first row. -/
theorem exists_firstIn (hr : r ∈ rows) :
    ∃ w, FirstIn part sortKey rows w ∧ part w = part r := by
  cases h : (rows.filter fun s => part s = part r).argmax sortKey with
  | none =>
      rw [List.argmax_eq_none, List.filter_eq_nil_iff] at h
      exact absurd (decide_eq_true rfl) (h r hr)
  | some w =>
      obtain ⟨hw, hpart⟩ := List.mem_filter.1 (List.argmax_mem h)
      have hpart : part w = part r := of_decide_eq_true hpart
      refine ⟨w, ⟨hw, fun s hs hsw => ?_⟩, hpart⟩
      refine List.le_of_mem_argmax (List.mem_filter.2 ⟨hs, ?_⟩) h
      exact decide_eq_true (hsw.trans hpart)

omit [DecidableEq κ] in
/-- With a sort key that no two rows share, a partition has one first row. -/
theorem FirstIn.unique (hsort : UniqueOn sortKey rows) (hr : FirstIn part sortKey rows r)
    (hs : FirstIn part sortKey rows s) (hpart : part r = part s) : r = s := by
  have hle : sortKey r ≤ sortKey s := hs.2 r hr.1 hpart
  have hge : sortKey s ≤ sortKey r := hr.2 s hs.1 hpart.symm
  exact hsort.eq_of_key_eq hr.1 hs.1 (le_antisymm hle hge)

end RowNumber

/-! ### Rewriting what a row names -/

/-- Where `UPDATE … SET ref = new FROM pairs WHERE ref = old` sends a key. -/
def rewriteTo (pairs : List (κ × κ)) (k : κ) : κ :=
  ((pairs.find? fun p => p.1 = k).map Prod.snd).getD k

theorem rewriteTo_of_mem {pairs : List (κ × κ)} {k l : κ} (hmem : (k, l) ∈ pairs)
    (hfun : ∀ m, (k, m) ∈ pairs → m = l) : rewriteTo pairs k = l := by
  cases h : pairs.find? fun p => p.1 = k with
  | none => exact absurd (decide_eq_true rfl) (List.find?_eq_none.1 h _ hmem)
  | some p =>
      have hkey : p.1 = k := by simpa using List.find?_some h
      have hp : (k, p.2) ∈ pairs := hkey ▸ List.mem_of_find?_eq_some h
      rw [rewriteTo, h]
      exact hfun _ hp

theorem rewriteTo_of_not_mem {pairs : List (κ × κ)} {k : κ} (h : ∀ l, (k, l) ∉ pairs) :
    rewriteTo pairs k = k := by
  have hnone : (pairs.find? fun p => p.1 = k) = none := by
    refine List.find?_eq_none.2 ?_
    rintro ⟨a, b⟩ hmem hkey
    obtain rfl : a = k := by simpa using hkey
    exact h b hmem
  rw [rewriteTo, hnone]
  rfl

end Relational
