/-
**Rows with unique keys.**

A table is the list of its rows, and a unique key is a function of the row that no two rows
share.  The three statements this module gives a meaning to are the ones a program issues by key:
read the row that has a key, update the row that has a key, and insert a row.

Main definitions:

* `Relational.UniqueOn` — a key is unique among some rows;
* `Relational.rowAt` — the row with a key;
* `Relational.updateAt` — the rows after an update of the row with a key;
* `Relational.upsertAt` — the rows after an insert that updates on a conflict.

Main results:

* `Relational.rowAt_eq_some_iff` — with a unique key, reading is membership;
* `Relational.rowAt_updateAt` — reading by one key what was updated by another;
* `Relational.rowAt_upsertAt`, `Relational.filter_upsertAt`, `Relational.sum_upsertAt` — what an
  upsert leaves to be read;
* `Relational.UniqueOn.updateAt`, `Relational.UniqueOn.append` — uniqueness is kept;
* `Relational.pairwise_orderBy`, `Relational.filter_mergeSort` — rows in an order;
* `Relational.head?_orderBy_desc` — the first row of a table in the descending order of a key;
* `Relational.argmax_eq_getLast?` — the newest row of a table that grows along a key.
-/

import Mathlib

set_option relaxedAutoImplicit false
set_option autoImplicit false

namespace Relational

variable {ρ κ ι : Type} [DecidableEq κ] [DecidableEq ι]

/-- No two rows share the key. -/
def UniqueOn (key : ρ → κ) (rows : List ρ) : Prop := (rows.map key).Nodup

instance (key : ρ → κ) (rows : List ρ) : Decidable (UniqueOn key rows) :=
  inferInstanceAs (Decidable (List.Nodup _))

/-- `SELECT … WHERE key = k`, for a unique key. -/
def rowAt (key : ρ → κ) (k : κ) (rows : List ρ) : Option ρ := rows.find? fun r => key r = k

/-- `UPDATE … SET f WHERE key = k`. -/
def updateAt (key : ρ → κ) (k : κ) (f : ρ → ρ) (rows : List ρ) : List ρ :=
  rows.map fun r => if key r = k then f r else r

/-! ### Reading -/

@[simp] theorem rowAt_nil (key : ρ → κ) (k : κ) : rowAt key k [] = none := rfl

theorem rowAt_cons (key : ρ → κ) (k : κ) (r : ρ) (rows : List ρ) :
    rowAt key k (r :: rows) = if key r = k then some r else rowAt key k rows := by
  rw [rowAt, List.find?_cons]
  by_cases h : key r = k
  · simp [h]
  · simp [h, rowAt]

theorem mem_of_rowAt {key : ρ → κ} {k : κ} {rows : List ρ} {r : ρ}
    (h : rowAt key k rows = some r) : r ∈ rows ∧ key r = k :=
  ⟨List.mem_of_find?_eq_some h, by simpa using List.find?_some h⟩

theorem key_of_rowAt {key : ρ → κ} {k : κ} {rows : List ρ} {r : ρ}
    (h : rowAt key k rows = some r) : key r = k := (mem_of_rowAt h).2

theorem rowAt_eq_none_iff {key : ρ → κ} {k : κ} {rows : List ρ} :
    rowAt key k rows = none ↔ ∀ r ∈ rows, key r ≠ k := by
  simp [rowAt]

omit [DecidableEq κ] in
/-- Two rows with the same unique key are one row. -/
theorem UniqueOn.eq_of_key_eq {key : ρ → κ} {rows : List ρ} (h : UniqueOn key rows) {r s : ρ}
    (hr : r ∈ rows) (hs : s ∈ rows) (hkey : key r = key s) : r = s :=
  List.inj_on_of_nodup_map h hr hs hkey

/-- With a unique key, reading is membership. -/
theorem rowAt_eq_some_iff {key : ρ → κ} {rows : List ρ} (h : UniqueOn key rows) {k : κ} {r : ρ} :
    rowAt key k rows = some r ↔ r ∈ rows ∧ key r = k := by
  constructor
  · exact mem_of_rowAt
  · rintro ⟨hr, rfl⟩
    cases hrow : rowAt key (key r) rows with
    | none => exact absurd rfl (rowAt_eq_none_iff.1 hrow r hr)
    | some s =>
        obtain ⟨hs, hkey⟩ := mem_of_rowAt hrow
        rw [h.eq_of_key_eq hs hr hkey]

/-- The rows with a unique key are the row that is read. -/
theorem UniqueOn.filter_eq_rowAt {key : ρ → κ} {rows : List ρ} (h : UniqueOn key rows) (k : κ) :
    (rows.filter fun r => key r = k) = (rowAt key k rows).toList := by
  induction rows with
  | nil => rfl
  | cons r rows ih =>
      obtain ⟨hfresh, htail⟩ := List.nodup_cons.1 h
      rw [rowAt_cons]
      by_cases hr : key r = k
      · have hrest : (rows.filter fun r => key r = k) = [] := by
          refine List.filter_eq_nil_iff.2 ?_
          intro s hs hk
          refine hfresh (List.mem_map.2 ⟨s, hs, ?_⟩)
          exact (of_decide_eq_true hk).trans hr.symm
        rw [if_pos hr, List.filter_cons_of_pos (by simpa using hr), hrest, Option.toList_some]
      · rw [if_neg hr, List.filter_cons_of_neg (by simpa using hr), ih htail]

theorem rowAt_append (key : ρ → κ) (k : κ) (rows rows' : List ρ) :
    rowAt key k (rows ++ rows') = (rowAt key k rows).or (rowAt key k rows') := by
  rw [rowAt, rowAt, rowAt, List.find?_append]

/-- A row is still there when only rows with other keys go. -/
theorem rowAt_filter {key : ρ → κ} {k : κ} {p : ρ → Bool} (hp : ∀ r, key r = k → p r = true)
    (rows : List ρ) : rowAt key k (rows.filter p) = rowAt key k rows := by
  induction rows with
  | nil => rfl
  | cons r rows ih =>
      rw [List.filter_cons, rowAt_cons]
      by_cases hr : key r = k
      · rw [if_pos (hp r hr), rowAt_cons, if_pos hr, if_pos hr]
      · rw [if_neg hr]
        split
        · rw [rowAt_cons, if_neg hr, ih]
        · exact ih

/-! ### Updating -/

@[simp] theorem updateAt_nil (key : ρ → κ) (k : κ) (f : ρ → ρ) : updateAt key k f [] = [] := rfl

theorem updateAt_cons (key : ρ → κ) (k : κ) (f : ρ → ρ) (r : ρ) (rows : List ρ) :
    updateAt key k f (r :: rows) = (if key r = k then f r else r) :: updateAt key k f rows := rfl

/-- Reading by one key what was updated by another: an update that leaves the first key alone
changes the row read, if it is the one updated. -/
theorem rowAt_updateAt {key : ρ → κ} {key' : ρ → ι} {f : ρ → ρ} (hf : ∀ r, key (f r) = key r)
    (k : κ) (k' : ι) (rows : List ρ) :
    rowAt key k (updateAt key' k' f rows) =
      (rowAt key k rows).map fun r => if key' r = k' then f r else r := by
  induction rows with
  | nil => rfl
  | cons r rows ih =>
      have hkey : key (if key' r = k' then f r else r) = key r := by
        split
        · exact hf r
        · rfl
      rw [updateAt_cons, rowAt_cons, rowAt_cons, hkey, ih]
      split
      · rfl
      · rfl

theorem rowAt_updateAt_self {key : ρ → κ} {f : ρ → ρ} (hf : ∀ r, key (f r) = key r) (k : κ)
    (rows : List ρ) : rowAt key k (updateAt key k f rows) = (rowAt key k rows).map f := by
  rw [rowAt_updateAt hf]
  cases h : rowAt key k rows with
  | none => rfl
  | some r => simp [key_of_rowAt h]

theorem rowAt_updateAt_of_ne {key : ρ → κ} {f : ρ → ρ} (hf : ∀ r, key (f r) = key r) {k l : κ}
    (hkl : k ≠ l) (rows : List ρ) : rowAt key k (updateAt key l f rows) = rowAt key k rows := by
  rw [rowAt_updateAt hf]
  cases h : rowAt key k rows with
  | none => rfl
  | some r => simp [key_of_rowAt h, hkl]

theorem mem_updateAt {key : ρ → κ} {k : κ} {f : ρ → ρ} {rows : List ρ} {s : ρ} :
    s ∈ updateAt key k f rows ↔ ∃ r ∈ rows, (if key r = k then f r else r) = s := by
  simp [updateAt]

omit [DecidableEq κ] in
/-- Some rows are updated where they stand, and a column is left alone. -/
theorem map_updateWhere {key : ρ → κ} {p : ρ → Prop} [DecidablePred p] {f : ρ → ρ}
    (hf : ∀ r, key (f r) = key r) (rows : List ρ) :
    (rows.map fun r => if p r then f r else r).map key = rows.map key := by
  rw [List.map_map]
  refine List.map_congr_left fun r _ => ?_
  simp only [Function.comp_apply]
  split
  · exact hf r
  · rfl

omit [DecidableEq κ] in
theorem map_updateAt {key : ρ → κ} {f : ρ → ρ} (hf : ∀ r, key (f r) = key r) (key' : ρ → ι)
    (k' : ι) (rows : List ρ) : (updateAt key' k' f rows).map key = rows.map key :=
  map_updateWhere hf rows

/-- The rows with a property after an update of a row: that row alone, if it gets the property and
the others do not have it. -/
theorem filter_updateAt_eq_singleton {key : ρ → κ} {rows : List ρ} (h : UniqueOn key rows)
    {p : ρ → Bool} {f : ρ → ρ} {r : ρ} (hr : r ∈ rows) (hp : p (f r) = true)
    (hothers : ∀ s ∈ rows, key s ≠ key r → p s = false) :
    (updateAt key (key r) f rows).filter p = [f r] := by
  induction rows with
  | nil => exact absurd hr (by simp)
  | cons s rows ih =>
      obtain ⟨hfresh, htail⟩ := List.nodup_cons.1 h
      rw [updateAt_cons]
      by_cases hkey : key s = key r
      · have hsr : r = s := h.eq_of_key_eq hr (List.mem_cons_self ..) hkey.symm
        subst hsr
        have hne : ∀ t ∈ rows, key t ≠ key r := by
          intro t ht hkeys
          exact hfresh (List.mem_map.2 ⟨t, ht, hkeys⟩)
        have hrest : (updateAt key (key r) f rows).filter p = [] := by
          refine List.filter_eq_nil_iff.2 ?_
          intro t ht
          obtain ⟨u, hu, rfl⟩ := mem_updateAt.1 ht
          rw [if_neg (hne u hu), hothers u (List.mem_cons_of_mem _ hu) (hne u hu)]
          exact Bool.false_ne_true
        rw [if_pos rfl, List.filter_cons_of_pos hp, hrest]
      · have hmem : r ∈ rows := by
          rcases List.mem_cons.1 hr with rfl | hmem
          · exact absurd rfl hkey
          · exact hmem
        have hs : ¬ p s = true := by
          rw [hothers s (List.mem_cons_self ..) hkey]
          exact Bool.false_ne_true
        rw [if_neg hkey, List.filter_cons_of_neg hs]
        exact ih htail hmem fun t ht => hothers t (List.mem_cons_of_mem _ ht)

/-! ### Upserts -/

/-- `INSERT … ON CONFLICT (key) DO UPDATE`: the row with the key of the new one is merged with it,
or the new row is appended. -/
def upsertAt (key : ρ → κ) (new : ρ) (merge : ρ → ρ) : List ρ → List ρ
  | [] => [new]
  | r :: rows => if key r = key new then merge r :: rows else r :: upsertAt key new merge rows

section Upsert

variable {key : ρ → κ} {new : ρ} {merge : ρ → ρ} {rows : List ρ}

theorem key_mem_upsertAt (hmerge : ∀ r, key (merge r) = key r) {k : κ}
    (h : k ∈ (upsertAt key new merge rows).map key) : k ∈ rows.map key ∨ k = key new := by
  induction rows with
  | nil => exact Or.inr (List.mem_singleton.1 h)
  | cons r rows ih =>
      simp only [upsertAt] at h
      split at h
      · rw [List.map_cons, hmerge] at h
        exact Or.inl h
      · rcases List.mem_cons.1 h with rfl | h
        · exact Or.inl List.mem_cons_self
        · exact (ih h).imp_left (List.mem_cons_of_mem _)

/-- A row after an upsert was there, or is the new one, or has been merged with it. -/
theorem mem_upsertAt {r : ρ} (h : r ∈ upsertAt key new merge rows) :
    r ∈ rows ∨ r = new ∨ ∃ s ∈ rows, r = merge s := by
  induction rows with
  | nil => exact Or.inr (Or.inl (List.mem_singleton.1 h))
  | cons s rows ih =>
      rw [upsertAt] at h
      split at h
      · rcases List.mem_cons.1 h with rfl | h
        · exact Or.inr (Or.inr ⟨s, List.mem_cons_self, rfl⟩)
        · exact Or.inl (List.mem_cons_of_mem _ h)
      · rcases List.mem_cons.1 h with rfl | h
        · exact Or.inl List.mem_cons_self
        · rcases ih h with h | h | ⟨t, ht, rfl⟩
          · exact Or.inl (List.mem_cons_of_mem _ h)
          · exact Or.inr (Or.inl h)
          · exact Or.inr (Or.inr ⟨t, List.mem_cons_of_mem _ ht, rfl⟩)

theorem UniqueOn.upsertAt (h : UniqueOn key rows) (hmerge : ∀ r, key (merge r) = key r) :
    UniqueOn key (upsertAt key new merge rows) := by
  induction rows with
  | nil => exact List.nodup_singleton _
  | cons r rows ih =>
      obtain ⟨hfresh, htail⟩ := List.nodup_cons.1 h
      rw [Relational.upsertAt]
      split
      · rw [UniqueOn, List.map_cons, hmerge]
        exact h
      · rename_i hne
        refine List.nodup_cons.2 ⟨?_, ih htail⟩
        intro hmem
        rcases key_mem_upsertAt hmerge hmem with hmem | hkey
        · exact hfresh hmem
        · exact hne hkey

omit [DecidableEq ι] in
/-- Another key after an upsert that leaves it alone: as it was, or with that of the new row. -/
theorem map_upsertAt {key' : ρ → ι} (hmerge : ∀ r, key' (merge r) = key' r) :
    (upsertAt key new merge rows).map key' = rows.map key' ∨
      (upsertAt key new merge rows).map key' = rows.map key' ++ [key' new] := by
  induction rows with
  | nil => exact Or.inr rfl
  | cons r rows ih =>
      rw [upsertAt]
      split
      · exact Or.inl (by rw [List.map_cons, hmerge, List.map_cons])
      · rcases ih with h | h
        · exact Or.inl (by rw [List.map_cons, h, List.map_cons])
        · exact Or.inr (by rw [List.map_cons, h, List.map_cons, List.cons_append])

omit [DecidableEq ι] in
/-- Another key stays unique when that of the new row is fresh. -/
theorem UniqueOn.upsertAt_of_fresh {key' : ρ → ι} (h : UniqueOn key' rows)
    (hmerge : ∀ r, key' (merge r) = key' r) (hnew : ∀ r ∈ rows, key' r ≠ key' new) :
    UniqueOn key' (Relational.upsertAt key new merge rows) := by
  have hcases : (Relational.upsertAt key new merge rows).map key' = rows.map key' ∨
      (Relational.upsertAt key new merge rows).map key' = rows.map key' ++ [key' new] :=
    map_upsertAt hmerge
  rcases hcases with hmap | hmap
  · rw [UniqueOn, hmap]
    exact h
  · rw [UniqueOn, hmap, List.nodup_append]
    refine ⟨h, List.nodup_singleton _, ?_⟩
    rintro a ha b hb rfl
    obtain ⟨s, hs, hsa⟩ := List.mem_map.1 ha
    exact hnew s hs (hsa.trans (List.mem_singleton.1 hb))

/-- Reading a key after an upsert. -/
theorem rowAt_upsertAt (hmerge : ∀ r, key (merge r) = key r) (k : κ) :
    rowAt key k (upsertAt key new merge rows) =
      if key new = k then some ((rowAt key k rows).elim new merge) else rowAt key k rows := by
  induction rows with
  | nil => simp [upsertAt, rowAt_cons]
  | cons r rows ih =>
      rw [upsertAt, rowAt_cons]
      by_cases hr : key r = key new
      · rw [if_pos hr, rowAt_cons, hmerge, hr]
        split
        · rfl
        · rfl
      · rw [if_neg hr, rowAt_cons, ih]
        by_cases hk : key r = k
        · rw [if_pos hk, if_pos hk, if_neg]
          exact fun hnew => hr (hk.trans hnew.symm)
        · rw [if_neg hk, if_neg hk]

/-- The rows with a property of their keys after an upsert. -/
theorem filter_upsertAt {p : ρ → Bool}
    (hp : ∀ r, key r = key new → p r = p new ∧ p (merge r) = p new) :
    (upsertAt key new merge rows).filter p =
      if p new then upsertAt key new merge (rows.filter p) else rows.filter p := by
  induction rows with
  | nil =>
      cases hnew : p new with
      | false => simp [upsertAt, hnew]
      | true => simp [upsertAt, hnew]
  | cons r rows ih =>
      rw [upsertAt]
      by_cases hr : key r = key new
      · obtain ⟨hpr, hpm⟩ := hp r hr
        cases hnew : p new with
        | false => simp [hr, hpr, hpm, hnew]
        | true => simp [hr, hpr, hpm, hnew, upsertAt]
      · rw [if_neg hr, List.filter_cons, ih]
        cases hpr : p r with
        | false => simp [hpr]
        | true =>
            cases hnew : p new with
            | false => simp [hpr]
            | true => simp [hpr, upsertAt, hr]

/-- An upsert that adds: the sum over the rows grows by what is new. -/
theorem sum_upsertAt {M : Type} [AddCommMonoid M] {g : ρ → M}
    (hg : ∀ r, key r = key new → g (merge r) = g r + g new) :
    ((upsertAt key new merge rows).map g).sum = (rows.map g).sum + g new := by
  induction rows with
  | nil => simp [upsertAt]
  | cons r rows ih =>
      rw [upsertAt]
      split
      · rename_i hr
        rw [List.map_cons, List.sum_cons, hg r hr, List.map_cons, List.sum_cons, add_right_comm]
      · rw [List.map_cons, List.sum_cons, ih, List.map_cons, List.sum_cons, add_assoc]

end Upsert

/-! ### Uniqueness -/

omit [DecidableEq κ] in
theorem UniqueOn.updateWhere {key : ρ → κ} {rows : List ρ} (h : UniqueOn key rows) {p : ρ → Prop}
    [DecidablePred p] {f : ρ → ρ} (hf : ∀ r, key (f r) = key r) :
    UniqueOn key (rows.map fun r => if p r then f r else r) := by
  rw [UniqueOn, map_updateWhere hf]
  exact h

omit [DecidableEq κ] in
theorem UniqueOn.updateAt {key : ρ → κ} {rows : List ρ} (h : UniqueOn key rows) (key' : ρ → ι)
    (k' : ι) {f : ρ → ρ} (hf : ∀ r, key (f r) = key r) :
    UniqueOn key (updateAt key' k' f rows) :=
  h.updateWhere hf

omit [DecidableEq κ] in
/-- A row with a fresh key may be inserted. -/
theorem UniqueOn.append {key : ρ → κ} {rows : List ρ} (h : UniqueOn key rows) {r : ρ}
    (hr : ∀ s ∈ rows, key s ≠ key r) : UniqueOn key (rows ++ [r]) := by
  rw [UniqueOn, List.map_append, List.map_singleton, List.nodup_append]
  refine ⟨h, List.nodup_singleton _, ?_⟩
  rintro a ha b hb rfl
  obtain ⟨s, hs, hsa⟩ := List.mem_map.1 ha
  exact hr s hs (hsa.trans (List.mem_singleton.1 hb))

/-! ### Order -/

section Order

variable {β : Type} [LinearOrder β]

/-- `ORDER BY key ASC`. -/
theorem pairwise_orderBy (key : ρ → β) (rows : List ρ) :
    (rows.mergeSort fun a b => key a ≤ key b).Pairwise fun a b => key a ≤ key b := by
  refine (List.pairwise_mergeSort ?_ ?_ rows).imp of_decide_eq_true
  · intro a b c hab hbc
    exact decide_eq_true ((of_decide_eq_true hab).trans (of_decide_eq_true hbc))
  · intro a b
    rw [Bool.or_eq_true, decide_eq_true_iff, decide_eq_true_iff]
    exact le_total (key a) (key b)

/-- `ORDER BY key DESC`. -/
theorem pairwise_orderBy_desc (key : ρ → β) (rows : List ρ) :
    (rows.mergeSort fun a b => key b ≤ key a).Pairwise fun a b => key b ≤ key a :=
  pairwise_orderBy (fun row => OrderDual.toDual (key row)) rows

/-- `ORDER BY key DESC LIMIT 1`. -/
theorem head?_orderBy_desc (key : ρ → β) (rows : List ρ) :
    (rows.mergeSort fun a b => key b ≤ key a).head? = rows.argmax key := by
  induction rows with
  | nil => simp
  | cons a rows ih =>
      obtain ⟨before, after, hcons, hsort, hbefore⟩ :=
        @List.mergeSort_cons ρ (fun a b => decide (key b ≤ key a))
          (fun a b c hab hbc => decide_eq_true
            ((of_decide_eq_true hbc).trans (of_decide_eq_true hab)))
          (fun a b => by simpa using le_total (key b) (key a)) a rows
      rw [List.argmax_cons, ← ih, hcons, hsort]
      cases before with
      | nil =>
          -- the first row comes first, since no other key is greater
          have hsorted := pairwise_orderBy_desc key (a :: rows)
          rw [hcons] at hsorted
          cases after with
          | nil => rfl
          | cons b after =>
              have hle : key b ≤ key a :=
                (List.pairwise_cons.1 hsorted).1 b List.mem_cons_self
              exact (if_neg (not_lt.2 hle)).symm
      | cons b before =>
          have hlt : key a < key b := by simpa using hbefore b List.mem_cons_self
          exact (if_pos hlt).symm

/-- The same with some of the rows, and some columns of each. -/
theorem head?_orderBy_desc_map {α γ : Type} {f : α → γ} {key : α → β}
    {key' : γ → β} (hkey : ∀ a, key' (f a) = key a) {p : α → Bool} {p' : γ → Bool}
    (hp : ∀ a, p' (f a) = p a) (rows : List α) :
    (((rows.map f).filter p').mergeSort fun a b => key' b ≤ key' a).head? =
      ((rows.filter p).argmax key).map f := by
  have hfilter : (rows.map f).filter p' = (rows.filter p).map f := by
    rw [List.filter_map]
    exact congrArg (List.map f) (List.filter_congr fun a _ => hp a)
  rw [hfilter, ← head?_orderBy_desc key, ← List.head?_map]
  refine congrArg List.head? (List.map_mergeSort fun a _ b _ => ?_).symm
  rw [hkey, hkey]

end Order

theorem takeWhile_dropWhile_append {front back : List ρ} {le : ρ → ρ → Bool} {a : ρ}
    (hfront : ∀ b ∈ front, (!le a b) = true) (hback : ∀ b ∈ back, le a b = true) :
    (front ++ back).takeWhile (fun b => !le a b) = front ∧
      (front ++ back).dropWhile (fun b => !le a b) = back := by
  have hnil : back.takeWhile (fun b => !le a b) = [] ∧
      back.dropWhile (fun b => !le a b) = back := by
    cases back with
    | nil => exact ⟨rfl, rfl⟩
    | cons b back => simp [hback b List.mem_cons_self]
  rw [List.takeWhile_append_of_pos hfront, List.dropWhile_append_of_pos hfront, hnil.1, hnil.2,
    List.append_nil]
  exact ⟨rfl, rfl⟩

/-- Rows may be chosen before or after they are ordered. -/
theorem filter_mergeSort {le : ρ → ρ → Bool} (p : ρ → Bool)
    (htrans : ∀ a b c, le a b = true → le b c = true → le a c = true)
    (htotal : ∀ a b, (le a b || le b a) = true) (l : List ρ) :
    (l.mergeSort le).filter p = (l.filter p).mergeSort le := by
  induction l with
  | nil => simp
  | cons a l ih =>
      obtain ⟨before, after, hcons, hsort, hbefore⟩ := List.mergeSort_cons htrans htotal a l
      rw [hsort] at ih
      have hsorted := List.pairwise_mergeSort htrans htotal (a :: l)
      rw [hcons, List.pairwise_append] at hsorted
      have hafter := (List.pairwise_cons.1 hsorted.2.1).1
      by_cases ha : p a = true
      · obtain ⟨before', after', hcons', hsort', hbefore'⟩ :=
          List.mergeSort_cons htrans htotal a (l.filter p)
        have hsorted' := List.pairwise_mergeSort htrans htotal (a :: l.filter p)
        rw [hcons', List.pairwise_append] at hsorted'
        have hafter' := (List.pairwise_cons.1 hsorted'.2.1).1
        -- in both lists the element stands behind those it is not below
        have hparts := takeWhile_dropWhile_append hbefore' hafter'
        have hbefore_filter : ∀ b ∈ before.filter p, (!le a b) = true :=
          fun b hb => hbefore b (List.mem_of_mem_filter hb)
        have hafter_filter : ∀ b ∈ after.filter p, le a b = true :=
          fun b hb => hafter b (List.mem_of_mem_filter hb)
        have hfiltered := takeWhile_dropWhile_append hbefore_filter hafter_filter
        have heq : before' ++ after' = before.filter p ++ after.filter p := by
          rw [← hsort', ← ih, List.filter_append]
        rw [heq] at hparts
        rw [hcons, List.filter_cons_of_pos ha, hcons', List.filter_append,
          List.filter_cons_of_pos ha, ← hparts.1, ← hparts.2, hfiltered.1, hfiltered.2]
      · rw [hcons, List.filter_cons_of_neg ha, List.filter_append, List.filter_cons_of_neg ha, ← ih,
          List.filter_append]

/-- In a table that grows along a key, the row with the greatest key is the last one. -/
theorem argmax_eq_getLast? {α β : Type} [LinearOrder β] {f : α → β} {l : List α}
    (h : l.Pairwise fun a b => f a < f b) : l.argmax f = l.getLast? := by
  induction l using List.reverseRecOn with
  | nil => rfl
  | append_singleton l a ih =>
      obtain ⟨hl, -, ha⟩ := List.pairwise_append.1 h
      rw [List.argmax_concat, ih hl, List.getLast?_concat]
      cases hlast : l.getLast? with
      | none => rfl
      | some b =>
          have hb := ha b (List.mem_of_getLast? hlast) a (List.mem_singleton_self a)
          exact if_pos hb

end Relational
