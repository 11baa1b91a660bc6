/-
**Amounts and distances with dots.**

The program writes a large number with a dot between groups of three digits, and it does so in two
places: `telegram_messages.rs` goes through the digits of an amount from the right and turns the
result around, `api.rs` goes through those of a distance from the left and looks at how many are
still to come.

Main definitions:

* `Gt06.formatIdr` — an amount in rupiah;
* `Gt06.formatKmGrouped` — a distance in kilometres.

Main results:

* `Gt06.formatIdr_eq_formatKmGrouped` — **both write the digits of the number, in the same
  groups**.
-/

import Gt06Server.Decimals

set_option relaxedAutoImplicit false
set_option autoImplicit false

namespace Gt06

open Decimals

def formatKmGrouped (value : ℤ) : String :=
  let digits := (toString value).toList
  String.ofList <|
    insertBefore '.' (fun index => 0 < index && (digits.length - index) % 3 == 0) 0 digits

def formatIdr (amount : ℤ) : String :=
  let digits := (toString |amount|).toList
  let reversed := insertBefore '.' (fun index => 0 < index && index % 3 == 0) 0 digits.reverse
  let formatted := String.ofList reversed.reverse
  if amount < 0 then "-Rp " ++ formatted else "Rp " ++ formatted

example : formatIdr (-1250000) = "-Rp 1.250.000" := by decide +kernel

theorem toList_formatKmGrouped (value : ℤ) :
    (formatKmGrouped value).toList = groupForwards '.' 3 (toString value).toList :=
  String.toList_ofList

theorem dot_notMem_toString (n : ℤ) : '.' ∉ (toString n).toList := by
  intro h
  obtain h | h := isDigit_of_mem_toString h
  · exact absurd h (by decide)
  · exact absurd h (by decide)

/-- **An amount is written as a distance is**: the digits of the number, with a dot between groups
of three, of which the first may be shorter. -/
theorem formatIdr_eq_formatKmGrouped {n : ℤ} (h : 0 ≤ n) :
    formatIdr n = "Rp " ++ formatKmGrouped n ∧
      (formatKmGrouped n).toList.filter (· ≠ '.') = Nat.toDigits 10 n.toNat ∧
      ∃ first groups, (formatKmGrouped n).toList.splitOn '.' = first :: groups ∧
        1 ≤ first.length ∧ first.length ≤ 3 ∧ (∀ group ∈ groups, group.length = 3) ∧
        ∀ group ∈ first :: groups, ∀ c ∈ group, c.isDigit = true := by
  have hdigits := toList_toString_of_nonneg h
  refine ⟨?_, ?_, ?_⟩
  · have hsame : formatKmGrouped n =
        String.ofList (groupBackwards '.' 3 (toString n).toList) := by
      rw [← groupForwards_eq_groupBackwards (by decide)]
      rfl
    rw [formatIdr, if_neg (by omega), abs_of_nonneg h, hsame]
    rfl
  · rw [toList_formatKmGrouped, ← hdigits]
    exact filter_insertBefore 0 (dot_notMem_toString n)
  · have hne : (toString n).toList ≠ [] := by
      rw [hdigits]
      exact Nat.toDigits_ne_nil
    have hsize : 0 < 3 := by decide
    obtain ⟨first, groups, hsplit, hflatten, hpos, hle, hgroups⟩ :=
      splitOn_groupForwards hsize hne (dot_notMem_toString n)
    refine ⟨first, groups, ?_, hpos, hle, hgroups, ?_⟩
    · rw [toList_formatKmGrouped, hsplit]
    · intro group hgroup c hc
      have hmem : c ∈ (toString n).toList := hflatten ▸ List.mem_flatten.2 ⟨group, hgroup, hc⟩
      rw [hdigits] at hmem
      exact isDigit_of_mem_toDigits hmem

theorem formatIdr_eq_formatKmGrouped_price :
    formatIdr 45000 = "Rp " ++ formatKmGrouped 45000 ∧
      (formatKmGrouped 45000).toList.filter (· ≠ '.') = Nat.toDigits 10 (45000 : ℤ).toNat ∧
      ∃ first groups, (formatKmGrouped 45000).toList.splitOn '.' = first :: groups ∧
        1 ≤ first.length ∧ first.length ≤ 3 ∧ (∀ group ∈ groups, group.length = 3) ∧
        ∀ group ∈ first :: groups, ∀ c ∈ group, c.isDigit = true :=
  formatIdr_eq_formatKmGrouped (by decide)

end Gt06
