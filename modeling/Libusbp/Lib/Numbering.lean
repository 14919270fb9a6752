import Mathlib.Logic.Function.Basic
import Mathlib.Tactic.Common

/-!
# Tables that are filled in rounds

Things are numbered from 1 on, and some of them have a key. `invert key k` is the table that `k` rounds
fill, where each one writes its number at the key of the thing. If no two things share a key, the table
is the inverse of the numbering, with 0 at the keys that nothing has.
-/

namespace Numbering

variable {K : Type} [DecidableEq K] {key : Nat → Option K} {k i : Nat} {x : K}

/-- The table after `k` rounds. -/
def invert (key : Nat → Option K) : Nat → K → Nat
  | 0 => fun _ => 0
  | k + 1 =>
    match key (k + 1) with
    | none => invert key k
    | some x => Function.update (invert key k) x (k + 1)

/-- No two of the first `k` things have the same key. -/
def Distinct (key : Nat → Option K) (k : Nat) : Prop :=
  ∀ i j x, 1 ≤ i → i ≤ k → 1 ≤ j → j ≤ k → key i = some x → key j = some x → i = j

/-- A round for a thing without a key changes nothing. -/
lemma invert_none (none : key (k + 1) = none) : invert key (k + 1) = invert key k := by
  rw [invert, none]

lemma invert_some (some : key (k + 1) = some x) :
    invert key (k + 1) = Function.update (invert key k) x (k + 1) := by
  rw [invert, some]

/-- What is not 0 is the number of a thing with the key. -/
lemma invert_numbers (ne : invert key k x ≠ 0) :
    1 ≤ invert key k x ∧ invert key k x ≤ k ∧ key (invert key k x) = some x := by
  induction k with
  | zero => exact absurd rfl ne
  | succ k ih =>
    cases h : key (k + 1) with
    | none =>
      rw [invert_none h] at ne ⊢
      obtain ⟨pos, le, has⟩ := ih ne
      exact ⟨pos, Nat.le_succ_of_le le, has⟩
    | some y =>
      rw [invert_some h] at ne ⊢
      by_cases same : x = y
      · rw [same, Function.update_self]
        exact ⟨Nat.succ_le_succ (Nat.zero_le k), Nat.le_refl _, h⟩
      · rw [Function.update_of_ne same] at ne ⊢
        obtain ⟨pos, le, has⟩ := ih ne
        exact ⟨pos, Nat.le_succ_of_le le, has⟩

/-- The key of a thing has a number. -/
lemma invert_ne_zero (pos : 1 ≤ i) (le : i ≤ k) (has : key i = some x) : invert key k x ≠ 0 := by
  induction k with
  | zero => omega
  | succ k ih =>
    rcases Nat.le_or_eq_of_le_succ le with le | rfl
    · cases h : key (k + 1) with
      | none =>
        rw [invert_none h]
        exact ih le
      | some y =>
        rw [invert_some h]
        by_cases same : x = y
        · rw [same, Function.update_self]
          exact Nat.succ_ne_zero k
        · rw [Function.update_of_ne same]
          exact ih le
    · rw [invert_some has, Function.update_self]
      exact Nat.succ_ne_zero k

/-- There is a 0 exactly at the keys that nothing has. -/
lemma invert_eq_zero : invert key k x = 0 ↔ ∀ i, 1 ≤ i → i ≤ k → key i ≠ some x := by
  constructor
  · intro zero i pos le has
    exact invert_ne_zero pos le has zero
  · intro missing
    by_contra ne
    obtain ⟨pos, le, has⟩ := invert_numbers ne
    exact missing _ pos le has

/-- The table is the inverse of the numbering. -/
lemma invert_eq (distinct : Distinct key k) (pos : 1 ≤ i) (le : i ≤ k) :
    invert key k x = i ↔ key i = some x := by
  constructor
  · intro eq
    have ne : invert key k x ≠ 0 := by omega
    rw [← eq]
    exact (invert_numbers ne).2.2
  · intro has
    obtain ⟨pos', le', has'⟩ := invert_numbers (invert_ne_zero pos le has)
    exact distinct _ _ x pos' le' pos le has' has

end Numbering
