import Mathlib.Algebra.BigOperators.Group.Finset.Basic

/-!
# What the entries of a finite map hold

A map with finitely many entries, each of which holds something. `Stock hold f m` says that they hold `m`
together. An entry that is made, written or removed changes the sum by what it holds alone
(`Stock.insert`, `Stock.pick`).
-/

variable {ι α M : Type} [AddCommMonoid M] {hold : ι → α → M} {f : ι → Option α} {m m' : M} {i : ι}

/-- The map has finitely many entries, which hold `m` together. -/
def Stock (hold : ι → α → M) (f : ι → Option α) (m : M) : Prop :=
  ∃ keys : Finset ι, (∀ i, i ∈ keys ↔ f i ≠ none) ∧ m = keys.sum fun i => (f i).elim 0 (hold i)

namespace Stock

/-- No entries hold nothing. -/
lemma empty (none : ∀ i, f i = none) : Stock hold f 0 :=
  ⟨∅, fun i => by simp [none i], rfl⟩

/-- If every entry holds nothing, all of them do. -/
lemma eq_zero (stock : Stock hold f m) (zero : ∀ i a, f i = some a → hold i a = 0) : m = 0 := by
  obtain ⟨keys, _, rfl⟩ := stock
  apply Finset.sum_eq_zero
  intro i _
  cases entry : f i with
  | none => rfl
  | some a => exact zero i a entry

variable [DecidableEq ι]

/-- A new entry brings what it holds. -/
lemma insert (stock : Stock hold f m) (new : f i = none) (a : α) :
    Stock hold (Function.update f i (some a)) (m + hold i a) := by
  obtain ⟨keys, iff, rfl⟩ := stock
  have notMem : i ∉ keys := fun mem => (iff i).mp mem new
  refine ⟨Insert.insert i keys, ?_, ?_⟩
  · intro j
    by_cases same : j = i
    · simp [same]
    · simp [same, iff]
  · rw [Finset.sum_insert notMem, Function.update_self, add_comm]
    congr 1
    apply Finset.sum_congr rfl
    intro j mem
    have ne : j ≠ i := fun same => notMem (same ▸ mem)
    rw [Function.update_of_ne ne]

/-- An entry by itself: what it holds is one part, and the other part stays if it is written or removed. -/
lemma pick {a : α} (stock : Stock hold f m) (entry : f i = some a) : ∃ rest, m = rest + hold i a ∧
    (∀ b, Stock hold (Function.update f i (some b)) (rest + hold i b)) ∧
      Stock hold (Function.update f i none) rest := by
  obtain ⟨keys, iff, rfl⟩ := stock
  have mem : i ∈ keys := (iff i).mpr (by rw [entry]; exact Option.some_ne_none a)
  have others : ∀ (x : Option α), ((keys.erase i).sum fun j => (Function.update f i x j).elim 0 (hold j)) =
      (keys.erase i).sum fun j => (f j).elim 0 (hold j) := by
    intro x
    apply Finset.sum_congr rfl
    intro j mem'
    rw [Function.update_of_ne (Finset.ne_of_mem_erase mem')]
  refine ⟨(keys.erase i).sum fun j => (f j).elim 0 (hold j), ?_, ?_, ?_⟩
  · rw [← Finset.sum_erase_add _ _ mem, entry]
    rfl
  · intro b
    refine ⟨keys, ?_, ?_⟩
    · intro j
      by_cases same : j = i
      · simp [same, mem]
      · rw [Function.update_of_ne same, iff]
    · rw [← Finset.sum_erase_add _ _ mem, others, Function.update_self]
      rfl
  · refine ⟨keys.erase i, ?_, (others none).symm⟩
    intro j
    by_cases same : j = i
    · simp [same]
    · rw [Function.update_of_ne same, Finset.mem_erase, iff]
      exact and_iff_right same

end Stock
