import Mathlib.Data.List.Perm.Basic
import Mathlib.Logic.Function.Basic

/-!
# Delivering messages

A state has slots, a list of the slots that wait for a message, and a log. Delivering a message writes to
its slot, enters it in the log, and lets the slot wait no more (`Delivery.One`). `Delivery.All` is what
any number of deliveries come to: every message got to its own slot, no slot got two of them, and nothing
else has changed.
-/

/-- How states with slots and messages to them are looked at. -/
structure Delivery (σ K T M L : Type) where
  waiting : σ → List K
  slots : σ → K → Option T
  log : σ → List L
  target : M → K
  entry : M → L
  /-- What a message makes of its slot. -/
  after : M → T → T → Prop

namespace Delivery

variable {σ K T M L : Type} [DecidableEq K] {V : Delivery σ K T M L} {s s₁ s' : σ} {m : M}
  {ms : List M}

/-- The message `m` was delivered. -/
structure One (V : Delivery σ K T M L) (s : σ) (m : M) (s' : σ) : Prop where
  mem : V.target m ∈ V.waiting s
  slots : ∃ x y, V.slots s (V.target m) = some x ∧ V.after m x y ∧
    V.slots s' = Function.update (V.slots s) (V.target m) (some y)
  log : V.log s' = V.entry m :: V.log s
  waiting : V.waiting s' = (V.waiting s).erase (V.target m)

/-- The messages `ms` were delivered, the first one first. -/
structure All (V : Delivery σ K T M L) (s : σ) (ms : List M) (s' : σ) : Prop where
  log : V.log s' = (ms.map V.entry).reverse ++ V.log s
  nodup : (ms.map V.target).Nodup
  waiting : (V.waiting s).Perm (ms.map V.target ++ V.waiting s')
  delivered : ∀ m ∈ ms, ∃ x y, V.slots s (V.target m) = some x ∧ V.after m x y ∧
    V.slots s' (V.target m) = some y
  others : ∀ k ∉ ms.map V.target, V.slots s' k = V.slots s k

namespace All

omit [DecidableEq K] in
lemma refl : All V s [] s where
  log := rfl
  nodup := List.nodup_nil
  waiting := List.Perm.refl _
  delivered := by simp
  others _ _ := rfl

omit [DecidableEq K] in
/-- Besides the slots, the log and who waits, nothing matters. -/
lemma congr (all : All V s ms s₁) (log : V.log s' = V.log s₁) (slots : V.slots s' = V.slots s₁)
    (waiting : V.waiting s' = V.waiting s₁) : All V s ms s' := by
  refine ⟨log.trans all.log, all.nodup, ?_, ?_, ?_⟩
  · rw [waiting]
    exact all.waiting
  · rw [slots]
    exact all.delivered
  · rw [slots]
    exact all.others

/-- One message more. Its slot waited, so it got none before. -/
lemma more (nodup : (V.waiting s).Nodup) (all : All V s ms s₁) (one : One V s₁ m s') :
    All V s (ms ++ [m]) s' := by
  obtain ⟨x, y, before, after, slots⟩ := one.slots
  have waiting : (V.waiting s).Perm ((ms ++ [m]).map V.target ++ V.waiting s') := by
    rw [one.waiting, List.map_append, List.append_assoc]
    exact all.waiting.trans ((List.perm_cons_erase one.mem).append_left _)
  have distinct : (ms.map V.target ++ [V.target m]).Nodup := by
    have whole := waiting.nodup nodup
    rw [List.map_append] at whole
    exact (List.nodup_append.mp whole).1
  have new : V.target m ∉ ms.map V.target := by
    intro old
    exact (List.nodup_append.mp distinct).2.2 _ old _ List.mem_cons_self rfl
  refine ⟨?_, by rw [List.map_append]; exact distinct, waiting, ?_, ?_⟩
  · rw [one.log, all.log, List.map_append, List.reverse_append]
    rfl
  · intro m' mem
    rcases List.mem_append.mp mem with old | last
    · obtain ⟨x', y', before', after', slots'⟩ := all.delivered m' old
      refine ⟨x', y', before', after', ?_⟩
      have ne : V.target m' ≠ V.target m := fun eq => new (eq ▸ List.mem_map_of_mem old)
      rw [slots, Function.update_of_ne ne, slots']
    · rw [List.mem_singleton.mp last]
      exact ⟨x, y, (all.others _ new).symm.trans before, after, by rw [slots, Function.update_self]⟩
  · intro k nm
    rw [List.map_append, List.mem_append, not_or] at nm
    have ne : k ≠ V.target m := fun eq => nm.2 (eq ▸ List.mem_cons_self)
    rw [slots, Function.update_of_ne ne, all.others k nm.1]

omit [DecidableEq K] in
/-- No more messages than slots that waited. -/
lemma length_le (all : All V s ms s') : ms.length ≤ (V.waiting s).length := by
  rw [all.waiting.length_eq, List.length_append, List.length_map]
  exact Nat.le_add_right _ _

end All

end Delivery
