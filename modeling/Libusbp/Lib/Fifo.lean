import Mathlib.Data.List.Basic
import Mathlib.Data.List.Infix
import Mathlib.Data.List.Nodup
import Mathlib.Data.Nat.ModEq
import Mathlib.Tactic.Common

/-!
# Bounded queues and their ring encoding

`Reaches cap tr q` is the abstract bounded queue: the trace `tr` of pushes and pops, newest first,
leads from the empty queue to `q` without ever holding more than `cap` elements or one element
twice. Its facts are the first-in first-out facts: the pushes are the pops followed by what is
queued (`Reaches.pushes_eq`), and the element popped as number `k` was last pushed as number `k`
(`Reaches.last_push`).

`Circular` is the encoding of such a queue by a head, a tail and a counter over `n` slots, and
`Circular.window` the slots it occupies.
-/

namespace Fifo

variable {α : Type}

/-- An operation on a queue. -/
inductive Op (α : Type) where
  | push (a : α)
  | pop (a : α)

/-- The pushed elements of a trace, in the order of the pushes. -/
def pushes : List (Op α) → List α
  | [] => []
  | .push a :: tr => pushes tr ++ [a]
  | .pop _ :: tr => pushes tr

/-- The popped elements of a trace, in the order of the pops. -/
def pops : List (Op α) → List α
  | [] => []
  | .push _ :: tr => pops tr
  | .pop a :: tr => pops tr ++ [a]

/-- The number of the last push of an element, counting the pushes from zero. -/
def lastPush [DecidableEq α] (a : α) : List (Op α) → Option Nat
  | [] => none
  | .push b :: tr => if b = a then some (pushes tr).length else lastPush a tr
  | .pop _ :: tr => lastPush a tr

/-- The bounded queue: a trace and the queue it leads to. -/
inductive Reaches (cap : Nat) : List (Op α) → List α → Prop where
  | nil : Reaches cap [] []
  | push {tr q a} :
    Reaches cap tr q → q.length < cap → a ∉ q → Reaches cap (.push a :: tr) (q ++ [a])
  | pop {tr q a} :
    Reaches cap tr (a :: q) → Reaches cap (.pop a :: tr) q

/-- First in, first out: what was pushed is what was popped, then what is queued. -/
lemma Reaches.pushes_eq {cap : Nat} {tr : List (Op α)} {q : List α} (h : Reaches cap tr q) :
    pushes tr = pops tr ++ q := by
  induction h with
  | nil => rfl
  | push _ _ _ ih => simp only [pushes, pops, ih, List.append_assoc]
  | pop _ ih => simp only [pushes, pops, ih, List.append_assoc, List.singleton_append]

lemma Reaches.nodup {cap : Nat} {tr : List (Op α)} {q : List α} (h : Reaches cap tr q) :
    q.Nodup := by
  induction h with
  | nil => exact List.nodup_nil
  | push _ _ nm ih =>
    rw [List.nodup_append_comm]
    exact List.nodup_cons.mpr ⟨nm, ih⟩
  | pop _ ih => exact (List.nodup_cons.mp ih).2

/-- Every earlier point of a trace is a trace of the queue. -/
lemma Reaches.suffix {cap : Nat} {tr pre : List (Op α)} {q : List α} (h : Reaches cap tr q)
    (sfx : pre <:+ tr) : ∃ q', Reaches cap pre q' := by
  induction h with
  | nil =>
    rw [List.suffix_nil] at sfx
    subst sfx
    exact ⟨[], .nil⟩
  | @push tr q a h lt nm ih =>
    rcases List.suffix_cons_iff.mp sfx with rfl | sfx
    · exact ⟨q ++ [a], .push h lt nm⟩
    · exact ih sfx
  | @pop tr q a h ih =>
    rcases List.suffix_cons_iff.mp sfx with rfl | sfx
    · exact ⟨q, .pop h⟩
    · exact ih sfx

/-- The element at place `i` of the queue was last pushed as number `i` after the pops. -/
lemma Reaches.lastPush_getElem [DecidableEq α] {cap : Nat} {tr : List (Op α)} {q : List α}
    (h : Reaches cap tr q) (i : Nat) (hi : i < q.length) :
    lastPush q[i] tr = some ((pops tr).length + i) := by
  induction h generalizing i with
  | nil => simp at hi
  | @push tr q a h lt nm ih =>
    have len : (pushes tr).length = (pops tr).length + q.length := by
      rw [h.pushes_eq, List.length_append]
    by_cases old : i < q.length
    · have ne : a ≠ q[i] := by
        intro e
        apply nm
        rw [e]
        exact List.getElem_mem old
      simp only [lastPush, pops, List.getElem_append_left old, if_neg ne]
      exact ih i old
    · have eq : i = q.length := by
        simp only [List.length_append, List.length_singleton] at hi
        omega
      subst eq
      simp only [lastPush, pops, List.getElem_concat_length, if_true, len]
  | @pop tr q a h ih =>
    have hq := ih (i + 1) (by simpa using hi)
    simp only [List.getElem_cons_succ] at hq
    simp only [lastPush, pops, List.length_append, List.length_singleton, hq]
    congr 1
    omega

/-- The element popped as number `k` was last pushed as number `k`. -/
lemma Reaches.last_push [DecidableEq α] {cap : Nat} {tr : List (Op α)} {q : List α} {a : α}
    (h : Reaches cap (.pop a :: tr) q) : lastPush a tr = some (pops tr).length := by
  cases h with
  | pop h => exact h.lastPush_getElem 0 (Nat.zero_lt_succ _)

end Fifo

/-- A queue of `count` of `n` slots, from the slot `head` up to the slot before `tail`. -/
structure Circular (n head tail count : Nat) : Prop where
  head_lt : head < n
  tail_lt : tail < n
  count_le : count ≤ n
  tail_eq : tail = (head + count) % n

namespace Circular

variable {n head tail count : Nat}

/-- The occupied slots, in the order of the queue. -/
def window (n head count : Nat) : List Nat :=
  (List.range count).map fun i => (head + i) % n

@[simp] lemma window_zero : window n head 0 = [] := rfl

@[simp] lemma length_window : (window n head count).length = count := by
  simp [window]

lemma mem_window {j : Nat} : j ∈ window n head count ↔ ∃ i < count, (head + i) % n = j := by
  simp [window]

lemma window_lt (pos : 0 < n) {j : Nat} (h : j ∈ window n head count) : j < n := by
  obtain ⟨i, _, rfl⟩ := mem_window.mp h
  exact Nat.mod_lt _ pos

/-- Filling the slot at the tail. -/
lemma window_push : window n head (count + 1) = window n head count ++ [(head + count) % n] := by
  simp [window, List.range_succ]

/-- Emptying the slot at the head. -/
lemma window_pop (lt : head < n) :
    window n head (count + 1) = head :: window n ((head + 1) % n) count := by
  simp only [window, List.range_succ_eq_map, List.map_cons, List.map_map, Nat.add_zero,
    Nat.mod_eq_of_lt lt]
  congr 1
  apply List.map_congr_left
  intro i _
  simp only [Function.comp_apply, Nat.mod_add_mod]
  congr 1
  omega

/-- Different places of the window are different slots. -/
lemma slot_inj {i j : Nat} (hi : i < n) (hj : j < n) (e : (head + i) % n = (head + j) % n) :
    i = j := by
  have h : i % n = j % n := Nat.ModEq.add_left_cancel' head e
  rwa [Nat.mod_eq_of_lt hi, Nat.mod_eq_of_lt hj] at h

/-- The slot at the tail of a ring that is not full is not occupied. -/
lemma tail_notMem (lt : count < n) : (head + count) % n ∉ window n head count := by
  intro h
  obtain ⟨i, hi, e⟩ := mem_window.mp h
  have := slot_inj (by omega) lt e
  omega

/-- A push moves the tail on. -/
lemma push (h : Circular n head tail count) (lt : count < n) :
    Circular n head ((tail + 1) % n) (count + 1) where
  head_lt := h.head_lt
  tail_lt := Nat.mod_lt _ (by have := h.head_lt; omega)
  count_le := lt
  tail_eq := by rw [h.tail_eq, Nat.mod_add_mod, Nat.add_assoc]

/-- A pop moves the head on. -/
lemma pop (h : Circular n head tail (count + 1)) : Circular n ((head + 1) % n) tail count where
  head_lt := Nat.mod_lt _ (by have := h.head_lt; omega)
  tail_lt := h.tail_lt
  count_le := Nat.le_of_succ_le h.count_le
  tail_eq := by
    rw [h.tail_eq, Nat.mod_add_mod]
    congr 1
    omega

end Circular
