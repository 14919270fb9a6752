import Libusbp.Lib.Heap
import Libusbp.Lib.Sim

/-!
# Heaps that answer alike

What a program does depends on which requests for memory are granted and on the next fresh address, but
not on what was allocated or freed before: two heaps that agree on these cannot be told apart, and the
allocator respects every relation that it keeps up (`Oblivious`). One is `Alike`: an address `n` that
was handed out before stays so. Another one is `Resumed`: the heaps differ in the calls of the allocator
that were made before.
-/

namespace Heap

/-- A relation between heaps that grant the same requests with the same addresses, and stay related
whatever the allocator is asked to do. -/
class Oblivious (R : Heap → Heap → Prop) : Prop where
  grant : ∀ {h₁ h₂}, R h₁ h₂ → h₁.grant = h₂.grant
  next : ∀ {h₁ h₂}, R h₁ h₂ → h₁.next = h₂.next
  request : ∀ {h₁ h₂} (size : Nat), R h₁ h₂ → R (h₁.request size) (h₂.request size)
  record : ∀ {h₁ h₂} (c : HeapCall), R h₁ h₂ →
    R { h₁ with calls := c :: h₁.calls } { h₂ with calls := c :: h₂.calls }

/-- The heaps grant the same requests from now on, with the same addresses, and never `n`. -/
structure Alike (n : Addr) (h₁ h₂ : Heap) : Prop where
  grant : h₁.grant = h₂.grant
  next : h₁.next = h₂.next
  below : n < h₁.next

lemma Alike.request {n : Addr} {h₁ h₂ : Heap} (alike : Alike n h₁ h₂) (size : Nat) :
    Alike n (h₁.request size) (h₂.request size) where
  grant := alike.grant
  next := by rw [request_next, request_next, alike.next]
  below := Nat.lt_succ_of_lt alike.below

instance (n : Addr) : Oblivious (Alike n) where
  grant := Alike.grant
  next := Alike.next
  request size alike := alike.request size
  record _ alike := ⟨alike.grant, alike.next, alike.below⟩

/-- The heap `h₂` is `h₁` with the calls `c` made before all others. -/
structure Resumed (c : List HeapCall) (h₁ h₂ : Heap) : Prop where
  grant : h₁.grant = h₂.grant
  next : h₁.next = h₂.next
  calls : h₂.calls = h₁.calls ++ c

lemma Resumed.request {c : List HeapCall} {h₁ h₂ : Heap} (resumed : Resumed c h₁ h₂) (size : Nat) :
    Resumed c (h₁.request size) (h₂.request size) where
  grant := resumed.grant
  next := by rw [request_next, request_next, resumed.next]
  calls := by
    simp only [Heap.request, resumed.grant, resumed.next, resumed.calls]
    split
    · rfl
    · split <;> rfl

instance (c : List HeapCall) : Oblivious (Resumed c) where
  grant := Resumed.grant
  next := Resumed.next
  request size resumed := resumed.request size
  record call resumed := ⟨resumed.grant, resumed.next, congrArg (call :: ·) resumed.calls⟩

open Prog

variable {φ : Type} {R : Heap → Heap → Prop} [Oblivious R]

lemma respects_malloc (size : Nat) : Respects R (malloc size : Prog φ Heap _) := by
  apply Sim.get
  intro h₁ h₂ alike
  apply Sim.set_bind (Oblivious.request size alike)
  rw [Oblivious.grant alike, Oblivious.next alike]
  exact Respects.ite .pure .pure

lemma respects_calloc (count size : Nat) : Respects R (calloc count size : Prog φ Heap _) := by
  unfold calloc
  apply Respects.ite (respects_malloc _)
  apply Respects.bind
  · exact .modify fun _ _ => Oblivious.record .denied
  · exact fun _ => .pure

lemma respects_free (p : Option Loc) : Respects R (free p : Prog φ Heap _) := by
  cases p with
  | none => exact .pure
  | some l => exact .modify fun _ _ => Oblivious.record (.free l)

lemma respects_realloc (p : Option Loc) (size : Nat) :
    Respects R (realloc p size : Prog φ Heap _) := by
  apply Respects.bind (respects_malloc size)
  intro r
  exact .ite (.bind (respects_free p) fun _ => .pure) .pure

end Heap
