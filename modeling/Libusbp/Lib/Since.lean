import Libusbp.Lib.Ledger
import Libusbp.Lib.Oblivious

/-!
# Ledgers that begin at some time

`OwnsSince c h m` says of the calls of the allocator that were made after the calls `c` what `Owns` says
of all calls. Nothing is assumed about `c`, so it holds at the start of every call of a function, with no
blocks. Because no program can tell heaps apart that differ in their past, the rules of `Owns` carry
over (`OwnsSince.wp_of_owns`).
-/

namespace Heap

open Prog

variable {φ α : Type} {c : List HeapCall} {h : Heap} {m m' : Multiset Loc}

/-- Since the calls `c`, the blocks of `m` were allocated and not freed, and what else was allocated was
freed again. -/
def OwnsSince (c : List HeapCall) (h : Heap) (m : Multiset Loc) : Prop :=
  ∃ new, h.calls = new ++ c ∧ ({ h with calls := new } : Heap).Owns m

/-- Of the blocks that were allocated between the two heaps those of `m` are left, and all others were
freed exactly once. No block from before was freed. -/
def FreedBut (m : Multiset Loc) (h h' : Heap) : Prop :=
  ∃ new, h'.calls = new ++ h.calls ∧
    (∀ a ∈ allocations new, new.count (.free (.heap a)) = if .heap a ∈ m then 0 else 1) ∧
    ∀ l, .free l ∈ new → ∃ a, l = .heap a ∧ a ∈ allocations new

/-- The blocks of `m` are different ones that were allocated between the two heaps and not freed. All
others that were allocated were freed exactly once, and no block from before was freed. -/
structure Leaves (m : Multiset Loc) (h h' : Heap) : Prop where
  nodup : m.Nodup
  allocated : ∃ new, h'.calls = new ++ h.calls ∧ ∀ l ∈ m, ∃ a, l = .heap a ∧ a ∈ allocations new
  freed : FreedBut m h h'

/-- The block was allocated between the two heaps and not freed. -/
def Alive (h h' : Heap) (l : Loc) : Prop :=
  ∃ new, h'.calls = new ++ h.calls ∧ (∃ a, l = .heap a ∧ a ∈ allocations new) ∧ .free l ∉ new

/-- What is held had been allocated. -/
lemma Owns.alloc_of_mem (own : h.Owns m) {l : Loc} (mem : l ∈ m) :
    ∃ a, l = .heap a ∧ a ∈ allocations h.calls := by
  cases l with
  | static => exact absurd mem own.static.1
  | heap a =>
    have bal := Entry.balance_count own.ledger (.heap a)
    rw [Owns.count_take, Owns.count_drop] at bal
    have held := Multiset.count_pos.mpr mem
    exact ⟨a, rfl, List.count_pos_iff.mp (by omega)⟩

/-- What was freed had been allocated. -/
lemma Owns.alloc_of_free (own : h.Owns m) {l : Loc} (mem : .free l ∈ h.calls) :
    ∃ a, l = .heap a ∧ a ∈ allocations h.calls := by
  cases l with
  | static => exact absurd mem own.static.2
  | heap a =>
    have bal := Entry.balance_count own.ledger (.heap a)
    rw [Owns.count_take, Owns.count_drop] at bal
    have freed := List.count_pos_iff.mpr mem
    exact ⟨a, rfl, List.count_pos_iff.mp (by omega)⟩

namespace OwnsSince

lemma of_eq (own : OwnsSince c h m) (e : m = m') : OwnsSince c h m' := e ▸ own

/-- At any time, nothing was allocated since. -/
lemma start : OwnsSince h.calls h 0 :=
  ⟨[], rfl, rfl, fun _ _ => List.not_mem_nil, List.nodup_nil⟩

lemma nodup (own : OwnsSince c h m) : m.Nodup := by
  obtain ⟨_, _, own⟩ := own
  exact own.nodup

lemma freedBut {h₀ : Heap} (own : OwnsSince h₀.calls h m) : FreedBut m h₀ h := by
  obtain ⟨new, calls, own⟩ := own
  exact ⟨new, calls, fun _ => own.freed_once, fun _ => own.alloc_of_free⟩

lemma leaves {h₀ : Heap} (own : OwnsSince h₀.calls h m) : Leaves m h₀ h := by
  refine ⟨own.nodup, ?_, own.freedBut⟩
  · obtain ⟨new, calls, own⟩ := own
    exact ⟨new, calls, fun _ => own.alloc_of_mem⟩

/-- What is held is alive. -/
lemma alive {h₀ : Heap} (own : OwnsSince h₀.calls h m) {l : Loc} (mem : l ∈ m) : Alive h₀ h l := by
  obtain ⟨new, calls, own⟩ := own
  obtain ⟨a, rfl, alloc⟩ := own.alloc_of_mem mem
  refine ⟨new, calls, ⟨a, rfl, alloc⟩, ?_⟩
  have once := own.freed_once alloc
  rw [if_pos mem] at once
  exact List.count_eq_zero.mp once

/-- What was freed goes out of the balance. -/
lemma frees {h' : Heap} (own : OwnsSince c h (m' + m)) (freed : Frees m h h') : OwnsSince c h' m' := by
  obtain ⟨new, calls, own⟩ := own
  obtain ⟨next, drops, calls', told⟩ := freed
  refine ⟨drops ++ new, by rw [calls', calls, List.append_assoc], ?_⟩
  have same : Frees m { h with calls := new } { h' with calls := drops ++ new } :=
    ⟨next, drops, rfl, told⟩
  exact same.owns own

/-- What was held is what is still held and what was freed. -/
lemma balance {h' : Heap} (own : OwnsSince c h m) (freed : Frees m' h h') {held : Multiset Loc}
    (own' : OwnsSince c h' held) : m = held + m' := by
  obtain ⟨new, calls, own⟩ := own
  obtain ⟨new', calls', own'⟩ := own'
  obtain ⟨next, drops, grown, told⟩ := freed
  have same : new' = drops ++ new := by
    rw [calls, ← List.append_assoc, calls'] at grown
    exact List.append_cancel_right grown
  have freed : Frees m' { h with calls := new } { h' with calls := new' } :=
    ⟨next, drops, same, told⟩
  exact freed.balance own own'

/-- What a program does to the ledger of a heap, it does to a ledger that began at any time. -/
lemma wp_of_owns {x : Prog φ Heap α} {P : α → Prop} {f : α → Multiset Loc}
    (own : OwnsSince c h m) (oblivious : Respects (Resumed c) x)
    (spec : ∀ h₀ : Heap, h₀.Owns m → wp x (fun r h' => P r ∧ h'.Owns (f r)) h₀) :
    wp x (fun r h' => P r ∧ OwnsSince c h' (f r)) h := by
  obtain ⟨new, calls, own⟩ := own
  obtain ⟨r, h₀, run, p, own'⟩ := spec _ own
  obtain ⟨h', run', resumed⟩ := oblivious { h with calls := new } h r h₀ ⟨rfl, rfl, calls⟩ run
  have same : ({ h' with calls := h₀.calls } : Heap) = h₀ := by
    obtain ⟨grant, next, calls⟩ := h₀
    simp only [← resumed.grant, ← resumed.next]
  exact ⟨r, h', run', p, h₀.calls, resumed.calls, by rwa [same]⟩

lemma wp_malloc (own : OwnsSince c h m) {size : Nat} {Q : Option Addr → Heap → Prop}
    (granted : ∀ a h', OwnsSince c h' (m + {.heap a}) → Q (some a) h')
    (null : ∀ h', OwnsSince c h' m → Q none h') : wp (malloc size : Prog φ Heap _) Q h := by
  have made := own.wp_of_owns (x := (malloc size : Prog φ Heap _)) (P := fun _ => True)
    (f := fun r => r.elim m fun a => m + {.heap a}) (respects_malloc size) ?_
  · apply wp_mono made
    rintro (_ | a) h' ⟨_, own'⟩
    · exact null h' own'
    · exact granted a h' own'
  · intro h₀ own₀
    apply own₀.wp_malloc
    · exact fun h' own' _ => ⟨trivial, own'⟩
    · exact fun h' own' _ _ => ⟨trivial, own'⟩

lemma wp_calloc (own : OwnsSince c h m) {count size : Nat} (pos : count * size ≠ 0)
    {Q : Option Addr → Heap → Prop}
    (granted : ∀ a h', OwnsSince c h' (m + {.heap a}) → Q (some a) h')
    (null : ∀ h', OwnsSince c h' m → Q none h') : wp (calloc count size : Prog φ Heap _) Q h := by
  have made := own.wp_of_owns (x := (calloc count size : Prog φ Heap _)) (P := fun _ => True)
    (f := fun r => r.elim m fun a => m + {.heap a}) (respects_calloc count size) ?_
  · apply wp_mono made
    rintro (_ | a) h' ⟨_, own'⟩
    · exact null h' own'
    · exact granted a h' own'
  · intro h₀ own₀
    apply own₀.wp_calloc pos
    · exact fun h' own' _ => ⟨trivial, own'⟩
    · exact fun h' own' _ => ⟨trivial, own'⟩

lemma wp_free {l : Loc} (own : OwnsSince c h (m + {l})) {Q : Unit → Heap → Prop}
    (post : ∀ h', OwnsSince c h' m → Q () h') : wp (free (some l) : Prog φ Heap _) Q h := by
  have freed := own.wp_of_owns (x := (free (some l) : Prog φ Heap _)) (P := fun _ => True)
    (f := fun _ => m) (respects_free (some l)) ?_
  · exact wp_mono freed fun _ h' done => post h' done.2
  · intro h₀ own₀
    apply own₀.wp_free
    exact fun h' own' _ => ⟨trivial, own'⟩

end OwnsSince

end Heap
