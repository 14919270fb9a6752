import Libusbp.Lib.Heap
import Mathlib.Algebra.Order.Group.Multiset
import Mathlib.Tactic.Abel

/-!
# Ledgers

A ledger records what was taken and what was given back. Its balance is what is held, and there is
none once something was given back that was not held. `Heap.Owns h m` says that the heap has the
balance `m` and that every address was handed out at most once, so that a block that is not in `m`
was freed exactly once (`Heap.Owns.freed_once`). The rules for the allocator say how a balance
changes, with everything else under `m` unchanged.
-/

/-- An entry of a ledger. -/
inductive Entry (R : Type) where
  | take (r : R)
  | drop (r : R)
deriving DecidableEq, Repr

namespace Entry

variable {R : Type} [DecidableEq R]

/-- What is held after the entries, newest first. -/
def balance : List (Entry R) → Option (Multiset R)
  | [] => some 0
  | .take r :: es => (balance es).map fun m => m + {r}
  | .drop r :: es => (balance es).bind fun m => if r ∈ m then some (m.erase r) else none

lemma balance_take {es : List (Entry R)} {m : Multiset R} {r : R} (h : balance es = some m) :
    balance (.take r :: es) = some (m + {r}) := by
  simp only [balance, h, Option.map_some]

lemma balance_drop {es : List (Entry R)} {m : Multiset R} {r : R} (h : balance es = some (m + {r})) :
    balance (.drop r :: es) = some m := by
  have mem : r ∈ m + {r} := Multiset.mem_add.mpr (.inr (Multiset.mem_singleton_self r))
  simp only [balance, h, Option.bind_some, if_pos mem]
  rw [add_comm, Multiset.singleton_add, Multiset.erase_cons_head]

/-- What was taken was given back or is held. -/
lemma balance_count {es : List (Entry R)} {m : Multiset R} (h : balance es = some m) (r : R) :
    es.count (.take r) = es.count (.drop r) + m.count r := by
  induction es generalizing m with
  | nil =>
    cases h
    rfl
  | cons e es ih =>
    cases e with
    | take q =>
      obtain ⟨m', hm, rfl⟩ := Option.map_eq_some_iff.mp h
      have := ih hm
      rw [List.count_cons, List.count_cons_of_ne (by simp), Multiset.count_add,
        Multiset.count_singleton]
      -- taking and dropping change only the count of the reference itself
      by_cases hq : r = q
      · simp [hq] at *
        omega
      · simp [hq, Ne.symm hq]
        omega
    | drop q =>
      obtain ⟨m', hm, hd⟩ := Option.bind_eq_some_iff.mp h
      split at hd
      case isFalse => cases hd
      case isTrue mem =>
        cases hd
        have := ih hm
        rw [List.count_cons_of_ne (by simp), List.count_cons]
        by_cases hq : r = q
        · subst hq
          have pos := Multiset.count_pos.mpr mem
          simp only [beq_self_eq_true, if_true, Multiset.count_erase_self]
          omega
        · have ne : (Entry.drop q == Entry.drop r) = false := by simp [Ne.symm hq]
          rw [ne, Multiset.count_erase_of_ne hq]
          simpa using this

end Entry

/-- The entry that a call of the allocator makes in the ledger of the heap. -/
def HeapCall.entry? : HeapCall → Option (Entry Loc)
  | .alloc a _ => some (.take (.heap a))
  | .free l => some (.drop l)
  | .denied => none

namespace Heap

open Prog

variable {φ : Type}

/-- The blocks that are allocated, unless something was freed that was not. -/
def ledger (h : Heap) : Option (Multiset Loc) :=
  Entry.balance (h.calls.filterMap HeapCall.entry?)

/-- The allocated blocks are those of `m`, and no address was handed out twice. -/
structure Owns (h : Heap) (m : Multiset Loc) : Prop where
  ledger : h.ledger = some m
  fresh : ∀ a, h.next ≤ a → a ∉ allocations h.calls
  once : (allocations h.calls).Nodup

namespace Owns

variable {h : Heap} {m m' : Multiset Loc}

lemma of_eq (own : h.Owns m) (e : m = m') : h.Owns m' := e ▸ own

/-- A heap without calls holds nothing. -/
lemma empty (grant : Nat → Bool) : (⟨grant, 0, []⟩ : Heap).Owns 0 where
  ledger := rfl
  fresh _ _ := List.not_mem_nil
  once := List.nodup_nil

/-- One ledger has one balance. -/
lemma unique (own : h.Owns m) (own' : h.Owns m') : m = m' :=
  Option.some.inj (own.ledger.symm.trans own'.ledger)

lemma count_take (h : Heap) (a : Addr) :
    (h.calls.filterMap HeapCall.entry?).count (.take (.heap a)) = (allocations h.calls).count a := by
  induction h.calls with
  | nil => rfl
  | cons c cs ih =>
    cases c with
    | alloc b size => simp [HeapCall.entry?, List.count_cons, ih]
    | free l => simp [HeapCall.entry?, ih]
    | denied => simpa [List.filterMap_cons, HeapCall.entry?] using ih

lemma count_drop (h : Heap) (l : Loc) :
    (h.calls.filterMap HeapCall.entry?).count (.drop l) = h.calls.count (.free l) := by
  induction h.calls with
  | nil => rfl
  | cons c cs ih =>
    cases c with
    | alloc b size => simp [HeapCall.entry?, ih]
    | free k => simp [HeapCall.entry?, List.count_cons, ih]
    | denied => simpa [List.filterMap_cons, HeapCall.entry?] using ih

/-- A block that was allocated is still held, or it was freed exactly once. -/
lemma freed_once (own : h.Owns m) {a : Addr} (ha : a ∈ allocations h.calls) :
    h.calls.count (.free (.heap a)) = if .heap a ∈ m then 0 else 1 := by
  have bal := Entry.balance_count own.ledger (.heap a)
  rw [count_take, count_drop] at bal
  have pos := List.count_pos_iff.mpr ha
  have le := List.nodup_iff_count_le_one.mp own.once a
  split
  case isTrue mem =>
    have := Multiset.count_pos.mpr mem
    omega
  case isFalse mem =>
    rw [Multiset.count_eq_zero_of_notMem mem] at bal
    omega

/-- No two objects share a block. -/
lemma nodup (own : h.Owns m) : m.Nodup := by
  rw [Multiset.nodup_iff_count_le_one]
  intro l
  have bal := Entry.balance_count own.ledger l
  cases l with
  | heap a =>
    rw [count_take] at bal
    have := List.nodup_iff_count_le_one.mp own.once a
    omega
  | static =>
    have none : (h.calls.filterMap HeapCall.entry?).count (.take .static) = 0 := by
      rw [List.count_eq_zero]
      intro mem
      obtain ⟨c, _, hc⟩ := List.mem_filterMap.mp mem
      cases c <;> cases hc
    omega

/-- Static storage is never held and was never freed. -/
lemma static (own : h.Owns m) : .static ∉ m ∧ .free .static ∉ h.calls := by
  have bal := Entry.balance_count own.ledger .static
  have none : (h.calls.filterMap HeapCall.entry?).count (.take .static) = 0 := by
    rw [List.count_eq_zero]
    intro mem
    obtain ⟨c, _, hc⟩ := List.mem_filterMap.mp mem
    cases c <;> cases hc
  rw [none, count_drop] at bal
  constructor
  · intro mem
    have := Multiset.count_pos.mpr mem
    omega
  · intro mem
    have := List.count_pos_iff.mpr mem
    omega

/-- A granted request adds a block. -/
lemma request_granted (own : h.Owns m) {size : Nat} (hg : h.grant h.next = true) :
    (h.request size).Owns (m + {.heap h.next}) := by
  have calls : (h.request size).calls = .alloc h.next size :: h.calls := by
    simp [request, hg]
  constructor
  · rw [Heap.ledger, calls]
    exact Entry.balance_take own.ledger
  · intro a ha
    rw [request_next] at ha
    rw [calls, allocations_alloc, List.mem_cons, not_or]
    exact ⟨Nat.ne_of_gt ha, own.fresh a (Nat.le_of_lt ha)⟩
  · rw [calls, allocations_alloc]
    exact List.nodup_cons.mpr ⟨own.fresh h.next (Nat.le_refl _), own.once⟩

/-- A request that is not granted adds nothing. -/
lemma request_null (own : h.Owns m) {size : Nat} (hg : h.grant h.next = false) :
    (h.request size).Owns m := by
  have calls : (h.request size).calls = h.calls ∨ (h.request size).calls = .denied :: h.calls := by
    by_cases hs : size = 0
    · simp [request, hg, hs]
    · simp [request, hg, hs]
  have same : allocations (h.request size).calls = allocations h.calls := by
    rcases calls with eq | eq
    all_goals rw [eq]
    rfl
  constructor
  · rw [Heap.ledger]
    rcases calls with eq | eq
    all_goals
      rw [eq]
      exact own.ledger
  · intro a ha
    rw [request_next] at ha
    rw [same]
    exact own.fresh a (Nat.le_of_lt ha)
  · rw [same]
    exact own.once

lemma wp_malloc (own : h.Owns m) {size : Nat} {Q : Option Addr → Heap → Prop}
    (granted : ∀ h', h'.Owns (m + {.heap h.next}) → h'.denials = h.denials → Q (some h.next) h')
    (null : ∀ h', h'.Owns m → (size ≠ 0 → h'.denials = h.denials + 1) →
      (size = 0 → h'.denials = h.denials) → Q none h') :
    wp (malloc size : Prog φ Heap _) Q h := by
  simp only [malloc, wp_bind, wp_get, wp_set]
  apply wp_ite
  · intro hg
    simp only [wp_pure]
    exact granted _ (own.request_granted hg) (by simp [request_denials, hg])
  · intro hg
    simp only [wp_pure]
    apply null _ (own.request_null (by simpa using hg))
    · intro hs
      simp [request_denials, hg, hs]
    · intro hs
      simp [request_denials, hs]

lemma wp_calloc (own : h.Owns m) {count size : Nat} {Q : Option Addr → Heap → Prop}
    (pos : count * size ≠ 0)
    (granted : ∀ h', h'.Owns (m + {.heap h.next}) → h'.denials = h.denials → Q (some h.next) h')
    (null : ∀ h', h'.Owns m → h'.denials = h.denials + 1 → Q none h') :
    wp (calloc count size : Prog φ Heap _) Q h := by
  unfold calloc
  apply wp_ite
  · intro _
    exact own.wp_malloc granted fun h' own' hd _ => null h' own' (hd pos)
  · intro _
    simp only [wp_bind, wp_modify, wp_pure]
    apply null
    · constructor
      · exact own.ledger
      · exact own.fresh
      · exact own.once
    · simp [denials]

/-- Freeing a block that is held. -/
lemma wp_free {l : Loc} (own : h.Owns (m + {l})) {Q : Unit → Heap → Prop}
    (post : ∀ h', h'.Owns m → h'.denials = h.denials → Q () h') :
    wp (free (some l) : Prog φ Heap _) Q h := by
  simp only [free, wp_modify]
  apply post
  · constructor
    · exact Entry.balance_drop own.ledger
    · exact own.fresh
    · exact own.once
  · simp [denials]

/-- Freeing a pointer that may be null. -/
lemma wp_free? {p : Option Loc} (own : h.Owns (m + (p.toList : Multiset Loc)))
    {Q : Unit → Heap → Prop} (post : ∀ h', h'.Owns m → h'.denials = h.denials → Q () h') :
    wp (free p : Prog φ Heap _) Q h := by
  cases p with
  | none =>
    simp only [free, wp_pure]
    exact post h (own.of_eq (by simp)) rfl
  | some l => exact wp_free own post

/-- `realloc` gives the old block for the new one, or keeps it. -/
lemma wp_realloc {p : Option Loc} {size : Nat} (own : h.Owns (m + (p.toList : Multiset Loc)))
    (pos : size ≠ 0) {Q : Option Addr → Heap → Prop}
    (granted : ∀ h', h'.Owns (m + {.heap h.next}) → h'.denials = h.denials → Q (some h.next) h')
    (null : ∀ h', h'.Owns (m + (p.toList : Multiset Loc)) → h'.denials = h.denials + 1 → Q none h') :
    wp (realloc p size : Prog φ Heap _) Q h := by
  simp only [realloc, wp_bind]
  apply own.wp_malloc
  · intro h₁ own₁ d₁
    simp only [Option.isSome_some, if_true, wp_bind]
    cases p with
    | none =>
      simp only [free, wp_pure]
      exact granted h₁ (own₁.of_eq (by simp)) d₁
    | some l =>
      have own₁' : h₁.Owns (m + {.heap h.next} + {l}) := own₁.of_eq (add_right_comm m {l} _)
      apply own₁'.wp_free
      intro h₂ own₂ d₂
      simp only [wp_pure]
      exact granted h₂ own₂ (by rw [d₂, d₁])
  · intro h₁ own₁ hd _
    simp only [Option.isSome_none, Bool.false_eq_true, if_false, wp_pure]
    exact null h₁ own₁ (hd pos)

end Owns

/-- The blocks of `m` were freed between the two heaps, each as often as it is in `m`, and nothing else
was asked of the allocator. -/
structure Frees (m : Multiset Loc) (h h' : Heap) : Prop where
  next : h'.next = h.next
  calls : ∃ new : List HeapCall, h'.calls = new ++ h.calls ∧ (new : Multiset HeapCall) = m.map .free

namespace Frees

variable {h h₁ h' : Heap} {m m' : Multiset Loc}

lemma refl (h : Heap) : Frees 0 h h := ⟨rfl, [], rfl, rfl⟩

lemma of_eq (freed : Frees m h h') (e : m = m') : Frees m' h h' := e ▸ freed

lemma trans (first : Frees m h h₁) (second : Frees m' h₁ h') : Frees (m + m') h h' := by
  obtain ⟨next₁, new₁, calls₁, told₁⟩ := first
  obtain ⟨next₂, new₂, calls₂, told₂⟩ := second
  refine ⟨next₂.trans next₁, new₂ ++ new₁, ?_, ?_⟩
  · rw [calls₂, calls₁, List.append_assoc]
  · rw [← Multiset.coe_add, told₁, told₂, Multiset.map_add, add_comm]

lemma le (freed : Frees m h h') : Le h h' where
  next := freed.next.ge
  calls := by
    obtain ⟨new, calls, _⟩ := freed.calls
    exact ⟨new, calls.symm⟩

lemma denials (freed : Frees m h h') : h'.denials = h.denials := by
  obtain ⟨new, calls, told⟩ := freed.calls
  have none : new.count .denied = 0 := by
    rw [← Multiset.coe_count, told, Multiset.count_eq_zero]
    simp
  rw [Heap.denials, calls, List.count_append, none, Nat.zero_add]
  rfl

/-- A block is freed as often as it is listed. -/
lemma freeCount (freed : Frees m h h') (l : Loc) : h'.freeCount l = h.freeCount l + m.count l := by
  obtain ⟨new, calls, told⟩ := freed.calls
  have inj : Function.Injective HeapCall.free := fun _ _ eq => HeapCall.free.inj eq
  have count : new.count (.free l) = m.count l := by
    rw [← Multiset.coe_count, told, Multiset.count_map_eq_count' _ _ inj]
  rw [Heap.freeCount, calls, List.count_append, count, Nat.add_comm]
  rfl

/-- Nothing was allocated. -/
lemma allocations_eq (freed : Frees m h h') : allocations h'.calls = allocations h.calls := by
  obtain ⟨new, calls, told⟩ := freed.calls
  have none : allocations new = [] := by
    rw [List.eq_nil_iff_forall_not_mem]
    intro a mem
    obtain ⟨size, mem⟩ := mem_allocations.mp mem
    rw [← Multiset.mem_coe, told] at mem
    simp at mem
  rw [calls, allocations, List.filterMap_append, ← allocations, ← allocations, none, List.nil_append]

lemma balance_drops {calls new : List HeapCall} (told : (new : Multiset HeapCall) = m.map .free)
    (bal : Entry.balance (calls.filterMap HeapCall.entry?) = some (m' + m)) :
    Entry.balance ((new ++ calls).filterMap HeapCall.entry?) = some m' := by
  induction new generalizing m m' with
  | nil =>
    have zero : m = 0 := Multiset.map_eq_zero.mp told.symm
    rwa [zero, add_zero] at bal
  | cons c new ih =>
    have mem : c ∈ m.map .free := by
      rw [← told]
      exact List.mem_cons_self
    obtain ⟨l, held, rfl⟩ := Multiset.mem_map.mp mem
    obtain ⟨rest, rfl⟩ := Multiset.exists_cons_of_mem held
    rw [← Multiset.cons_coe, Multiset.map_cons, Multiset.cons_inj_right] at told
    apply Entry.balance_drop
    apply ih told
    rw [bal, ← Multiset.singleton_add, add_assoc]

/-- What was freed goes out of the balance. -/
lemma owns (freed : Frees m h h') (own : h.Owns (m' + m)) : h'.Owns m' := by
  have same := freed.allocations_eq
  obtain ⟨next, new, calls, told⟩ := freed
  constructor
  · rw [ledger, calls]
    exact balance_drops told own.ledger
  · rw [same, next]
    exact own.fresh
  · rw [same]
    exact own.once

/-- What was held is what is still held and what was freed. -/
lemma balance (freed : Frees m h h') {held held' : Multiset Loc} (own : h.Owns held)
    (own' : h'.Owns held') : held = held' + m := by
  ext l
  rw [Multiset.count_add]
  cases l with
  | static =>
    have count := freed.freeCount .static
    rw [Heap.freeCount, Heap.freeCount, List.count_eq_zero.mpr own.static.2,
      List.count_eq_zero.mpr own'.static.2] at count
    rw [Multiset.count_eq_zero.mpr own.static.1, Multiset.count_eq_zero.mpr own'.static.1]
    omega
  | heap a =>
    have before := Entry.balance_count own.ledger (.heap a)
    have after := Entry.balance_count own'.ledger (.heap a)
    have count := freed.freeCount (.heap a)
    rw [Owns.count_take, Owns.count_drop] at before after
    rw [freed.allocations_eq] at after
    unfold Heap.freeCount at count
    omega

/-- Freeing a pointer that may be null. -/
lemma wp_free {p : Option Loc} {Q : Unit → Heap → Prop}
    (post : ∀ h', Frees (p.toList : Multiset Loc) h h' → Q () h') : wp (free p : Prog φ Heap _) Q h := by
  cases p with
  | none =>
    simp only [free, wp_pure]
    exact post h (refl h)
  | some l =>
    simp only [free, wp_modify]
    exact post _ ⟨rfl, [.free l], rfl, rfl⟩

end Frees

end Heap
