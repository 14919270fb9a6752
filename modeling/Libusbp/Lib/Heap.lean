import Libusbp.Lib.Prog
import Mathlib.Algebra.Group.Nat.Defs

/-!
# The heap as a ledger

Memory is a ledger of blocks: every request for memory gets a fresh address or is denied, and every
call of `free` is recorded. Which requests are denied is fixed from the start by `grant`, so that a
statement about all heaps is a statement about all patterns of failing allocations. A request for
zero bytes may yield the null pointer without counting as denied.

The contents of a block live with the value that points to it (`Block`).
-/

/-- The address of a heap block. -/
abbrev Addr := Nat

/-- Where a pointer points: static storage, which nobody may free, or a heap block. -/
inductive Loc where
  | static
  | heap (a : Addr)
deriving DecidableEq, Repr

/-- A pointer that is not null, with the contents of what it points to. -/
structure Block (α : Type) where
  loc : Loc
  val : α
deriving DecidableEq, Repr

/-- A call of the allocator: a block of a size that was handed out, one that was freed, or a request
that was denied. -/
inductive HeapCall where
  | alloc (a : Addr) (size : Nat)
  | free (l : Loc)
  | denied
deriving DecidableEq, Repr

/-- The address that a call handed out. -/
def HeapCall.alloc? : HeapCall → Option Addr
  | .alloc a _ => some a
  | .free _ => none
  | .denied => none

/-- The addresses that were handed out, newest first. -/
def allocations (calls : List HeapCall) : List Addr := calls.filterMap HeapCall.alloc?

lemma mem_allocations {calls : List HeapCall} {a : Addr} :
    a ∈ allocations calls ↔ ∃ size, .alloc a size ∈ calls := by
  rw [allocations, List.mem_filterMap]
  constructor
  · rintro ⟨c, mem, told⟩
    cases c with
    | alloc b size =>
      obtain rfl := Option.some.inj told
      exact ⟨size, mem⟩
    | free l => cases told
    | denied => cases told
  · rintro ⟨size, mem⟩
    exact ⟨.alloc a size, mem, rfl⟩

@[simp] lemma allocations_alloc {calls : List HeapCall} {a : Addr} {size : Nat} :
    allocations (.alloc a size :: calls) = a :: allocations calls := rfl

@[simp] lemma allocations_free {calls : List HeapCall} {l : Loc} :
    allocations (.free l :: calls) = allocations calls := rfl

@[simp] lemma allocations_denied {calls : List HeapCall} :
    allocations (.denied :: calls) = allocations calls := rfl

/-- The heap: which requests will be granted, the number of the next one, and the calls made so
far, newest first. -/
structure Heap where
  grant : Nat → Bool
  next : Nat
  calls : List HeapCall

namespace Heap

open Prog

variable {φ : Type}

/-- The number of requests that were denied. -/
def denials (h : Heap) : Nat := h.calls.count .denied

/-- How often a block was freed. -/
def freeCount (h : Heap) (l : Loc) : Nat := h.calls.count (.free l)

/-- The heap after a request for `size` bytes. -/
def request (size : Nat) (h : Heap) : Heap :=
  { h with
    next := h.next + 1
    calls :=
      if h.grant h.next then .alloc h.next size :: h.calls
      else if size = 0 then h.calls
      else .denied :: h.calls }

def malloc (size : Nat) : Prog φ Heap (Option Addr) := do
  let h ← get
  set (h.request size)
  if h.grant h.next then pure (some h.next) else pure none

/-- `calloc`, which also fails when the product of its arguments does not fit in a `size_t`. -/
def calloc (count size : Nat) : Prog φ Heap (Option Addr) :=
  if count * size < 2 ^ 64 then malloc (count * size)
  else do
    modify fun h => { h with calls := .denied :: h.calls }
    pure none

def free (p : Option Loc) : Prog φ Heap Unit :=
  match p with
  | none => pure ()
  | some l => modify fun h => { h with calls := .free l :: h.calls }

/-- `realloc`: the old block is freed exactly if the request is granted. -/
def realloc (p : Option Loc) (size : Nat) : Prog φ Heap (Option Addr) := do
  let r ← malloc size
  if r.isSome then free p
  pure r

/-- One heap continues another: fresh addresses stay fresh, and the calls that were made stay made. -/
structure Le (h h' : Heap) : Prop where
  next : h.next ≤ h'.next
  calls : h.calls <:+ h'.calls

lemma Le.denials {h h' : Heap} (le : Le h h') : h.denials ≤ h'.denials :=
  le.calls.sublist.count_le _

lemma Le.refl (h : Heap) : Le h h := ⟨Nat.le_refl _, List.suffix_refl _⟩

lemma Le.trans {h₁ h₂ h₃ : Heap} (l₁ : Le h₁ h₂) (l₂ : Le h₂ h₃) : Le h₁ h₃ :=
  ⟨Nat.le_trans l₁.next l₂.next, l₁.calls.trans l₂.calls⟩

@[simp] lemma request_next {size : Nat} {h : Heap} : (h.request size).next = h.next + 1 := rfl

lemma request_denials {size : Nat} {h : Heap} :
    (h.request size).denials =
      h.denials + if h.grant h.next = false ∧ size ≠ 0 then 1 else 0 := by
  unfold request denials
  cases hg : h.grant h.next with
  | true => simp
  | false =>
    by_cases hs : size = 0
    · simp [hs]
    · simp [hs]

lemma le_request {size : Nat} {h : Heap} : Le h (h.request size) where
  next := Nat.le_succ _
  calls := by
    simp only [request]
    split
    · exact List.suffix_cons _ _
    · split
      · exact List.suffix_refl _
      · exact List.suffix_cons _ _

/-- The next answer decides about a request. -/
lemma malloc_eq {size : Nat} {h : Heap} : (malloc size : Prog φ Heap _) h =
    .ok (if h.grant h.next then some h.next else none, h.request size) := by
  show (if h.grant h.next then pure (some h.next) else pure none : Prog φ Heap _) (h.request size) = _
  split
  case isTrue => rfl
  case isFalse => rfl

/-- The next answer decides about a `realloc`. -/
lemma realloc_answered {p : Option Loc} {size : Nat} {h h' : Heap} {a : Option Addr}
    (run : (realloc p size : Prog φ Heap _) h = .ok (a, h')) : a.isSome = h.grant h.next := by
  obtain ⟨r, h₁, made, run⟩ := bind_ok run
  have same : a = r := by
    cases r with
    | none =>
      cases run
      rfl
    | some r =>
      obtain ⟨_, h₂, freed, run⟩ := bind_ok run
      cases run
      rfl
  rw [malloc_eq] at made
  cases made
  rw [same]
  cases h.grant h.next with
  | true => rfl
  | false => rfl

/-- A request yields a fresh address and denies nothing, or yields null; for a positive size null
means that the request was denied. -/
lemma wp_malloc {size : Nat} {Q : Option Addr → Heap → Prop} {h : Heap}
    (granted : ∀ h', Le h h' → h'.next = h.next + 1 → h'.denials = h.denials → Q (some h.next) h')
    (null : ∀ h', Le h h' → (size ≠ 0 → h'.denials = h.denials + 1) →
      (size = 0 → h'.denials = h.denials) → Q none h') :
    wp (malloc size : Prog φ Heap _) Q h := by
  simp only [malloc, wp_bind, wp_get, wp_set]
  apply wp_ite
  · intro hg
    have hd : (h.request size).denials = h.denials := by simp [request_denials, hg]
    simp only [wp_pure]
    exact granted _ le_request rfl hd
  · intro hg
    simp only [wp_pure]
    apply null _ le_request
    · intro hs
      simp [request_denials, hg, hs]
    · intro hs
      simp [request_denials, hs]

/-- A request yields a fresh block of its size, or null. -/
lemma wp_malloc_sized {size : Nat} {Q : Option Addr → Heap → Prop} {h : Heap}
    (granted : ∀ h', Le h h' → h'.next = h.next + 1 → .alloc h.next size ∈ h'.calls →
      Q (some h.next) h')
    (null : ∀ h', Le h h' → Q none h') : wp (malloc size : Prog φ Heap _) Q h := by
  simp only [malloc, wp_bind, wp_get, wp_set]
  apply wp_ite
  · intro hg
    rw [wp_pure]
    apply granted _ le_request rfl
    simp [request, hg]
  · intro _
    rw [wp_pure]
    exact null _ le_request

/-- Freeing denies nothing and hands out no address. -/
lemma wp_free {p : Option Loc} {Q : Unit → Heap → Prop} {h : Heap}
    (post : ∀ h', Le h h' → h'.next = h.next → h'.denials = h.denials → h'.grant = h.grant →
      Q () h') : wp (free p : Prog φ Heap _) Q h := by
  cases p with
  | none =>
    simp only [free, wp_pure]
    exact post h (.refl h) rfl rfl rfl
  | some l =>
    simp only [free, wp_modify]
    exact post _ ⟨Nat.le_refl _, List.suffix_cons _ _⟩ rfl (by simp [denials]) rfl

lemma wp_free_le {p : Option Loc} {Q : Unit → Heap → Prop} {h : Heap}
    (post : ∀ h', Le h h' → Q () h') : wp (free p : Prog φ Heap _) Q h :=
  wp_free fun h' le _ _ _ => post h' le

/-- `calloc` yields a fresh address or null. -/
lemma wp_calloc {count size : Nat} {Q : Option Addr → Heap → Prop} {h : Heap}
    (granted : ∀ h', Le h h' → h'.next = h.next + 1 → count * size < 2 ^ 64 → Q (some h.next) h')
    (null : ∀ h', Le h h' → Q none h') : wp (calloc count size : Prog φ Heap _) Q h := by
  unfold calloc
  apply wp_ite
  · intro fits
    apply wp_malloc
    · exact fun h' le nx _ => granted h' le nx fits
    · exact fun h' le _ _ => null h' le
  · intro _
    simp only [wp_bind, wp_modify, wp_pure]
    apply null
    exact ⟨Nat.le_refl _, List.suffix_cons _ _⟩

/-- `realloc` of a positive size is a request of that size. -/
lemma wp_realloc {p : Option Loc} {size : Nat} {Q : Option Addr → Heap → Prop} {h : Heap}
    (pos : size ≠ 0)
    (granted : ∀ h', Le h h' → h'.denials = h.denials → Q (some h.next) h')
    (null : ∀ h', Le h h' → h'.denials = h.denials + 1 → Q none h') :
    wp (realloc p size : Prog φ Heap _) Q h := by
  simp only [realloc, wp_bind]
  apply wp_malloc
  · intro h₁ le _ hd
    simp only [Option.isSome_some, if_true, wp_bind]
    apply wp_free
    intro h₂ le₂ _ hd' _
    simp only [wp_pure]
    exact granted h₂ (le.trans le₂) (hd'.trans hd)
  · intro h₁ le hd _
    simp only [Option.isSome_none, Bool.false_eq_true, if_false, wp_pure]
    exact null h₁ le (hd pos)

end Heap
