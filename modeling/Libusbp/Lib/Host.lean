import Libusbp.Lib.Ledger
import Mathlib.Algebra.BigOperators.Group.List.Basic
import Mathlib.Algebra.Group.Prod

/-!
# A heap and references to objects of the operating system

`Host κ` is the state of a program that holds heap blocks and references of the kinds `κ`: handles,
descriptors, counted references. Taking a reference yields a fresh one; giving it back is recorded.
`Host.Owns s m` says that what the program holds is exactly `m`, and that no reference was handed out
twice. What a value owns is `owned`, so that a function that builds a value and hands it out goes from
`m` to `m + owned x`, and the function that disposes of it goes back.
-/

/-- What a program can hold: heap blocks and references. -/
abbrev Holdings (κ : Type) : Type := Multiset Loc × Multiset (κ × Nat)

structure Host (κ : Type) where
  heap : Heap
  next : Nat
  refs : List (Entry (κ × Nat))

/-- A pointer that is not null to a heap block, with its contents. -/
structure Box (α : Type) where
  addr : Addr
  val : α
deriving DecidableEq, Repr

/-- What a value of type `α` is responsible for giving back. -/
class Owned (κ α : Type) where
  owned : α → Holdings κ

export Owned (owned)

/-- What a value of type `α` says, without where it lives. -/
class Content (α : Type) (β : outParam Type) where
  content : α → β

export Content (content)

section Instances

variable {κ α β : Type}

instance : Owned κ String := ⟨fun _ => 0⟩

instance : Owned κ Unit := ⟨fun _ => 0⟩

instance [Owned κ α] : Owned κ (Box α) := ⟨fun b => ({.heap b.addr}, 0) + owned b.val⟩

instance [Owned κ α] : Owned κ (Option α) := ⟨fun o => o.elim 0 owned⟩

instance [Owned κ α] : Owned κ (List α) := ⟨fun l => (l.map owned).sum⟩

instance : Content String String := ⟨id⟩

instance [Content α β] : Content (Box α) β := ⟨fun b => content b.val⟩

@[simp] lemma owned_string {t : String} : (owned t : Holdings κ) = 0 := rfl

@[simp] lemma owned_unit {u : Unit} : (owned u : Holdings κ) = 0 := rfl

lemma owned_box [Owned κ α] {b : Box α} :
    (owned b : Holdings κ) = ({.heap b.addr}, 0) + owned b.val := rfl

@[simp] lemma owned_none [Owned κ α] : (owned (none : Option α) : Holdings κ) = 0 := rfl

@[simp] lemma owned_some [Owned κ α] {a : α} : (owned (some a) : Holdings κ) = owned a := rfl

@[simp] lemma owned_nil [Owned κ α] : (owned ([] : List α) : Holdings κ) = 0 := rfl

lemma owned_cons [Owned κ α] {a : α} {l : List α} :
    (owned (a :: l) : Holdings κ) = owned a + owned l := by
  simp only [owned, List.map_cons, List.sum_cons]

lemma owned_append [Owned κ α] {l l' : List α} :
    (owned (l ++ l') : Holdings κ) = owned l + owned l' := by
  simp only [owned, List.map_append, List.sum_append]

/-- The values of a list in another order own the same. -/
lemma owned_perm [Owned κ α] {l l' : List α} (p : l.Perm l') :
    (owned l : Holdings κ) = owned l' := (p.map owned).sum_eq

/-- One of the values of a list and the others. -/
lemma owned_eraseIdx [Owned κ α] {l : List α} {i : Nat} {a : α} (at' : l[i]? = some a) :
    (owned l : Holdings κ) = owned (l.eraseIdx i) + owned a := by
  obtain ⟨lt, rfl⟩ := List.getElem?_eq_some_iff.mp at'
  rw [← owned_perm (List.getElem_cons_eraseIdx_perm lt), owned_cons, add_comm]

/-- One of several values and the others. -/
lemma owned_pick [Owned κ α] {l : List α} {a : α} (mem : a ∈ l) :
    ∃ others : List α, (owned l : Holdings κ) = owned a + owned others ∧
      ∀ b ∈ l, b ≠ a → b ∈ others := by
  obtain ⟨front, back, rfl⟩ := List.append_of_mem mem
  refine ⟨front ++ back, ?_, ?_⟩
  · rw [owned_append, owned_append, owned_cons, add_left_comm]
  · intro b mem' ne
    rcases List.mem_append.mp mem' with front' | back'
    · exact List.mem_append_left _ front'
    · exact List.mem_append_right _ ((List.mem_cons.mp back').resolve_left ne)

lemma content_box [Content α β] {b : Box α} : content b = content b.val := rfl

@[simp] lemma content_string {t : String} : content t = t := rfl

end Instances

namespace Host

open Prog

variable {φ κ α : Type}

/-- Run a program of the heap. -/
def inHeap (x : Prog φ Heap α) : Prog φ (Host κ) α :=
  zoom (·.heap) (fun h s => { s with heap := h }) x

/-- Allocate a block and write `val` into it. -/
def new (size : Nat) (val : α) : Prog φ (Host κ) (Option (Box α)) := do
  let a ← inHeap (Heap.malloc size)
  pure (a.map fun a => ⟨a, val⟩)

/-- Allocate a block of zero bytes, which is `val`. -/
def newZeroed (size : Nat) (val : α) : Prog φ (Host κ) (Option (Box α)) := do
  let a ← inHeap (Heap.calloc 1 size)
  pure (a.map fun a => ⟨a, val⟩)

/-- Give a block for one of `size` bytes. -/
def realloc (b : Option (Box α)) (size : Nat) : Prog φ (Host κ) (Option Addr) :=
  inHeap (Heap.realloc (b.map fun b => .heap b.addr) size)

/-- Free a block that a pointer may point to. -/
def free (b : Option (Box α)) : Prog φ (Host κ) Unit :=
  inHeap (Heap.free (b.map fun b => .heap b.addr))

/-- Take a reference of kind `k`. -/
def acquire (k : κ) : Prog φ (Host κ) Nat := do
  let s ← get
  set { s with next := s.next + 1, refs := .take (k, s.next) :: s.refs }
  pure s.next

/-- Give a reference of kind `k` back. -/
def release (k : κ) (n : Nat) : Prog φ (Host κ) Unit :=
  modify fun s => { s with refs := .drop (k, n) :: s.refs }

/-- Give a reference of kind `k` back, if there is one. -/
def release? (k : κ) : Option Nat → Prog φ (Host κ) Unit
  | none => pure ()
  | some n => release k n

/-- The number of requests for memory that were denied. -/
def denials (s : Host κ) : Nat := s.heap.denials

/-- The calls of the allocator that were made stay made. -/
def Logs (x : Prog φ (Host κ) α) : Prop :=
  ∀ s a s', x s = .ok (a, s') → s.heap.calls <:+ s'.heap.calls

lemma Logs.pure {a : α} : Logs (pure a : Prog φ (Host κ) α) := by
  intro s a s' run
  cases run
  exact List.suffix_refl _

lemma Logs.bind {β : Type} {x : Prog φ (Host κ) α} {f : α → Prog φ (Host κ) β}
    (hx : Logs x) (hf : ∀ a, Logs (f a)) : Logs (x >>= f) := by
  intro s b s'' run
  obtain ⟨a, s', first, second⟩ := bind_ok run
  exact (hx s a s' first).trans (hf a s' b s'' second)

lemma Logs.free {b : Option (Box α)} : Logs (free b : Prog φ (Host κ) Unit) := by
  intro s a s' run
  cases b with
  | none =>
    cases run
    exact List.suffix_refl _
  | some b =>
    cases run
    exact List.suffix_cons _ _

/-- Two programs of the heap in sequence. -/
lemma wp_inHeap_bind {β : Type} {x : Prog φ Heap α} {f : α → Prog φ Heap β}
    {Q : β → Host κ → Prop} {s : Host κ} :
    wp (inHeap (x >>= f)) Q s ↔ wp (inHeap x) (fun a s' => wp (inHeap (f a)) Q s') s := by
  simp only [inHeap, wp_zoom, wp_bind]

lemma wp_inHeap_pure {a : α} {Q : α → Host κ → Prop} {s : Host κ} :
    wp (inHeap (pure a : Prog φ Heap α)) Q s ↔ Q a s := by
  simp only [inHeap, wp_zoom, wp_pure]

variable [DecidableEq κ]

/-- What the program holds is `m`, and nothing was handed out twice. -/
structure Owns (s : Host κ) (m : Holdings κ) : Prop where
  heap : s.heap.Owns m.1
  refs : Entry.balance s.refs = some m.2
  fresh : ∀ k n, s.next ≤ n → .take (k, n) ∉ s.refs
  once : ∀ r, s.refs.count (.take r) ≤ 1

/-- What the program holds is exactly `m`, and everything else that it was ever given was given back
exactly once. -/
structure Settled (s : Host κ) (m : Holdings κ) : Prop where
  owns : s.Owns m
  freed : ∀ a ∈ allocations s.heap.calls,
    s.heap.calls.count (.free (.heap a)) = if .heap a ∈ m.1 then 0 else 1
  released : ∀ r, .take r ∈ s.refs → s.refs.count (.drop r) = if r ∈ m.2 then 0 else 1

namespace Owns

variable {s : Host κ} {m : Holdings κ}

lemma of_eq {m' : Holdings κ} (own : s.Owns m) (e : m = m') : s.Owns m' := e ▸ own

/-- A program holds one thing at a time. -/
lemma unique {m' : Holdings κ} (own : s.Owns m) (own' : s.Owns m') : m = m' :=
  Prod.ext (own.heap.unique own'.heap) (Option.some.inj (own.refs.symm.trans own'.refs))

/-- At the start nothing is held. -/
lemma empty (grant : Nat → Bool) : (⟨⟨grant, 0, []⟩, 0, []⟩ : Host κ).Owns 0 where
  heap := .empty grant
  refs := rfl
  fresh _ _ _ := List.not_mem_nil
  once _ := Nat.zero_le _

/-- A reference that was taken is still held, or it was given back exactly once. -/
lemma released_once (own : s.Owns m) {r : κ × Nat} (hr : .take r ∈ s.refs) :
    s.refs.count (.drop r) = if r ∈ m.2 then 0 else 1 := by
  have bal := Entry.balance_count own.refs r
  have pos := List.count_pos_iff.mpr hr
  have le := own.once r
  split
  case isTrue mem =>
    have := Multiset.count_pos.mpr mem
    omega
  case isFalse mem =>
    rw [Multiset.count_eq_zero_of_notMem mem] at bal
    omega

/-- A block that is held was allocated. -/
lemma allocated (own : s.Owns m) {a : Addr} (mem : .heap a ∈ m.1) :
    a ∈ allocations s.heap.calls := by
  have bal := Entry.balance_count own.heap.ledger (.heap a)
  rw [Heap.Owns.count_take, Heap.Owns.count_drop] at bal
  have held := Multiset.count_pos.mpr mem
  exact List.count_pos_iff.mp (by omega)

/-- A block that was held and is not among what is left was freed exactly once. -/
lemma count_free {s' : Host κ} {o : Holdings κ} {a : Addr} (own : s.Owns (m + o))
    (mem : .heap a ∈ o.1) (logs : s.heap.calls <:+ s'.heap.calls) (settled : s'.Settled m) :
    s'.heap.calls.count (.free (.heap a)) = 1 := by
  have allocated : a ∈ allocations s'.heap.calls :=
    (logs.filterMap _).mem (own.allocated (Multiset.mem_add.mpr (.inr mem)))
  have apart : Loc.heap a ∉ m.1 := fun mem' =>
    Multiset.disjoint_left.mp (Multiset.nodup_add.mp own.heap.nodup).2.2 mem' mem
  rw [settled.freed a allocated, if_neg apart]

lemma settled (own : s.Owns m) : s.Settled m :=
  ⟨own, fun _ => own.heap.freed_once, fun _ => own.released_once⟩

/-- A program of the heap changes what is held of the heap. -/
lemma inHeap (own : s.Owns m) {h : Heap} {b : Multiset Loc} (own' : h.Owns b) :
    ({ s with heap := h } : Host κ).Owns (b, m.2) :=
  ⟨own', own.refs, own.fresh, own.once⟩

/-- A block that was allocated, with a value that holds nothing. -/
lemma newBlock [Owned κ α] {a : Addr} {val : α} (own : s.Owns m) (bare : (owned val : Holdings κ) = 0)
    {h : Heap} (own' : h.Owns (m.1 + {.heap a})) :
    ({ s with heap := h } : Host κ).Owns (m + owned (⟨a, val⟩ : Box α)) := by
  apply (own.inHeap own').of_eq
  rw [owned_box, bare, add_zero]
  exact Prod.ext rfl (add_zero _).symm

lemma wp_new [Owned κ α] {size : Nat} {val : α} (own : s.Owns m) (pos : size ≠ 0)
    (bare : (owned val : Holdings κ) = 0) {Q : Option (Box α) → Host κ → Prop}
    (granted : ∀ b s', b.val = val → s'.Owns (m + owned b) → s'.denials = s.denials → Q (some b) s')
    (null : ∀ s', s'.Owns m → s'.denials = s.denials + 1 → Q none s') :
    wp (new size val : Prog φ (Host κ) _) Q s := by
  simp only [new, Host.inHeap, wp_bind, wp_zoom, wp_pure]
  apply own.heap.wp_malloc
  · exact fun h' own' hd => granted _ _ rfl (own.newBlock bare own') hd
  · exact fun h' own' hd _ => null _ (own.inHeap own') (hd pos)

/-- A request for any number of bytes, also for none, which may yield the null pointer unasked. -/
lemma wp_new_any [Owned κ α] {size : Nat} {val : α} (own : s.Owns m)
    (bare : (owned val : Holdings κ) = 0) {Q : Option (Box α) → Host κ → Prop}
    (granted : ∀ b s', b.val = val → s'.Owns (m + owned b) → s'.denials = s.denials → Q (some b) s')
    (null : ∀ s', s'.Owns m →
      (size = 0 ∧ s'.denials = s.denials ∨ s'.denials = s.denials + 1) → Q none s') :
    wp (new size val : Prog φ (Host κ) _) Q s := by
  by_cases zero : size = 0
  · simp only [new, Host.inHeap, wp_bind, wp_zoom, wp_pure]
    apply own.heap.wp_malloc
    · exact fun h' own' hd => granted _ _ rfl (own.newBlock bare own') hd
    · exact fun h' own' _ hd => null _ (own.inHeap own') (.inl ⟨zero, hd zero⟩)
  · apply own.wp_new zero bare granted
    exact fun s' own' hd => null s' own' (.inr hd)

lemma wp_newZeroed [Owned κ α] {size : Nat} {val : α} (own : s.Owns m) (pos : size ≠ 0)
    (bare : (owned val : Holdings κ) = 0) {Q : Option (Box α) → Host κ → Prop}
    (granted : ∀ b s', b.val = val → s'.Owns (m + owned b) → s'.denials = s.denials → Q (some b) s')
    (null : ∀ s', s'.Owns m → s'.denials = s.denials + 1 → Q none s') :
    wp (newZeroed size val : Prog φ (Host κ) _) Q s := by
  simp only [newZeroed, Host.inHeap, wp_bind, wp_zoom, wp_pure]
  apply own.heap.wp_calloc (by omega)
  · exact fun h' own' hd => granted _ _ rfl (own.newBlock bare own') hd
  · exact fun h' own' hd => null _ (own.inHeap own') hd

/-- The next request decides whether a block is given for another. -/
lemma wp_realloc {b : Box α} {size : Nat} (own : s.Owns (m + ({.heap b.addr}, 0))) (pos : size ≠ 0)
    {Q : Option Addr → Host κ → Prop}
    (granted : ∀ a s', s.heap.grant s.heap.next = true → s'.Owns (m + ({.heap a}, 0)) →
      s'.denials = s.denials → Q (some a) s')
    (null : ∀ s', s.heap.grant s.heap.next = false → s'.Owns (m + ({.heap b.addr}, 0)) →
      s'.denials = s.denials + 1 → Q none s') :
    wp (realloc (some b) size : Prog φ (Host κ) _) Q s := by
  have refs : m.2 + (0 : Multiset (κ × Nat)) = m.2 := add_zero _
  have given : wp (Heap.realloc (some (.heap b.addr)) size : Prog φ Heap _) (fun a h' =>
      h'.Owns (m.1 + {.heap (a.getD b.addr)}) ∧
        h'.denials = s.denials + if a.isSome then 0 else 1) s.heap := by
    apply own.heap.wp_realloc pos
    · exact fun h' own' hd => ⟨own', hd⟩
    · exact fun h' own' hd => ⟨own', hd⟩
  simp only [Host.realloc, Host.inHeap, wp_zoom, Option.map_some]
  apply wp_mono given.run
  rintro (_ | a) h' ⟨⟨own', hd⟩, run⟩
  · exact null _ (Heap.realloc_answered run).symm ((own.inHeap own').of_eq (Prod.ext rfl rfl)) hd
  · exact granted a _ (Heap.realloc_answered run).symm
      ((own.inHeap own').of_eq (Prod.ext rfl rfl)) hd

/-- Freeing the block of a box. -/
lemma wp_free {b : Box α} (own : s.Owns (m + ({.heap b.addr}, 0))) {Q : Unit → Host κ → Prop}
    (post : ∀ s', s'.Owns m → s'.denials = s.denials → Q () s') :
    wp (free (some b) : Prog φ (Host κ) _) Q s := by
  simp only [Host.free, Host.inHeap, wp_zoom, Option.map_some]
  apply own.heap.wp_free
  intro h' own' hd
  exact post _ ((own.inHeap own').of_eq (Prod.ext rfl (add_zero _))) hd

/-- Freeing a pointer that may be null to a block that owns nothing else. -/
lemma wp_free? [Owned κ α] {b : Option (Box α)} (own : s.Owns (m + owned b))
    (bare : ∀ a, b = some a → (owned a.val : Holdings κ) = 0) {Q : Unit → Host κ → Prop}
    (post : ∀ s', s'.Owns m → s'.denials = s.denials → Q () s') :
    wp (free b : Prog φ (Host κ) _) Q s := by
  cases b with
  | none =>
    simp only [Host.free, Host.inHeap, wp_zoom, Option.map_none, Heap.free, wp_pure]
    exact post s (own.of_eq (by simp)) rfl
  | some b =>
    apply (own.of_eq (by rw [owned_some, owned_box, bare b rfl, add_zero])).wp_free
    exact post

lemma wp_acquire (own : s.Owns m) {k : κ} {Q : Nat → Host κ → Prop}
    (post : ∀ n s', s'.Owns (m + (0, {(k, n)})) → s'.denials = s.denials → Q n s') :
    wp (acquire k : Prog φ (Host κ) _) Q s := by
  simp only [acquire, wp_bind, wp_get, wp_set, wp_pure]
  refine post _ _ ?_ rfl
  constructor
  · exact own.heap.of_eq (add_zero _).symm
  · exact Entry.balance_take own.refs
  · intro k' n lt
    have old := own.fresh k' n (by dsimp only at lt; omega)
    have ne : n ≠ s.next := by dsimp only at lt; omega
    simp [old, ne]
  · intro r
    rw [List.count_cons]
    by_cases hr : r = (k, s.next)
    · subst hr
      simp [List.count_eq_zero_of_not_mem (own.fresh k s.next (Nat.le_refl _))]
    · have := own.once r
      simpa [Ne.symm hr] using this

lemma wp_release {k : κ} {n : Nat} (own : s.Owns (m + (0, {(k, n)}))) {Q : Unit → Host κ → Prop}
    (post : ∀ s', s'.Owns m → s'.denials = s.denials → Q () s') :
    wp (release k n : Prog φ (Host κ) _) Q s := by
  simp only [release, wp_modify]
  refine post _ ?_ rfl
  constructor
  · exact own.heap.of_eq (add_zero _)
  · exact Entry.balance_drop own.refs
  · exact fun k' n' lt => by simpa using own.fresh k' n' lt
  · exact fun r => by simpa using own.once r

lemma wp_release? {k : κ} {r : Option Nat}
    (own : s.Owns (m + r.elim 0 fun n => (0, {(k, n)}))) {Q : Unit → Host κ → Prop}
    (post : ∀ s', s'.Owns m → s'.denials = s.denials → Q () s') :
    wp (release? k r : Prog φ (Host κ) _) Q s := by
  cases r with
  | none =>
    simp only [release?, wp_pure]
    exact post s (own.of_eq (add_zero m)) rfl
  | some n => exact own.wp_release post

end Owns

end Host
