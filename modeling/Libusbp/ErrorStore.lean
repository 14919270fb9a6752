import Libusbp.ErrorLedger
import Mathlib.Data.List.Perm.Basic
import Mathlib.Algebra.BigOperators.Group.List.Basic

/-!
# A program that uses its errors linearly

`ErrorStore` is the heap with the errors that a program has at hand. Each call of a function of
`error.c` names one of them; a call that consumes it puts its result in its place. The blocks of the
errors at hand are, in every state, all the blocks that error handling has on the heap.
-/

namespace Libusbp

open Prog Heap Machine

structure ErrorStore where
  heap : Heap
  live : List (Option Error)

/-- What a program does with its errors. An index that names none of them is no call. -/
inductive ErrorCall where
  | null
  | noMemory
  | create (format : Option String)
  | add (i : Nat) (format : Option String)
  | addCode (i : Nat) (code : UInt32)
  | copy (i : Nat)
  | free (i : Nat)

namespace ErrorStore

variable {α : Type}

def onHeap (x : Prog Fault Heap α) : Prog Fault ErrorStore α :=
  zoom (·.heap) (fun h s => { s with heap := h }) x

/-- Replace the error of index `i` by what a call makes of it. -/
def consume (i : Nat) (f : Option Error → Prog Fault Heap (Option Error)) :
    Prog Fault ErrorStore Unit := do
  match (← get).live[i]? with
  | none => pure ()
  | some error =>
    let r ← onHeap (f error)
    modify fun s => { s with live := s.live.set i r }

/-- One more error at hand. -/
def push (r : Option Error) : Prog Fault ErrorStore Unit :=
  modify fun s => { s with live := r :: s.live }

def call : ErrorCall → Prog Fault ErrorStore Unit
  | .null => push none
  | .noMemory => push (some errorNoMemory)
  | .create format => do
    let r ← onHeap (errorCreate format)
    push r
  | .add i format => consume i fun error => errorAdd error format
  | .addCode i code => consume i fun error => errorAddCode error code
  | .copy i => do
    match (← get).live[i]? with
    | none => pure ()
    | some error =>
      let r ← onHeap (errorCopy error)
      push r
  | .free i => do
    match (← get).live[i]? with
    | none => pure ()
    | some error =>
      onHeap (errorFree error)
      modify fun s => { s with live := s.live.eraseIdx i }

/-- The blocks of the errors at hand. -/
def blocks (s : ErrorStore) : Multiset Loc := (s.live.map errorBlocks).sum

/-- The errors at hand are sound, and their blocks and those of `m` are what is allocated. -/
structure Inv (m : Multiset Loc) (s : ErrorStore) : Prop where
  sound : ∀ e, some e ∈ s.live → e.Sound
  owns : s.heap.Owns (m + s.blocks)

lemma blocks_eraseIdx {s : ErrorStore} {i : Nat} {error : Option Error}
    (h : s.live[i]? = some error) :
    s.blocks = (({ s with live := s.live.eraseIdx i } : ErrorStore)).blocks + errorBlocks error := by
  obtain ⟨lt, rfl⟩ := List.getElem?_eq_some_iff.mp h
  have perm := (List.getElem_cons_eraseIdx_perm lt).map errorBlocks
  rw [blocks, ← perm.sum_eq, List.map_cons, List.sum_cons, add_comm]
  rfl

lemma blocks_set {s : ErrorStore} {h : Heap} {i : Nat} {error r : Option Error}
    (hi : s.live[i]? = some error) :
    (({ heap := h, live := s.live.set i r } : ErrorStore)).blocks =
      (({ s with live := s.live.eraseIdx i } : ErrorStore)).blocks + errorBlocks r := by
  obtain ⟨lt, rfl⟩ := List.getElem?_eq_some_iff.mp hi
  have perm := (List.set_perm_cons_eraseIdx lt r).map errorBlocks
  rw [blocks, perm.sum_eq, List.map_cons, List.sum_cons, add_comm]
  rfl

/-- A call that replaces one error keeps the invariant. -/
lemma Inv.consume {m : Multiset Loc} {s : ErrorStore} (inv : Inv m s) {i : Nat}
    {f : Option Error → Prog Fault Heap (Option Error)}
    (keeps : ∀ error m h, (∀ e, error = some e → e.Sound) → h.Owns (m + errorBlocks error) →
      wp (f error) (Keeps m) h) : wp (consume i f) (fun _ => Inv m) s := by
  simp only [ErrorStore.consume, wp_bind, wp_get]
  cases hi : s.live[i]? with
  | none =>
    simp only [wp_pure]
    exact inv
  | some error =>
    have snd : ∀ e, error = some e → e.Sound := by
      rintro e rfl
      exact inv.sound e (List.mem_of_getElem? hi)
    have own : s.heap.Owns (m + (({ s with live := s.live.eraseIdx i } : ErrorStore)).blocks +
        errorBlocks error) :=
      inv.owns.of_eq (by rw [blocks_eraseIdx hi, add_assoc])
    simp only [wp_bind, onHeap, wp_zoom, wp_modify]
    apply wp_mono (keeps error _ _ snd own)
    rintro r h' ⟨snd', own'⟩
    constructor
    · intro e he
      rcases List.mem_or_eq_of_mem_set he with old | rfl
      · exact inv.sound e old
      · exact snd' e rfl
    · rw [blocks_set hi, ← add_assoc]
      exact own'

/-- One more error, which a call has just made. -/
lemma Inv.push {m : Multiset Loc} {s : ErrorStore} {r : Option Error}
    (snd : ∀ e, some e ∈ s.live → e.Sound) (keeps : Keeps (m + s.blocks) r s.heap) :
    Inv m { s with live := r :: s.live } := by
  constructor
  · intro e he
    rcases List.mem_cons.mp he with rfl | old
    · exact keeps.1 e rfl
    · exact snd e old
  · refine keeps.2.of_eq ?_
    rw [blocks, blocks, List.map_cons, List.sum_cons]
    abel

/-- What holds of the heap and the errors at hand at any time, when the blocks of `m` were allocated
before. -/
structure Disciplined (m : Multiset Loc) (s : ErrorStore) : Prop where
  /-- The blocks on the heap are those from before and those of the errors at hand. -/
  owns : s.heap.Owns (m + s.blocks)
  /-- No block belongs to two errors. -/
  alone : s.blocks.Nodup
  /-- A block that no error at hand owns any more was freed exactly once. -/
  freedOnce : ∀ a ∈ allocations s.heap.calls, .heap a ∉ m →
    s.heap.calls.count (.free (.heap a)) = if .heap a ∈ s.blocks then 0 else 1
  /-- A mutable error has a message and an array for its codes, all on the heap. -/
  mutable : ∀ e, some e ∈ s.live → e.doNotFree = false →
    (∃ a, e.loc = .heap a) ∧ (∃ a text, e.message = some ⟨.heap a, text⟩) ∧
      e.codeCount ≤ e.codes.length ∧ ∀ b, e.codeArray = some b → ∃ a, b.loc = .heap a
  /-- The static errors are as they were at the start. -/
  static : ∀ e, some e ∈ s.live → e.doNotFree = true ∨ e.loc = .static →
    e = errorNoMemory ∨ e = errorMaskedByNoMemory ∨ e = errorBlank
  /-- Static storage was never freed. -/
  notFreed : .free .static ∉ s.heap.calls
  /-- The error that `error_add_v` and `error_add_code` go on with has a message, so that the literal
  is not stored for a null one, and one more code fits in the size of its array. -/
  goesOn : ∀ error ∈ s.live, wp (errorMakeMutable error) (fun r _ => ∀ e, r = some e →
    e.doNotFree = false → e.message ≠ none ∧
      (e.codeCount < sizeMax / sizeofUInt32 → (e.codeCount + 1) * sizeofUInt32 ≤ sizeMax)) s.heap

/-- The blocks of one error at hand are among those of all of them. -/
lemma blocks_le {s : ErrorStore} {e : Error} (he : some e ∈ s.live) : e.blocks ≤ s.blocks := by
  obtain ⟨i, hi⟩ := List.getElem?_of_mem he
  rw [blocks_eraseIdx hi]
  exact Multiset.le_add_left _ _

lemma Inv.disciplined {m : Multiset Loc} {s : ErrorStore} (inv : Inv m s) : Disciplined m s := by
  have onHeap : ∀ e, some e ∈ s.live → e.doNotFree = false → ∀ l ∈ e.blocks, ∃ a, l = .heap a := by
    intro e he _ l hl
    cases l with
    | heap a => exact ⟨a, rfl⟩
    | static =>
      -- an owned block is never the static one
      have mem := Multiset.mem_of_le (blocks_le he) hl
      exact absurd (Multiset.mem_add.mpr (.inr mem)) inv.owns.static.1
  have loc : ∀ e, some e ∈ s.live → e.doNotFree = false → ∃ a, e.loc = .heap a := by
    intro e he hd
    apply onHeap e he hd
    rw [Error.blocks_mutable hd]
    simp
  constructor
  case owns => exact inv.owns
  case alone => exact Multiset.nodup_of_le (Multiset.le_add_left _ _) inv.owns.nodup
  case freedOnce =>
    intro a ha hm
    rw [inv.owns.freed_once ha]
    simp [Multiset.mem_add, hm]
  case mutable =>
    intro e he hd
    obtain ⟨b, hb⟩ := Option.ne_none_iff_exists'.mp ((inv.sound e he).message hd)
    refine ⟨loc e he hd, ?_, Nat.le_of_eq (inv.sound e he).wf, ?_⟩
    · obtain ⟨a, ha⟩ := onHeap e he hd b.loc (by
        rw [Error.blocks_mutable hd, hb]
        simp)
      exact ⟨a, b.val, by rw [hb, ← ha]⟩
    · intro c hc
      apply onHeap e he hd
      rw [Error.blocks_mutable hd, hc]
      simp
  case static =>
    rintro e he (hd | hl)
    · exact (inv.sound e he).static hd
    · cases hd : e.doNotFree with
      | true => exact (inv.sound e he).static hd
      | false =>
        obtain ⟨a, ha⟩ := loc e he hd
        rw [hl] at ha
        cases ha
  case notFreed => exact inv.owns.static.2
  case goesOn =>
    intro error he
    obtain ⟨i, hi⟩ := List.getElem?_of_mem he
    have snd : ∀ e, error = some e → e.Sound := by
      rintro e rfl
      exact inv.sound e he
    have own := inv.owns.of_eq (by rw [blocks_eraseIdx hi, ← add_assoc])
    apply wp_mono (errorMakeMutable_owns snd own)
    rintro r h' ⟨e', rfl, snd', _, _⟩ _ ⟨⟩ hd
    refine ⟨snd'.message hd, fun lt => ?_⟩
    have : sizeMax / sizeofUInt32 * sizeofUInt32 ≤ sizeMax := Nat.div_mul_le_self _ _
    exact Nat.le_trans (Nat.mul_le_mul_right _ lt) this

end ErrorStore

end Libusbp
