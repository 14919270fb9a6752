import Libusbp.Lifecycle
import Libusbp.PipeLedger
import Libusbp.Windows.SetupApi

/-!
# Allocating transfers

`allocate_transfers` does everything or nothing. The backends create a transfer out of two blocks and free
it by giving both of them back, so a loop that stops anywhere is undone by freeing the array. A pipe is
only changed at the end, and never gets an array again.
-/

namespace Libusbp

open Prog Heap

variable {c : List HeapCall} {m : Multiset Loc}

/-! ## Linux -/

namespace Linux

variable {d : Dev} {t : Addr} {T : Transfer} {b : Multiset Loc}

lemma wp_create_owns {handle : Handle} {pipeId : UInt8} {size : Nat} (pos : size ≠ 0)
    (own : Heap.OwnsSince c d.heap m) :
    wp (asyncInTransferCreate (some handle) pipeId size) (fun r d' => match r with
      | .error error => KeepsSince c m (some error) d'.heap
      | .ok t => ∃ T, d'.transfers t = some T ∧ T.pending = false ∧ T.error = none ∧
          Heap.OwnsSince c d'.heap (m + view.blocks t T)) d := by
  simp only [asyncInTransferCreate, wp_bind, wp_check]
  refine ⟨by simpa using pos, ?_⟩
  apply wp_ite
  · intro _
    rw [wp_bind]
    apply wp_onHeap_create own
    intro e h₁ keeps
    simp only [wp_bind, wp_expect, Option.some.injEq, exists_eq_left', wp_pure]
    exact keeps
  intro _
  simp only [wp_bind, onHeap, wp_zoom]
  apply own.wp_calloc (by decide)
  · intro a h₁ own₁
    simp only [wp_bind, wp_zoom]
    apply own₁.wp_malloc
    · intro b h₂ own₂
      simp only [wp_bind, wp_get, storeTransfer, wp_modify, wp_pure]
      exact ⟨_, Function.update_self .., rfl, rfl, own₂.of_eq (add_assoc _ _ _)⟩
    · intro h₂ own₂
      simp only [wp_bind, wp_zoom, wp_pure]
      apply own₂.wp_free
      exact fun h₃ own₃ => noMemory_keepsSince own₃
  · intro h₁ own₁
    rw [wp_pure]
    exact noMemory_keepsSince own₁

lemma wp_create_succeeds {handle : Handle} {pipeId : UInt8} {size : Nat} (pos : size ≠ 0)
    (all : d.heap.GrantsAll) (small : size ≤ intMax) :
    wp (asyncInTransferCreate (some handle) pipeId size)
      (fun r d' => (∃ t, r = .ok t) ∧ d'.heap.GrantsAll ∧ size ≤ intMax) d := by
  simp only [asyncInTransferCreate, wp_bind, wp_check]
  refine ⟨by simpa using pos, ?_⟩
  apply wp_ite (fun large => absurd small (Nat.not_le.mpr large))
  intro _
  simp only [wp_bind, onHeap, wp_zoom]
  apply all.wp_calloc (by decide)
  intro a h₁ all₁
  simp only [wp_bind, wp_zoom]
  apply all₁.wp_malloc
  intro b h₂ all₂
  simp only [wp_bind, wp_get, storeTransfer, wp_modify, wp_pure]
  exact ⟨⟨_, rfl⟩, all₂, small⟩

def custody (handle : Handle) : Custody (contract handle) where
  create := wp_create_owns
  Lenient _ size := size ≤ intMax
  succeeds := wp_create_succeeds

end Linux

/-! ## Windows -/

namespace Windows

variable {d : Dev} {t : Addr} {T : Transfer} {b : Multiset Loc}

/-- A new error for a Windows error code owns its blocks. -/
lemma createWinapi_keepsSince (own : Heap.OwnsSince c d.heap m) (errorCode : UInt32)
    (format : String) {Q : Option Error → Dev → Prop}
    (post : ∀ e h', KeepsSince c m (some e) h' → Q (some e) { d with heap := h' }) :
    wp (createWinapi errorCode format) Q d := by
  simp only [createWinapi, wp_bind, wp_get, onHeap, wp_zoom]
  have keeps : wp (errorCreateWinapi d.kernel.formatMessage errorCode format) (KeepsSince c m)
      d.heap := by
    rw [errorCreateWinapi_eq, errorChain, wp_bind]
    apply wp_mono (errorCreate_keepsSince own _)
    rintro _ h₁ ⟨e, rfl, keeps⟩
    exact errorChain_keepsSince keeps (winapiSteps_additions ..).adds
  apply wp_mono (keeps.and (made_createWinapi _ _ _ _))
  rintro r h' ⟨keeps, e, rfl, _⟩
  exact post e h' keeps

lemma wp_create_owns {handle : Handle} {pipeId : UInt8} {size : Nat} (pos : size ≠ 0)
    (own : Heap.OwnsSince c d.heap m) :
    wp (asyncInTransferCreate (some handle) pipeId size) (fun r d' => match r with
      | .error error => KeepsSince c m (some error) d'.heap
      | .ok t => ∃ T, d'.transfers t = some T ∧ T.pending = false ∧ T.error = none ∧
          Heap.OwnsSince c d'.heap (m + fields.view.blocks t T)) d := by
  simp only [asyncInTransferCreate, wp_bind, wp_check]
  refine ⟨by simpa using pos, ?_⟩
  apply wp_ite
  · intro _
    rw [wp_bind]
    apply wp_onHeap_create own
    intro e h₁ keeps
    simp only [wp_bind, wp_expect, Option.some.injEq, exists_eq_left', wp_pure]
    exact keeps
  intro _
  simp only [wp_bind, onHeap, wp_zoom]
  apply own.wp_calloc (by decide)
  · intro a h₁ own₁
    simp only [wp_bind, wp_zoom]
    apply own₁.wp_malloc
    · intro b h₂ own₂
      simp only [wp_bind]
      apply wp_createEvent
      intro event lastError openEvents
      apply wp_ite
      · intro _
        simp only [wp_bind]
        apply createWinapi_keepsSince own₂
        intro e h₃ keeps
        simp only [wp_expect, Option.some.injEq, exists_eq_left', closeHandle, wp_modify, wp_zoom,
          wp_pure]
        have own₃ : Heap.OwnsSince c h₃ (m + e.blocks + {.heap a} + {.heap b}) :=
          keeps.2.of_eq (by rw [errorBlocks_some]; abel)
        apply own₃.wp_free
        intro h₄ own₄
        apply own₄.wp_free
        exact fun h₅ own₅ => ⟨keeps.1, own₅⟩
      · intro _
        simp only [wp_bind, wp_get, storeTransfer, wp_modify, wp_pure]
        exact ⟨_, Function.update_self .., rfl, rfl, own₂.of_eq (add_assoc _ _ _)⟩
    · intro h₂ own₂
      simp only [wp_bind, wp_zoom, wp_pure]
      apply own₂.wp_free
      exact fun h₃ own₃ => noMemory_keepsSince own₃
  · intro h₁ own₁
    rw [wp_pure]
    exact noMemory_keepsSince own₁

/-- The size is not too large, and no event is going to be refused. -/
def Lenient (k : Kernel) (size : Nat) : Prop :=
  size ≤ ulongMax ∧ ∀ n, k.calls ≤ n → (k.plan n).success = true

lemma wp_create_succeeds {handle : Handle} {pipeId : UInt8} {size : Nat} (pos : size ≠ 0)
    (all : d.heap.GrantsAll) (lenient : Lenient d.kernel size) :
    wp (asyncInTransferCreate (some handle) pipeId size)
      (fun r d' => (∃ t, r = .ok t) ∧ d'.heap.GrantsAll ∧ Lenient d'.kernel size) d := by
  obtain ⟨small, success⟩ := lenient
  simp only [asyncInTransferCreate, wp_bind, wp_check]
  refine ⟨by simpa using pos, ?_⟩
  apply wp_ite (fun large => absurd small (Nat.not_le.mpr large))
  intro _
  simp only [wp_bind, onHeap, wp_zoom]
  apply all.wp_calloc (by decide)
  intro a h₁ all₁
  simp only [wp_bind, wp_zoom]
  apply all₁.wp_malloc
  intro b h₂ all₂
  simp only [wp_bind, createEvent, call, wp_get, wp_set, wp_pure, success _ (Nat.le_refl _), if_true,
    wp_modify]
  apply wp_ite (fun null => absurd null (by omega))
  intro _
  simp only [wp_bind, wp_get, storeTransfer, wp_modify, wp_pure]
  exact ⟨⟨_, rfl⟩, all₂, small, fun n le => success n (Nat.le_of_succ_le le)⟩

def custody (handle : Handle) : Custody (contract handle) where
  create := wp_create_owns
  Lenient := Lenient
  succeeds := wp_create_succeeds

end Windows

/-! ## macOS -/

namespace Mac

variable {d : Dev} {t : Addr} {T : Transfer} {b : Multiset Loc}

lemma wp_create_owns {handle : Handle} {pipeId : UInt8} {size : Nat}
    (own : Heap.OwnsSince c d.heap m) :
    wp (asyncInTransferCreate (some handle) pipeId size) (fun r d' => match r with
      | .error error => KeepsSince c m (some error) d'.heap
      | .ok t => ∃ T, d'.transfers t = some T ∧ T.pending = false ∧ T.error = none ∧
          Heap.OwnsSince c d'.heap (m + fields.view.blocks t T)) d := by
  simp only [asyncInTransferCreate, wp_bind, wp_check]
  refine ⟨rfl, ?_⟩
  apply wp_ite
  · intro _
    rw [wp_bind]
    apply wp_onHeap_create own
    intro e h₁ keeps
    simp only [wp_bind, wp_expect, Option.some.injEq, exists_eq_left', wp_pure]
    exact keeps
  intro _
  simp only [wp_bind, onHeap, wp_zoom]
  apply own.wp_calloc (by decide)
  · intro a h₁ own₁
    simp only [storeTransfer, wp_bind, wp_modify, wp_zoom]
    apply own₁.wp_malloc
    · intro b h₂ own₂
      simp only [wp_bind, wp_get, genericHandleGetIoh, wp_pure]
      apply wp_getPipeIndex
      intro pipeIndex
      rw [wp_modify]
      exact ⟨_, Function.update_self .., rfl, rfl, own₂.of_eq (add_assoc _ _ _)⟩
    · intro h₂ own₂
      simp only [wp_bind, wp_modify, wp_pure]
      -- the transfer without a buffer is one block
      apply wp_free_idle (T := { Transfer.zeroed with size := size }) (Function.update_self ..) rfl
      intro h₃ freed
      exact noMemory_keepsSince (own₂.frees freed)
  · intro h₁ own₁
    simp only [asyncInTransferFree, wp_bind, wp_pure]
    exact noMemory_keepsSince own₁

lemma wp_create_succeeds {handle : Handle} {pipeId : UInt8} {size : Nat} (all : d.heap.GrantsAll)
    (small : size ≤ uint32Max) :
    wp (asyncInTransferCreate (some handle) pipeId size)
      (fun r d' => (∃ t, r = .ok t) ∧ d'.heap.GrantsAll ∧ size ≤ uint32Max) d := by
  simp only [asyncInTransferCreate, wp_bind, wp_check]
  refine ⟨rfl, ?_⟩
  apply wp_ite (fun large => absurd small (Nat.not_le.mpr large))
  intro _
  simp only [wp_bind, onHeap, wp_zoom]
  apply all.wp_calloc (by decide)
  intro a h₁ all₁
  simp only [storeTransfer, wp_bind, wp_modify, wp_zoom]
  apply all₁.wp_malloc
  intro b h₂ all₂
  simp only [wp_bind, wp_get, genericHandleGetIoh, wp_pure]
  apply wp_getPipeIndex
  intro pipeIndex
  rw [wp_modify]
  exact ⟨⟨_, rfl⟩, all₂, small⟩

def custody (handle : Handle) : Custody (contract handle) where
  create _ := wp_create_owns
  Lenient _ size := size ≤ uint32Max
  succeeds _ := wp_create_succeeds

end Mac

/-! ## The whole call -/

variable {τ κ α γ : Type} {B : Backend τ κ α γ} {h : Handle} {C : Contract B h} {s s' : Sys τ κ α γ}
  {p : Addr} {P : Pipe} {n size : Nat}

/-- The call failed and left everything as it was. What it allocated was freed once, but for the error. On
a pipe without transfers a later call succeeds, if there is nothing else against it. -/
structure Undone (K : Custody C) (s : Sys τ κ α γ) (p : Addr) (e : Error) (s' : Sys τ κ α γ) :
    Prop where
  pipes : s'.pipes = s.pipes
  transfers : s'.dev.transfers = s.dev.transfers
  calls : s'.dev.calls = s.dev.calls
  freed : FreedBut e.blocks s.dev.heap s'.dev.heap
  again : ∀ P, s.pipes p = some P → P.transferArray = none → ∀ n size, n ≠ 0 → size ≠ 0 →
    n * sizeofPointer < 2 ^ 64 → s'.dev.heap.GrantsAll → K.Lenient s'.dev.kernel size →
      ∃ s'', B.step (.allocateTransfers p n size) s' = .ok (.done none, s'')

/-- The call set up an empty ring of `n` transfers whose buffers are blocks of the size, and every later
one is refused. -/
structure Published (C : Contract B h) (s : Sys τ κ α γ) (p : Addr) (P : Pipe) (n size : Nat)
    (s' : Sys τ κ α γ) : Prop where
  transfers : ∃ (a : Addr) (ts : List Addr), s'.pipes = Function.update s.pipes p (some { P with
      transferArray := some ⟨.heap a, ts.map some⟩
      transferCount := n
      transferSize := size }) ∧ ts.length = n ∧ ts.Nodup ∧ ∀ t ∈ ts, ∃ T,
        s'.dev.transfers t = some T ∧ C.view.size T = size ∧ C.view.pending T = false ∧
          ∃ a, C.view.buffer T = some (.heap a) ∧ .alloc a size ∈ s'.dev.heap.calls
  empty : P.pendingCount = 0 ∧ P.nextFinish = 0 ∧ P.nextSubmit = 0
  refused : ∀ es rs s₂ P₂, Machine.run B.step es s' = .ok (rs, s₂) → s₂.pipes p = some P₂ →
    ∀ n size, ∃ r s₃, B.step (.allocateTransfers p n size) s₂ = .ok (r, s₃) ∧ Refused s₂ r s₃

/-- No pipe without an array will ever be open at the address. -/
def Allotted (p : Addr) (s : Sys τ κ α γ) : Prop :=
  p < s.dev.heap.next ∧ ∀ P, s.pipes p = some P → P.transferArray ≠ none

namespace Allotted

lemma update {q : Addr} {P' : Pipe} (allotted : Allotted p s) (le : Le s.dev.heap s'.dev.heap)
    (pipes : s'.pipes = Function.update s.pipes q (some P'))
    (keeps : q = p → P'.transferArray ≠ none) : Allotted p s' := by
  refine ⟨allotted.1.trans_le le.next, ?_⟩
  intro Q hQ
  rw [pipes] at hQ
  by_cases e : p = q
  · rw [e, Function.update_self] at hQ
    cases hQ
    exact keeps e.symm
  · rw [Function.update_of_ne e] at hQ
    exact allotted.2 Q hQ

lemma same (allotted : Allotted p s) (le : Le s.dev.heap s'.dev.heap) (pipes : s'.pipes = s.pipes) :
    Allotted p s' :=
  ⟨allotted.1.trans_le le.next, by rw [pipes]; exact allotted.2⟩

/-- No call takes the array from a pipe, and none opens a pipe at an old address. -/
lemma step {e : Event} {r : Reply} (allotted : Allotted p s) (step : StepResult C s e r s') :
    Allotted p s' := by
  cases step.pipesStep with
  | same pipes touches => exact allotted.same touches.heap pipes
  | opens _ _ fresh pipes released =>
    apply allotted.update released.heap pipes
    rintro rfl
    exact absurd allotted.1 (Nat.not_lt.mpr fresh)
  | changes _ hq after keeps =>
    apply allotted.update after.touches.heap after.pipes
    rintro rfl
    have array := allotted.2 _ hq
    rcases keeps with same | ⟨none, _⟩
    · rwa [same.transferArray]
    · exact absurd none array
  | @closes q _ _ _ c =>
    refine ⟨allotted.1.trans_le c.released.heap.next, ?_⟩
    intro Q hQ
    rw [c.pipes] at hQ
    by_cases e : p = q
    · rw [e, Function.update_self] at hQ
      cases hQ
    · rw [Function.update_of_ne e] at hQ
      exact allotted.2 Q hQ

/-- Once a pipe has an array, every allocation on it is refused, whatever happens in between. -/
lemma refused {es : List Event} {rs : List Reply} {s₂ : Sys τ κ α γ} {P₂ : Pipe}
    (allotted : Allotted p s) (inv : SysInv C s) (run : Machine.run B.step es s = .ok (rs, s₂))
    (hp : s₂.pipes p = some P₂) (n size : Nat) :
    ∃ r s₃, B.step (.allocateTransfers p n size) s₂ = .ok (r, s₃) ∧ Refused s₂ r s₃ := by
  have keeps : ∀ e ∈ es, ∀ s r s', SysInv C s ∧ Allotted p s → B.step e s = .ok (r, s') →
      SysInv C s' ∧ Allotted p s' := by
    rintro e _ s r s' ⟨inv, allotted⟩ run
    have result := step_result inv run
    exact ⟨result.sysInv inv, allotted.step result⟩
  have both := Machine.run_inv keeps ⟨inv, allotted⟩ run
  obtain ⟨inv₂, allotted₂⟩ := both
  exact (inv₂.ready hp (inv₂.allocated hp (allotted₂.2 P₂ hp))).allocate n size

end Allotted

/-- Every call of `allocate_transfers` on a pipe that is open after the run does everything or nothing. -/
def Atomic (K : Custody C) (es : List Event) (s₀ : Sys τ κ α γ) : Prop :=
  ∀ rs s, Machine.run B.step es s₀ = .ok (rs, s) → ∀ p P, s.pipes p = some P → ∀ n size,
    ∃ r s', B.step (.allocateTransfers p n size) s = .ok (.done r, s') ∧
      match r with
      | some e => Undone K s p e s'
      | none => Published C s p P n size s'

/-- What the call does to the pipes and transfers, with what it does to the memory. -/
lemma SysInv.step_allocate (K : Custody C) (inv : SysInv C s) (hp : s.pipes p = some P)
    (n size : Nat) : ∃ r s', B.step (.allocateTransfers p n size) s = .ok (.done r, s') ∧
      StepResult C s (.allocateTransfers p n size) (.done r) s' ∧
      ∀ e, r = some e → FreedBut e.blocks s.dev.heap s'.dev.heap := by
  have memory : wp (B.asyncInPipeAllocateTransfers (some p) n size) (fun r s' => ∀ e, r = some e →
      e.Sound ∧ Heap.OwnsSince s.dev.heap.calls s'.dev.heap e.blocks) s := wp_allocate_owns K inv hp
  obtain ⟨r, s', run, owns⟩ := memory
  have step : B.step (.allocateTransfers p n size) s = .ok (.done r, s') := by
    rw [step_eq_exec hp rfl, Backend.exec]
    exact bind_of_ok run
  exact ⟨r, s', step, step_result inv step, fun e eq => (owns e eq).2.freedBut⟩

/-- A call that failed can be made again. -/
lemma Refused.undone (K : Custody C) {e : Error} (refused : Refused s (.done (some e)) s')
    (inv' : SysInv C s') (freed : FreedBut e.blocks s.dev.heap s'.dev.heap) :
    Undone K s p e s' where
  pipes := refused.pipes
  transfers := refused.transfers
  calls := refused.calls
  freed := freed
  again := by
    intro P hp unallocated n size count pos fits all lenient
    have hp' : s'.pipes p = some P := by rw [refused.pipes, hp]
    obtain ⟨r, s'', run, rfl⟩ := wp_allocate_succeeds K inv' hp' unallocated count pos fits all lenient
    refine ⟨s'', ?_⟩
    rw [step_eq_exec hp' rfl, Backend.exec]
    exact bind_of_ok run

lemma SysInv.atomic (K : Custody C) {es : List Event} {s₀ : Sys τ κ α γ} (init : SysInv C s₀) :
    Atomic K es s₀ := by
  intro rs s run p P hp n size
  have inv := init.run run
  obtain ⟨r, s', step, result, freed⟩ := inv.step_allocate K hp n size
  have inv' := result.sysInv inv
  refine ⟨r, s', step, ?_⟩
  cases result with
  | allocate hq result =>
    cases result with
    | failed after transfers calls =>
      have u : Untouched C s p _ s' := ⟨after, transfers, calls⟩
      exact (u.refused hq).undone K inv' (freed _ rfl)
    | @done _ P' a ts count pos len fresh eq after al =>
      rw [hp] at hq
      cases hq
      have transfers : P'.transfers = ts := by
        rw [eq]
        exact Pipe.transfers_of_array rfl
      have empty : P'.queue = [] := by
        rw [eq]
        rfl
      refine ⟨⟨a, ts, by rw [after.pipes, eq], len, transfers ▸ al.nodup, ?_⟩, ⟨rfl, rfl, rfl⟩, ?_⟩
      · intro t mem
        rw [← transfers] at mem
        obtain ⟨T, hT, tsize, a, loc, block⟩ := al.live t mem
        have idle := al.outside t mem (by rw [empty]; exact List.not_mem_nil) T hT
        have hsize : C.view.size T = size := by rw [tsize, eq]
        rw [hsize] at block
        exact ⟨T, hT, hsize, idle, a, loc, block⟩
      · intro es₂ rs₂ s₂ P₂ run₂ hp₂
        have allotted : Allotted p s' := by
          refine ⟨inv'.fresh p _ after.get, ?_⟩
          intro Q hQ
          rw [after.get, eq] at hQ
          cases hQ
          exact Option.some_ne_none _
        exact allotted.refused inv' run₂ hp₂
  | allocateAgain hq _ u => exact (u.refused hq).undone K inv' (freed _ rfl)

/-- `allocate_transfers` is atomic on every pipe in every state that calls lead to, whichever requests for
memory are denied and whatever the operating system answers. -/
theorem allocateTransfers_atomic (es : List Event) :
    (∀ handle s₀, Linux.Initial handle s₀ → Atomic (Linux.custody handle) es s₀) ∧
    (∀ handle s₀, Windows.Initial handle s₀ → Atomic (Windows.custody handle) es s₀) ∧
    ∀ handle s₀, Mac.Initial handle s₀ → Atomic (Mac.custody handle) es s₀ :=
  ⟨fun handle _ init => init.sysInv.atomic (Linux.custody handle),
    fun handle _ init => init.sysInv.atomic (Windows.custody handle),
    fun handle _ init => init.sysInv.atomic (Mac.custody handle)⟩

/-- There is no memory for the buffer of the second transfer. -/
def scarceSystem : Linux.Sys :=
  let s := Linux.exampleSystem fun _ => Linux.promptTurn
  { s with dev := { s.dev with heap := { s.dev.heap with grant := fun n => n != 6 } } }

def failsOnce : List Reply → Bool
  | [_, .done (some _), .done none] => true
  | _ => false

lemma pipe_of_done {r : Option Error}
    (step : B.step (.allocateTransfers p n size) s = .ok (.done r, s')) : ∃ P, s.pipes p = some P := by
  cases hp : s.pipes p with
  | some P => exact ⟨P, rfl⟩
  | none =>
    rw [step_unused hp rfl] at step
    cases step

/-- The call fails at the second transfer, and made once more it succeeds. -/
theorem allocateTransfers_atomic_example :
    ∃ rs s e s' s'' P, Machine.run Linux.backend.step [.create 0x81] scarceSystem = .ok (rs, s) ∧
      Linux.backend.step (.allocateTransfers 1 2 8) s = .ok (.done (some e), s') ∧
      Undone (Linux.custody ⟨3⟩) s 1 e s' ∧
      Linux.backend.step (.allocateTransfers 1 2 8) s' = .ok (.done none, s'') ∧
      Published (Linux.contract ⟨3⟩) s' 1 P 2 8 s'' := by
  have init : Linux.Initial ⟨3⟩ scarceSystem := ⟨⟨rfl, fun _ => rfl, fun _ => rfl, rfl⟩, rfl⟩
  have whole : Machine.passes Linux.backend.step [.create 0x81, .allocateTransfers 1 2 8,
      .allocateTransfers 1 2 8] scarceSystem (fun rs _ => failsOnce rs) = true := by decide +kernel
  obtain ⟨_, _, run, fails⟩ := Machine.run_of_passes whole
  obtain ⟨r₁, s, _, created, rest₁, rfl⟩ := Machine.run_cons_ok run
  obtain ⟨r₂, s', _, first, rest₂, rfl⟩ := Machine.run_cons_ok rest₁
  obtain ⟨r₃, s'', _, second, rest₃, rfl⟩ := Machine.run_cons_ok rest₂
  cases rest₃
  obtain ⟨e, rfl, rfl⟩ : ∃ e, r₂ = .done (some e) ∧ r₃ = .done none := by
    unfold failsOnce at fails
    split at fails
    case h_1 eq =>
      cases eq
      exact ⟨_, rfl, rfl⟩
    case h_2 => cases fails
  have run₁ : Machine.run Linux.backend.step [.create 0x81] scarceSystem = .ok ([r₁], s) :=
    Machine.run_singleton created
  have run₂ : Machine.run Linux.backend.step [.create 0x81, .allocateTransfers 1 2 8] scarceSystem =
      .ok ([r₁, .done (some e)], s') := Machine.run_cons created (Machine.run_singleton first)
  obtain ⟨P, hp⟩ := pipe_of_done first
  obtain ⟨P', hp'⟩ := pipe_of_done second
  refine ⟨[r₁], s, e, s', _, P', run₁, first, ?_, second, ?_⟩
  · obtain ⟨r, _, step, undone⟩ := (allocateTransfers_atomic _).1 _ _ init _ s run₁ 1 P hp 2 8
    rw [first] at step
    cases step
    exact undone
  · obtain ⟨r, _, step, published⟩ := (allocateTransfers_atomic _).1 _ _ init _ s' run₂ 1 P' hp' 2 8
    rw [second] at step
    cases step
    exact published

end Libusbp
