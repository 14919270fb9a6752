import Libusbp.PipeRun
import Libusbp.ErrorAlike

/-!
# A closed pipe is not missed

`Without q s t` relates a system in which the pipe at `q` was closed to one in which it is still open:
the other pipes are the same, the transfers that are still alive in `s` are the same in `t`, and the
operating system and the future of the heap are the same. A backend whose functions cannot tell such
devices apart (`Backend.Unaware`) makes every call that is not about the pipe at `q` give the same
reply in both systems.
-/

namespace Libusbp

open Prog Heap

variable {τ κ α γ β : Type}

/-- The device `d` is `e` with fewer transfers alive. -/
structure Fewer (n : Addr) (d e : Dev τ κ α γ) : Prop where
  heap : Alike n d.heap e.heap
  transfers : ∀ t T, d.transfers t = some T → e.transfers t = some T
  kernel : d.kernel = e.kernel
  calls : d.calls = e.calls

/-- The system `s` is `t` without the pipe at `q`. -/
structure Without (q : Addr) (s t : Sys τ κ α γ) : Prop where
  handle : s.handle = t.handle
  gone : s.pipes q = none
  pipes : ∀ p, p ≠ q → s.pipes p = t.pipes p
  dev : Fewer q s.dev t.dev

variable {n p q : Addr}

/-! ## Freeing -/

/-- The heap answers alike after blocks were freed. -/
structure FreedHeap (h h' : Heap) : Prop where
  grant : h'.grant = h.grant
  next : h'.next = h.next

/-- Nothing happened but that transfers, and blocks, were freed. -/
structure Shrinks (d d' : Dev τ κ α γ) : Prop where
  heap : FreedHeap d.heap d'.heap
  transfers : ∀ t T, d'.transfers t = some T → d.transfers t = some T
  kernel : d'.kernel = d.kernel
  calls : d'.calls = d.calls

lemma FreedHeap.refl (h : Heap) : FreedHeap h h := ⟨rfl, rfl⟩

lemma FreedHeap.trans (h₁ h₂ h₃ : Heap) (f₁ : FreedHeap h₁ h₂) (f₂ : FreedHeap h₂ h₃) :
    FreedHeap h₁ h₃ :=
  ⟨f₂.grant.trans f₁.grant, f₂.next.trans f₁.next⟩

lemma Shrinks.refl (d : Dev τ κ α γ) : Shrinks d d := ⟨.refl _, fun _ _ => id, rfl, rfl⟩

lemma Shrinks.trans (d₁ d₂ d₃ : Dev τ κ α γ) (s₁ : Shrinks d₁ d₂) (s₂ : Shrinks d₂ d₃) :
    Shrinks d₁ d₃ where
  heap := FreedHeap.trans _ _ _ s₁.heap s₂.heap
  transfers := fun t T h => s₁.transfers t T (s₂.transfers t T h)
  kernel := s₂.kernel.trans s₁.kernel
  calls := s₂.calls.trans s₁.calls

lemma Shrinks.fewer {d d' : Dev τ κ α γ} (s : Shrinks d d') (below : n < d.heap.next) :
    Fewer n d' d where
  heap := ⟨s.heap.grant, s.heap.next, by rwa [s.heap.next]⟩
  transfers := s.transfers
  kernel := s.kernel
  calls := s.calls

lemma within_free (l : Option Loc) : Within FreedHeap (free l : Prog Fault Heap Unit) := by
  cases l with
  | none => exact .pure .refl
  | some l => exact .modify fun h => ⟨rfl, rfl⟩

lemma within_errorFree (error : Option Error) : Within FreedHeap (errorFree error) := by
  cases error with
  | none => exact .pure .refl
  | some e =>
    refine Within.ite (.pure FreedHeap.refl) ?_
    refine Within.bind FreedHeap.trans (within_free _) fun _ => ?_
    exact .bind FreedHeap.trans (within_free _) fun _ => within_free _

lemma Shrinks.onHeap {x : Prog Fault Heap β} (h : Within FreedHeap x) :
    Within Shrinks (onHeap x : Prog Fault (Dev τ κ α γ) β) :=
  h.zoom fun _ _ freed => ⟨freed, fun _ _ => id, rfl, rfl⟩

/-- Closing a pipe only frees, if freeing a transfer does. -/
lemma within_close {B : Backend τ κ α γ} (h : ∀ t, Within Shrinks (B.asyncInTransferFree t)) :
    Within (fun s s' => Shrinks s.dev s'.dev) (B.asyncInPipeClose (some q)) := by
  have refl : ∀ s : Sys τ κ α γ, Shrinks s.dev s.dev := fun s => .refl _
  have trans : ∀ s t u : Sys τ κ α γ, Shrinks s.dev t.dev → Shrinks t.dev u.dev →
      Shrinks s.dev u.dev := fun _ _ _ => Shrinks.trans _ _ _
  have onDev : ∀ {β} {x : Prog Fault (Dev τ κ α γ) β}, Within Shrinks x →
      Within (fun s s' : Sys τ κ α γ => Shrinks s.dev s'.dev) (onDev x) :=
    fun h => h.zoom fun _ _ shrinks => shrinks
  have load : Within (fun s s' : Sys τ κ α γ => Shrinks s.dev s'.dev) (loadPipe q) :=
    .bind trans (.get refl) fun _ => .expect refl
  refine Within.bind trans load fun P => Within.bind trans ?_ ?_
  · apply onDev
    unfold Backend.asyncInTransferArrayFree
    split
    · exact .pure Shrinks.refl
    · refine Within.bind Shrinks.trans ?_ fun _ => Shrinks.onHeap (within_free _)
      refine Within.forRange Shrinks.refl Shrinks.trans fun i => ?_
      exact .bind Shrinks.trans (.expect Shrinks.refl) h
  · intro _
    refine Within.bind trans load fun _ => Within.bind trans ?_ ?_
    · exact .modify fun s => .refl _
    · exact fun _ => onDev (Shrinks.onHeap (within_free _))

/-! ## Running without a pipe -/

lemma Fewer.onHeap {x : Prog Fault Heap β} (h : Respects (Alike n) x) :
    Respects (Fewer n) (onHeap x : Prog Fault (Dev τ κ α γ) β) :=
  h.zoom (fun _ _ fewer => fewer.heap)
    fun _ _ _ _ fewer alike => ⟨alike, fewer.transfers, fewer.kernel, fewer.calls⟩

lemma Without.onDev {x : Prog Fault (Dev τ κ α γ) β} (h : Respects (Fewer q) x) :
    Respects (Without q) (onDev x) :=
  h.zoom (fun _ _ without => without.dev)
    fun _ _ _ _ without fewer => ⟨without.handle, without.gone, without.pipes, fewer⟩

/-- The functions of a backend cannot tell devices with fewer transfers apart. -/
structure Backend.Unaware (B : Backend τ κ α γ) (n : Addr) : Prop where
  setup : ∀ handle pipeId, Respects (Fewer n) (B.asyncInPipeSetup handle pipeId)
  create : ∀ handle pipeId size, Respects (Fewer n) (B.asyncInTransferCreate handle pipeId size)
  free : ∀ transfer, Respects (Fewer n) (B.asyncInTransferFree transfer)
  submit : ∀ transfer, Respects (Fewer n) (B.asyncInTransferSubmit transfer)
  getResults : ∀ transfer out, Respects (Fewer n) (B.asyncInTransferGetResults transfer out)
  cancel : ∀ transfer, Respects (Fewer n) (B.asyncInTransferCancel transfer)
  pending : ∀ transfer, Respects (Fewer n) (B.asyncInTransferPending transfer)
  events : ∀ handle, Respects (Fewer n) (B.genericHandleEvents handle)

/-- A call that makes an error object or passes one on. -/
lemma respects_error {x : Prog Fault Heap β} (h : Respects (Alike q) x) :
    Respects (Without q) (onDev (onHeap x) : Prog Fault (Sys τ κ α γ) β) :=
  Without.onDev (Fewer.onHeap h)

lemma respects_loadPipe (ne : p ≠ q) :
    Respects (Without q) (loadPipe p : Prog Fault (Sys τ κ α γ) Pipe) := by
  apply Sim.get
  intro s t without
  rw [without.pipes p ne]
  exact Respects.expect

lemma respects_storePipe (ne : p ≠ q) (P : Pipe) :
    Respects (Without q) (storePipe p P : Prog Fault (Sys τ κ α γ) Unit) := by
  apply Respects.modify
  intro s t without
  refine ⟨without.handle, ?_, ?_, without.dev⟩
  · show Function.update s.pipes p (some P) q = none
    rw [Function.update_of_ne ne.symm, without.gone]
  · intro p' ne'
    show Function.update s.pipes p (some P) p' = Function.update t.pipes p (some P) p'
    rw [Function.update_apply, Function.update_apply, without.pipes p' ne']

lemma respects_freePipe (ne : p ≠ q) :
    Respects (Without q) (freePipe p : Prog Fault (Sys τ κ α γ) Unit) := by
  apply Respects.bind (respects_loadPipe ne)
  intro _
  apply Respects.bind
  · apply Respects.modify
    intro s t without
    refine ⟨without.handle, ?_, ?_, without.dev⟩
    · show Function.update s.pipes p none q = none
      rw [Function.update_of_ne ne.symm, without.gone]
    · intro p' ne'
      show Function.update s.pipes p none p' = Function.update t.pipes p none p'
      rw [Function.update_apply, Function.update_apply, without.pipes p' ne']
  · exact fun _ => respects_error (respects_free _)

lemma respects_transferAt (P : Pipe) (i : Nat) :
    Respects (Without q) (transferAt P i : Prog Fault (Sys τ κ α γ) _) := by
  unfold transferAt
  split
  · exact .throw
  · exact .expect

/-- A new pipe is never at the address of the closed one. -/
lemma Without.calloc_ne {s t s' : Sys τ κ α γ} {count size a : Nat} (without : Without q s t)
    (run : (Libusbp.onDev (onHeap (calloc count size)) : Prog Fault (Sys τ κ α γ) _) s =
      .ok (some a, s')) : a ≠ q := by
  have fresh : wp (Libusbp.onDev (onHeap (calloc count size)) : Prog Fault (Sys τ κ α γ) _)
      (fun r _ => ∀ a, r = some a → a = s.dev.heap.next) s := by
    simp only [Libusbp.onDev, onHeap, wp_zoom]
    apply wp_calloc
    · rintro _ _ _ _ _ ⟨⟩
      rfl
    · rintro _ _ _ ⟨⟩
  rw [fresh.elim run a rfl]
  exact without.dev.heap.below.ne'

lemma respects_checkPipeId (pipeId : UInt8) : Respects (Alike q) (checkPipeId pipeId) := by
  unfold checkPipeId
  exact .ite (respects_errorCreate _) .pure

namespace Backend.Unaware

variable {B : Backend τ κ α γ} (u : B.Unaware q)
include u

lemma arrayFree (array : Option (Block (List (Option Addr)))) (n : Nat) :
    Respects (Fewer q) (B.asyncInTransferArrayFree array n) := by
  cases array with
  | none => exact .pure
  | some array =>
    apply Respects.bind
    · apply Respects.forRange
      intro i
      exact .bind .expect u.free
    · exact fun _ => Fewer.onHeap (respects_free _)

lemma close (ne : p ≠ q) : Respects (Without q) (B.asyncInPipeClose (some p)) := by
  apply Respects.bind (respects_loadPipe ne)
  intro P
  apply Respects.bind (Without.onDev (u.arrayFree _ _))
  exact fun _ => respects_freePipe ne

lemma createPipe (handle : Handle) (pipeId : UInt8) :
    Respects (Without q) (B.asyncInPipeCreate (some handle) pipeId (some none)) := by
  apply Respects.bind (respects_error (respects_checkPipeId pipeId))
  intro r
  cases r with
  | some error => exact .pure
  | none =>
    apply Respects.ite
    · exact .bind (respects_error (respects_errorCreate _)) fun _ => .pure
    apply Respects.bind (Without.onDev (u.setup _ _))
    intro r
    cases r with
    | some error => exact .pure
    | none =>
      apply Sim.bind_of (respects_error (respects_calloc _ _))
      intro r s t s' without run
      cases r with
      | none => exact Respects.pure
      | some a =>
        exact Respects.bind (respects_storePipe (without.calloc_ne run) _) fun _ => .pure

lemma createTransfers (handle : Option Handle) (pipeId : UInt8) (size count : Nat) :
    Respects (Fewer q) (B.createTransfers handle pipeId size count) := by
  apply Respects.forUntil
  intro i slots
  apply Respects.bind (u.create _ _ _)
  intro r
  cases r with
  | error e => exact .pure
  | ok t => exact .pure

lemma allocateTransfers (ne : p ≠ q) (count size : Nat) :
    Respects (Without q) (B.asyncInPipeAllocateTransfers (some p) count size) := by
  apply Respects.bind (respects_loadPipe ne)
  intro P
  apply Respects.ite (respects_error (respects_errorCreate _))
  apply Respects.ite (respects_error (respects_errorCreate _))
  apply Respects.ite (respects_error (respects_errorCreate _))
  apply Respects.bind (respects_error (respects_calloc _ _))
  intro r
  cases r with
  | none => exact respects_error (respects_errorAdd _ _)
  | some a =>
    apply Respects.bind (Without.onDev (u.createTransfers _ _ _ _))
    rintro ⟨error, slots⟩
    cases error with
    | none => exact .bind (respects_storePipe ne _) fun _ => .pure
    | some error =>
      apply Respects.bind (Without.onDev (u.arrayFree _ _))
      exact fun _ => respects_error (respects_errorAdd _ _)

lemma submitNextTransfer (ne : p ≠ q) :
    Respects (Without q) (B.asyncInPipeSubmitNextTransfer p) := by
  apply Respects.bind (respects_loadPipe ne)
  intro P
  apply Respects.bind .check
  intro _
  apply Respects.bind (respects_transferAt _ _)
  intro transfer
  apply Respects.bind (Without.onDev (u.submit _))
  exact fun _ => respects_storePipe ne _

lemma startEndlessTransfers (ne : p ≠ q) :
    Respects (Without q) (B.asyncInPipeStartEndlessTransfers (some p)) := by
  apply Respects.bind (respects_loadPipe ne)
  intro P
  apply Respects.ite (respects_error (respects_errorCreate _))
  apply Respects.bind (respects_storePipe ne _)
  intro _
  apply Respects.bind
  · apply Respects.loop
    apply Respects.bind (respects_loadPipe ne)
    intro P
    exact .ite (.bind (u.submitNextTransfer ne) fun _ => .pure) .pure
  · exact fun _ => .pure

lemma handleEvents (ne : p ≠ q) : Respects (Without q) (B.asyncInPipeHandleEvents (some p)) :=
  .bind (respects_loadPipe ne) fun _ => Without.onDev (u.events _)

omit u in
lemma hasPendingTransfers (ne : p ≠ q) (result : Option Bool) :
    Respects (Without q)
      (Backend.asyncInPipeHasPendingTransfers (some p) result : Prog Fault (Sys τ κ α γ) _) := by
  cases result with
  | none => exact .bind (respects_error (respects_errorCreate _)) fun _ => .pure
  | some b => exact .bind (respects_loadPipe ne) fun _ => .pure

lemma handleFinishedTransfer (ne : p ≠ q) (out : Outputs) :
    Respects (Without q) (B.asyncInPipeHandleFinishedTransfer (some p) out) := by
  apply Respects.bind (respects_loadPipe ne)
  intro P
  apply Respects.ite .pure
  apply Respects.bind (respects_transferAt _ _)
  intro transfer
  apply Respects.bind (Without.onDev (u.pending _))
  intro b
  apply Respects.ite .pure
  apply Respects.bind (Without.onDev (u.getResults _ _))
  rintro ⟨error, out'⟩
  cases error with
  | some error => exact .pure
  | none =>
    apply Respects.bind (respects_storePipe ne _)
    intro _
    exact .ite (.bind (u.submitNextTransfer ne) fun _ => .pure) .pure

lemma cancelTransfers (ne : p ≠ q) :
    Respects (Without q) (B.asyncInPipeCancelTransfers (some p)) := by
  apply Respects.bind (respects_loadPipe ne)
  intro P
  apply Respects.bind (respects_storePipe ne _)
  intro _
  apply Respects.ite
  · apply Respects.bind
    · apply Respects.forUntil
      intro i _
      apply Respects.bind (respects_transferAt _ _)
      intro transfer
      exact .bind (Without.onDev (u.cancel _)) fun _ => .pure
    · exact fun _ => .pure
  · apply Respects.bind (respects_transferAt _ _)
    exact fun transfer => Without.onDev (u.cancel _)

/-- Every call that is not about the pipe at `q` respects its absence. -/
lemma step {e : Event} (other : e.pipe? ≠ some q) : Respects (Without q) (B.step e) := by
  have ne : ∀ {p}, e.pipe? = some p → p ≠ q := by
    rintro p about rfl
    exact other about
  have exec : Respects (Without q) (B.exec e) := by
    cases e with
    | create pipeId =>
      apply Sim.get
      intro s t without
      rw [without.handle]
      exact Respects.bind (u.createPipe _ _) fun _ => .pure
    | allocateTransfers p count size =>
      exact .bind (u.allocateTransfers (ne rfl) _ _) fun _ => .pure
    | startEndlessTransfers p => exact .bind (u.startEndlessTransfers (ne rfl)) fun _ => .pure
    | handleEvents p => exact .bind (u.handleEvents (ne rfl)) fun _ => .pure
    | hasPendingTransfers p result => exact .bind (hasPendingTransfers (ne rfl) _) fun _ => .pure
    | handleFinishedTransfer p out =>
      exact .bind (u.handleFinishedTransfer (ne rfl) _) fun _ => .pure
    | cancelTransfers p => exact .bind (u.cancelTransfers (ne rfl)) fun _ => .pure
    | close p => exact .bind (u.close (ne rfl)) fun _ => .pure
  apply Sim.get
  intro s t without
  cases about : e.pipe? with
  | none => exact exec
  | some p =>
    -- whether a pipe is open is the same on both sides, unless it is the closed one
    show Sim _ (if (s.pipes p).isSome then _ else _) (if (t.pipes p).isSome then _ else _)
    rw [without.pipes p (ne about)]
    exact Respects.ite exec .pure

end Backend.Unaware

end Libusbp
