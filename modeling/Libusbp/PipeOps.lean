import Libusbp.PipeRing

/-!
# The operations of a pipe

One specification lemma for each function of `async_in_pipe.c` that works on an open pipe, under any
backend that meets its contract: none of them faults on a pipe that satisfies its invariant, and each
leaves the pipe in a state that satisfies it again. The one exception is `cancel_transfers` outside
of Linux on a pipe whose transfers were never allocated (`cancel_opened_fault`).
-/

namespace Libusbp

open Prog Heap

variable {τ κ α γ : Type}

/-- The fields of a pipe that stay the same once its transfers are allocated. -/
structure Pipe.Same (P P' : Pipe) : Prop where
  handle : P'.handle = P.handle
  pipeId : P'.pipeId = P.pipeId
  transferArray : P'.transferArray = P.transferArray
  transferSize : P'.transferSize = P.transferSize
  transferCount : P'.transferCount = P.transferCount

lemma Pipe.Same.refl {P : Pipe} : P.Same P := ⟨rfl, rfl, rfl, rfl, rfl⟩

lemma Pipe.Same.trans {P P₁ P₂ : Pipe} (h₁ : P.Same P₁) (h₂ : P₁.Same P₂) : P.Same P₂ where
  handle := h₂.handle.trans h₁.handle
  pipeId := h₂.pipeId.trans h₁.pipeId
  transferArray := h₂.transferArray.trans h₁.transferArray
  transferSize := h₂.transferSize.trans h₁.transferSize
  transferCount := h₂.transferCount.trans h₁.transferCount

lemma Pipe.Same.transfers {P P' : Pipe} (h : P.Same P') : P'.transfers = P.transfers := by
  unfold Pipe.transfers
  rw [h.transferArray]

lemma Pipe.Same.submitted {P : Pipe} : P.Same P.submitted := ⟨rfl, rfl, rfl, rfl, rfl⟩

lemma Pipe.Same.finished {P : Pipe} : P.Same P.finished := ⟨rfl, rfl, rfl, rfl, rfl⟩

/-- The history grew by submissions of the transfers `ts` only. -/
def Submits (ts : List Addr) (d d' : Dev τ κ α γ) : Prop :=
  ∃ subs, d'.calls = subs ++ d.calls ∧ ∀ c ∈ subs, ∃ t ∈ ts, ∃ a, c = .submit t a

lemma Submits.refl {ts : List Addr} {d : Dev τ κ α γ} : Submits ts d d :=
  ⟨[], rfl, by simp⟩

lemma Submits.snoc {ts : List Addr} {d d₁ d₂ : Dev τ κ α γ} {t : Addr} {a : α}
    (h : Submits ts d d₁) (mem : t ∈ ts) (calls : d₂.calls = .submit t a :: d₁.calls) :
    Submits ts d d₂ := by
  obtain ⟨subs, grown, all⟩ := h
  refine ⟨.submit t a :: subs, ?_, ?_⟩
  · rw [calls, grown, List.cons_append]
  · intro c hc
    cases hc with
    | head => exact ⟨t, mem, a, rfl⟩
    | tail _ hc => exact all c hc

/-- Submissions pop nothing from the queue of any pipe. -/
lemma Submits.pops_eq {ts us : List Addr} {d d' : Dev τ κ α γ} (h : Submits ts d d') :
    Fifo.pops (queueOps us d'.calls) = Fifo.pops (queueOps us d.calls) := by
  obtain ⟨subs, grown, all⟩ := h
  rw [grown]
  clear grown
  induction subs with
  | nil => rfl
  | cons c subs ih =>
    have step : Fifo.pops (queueOps us (c :: (subs ++ d.calls))) =
        Fifo.pops (queueOps us (subs ++ d.calls)) := by
      obtain ⟨t, _, a, rfl⟩ := all c List.mem_cons_self
      by_cases mem : t ∈ us
      · rw [queueOps_cons_submit mem]
        rfl
      · rw [queueOps_cons_of_notMem mem]
    rw [List.cons_append, step]
    exact ih fun c' mem => all c' (List.mem_cons_of_mem c mem)

/-- The invariant reads neither the endless flag nor anything else outside the ring. -/
lemma Allocated.setEndless {v : View τ} {d : Dev τ κ α γ} {P : Pipe} (al : Allocated v d P)
    (b : Bool) : Allocated v d { P with endlessTransfersEnabled := b } where
  array := al.array
  count := al.count
  nodup := al.nodup
  live := al.live
  ring := al.ring
  outside := al.outside
  fifo := al.fifo

lemma Allocated.isNone {v : View τ} {d : Dev τ κ α γ} {P : Pipe} (al : Allocated v d P) :
    P.transferArray.isNone = false := by
  rw [Option.isNone_eq_false_iff, Option.isSome_iff_ne_none]
  exact al.array_ne_none

/-- A change of the device that leaves the pipe's own transfers idle where they were idle, and adds
no queue operation, keeps the representation invariant. -/
lemma Allocated.settle {v : View τ} {d d' : Dev τ κ α γ} {P : Pipe} (al : Allocated v d P)
    (touch : Touches v [] d d') : Allocated v d' P :=
  al.frame touch (List.disjoint_nil_left _)

variable {B : Backend τ κ α γ} {h : Handle} {C : Contract B h} {s : Sys τ κ α γ} {p : Addr}
  {P : Pipe}

/-- A step on the heap alone. -/
lemma After.onHeap {h' : Heap} (inv : C.Inv s.dev) (hp : s.pipes p = some P)
    (le : Le s.dev.heap h') :
    After C s p P { s with dev := { s.dev with heap := h' } } :=
  After.onDev hp (C.heap inv le) (Touches.onHeap le) fun _ _ => rfl

/-- A write to the pipe struct alone. -/
lemma After.store {P' : Pipe} (inv : C.Inv s.dev) :
    After C s p P' { s with pipes := Function.update s.pipes p (some P') } where
  handle := rfl
  pipes := rfl
  inv := inv
  touches := Touches.refl
  others := fun _ _ => rfl

/-- A call that only makes an error object. -/
lemma wp_refuse (inv : C.Inv s.dev) (hp : s.pipes p = some P) (text : String) :
    wp (onDev (onHeap (errorCreate text)) : Prog Fault (Sys τ κ α γ) _) (fun r s' =>
      r ≠ none ∧ After C s p P s' ∧ s'.dev.transfers = s.dev.transfers ∧
        s'.dev.calls = s.dev.calls) s := by
  rw [onDev, wp_zoom]
  apply wp_onHeap_made (made_create text s.dev.heap)
  exact fun e h' _ le => ⟨Option.some_ne_none e, After.onHeap inv hp le, rfl, rfl⟩

/-! ## Starting -/

/-- Starting a pipe whose transfers were not allocated is refused. -/
lemma wp_start_opened (inv : C.Inv s.dev) (hp : s.pipes p = some P)
    (none : P.transferArray = none) :
    wp (B.asyncInPipeStartEndlessTransfers (some p)) (fun r s' =>
      r ≠ .none ∧ After C s p P s' ∧ s'.dev.transfers = s.dev.transfers ∧
        s'.dev.calls = s.dev.calls) s := by
  simp only [Backend.asyncInPipeStartEndlessTransfers, wp_bind, wp_loadPipe hp, none,
    Option.isNone_none, if_true]
  exact wp_refuse inv hp _

/-- The free slots of the ring at `p`. -/
def freeSlots (p : Addr) (s : Sys τ κ α γ) : Nat :=
  match s.pipes p with
  | none => 0
  | some P => P.transferCount - P.pendingCount

/-- The loop invariant of `start_endless_transfers`, which was called on the pipe `P` in `s`. -/
def Filling (C : Contract B h) (s : Sys τ κ α γ) (p : Addr) (P : Pipe) (s₁ : Sys τ κ α γ) : Prop :=
  ∃ P₁, P.Same P₁ ∧ After C s p P₁ s₁ ∧ Allocated C.view s₁.dev P₁ ∧
    P₁.endlessTransfersEnabled = true ∧ P₁.nextFinish = P.nextFinish ∧
      Submits P.transfers s.dev s₁.dev

/-- Starting fills the ring, whatever the answers to the submissions are. -/
lemma wp_start_allocated (inv : C.Inv s.dev) (hp : s.pipes p = some P)
    (al : Allocated C.view s.dev P) :
    wp (B.asyncInPipeStartEndlessTransfers (some p)) (fun r s' =>
      r = none ∧ ∃ P', P.Same P' ∧ After C s p P' s' ∧ Allocated C.view s'.dev P' ∧
        P'.endlessTransfersEnabled = true ∧ P'.pendingCount = P'.transferCount ∧
          P'.nextFinish = P.nextFinish ∧ Submits P.transfers s.dev s'.dev) s := by
  simp only [Backend.asyncInPipeStartEndlessTransfers, wp_bind, wp_loadPipe hp, al.isNone,
    Bool.false_eq_true, if_false, storePipe, wp_modify]
  -- every round leaves fewer free slots
  apply wp_loop (Filling C s p P) (freeSlots p)
  · rintro s₁ ⟨P₁, same, after, al₁, endless, next, subs⟩
    simp only [Backend.fillRing, wp_bind, wp_loadPipe after.get]
    apply wp_ite
    · intro lt
      simp only [wp_bind, wp_pure]
      apply wp_mono (wp_submitNextTransfer after.inv after.get al₁ lt)
      rintro _ s₂ ⟨after₂, al₂, a, calls⟩
      refine ⟨⟨P₁.submitted, same.trans .submitted, after.trans after₂ rfl, al₂, endless, next, ?_⟩, ?_⟩
      · apply subs.snoc _ calls
        rw [← same.transfers]
        exact al₁.getD_mem al₁.ring.tail_lt
      · have free : P₁.submitted.transferCount - P₁.submitted.pendingCount <
            P₁.transferCount - P₁.pendingCount := by
          show P₁.transferCount - (P₁.pendingCount + 1) < _
          omega
        unfold freeSlots
        rw [after.get, after₂.get]
        exact free
    · intro full
      simp only [wp_pure]
      refine ⟨trivial, P₁, same, after, al₁, endless, ?_, next, subs⟩
      have := al₁.ring.count_le
      omega
  · simp only [freeSlots, Function.update_self]
    omega
  · have al' := al.setEndless true
    refine ⟨{ P with endlessTransfersEnabled := true }, ⟨rfl, rfl, rfl, rfl, rfl⟩, After.store inv,
      ?_, rfl, rfl, Submits.refl⟩
    exact al'

/-! ## Finishing -/

/-- What `handle_finished_transfer` does to a pipe with allocated transfers. -/
inductive FinishResult (C : Contract B h) (s : Sys τ κ α γ) (p : Addr) (P : Pipe) (out : Outputs) :
    Option Error × Outputs → Sys τ κ α γ → Prop where
  /-- Nothing is pending, or the oldest submission still is. -/
  | idle {s'} : After C s p P s' → Allocated C.view s'.dev P →
    (∀ us, queueOps us s'.dev.calls = queueOps us s.dev.calls) →
    Settles C.view [] s.dev s'.dev →
    (∀ t ∈ P.queue.head?, ∀ T, s.dev.transfers t = some T → C.view.pending T = true) →
    FinishResult C s p P out (none, resetOutputs out) s'
  /-- The transfer at the head was read out, and submitted again if the pipe is endless. -/
  | finished {s' t outr pre P'} : P.queue = t :: P.finished.queue →
    C.Poll t s.dev.calls pre → C.Report pre t P.transferSize (resetOutputs out) outr →
    After C s p P' s' → Allocated C.view s'.dev P' →
    (P.endlessTransfersEnabled = false → Settles C.view [] s.dev s'.dev) →
    (if P.endlessTransfersEnabled then
      P' = P.finished.submitted ∧ ∃ t' ∈ P.transfers, ∃ a,
        s'.dev.calls = .submit t' a :: .results t outr :: pre
    else P' = P.finished ∧ s'.dev.calls = .results t outr :: pre) →
    FinishResult C s p P out
      (none, { outr with finished := out.finished.map fun _ => true }) s'

/-- Reading out the transfer at the head keeps the representation invariant. -/
lemma Allocated.finished {v : View τ} {d d' : Dev τ κ α γ} {out : Outputs} {T : τ}
    (al : Allocated v d P) (pos : P.pendingCount ≠ 0)
    (hT : d.transfers (P.transfers.getD P.nextFinish 0) = some T) (idle : v.pending T = false)
    (le : Le d.heap d'.heap) (transfers : d'.transfers = d.transfers)
    (calls : d'.calls = .results (P.transfers.getD P.nextFinish 0) out :: d.calls) :
    Allocated v d' P.finished where
  array := al.array
  count := al.count
  nodup := al.nodup
  live := by
    intro t mem
    obtain ⟨T, hT, size, buffered⟩ := al.live t mem
    exact ⟨T, by rw [transfers, hT], size, buffered.keep le rfl⟩
  ring := by
    have next : P.finished.nextFinish = (P.nextFinish + 1) % P.transferCount :=
      incrementAndWrapSize_eq al.ring.head_lt
    rw [next]
    apply Circular.pop
    show Circular _ _ _ (P.pendingCount - 1 + 1)
    rw [Nat.sub_add_cancel (Nat.pos_of_ne_zero pos)]
    exact al.ring
  outside := by
    intro t mem nm T' hT'
    rw [transfers] at hT'
    by_cases e : t = P.transfers.getD P.nextFinish 0
    · rw [e, hT] at hT'
      cases hT'
      exact idle
    · apply al.outside t mem _ T' hT'
      rw [al.queue_finished pos]
      exact List.not_mem_cons_of_ne_of_not_mem e nm
  fifo := by
    show Fifo.Reaches _ (queueOps P.transfers d'.calls) _
    rw [calls, queueOps_cons_results (al.getD_mem al.ring.head_lt)]
    apply Fifo.Reaches.pop
    rw [← al.queue_finished pos]
    exact al.fifo

/-- A pipe whose transfers were not allocated has nothing to finish. -/
lemma wp_finish_opened {out : Outputs} (hp : s.pipes p = some P) (zero : P.pendingCount = 0) :
    wp (B.asyncInPipeHandleFinishedTransfer (some p) out)
      (fun r s' => r = (none, resetOutputs out) ∧ s' = s) s := by
  simp only [Backend.asyncInPipeHandleFinishedTransfer, wp_bind, wp_loadPipe hp, zero, if_true,
    wp_pure, and_self]

/-- Polling one transfer of a pipe keeps what the pipe code relies on. -/
lemma After.poll {d : Dev τ κ α γ} {t : Addr} {T T' : τ} (hp : s.pipes p = some P)
    (al : Allocated C.view s.dev P) (mem : t ∈ P.transfers) (hT : s.dev.transfers t = some T)
    (inv : C.Inv d) (le : Le s.dev.heap d.heap)
    (calls : ∀ us, queueOps us d.calls = queueOps us s.dev.calls)
    (area : C.view.area T' = C.view.area T)
    (pend : C.view.pending T = false → C.view.pending T' = false)
    (transfers : d.transfers = Function.update s.dev.transfers t (some T')) :
    After C s p P { s with dev := d } ∧ Allocated C.view d P ∧ Settles C.view [] s.dev d := by
  have settles : Settles C.view [] s.dev d := by
    intro t' _ T₀ hT₀
    by_cases e : t' = t
    · subst e
      rw [hT] at hT₀
      cases hT₀
      exact ⟨T', by rw [transfers, Function.update_self], area, pend⟩
    · exact ⟨T₀, by rw [transfers, Function.update_of_ne e, hT₀], rfl, id⟩
  refine ⟨?_, al.settle ⟨le, settles, fun us _ => calls us⟩, settles⟩
  apply After.onDev hp inv
  · exact Touches.write le mem transfers fun us _ => calls us
  · exact Touches.write_others mem transfers

/-- What `handle_finished_transfer` does to a pipe with allocated transfers. -/
lemma wp_finish_allocated {out : Outputs} (inv : C.Inv s.dev) (hp : s.pipes p = some P)
    (al : Allocated C.view s.dev P) :
    wp (B.asyncInPipeHandleFinishedTransfer (some p) out) (FinishResult C s p P out) s := by
  simp only [Backend.asyncInPipeHandleFinishedTransfer, wp_bind, wp_loadPipe hp]
  apply wp_ite
  · intro zero
    simp only [wp_pure]
    refine .idle (After.refl inv hp) al (fun _ => rfl) Touches.refl.live ?_
    have nil : P.queue = [] := by
      apply List.eq_nil_of_length_eq_zero
      rw [Pipe.length_queue, zero]
    simp [nil]
  intro pos
  have mem := al.getD_mem al.ring.head_lt
  have queue := al.queue_finished pos
  obtain ⟨T, hT, size, _⟩ := al.live _ mem
  simp only [wp_bind, al.wp_transferAt al.ring.head_lt, onDev, wp_zoom]
  apply wp_mono (C.pending inv hT)
  rintro b d₁ ⟨inv₁, le₁, poll, T₁, area₁, rfl, pend₁, transfers₁⟩
  -- polling may end the transfer at the head, the others stay as they were
  have polled := C.poll poll
  obtain ⟨after₁, al₁, settles₁⟩ :=
    After.poll hp al mem hT inv₁ le₁ polled.queueOps area₁ pend₁ transfers₁
  apply wp_ite
  · intro pending
    simp only [wp_pure]
    refine .idle after₁ al₁ polled.queueOps settles₁ ?_
    rw [queue]
    rintro _ ⟨⟩ T' hT'
    rw [hT] at hT'
    cases hT'
    -- a transfer that was idle before the poll would be idle after it
    cases idle : C.view.pending T with
    | true => rfl
    | false => rw [pend₁ idle] at pending; cases pending
  intro idle
  rw [Bool.not_eq_true] at idle
  have hT₁ : d₁.transfers (P.transfers.getD P.nextFinish 0) = some T₁ := by
    rw [transfers₁, Function.update_self]
  simp only [wp_bind, wp_zoom]
  apply wp_mono (C.getResults inv₁ hT₁ idle)
  rintro ⟨error, outr⟩ d₂ ⟨rfl, fin, inv₂, le₂, transfers₂, calls₂, report⟩
  have al₂ := al₁.finished pos hT₁ idle le₂ transfers₂ calls₂
  have after₂ : After C s p P.finished
      { s with pipes := Function.update s.pipes p (some P.finished), dev := d₂ } := by
    refine ⟨rfl, rfl, inv₂, ?_, ?_⟩
    · apply after₁.touches.trans
      refine ⟨le₂, fun t _ T₀ hT₀ => ⟨T₀, by rw [transfers₂, hT₀], rfl, id⟩, fun us dis => ?_⟩
      rw [calls₂]
      exact queueOps_cons_of_disjoint mem dis
    · intro t nm
      show d₂.transfers t = _
      rw [transfers₂]
      exact after₁.others t nm
  have last : (outr.finished.map fun _ => true) = out.finished.map fun _ => true := by
    rw [show outr.finished = (resetOutputs out).finished from fin]
    simp [resetOutputs]
  rw [View.size_of_area area₁, size] at report
  simp only [storePipe, wp_bind, wp_modify, last]
  apply wp_ite
  · intro endless
    simp only [wp_bind]
    -- the place of the finished transfer is free for the new submission
    have lt : P.finished.pendingCount < P.finished.transferCount := by
      have le := al.ring.count_le
      show P.pendingCount - 1 < P.transferCount
      omega
    apply wp_mono (wp_submitNextTransfer after₂.inv after₂.get al₂ lt)
    rintro _ s₃ ⟨after₃, al₃, a, calls₃⟩
    simp only [wp_pure]
    refine .finished queue poll report (after₂.trans after₃ rfl) al₃ ?_ ?_
    · exact fun stopped => absurd (endless.symm.trans stopped) (by decide)
    rw [if_pos endless]
    refine ⟨rfl, _, al₂.getD_mem al₂.ring.tail_lt, a, ?_⟩
    rw [calls₃]
    exact congrArg _ calls₂
  · intro endless
    simp only [wp_pure]
    refine .finished queue poll report after₂ al₂ ?_ ?_
    · intro _ t nm T hT
      rw [transfers₂]
      exact settles₁ t nm T hT
    rw [if_neg endless]
    exact ⟨rfl, calls₂⟩

/-! ## Cancelling and asking -/

/-- A cancellation clears the endless flag; it changes no transfer and submits nothing. -/
structure Cancelled (C : Contract B h) (s : Sys τ κ α γ) (p : Addr) (P : Pipe) (s' : Sys τ κ α γ) :
    Prop where
  after : After C s p { P with endlessTransfersEnabled := false } s'
  transfers : s'.dev.transfers = s.dev.transfers
  calls : ∀ us, queueOps us s'.dev.calls = queueOps us s.dev.calls

lemma Cancelled.allocated {s' : Sys τ κ α γ} (c : Cancelled C s p P s')
    (al : Allocated C.view s.dev P) :
    Allocated C.view s'.dev { P with endlessTransfersEnabled := false } :=
  (al.setEndless false).settle (Touches.of_same c.after.touches.heap c.transfers c.calls)

/-- Cancelling one transfer of the pipe. -/
lemma Cancelled.wp_cancel {s₁ : Sys τ κ α γ} (c : Cancelled C s p P s₁)
    (al : Allocated C.view s.dev P) {t : Addr} (mem : t ∈ P.transfers) :
    wp (B.asyncInTransferCancel (some t))
      (fun _ d => Cancelled C s p P { s₁ with dev := d }) s₁.dev := by
  obtain ⟨T, hT, _⟩ := al.live t mem
  have hT₁ : s₁.dev.transfers t = some T := by rw [c.transfers, hT]
  apply wp_mono (C.cancel c.after.inv hT₁)
  rintro _ d ⟨inv, le, transfers, calls⟩
  have step := After.onDev c.after.get inv (Touches.of_same le transfers calls)
    fun t _ => congrFun transfers t
  exact ⟨c.after.trans step rfl, transfers.trans c.transfers,
    fun us => (calls us).trans (c.calls us)⟩

lemma Cancelled.store (inv : C.Inv s.dev) : Cancelled C s p P
    { s with
      pipes := Function.update s.pipes p (some { P with endlessTransfersEnabled := false }) } where
  after := After.store inv
  transfers := rfl
  calls := fun _ => rfl

/-- Cancelling the transfers of a pipe, in both variants of the code. -/
lemma wp_cancel_allocated (inv : C.Inv s.dev) (hp : s.pipes p = some P)
    (al : Allocated C.view s.dev P) :
    wp (B.asyncInPipeCancelTransfers (some p)) (fun _ s' => Cancelled C s p P s') s := by
  simp only [Backend.asyncInPipeCancelTransfers, wp_bind, wp_loadPipe hp, storePipe, wp_modify]
  apply wp_ite
  · intro _
    simp only [wp_bind]
    apply wp_forUntil fun _ _ s₁ => Cancelled C s p P s₁
    · intro i _ s₁ _ lt c
      rw [Nat.zero_add] at lt
      simp only [wp_bind, al.wp_transferAt lt, onDev, wp_zoom, wp_pure]
      apply wp_mono (c.wp_cancel al (al.getD_mem lt))
      intro r d c'
      cases r with
      | none => exact c'
      | some e => exact c'
    · intro _ s₁ c
      rwa [wp_pure]
    · exact Cancelled.store inv
  · intro _
    simp only [wp_bind, al.wp_transferAt al.pos, onDev, wp_zoom]
    exact (Cancelled.store inv).wp_cancel al (al.getD_mem al.pos)

/-- On Linux there is nothing to cancel before the transfers are allocated. -/
lemma wp_cancel_opened (inv : C.Inv s.dev) (hp : s.pipes p = some P) (linux : B.linux = true)
    (zero : P.transferCount = 0) :
    wp (B.asyncInPipeCancelTransfers (some p))
      (fun r s' => r = none ∧ Cancelled C s p P s') s := by
  simp only [Backend.asyncInPipeCancelTransfers, wp_bind, wp_loadPipe hp, storePipe, wp_modify]
  apply wp_ite
  · intro _
    simp only [wp_bind]
    apply wp_forUntil fun _ _ s₁ => Cancelled C s p P s₁
    · intro i _ _ _ lt
      rw [zero] at lt
      exact absurd lt (Nat.not_lt_zero i)
    · intro _ s₁ c
      rw [wp_pure]
      exact ⟨rfl, c⟩
    · exact Cancelled.store inv
  · exact fun other => absurd linux other

/-- Elsewhere the first element of the array that does not exist is read. -/
lemma cancel_opened_fault (hp : s.pipes p = some P) (linux : B.linux = false)
    (none : P.transferArray = none) :
    B.asyncInPipeCancelTransfers (some p) s = .error .nullPointer := by
  have read (s : Sys τ κ α γ) :
      transferAt { P with endlessTransfersEnabled := false } 0 s = .error .nullPointer := by
    simp only [transferAt, none]
    rfl
  simp only [Backend.asyncInPipeCancelTransfers, linux, Bool.false_eq_true, if_false]
  rw [bind_of_ok (loadPipe_ok hp), bind_of_ok storePipe_ok]
  exact bind_of_error (read _)

lemma wp_hasPending (inv : C.Inv s.dev) (hp : s.pipes p = some P) (result : Option Bool) :
    wp (Backend.asyncInPipeHasPendingTransfers (some p) result) (fun r s' =>
      r.2 = result.map (fun _ => P.pendingCount != 0) ∧ (result ≠ none → r.1 = none) ∧
        After C s p P s' ∧ s'.dev.transfers = s.dev.transfers ∧ s'.dev.calls = s.dev.calls) s := by
  cases result with
  | none =>
    simp only [Backend.asyncInPipeHasPendingTransfers, wp_bind, wp_pure]
    apply wp_mono (wp_refuse inv hp _)
    rintro r s' ⟨_, after, transfers, calls⟩
    exact ⟨rfl, fun ne => absurd rfl ne, after, transfers, calls⟩
  | some b =>
    simp only [Backend.asyncInPipeHasPendingTransfers, wp_bind, wp_loadPipe hp, wp_pure]
    exact ⟨rfl, fun _ => trivial, After.refl inv hp, trivial, trivial⟩

/-- Handling events touches no pipe. -/
lemma wp_handleEvents (inv : C.Inv s.dev) (hp : s.pipes p = some P) (handle : P.handle = some h) :
    wp (B.asyncInPipeHandleEvents (some p)) (fun _ s' =>
      s'.handle = s.handle ∧ s'.pipes = s.pipes ∧ C.Inv s'.dev ∧
        Touches C.view [] s.dev s'.dev) s := by
  simp only [Backend.asyncInPipeHandleEvents, wp_bind, wp_loadPipe hp, handle, onDev, wp_zoom]
  apply wp_mono (C.events inv)
  rintro _ d ⟨inv', touch⟩
  exact ⟨trivial, trivial, inv', touch⟩

end Libusbp
