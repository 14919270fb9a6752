import Libusbp.Linux.Pipes

/-!
# The outputs of a finished transfer

`handle_finished_transfer` writes to up to four variables of its caller. What it does apart from that
does not depend on which of their pointers are null: a step of the pipe is computed here from the state
alone. The kernel may report any length, and the number of bytes that are copied is the length as a
`size_t`, but never more than the buffer of the transfer holds.
-/

namespace Libusbp.Linux

open Prog Heap

variable {d d' : Dev} {t : Addr} {T : Transfer}

/-! ## One submission -/

/-- The answer of the kernel to the next `ioctl` on the descriptor. -/
def Kernel.answer (k : Kernel) (fd : Int) : Turn :=
  if fd = k.fd then k.plan k.ioctls else { k.plan k.ioctls with errno := some ebadf }

/-- The kernel after the URB of the transfer `t` was submitted. -/
def Kernel.afterSubmit (k : Kernel) (fd : Int) (t : Addr) : Kernel :=
  { k with
    ioctls := k.ioctls + 1
    inFlight := if (k.answer fd).errno.isNone then k.inFlight ++ [t] else k.inFlight }

/-- The transfer `t` was submitted. Only which error it holds, if it was refused, is left open. -/
structure Submitted (d : Dev) (t : Addr) (T : Transfer) (d' : Dev) : Prop where
  kernel : d'.kernel = d.kernel.afterSubmit T.fd t
  calls : d'.calls = .submit t ⟨(d.kernel.answer T.fd).errno, T.urb.actualLength⟩ :: d.calls
  transfers : ∃ error : Option Error, (error.isNone = (d.kernel.answer T.fd).errno.isNone) ∧
    d'.transfers = Function.update d.transfers t
      (some { T with error := error, pending := (d.kernel.answer T.fd).errno.isNone })

lemma wp_ioctl_answer {fd : Int} {Q : Turn → Dev → Prop} :
    wp (ioctl fd) Q d ↔ Q (d.kernel.answer fd)
      { d with kernel := { d.kernel with ioctls := d.kernel.ioctls + 1 } } := by
  simp only [ioctl, wp_bind, wp_get, wp_set, Kernel.answer]
  split
  case isTrue => exact wp_pure
  case isFalse => exact wp_pure

lemma wp_submit_answer (hT : d.transfers t = some T) (idle : T.pending = false) :
    wp (asyncInTransferSubmit (some t)) (fun _ d' => Submitted d t T d') d := by
  simp only [asyncInTransferSubmit, wp_bind, wp_loadTransfer hT, wp_check, onHeap, wp_zoom]
  refine ⟨by simp [idle], ?_⟩
  apply wp_errorFree
  intro h₁ _ _
  simp only [storeTransfer, wp_modify, usbfdSubmitUrb, wp_bind]
  rw [wp_loadTransfer (Function.update_self ..), wp_ioctl_answer]
  have refused : ∀ {e : Error} {h' : Heap} {errno : Int}, (d.kernel.answer T.fd).errno = some errno →
      Submitted d t T
        { d with
          heap := h'
          transfers := Function.update d.transfers t (some { T with error := some e, pending := false })
          kernel := { d.kernel with ioctls := d.kernel.ioctls + 1 }
          calls := .submit t ⟨some errno, T.urb.actualLength⟩ :: d.calls } := by
    intro e h' errno answer
    refine ⟨?_, by rw [answer], some e, ?_, ?_⟩
    · simp [Kernel.afterSubmit, answer]
    · simp [answer]
    · simp [answer]
  cases answer : (d.kernel.answer T.fd).errno with
  | none =>
    simp only [acceptUrb, wp_bind, wp_modify, wp_pure]
    refine ⟨?_, by rw [answer], none, ?_, ?_⟩
    · simp [Kernel.afterSubmit, answer]
    · simp [answer]
    · simp [answer]
  | some errno =>
    apply wp_createErrno
    intro e h₂ _ _
    simp only [wp_bind]
    rw [wp_loadTransfer (Function.update_self ..)]
    simp only [wp_modify, Function.update_idem]
    exact refused answer

/-- The submission of the next transfer of a pipe whose ring is not full. -/
lemma wp_submitNext_answer {handle : Handle} {s : Sys} {p : Addr} {P : Pipe}
    (hp : s.pipes p = some P) (al : Allocated (contract handle).view s.dev P)
    (lt : P.pendingCount < P.transferCount) :
    wp (backend.asyncInPipeSubmitNextTransfer p) (fun _ s' =>
      s'.handle = s.handle ∧ s'.pipes = Function.update s.pipes p (some P.submitted) ∧
        ∃ T, s.dev.transfers (P.transfers.getD P.nextSubmit 0) = some T ∧
          Submitted s.dev (P.transfers.getD P.nextSubmit 0) T s'.dev) s := by
  simp only [Backend.asyncInPipeSubmitNextTransfer, wp_bind, wp_loadPipe hp, wp_check,
    decide_eq_true_eq, al.wp_transferAt al.ring.tail_lt]
  refine ⟨lt, ?_⟩
  have mem := al.getD_mem al.ring.tail_lt
  obtain ⟨T, hT, _⟩ := al.live _ mem
  have idle := al.outside _ mem (al.nextSubmit_notMem lt) T hT
  simp only [onDev, wp_zoom]
  apply wp_mono (wp_submit_answer hT idle)
  intro _ d submitted
  simp only [storePipe, wp_modify]
  exact ⟨trivial, rfl, T, hT, submitted⟩

/-! ## The results of a transfer -/

/-- What a transfer writes to the variables of the caller. -/
structure Delivers (T : Transfer) (out out' : Outputs) : Prop where
  transferred : out'.transferred = out.transferred.map fun _ => T.urb.received
  buffer : out'.buffer = out.buffer.map fun dst => memcpy dst T.urb.buffer.val T.urb.received
  transferError : out'.transferError.map Option.isSome = out.transferError.map fun _ => T.error.isSome

lemma wp_getResults_delivers {out : Outputs} (hT : d.transfers t = some T) (idle : T.pending = false)
    (wf : ∀ e, T.error = some e → e.WF) :
    wp (asyncInTransferGetResults (some t) out) (fun r d' => r.1 = none ∧
      r.2.finished = out.finished ∧ Delivers T out r.2 ∧
        ∃ h', Le d.heap h' ∧ d' = { d with heap := h', calls := .results t r.2 :: d.calls }) d := by
  simp only [asyncInTransferGetResults, wp_bind, wp_loadTransfer hT, wp_check, clamp_eq_received]
  refine ⟨by simp [idle], ?_⟩
  cases te : out.transferError with
  | none =>
    simp only [wp_bind, wp_modify, wp_pure]
    exact ⟨trivial, trivial, ⟨rfl, rfl, by rw [te]; rfl⟩, d.heap, Le.refl _, rfl⟩
  | some slot =>
    simp only [onHeap, wp_bind, wp_zoom, wp_modify, wp_pure]
    apply wp_errorCopy wf
    intro r h' le copied
    have isSome : r.isSome = T.error.isSome := by
      cases r <;> cases e : T.error <;> simp_all
    exact ⟨trivial, trivial, ⟨rfl, rfl, by rw [te]; exact congrArg some isSome⟩, h', le, rfl⟩

/-! ## The whole call -/

/-- The transfer that a call of `handle_finished_transfer` is about to report. -/
def finishedTransfer (s : Sys) (pipe : Option Addr) : Option Transfer := do
  let P ← s.pipes (← pipe)
  if P.pendingCount = 0 then none
  else
    let T ← s.dev.transfers (P.transfers.getD P.nextFinish 0)
    if T.pending then none else some T

lemma finishedTransfer_eq {s : Sys} {p : Addr} {P : Pipe} (hp : s.pipes p = some P)
    (pos : P.pendingCount ≠ 0) (hT : s.dev.transfers (P.transfers.getD P.nextFinish 0) = some T) :
    finishedTransfer s (some p) = if T.pending then none else some T := by
  simp only [finishedTransfer, hp, Option.bind_eq_bind, Option.bind_some, if_neg pos, hT]

/-- What a call on the open pipe `P` does, where there is nothing to report and where there is. -/
inductive FinishedStep (s : Sys) (p : Addr) (P : Pipe) (out : Outputs) :
    Option Error × Outputs → Sys → Prop where
  | idle : finishedTransfer s (some p) = none → FinishedStep s p P out (none, resetOutputs out) s
  | finished {T outr h calls} :
    finishedTransfer s (some p) = some T → Delivers T (resetOutputs out) outr →
    P.transferSize = sizeOfInt T.urb.bufferLength → view.Buffered s.dev.heap T →
    P.endlessTransfersEnabled = false →
    calls = .results (P.transfers.getD P.nextFinish 0) outr :: s.dev.calls →
    FinishedStep s p P out (none, { outr with finished := out.finished.map fun _ => true })
      { s with
        pipes := Function.update s.pipes p (some P.finished)
        dev := { s.dev with heap := h, calls := calls } }
  | submitted {T outr h calls T' d} :
    finishedTransfer s (some p) = some T → Delivers T (resetOutputs out) outr →
    P.transferSize = sizeOfInt T.urb.bufferLength → view.Buffered s.dev.heap T →
    P.endlessTransfersEnabled = true →
    calls = .results (P.transfers.getD P.nextFinish 0) outr :: s.dev.calls →
    s.dev.transfers (P.transfers.getD P.nextSubmit 0) = some T' →
    Submitted { s.dev with heap := h, calls := calls } (P.transfers.getD P.nextSubmit 0) T' d →
    FinishedStep s p P out (none, { outr with finished := out.finished.map fun _ => true })
      { s with pipes := Function.update s.pipes p (some P.finished.submitted), dev := d }

lemma wp_finish_step {handle : Handle} {s : Sys} {p : Addr} {P : Pipe}
    (inv : SysInv (contract handle) s) (hp : s.pipes p = some P) (out : Outputs) :
    wp (backend.asyncInPipeHandleFinishedTransfer (some p) out) (FinishedStep s p P out) s := by
  rcases inv.cases hp with ⟨pipeId, rfl, _⟩ | al
  · apply wp_mono (wp_finish_opened (B := backend) hp rfl)
    rintro _ _ ⟨rfl, rfl⟩
    apply FinishedStep.idle
    simp [finishedTransfer, hp, Pipe.opened]
  simp only [Backend.asyncInPipeHandleFinishedTransfer, wp_bind, wp_loadPipe hp]
  apply wp_ite
  · intro zero
    rw [wp_pure]
    apply FinishedStep.idle
    simp [finishedTransfer, hp, zero]
  intro pos
  have mem := al.getD_mem al.ring.head_lt
  obtain ⟨T, hT, size, buffered⟩ := al.live _ mem
  simp only [wp_bind, al.wp_transferAt al.ring.head_lt, onDev, wp_zoom]
  refine (wp_pending hT).mpr ?_
  apply wp_ite
  · intro pending
    rw [wp_pure]
    apply FinishedStep.idle
    rw [finishedTransfer_eq hp pos hT, if_pos pending]
  intro idle
  rw [Bool.not_eq_true] at idle
  have head : finishedTransfer s (some p) = some T := by
    rw [finishedTransfer_eq hp pos hT, if_neg (by rw [idle]; exact Bool.false_ne_true)]
  simp only [wp_bind, wp_zoom]
  apply wp_mono (wp_getResults_delivers hT idle ((inv.inv.wf _ T hT).error))
  rintro ⟨_, outr⟩ d₁ ⟨rfl, fin, delivers, h₁, le, rfl⟩
  have last : (outr.finished.map fun _ => true) = out.finished.map fun _ => true := by
    rw [show outr.finished = (resetOutputs out).finished from fin]
    simp [resetOutputs]
  simp only [storePipe, wp_bind, wp_modify, last]
  apply wp_ite
  · intro endless
    have lt : P.finished.pendingCount < P.finished.transferCount := by
      have count := al.ring.count_le
      show P.pendingCount - 1 < P.transferCount
      omega
    have al₁ : Allocated (contract handle).view
        { s.dev with
          heap := h₁
          calls := .results (P.transfers.getD P.nextFinish 0) outr :: s.dev.calls } P.finished :=
      al.finished pos hT idle le rfl rfl
    rw [wp_bind]
    apply wp_mono (wp_submitNext_answer (P := P.finished) (Function.update_self ..) al₁ lt)
    rintro _ ⟨_, _, d₂⟩ ⟨rfl, rfl, T', hT', submitted⟩
    simp only [wp_pure, Function.update_idem]
    exact .submitted head delivers size.symm buffered endless rfl hT' submitted
  · intro once
    rw [Bool.not_eq_true] at once
    simp only [wp_pure]
    exact .finished head delivers size.symm buffered once rfl

/-! ## What the pointers decide -/

/-- The submission that an entry of the history stands for. -/
def submission? : Call Submission Returned → Option (Addr × Submission)
  | .submit t a => some (t, a)
  | .complete _ _ => none
  | .results _ _ => none

/-- A transfer but for the contents of its error. -/
def Transfer.shape (T : Transfer) : Transfer := { T with error := T.error.map fun _ => errorBlank }

/-- The systems agree in everything but the heap, the contents of errors and the outputs. -/
structure SameButOutputs (s₁ s₂ : Sys) : Prop where
  handle : s₁.handle = s₂.handle
  pipes : s₁.pipes = s₂.pipes
  kernel : s₁.dev.kernel = s₂.dev.kernel
  submissions : s₁.dev.calls.filterMap submission? = s₂.dev.calls.filterMap submission?
  transfers : ∀ t, (s₁.dev.transfers t).map Transfer.shape = (s₂.dev.transfers t).map Transfer.shape

lemma SameButOutputs.refl (s : Sys) : SameButOutputs s s := ⟨rfl, rfl, rfl, rfl, fun _ => rfl⟩

/-- A refused submission leaves an error, whichever it is. -/
lemma Submitted.shape {d₁ d₂ d₁' d₂' : Dev} (h₁ : Submitted d₁ t T d₁') (h₂ : Submitted d₂ t T d₂')
    (kernel : d₁.kernel = d₂.kernel) (transfers : d₁.transfers = d₂.transfers) (u : Addr) :
    (d₁'.transfers u).map Transfer.shape = (d₂'.transfers u).map Transfer.shape := by
  obtain ⟨e₁, isNone₁, eq₁⟩ := h₁.transfers
  obtain ⟨e₂, isNone₂, eq₂⟩ := h₂.transfers
  rw [kernel] at isNone₁ eq₁
  have same : (e₁.map fun _ => errorBlank) = e₂.map fun _ => errorBlank := by
    cases e₁ <;> cases e₂ <;> simp_all
  rw [eq₁, eq₂, transfers]
  by_cases e : u = t
  · rw [e, Function.update_self, Function.update_self]
    simp only [Option.map_some, Transfer.shape, same]
  · rw [Function.update_of_ne e, Function.update_of_ne e]

lemma FinishedStep.same {s s₁ s₂ : Sys} {p : Addr} {P : Pipe} {out₁ out₂ : Outputs}
    {r₁ r₂ : Option Error × Outputs} (h₁ : FinishedStep s p P out₁ r₁ s₁)
    (h₂ : FinishedStep s p P out₂ r₂ s₂) : SameButOutputs s₁ s₂ := by
  cases h₁ with
  | idle none₁ =>
    cases h₂ with
    | idle => exact .refl s
    | finished head | submitted head =>
      rw [none₁] at head
      cases head
  | finished head₁ _ _ _ once₁ calls₁ =>
    cases h₂ with
    | idle none₂ =>
      rw [none₂] at head₁
      cases head₁
    | finished _ _ _ _ _ calls₂ => exact ⟨rfl, rfl, rfl, by rw [calls₁, calls₂]; rfl, fun _ => rfl⟩
    | submitted _ _ _ _ endless₂ => exact absurd (once₁.symm.trans endless₂) Bool.false_ne_true
  | submitted head₁ _ _ _ endless₁ calls₁ hT₁ sub₁ =>
    cases h₂ with
    | idle none₂ =>
      rw [none₂] at head₁
      cases head₁
    | finished _ _ _ _ once₂ => exact absurd (once₂.symm.trans endless₁) Bool.false_ne_true
    | submitted _ _ _ _ _ calls₂ hT₂ sub₂ =>
      rw [hT₁] at hT₂
      cases hT₂
      refine ⟨rfl, rfl, sub₁.kernel.trans sub₂.kernel.symm, ?_, sub₁.shape sub₂ rfl rfl⟩
      rw [sub₁.calls, sub₂.calls, calls₁, calls₂]
      rfl

/-- The contract of the outputs: what the call did to the system does not depend on which pointers are
null, and with nothing to report or an error the outputs are as they were reset. Otherwise at most the
size of a transfer is copied, out of the block that was allocated as the buffer of the transfer. -/
structure OutputContract (s : Sys) (pipe : Option Addr) (out : Outputs) (error : Option Error)
    (out' : Outputs) (s' : Sys) : Prop where
  same : ∀ out₂, ∃ r₂ s₂, backend.asyncInPipeHandleFinishedTransfer pipe out₂ s = .ok (r₂, s₂) ∧
    SameButOutputs s' s₂
  idle : finishedTransfer s pipe = none → out' = resetOutputs out ∧
    s' = { s with dev := { s.dev with heap := s'.dev.heap } }
  finished : ∀ p P T, pipe = some p → s.pipes p = some P → finishedTransfer s pipe = some T →
    out'.finished = out.finished.map (fun _ => true) ∧
    out'.transferError.map Option.isSome = out.transferError.map (fun _ => T.error.isSome) ∧
    ∃ n a size, n ≤ P.transferSize ∧ n ≤ sizeOfInt T.urb.bufferLength ∧
      T.urb.buffer.loc = .heap a ∧ .alloc a size ∈ s.dev.heap.calls ∧ n ≤ size ∧
      out'.transferred = out.transferred.map (fun _ => n) ∧
      out'.buffer = out.buffer.map fun dst => memcpy dst T.urb.buffer.val n
  error : error ≠ none → out' = resetOutputs out

/-- What is delivered after the outputs were reset. -/
lemma Delivers.bounded {out outr : Outputs} {n : Nat} {h : Heap}
    (delivers : Delivers T (resetOutputs out) outr) (eq : n = sizeOfInt T.urb.bufferLength)
    (buffered : view.Buffered h T) :
    outr.transferError.map Option.isSome = out.transferError.map (fun _ => T.error.isSome) ∧
    ∃ k a size, k ≤ n ∧ k ≤ sizeOfInt T.urb.bufferLength ∧
      T.urb.buffer.loc = .heap a ∧ .alloc a size ∈ h.calls ∧ k ≤ size ∧
      outr.transferred = out.transferred.map (fun _ => k) ∧
      outr.buffer = out.buffer.map fun dst => memcpy dst T.urb.buffer.val k := by
  have le : T.urb.received ≤ sizeOfInt T.urb.bufferLength := min_le_right _ _
  obtain ⟨a, loc, block⟩ := buffered
  refine ⟨?_, T.urb.received, a, _, eq ▸ le, le, Option.some.inj loc, block, le, ?_, delivers.buffer⟩
  · rw [delivers.transferError, resetOutputs, Option.map_map]
    rfl
  · rw [delivers.transferred, resetOutputs, Option.map_map]
    rfl

lemma FinishedStep.contract {handle : Handle} {s s' : Sys} {p : Addr} {P : Pipe} {out : Outputs}
    {r : Option Error × Outputs} (inv : SysInv (contract handle) s) (hp : s.pipes p = some P)
    (step : FinishedStep s p P out r s') : OutputContract s (some p) out r.1 r.2 s' := by
  have same : ∀ out₂, ∃ r₂ s₂, backend.asyncInPipeHandleFinishedTransfer (some p) out₂ s =
      .ok (r₂, s₂) ∧ SameButOutputs s' s₂ := by
    intro out₂
    obtain ⟨r₂, s₂, run, step₂⟩ := wp_finish_step inv hp out₂
    exact ⟨r₂, s₂, run, step.same step₂⟩
  have about : ∀ {q Q}, some p = some q → s.pipes q = some Q → Q = P := by
    rintro q Q ⟨⟩ hQ
    rw [hp] at hQ
    cases hQ
    rfl
  cases step with
  | idle none =>
    refine ⟨same, fun _ => ⟨rfl, rfl⟩, ?_, fun error => absurd rfl error⟩
    intro q Q T _ _ head
    rw [none] at head
    cases head
  | finished head delivers size buffered _ calls | submitted head delivers size buffered _ calls hT sub =>
    refine ⟨same, ?_, ?_, fun error => absurd rfl error⟩
    · intro none
      rw [none] at head
      cases head
    · intro q Q T' eq hQ head'
      rw [head] at head'
      cases head'
      obtain rfl := about eq hQ
      exact ⟨rfl, delivers.bounded size buffered⟩

/-- The contract of the outputs on Linux, in every state that calls lead to, for a pipe that is open or
null, whatever lengths the kernel reported and whichever pointers are null. -/
theorem handleFinishedTransfer_outputs {s : Sys} (reach : Reachable s) (pipe : Option Addr)
    (isOpen : ∀ p, pipe = some p → (s.pipes p).isSome) (out : Outputs) :
    ∃ error out' s', backend.asyncInPipeHandleFinishedTransfer pipe out s = .ok ((error, out'), s') ∧
      OutputContract s pipe out error out' s' := by
  cases pipe with
  | none =>
    have refused : ∀ out, ∃ error h', backend.asyncInPipeHandleFinishedTransfer none out s =
        .ok ((error, resetOutputs out), { s with dev := { s.dev with heap := h' } }) := by
      intro out
      have made : wp (backend.asyncInPipeHandleFinishedTransfer none out) (fun r s' =>
          r.2 = resetOutputs out ∧ ∃ h', s' = { s with dev := { s.dev with heap := h' } }) s := by
        simp only [Backend.asyncInPipeHandleFinishedTransfer, wp_bind, onDev, onHeap, wp_zoom, wp_pure]
        exact wp_mono (made_create _ _) fun _ h' _ => ⟨trivial, h', rfl⟩
      obtain ⟨⟨error, _⟩, _, run, rfl, h', rfl⟩ := made
      exact ⟨error, h', run⟩
    obtain ⟨error, h', run⟩ := refused out
    refine ⟨error, _, _, run, ?_, fun _ => ⟨rfl, rfl⟩, by rintro _ _ _ ⟨⟩, fun _ => rfl⟩
    intro out₂
    obtain ⟨error₂, h₂, run₂⟩ := refused out₂
    exact ⟨_, _, run₂, rfl, rfl, rfl, rfl, fun _ => rfl⟩
  | some p =>
    obtain ⟨handle, inv⟩ := reach.sysInv
    obtain ⟨P, hp⟩ := Option.isSome_iff_exists.mp (isOpen p rfl)
    obtain ⟨⟨error, out'⟩, s', run, step⟩ := wp_finish_step inv hp out
    exact ⟨error, out', s', run, step.contract inv hp⟩

/-- The kernel returns the oldest URB with a negative length. -/
def negativeTurn : Turn := ⟨none, 0, ⟨0, 0, -1, fun i => i.toUInt8 + 1⟩⟩

/-- The head of the ring is finished, and the caller asks for the bytes and their number only. -/
theorem handleFinishedTransfer_outputs_example : ∃ s T error out' s', Reachable s ∧
    finishedTransfer s (some 1) = some T ∧
      backend.asyncInPipeHandleFinishedTransfer (some 1) ⟨none, some fun _ => 0, some 0, none⟩ s =
        .ok ((error, out'), s') ∧
      OutputContract s (some 1) ⟨none, some fun _ => 0, some 0, none⟩ error out' s' := by
  have whole : Machine.passes backend.step [.create 0x81, .allocateTransfers 1 2 8,
      .startEndlessTransfers 1, .handleEvents 1] (exampleSystem fun _ => negativeTurn)
      (fun _ s => (s.pipes 1).isSome && (finishedTransfer s (some 1)).isSome) = true := by
    decide +kernel
  obtain ⟨rs, s, run, test⟩ := Machine.run_of_passes whole
  rw [Bool.and_eq_true] at test
  obtain ⟨T, head⟩ := Option.isSome_iff_exists.mp test.2
  have reach : Reachable s := ⟨_, _, _, _, exampleSystem_initial _, run⟩
  have isOpen : ∀ p, some 1 = some p → (s.pipes p).isSome := by
    rintro _ ⟨⟩
    exact test.1
  obtain ⟨error, out', s', ran, contract⟩ :=
    handleFinishedTransfer_outputs reach (some 1) isOpen ⟨none, some fun _ => 0, some 0, none⟩
  exact ⟨s, T, error, out', s', reach, head, ran, contract⟩

end Libusbp.Linux
