import Libusbp.Linux.Contract
import Libusbp.PipeDrain

/-!
# Pipes on Linux

The main results about `async_in_pipe.c` over the Linux backend, for every run from a handle on
which nothing is open: a pipe is a bounded first-in first-out queue of its submissions, its ring
keeps its representation invariant and no assertion fails, and a cancelled pipe drains.
-/

namespace Libusbp.Linux

open Prog Heap

abbrev Sys := Libusbp.Sys Transfer Kernel Submission Returned

/-- A handle on which nothing was opened yet: the kernel owns no URB. -/
structure Initial (handle : Handle) (s : Sys) : Prop where
  fresh : s.Fresh handle
  inFlight : s.dev.kernel.inFlight = []

/-- The systems that calls lead to from a handle on which nothing is open. -/
def Reachable (s : Sys) : Prop :=
  ∃ handle, Machine.Reach backend.step (Initial handle) s

lemma Initial.inv {handle : Handle} {s : Sys} (init : Initial handle s) : Inv s.dev :=
  .init init.fresh.transfers init.fresh.calls init.inFlight

lemma Initial.sysInv {handle : Handle} {s : Sys} (init : Initial handle s) :
    SysInv (contract handle) s :=
  init.fresh.sysInv init.inv

lemma Reachable.sysInv {s : Sys} (reach : Reachable s) :
    ∃ handle, SysInv (contract handle) s := by
  obtain ⟨handle, reach⟩ := reach
  refine ⟨handle, reach.inv (fun _ init => init.sysInv) ?_⟩
  intro _ _ _ _ inv run
  exact (step_result inv run).sysInv inv

/-- On Linux every call is admitted. -/
lemma admits (e : Event) (s : Sys) : backend.Admits e s := .inl rfl

variable {s s' : Sys} {p : Addr} {P : Pipe}

/-- The asynchronous IN pipe refines a bounded first-in first-out queue of submissions. After any
run, the number of submissions exceeds that of the finished reports by the number of pending
transfers; the next finished report is read out of a transfer whose last submission has the number
of that report; and `has_pending_transfers` tells whether there are unreported submissions. -/
theorem asyncInPipe_refinesFifo {handle : Handle} {s₀ : Sys} {es : List Event} {rs : List Reply}
    (init : Initial handle s₀) (run : Machine.run backend.step es s₀ = .ok (rs, s))
    (hp : s.pipes p = some P) (array : P.transferArray ≠ none) :
    RefinesFifo s.dev.calls P ∧
    ((∀ out, .handleFinishedTransfer p out ∈ es → out.finished ≠ none) →
      (es.zip rs).countP (isReport p) =
        (Fifo.pops (queueOps P.transfers s.dev.calls)).length) ∧
    (∀ e r s', backend.step e s = .ok (r, s') → isReport p (e, r) = true →
      ∃ t outr, r = .finished none { outr with finished := some true } ∧
        .results t outr :: s.dev.calls <:+ s'.dev.calls ∧
        Fifo.lastPush t (queueOps P.transfers s.dev.calls) =
          some (Fifo.pops (queueOps P.transfers s.dev.calls)).length) ∧
    ∀ b r s', backend.step (.hasPendingTransfers p (some b)) s = .ok (r, s') →
      r = .pending none (some (decide ((Fifo.pushes (queueOps P.transfers s.dev.calls)).length ≠
        (Fifo.pops (queueOps P.transfers s.dev.calls)).length))) := by
  have inv : SysInv (contract handle) s := by
    apply Machine.run_inv _ init.sysInv run
    intro e _ s r s' inv step
    exact (step_result inv step).sysInv inv
  have al := inv.allocated hp array
  have fifo := al.refinesFifo
  refine ⟨fifo, ?_, ?_, ?_⟩
  · intro asks
    have counted : Counted (contract handle) p (es.zip rs) s :=
      Counted.run init.fresh init.inv run asks
    exact counted.reports P hp
  · intro e r s' step is
    obtain ⟨_, outr, t, _, _, answer, _, rfl, sfx, last, _⟩ := (step_result inv step).report hp al is
    exact ⟨t, outr, answer, sfx, last⟩
  · intro b r s' step
    have answer := (step_result inv step).hasPending_reply hp
    rw [answer, fifo.difference]
    -- the counter is the number of submissions that were not reported yet
    cases P.pendingCount with
    | zero => simp
    | succ k => simp

/-- A handle on which nothing is open, with a kernel that will answer as planned. -/
def exampleSystem (plan : Nat → Turn) : Sys where
  handle := ⟨3⟩
  pipes := fun _ => none
  dev :=
    { heap := { grant := fun _ => true, next := 1, calls := [] }
      transfers := fun _ => none
      kernel :=
        { fd := 3
          inFlight := []
          plan := plan
          ioctls := 0
          strerror := fun _ => none
          garbage := fun _ _ => 0 }
      calls := [] }

lemma exampleSystem_initial (plan : Nat → Turn) : Initial ⟨3⟩ (exampleSystem plan) :=
  ⟨⟨rfl, fun _ => rfl, fun _ => rfl, rfl⟩, rfl⟩

/-- The kernel accepts every request, and returns the oldest URB with four bytes. -/
def promptTurn : Turn := ⟨none, 0, ⟨0, 0, 4, fun i => i.toUInt8 + 1⟩⟩

/-- A pipe is opened, filled, and reports once. -/
def exampleEvents : List Event :=
  [.create 0x81, .allocateTransfers 1 2 8, .startEndlessTransfers 1, .handleEvents 1,
    .handleFinishedTransfer 1 allOutputs]

lemma exampleEvents_run : ∃ rs s, Machine.run backend.step exampleEvents
    (exampleSystem fun _ => promptTurn) = .ok (rs, s) ∧ isAllocated 1 s = true :=
  Machine.run_of_passes (by decide +kernel)

theorem asyncInPipe_refinesFifo_example : ∃ rs s P, Machine.run backend.step exampleEvents
    (exampleSystem fun _ => promptTurn) = .ok (rs, s) ∧ s.pipes 1 = some P ∧
      RefinesFifo s.dev.calls P := by
  obtain ⟨rs, s, run, allocated⟩ := exampleEvents_run
  obtain ⟨P, hp, array⟩ := array_of_isAllocated allocated
  exact ⟨rs, s, P, run, hp, (asyncInPipe_refinesFifo (exampleSystem_initial _) run hp array).1⟩

/-! ## The ring -/

/-- The representation invariant of the ring of a pipe with allocated transfers. -/
structure RingInvariant (s : Sys) (P : Pipe) : Prop where
  nextFinish_lt : P.nextFinish < P.transferCount
  nextSubmit_lt : P.nextSubmit < P.transferCount
  pendingCount_le : P.pendingCount ≤ P.transferCount
  nextSubmit_eq : P.nextSubmit = (P.nextFinish + P.pendingCount) % P.transferCount
  outside : ∃ l slots, P.transferArray = some ⟨l, slots⟩ ∧ slots.length = P.transferCount ∧
    ∀ i < P.transferCount, i ∉ Circular.window P.transferCount P.nextFinish P.pendingCount →
      ∃ t T, slots[i]? = some (some t) ∧ s.dev.transfers t = some T ∧ T.pending = false
  endless : P.endlessTransfersEnabled = true → P.pendingCount = P.transferCount

/-- The ring of an allocated pipe keeps its representation invariant in every reachable state, no
call fails an assertion there, and `start_endless_transfers` fills the ring. -/
theorem asyncInPipe_ring (reach : Reachable s) (hp : s.pipes p = some P)
    (array : P.transferArray ≠ none) :
    RingInvariant s P ∧ (∀ e, ∃ r s', backend.step e s = .ok (r, s')) ∧
      ∃ s' P', backend.step (.startEndlessTransfers p) s = .ok (.done none, s') ∧
        s'.pipes p = some P' ∧ P'.pendingCount = P'.transferCount ∧
          P'.transferCount = P.transferCount := by
  obtain ⟨handle, inv⟩ := reach.sysInv
  have al := inv.allocated hp array
  refine ⟨?_, ?_, ?_⟩
  · refine ⟨al.ring.head_lt, al.ring.tail_lt, al.ring.count_le, al.ring.tail_eq, ?_, ?_⟩
    · obtain ⟨l, hl⟩ := al.array
      refine ⟨l, _, hl, by rw [List.length_map, al.count], ?_⟩
      intro i lt nm
      have mem := al.getD_mem lt
      obtain ⟨T, hT, _⟩ := al.live _ mem
      refine ⟨_, T, ?_, hT, al.outside _ mem (al.getD_notMem_queue lt nm) T hT⟩
      rw [al.count] at lt
      rw [List.getElem?_map, List.getElem?_eq_getElem lt, List.getD_eq_getElem _ _ lt]
      rfl
    · exact inv.full hp al
  · intro e
    obtain ⟨r, s', run, _⟩ := wp_step inv e (admits e s)
    exact ⟨r, s', run⟩
  · obtain ⟨s', P', run, hp', same, full⟩ := start_fills inv hp al
    exact ⟨s', P', run, hp', full, same.transferCount⟩

theorem asyncInPipe_ring_example : ∃ s P, Reachable s ∧ s.pipes 1 = some P ∧
    RingInvariant s P := by
  obtain ⟨rs, s, run, allocated⟩ := exampleEvents_run
  obtain ⟨P, hp, array⟩ := array_of_isAllocated allocated
  have reach : Reachable s := ⟨_, _, _, _, exampleSystem_initial _, run⟩
  exact ⟨s, P, reach, hp, (asyncInPipe_ring reach hp array).1⟩

/-! ## Draining -/

/-- What holds of a pipe without pending transfers: nothing more is reported, closing frees the pipe and
every transfer with its buffer and its error, and starting fills the ring again. -/
structure Empty (s : Sys) (p : Addr) (P : Pipe) : Prop where
  nonePending : ∀ b,
    backend.step (.hasPendingTransfers p (some b)) s = .ok (.pending none (some false), s)
  notFinished : ∀ out, backend.step (.handleFinishedTransfer p out) s =
    .ok (.finished none (resetOutputs out), s)
  close : ∃ s', backend.step (.close p) s = .ok (.closed, s') ∧
    (∀ t ∈ P.transfers, s'.dev.transfers t = none) ∧
    Frees (pipeBlocks p P + view.blocksAll s.dev.transfers P.transfers) s.dev.heap s'.dev.heap
  restart : P.transferArray ≠ none → ∃ s' P',
    backend.step (.startEndlessTransfers p) s = .ok (.done none, s') ∧ s'.pipes p = some P' ∧
      P'.transferCount = P.transferCount ∧ P'.pendingCount = P.transferCount

lemma empty_of_zero {handle : Handle} (inv : SysInv (contract handle) s) (hp : s.pipes p = some P)
    (zero : P.pendingCount = 0) : Empty s p P where
  nonePending := hasPending_empty hp zero
  notFinished := finish_empty hp zero
  close := close_empty (C := contract handle) inv hp zero
  restart := by
    intro array
    obtain ⟨s', P', run, hp', same, full⟩ := start_fills inv hp (inv.allocated hp array)
    exact ⟨s', P', run, hp', same.transferCount, by rw [full, same.transferCount]⟩

/-- After `cancel_transfers`, whatever it answered, and as long as `start_endless_transfers` is not
called, nothing is submitted and the number of pending transfers does not grow. Once the kernel owns
none of the transfers, whatever is called in between, the next calls of `handle_finished_transfer`
report one pending transfer each, and then the pipe is empty. -/
theorem asyncInPipe_drains {s₁ s₂ : Sys} {P₂ : Pipe} {r : Reply} {es : List Event}
    {rs : List Reply} (reach : Reachable s) (hp : s.pipes p = some P)
    (cancel : backend.step (.cancelTransfers p) s = .ok (r, s₁))
    (no : .startEndlessTransfers p ∉ es) (run : Machine.run backend.step es s₁ = .ok (rs, s₂))
    (hp₂ : s₂.pipes p = some P₂) :
    Fifo.pushes (queueOps P₂.transfers s₂.dev.calls) =
      Fifo.pushes (queueOps P.transfers s.dev.calls) ∧
    P₂.pendingCount ≤ P.pendingCount ∧
    ∀ es' rs' s₃ P₃, .startEndlessTransfers p ∉ es' →
      Machine.run backend.step es' s₂ = .ok (rs', s₃) → s₃.pipes p = some P₃ →
      P₃.pendingCount ≤ P₂.pendingCount ∧
      ((∀ t ∈ P₂.transfers, t ∉ s₂.dev.kernel.inFlight) →
        P₃.pendingCount = P₂.pendingCount - es'.countP (isFinish p) ∧
        (es'.countP (isFinish p) < P₂.pendingCount → ∀ out, ∃ (outr : Outputs) (s₄ : Sys),
          backend.step (.handleFinishedTransfer p out) s₃ =
            .ok (.finished none { outr with finished := out.finished.map fun _ => true }, s₄)) ∧
        (P₂.pendingCount ≤ es'.countP (isFinish p) → Empty s₃ p P₃)) := by
  obtain ⟨handle, inv⟩ := reach.sysInv
  have st₂ := ((step_result inv cancel).cancel_stopped inv hp).run no run
  have endless := st₂.endless P₂ hp₂
  refine ⟨st₂.pushes P₂ hp₂, st₂.count P₂ hp₂, ?_⟩
  intro es' rs' s₃ P₃ no' run' hp₃
  have st₃ := (Stopped.init st₂.sysInv hp₂ endless).run no' run'
  have le := st₃.count P₃ hp₃
  refine ⟨le, ?_⟩
  intro owned
  rcases st₂.sysInv.cases hp₂ with ⟨pipeId, rfl, _⟩ | al
  · -- nothing was pending in the first place
    have zero : P₃.pendingCount = 0 := Nat.le_zero.mp le
    refine ⟨by rw [zero]; exact (Nat.zero_sub _).symm, ?_, ?_⟩
    · exact fun lt => absurd lt (Nat.not_lt_zero _)
    · exact fun _ => empty_of_zero st₃.sysInv hp₃ zero
  · have idle : Idle (contract handle) s₂ P₂.transfers := by
      intro t mem
      obtain ⟨T, hT, _⟩ := al.live t mem
      have notOwned := mt (st₂.sysInv.inv.mem_inFlight hT).mpr (owned t mem)
      exact ⟨T, hT, Bool.not_eq_true _ ▸ notOwned⟩
    have dr := (Drained.init st₂.sysInv hp₂ al endless idle).run no' run'
    rw [Nat.zero_add] at dr
    have count := (dr.pipe P₃ hp₃).2.2
    refine ⟨count, fun lt out => dr.report hp₃ lt out, ?_⟩
    intro all
    exact empty_of_zero st₃.sysInv hp₃ (by rw [count]; exact Nat.sub_eq_zero_of_le all)

/-- The pipe has two pending transfers, and the kernel owns none of them any more. -/
def isReturned (s : Sys) : Bool := hasCount 1 2 s && s.dev.kernel.inFlight.isEmpty

/-- The example pipe is filled and cancelled, and the kernel returns the URBs. -/
theorem asyncInPipe_drains_example : ∃ rs s r s₁ rs₂ s₂ rs₃ s₃ P₃,
    Machine.run backend.step fillEvents (exampleSystem fun _ => promptTurn) = .ok (rs, s) ∧
    backend.step (.cancelTransfers 1) s = .ok (r, s₁) ∧
    Machine.run backend.step [.handleEvents 1] s₁ = .ok (rs₂, s₂) ∧ isReturned s₂ = true ∧
    Machine.run backend.step reportEvents s₂ = .ok (rs₃, s₃) ∧ s₃.pipes 1 = some P₃ ∧
    P₃.pendingCount = 0 ∧ Empty s₃ 1 P₃ := by
  have filled : Machine.passes backend.step fillEvents (exampleSystem fun _ => promptTurn)
      (fun _ s => isAllocated 1 s) = true := by decide +kernel
  have returned : Machine.passes backend.step
      (fillEvents ++ [.cancelTransfers 1, .handleEvents 1]) (exampleSystem fun _ => promptTurn)
      (fun _ s => isReturned s) = true := by decide +kernel
  have whole : Machine.passes backend.step
      ((fillEvents ++ [.cancelTransfers 1, .handleEvents 1]) ++ reportEvents)
      (exampleSystem fun _ => promptTurn) (fun _ s => hasCount 1 0 s) = true := by decide +kernel
  obtain ⟨_, s₂, rs₃, s₃, run₂, owned, run₃, last⟩ := Machine.run_append_of_passes returned whole
  obtain ⟨rs, s, allEvents, run, more, _⟩ := Machine.run_append_ok run₂
  obtain ⟨r, s₁, rs₂, cancel, events, _⟩ := Machine.run_cons_ok more
  obtain ⟨_, _, run', allocated⟩ := Machine.run_of_passes filled
  rw [run] at run'
  cases run'
  have reach : Reachable s := ⟨_, _, _, _, exampleSystem_initial _, run⟩
  obtain ⟨P, hp, _⟩ := array_of_isAllocated allocated
  rw [isReturned, Bool.and_eq_true, List.isEmpty_iff] at owned
  obtain ⟨P₂, hp₂, count₂⟩ := pipe_of_hasCount owned.1
  obtain ⟨P₃, hp₃, zero⟩ := pipe_of_hasCount last
  have drains := (asyncInPipe_drains reach hp cancel (by simp) events hp₂).2.2 reportEvents rs₃ s₃ P₃
    (by simp [reportEvents]) run₃ hp₃
  have none : ∀ t ∈ P₂.transfers, t ∉ s₂.dev.kernel.inFlight := by
    rw [owned.2]
    exact fun _ _ => List.not_mem_nil
  have both : P₂.pendingCount ≤ reportEvents.countP (isFinish 1) := by
    rw [count₂]
    decide
  refine ⟨rs, s, r, s₁, rs₂, s₂, rs₃, s₃, P₃, run, cancel, events, ?_, run₃, hp₃, zero, ?_⟩
  · rw [isReturned, owned.1, owned.2]
    rfl
  · exact (drains.2 none).2.2 both

end Libusbp.Linux
