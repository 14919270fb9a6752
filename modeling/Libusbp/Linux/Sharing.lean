import Libusbp.Linux.Ownership
import Libusbp.PipeAlike

/-!
# Pipes that share a handle

All pipes on a handle get their completions out of one file descriptor. Here it is shown that this
does not make them depend on each other (`pipes_independent`): handling events changes only the
transfers whose URBs are given back, it does not matter through which pipe it is called, and a pipe
that was closed is not missed by the others.
-/

namespace Libusbp.Linux

open Prog Heap

/-! ## The backend is unaware of freed transfers -/

variable {n : Addr}

lemma respects_errorCreateErrno (strerror : Int → Option String) (errorCode : Int)
    (format : String) : Respects (Alike n) (errorCreateErrno strerror errorCode format) := by
  rw [errorCreateErrno_eq]
  exact respects_errorChain _ _

lemma respects_errorFromUrbStatus (strerror : Int → Option String) (status : Int) :
    Respects (Alike n) (errorFromUrbStatus strerror status) := by
  apply Respects.ite .pure
  apply Respects.ite
  · apply Respects.bind (respects_errorCreate _)
    intro error
    apply Respects.bind (respects_errorAdd _ _)
    exact fun error => respects_errorAddCode _ _
  · exact respects_errorCreateErrno _ _ _

lemma respects_loadTransfer (t : Addr) : Respects (Fewer n) (loadTransfer t) := by
  apply Sim.get
  intro d e fewer
  exact Sim.expect (fewer.transfers t)

lemma respects_updateTransfer (t : Addr) (o : Option Transfer) :
    Respects (Fewer n) (modify fun d : Dev =>
      { d with transfers := Function.update d.transfers t o } : Prog Fault Dev _) := by
  apply Respects.modify
  intro d e fewer
  refine ⟨fewer.heap, ?_, fewer.kernel, fewer.calls⟩
  intro u T hT
  have hT : Function.update d.transfers t o u = some T := hT
  show Function.update e.transfers t o u = some T
  rw [Function.update_apply] at hT ⊢
  split at hT
  case isTrue same => rwa [if_pos same]
  case isFalse other => rw [if_neg other, fewer.transfers u T hT]

lemma respects_storeTransfer (t : Addr) (T : Transfer) :
    Respects (Fewer n) (storeTransfer t T) :=
  respects_updateTransfer t (some T)

/-- A new entry of the history, and a change of the kernel that depends on the kernel alone. -/
lemma respects_record (f : Kernel → Kernel) (cs : List (Call Submission Returned)) :
    Respects (Fewer n) (modify fun d : Dev =>
      { d with kernel := f d.kernel, calls := cs ++ d.calls } : Prog Fault Dev _) := by
  apply Respects.modify
  intro d e fewer
  exact ⟨fewer.heap, fewer.transfers, congrArg f fewer.kernel, congrArg (cs ++ ·) fewer.calls⟩

lemma respects_ioctl (fd : Int) : Respects (Fewer n) (ioctl fd) := by
  apply Sim.get
  intro d e fewer
  apply Sim.set_bind
  · exact ⟨fewer.heap, fewer.transfers, congrArg (fun k : Kernel => { k with ioctls := k.ioctls + 1 }) fewer.kernel,
      fewer.calls⟩
  · rw [fewer.kernel]
    exact Respects.ite .pure .pure

lemma respects_createErrno (errorCode : Int) (format : String) :
    Respects (Fewer n) (createErrno errorCode format) := by
  apply Sim.get
  intro d e fewer
  rw [fewer.kernel]
  exact Fewer.onHeap (respects_errorCreateErrno _ _ _)

lemma respects_submitUrb (fd : Int) (t : Addr) : Respects (Fewer n) (usbfdSubmitUrb fd t) := by
  apply Respects.bind (respects_loadTransfer t)
  intro T
  apply Respects.bind (respects_ioctl fd)
  intro turn
  apply Respects.bind (respects_record id [.submit t ⟨turn.errno, T.urb.actualLength⟩])
  intro _
  cases turn.errno with
  | some errno => exact respects_createErrno _ _
  | none =>
    have accept : Respects (Fewer n) (acceptUrb t) :=
      respects_record (fun k => { k with inFlight := k.inFlight ++ [t] }) []
    exact .bind accept fun _ => .pure

lemma respects_reapUrb (fd : Int) : Respects (Fewer n) (usbfdReapUrb fd) := by
  apply Respects.bind (respects_ioctl fd)
  intro turn
  apply Sim.get
  intro d e fewer
  rw [fewer.kernel]
  cases turn.errno with
  | some errno =>
    exact Respects.ite .pure (.bind (respects_createErrno _ _) fun _ => .pure)
  | none =>
    cases e.kernel.inFlight[turn.pick]? with
    | none => exact Respects.pure
    | some t =>
      apply Respects.bind
      · apply Respects.bind (respects_loadTransfer t)
        intro T
        apply Respects.bind (respects_storeTransfer t _)
        intro _
        exact respects_record (fun k => { k with inFlight := k.inFlight.erase t })
          [.complete t ⟨turn.completion, T.pending, T.error⟩]
      · exact fun _ => .pure

lemma respects_completionError (urb : Urb) : Respects (Fewer n) (completionError urb) := by
  apply Sim.get
  intro d e fewer
  rw [fewer.kernel]
  apply Respects.bind (Fewer.onHeap (respects_errorFromUrbStatus _ _))
  intro error
  cases error with
  | some error => exact Fewer.onHeap (respects_errorAdd _ _)
  | none =>
    apply Respects.ite
    · apply Respects.bind (Fewer.onHeap (respects_errorCreate _))
      exact fun error => Fewer.onHeap (respects_errorAdd _ _)
    · exact .pure

lemma respects_handleCompletion (transfer : Option Addr) :
    Respects (Fewer n) (asyncInTransferHandleCompletion transfer) := by
  cases transfer with
  | none => exact .throw
  | some t =>
    apply Respects.bind (respects_loadTransfer t)
    intro T
    apply Respects.bind (respects_completionError _)
    intro error
    apply Respects.bind (respects_loadTransfer t)
    exact fun T => respects_storeTransfer t _

lemma respects_handleCompletedUrb (t : Addr) : Respects (Fewer n) (handleCompletedUrb t) := by
  apply Respects.bind (respects_loadTransfer t)
  intro T
  cases T.urb.usercontext with
  | none => exact Fewer.onHeap (respects_errorCreate _)
  | some transfer =>
    apply Respects.ite
    · exact .bind (respects_handleCompletion _) fun _ => .pure
    · exact Fewer.onHeap (respects_errorCreate _)

lemma respects_handleEvents (handle : Option Handle) :
    Respects (Fewer n) (genericHandleEvents handle) := by
  cases handle with
  | none => exact Fewer.onHeap (respects_errorCreate _)
  | some handle =>
    apply Sim.get
    intro d e fewer
    rw [fewer.kernel]
    apply Respects.loop
    apply Respects.bind (respects_reapUrb _)
    rintro ⟨error, urb⟩
    cases error with
    | some error => exact .pure
    | none =>
      cases urb with
      | none => exact .pure
      | some t =>
        apply Respects.bind (respects_handleCompletedUrb t)
        intro error
        cases error with
        | some error => exact .pure
        | none => exact .pure

lemma respects_create (handle : Option Handle) (pipeId : UInt8) (size : Nat) :
    Respects (Fewer n) (asyncInTransferCreate handle pipeId size) := by
  apply Respects.bind .check
  intro _
  apply Respects.ite
  · apply Respects.bind (Fewer.onHeap (respects_errorCreate _))
    intro error
    exact .bind .expect fun _ => .pure
  apply Respects.bind (Fewer.onHeap (respects_calloc _ _))
  intro r
  cases r with
  | none => exact .pure
  | some t =>
    apply Respects.bind (Fewer.onHeap (respects_malloc _))
    intro r
    cases r with
    | none => exact .bind (Fewer.onHeap (respects_free _)) fun _ => .pure
    | some buffer =>
      apply Sim.get
      intro d e fewer
      rw [fewer.kernel]
      exact Respects.bind (respects_storeTransfer _ _) fun _ => .pure

lemma respects_transferFree (transfer : Option Addr) :
    Respects (Fewer n) (asyncInTransferFree transfer) := by
  cases transfer with
  | none => exact .pure
  | some t =>
    apply Respects.bind (respects_loadTransfer t)
    intro T
    apply Respects.ite .pure
    apply Respects.bind (Fewer.onHeap (respects_errorFree _))
    intro _
    apply Respects.bind (Fewer.onHeap (respects_free _))
    intro _
    apply Respects.bind (respects_loadTransfer t)
    intro _
    apply Respects.bind (respects_updateTransfer t none)
    exact fun _ => Fewer.onHeap (respects_free _)

lemma respects_submit (transfer : Option Addr) :
    Respects (Fewer n) (asyncInTransferSubmit transfer) := by
  cases transfer with
  | none => exact .throw
  | some t =>
    apply Respects.bind (respects_loadTransfer t)
    intro T
    apply Respects.bind .check
    intro _
    apply Respects.bind (Fewer.onHeap (respects_errorFree _))
    intro _
    apply Respects.bind (respects_storeTransfer t _)
    intro _
    apply Respects.bind (respects_submitUrb _ t)
    intro error
    cases error with
    | none => exact .pure
    | some error =>
      apply Respects.bind (respects_loadTransfer t)
      exact fun T => respects_storeTransfer t _

lemma respects_getResults (transfer : Option Addr) (out : Outputs) :
    Respects (Fewer n) (asyncInTransferGetResults transfer out) := by
  cases transfer with
  | none => exact .throw
  | some t =>
    apply Respects.bind (respects_loadTransfer t)
    intro T
    apply Respects.bind .check
    intro _
    have record : ∀ out, Respects (Fewer n) (do
        modify fun d : Dev => { d with calls := .results t out :: d.calls }
        pure (none, out) : Prog Fault Dev (Option Error × Outputs)) := fun out =>
      .bind (respects_record id [.results t out]) fun _ => .pure
    cases out.transferError with
    | none => exact .bind .pure record
    | some e =>
      apply Respects.bind (Fewer.onHeap (respects_errorCopy _))
      exact fun error => .bind .pure record

lemma respects_cancel (transfer : Option Addr) :
    Respects (Fewer n) (asyncInTransferCancel transfer) := by
  cases transfer with
  | none => exact .pure
  | some t =>
    apply Respects.bind (respects_loadTransfer t)
    intro T
    apply Respects.bind (respects_ioctl _)
    intro turn
    cases turn.errno with
    | none => exact .pure
    | some errno => exact .ite .pure (respects_createErrno _ _)

lemma respects_pending (transfer : Option Addr) :
    Respects (Fewer n) (asyncInTransferPending transfer) := by
  cases transfer with
  | none => exact .throw
  | some t => exact .bind (respects_loadTransfer t) fun _ => .pure

lemma backend_unaware (n : Addr) : backend.Unaware n where
  setup := fun _ _ => .pure
  create := respects_create
  free := respects_transferFree
  submit := respects_submit
  getResults := respects_getResults
  cancel := respects_cancel
  pending := respects_pending
  events := respects_handleEvents

/-! ## Handling events -/

/-- The transfer `t`, which was the struct `T`, is as it was, or its URB was given back: then only the
results in the URB, the buffer, the pending flag and the error changed. -/
def SameOrGivenBack (d d' : Dev) (t : Addr) (T : Transfer) : Prop :=
  d'.transfers t = some T ∨ t ∈ d.kernel.inFlight ∧ ∃ c error,
    .complete t ⟨c, true, none⟩ ∈ d'.calls ∧
      d'.transfers t = some { T with urb := T.urb.returned c, pending := false, error := error }

variable {d d' : Dev} {t : Addr} {T : Transfer}

lemma Reaped.sameOrGivenBack (inv : Inv d) (r : Reaped d d') (hT : d.transfers t = some T) :
    SameOrGivenBack d d' t T := by
  induction r with
  | refl => exact .inl hT
  | quiet _ q ih =>
    unfold SameOrGivenBack
    rw [q.transfers, q.calls]
    exact ih
  | @handled d₁ d₂ u U c r hU mem _ h ih =>
    have inv₁ := r.inv inv
    have pend : U.pending = true := (inv₁.mem_inFlight hU).mp mem
    have clean := (inv₁.wf u U hU).clean pend
    obtain ⟨error, transfers⟩ := h.transfers
    unfold SameOrGivenBack
    rw [transfers, h.calls, pend, clean, Function.update_apply]
    split
    case isTrue same =>
      subst same
      rcases ih with same | ⟨_, _, _, _, givenBack⟩
      · rw [hU] at same
        cases same
        exact .inr ⟨r.inFlight_subset mem, c, error, List.mem_cons_self, rfl⟩
      · -- the kernel does not own an URB that it gave back
        rw [hU] at givenBack
        cases givenBack
        cases pend
    case isFalse =>
      rcases ih with same | ⟨owned, c', error', mem', givenBack⟩
      · exact .inl same
      · exact .inr ⟨owned, c', error', List.mem_cons_of_mem _ mem', givenBack⟩

variable {handle : Handle} {s s₁ : Sys} {p q : Addr}

/-- Events may be handled through any open pipe. -/
lemma handleEvents_congr {P Q : Pipe} (inv : SysInv (contract handle) s) (hp : s.pipes p = some P)
    (hq : s.pipes q = some Q) :
    backend.step (.handleEvents p) s = backend.step (.handleEvents q) s := by
  have through : ∀ {p P}, s.pipes p = some P → backend.step (.handleEvents p) s =
      (do let error ← onDev (genericHandleEvents (some handle)); pure (.done error) :
        Prog Fault Sys Reply) s := by
    intro p P hp
    rw [step_eq_exec hp rfl, Backend.exec, Backend.asyncInPipeHandleEvents, bind_assoc,
      bind_of_ok (loadPipe_ok hp), (inv.pipes p P hp).handle]
    rfl
  rw [through hp, through hq]

/-- The same call, or events handled through another pipe; both pipes are open in `s`. -/
def SameCall (s : Sys) (e e' : Event) : Prop :=
  e' = e ∨ ∃ p q, e = .handleEvents p ∧ e' = .handleEvents q ∧
    (s.pipes p).isSome = true ∧ (s.pipes q).isSome = true

/-- The calls `es'` are the calls `es`, with events handled through other open pipes. -/
def Rerouted : List Event → List Event → Sys → Prop
  | [], [], _ => True
  | e :: es, e' :: es', s => SameCall s e e' ∧
    ∀ r s', backend.step e s = .ok (r, s') → Rerouted es es' s'
  | _, _, _ => False

lemma SameCall.step_eq {e e' : Event} (inv : SysInv (contract handle) s) (same : SameCall s e e') :
    backend.step e' s = backend.step e s := by
  rcases same with rfl | ⟨p, q, rfl, rfl, isOpen, isOpen'⟩
  · rfl
  · obtain ⟨P, hp⟩ := Option.isSome_iff_exists.mp isOpen
    obtain ⟨Q, hq⟩ := Option.isSome_iff_exists.mp isOpen'
    exact handleEvents_congr inv hq hp

lemma Rerouted.run_eq {es es' : List Event} (inv : SysInv (contract handle) s)
    (re : Rerouted es es' s) : Machine.run backend.step es' s = Machine.run backend.step es s := by
  induction es generalizing es' s with
  | nil =>
    cases es' with
    | nil => rfl
    | cons e' es' => exact re.elim
  | cons e es ih =>
    cases es' with
    | nil => exact re.elim
    | cons e' es' =>
      obtain ⟨same, rest⟩ := re
      obtain ⟨r, s', run, result⟩ := wp_step inv e (admits e s)
      have tail := ih (result.sysInv inv) (rest r s' run)
      rw [Machine.run_cons_eq ((same.step_eq inv).trans run), Machine.run_cons_eq run, tail]

/-! ## Closing -/

lemma within_transferFree (transfer : Option Addr) :
    Within Shrinks (asyncInTransferFree transfer) := by
  have load : ∀ t, Within Shrinks (loadTransfer t) := fun t =>
    .bind Shrinks.trans (.get Shrinks.refl) fun _ => .expect Shrinks.refl
  cases transfer with
  | none => exact .pure Shrinks.refl
  | some t =>
    refine Within.bind Shrinks.trans (load t) fun T => ?_
    refine Within.ite (.pure Shrinks.refl) ?_
    refine Within.bind Shrinks.trans (Shrinks.onHeap (within_errorFree _)) fun _ => ?_
    refine Within.bind Shrinks.trans (Shrinks.onHeap (within_free _)) fun _ => ?_
    refine Within.bind Shrinks.trans (load t) fun _ => ?_
    refine Within.bind Shrinks.trans ?_ fun _ => Shrinks.onHeap (within_free _)
    refine Within.modify fun d => ⟨.refl _, ?_, rfl, rfl⟩
    intro u U hU
    have hU : Function.update d.transfers t none u = some U := hU
    rw [Function.update_apply] at hU
    split at hU
    case isTrue => cases hU
    case isFalse => exact hU

/-- After a pipe was closed, the system is as before but for that pipe. -/
lemma without_of_close {Q : Pipe} {r : Reply} (inv : SysInv (contract handle) s)
    (hq : s.pipes q = some Q) (close : backend.step (.close q) s = .ok (r, s₁)) :
    Without q s₁ s := by
  have result := step_result inv close
  cases result with
  | unused about none =>
    cases about
    rw [hq] at none
    cases none
  | close hq' closed =>
    have shrinks : Shrinks s.dev s₁.dev := by
      rw [step_eq_exec hq rfl] at close
      obtain ⟨_, _, run, eq⟩ := bind_ok close
      cases eq
      exact within_close within_transferFree s _ _ run
    refine ⟨closed.handle, ?_, ?_, shrinks.fewer (inv.fresh q Q hq)⟩
    · rw [closed.pipes, Function.update_self]
    · intro p ne
      rw [closed.pipes, Function.update_of_ne ne]

/-- Pipes that share a handle do not interfere, in any reachable state. The URB of every transfer is
one that `handle_completed_urb` recognizes and routes to that transfer. Handling events through any
pipe changes no pipe, and no transfer but those whose URBs are given back. Whatever calls follow, it
makes no difference through which open pipe events are handled. And after a pipe was closed, pending
or not, all calls on the others answer as they would if it had stayed open. -/
theorem pipes_independent (reach : Reachable s) :
    (∀ t T, s.dev.transfers t = some T → T.urb.usercontext = some t ∧ T.urb.type = urbTypeBulk ∧
      T.urb.endpoint &&& 0x80 ≠ 0) ∧
    (∀ p P r s', s.pipes p = some P → backend.step (.handleEvents p) s = .ok (r, s') →
      s'.pipes = s.pipes ∧ Reaped s.dev s'.dev ∧
        ∀ t T, s.dev.transfers t = some T → SameOrGivenBack s.dev s'.dev t T) ∧
    (∀ es es', Rerouted es es' s →
      Machine.run backend.step es' s = Machine.run backend.step es s) ∧
    ∀ q Q s₁ es, s.pipes q = some Q → backend.step (.close q) s = .ok (.closed, s₁) →
      (∀ e ∈ es, e.pipe? ≠ some q) → ∃ rs s₁' s',
        Machine.run backend.step es s₁ = .ok (rs, s₁') ∧
        Machine.run backend.step es s = .ok (rs, s') ∧
        ∀ p, p ≠ q → s₁'.pipes p = s'.pipes p := by
  obtain ⟨handle, inv⟩ := reach.sysInv
  refine ⟨?_, ?_, ?_, ?_⟩
  · intro t T hT
    have wf := inv.inv.wf t T hT
    exact ⟨wf.usercontext, wf.type, wf.endpoint⟩
  · intro p P r s' hp step
    obtain ⟨_, _, pipes, reaped⟩ := (wp_step_handleEvents inv hp).elim step
    exact ⟨pipes, reaped, fun t T hT => reaped.sameOrGivenBack inv.inv hT⟩
  · exact fun es es' re => re.run_eq inv
  · intro q Q s₁ es hq close others
    have without := without_of_close inv hq close
    -- the run without the pipe has no fault, so the run with it answers the same
    have inv₁ := (step_result inv close).sysInv inv
    obtain ⟨rs, s₁', run, _⟩ := wp_run inv₁ (Machine.along_of_forall admits)
    have respects := Respects.run fun e mem => (backend_unaware q).step (others e mem)
    obtain ⟨s', run', without'⟩ := respects s₁ s rs s₁' without run
    exact ⟨rs, s₁', s', run, run', without'.pipes⟩

/-- Two pipes on one endpoint, both waiting for their transfers. -/
def sharedEvents : List Event :=
  [.create 0x81, .create 0x81, .allocateTransfers 1 2 8, .allocateTransfers 2 1 8,
    .startEndlessTransfers 1, .startEndlessTransfers 2]

theorem pipes_independent_example : ∃ s, Reachable s ∧ isAllocated 1 s = true ∧
    isAllocated 2 s = true ∧
    Machine.run backend.step [.handleEvents 2, .handleFinishedTransfer 1 allOutputs] s =
      Machine.run backend.step [.handleEvents 1, .handleFinishedTransfer 1 allOutputs] s := by
  have passes : Machine.passes backend.step sharedEvents (exampleSystem fun _ => promptTurn)
      (fun _ s => isAllocated 1 s && isAllocated 2 s) = true := by decide +kernel
  obtain ⟨rs, s, run, test⟩ := Machine.run_of_passes passes
  rw [Bool.and_eq_true] at test
  have reach : Reachable s := ⟨_, _, _, _, exampleSystem_initial _, run⟩
  obtain ⟨P, hp, _⟩ := array_of_isAllocated test.1
  obtain ⟨Q, hq, _⟩ := array_of_isAllocated test.2
  refine ⟨s, reach, test.1, test.2, (pipes_independent reach).2.2.1 _ _ ?_⟩
  refine ⟨.inr ⟨1, 2, rfl, rfl, by rw [hp]; rfl, by rw [hq]; rfl⟩, fun r s' _ => ?_⟩
  exact ⟨.inl rfl, fun _ _ _ => trivial⟩

end Libusbp.Linux
