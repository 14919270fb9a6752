import Libusbp.Linux.AsyncInTransfer
import Libusbp.TransferInv

/-!
# The Linux backend meets its contract

`Inv` ties the transfers to the kernel and to the history: a transfer is pending exactly while the
kernel owns its URB, the URB leads back to its transfer, a pending transfer has no error object, and
the fields of a transfer say what became of its last submission (`Fate`).
-/

namespace Libusbp.Linux

open Prog Heap

/-- What every transfer satisfies from its creation on. -/
structure Transfer.WF (t : Addr) (T : Transfer) : Prop where
  usercontext : T.urb.usercontext = some t
  type : T.urb.type = urbTypeBulk
  endpoint : T.urb.endpoint &&& 0x80 ≠ 0
  error : ∀ e, T.error = some e → e.WF
  clean : T.pending = true → T.error = none

/-- The number of bytes that an URB reports. -/
def Urb.received (urb : Urb) : Nat := min (sizeOfInt urb.actualLength) (sizeOfInt urb.bufferLength)

/-- What the fields of a transfer say about its last submission. -/
def Fate (T : Transfer) : Option (Submission × Option Returned) → Prop
  | none => T.pending = false
  | some (⟨none, _⟩, none) => T.pending = true
  | some (⟨some _, length⟩, none) =>
    T.pending = false ∧ T.error ≠ none ∧ T.urb.actualLength = length
  | some (⟨none, _⟩, some ⟨c, _, _⟩) =>
    T.pending = false ∧ (T.error = none ↔ c.status = 0 ∧ c.errorCount = 0) ∧
      T.urb.actualLength = c.actualLength ∧ ∀ i < T.urb.received, T.urb.buffer.val i = c.data i
  | some (⟨some _, _⟩, some _) => False

/-- The buffer with its size, the error and the pending flag of a transfer. -/
def view : View Transfer where
  buffer T := some T.urb.buffer.loc
  error T := T.error
  size T := sizeOfInt T.urb.bufferLength
  pending T := T.pending

/-- A transfer is pending exactly while its last submission was accepted and not given back. -/
lemma Fate.pending_iff {T : Transfer} {last : Option (Submission × Option Returned)}
    (fate : Fate T last) :
    T.pending = true ↔ ∃ a, last = some (a, none) ∧ a.errno.isNone = true := by
  have idle : T.pending = false → ¬T.pending = true := fun idle pend => by
    rw [idle] at pend
    cases pend
  match last, fate with
  | none, fate => exact ⟨fun pend => absurd pend (idle fate), fun ⟨_, eq, _⟩ => by cases eq⟩
  | some (⟨none, length⟩, none), fate => exact ⟨fun _ => ⟨_, rfl, rfl⟩, fun _ => fate⟩
  | some (⟨some _, _⟩, none), fate =>
    refine ⟨fun pend => absurd pend (idle fate.1), ?_⟩
    rintro ⟨_, ⟨⟩, ⟨⟩⟩
  | some (⟨none, _⟩, some _), fate =>
    refine ⟨fun pend => absurd pend (idle fate.1), ?_⟩
    rintro ⟨_, ⟨⟩, _⟩

/-- What the invariant of the backend is about. Every URB is given back to a transfer that is pending
and has no error. -/
abbrev transferSpec : TransferSpec Transfer Kernel Submission Returned where
  view := view
  wf := Transfer.WF
  inFlight := Kernel.inFlight
  outstanding a := a.errno.isNone
  fate := Fate
  completion r := r.pending = true ∧ r.error = none
  pending_iff := Fate.pending_iff

/-- The invariant of the transfers and the kernel. -/
abbrev Inv : Dev → Prop := TransferInv transferSpec

/-- What the results read out of a transfer have to do with its last submission: they are read from
a struct that says what became of it. -/
def Report (calls : List (Call Submission Returned)) (t : Addr) (size : Nat)
    (out outr : Outputs) : Prop :=
  ∃ T, Fate T (lastSubmission t calls) ∧ T.pending = false ∧ sizeOfInt T.urb.bufferLength = size ∧
    outr.transferred = out.transferred.map (fun _ => T.urb.received) ∧
    outr.buffer = out.buffer.map (fun buffer => memcpy buffer T.urb.buffer.val T.urb.received) ∧
    outr.transferError.isSome = out.transferError.isSome ∧
    ∀ error, outr.transferError = some error → (error = none ↔ T.error = none)

variable {d d' : Dev} {t : Addr} {T : Transfer}

lemma wp_loadTransfer (hT : d.transfers t = some T) {Q : Transfer → Dev → Prop} :
    wp (loadTransfer t) Q d ↔ Q T d := by
  simp only [loadTransfer, wp_bind, wp_get, wp_expect, hT, Option.some.injEq, exists_eq_left']

/-- The kernel answers every `ioctl`. -/
lemma wp_ioctl {fd : Int} {Q : Turn → Dev → Prop}
    (post : ∀ turn, Q turn { d with kernel := { d.kernel with ioctls := d.kernel.ioctls + 1 } }) :
    wp (ioctl fd) Q d := by
  simp only [ioctl, wp_bind, wp_get, wp_set]
  apply wp_ite
  · intro _
    rw [wp_pure]
    exact post _
  · intro _
    rw [wp_pure]
    exact post _

lemma wp_createErrno {errorCode : Int} {format : String} {Q : Option Error → Dev → Prop}
    (post : ∀ e h', e.WF → Le d.heap h' → Q (some e) { d with heap := h' }) :
    wp (createErrno errorCode format) Q d := by
  simp only [createErrno, wp_bind, wp_get]
  exact wp_onHeap_made (made_createErrno _ _ _ _) post

/-! ## Submitting -/

/-- A submission keeps the invariant, whatever the kernel answers. -/
lemma wp_submit (inv : Inv d) (hT : d.transfers t = some T) (idle : T.pending = false) :
    wp (asyncInTransferSubmit (some t)) (fun _ d' => Inv d' ∧ Le d.heap d'.heap ∧
      (∃ a, d'.calls = .submit t a :: d.calls) ∧ ∃ T', view.area T' = view.area T ∧
        d'.transfers = Function.update d.transfers t (some T')) d := by
  have wf := inv.wf t T hT
  simp only [asyncInTransferSubmit, wp_bind, wp_loadTransfer hT, wp_check, onHeap, wp_zoom]
  refine ⟨by simp [idle], ?_⟩
  apply wp_errorFree
  intro h₁ le₁ _
  simp only [storeTransfer, wp_modify, usbfdSubmitUrb, wp_bind]
  rw [wp_loadTransfer (Function.update_self ..)]
  apply wp_ioctl
  intro turn
  simp only
  cases answer : turn.errno with
  | none =>
    simp only [acceptUrb, wp_bind, wp_modify, wp_pure]
    refine ⟨?_, le₁, ⟨_, rfl⟩, { T with error := none, pending := true }, rfl, rfl⟩
    apply inv.submit hT idle le₁ rfl _ _ rfl rfl
    · exact ⟨wf.usercontext, wf.type, wf.endpoint, by rintro _ ⟨⟩, fun _ => rfl⟩
    · rfl
  | some errno =>
    apply wp_createErrno
    intro e h₂ wf₂ le₂
    simp only [wp_bind]
    rw [wp_loadTransfer (Function.update_self ..)]
    simp only [wp_modify, Function.update_idem]
    have le := le₁.trans le₂
    refine ⟨?_, le, ⟨_, rfl⟩, { T with error := some e, pending := false }, rfl, rfl⟩
    -- a refused submission is not in flight, and its transfer holds the error
    apply inv.submit hT idle le rfl _ _ rfl rfl
    · refine ⟨wf.usercontext, wf.type, wf.endpoint, ?_, fun pend => by cases pend⟩
      rintro _ ⟨⟩
      exact wf₂
    · exact ⟨rfl, Option.some_ne_none e, rfl⟩

/-! ## Handling events -/

/-- The error of a completion is null exactly if the URB has no error. -/
lemma wp_completionError (urb : Urb) {Q : Option Error → Dev → Prop}
    (post : ∀ r h', (∀ e, r = some e → e.WF) → Le d.heap h' →
      (r = none ↔ urb.status = 0 ∧ urb.errorCount = 0) → Q r { d with heap := h' }) :
    wp (completionError urb) Q d := by
  have failed : ∀ {r h'}, Made d.heap r h' → ¬(urb.status = 0 ∧ urb.errorCount = 0) →
      Q r { d with heap := h' } := by
    rintro r h' ⟨e, rfl, wf, le⟩ no
    apply post _ h' _ le
    · exact ⟨fun none => absurd none (Option.some_ne_none e), fun yes => absurd yes no⟩
    · rintro _ ⟨⟩
      exact wf
  simp only [completionError, wp_bind, wp_get, onHeap, wp_zoom]
  apply wp_mono (wp_errorFromUrbStatus _ _ _)
  intro r h₁ result
  -- the status comes first, the count of failed packets only behind a good status
  by_cases ok : urb.status = 0
  · rw [if_pos ok] at result
    obtain ⟨rfl, rfl⟩ := result
    apply wp_ite
    · intro count
      simp only [wp_bind, wp_zoom]
      apply wp_mono (made_create _ _)
      intro r₂ h₂ m₂
      apply wp_mono (m₂.add _)
      exact fun r₃ h₃ m₃ => failed m₃ fun yes => count yes.2
    · intro count
      rw [wp_pure]
      apply post none d.heap (by rintro _ ⟨⟩) (Le.refl _)
      exact ⟨fun _ => ⟨ok, not_not.mp count⟩, fun _ => rfl⟩
  · rw [if_neg ok] at result
    obtain ⟨e, rfl, wf, le⟩ := result
    simp only [wp_zoom]
    have m : Made d.heap (some e) h₁ := ⟨e, rfl, wf, le⟩
    apply wp_mono (m.add _)
    exact fun r₂ h₂ m₂ => failed m₂ fun yes => ok yes.1

/-- The device after the kernel gave back the URB of `t`, where the struct `T` was found. -/
def Dev.gaveBack (d : Dev) (t : Addr) (T : Transfer) (c : Completion) : Dev :=
  { d with
    transfers := Function.update d.transfers t (some { T with urb := T.urb.returned c })
    kernel := { d.kernel with inFlight := d.kernel.inFlight.erase t }
    calls := .complete t ⟨c, T.pending, T.error⟩ :: d.calls }

/-- Nothing happened but calls to the kernel and allocations. -/
structure Quiet (d d' : Dev) : Prop where
  inv : Inv d'
  heap : Le d.heap d'.heap
  transfers : d'.transfers = d.transfers
  calls : d'.calls = d.calls
  inFlight : d'.kernel.inFlight = d.kernel.inFlight

lemma Quiet.ioctl (inv : Inv d) (n : Nat) :
    Quiet d { d with kernel := { d.kernel with ioctls := n } } :=
  ⟨inv.same (Le.refl _) rfl, Le.refl _, rfl, rfl, rfl⟩

lemma Quiet.onHeap {h : Heap} (q : Quiet d d') (le : Le d'.heap h) :
    Quiet d { d' with heap := h } :=
  ⟨q.inv.heap le, q.heap.trans le, q.transfers, q.calls, q.inFlight⟩

/-- What `usbfd_reap_urb` can do. -/
inductive ReapResult (d : Dev) : Option Error × Option Addr → Dev → Prop where
  | failed {e : Error} {d' : Dev} : Quiet d d' → ReapResult d (some e, none) d'
  | nothing {d' : Dev} : Quiet d d' → ReapResult d (none, none) d'
  | reaped {t : Addr} {T : Transfer} {c : Completion} {d₁ : Dev} : Quiet d d₁ →
    d₁.transfers t = some T → t ∈ d₁.kernel.inFlight →
    ReapResult d (none, some t) (d₁.gaveBack t T c)

lemma wp_reapUrb (inv : Inv d) (fd : Int) : wp (usbfdReapUrb fd) (ReapResult d) d := by
  simp only [usbfdReapUrb, wp_bind]
  apply wp_ioctl
  intro turn
  simp only [wp_get]
  cases turn.errno with
  | some errno =>
    apply wp_ite
    · intro _
      rw [wp_pure]
      exact .nothing (.ioctl inv _)
    · intro _
      rw [wp_bind]
      apply wp_createErrno
      intro e h' _ le
      rw [wp_pure]
      exact .failed ((Quiet.ioctl inv _).onHeap le)
  | none =>
    cases pick : d.kernel.inFlight[turn.pick]? with
    | none =>
      rw [wp_pure]
      exact .nothing (.ioctl inv _)
    | some t =>
      have mem := List.mem_of_getElem? pick
      obtain ⟨T, hT, _⟩ := (inv.owned t).mp mem
      simp only [returnUrb, storeTransfer, wp_bind]
      -- what the kernel has in flight belongs to a transfer that is alive
      refine (wp_loadTransfer (T := T) ?_).mpr ?_
      · exact hT
      simp only [wp_modify, wp_pure]
      exact .reaped (c := turn.completion) (.ioctl inv (d.kernel.ioctls + 1)) hT mem

/-- The URB of `t` was given back and handled: nothing else changed than what the kernel writes to
the URB and its buffer, the pending flag and the error of `t`. -/
structure Handled (d : Dev) (t : Addr) (T : Transfer) (c : Completion) (d' : Dev) : Prop where
  inv : Inv d'
  heap : Le d.heap d'.heap
  transfers : ∃ error, d'.transfers = Function.update d.transfers t
    (some { T with urb := T.urb.returned c, pending := false, error := error })
  calls : d'.calls = .complete t ⟨c, T.pending, T.error⟩ :: d.calls
  inFlight : d'.kernel.inFlight = d.kernel.inFlight.erase t

/-- The received bytes of a returned URB are those of the completion. -/
lemma Urb.returned_val {urb : Urb} {c : Completion} {i : Nat}
    (lt : i < (urb.returned c).received) : (urb.returned c).buffer.val i = c.data i :=
  if_pos lt

/-- A completed URB is always recognized, and its transfer is the one that submitted it. -/
lemma wp_recognized (wf : T.WF t) (c : Completion) {Q : Option Error → Dev → Prop}
    (post : ∀ error h', (∀ e, error = some e → e.WF) → Le d.heap h' →
      (error = none ↔ c.status = 0 ∧ c.errorCount = 0) → Q none { d.gaveBack t T c with
        heap := h'
        transfers := Function.update d.transfers t
          (some { T with urb := T.urb.returned c, pending := false, error := error }) }) :
    wp (handleCompletedUrb t) Q (d.gaveBack t T c) := by
  have load : (d.gaveBack t T c).transfers t = some { T with urb := T.urb.returned c } :=
    Function.update_self ..
  have bulk : (T.urb.returned c).type = urbTypeBulk ∧ (T.urb.returned c).endpoint &&& 0x80 ≠ 0 :=
    ⟨wf.type, wf.endpoint⟩
  have user : (T.urb.returned c).usercontext = some t := wf.usercontext
  simp only [handleCompletedUrb, wp_bind]
  rw [wp_loadTransfer load]
  simp only [user, if_pos bulk, wp_bind, asyncInTransferHandleCompletion, wp_pure]
  rw [wp_loadTransfer load]
  apply wp_completionError
  intro error h' wf' le noError
  refine (wp_loadTransfer (T := { T with urb := T.urb.returned c }) ?_).mpr ?_
  · exact load
  simp only [storeTransfer, wp_modify, Dev.gaveBack, Function.update_idem]
  exact post error h' wf' le noError

/-- What is done with a completed URB keeps the invariant. -/
lemma wp_handleCompletedUrb (inv : Inv d) (hT : d.transfers t = some T)
    (mem : t ∈ d.kernel.inFlight) (c : Completion) :
    wp (handleCompletedUrb t) (fun r d' => r = none ∧ Handled d t T c d') (d.gaveBack t T c) := by
  have wf := inv.wf t T hT
  have pend := (inv.mem_inFlight hT).mp mem
  apply wp_recognized wf
  intro error h' wf' le noError
  refine ⟨rfl, ?_, le, ⟨error, rfl⟩, rfl, rfl⟩
  apply inv.complete hT pend le rfl _ _ ⟨pend, wf.clean pend⟩ rfl rfl
  · exact ⟨wf.usercontext, wf.type, wf.endpoint, wf', fun pend => by cases pend⟩
  · rintro ⟨errno, length⟩ accepted _
    cases errno with
    | none => exact ⟨rfl, noError, rfl, fun i lt => Urb.returned_val lt⟩
    | some errno => cases accepted

/-- URBs are given back and handled one after another. -/
inductive Reaped (d : Dev) : Dev → Prop where
  | refl : Reaped d d
  | quiet {d₁ d₂ : Dev} : Reaped d d₁ → Quiet d₁ d₂ → Reaped d d₂
  | handled {d₁ d₂ : Dev} {t : Addr} {T : Transfer} {c : Completion} : Reaped d d₁ →
    d₁.transfers t = some T → t ∈ d₁.kernel.inFlight →
    handleCompletedUrb t (d₁.gaveBack t T c) = .ok (none, d₂) → Handled d₁ t T c d₂ → Reaped d d₂

/-- A round of the loop ends it, or handles one more URB. -/
lemma wp_reapAndHandle (inv : Inv d) (fd : Int) : wp (reapAndHandle fd) (fun r d' => match r with
    | some _ => Quiet d d'
    | none => ∃ d₁ t T c, Quiet d d₁ ∧ d₁.transfers t = some T ∧ t ∈ d₁.kernel.inFlight ∧
      handleCompletedUrb t (d₁.gaveBack t T c) = .ok (none, d') ∧ Handled d₁ t T c d') d := by
  simp only [reapAndHandle, wp_bind]
  apply wp_mono (wp_reapUrb inv fd)
  intro r d₁ result
  cases result with
  | failed q =>
    rw [wp_pure]
    exact q
  | nothing q =>
    rw [wp_pure]
    exact q
  | @reaped t T c d₁ q hT mem =>
    obtain ⟨_, d₂, run, rfl, handled⟩ := wp_handleCompletedUrb q.inv hT mem c
    simp only [wp_bind]
    exact ⟨none, d₂, run, wp_pure.mpr ⟨d₁, t, T, c, q, hT, mem, run, handled⟩⟩

lemma Reaped.inv (r : Reaped d d') (inv : Inv d) : Inv d' := by
  cases r with
  | refl => exact inv
  | quiet _ q => exact q.inv
  | handled _ _ _ _ h => exact h.inv

/-- The loop ends because every round but the last leaves the kernel fewer URBs. -/
lemma wp_events (inv : Inv d) (handle : Handle) :
    wp (genericHandleEvents (some handle)) (fun _ d' => Reaped d d') d := by
  simp only [genericHandleEvents, wp_bind, wp_get]
  apply wp_loop (Reaped d) fun d₁ => d₁.kernel.inFlight.length
  · intro d₁ r
    apply wp_mono (wp_reapAndHandle (r.inv inv) _)
    intro result d₂ h
    cases result with
    | some error => exact r.quiet h
    | none =>
      obtain ⟨d₁', t, T, c, q, hT, mem, run, handled⟩ := h
      refine ⟨(r.quiet q).handled hT mem run handled, ?_⟩
      have pos : 0 < d₁'.kernel.inFlight.length := List.length_pos_of_mem mem
      rw [handled.inFlight, List.length_erase_of_mem mem, ← q.inFlight]
      exact Nat.sub_lt pos Nat.one_pos
  · exact Nat.lt_succ_self _
  · exact .refl

/-- Whatever is reaped, no transfer dies, changes its size or becomes pending, and no queue operation
happens. -/
lemma Reaped.touches (r : Reaped d d') : Touches view [] d d' := by
  induction r with
  | refl => exact Touches.refl
  | quiet _ q ih =>
    apply ih.trans
    apply Touches.of_same q.heap q.transfers
    intro us
    rw [q.calls]
  | @handled d₁ d₂ t T c _ hT _ _ h ih =>
    apply ih.trans
    obtain ⟨error, transfers⟩ := h.transfers
    refine ⟨h.heap, ?_, ?_⟩
    · intro u _ U hU
      by_cases e : u = t
      · subst e
        rw [hT] at hU
        cases hU
        refine ⟨{ T with urb := T.urb.returned c, pending := false, error := error }, ?_, rfl, fun _ => rfl⟩
        rw [transfers, Function.update_self]
      · exact ⟨U, by rw [transfers, Function.update_of_ne e, hU], rfl, id⟩
    · intro us _
      rw [h.calls, queueOps_cons_complete]

/-! ## Results, polling, cancelling -/

/-- The clamp of `async_in_transfer_get_results`. -/
lemma clamp_eq_received {urb : Urb} :
    (if sizeOfInt urb.actualLength > sizeOfInt urb.bufferLength then sizeOfInt urb.bufferLength
      else sizeOfInt urb.actualLength) = urb.received := by
  unfold Urb.received
  split
  · rename_i gt
    exact (min_eq_right gt.le).symm
  · rename_i le
    exact (min_eq_left (not_lt.mp le)).symm

lemma wp_getResults {out : Outputs} (inv : Inv d) (hT : d.transfers t = some T)
    (idle : T.pending = false) :
    wp (asyncInTransferGetResults (some t) out) (fun r d' =>
      r.1 = none ∧ r.2.finished = out.finished ∧ Inv d' ∧ Le d.heap d'.heap ∧
        d'.transfers = d.transfers ∧ d'.calls = .results t r.2 :: d.calls ∧
          Report d.calls t (view.size T) out r.2) d := by
  have wf := inv.wf t T hT
  have fate := inv.fate t T hT
  simp only [asyncInTransferGetResults, wp_bind, wp_loadTransfer hT, wp_check, clamp_eq_received]
  refine ⟨by simp [idle], ?_⟩
  cases te : out.transferError with
  | none =>
    simp only [wp_bind, wp_modify, wp_pure]
    refine ⟨trivial, trivial, inv.results (Le.refl _) hT idle, Le.refl _, trivial,
      trivial, ?_⟩
    refine ⟨T, fate, idle, rfl, rfl, rfl, ?_, ?_⟩
    · rw [te]
    · intro error eq
      cases eq
  | some slot =>
    simp only [onHeap, wp_bind, wp_zoom, wp_modify, wp_pure]
    apply wp_errorCopy wf.error
    intro r h' le copied
    refine ⟨trivial, trivial, inv.results le hT idle, le, trivial, trivial, ?_⟩
    refine ⟨T, fate, idle, rfl, rfl, rfl, ?_, ?_⟩
    · rw [te]
      rfl
    · rintro error ⟨⟩
      exact copied

lemma wp_pending (hT : d.transfers t = some T) {Q : Bool → Dev → Prop} :
    wp (asyncInTransferPending (some t)) Q d ↔ Q T.pending d := by
  simp only [asyncInTransferPending, wp_bind, wp_loadTransfer hT, wp_pure]

lemma wp_cancel (inv : Inv d) (hT : d.transfers t = some T) :
    wp (asyncInTransferCancel (some t)) (fun _ d' => Quiet d d') d := by
  simp only [asyncInTransferCancel, wp_bind, wp_loadTransfer hT, usbfdDiscardUrb]
  apply wp_ioctl
  intro turn
  cases turn.errno with
  | none =>
    rw [wp_pure]
    exact .ioctl inv _
  | some errno =>
    apply wp_ite
    · intro _
      rw [wp_pure]
      exact .ioctl inv _
    · intro _
      apply wp_createErrno
      intro e h' _ le
      exact (Quiet.ioctl inv _).onHeap le

/-! ## Memory -/

/-- The heap calls by which a transfer is freed: its error, its buffer and the struct. -/
lemma wp_free_idle (hT : d.transfers t = some T) (idle : T.pending = false)
    {Q : Unit → Dev → Prop}
    (post : ∀ h', Frees (view.blocks t T) d.heap h' →
      Q () { d with heap := h', transfers := Function.update d.transfers t none }) :
    wp (asyncInTransferFree (some t)) Q d := by
  simp only [asyncInTransferFree, wp_bind, wp_loadTransfer hT, idle]
  apply wp_ite (fun pend => by cases pend)
  intro _
  simp only [wp_bind, onHeap, wp_zoom]
  apply errorFree_frees
  intro h₁ error
  apply Frees.wp_free
  intro h₂ buffer
  simp only [freeTransfer, wp_bind]
  refine (wp_loadTransfer (T := T) ?_).mpr ?_
  · exact hT
  simp only [wp_modify, onHeap, wp_zoom]
  apply Frees.wp_free
  intro h₃ struct
  apply post
  exact ((error.trans buffer).trans struct).of_eq (Estate.blocks_freed (E := view.toEstate) (T := T))

/-- A pending transfer is not freed. -/
lemma wp_free_pending (hT : d.transfers t = some T) (pend : T.pending = true)
    {Q : Unit → Dev → Prop} (post : Q () d) : wp (asyncInTransferFree (some t)) Q d := by
  simp only [asyncInTransferFree, wp_bind, wp_loadTransfer hT]
  apply wp_ite
  · intro _
    rwa [wp_pure]
  · exact fun no => absurd pend no

lemma sizeOfInt_natCast {n : Nat} (le : n ≤ intMax) : sizeOfInt n = n := by
  unfold sizeOfInt
  rw [Int.emod_eq_of_lt (Int.natCast_nonneg n)]
  · rfl
  · unfold intMax at le
    omega

lemma wp_create {handle : Handle} {pipeId : UInt8} {size : Nat} (inv : Inv d)
    (input : pipeId &&& 0x80 ≠ 0) (pos : size ≠ 0) :
    wp (asyncInTransferCreate (some handle) pipeId size) (fun r d' =>
      Inv d' ∧ Le d.heap d'.heap ∧ d'.calls = d.calls ∧
        match r with
        | .error error => error.WF ∧ d'.transfers = d.transfers
        | .ok t => d.heap.next ≤ t ∧ t < d'.heap.next ∧ ∃ T,
          view.size T = size ∧ view.Buffered d'.heap T ∧ view.pending T = false ∧
            d'.transfers = Function.update d.transfers t (some T)) d := by
  simp only [asyncInTransferCreate, wp_bind, wp_check]
  refine ⟨by simpa using pos, ?_⟩
  apply wp_ite
  · intro _
    rw [wp_bind]
    apply wp_onHeap_made (made_create _ _)
    intro e h₁ wf le
    simp only [wp_bind, wp_expect, Option.some.injEq, exists_eq_left', wp_pure]
    exact ⟨inv.heap le, le, trivial, wf, trivial⟩
  intro small
  simp only [wp_bind, onHeap, wp_zoom]
  apply wp_calloc
  · intro h₁ le₁ next₁ _
    simp only [wp_bind, wp_zoom]
    apply wp_malloc_sized
    · intro h₂ le₂ next₂ block
      simp only [wp_bind, wp_get, storeTransfer, wp_modify, wp_pure]
      have le := le₁.trans le₂
      have lt : d.heap.next < h₂.next := by omega
      have fits : sizeOfInt size = size := sizeOfInt_natCast (Nat.le_of_not_gt small)
      refine ⟨?_, le, trivial, Nat.le_refl _, lt, _, ?_, ⟨h₁.next, ?_, ?_⟩, ?_, rfl⟩
      · refine inv.create le lt (Nat.le_refl _) rfl ?_ ?_ rfl rfl
        · exact ⟨rfl, rfl, input, by rintro _ ⟨⟩, fun pend => by cases pend⟩
        · rfl
      · exact fits
      · rfl
      · show .alloc h₁.next (sizeOfInt size) ∈ h₂.calls
        rw [fits]
        exact block
      · rfl
    · intro h₂ le₂
      simp only [wp_bind, wp_zoom, wp_pure]
      apply wp_free_le
      intro h₃ le₃
      have le := le₁.trans (le₂.trans le₃)
      exact ⟨inv.heap le, le, trivial, errorNoMemory_wf, trivial⟩
  · intro h₁ le₁
    simp only [wp_pure]
    exact ⟨inv.heap le₁, le₁, trivial, errorNoMemory_wf, trivial⟩

/-- The Linux backend meets its contract. -/
def contract (handle : Handle) : Contract backend handle where
  view := view
  Inv := Inv
  Report := Report
  Poll _ calls calls' := calls' = calls
  poll := Or.inl
  heap := TransferInv.heap
  liveFresh inv hT := inv.fresh _ _ hT
  callFresh inv mem := inv.callFresh _ mem
  setup inv := wp_pure.mpr ⟨inv, Le.refl _, rfl, rfl, by rintro _ ⟨⟩⟩
  create := wp_create
  freeNull := wp_pure.mpr rfl
  free := by
    intro d t T inv hT
    cases pend : T.pending with
    | true =>
      apply wp_free_pending hT pend
      refine ⟨inv, Frees.of_eq (.refl _) ?_, rfl, (if_pos pend).symm⟩
      exact (if_pos pend).symm
    | false =>
      apply wp_free_idle hT pend
      intro h' freed
      have no : ¬T.pending = true := by
        rw [pend]
        exact Bool.false_ne_true
      exact ⟨inv.remove hT pend freed.le rfl, freed.of_eq (if_neg no).symm, rfl, (if_neg no).symm⟩
  submit := wp_submit
  pending := by
    intro d t T inv hT
    apply (wp_pending hT).mpr
    exact ⟨inv, Le.refl _, rfl, T, rfl, rfl, id, by rw [← hT, Function.update_eq_self]⟩
  getResults := wp_getResults
  cancel := by
    intro d t T inv hT
    apply wp_mono (wp_cancel inv hT)
    intro _ d' q
    exact ⟨q.inv, q.heap, q.transfers, fun us => by rw [q.calls]⟩
  events := by
    intro d inv
    apply wp_mono (wp_events inv handle)
    intro _ d' r
    exact ⟨r.inv inv, r.touches⟩

end Libusbp.Linux
