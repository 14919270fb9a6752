import Libusbp.PipeQueue

/-!
# A cancelled pipe drains

Once `cancel_transfers` was called, and as long as `start_endless_transfers` is not, nothing is
submitted and the number of pending transfers never grows (`Stopped`). When moreover none of the
transfers is pending in the operating system (`Drained`), every call of `handle_finished_transfer`
reports one of the pending transfers until none is left.
-/

namespace Libusbp

open Prog Heap

variable {τ κ α γ : Type} {B : Backend τ κ α γ} {h : Handle} {C : Contract B h}
  {s s₁ s' : Sys τ κ α γ} {p : Addr} {P P' : Pipe} {e : Event} {r : Reply}

/-- The pipe at `p`, if it is still open, submitted nothing since it was `P` in `s`, has no more
pending transfers than then, and submits none again. -/
structure Stopped (C : Contract B h) (s : Sys τ κ α γ) (p : Addr) (P : Pipe)
    (s₁ : Sys τ κ α γ) : Prop where
  sysInv : SysInv C s₁
  used : p < s₁.dev.heap.next
  endless : ∀ P₁, s₁.pipes p = some P₁ → P₁.endlessTransfersEnabled = false
  count : ∀ P₁, s₁.pipes p = some P₁ → P₁.pendingCount ≤ P.pendingCount
  pushes : ∀ P₁, s₁.pipes p = some P₁ → Fifo.pushes (queueOps P₁.transfers s₁.dev.calls) =
    Fifo.pushes (queueOps P.transfers s.dev.calls)

lemma Stopped.init (inv : SysInv C s) (hp : s.pipes p = some P)
    (endless : P.endlessTransfersEnabled = false) : Stopped C s p P s := by
  have self : ∀ {P₁}, s.pipes p = some P₁ → P₁ = P := by
    intro P₁ hp₁
    rw [hp] at hp₁
    cases hp₁
    rfl
  refine ⟨inv, inv.fresh p P hp, ?_, ?_, ?_⟩
  · intro P₁ hp₁
    rw [self hp₁]
    exact endless
  · intro P₁ hp₁
    rw [self hp₁]
  · intro P₁ hp₁
    rw [self hp₁]

/-- A pipe that does not resubmit keeps its submissions and loses at most one pending transfer. -/
lemma PipeStep.stopped (al : Allocated C.view s.dev P) (step : PipeStep C s p P e r s' P')
    (endless : P.endlessTransfersEnabled = false) (no : e ≠ .startEndlessTransfers p) :
    P'.endlessTransfersEnabled = false ∧ P'.pendingCount ≤ P.pendingCount ∧
      Fifo.pushes (queueOps P.transfers s'.dev.calls) =
        Fifo.pushes (queueOps P.transfers s.dev.calls) := by
  cases step with
  | keep _ _ _ ops => exact ⟨endless, Nat.le_refl _, by rw [ops]⟩
  | cancel _ ops => exact ⟨rfl, Nat.le_refl _, by rw [ops]⟩
  | start eq => exact absurd eq no
  | idle _ _ _ ops => exact ⟨endless, Nat.le_refl _, by rw [ops]⟩
  | @finish _ _ t _ _ _ _ queue ops _ _ last =>
    rw [if_neg (by rw [endless]; decide)] at last
    obtain ⟨rfl, calls⟩ := last
    have mem : t ∈ P.transfers := by
      apply al.queue_subset
      rw [queue]
      exact List.mem_cons_self
    refine ⟨endless, Nat.sub_le _ _, ?_⟩
    rw [calls, queueOps_cons_results mem, ← ops P.transfers]
    rfl

/-- Every call but `start_endless_transfers` keeps a pipe stopped. -/
lemma Stopped.step (st : Stopped C s p P s₁) (no : e ≠ .startEndlessTransfers p)
    (run : B.step e s₁ = .ok (r, s')) : Stopped C s p P s' := by
  have step := step_result st.sysInv run
  have used := st.used.trans_le step.heap.next
  have sysInv := step.sysInv st.sysInv
  suffices all : ∀ P', s'.pipes p = some P' → P'.endlessTransfersEnabled = false ∧
      P'.pendingCount ≤ P.pendingCount ∧ Fifo.pushes (queueOps P'.transfers s'.dev.calls) =
        Fifo.pushes (queueOps P.transfers s.dev.calls) from
    ⟨sysInv, used, fun P' hp' => (all P' hp').1, fun P' hp' => (all P' hp').2.1,
      fun P' hp' => (all P' hp').2.2⟩
  intro P' hp'
  cases hp₁ : s₁.pipes p with
  | none =>
    -- an address that was used is not handed out again
    have fresh := ((step.closed hp₁).2 P' hp').1
    exact absurd st.used (Nat.not_lt.mpr fresh)
  | some P₁ =>
    have count := st.count P₁ hp₁
    have pushes := st.pushes P₁ hp₁
    rcases st.sysInv.cases hp₁ with ⟨pipeId, rfl, _⟩ | al
    · obtain ⟨_, nil, zero, endless⟩ := step.opened st.sysInv hp₁ hp'
      rw [Pipe.transfers_opened, queueOps_nil] at pushes
      exact ⟨endless, by rw [zero]; exact Nat.zero_le _, by rw [nil, pushes]⟩
    · have own := step.pipeStep st.sysInv hp₁ al hp'
      obtain ⟨endless, le, same⟩ := own.stopped al (st.endless P₁ hp₁) no
      exact ⟨endless, le.trans count, by rw [own.same.transfers, same, pushes]⟩

/-- Runs without `start_endless_transfers` keep a pipe stopped. -/
lemma Stopped.run {es : List Event} {rs : List Reply} (st : Stopped C s p P s₁)
    (no : .startEndlessTransfers p ∉ es) (run : Machine.run B.step es s₁ = .ok (rs, s')) :
    Stopped C s p P s' := by
  apply Machine.run_inv _ st run
  intro e mem s₂ r s₃ st₂ step
  apply st₂.step _ step
  rintro rfl
  exact no mem

/-- A call of `cancel_transfers` on an open pipe cancels it, whatever it answers. -/
lemma StepResult.cancelled (step : StepResult C s (.cancelTransfers p) r s')
    (hp : s.pipes p = some P) : Cancelled C s p P s' := by
  cases step with
  | unused about closed => exact absurd closed (Event.used hp rfl about)
  | cancelOpened hq _ c =>
    rw [hp] at hq
    cases hq
    exact c
  | cancel hq _ c =>
    rw [hp] at hq
    cases hq
    exact c

/-- A cancelled pipe is stopped, whatever the answer was. -/
lemma StepResult.cancel_stopped (inv : SysInv C s)
    (step : StepResult C s (.cancelTransfers p) r s') (hp : s.pipes p = some P) :
    Stopped C s p P s' := by
  have sysInv := step.sysInv inv
  have used := (inv.fresh p P hp).trans_le step.heap.next
  have cancelled := step.cancelled hp
  have self : ∀ {P₁}, s'.pipes p = some P₁ →
      P₁ = { P with endlessTransfersEnabled := false } := by
    intro P₁ hp₁
    rw [cancelled.after.get] at hp₁
    cases hp₁
    rfl
  refine ⟨sysInv, used, ?_, ?_, ?_⟩
  · intro P₁ hp₁
    rw [self hp₁]
  · intro P₁ hp₁
    rw [self hp₁]
  · intro P₁ hp₁
    rw [self hp₁]
    exact congrArg _ (cancelled.calls _)

/-! ## Draining -/

/-- None of the transfers `ts` is pending. -/
def Idle (C : Contract B h) (s : Sys τ κ α γ) (ts : List Addr) : Prop :=
  ∀ t ∈ ts, ∃ T, s.dev.transfers t = some T ∧ C.view.pending T = false

/-- The pipe at `p`, if it is still open, is `P` in `s` after `k` of its transfers were reported, and
none of its transfers is pending. -/
structure Drained (C : Contract B h) (p : Addr) (P : Pipe) (k : Nat) (s₁ : Sys τ κ α γ) : Prop where
  sysInv : SysInv C s₁
  used : p < s₁.dev.heap.next
  pipe : ∀ P₁, s₁.pipes p = some P₁ → P.Same P₁ ∧ P₁.endlessTransfersEnabled = false ∧
    P₁.pendingCount = P.pendingCount - k
  idle : ∀ P₁, s₁.pipes p = some P₁ → Allocated C.view s₁.dev P₁ ∧ Idle C s₁ P.transfers

lemma Drained.init (inv : SysInv C s) (hp : s.pipes p = some P)
    (al : Allocated C.view s.dev P) (endless : P.endlessTransfersEnabled = false)
    (idle : Idle C s P.transfers) : Drained C p P 0 s := by
  have self : ∀ {P₁}, s.pipes p = some P₁ → P₁ = P := by
    intro P₁ hp₁
    rw [hp] at hp₁
    cases hp₁
    rfl
  refine ⟨inv, inv.fresh p P hp, ?_, ?_⟩
  · intro P₁ hp₁
    rw [self hp₁]
    exact ⟨.refl, endless, rfl⟩
  · intro P₁ hp₁
    rw [self hp₁]
    exact ⟨al, idle⟩

lemma StayIdle.idle (st : StayIdle C.view P.transfers s.dev s'.dev)
    (idle : Idle C s P.transfers) : Idle C s' P.transfers := by
  intro t mem
  obtain ⟨T, hT, pend⟩ := idle t mem
  exact st t mem T hT pend

/-- Whether a call asks for a finished transfer of the pipe at `p`. -/
def isFinish (p : Addr) : Event → Bool
  | .handleFinishedTransfer q _ => q == p
  | _ => false

/-- What a call on a drained pipe does. -/
lemma PipeStep.drained (step : PipeStep C s p P e r s' P')
    (al : Allocated C.view s.dev P) (endless : P.endlessTransfersEnabled = false)
    (idle : Idle C s P.transfers) (no : e ≠ .startEndlessTransfers p) :
    P'.endlessTransfersEnabled = false ∧ Idle C s' P.transfers ∧
      P'.pendingCount = P.pendingCount - if isFinish p e then 1 else 0 := by
  have other : (∀ out, e ≠ .handleFinishedTransfer p out) → isFinish p e = false := by
    intro other
    cases e with
    | handleFinishedTransfer q out =>
      have ne : q ≠ p := by
        rintro rfl
        exact other out rfl
      simpa [isFinish] using ne
    | _ => rfl
  cases step with
  | keep no' _ _ _ st => exact ⟨endless, st.idle idle, by simp [other no']⟩
  | cancel eq _ st =>
    have silent : isFinish p e = false := by
      rw [eq]
      rfl
    exact ⟨rfl, st.idle idle, by simp [silent]⟩
  | start eq => exact absurd eq no
  | @idle out eq _ pending _ st =>
    -- the head of the queue is not pending, so the queue is empty
    have empty : P.pendingCount = 0 := by
      cases queue : P.queue with
      | nil => rw [← Pipe.length_queue, queue, List.length_nil]
      | cons t q =>
        have mem : t ∈ P.transfers := by
          apply al.queue_subset
          rw [queue]
          exact List.mem_cons_self
        obtain ⟨T, hT, pend⟩ := idle t mem
        have busy := pending t (by rw [queue]; rfl) T hT
        exact absurd (busy.symm.trans pend) (by decide)
    exact ⟨endless, st.idle idle, by rw [empty, Nat.zero_sub]⟩
  | @finish out _ _ _ _ eq _ _ _ _ st last =>
    rw [if_neg (by rw [endless]; decide)] at last
    obtain ⟨rfl, _⟩ := last
    have asked : isFinish p e = true := by
      rw [eq]
      exact beq_self_eq_true p
    exact ⟨endless, (st endless).idle idle, by rw [asked]; rfl⟩

/-- Every call but `start_endless_transfers` keeps a pipe drained. -/
lemma Drained.step {k : Nat} (dr : Drained C p P k s) (no : e ≠ .startEndlessTransfers p)
    (run : B.step e s = .ok (r, s')) :
    Drained C p P (k + if isFinish p e then 1 else 0) s' := by
  have step := step_result dr.sysInv run
  have sysInv := step.sysInv dr.sysInv
  suffices all : ∀ P', s'.pipes p = some P' → (P.Same P' ∧ P'.endlessTransfersEnabled = false ∧
      P'.pendingCount = P.pendingCount - (k + if isFinish p e then 1 else 0)) ∧
        Allocated C.view s'.dev P' ∧ Idle C s' P.transfers from
    ⟨sysInv, dr.used.trans_le step.heap.next, fun P' hp' => (all P' hp').1,
      fun P' hp' => (all P' hp').2⟩
  intro P' hp'
  cases hp : s.pipes p with
  | none =>
    have fresh := ((step.closed hp).2 P' hp').1
    exact absurd dr.used (Nat.not_lt.mpr fresh)
  | some P₁ =>
    obtain ⟨same, endless, count⟩ := dr.pipe P₁ hp
    obtain ⟨al, idle⟩ := dr.idle P₁ hp
    have own := step.pipeStep dr.sysInv hp al hp'
    rw [← same.transfers] at idle
    obtain ⟨endless', idle', count'⟩ := own.drained al endless idle no
    rw [same.transfers] at idle'
    refine ⟨⟨same.trans own.same, endless', ?_⟩, ?_, idle'⟩
    · rw [count', count, Nat.sub_sub]
    · rcases sysInv.cases hp' with ⟨pipeId, rfl, _⟩ | al'
      · have pos := al.pos
        rw [← own.same.transferCount] at pos
        cases pos
      · exact al'

/-- Runs without `start_endless_transfers` keep a pipe drained. -/
lemma Drained.run {es : List Event} {rs : List Reply} {k : Nat} (dr : Drained C p P k s)
    (no : .startEndlessTransfers p ∉ es) (run : Machine.run B.step es s = .ok (rs, s')) :
    Drained C p P (k + es.countP (isFinish p)) s' := by
  induction es generalizing s rs k with
  | nil =>
    cases run
    exact dr
  | cons e es ih =>
    obtain ⟨r, t, rs', he, hes, rfl⟩ := Machine.run_cons_ok run
    rw [List.mem_cons, not_or] at no
    have next := dr.step (Ne.symm no.1) he
    have last := ih next no.2 hes
    rwa [List.countP_cons, Nat.add_comm (es.countP _), ← Nat.add_assoc]

/-- A drained pipe that still has pending transfers reports one. -/
lemma Drained.report {k : Nat} {P₁ : Pipe} (dr : Drained C p P k s) (hp : s.pipes p = some P₁)
    (lt : k < P.pendingCount) (out : Outputs) : ∃ (outr : Outputs) (s' : Sys τ κ α γ),
      B.step (.handleFinishedTransfer p out) s =
        .ok (.finished none { outr with finished := out.finished.map fun _ => true }, s') := by
  obtain ⟨same, _, count⟩ := dr.pipe P₁ hp
  obtain ⟨al, idle⟩ := dr.idle P₁ hp
  obtain ⟨r, s', run, step⟩ :=
    wp_step dr.sysInv (.handleFinishedTransfer p out) (.inr fun _ _ => Event.noConfusion)
  cases step with
  | unused about closed => exact absurd closed (Event.used hp rfl about)
  | finishOpened hq _ none =>
    rw [hp] at hq
    cases hq
    exact absurd none al.array_ne_none
  | finish hq _ f =>
    rw [hp] at hq
    cases hq
    cases f with
    | finished => exact ⟨_, s', run⟩
    | idle _ _ _ _ pending =>
      have pos : P₁.pendingCount ≠ 0 := by omega
      have queue := al.queue_finished pos
      have mem := al.getD_mem al.ring.head_lt
      rw [← same.transfers] at idle
      obtain ⟨T, hT, pend⟩ := idle _ mem
      have busy := pending _ (by rw [queue]; rfl) T hT
      exact absurd (busy.symm.trans pend) (by decide)

/-! ## A pipe without pending transfers -/

/-- Without pending transfers, `handle_finished_transfer` reports nothing and does nothing. -/
lemma finish_empty (hp : s.pipes p = some P) (zero : P.pendingCount = 0) (out : Outputs) :
    B.step (.handleFinishedTransfer p out) s = .ok (.finished none (resetOutputs out), s) := by
  obtain ⟨a, s', run, rfl, rfl⟩ := @wp_finish_opened _ _ _ _ B s p P out hp zero
  rw [step_eq_exec hp rfl, Backend.exec]
  exact bind_of_ok run

lemma hasPending_empty (hp : s.pipes p = some P) (zero : P.pendingCount = 0) (b : Bool) :
    B.step (.hasPendingTransfers p (some b)) s = .ok (.pending none (some false), s) := by
  have answer : wp (Backend.asyncInPipeHasPendingTransfers (some p) (some b))
      (fun r s' => r = (none, some false) ∧ s' = s) s := by
    simp only [Backend.asyncInPipeHasPendingTransfers, wp_bind, wp_loadPipe hp, wp_pure, zero]
    exact ⟨rfl, trivial⟩
  obtain ⟨a, s', run, rfl, rfl⟩ := answer
  rw [step_eq_exec hp rfl, Backend.exec]
  exact bind_of_ok run

/-- Without pending transfers in the ring, none of the transfers of the pipe is pending. -/
lemma SysInv.idle_of_zero (inv : SysInv C s) (hp : s.pipes p = some P) (zero : P.pendingCount = 0)
    {t : Addr} (mem : t ∈ P.transfers) : ∃ T, s.dev.transfers t = some T ∧ C.view.pending T = false := by
  rcases inv.cases hp with ⟨_, rfl, _⟩ | al
  · cases mem
  · obtain ⟨T, hT, _⟩ := al.live t mem
    have nil : P.queue = [] := by
      apply List.eq_nil_of_length_eq_zero
      rw [Pipe.length_queue, zero]
    exact ⟨T, hT, al.outside t mem (by rw [nil]; exact List.not_mem_nil) T hT⟩

/-- Closing an open pipe returns. -/
lemma SysInv.wp_closed (inv : SysInv C s) (hp : s.pipes p = some P) :
    ∃ s', B.step (.close p) s = .ok (.closed, s') ∧ Closed C s p P s' := by
  obtain ⟨r, s', run, step⟩ := wp_step inv (.close p) (.inr fun _ _ => Event.noConfusion)
  cases step with
  | unused about closed => exact absurd closed (Event.used hp rfl about)
  | close hq closed =>
    rw [hp] at hq
    cases hq
    exact ⟨s', run, closed⟩

/-- Without pending transfers, closing frees every transfer with its blocks, and the pipe. -/
lemma close_empty (inv : SysInv C s) (hp : s.pipes p = some P) (zero : P.pendingCount = 0) :
    ∃ s', B.step (.close p) s = .ok (.closed, s') ∧
      (∀ t ∈ P.transfers, s'.dev.transfers t = none) ∧
      Frees (pipeBlocks p P + C.view.blocksAll s.dev.transfers P.transfers) s.dev.heap s'.dev.heap := by
  obtain ⟨s', run, c⟩ := inv.wp_closed hp
  refine ⟨s', run, ?_, ?_⟩
  · intro t mem
    obtain ⟨T, hT, idle⟩ := inv.idle_of_zero hp zero mem
    rw [c.released.transfers, release_of_idle mem hT idle]
  · apply c.frees.of_eq
    rw [closeBlocks, View.releasesAll_idle]
    intro t mem T hT
    obtain ⟨T', hT', idle⟩ := inv.idle_of_zero hp zero mem
    rw [hT] at hT'
    cases hT'
    exact idle

/-- Starting a pipe with allocated transfers fills its ring. -/
lemma start_fills (inv : SysInv C s) (hp : s.pipes p = some P) (al : Allocated C.view s.dev P) :
    ∃ s' P', B.step (.startEndlessTransfers p) s = .ok (.done none, s') ∧
      s'.pipes p = some P' ∧ P.Same P' ∧ P'.pendingCount = P'.transferCount := by
  obtain ⟨r, s', run, step⟩ :=
    wp_step inv (.startEndlessTransfers p) (.inr fun _ _ => Event.noConfusion)
  cases step with
  | unused about closed => exact absurd closed (Event.used hp rfl about)
  | startOpened hq none =>
    rw [hp] at hq
    cases hq
    exact absurd none al.array_ne_none
  | start hq _ same after _ _ full =>
    rw [hp] at hq
    cases hq
    exact ⟨s', _, run, after.get, same, full⟩

end Libusbp
