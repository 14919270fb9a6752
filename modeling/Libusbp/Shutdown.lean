import Libusbp.Linux.Pipes
import Libusbp.Reports

/-!
# Rings and their shutdown on every system

What `async_in_pipe.c` keeps of a ring rests on the contract of a backend alone, so it holds on every
system. `RingKept` is the representation invariant. After `cancel_transfers`, and as long as
`start_endless_transfers` is not called, every finished report takes one pending transfer away and
nothing else changes their number (`Reported`), until the pipe is `Emptied`.
-/

namespace Libusbp

open Prog Heap

variable {τ κ α γ : Type} {B : Backend τ κ α γ} {h : Handle} {C : Contract B h}
  {s s₁ s₂ s' : Sys τ κ α γ} {p : Addr} {P P₁ P₂ : Pipe} {e : Event} {r : Reply}

/-! ## The ring -/

/-- The representation invariant of the ring of a pipe with allocated transfers. -/
structure RingKept (v : View τ) (s : Sys τ κ α γ) (P : Pipe) : Prop where
  nextFinish_lt : P.nextFinish < P.transferCount
  nextSubmit_lt : P.nextSubmit < P.transferCount
  pendingCount_le : P.pendingCount ≤ P.transferCount
  nextSubmit_eq : P.nextSubmit = (P.nextFinish + P.pendingCount) % P.transferCount
  outside : ∃ l slots, P.transferArray = some ⟨l, slots⟩ ∧ slots.length = P.transferCount ∧
    ∀ i < P.transferCount, i ∉ Circular.window P.transferCount P.nextFinish P.pendingCount →
      ∃ t T, slots[i]? = some (some t) ∧ s.dev.transfers t = some T ∧ v.pending T = false
  endless : P.endlessTransfersEnabled = true → P.pendingCount = P.transferCount

/-- A slot of the array that is not in the window holds a transfer that is not pending. -/
lemma Allocated.slot_outside {v : View τ} (al : Allocated v s.dev P) {i : Nat}
    (lt : i < P.transferCount)
    (nm : i ∉ Circular.window P.transferCount P.nextFinish P.pendingCount) :
    ∃ t T, (P.transfers.map some)[i]? = some (some t) ∧ s.dev.transfers t = some T ∧
      v.pending T = false := by
  have mem := al.getD_mem lt
  obtain ⟨T, hT, _⟩ := al.live _ mem
  refine ⟨_, T, ?_, hT, al.outside _ mem (al.getD_notMem_queue lt nm) T hT⟩
  rw [al.count] at lt
  rw [List.getElem?_map, List.getElem?_eq_getElem lt, List.getD_eq_getElem _ _ lt]
  rfl

lemma SysInv.ringKept (inv : SysInv C s) (hp : s.pipes p = some P)
    (al : Allocated C.view s.dev P) : RingKept C.view s P where
  nextFinish_lt := al.ring.head_lt
  nextSubmit_lt := al.ring.tail_lt
  pendingCount_le := al.ring.count_le
  nextSubmit_eq := al.ring.tail_eq
  outside := by
    obtain ⟨l, hl⟩ := al.array
    refine ⟨l, _, hl, by rw [List.length_map, al.count], ?_⟩
    exact fun i lt nm => al.slot_outside lt nm
  endless := inv.full hp al

/-- What holds of a pipe with allocated transfers: its ring is as it should be, no call that is admitted
fails an assertion, and `start_endless_transfers` fills the ring. -/
structure RingWorks (B : Backend τ κ α γ) (v : View τ) (s : Sys τ κ α γ) (p : Addr) (P : Pipe) :
    Prop where
  kept : RingKept v s P
  returns : ∀ e, B.Admits e s → ∃ r s', B.step e s = .ok (r, s')
  fills : ∃ s' P', B.step (.startEndlessTransfers p) s = .ok (.done none, s') ∧
    s'.pipes p = some P' ∧ P'.pendingCount = P'.transferCount ∧ P'.transferCount = P.transferCount

lemma SysInv.ringWorks (inv : SysInv C s) (hp : s.pipes p = some P)
    (array : P.transferArray ≠ none) : RingWorks B C.view s p P := by
  have al := inv.allocated hp array
  refine ⟨inv.ringKept hp al, ?_, ?_⟩
  · intro e admitted
    obtain ⟨r, s', run, _⟩ := wp_step inv e admitted
    exact ⟨r, s', run⟩
  · obtain ⟨s', P', run, hp', same, full⟩ := start_fills inv hp al
    exact ⟨s', P', run, hp', full, same.transferCount⟩

/-- Outside of Linux too, the ring of an allocated pipe keeps its representation invariant in every run,
every call returns that is not a `cancel_transfers` ahead of the allocation, and
`start_endless_transfers` fills the ring. -/
theorem asyncInPipe_ringWorks (es : List Event) (p : Addr) (P : Pipe)
    (array : P.transferArray ≠ none) :
    (∀ handle s₀ rs s, Windows.Initial handle s₀ →
      Machine.run Windows.backend.step es s₀ = .ok (rs, s) → s.pipes p = some P →
        RingWorks Windows.backend Windows.fields.view s p P) ∧
    ∀ handle s₀ rs s, Mac.Initial handle s₀ → Machine.run Mac.backend.step es s₀ = .ok (rs, s) →
      s.pipes p = some P → RingWorks Mac.backend Mac.fields.view s p P :=
  ⟨fun handle _ _ _ init run hp =>
      SysInv.ringWorks (C := Windows.contract handle) (init.sysInv.run run) hp array,
    fun handle _ _ _ init run hp =>
      SysInv.ringWorks (C := Mac.contract handle) (init.sysInv.run run) hp array⟩

theorem asyncInPipe_ringWorks_example :
    (∃ s P, s.pipes 1 = some P ∧ RingWorks Windows.backend
      Windows.fields.view s 1 P) ∧
    ∃ s P, s.pipes 1 = some P ∧
      RingWorks Mac.backend Mac.fields.view s 1 P := by
  constructor
  · obtain ⟨rs, s, run, test⟩ := Windows.exampleEvents_run
    rw [Bool.and_eq_true] at test
    obtain ⟨P, hp, array⟩ := array_of_isAllocated test.2
    exact ⟨s, P, hp,
      (asyncInPipe_ringWorks _ 1 P array).1 _ _ _ _ (Windows.exampleSystem_initial _) run hp⟩
  · obtain ⟨rs, s, run, test⟩ := Mac.exampleEvents_run
    rw [Bool.and_eq_true] at test
    obtain ⟨P, hp, array⟩ := array_of_isAllocated test.2
    exact ⟨s, P, hp,
      (asyncInPipe_ringWorks _ 1 P array).2 _ _ _ _ (Mac.exampleSystem_initial _) run hp⟩

/-! ## The shutdown -/

/-- Since the pipe at `p` was `P` in `s`, the calls in `tr` popped as many transfers as they finished
reports. -/
structure Reported (C : Contract B h) (s : Sys τ κ α γ) (p : Addr) (P : Pipe)
    (tr : List (Event × Reply)) (s₁ : Sys τ κ α γ) : Prop where
  sysInv : SysInv C s₁
  used : p < s₁.dev.heap.next
  pops : ∀ P₁, s₁.pipes p = some P₁ → (Fifo.pops (queueOps P₁.transfers s₁.dev.calls)).length =
    (Fifo.pops (queueOps P.transfers s.dev.calls)).length + tr.countP (isReport p)

lemma Reported.step {tr : List (Event × Reply)} (rep : Reported C s p P tr s₁)
    (asks : ∀ out, e = .handleFinishedTransfer p out → out.finished ≠ none)
    (run : B.step e s₁ = .ok (r, s')) : Reported C s p P (tr ++ [(e, r)]) s' := by
  have step := step_result rep.sysInv run
  refine ⟨step.sysInv rep.sysInv, rep.used.trans_le step.heap.next, ?_⟩
  intro P' hp'
  rw [List.countP_append, List.countP_singleton, ← Nat.add_assoc]
  cases hp₁ : s₁.pipes p with
  | none =>
    -- an address that was used is not handed out again
    have fresh := ((step.closed hp₁).2 P' hp').1
    exact absurd rep.used (Nat.not_lt.mpr fresh)
  | some P₁ =>
    rw [← rep.pops P₁ hp₁]
    rcases rep.sysInv.cases hp₁ with ⟨pipeId, rfl, _⟩ | al
    · obtain ⟨silent, nil, _⟩ := step.opened rep.sysInv hp₁ hp'
      rw [silent, nil, Pipe.transfers_opened, queueOps_nil]
      rfl
    · have own := step.pipeStep rep.sysInv hp₁ al hp'
      rw [own.same.transfers, own.pops_length al asks]

/-- Every run in which each caller asks whether a report was finished counts the reports. -/
lemma Reported.run {es : List Event} {rs : List Reply} (rep : Reported C s p P [] s₁)
    (asks : ∀ out, .handleFinishedTransfer p out ∈ es → out.finished ≠ none)
    (run : Machine.run B.step es s₁ = .ok (rs, s₂)) : Reported C s p P (es.zip rs) s₂ := by
  apply Machine.run_trace _ rep run
  rintro e mem tr s r s' rep step
  apply rep.step _ step
  rintro out rfl
  exact asks out mem

/-- Cancelling pops nothing. -/
lemma StepResult.cancel_reported (inv : SysInv C s)
    (step : StepResult C s (.cancelTransfers p) r s') (hp : s.pipes p = some P) :
    Reported C s p P [] s' := by
  have cancelled := step.cancelled hp
  refine ⟨step.sysInv inv, (inv.fresh p P hp).trans_le step.heap.next, ?_⟩
  intro P₁ hp₁
  rw [cancelled.after.get] at hp₁
  cases hp₁
  rw [cancelled.calls]
  rfl

/-- What holds of a pipe without pending transfers: nothing more is reported, closing frees the pipe and
every transfer with its buffer and its error, and starting fills the ring again. -/
structure Emptied (B : Backend τ κ α γ) (E : Estate τ) (s : Sys τ κ α γ) (p : Addr) (P : Pipe) :
    Prop where
  nonePending : ∀ b,
    B.step (.hasPendingTransfers p (some b)) s = .ok (.pending none (some false), s)
  notFinished : ∀ out, B.step (.handleFinishedTransfer p out) s =
    .ok (.finished none (resetOutputs out), s)
  close : ∃ s', B.step (.close p) s = .ok (.closed, s') ∧
    (∀ t ∈ P.transfers, s'.dev.transfers t = none) ∧
    Frees (pipeBlocks p P + E.blocksAll s.dev.transfers P.transfers) s.dev.heap s'.dev.heap
  restart : P.transferArray ≠ none → ∃ s' P',
    B.step (.startEndlessTransfers p) s = .ok (.done none, s') ∧ s'.pipes p = some P' ∧
      P'.transferCount = P.transferCount ∧ P'.pendingCount = P.transferCount

lemma SysInv.emptied (inv : SysInv C s) (hp : s.pipes p = some P) (zero : P.pendingCount = 0) :
    Emptied B C.view.toEstate s p P where
  nonePending := hasPending_empty hp zero
  notFinished := finish_empty hp zero
  close := close_empty inv hp zero
  restart := by
    intro array
    obtain ⟨s', P', run, hp', same, full⟩ := start_fills inv hp (inv.allocated hp array)
    exact ⟨s', P', run, hp', same.transferCount, by rw [full, same.transferCount]⟩

/-- The shutdown of the pipe `P` at `p`: after `cancel_transfers`, whatever it answers, and in every run
without `start_endless_transfers`, nothing is submitted, and every transfer that is popped, which every
finished report is, was pending before. When none is pending any more, the pipe is empty. -/
def Quiesces (B : Backend τ κ α γ) (E : Estate τ) (s : Sys τ κ α γ) (p : Addr) (P : Pipe) : Prop :=
  ∀ r s₁ es rs s₂ P₂, B.step (.cancelTransfers p) s = .ok (r, s₁) → .startEndlessTransfers p ∉ es →
    Machine.run B.step es s₁ = .ok (rs, s₂) → s₂.pipes p = some P₂ →
      Fifo.pushes (queueOps P₂.transfers s₂.dev.calls) =
        Fifo.pushes (queueOps P.transfers s.dev.calls) ∧
      P₂.pendingCount + (Fifo.pops (queueOps P₂.transfers s₂.dev.calls)).length =
        P.pendingCount + (Fifo.pops (queueOps P.transfers s.dev.calls)).length ∧
      ((∀ out, .handleFinishedTransfer p out ∈ es → out.finished ≠ none) →
        P₂.pendingCount + (es.zip rs).countP (isReport p) = P.pendingCount) ∧
      (P₂.pendingCount = 0 → Emptied B E s₂ p P₂)

/-- The history of an open pipe has as many submissions as reports and pending transfers. -/
lemma SysInv.difference (inv : SysInv C s) (hp : s.pipes p = some P) :
    (Fifo.pushes (queueOps P.transfers s.dev.calls)).length =
      (Fifo.pops (queueOps P.transfers s.dev.calls)).length + P.pendingCount := by
  rcases inv.cases hp with ⟨pipeId, rfl, _⟩ | al
  · rw [Pipe.transfers_opened, queueOps_nil]
    rfl
  · exact al.refinesFifo.difference

lemma SysInv.quiesces (inv : SysInv C s) (hp : s.pipes p = some P) :
    Quiesces B C.view.toEstate s p P := by
  intro r s₁ es rs s₂ P₂ cancel no run hp₂
  have step := step_result inv cancel
  have st := (step.cancel_stopped inv hp).run no run
  have pushes := st.pushes P₂ hp₂
  have before := inv.difference hp
  have after := st.sysInv.difference hp₂
  rw [pushes, before] at after
  refine ⟨pushes, by omega, ?_, fun zero => st.sysInv.emptied hp₂ zero⟩
  intro asks
  have pops := ((step.cancel_reported inv hp).run asks run).pops P₂ hp₂
  omega

/-- On every system, a pipe that is cancelled and not started again loses its pending transfers one by
one to the finished reports, and is empty after the last of them. -/
theorem asyncInPipe_quiesces (es : List Event) (p : Addr) (P : Pipe) :
    (∀ handle s₀ rs s, Linux.Initial handle s₀ → Machine.run Linux.backend.step es s₀ = .ok (rs, s) →
      s.pipes p = some P → Quiesces Linux.backend Linux.view.toEstate s p P) ∧
    (∀ handle s₀ rs s, Windows.Initial handle s₀ →
      Machine.run Windows.backend.step es s₀ = .ok (rs, s) → s.pipes p = some P →
        Quiesces Windows.backend Windows.fields.view.toEstate s p P) ∧
    ∀ handle s₀ rs s, Mac.Initial handle s₀ → Machine.run Mac.backend.step es s₀ = .ok (rs, s) →
      s.pipes p = some P → Quiesces Mac.backend Mac.fields.view.toEstate s p P :=
  ⟨fun handle _ _ _ init run hp =>
      SysInv.quiesces (C := Linux.contract handle) (init.sysInv.run run) hp,
    fun handle _ _ _ init run hp =>
      SysInv.quiesces (C := Windows.contract handle) (init.sysInv.run run) hp,
    fun handle _ _ _ init run hp =>
      SysInv.quiesces (C := Mac.contract handle) (init.sysInv.run run) hp⟩

/-- After the cancellation, events are handled and both transfers are reported. -/
def drainEvents : List Event := .handleEvents 1 :: reportEvents

/-- From the system `s₀` the example pipe is filled, cancelled and drained, and is empty in the end. -/
def DrainsFrom (B : Backend τ κ α γ) (E : Estate τ) (s₀ : Sys τ κ α γ) : Prop :=
  ∃ rs s P r s₁ rs₂ s₂ P₂, Machine.run B.step fillEvents s₀ = .ok (rs, s) ∧ s.pipes 1 = some P ∧
    P.pendingCount = 2 ∧ B.step (.cancelTransfers 1) s = .ok (r, s₁) ∧
    Machine.run B.step drainEvents s₁ = .ok (rs₂, s₂) ∧ s₂.pipes 1 = some P₂ ∧
    P₂.pendingCount = 0 ∧ Emptied B E s₂ 1 P₂

lemma drainsFrom_of_passes {E : Estate τ} {s₀ : Sys τ κ α γ}
    (filled : Machine.passes B.step fillEvents s₀ (fun _ s => hasCount 1 2 s) = true)
    (whole : Machine.passes B.step (fillEvents ++ .cancelTransfers 1 :: drainEvents) s₀
      (fun _ s => hasCount 1 0 s) = true)
    (quiesces : ∀ rs s P, Machine.run B.step fillEvents s₀ = .ok (rs, s) → s.pipes 1 = some P →
      Quiesces B E s 1 P) : DrainsFrom B E s₀ := by
  obtain ⟨rs, s, _, s₂, run, count, more, last⟩ := Machine.run_append_of_passes filled whole
  obtain ⟨r, s₁, rs₂, cancel, drain, _⟩ := Machine.run_cons_ok more
  obtain ⟨P, hp, two⟩ := pipe_of_hasCount count
  obtain ⟨P₂, hp₂, zero⟩ := pipe_of_hasCount last
  refine ⟨rs, s, P, r, s₁, rs₂, s₂, P₂, run, hp, two, cancel, drain, hp₂, zero, ?_⟩
  have no : .startEndlessTransfers 1 ∉ drainEvents := by simp [drainEvents, reportEvents]
  exact (quiesces rs s P run hp r s₁ _ rs₂ s₂ P₂ cancel no drain hp₂).2.2.2 zero

theorem asyncInPipe_quiesces_example :
    DrainsFrom Linux.backend Linux.view.toEstate (Linux.exampleSystem fun _ => Linux.promptTurn) ∧
    DrainsFrom Windows.backend Windows.fields.view.toEstate
      (Windows.exampleSystem fun _ => ⟨true, 0, 4, fun _ => 0⟩) ∧
    DrainsFrom Mac.backend Mac.fields.view.toEstate
      (Mac.exampleSystem fun _ => ⟨0, 0, 0, 0, 4, fun _ => 0⟩) := by
  refine ⟨?_, ?_, ?_⟩
  · exact drainsFrom_of_passes (by decide +kernel) (by decide +kernel) fun rs s P run hp =>
      (asyncInPipe_quiesces _ 1 P).1 _ _ rs s (Linux.exampleSystem_initial _) run hp
  · exact drainsFrom_of_passes (by decide +kernel) (by decide +kernel) fun rs s P run hp =>
      (asyncInPipe_quiesces _ 1 P).2.1 _ _ rs s (Windows.exampleSystem_initial _) run hp
  · exact drainsFrom_of_passes (by decide +kernel) (by decide +kernel) fun rs s P run hp =>
      (asyncInPipe_quiesces _ 1 P).2.2 _ _ rs s (Mac.exampleSystem_initial _) run hp

end Libusbp
