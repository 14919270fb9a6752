import Libusbp.Linux.Accounts

/-!
# Who owns the memory of a transfer

A transfer is pending exactly while the kernel owns its URB. What the kernel owns is alive, what it
gives back was pending and had no error object, and closing a pipe frees those of its transfers that
the kernel does not own, with their buffers and errors (`transfer_ownership`).
-/

namespace Libusbp.Linux

open Prog Heap

variable {d d' : Dev} {t : Addr} {T : Transfer}

/-! ## Reaping -/

/-- Reaping takes URBs from the kernel and gives it none. -/
lemma Reaped.inFlight_subset (r : Reaped d d') : d'.kernel.inFlight ⊆ d.kernel.inFlight := by
  induction r with
  | refl => exact List.Subset.refl _
  | quiet _ q ih =>
    rw [q.inFlight]
    exact ih
  | handled _ _ _ _ h ih =>
    rw [h.inFlight]
    exact List.Subset.trans List.erase_subset ih

/-- What the entries of the history are that reaping adds: completions of transfers that are alive
and owned by the kernel, found pending and without an error. -/
structure CompletedLive (d : Dev) (c : Call Submission Returned) : Prop where
  complete : ∃ t x, c = .complete t ⟨x, true, none⟩
  owned : c.transfer ∈ d.kernel.inFlight
  live : ∃ T, d.transfers c.transfer = some T ∧ T.pending = true ∧ T.error = none

lemma Reaped.calls (inv : Inv d) (r : Reaped d d') :
    ∃ new, d'.calls = new ++ d.calls ∧ ∀ c ∈ new, CompletedLive d c := by
  induction r with
  | refl => exact ⟨[], rfl, by simp⟩
  | quiet _ q ih =>
    obtain ⟨new, grown, all⟩ := ih
    exact ⟨new, q.calls.trans grown, all⟩
  | @handled d₁ _ t T c r hT mem _ h ih =>
    obtain ⟨new, grown, all⟩ := ih
    have inv₁ := r.inv inv
    have pend : T.pending = true := (inv₁.mem_inFlight hT).mp mem
    have clean := (inv₁.wf t T hT).clean pend
    refine ⟨.complete t ⟨c, T.pending, T.error⟩ :: new, by rw [h.calls, grown]; rfl, ?_⟩
    intro c' mem'
    cases mem' with
    | head =>
      have owned := r.inFlight_subset mem
      obtain ⟨T₀, hT₀, pend₀⟩ := (inv.owned t).mp owned
      refine ⟨⟨t, c, by rw [pend, clean]⟩, owned, T₀, hT₀, pend₀, ?_⟩
      exact (inv.wf t T₀ hT₀).clean pend₀
    | tail _ mem' => exact all c' mem'

/-- Handling events reaps, and leaves the pipes alone. -/
lemma wp_step_handleEvents {handle : Handle} {s : Sys} {p : Addr} {P : Pipe}
    (inv : SysInv (contract handle) s) (hp : s.pipes p = some P) :
    wp (backend.step (.handleEvents p)) (fun r s' => (∃ error, r = .done error) ∧
      s'.handle = s.handle ∧ s'.pipes = s.pipes ∧ Reaped s.dev s'.dev) s := by
  have handled : wp (backend.exec (.handleEvents p)) (fun r s' => (∃ error, r = .done error) ∧
      s'.handle = s.handle ∧ s'.pipes = s.pipes ∧ Reaped s.dev s'.dev) s := by
    simp only [Backend.exec, Backend.asyncInPipeHandleEvents, wp_bind, wp_loadPipe hp,
      (inv.pipes p P hp).handle, onDev, wp_zoom, wp_pure]
    apply wp_mono (wp_events inv.inv handle)
    intro error d' r
    exact ⟨⟨error, rfl⟩, trivial, trivial, r⟩
  obtain ⟨r, s', run, result⟩ := handled
  refine ⟨r, s', ?_, result⟩
  rw [step_eq_exec hp rfl, run]

/-! ## Ownership -/

/-- What closing the pipe `P` at `p` does to the memory. -/
structure ClosesCleanly (s : Sys) (p : Addr) (P : Pipe) (s' : Sys) : Prop where
  closed : s'.pipes p = none
  /-- The struct of the pipe and its array are freed once. -/
  pipe : ∀ l ∈ pipeBlocks p P, s'.dev.heap.freeCount l = s.dev.heap.freeCount l + 1
  /-- The transfers that the kernel does not own were alive and are freed, and so are their buffers and
  their errors, each once. -/
  freed : ∀ t ∈ P.transfers, t ∉ s.dev.kernel.inFlight → ∃ T, s.dev.transfers t = some T ∧
    s'.dev.transfers t = none ∧
      ∀ l ∈ view.blocks t T, s'.dev.heap.freeCount l = s.dev.heap.freeCount l + 1
  /-- The transfers that the kernel owns are left to it, with their buffers. -/
  left : ∀ t ∈ s.dev.kernel.inFlight, s'.dev.transfers t = s.dev.transfers t ∧
    ∀ T, s.dev.transfers t = some T → T.error = none ∧
      ∀ l ∈ view.blocks t T, s'.dev.heap.freeCount l = s.dev.heap.freeCount l
  others : ∀ t ∉ P.transfers, s'.dev.transfers t = s.dev.transfers t
  inFlight : ∀ t, t ∈ s'.dev.kernel.inFlight ↔ t ∈ s.dev.kernel.inFlight
  /-- Nothing is freed but the blocks of the pipe and of its transfers that are not pending. -/
  frees : Frees (closeBlocks view s.dev.transfers p P) s.dev.heap s'.dev.heap

variable {handle : Handle} {s₀ s s' : Sys} {p : Addr} {P : Pipe}

/-- The transfers in the array of an open pipe are alive. -/
lemma live_of_mem (inv : SysInv (contract handle) s) (hp : s.pipes p = some P)
    (mem : t ∈ P.transfers) : ∃ T, s.dev.transfers t = some T := by
  rcases inv.cases hp with ⟨pipeId, rfl, _⟩ | al
  · cases mem
  · obtain ⟨T, hT, _⟩ := al.live t mem
    exact ⟨T, hT⟩

lemma closesCleanly_of_closed (inv : SysInv (contract handle) s) (hp : s.pipes p = some P)
    (closed : Closed (contract handle) s p P s') (closes : ClosesBlocks view s₀ s p P s') :
    ClosesCleanly s p P s' := by
  have transfers : s'.dev.transfers = release view P.transfers s.dev.transfers :=
    closed.released.transfers
  have inv' : Inv s'.dev := closed.released.inv
  have left : ∀ t ∈ s.dev.kernel.inFlight, s'.dev.transfers t = s.dev.transfers t := by
    intro t owned
    obtain ⟨T, hT, pend⟩ := (inv.inv.owned t).mp owned
    rw [transfers, release_of_pending hT pend, hT]
  have freed : ∀ t ∈ P.transfers, t ∉ s.dev.kernel.inFlight → ∃ T, s.dev.transfers t = some T ∧
      T.pending = false ∧ s'.dev.transfers t = none := by
    intro t mem notOwned
    obtain ⟨T, hT⟩ := live_of_mem inv hp mem
    have idle : T.pending = false :=
      Bool.eq_false_iff.mpr (mt (inv.inv.mem_inFlight hT).mpr notOwned)
    refine ⟨T, hT, idle, ?_⟩
    rw [transfers, release_of_idle mem hT idle]
  have others : ∀ t ∉ P.transfers, s'.dev.transfers t = s.dev.transfers t := by
    intro t nm
    rw [transfers, release_of_notMem nm]
  constructor
  case closed => rw [closed.pipes, Function.update_self]
  case pipe => exact fun l mem => closes.pipe mem
  case freed =>
    intro t mem notOwned
    obtain ⟨T, hT, idle, gone⟩ := freed t mem notOwned
    exact ⟨T, hT, gone, fun l mem' => closes.idle mem hT idle mem'⟩
  case left =>
    intro t owned
    refine ⟨left t owned, ?_⟩
    intro T hT
    have pend : T.pending = true := (inv.inv.mem_inFlight hT).mp owned
    have hT' : s'.dev.transfers t = some T := (left t owned).trans hT
    exact ⟨(inv.inv.wf t T hT).clean pend, fun l mem => closes.unfreed hT' mem⟩
  case others => exact others
  case inFlight =>
    intro t
    rw [inv'.owned t, inv.inv.owned t]
    constructor
    · rintro ⟨T, hT, pend⟩
      -- a transfer that is alive afterwards was not freed
      by_cases owned : t ∈ s.dev.kernel.inFlight
      · exact (inv.inv.owned t).mp owned
      · by_cases mem : t ∈ P.transfers
        · obtain ⟨_, _, _, gone⟩ := freed t mem owned
          rw [gone] at hT
          cases hT
        · exact ⟨T, by rw [← others t mem, hT], pend⟩
    · intro pending
      rw [left t ((inv.inv.owned t).mpr pending)]
      exact pending
  case frees => exact closes.frees

/-- The memory of the transfers after any run. A transfer is pending exactly while the kernel owns its
URB, that is, after a submission that was accepted and before the URB is given back; what the kernel owns
is alive, with the buffer, which was allocated in the run and not freed; every URB was given back to a
transfer that was pending and had no error; no call ever follows a pointer to a freed transfer, and every
completion that a call handles is one of a transfer that is alive and owned by the kernel; and closing a
pipe frees each of its transfers that the kernel does not own, and none that it owns, with the buffers
and the errors. -/
theorem transfer_ownership {es : List Event} {rs : List Reply} (init : Initial handle s₀)
    (run : Machine.run backend.step es s₀ = .ok (rs, s)) :
    (∀ t T, s.dev.transfers t = some T →
      (T.pending = true ↔ t ∈ s.dev.kernel.inFlight) ∧
      (T.pending = true ↔
        ∃ a, lastSubmission t s.dev.calls = some (a, none) ∧ a.errno.isNone = true)) ∧
    (∀ t ∈ s.dev.kernel.inFlight, ∃ T, s.dev.transfers t = some T ∧
      ∀ l ∈ view.blocks t T, Alive s₀.dev.heap s.dev.heap l) ∧
    (∀ t r, .complete t r ∈ s.dev.calls → r.pending = true ∧ r.error = none) ∧
    (∀ e, ∃ r s', backend.step e s = .ok (r, s')) ∧
    (∀ p r s', backend.step (.handleEvents p) s = .ok (r, s') →
      ∃ new, s'.dev.calls = new ++ s.dev.calls ∧ ∀ c ∈ new, CompletedLive s.dev c) ∧
    ∀ p P, s.pipes p = some P → ∃ s', backend.step (.close p) s = .ok (.closed, s') ∧
      ClosesCleanly s p P s' := by
  have inv : SysInv (contract handle) s := init.sysInv.run run
  have acc := ((books handle).run_tells init.sysInv init.fresh.accounts run).2
  refine ⟨?_, ?_, fun t r mem => inv.inv.harvested.completion mem, ?_, ?_, ?_⟩
  · intro t T hT
    exact ⟨(inv.inv.mem_inFlight hT).symm, (inv.inv.fate t T hT).pending_iff⟩
  · intro t owned
    obtain ⟨T, hT, _⟩ := (inv.inv.owned t).mp owned
    exact ⟨T, hT, fun l mem => acc.alive hT mem⟩
  · intro e
    obtain ⟨r, s', run, _⟩ := wp_step inv e (admits e s)
    exact ⟨r, s', run⟩
  · intro p r s' run
    cases hp : s.pipes p with
    | none =>
      have unused := (step_result inv run)
      cases unused with
      | unused => exact ⟨[], rfl, by simp⟩
      | events hq => exact absurd (hp.symm.trans hq) (by simp)
    | some P =>
      obtain ⟨_, _, _, reaped⟩ := (wp_step_handleEvents inv hp).elim run
      exact reaped.calls inv.inv
  · intro p P hp
    obtain ⟨s', step, closed⟩ := inv.wp_closed hp
    exact ⟨s', step, closesCleanly_of_closed inv hp closed ((books handle).closesBlocks inv acc hp step)⟩

/-- One of the two transfers of the example pipe is owned by the kernel when the pipe is closed. -/
theorem transfer_ownership_example : ∃ rs s P s', Machine.run backend.step exampleEvents
    (exampleSystem fun _ => promptTurn) = .ok (rs, s) ∧ s.pipes 1 = some P ∧
    P.transfers.length = 2 ∧ s.dev.kernel.inFlight.length = 1 ∧
    backend.step (.close 1) s = .ok (.closed, s') ∧ ClosesCleanly s 1 P s' := by
  have passes : Machine.passes backend.step exampleEvents (exampleSystem fun _ => promptTurn)
      (fun _ s => s.dev.kernel.inFlight.length == 1 &&
        (s.pipes 1).any fun P => P.transfers.length == 2) = true := by decide +kernel
  obtain ⟨rs, s, run, test⟩ := Machine.run_of_passes passes
  rw [Bool.and_eq_true, beq_iff_eq] at test
  obtain ⟨P, hp, two⟩ := (Option.any_eq_true ..).mp test.2
  obtain ⟨_, _, _, _, _, closes⟩ := transfer_ownership (exampleSystem_initial _) run
  obtain ⟨s', step, cleanly⟩ := closes 1 P hp
  exact ⟨rs, s, P, s', run, hp, beq_iff_eq.mp two, test.1, step, cleanly⟩

end Libusbp.Linux
