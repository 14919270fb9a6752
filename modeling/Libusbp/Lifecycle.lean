import Libusbp.Linux.Pipes
import Libusbp.Windows.Pipes
import Libusbp.Mac.Pipes

/-!
# The life of a pipe

Only `start_endless_transfers` and `allocate_transfers` check whether the transfers of a pipe were
allocated; the others rely on the counters and indices being zero. `Lifecycle` says that this works
out in a whole run: the array is only read where it holds a transfer, and a call that cannot be carried
out is refused or does nothing. It fails where `cancel_transfers` reads the first element of the array
without any check.
-/

namespace Libusbp

open Prog Heap

variable {τ κ α γ : Type} {B : Backend τ κ α γ} {h : Handle} {C : Contract B h}
  {s s' : Sys τ κ α γ} {p : Addr} {P : Pipe} {e : Event} {r : Reply}

/-- A call that returned an error and did nothing else. -/
structure Refused (s : Sys τ κ α γ) (r : Reply) (s' : Sys τ κ α γ) : Prop where
  error : ∃ error, r = .done (some error)
  pipes : s'.pipes = s.pipes
  transfers : s'.dev.transfers = s.dev.transfers
  calls : s'.dev.calls = s.dev.calls

/-- A pipe without transfers, for which everything but an allocation is refused or does nothing. -/
structure Unallocated (B : Backend τ κ α γ) (s : Sys τ κ α γ) (p : Addr) (P : Pipe) : Prop where
  array : P.transferArray = none
  transferCount : P.transferCount = 0
  allocate : ∀ n size, n = 0 ∨ size = 0 →
    ∃ r s', B.step (.allocateTransfers p n size) s = .ok (r, s') ∧ Refused s r s'
  start : ∃ r s', B.step (.startEndlessTransfers p) s = .ok (r, s') ∧ Refused s r s'
  finish : ∀ out,
    B.step (.handleFinishedTransfer p out) s = .ok (.finished none (resetOutputs out), s)
  hasPending : ∀ b,
    B.step (.hasPendingTransfers p (some b)) s = .ok (.pending none (some false), s)
  cancel : B.linux = true → ∃ s', B.step (.cancelTransfers p) s = .ok (.done none, s') ∧
    s'.dev.transfers = s.dev.transfers ∧ s'.pipes =
      Function.update s.pipes p (some { P with endlessTransfersEnabled := false })

/-- A pipe whose array holds a transfer at every place that is read. -/
structure Ready (B : Backend τ κ α γ) (s : Sys τ κ α γ) (p : Addr) (P : Pipe) : Prop where
  array : ∃ array, P.transferArray = some array ∧ array.val.length = P.transferCount ∧
    ∀ slot ∈ array.val, slot ≠ none
  pos : 0 < P.transferCount
  nextFinish : P.nextFinish < P.transferCount
  nextSubmit : P.nextSubmit < P.transferCount
  allocate : ∀ n size,
    ∃ r s', B.step (.allocateTransfers p n size) s = .ok (r, s') ∧ Refused s r s'
  finish : P.pendingCount = 0 → ∀ out,
    B.step (.handleFinishedTransfer p out) s = .ok (.finished none (resetOutputs out), s)

/-- Every access to an array in the run reads a transfer: the run never reads through a null pointer
or out of bounds, and in all of its states, every open pipe has no transfers, or one at every place. -/
def Lifecycle (B : Backend τ κ α γ) (es : List Event) (s₀ : Sys τ κ α γ) : Prop :=
  (∃ rs s, Machine.run B.step es s₀ = .ok (rs, s)) ∧
  ∀ es₁ es₂ rs s, es = es₁ ++ es₂ → Machine.run B.step es₁ s₀ = .ok (rs, s) →
    ∀ p P, s.pipes p = some P → Unallocated B s p P ∨ Ready B s p P

lemma Untouched.refused {error : Error} (u : Untouched C s p P s') (hp : s.pipes p = some P) :
    Refused s (.done (some error)) s' := by
  refine ⟨⟨error, rfl⟩, ?_, u.transfers, u.calls⟩
  rw [u.after.pipes, ← hp, Function.update_eq_self]

/-- A pipe as it was opened. -/
lemma SysInv.unallocated {pipeId : UInt8} (inv : SysInv C s)
    (hp : s.pipes p = some (.opened h pipeId)) : Unallocated B s p (.opened h pipeId) where
  array := rfl
  transferCount := rfl
  allocate := by
    intro n size zero
    obtain ⟨r, s', run, step⟩ :=
      wp_step inv (.allocateTransfers p n size) (.inr fun _ _ => Event.noConfusion)
    refine ⟨r, s', run, ?_⟩
    cases step with
    | unused about closed => exact absurd closed (Event.used hp rfl about)
    | allocate hq result =>
      cases result with
      | failed after transfers calls =>
        rw [hp] at hq
        cases hq
        exact Untouched.refused ⟨after, transfers, calls⟩ hp
      | done count size' =>
        cases zero with
        | inl zero => exact absurd zero count
        | inr zero => exact absurd zero size'
    | allocateAgain hq _ u => exact u.refused hq
  start := by
    obtain ⟨r, s', run, step⟩ :=
      wp_step inv (.startEndlessTransfers p) (.inr fun _ _ => Event.noConfusion)
    refine ⟨r, s', run, ?_⟩
    cases step with
    | unused about closed => exact absurd closed (Event.used hp rfl about)
    | startOpened hq _ u => exact u.refused hq
    | start hq al =>
      rw [hp] at hq
      cases hq
      exact absurd rfl al.array_ne_none
  finish := finish_empty hp rfl
  hasPending := hasPending_empty hp rfl
  cancel := by
    intro linux
    obtain ⟨r, s', run, rfl, c⟩ := wp_cancel_opened inv.inv hp linux rfl
    refine ⟨s', ?_, c.transfers, c.after.pipes⟩
    rw [step_eq_exec hp rfl, Backend.exec]
    exact bind_of_ok run

/-- A pipe with allocated transfers. -/
lemma SysInv.ready (inv : SysInv C s) (hp : s.pipes p = some P) (al : Allocated C.view s.dev P) :
    Ready B s p P where
  array := by
    obtain ⟨l, array⟩ := al.array
    refine ⟨_, array, ?_, ?_⟩
    · rw [List.length_map, al.count]
    · intro slot mem
      obtain ⟨t, _, rfl⟩ := List.mem_map.mp mem
      exact Option.some_ne_none t
  pos := al.pos
  nextFinish := al.ring.head_lt
  nextSubmit := al.ring.tail_lt
  allocate := by
    intro n size
    obtain ⟨r, s', run, step⟩ :=
      wp_step inv (.allocateTransfers p n size) (.inr fun _ _ => Event.noConfusion)
    refine ⟨r, s', run, ?_⟩
    cases step with
    | unused about closed => exact absurd closed (Event.used hp rfl about)
    | allocate hq =>
      rw [hp] at hq
      cases hq
      exact absurd rfl al.array_ne_none
    | allocateAgain hq _ u => exact u.refused hq
  finish zero := finish_empty hp zero

/-- The calls of a run that did not stop were admitted. -/
lemma admitted_of_run {es : List Event} {rs : List Reply} (run : Machine.run B.step es s = .ok (rs, s')) :
    Machine.Along B.step B.Admits es s :=
  Machine.along_of_run (fun _ _ forbidden => ⟨_, step_fault forbidden⟩) run

/-- A run has the property exactly if every call is admitted. -/
lemma lifecycle_iff {es : List Event} (inv : SysInv C s) :
    Lifecycle B es s ↔ Machine.Along B.step B.Admits es s := by
  constructor
  · rintro ⟨⟨rs, s', run⟩, _⟩
    exact admitted_of_run run
  · intro adm
    obtain ⟨rs, s', run, _⟩ := wp_run inv adm
    refine ⟨⟨rs, s', run⟩, ?_⟩
    intro es₁ es₂ rs₁ s₁ _ run₁ p P hp
    have inv₁ := inv.run run₁
    rcases inv₁.cases hp with ⟨pipeId, rfl, _⟩ | al
    · exact .inl (inv₁.unallocated hp)
    · exact .inr (inv₁.ready hp al)

/-- On Linux every sequence of calls is safe. On the other systems it is safe exactly if
`cancel_transfers` is only called on pipes whose transfers are allocated at that time. -/
theorem asyncInPipe_lifecycle (es : List Event) :
    (∀ handle s₀, Linux.Initial handle s₀ → Lifecycle Linux.backend es s₀) ∧
    (∀ handle s₀, Windows.Initial handle s₀ →
      (Lifecycle Windows.backend es s₀ ↔
        Machine.Along Windows.backend.step Windows.backend.Admits es s₀)) ∧
    ∀ handle s₀, Mac.Initial handle s₀ →
      (Lifecycle Mac.backend es s₀ ↔ Machine.Along Mac.backend.step Mac.backend.Admits es s₀) := by
  refine ⟨?_, fun _ _ init => lifecycle_iff init.sysInv, fun _ _ init => lifecycle_iff init.sysInv⟩
  intro handle s₀ init
  exact (lifecycle_iff init.sysInv).mpr (Machine.along_of_forall Linux.admits)

theorem asyncInPipe_lifecycle_example :
    Lifecycle Linux.backend Linux.exampleEvents (Linux.exampleSystem fun _ => Linux.promptTurn) ∧
    Lifecycle Windows.backend Windows.exampleEvents (Windows.exampleSystem Windows.examplePlan) ∧
    Lifecycle Mac.backend Mac.exampleEvents (Mac.exampleSystem Mac.examplePlan) := by
  obtain ⟨linux, _⟩ := asyncInPipe_lifecycle Linux.exampleEvents
  obtain ⟨_, windows, _⟩ := asyncInPipe_lifecycle Windows.exampleEvents
  obtain ⟨_, _, mac⟩ := asyncInPipe_lifecycle Mac.exampleEvents
  refine ⟨linux _ _ (Linux.exampleSystem_initial _), ?_, ?_⟩
  · obtain ⟨rs, s, run, _⟩ := Windows.exampleEvents_run
    exact (windows _ _ (Windows.exampleSystem_initial _)).mpr (admitted_of_run run)
  · obtain ⟨rs, s, run, _⟩ := Mac.exampleEvents_run
    exact (mac _ _ (Mac.exampleSystem_initial _)).mpr (admitted_of_run run)

/-- A pipe that was just opened is cancelled. -/
def cancelEvents : List Event := [.create 0x81, .cancelTransfers 1]

/-- Outside of Linux, this reads the first element of an array that does not exist. -/
theorem cancel_readsNull :
    ¬Lifecycle Windows.backend cancelEvents (Windows.exampleSystem Windows.examplePlan) ∧
    ¬Lifecycle Mac.backend cancelEvents (Mac.exampleSystem Mac.examplePlan) := by
  have windows : Machine.run Windows.backend.step cancelEvents
      (Windows.exampleSystem Windows.examplePlan) = .error .nullPointer := rfl
  have mac : Machine.run Mac.backend.step cancelEvents
      (Mac.exampleSystem Mac.examplePlan) = .error .nullPointer := rfl
  constructor
  · rintro ⟨⟨rs, s, run⟩, _⟩
    rw [windows] at run
    cases run
  · rintro ⟨⟨rs, s, run⟩, _⟩
    rw [mac] at run
    cases run

end Libusbp
