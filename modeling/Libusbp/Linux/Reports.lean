import Libusbp.Linux.Pipes

/-!
# What finished reports say on Linux

A finished report is read out of the URB of its transfer. When the submission was accepted, the URB
says what the kernel returned. When it was refused, nothing resets the length in the URB, so that the
report repeats the bytes of the last submission of the transfer that was accepted
(`report_truthful_iff`).
-/

namespace Libusbp.Linux

open Prog Heap

/-- The outputs tell the truth about a submission of `size` bytes, given by the answer to it and the
completion that the kernel returned for it. -/
def Truthful (size : Nat) (out : Outputs) : Submission × Option Returned → Prop
  | (⟨none, _⟩, some ⟨c, _, _⟩) => ∃ buffer,
    out.transferred = some (min (sizeOfInt c.actualLength) size) ∧ out.buffer = some buffer ∧
      (∀ i < min (sizeOfInt c.actualLength) size, buffer i = c.data i) ∧
      (out.transferError = some none ↔ c.status = 0 ∧ c.errorCount = 0)
  | (⟨some _, _⟩, none) => (∃ e, out.transferError = some (some e)) ∧ out.transferred = some 0
  | _ => False

/-- The URB held no received bytes when it was submitted, or the submission was accepted. -/
def AcceptedOrClean (size : Nat) (a : Submission) : Prop :=
  a.errno = none ∨ min (sizeOfInt a.actualLength) size = 0

/-- What the outputs of a report are, by what became of the submission. -/
lemma Report.truthful_iff {calls : List (Call Submission Returned)} {t : Addr} {size : Nat}
    {out outr : Outputs} {last : Submission × Option Returned} (report : Report calls t size out outr)
    (submitted : lastSubmission t calls = some last) (buffer : out.buffer ≠ none)
    (transferred : out.transferred ≠ none) (transferError : out.transferError ≠ none)
    (b : Option Bool) :
    Truthful size { outr with finished := b } last ↔ AcceptedOrClean size last.1 := by
  obtain ⟨T, fate, idle, hsize, transferred', buffer', isSome, copied⟩ := report
  obtain ⟨buffer₀, hbuffer⟩ := Option.ne_none_iff_exists'.mp buffer
  obtain ⟨n, hn⟩ := Option.ne_none_iff_exists'.mp transferred
  obtain ⟨e, he⟩ : ∃ e, outr.transferError = some e := by
    rw [← Option.isSome_iff_exists, isSome, Option.isSome_iff_ne_none]
    exact transferError
  have null := copied e he
  rw [hbuffer, Option.map_some] at buffer'
  rw [hn, Option.map_some] at transferred'
  rw [submitted] at fate
  obtain ⟨⟨errno, length⟩, returned⟩ := last
  cases errno with
  | none =>
    cases returned with
    | none => exact absurd (idle.symm.trans fate) (by decide)
    | some r =>
      obtain ⟨c, _, _⟩ := r
      obtain ⟨_, noError, actual, data⟩ := fate
      have received : T.urb.received = min (sizeOfInt c.actualLength) size := by
        rw [Urb.received, actual, hsize]
      rw [received] at transferred' buffer' data
      refine ⟨fun _ => .inl rfl, fun _ => ⟨_, transferred', buffer', ?_, ?_⟩⟩
      · intro i lt
        rw [memcpy, if_pos lt, data i lt]
      · show outr.transferError = some none ↔ _
        rw [he, Option.some.injEq, null, noError]
  | some errno =>
    cases returned with
    | some r => exact fate.elim
    | none =>
      obtain ⟨_, failed, actual⟩ := fate
      have received : T.urb.received = min (sizeOfInt length) size := by
        rw [Urb.received, actual, hsize]
      rw [received] at transferred'
      constructor
      · rintro ⟨_, zero⟩
        have zero : outr.transferred = some 0 := zero
        rw [transferred', Option.some.injEq] at zero
        exact .inr zero
      · rintro (accepted | clean)
        · cases accepted
        · refine ⟨?_, transferred'.trans (congrArg some clean)⟩
          obtain ⟨e', rfl⟩ := Option.ne_none_iff_exists'.mp (mt null.mp failed)
          exact ⟨e', he⟩

variable {s s' : Sys} {p : Addr} {P : Pipe} {r : Reply}

/-- A finished report with no null output pointer tells the truth about the submission that it
reports exactly if that submission was accepted, or was refused when the URB of the transfer held no
received bytes. -/
theorem report_truthful_iff {out : Outputs} (reach : Reachable s) (hp : s.pipes p = some P)
    (array : P.transferArray ≠ none) (buffer : out.buffer ≠ none)
    (transferred : out.transferred ≠ none) (transferError : out.transferError ≠ none)
    (step : backend.step (.handleFinishedTransfer p out) s = .ok (r, s'))
    (is : isReport p (.handleFinishedTransfer p out, r) = true) :
    ∃ t last out', P.queue.head? = some t ∧ lastSubmission t s.dev.calls = some last ∧
      r = .finished none out' ∧
      (Truthful P.transferSize out' last ↔ AcceptedOrClean P.transferSize last.1) := by
  obtain ⟨handle, inv⟩ := reach.sysInv
  have al := inv.allocated hp array
  obtain ⟨out₀, outr, t, pre, eq, rfl, head, polled, _, pushed, report⟩ :=
    (step_result inv step).report hp al is
  cases eq
  have polled : pre = s.dev.calls := polled
  rw [polled] at report
  obtain ⟨last, submitted⟩ := Option.ne_none_iff_exists'.mp
    (lastSubmission_ne_none (by rw [pushed]; exact Option.some_ne_none _))
  refine ⟨t, last, _, head, submitted, rfl, ?_⟩
  exact Report.truthful_iff report submitted (by simpa [resetOutputs] using buffer)
    (by simpa [resetOutputs] using transferred) (by simpa [resetOutputs] using transferError) _

/-- The kernel accepts a submission, returns it with four bytes, and refuses the next one because the
device is gone. -/
def refusingPlan : Nat → Turn
  | 0 => promptTurn
  | 1 => promptTurn
  | 2 => { promptTurn with errno := some eagain }
  | _ => { promptTurn with errno := some enodev }

/-- A ring of one transfer, which is reported and refused. -/
def refusedEvents : List Event :=
  [.create 0x81, .allocateTransfers 1 1 8, .startEndlessTransfers 1, .handleEvents 1,
    .handleFinishedTransfer 1 allOutputs]

/-- Whether the next report is about a refused submission and has four bytes. -/
def repeatsBytes (s : Sys) : Bool :=
  match backend.step (.handleFinishedTransfer 1 allOutputs) s, s.pipes 1 with
  | .ok (.finished none out, _), some P =>
    out.finished == some true && out.transferred == some 4 && P.transferArray.isSome &&
      match P.queue.head?.bind fun t => lastSubmission t s.dev.calls with
      | some (⟨some _, _⟩, none) => true
      | _ => false
  | _, _ => false

/-- Not every finished report tells the truth: after a lap with data, the report of a refused
submission delivers the same four bytes again. -/
theorem report_repeats_bytes : ¬∀ (s s' : Sys) (p : Addr) (P : Pipe) (r : Reply) (t : Addr)
    (last : Submission × Option Returned) (out' : Outputs), Reachable s → s.pipes p = some P →
      P.transferArray ≠ none →
      backend.step (.handleFinishedTransfer p allOutputs) s = .ok (r, s') →
      isReport p (.handleFinishedTransfer p allOutputs, r) = true → P.queue.head? = some t →
      lastSubmission t s.dev.calls = some last → r = .finished none out' →
      Truthful P.transferSize out' last := by
  intro always
  have passes : Machine.passes backend.step refusedEvents (exampleSystem refusingPlan)
      (fun _ s => repeatsBytes s) = true := by decide +kernel
  obtain ⟨rs, s, run, test⟩ := Machine.run_of_passes passes
  have reach : Reachable s := ⟨_, _, _, _, exampleSystem_initial _, run⟩
  unfold repeatsBytes at test
  split at test
  case h_2 => cases test
  case h_1 out' s' P step hp =>
    simp only [Bool.and_eq_true, beq_iff_eq] at test
    obtain ⟨⟨⟨fin, four⟩, array⟩, refused⟩ := test
    split at refused
    case h_2 => cases refused
    case h_1 errno length eq =>
      obtain ⟨t, head, submitted⟩ := Option.bind_eq_some_iff.mp eq
      have truth := always s s' 1 P _ t _ out' reach hp (Option.isSome_iff_ne_none.mp array) step
        (isReport_iff.mpr ⟨_, _, _, rfl, rfl, fin⟩) head submitted rfl
      have zero : out'.transferred = some 0 := truth.2
      rw [four] at zero
      cases zero

/-- Whether the pipe at 1 is allocated and its next report is a finished one. -/
def reportsNext (s : Sys) : Bool :=
  match backend.step (.handleFinishedTransfer 1 allOutputs) s with
  | .ok (.finished none out, _) => out.finished == some true && isAllocated 1 s
  | _ => false

theorem report_truthful_iff_example : ∃ (s s' : Sys) (P : Pipe) (r : Reply), Reachable s ∧
    s.pipes 1 = some P ∧ backend.step (.handleFinishedTransfer 1 allOutputs) s = .ok (r, s') ∧
      ∃ t last out', P.queue.head? = some t ∧ lastSubmission t s.dev.calls = some last ∧
        r = .finished none out' ∧
        (Truthful P.transferSize out' last ↔ AcceptedOrClean P.transferSize last.1) := by
  have passes : Machine.passes backend.step
      [.create 0x81, .allocateTransfers 1 1 8, .startEndlessTransfers 1, .handleEvents 1]
      (exampleSystem fun _ => promptTurn) (fun _ s => reportsNext s) = true := by decide +kernel
  obtain ⟨rs, s, run, test⟩ := Machine.run_of_passes passes
  have reach : Reachable s := ⟨_, _, _, _, exampleSystem_initial _, run⟩
  unfold reportsNext at test
  split at test
  case h_2 => cases test
  case h_1 out' s' step =>
    rw [Bool.and_eq_true, beq_iff_eq] at test
    obtain ⟨P, hp, array⟩ := array_of_isAllocated test.2
    have is : isReport 1 (.handleFinishedTransfer 1 allOutputs, .finished none out') = true :=
      isReport_iff.mpr ⟨_, _, _, rfl, rfl, test.1⟩
    exact ⟨s, s', P, _, reach, hp, step, report_truthful_iff reach hp array
      (Option.some_ne_none _) (Option.some_ne_none _) (Option.some_ne_none _) step is⟩

end Libusbp.Linux
