import Libusbp.TransferInv
import Libusbp.PipeQueue

/-!
# Reports that are functions of outcomes

Outside of Linux, a transfer stores a count of the bytes that its last submission received, which is
reset by every submission. The outcome of a submission is whether it failed, and its bytes; a
transfer that is not pending shows the outcome of its last submission (`Fields.Shows`), and so does
every report (`Outcome.ShownBy`).
-/

namespace Libusbp

open Prog Heap

variable {τ κ α γ : Type}

/-- What a submission came to. -/
structure Outcome where
  failed : Bool
  count : Nat
  data : Bytes

/-- The outputs, which were `out` before, show the outcome: the byte count, the bytes in front of what
the buffer held before, and an error exactly if the submission failed. -/
structure Outcome.ShownBy (o : Outcome) (out outr : Outputs) : Prop where
  transferred : outr.transferred = out.transferred.map fun _ => o.count
  buffer : outr.buffer = out.buffer.map fun buffer => memcpy buffer o.data o.count
  transferError : outr.transferError.isSome = out.transferError.isSome
  failed : ∀ error, outr.transferError = some error → (error ≠ none ↔ o.failed = true)

/-- The results of a transfer of `size` bytes show the outcome of its last submission. -/
def OutcomeReport (outcome : α → Option γ → Option Outcome) (calls : List (Call α γ)) (t : Addr)
    (size : Nat) (out outr : Outputs) : Prop :=
  ∀ a g, lastSubmission t calls = some (a, g) →
    ∃ o, outcome a g = some o ∧ o.count ≤ size ∧ o.ShownBy out outr

/-- What is read out of a transfer struct. -/
structure Fields (τ : Type) where
  block : τ → Option Loc
  size : τ → Nat
  pending : τ → Bool
  error : τ → Option Error
  transferred : τ → Nat
  buffer : τ → Bytes

namespace Fields

variable (f : Fields τ) (outcome : α → Option γ → Option Outcome)

abbrev view : View τ := ⟨⟨f.block, f.error⟩, f.size, f.pending⟩

/-- The struct holds an outcome. -/
structure Shows (T : τ) (o : Outcome) : Prop where
  idle : f.pending T = false
  error : f.error T ≠ none ↔ o.failed = true
  transferred : f.transferred T = o.count
  count_le : o.count ≤ f.size T
  data : ∀ i < o.count, f.buffer T i = o.data i

/-- What the fields of a transfer say about its last submission: its outcome, once there is one. -/
def Fate (T : τ) : Option (α × Option γ) → Prop
  | none => f.pending T = false
  | some (a, g) => match outcome a g with
    | some o => f.Shows T o
    | none => f.pending T = true ∧ g = none

variable {f outcome}

lemma Fate.pending_iff {T : τ} {last : Option (α × Option γ)} (fate : f.Fate outcome T last) :
    f.pending T = true ↔ ∃ a, last = some (a, none) ∧ (outcome a none).isNone = true := by
  have idle : f.pending T = false → ¬f.pending T = true := fun idle pend => by
    rw [idle] at pend
    cases pend
  cases last with
  | none => exact ⟨fun pend => absurd pend (idle fate), fun ⟨_, eq, _⟩ => by cases eq⟩
  | some last =>
    obtain ⟨a, g⟩ := last
    unfold Fate at fate
    cases eq : outcome a g with
    | some o =>
      simp only [eq] at fate
      refine ⟨fun pend => absurd pend (idle fate.idle), ?_⟩
      rintro ⟨_, ⟨⟩, isNone⟩
      rw [eq] at isNone
      cases isNone
    | none =>
      simp only [eq] at fate
      obtain ⟨pend, rfl⟩ := fate
      exact ⟨fun _ => ⟨a, rfl, by rw [eq]; rfl⟩, fun _ => pend⟩

lemma Shows.fate {T : τ} {o : Outcome} {a : α} {g : Option γ} (isOutcome : outcome a g = some o)
    (shows : f.Shows T o) : f.Fate outcome T (some (a, g)) := by
  simp only [Fate, isOutcome]
  exact shows

/-- While a transfer is pending, only its pending flag says something. -/
lemma Fate.of_pending {T T' : τ} {last : Option (α × Option γ)} (fate : f.Fate outcome T last)
    (pend : f.pending T = true) (pend' : f.pending T' = true) : f.Fate outcome T' last := by
  obtain ⟨a, rfl, isNone⟩ := fate.pending_iff.mp pend
  simp only [Fate, Option.isNone_iff_eq_none.mp isNone]
  exact ⟨pend', trivial⟩

variable (f outcome)

/-- What the invariant of a backend with these fields is about. -/
abbrev spec (wf : Addr → τ → Prop) (inFlight : κ → List Addr) (completion : γ → Prop) :
    TransferSpec τ κ α γ where
  view := f.view
  wf := wf
  inFlight := inFlight
  outstanding a := (outcome a none).isNone
  fate := f.Fate outcome
  completion := completion
  pending_iff := Fate.pending_iff

variable {f outcome}

/-- The results that are copied out of a struct show the outcome that it holds. -/
lemma Shows.shownBy {T : τ} {o : Outcome} {out outr : Outputs} (shows : f.Shows T o)
    (transferred : outr.transferred = out.transferred.map fun _ => f.transferred T)
    (buffer : outr.buffer =
      out.buffer.map fun buffer => memcpy buffer (f.buffer T) (f.transferred T))
    (isSome : outr.transferError.isSome = out.transferError.isSome)
    (copied : ∀ error, outr.transferError = some error → (error = none ↔ f.error T = none)) :
    o.ShownBy out outr where
  transferred := by rw [transferred, shows.transferred]
  buffer := by
    rw [buffer, shows.transferred]
    congr
    funext buffer i
    unfold memcpy
    split
    case isTrue lt => exact shows.data i lt
    case isFalse => rfl
  transferError := isSome
  failed := by
    intro error eq
    rw [← shows.error, not_iff_not]
    exact copied error eq

/-- The results of a transfer that is not pending show the outcome of its last submission. The clamp
of `async_in_transfer_get_results` has no effect. -/
lemma Fate.report {T : τ} {calls : List (Call α γ)} {t : Addr} {out outr : Outputs}
    (fate : f.Fate outcome T (lastSubmission t calls)) (idle : f.pending T = false)
    (transferred : outr.transferred = out.transferred.map fun _ =>
      if f.transferred T > f.size T then f.size T else f.transferred T)
    (buffer : outr.buffer = out.buffer.map fun buffer => memcpy buffer (f.buffer T)
      (if f.transferred T > f.size T then f.size T else f.transferred T))
    (isSome : outr.transferError.isSome = out.transferError.isSome)
    (copied : ∀ error, outr.transferError = some error → (error = none ↔ f.error T = none)) :
    OutcomeReport outcome calls t (f.size T) out outr := by
  intro a g last
  rw [last] at fate
  unfold Fate at fate
  cases eq : outcome a g with
  | none =>
    simp only [eq] at fate
    rw [idle] at fate
    cases fate.1
  | some o =>
    simp only [eq] at fate
    have small : ¬f.transferred T > f.size T := by
      rw [fate.transferred]
      exact Nat.not_lt.mpr fate.count_le
    rw [if_neg small] at transferred buffer
    exact ⟨o, rfl, fate.count_le, fate.shownBy transferred buffer isSome copied⟩

end Fields

variable {B : Backend τ κ α γ} {h : Handle} {C : Contract B h} {s s' : Sys τ κ α γ} {p : Addr}
  {P : Pipe}

/-- The report with the number `k`, which the call that answers `r` in `s` is: it is read out of the
transfer that the submission with the number `k` submitted, after a poll of that and nothing else, and
shows the outcome of that submission. -/
def ShowsOutcome (outcome : α → Option γ → Option Outcome) (s : Sys τ κ α γ) (P : Pipe) (k : Nat)
    (e : Event) (p : Addr) (r : Reply) (s' : Sys τ κ α γ) : Prop :=
  ∃ out outr t a g o pre, e = .handleFinishedTransfer p out ∧
    r = .finished none { outr with finished := some true } ∧
    Fifo.lastPush t (queueOps P.transfers s.dev.calls) = some k ∧
    Polled t s.dev.calls pre ∧ .results t outr :: pre <:+ s'.dev.calls ∧ lastSubmission t pre = some (a, g) ∧
    outcome a g = some o ∧ o.count ≤ P.transferSize ∧ o.ShownBy (resetOutputs out) outr

/-- The next finished report of a pipe shows the outcome of the oldest submission that was not
reported yet. -/
lemma StepResult.showsOutcome {outcome : α → Option γ → Option Outcome} {e : Event} {r : Reply}
    (report : ∀ {calls t size out outr}, C.Report calls t size out outr →
      OutcomeReport outcome calls t size out outr)
    (step : StepResult C s e r s') (hp : s.pipes p = some P) (al : Allocated C.view s.dev P)
    (is : isReport p (e, r) = true) :
    ShowsOutcome outcome s P (Fifo.pops (queueOps P.transfers s.dev.calls)).length e p r s' := by
  obtain ⟨out, outr, t, pre, eq, answer, _, poll, sfx, pushed, shown⟩ := step.report hp al is
  have polled := C.poll poll
  have submitted : lastSubmission t s.dev.calls ≠ none := by
    apply lastSubmission_ne_none
    rw [pushed]
    exact Option.some_ne_none _
  obtain ⟨⟨a, g⟩, last⟩ := Option.ne_none_iff_exists'.mp (polled.lastSubmission_ne_none submitted)
  obtain ⟨o, isOutcome, le, shownBy⟩ := report shown a g last
  exact ⟨out, outr, t, a, g, o, pre, eq, answer, pushed, polled, sfx, last, isOutcome, le, shownBy⟩

/-- What the pipe at `p` reports after the calls `es` were answered by `rs`: as many results were read
out as there are finished reports, and the next finished report shows the outcome of the submission
with the number of that report. -/
structure ReportsOutcomes (B : Backend τ κ α γ) (outcome : α → Option γ → Option Outcome) (p : Addr)
    (P : Pipe) (es : List Event) (rs : List Reply) (s : Sys τ κ α γ) : Prop where
  count : (∀ out, .handleFinishedTransfer p out ∈ es → out.finished ≠ none) →
    (es.zip rs).countP (isReport p) = (Fifo.pops (queueOps P.transfers s.dev.calls)).length
  next : ∀ e r s', B.step e s = .ok (r, s') → isReport p (e, r) = true →
    ShowsOutcome outcome s P (Fifo.pops (queueOps P.transfers s.dev.calls)).length e p r s'

/-- Every run keeps the invariant of a backend. -/
lemma SysInv.run {es : List Event} {rs : List Reply} (inv : SysInv C s)
    (run : Machine.run B.step es s = .ok (rs, s')) : SysInv C s' := by
  apply Machine.run_inv _ inv run
  intro e _ s r s' inv step
  exact (step_result inv step).sysInv inv

/-- A backend whose results show outcomes makes every pipe report the outcomes of its submissions. -/
lemma reportsOutcomes {outcome : α → Option γ → Option Outcome} {es : List Event} {rs : List Reply}
    (report : ∀ {calls t size out outr}, C.Report calls t size out outr →
      OutcomeReport outcome calls t size out outr)
    (fresh : s.Fresh h) (inv : C.Inv s.dev) (run : Machine.run B.step es s = .ok (rs, s'))
    (hp : s'.pipes p = some P) (array : P.transferArray ≠ none) :
    ReportsOutcomes B outcome p P es rs s' where
  count asks := by
    have counted : Counted C p (es.zip rs) s' := Counted.run fresh inv run asks
    exact counted.reports P hp
  next := by
    intro e r s'' step is
    have inv' := (fresh.sysInv inv).run run
    exact (step_result inv' step).showsOutcome report hp (inv'.allocated hp array) is

end Libusbp
