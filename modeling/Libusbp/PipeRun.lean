import Libusbp.PipeMemory
import Libusbp.Lib.Machine

/-!
# Runs of a system of pipes

`StepResult` says once what one call of the interface can do, and `SysInv` is the invariant of a
whole system: the device invariant, the invariant of every open pipe, and that different pipes own
different transfers. `wp_step` shows that an admitted call returns with a `StepResult`, and
`StepResult.sysInv` that a `StepResult` keeps the invariant; every property of runs follows from
these two.
-/

namespace Libusbp

open Prog Heap

variable {τ κ α γ : Type} {B : Backend τ κ α γ} {h : Handle} {C : Contract B h}
  {s : Sys τ κ α γ}

/-- The invariant of a system. -/
structure SysInv (C : Contract B h) (s : Sys τ κ α γ) : Prop where
  handle : s.handle = h
  inv : C.Inv s.dev
  pipes : ∀ p P, s.pipes p = some P → PipeInv C.view h s.dev P
  fresh : ∀ p P, s.pipes p = some P → p < s.dev.heap.next
  disjoint : ∀ p q P Q, s.pipes p = some P → s.pipes q = some Q → p ≠ q →
    List.Disjoint P.transfers Q.transfers

/-- A system on which nothing was opened yet. -/
structure Sys.Fresh (h : Handle) (s : Sys τ κ α γ) : Prop where
  handle : s.handle = h
  pipes : ∀ p, s.pipes p = none
  transfers : ∀ t, s.dev.transfers t = none
  calls : s.dev.calls = []

lemma Sys.Fresh.sysInv (fresh : s.Fresh h) (inv : C.Inv s.dev) : SysInv C s where
  handle := fresh.handle
  inv := inv
  pipes := by
    intro p P hp
    rw [fresh.pipes p] at hp
    cases hp
  fresh := by
    intro p P hp
    rw [fresh.pipes p] at hp
    cases hp
  disjoint := by
    intro p q P Q hp
    rw [fresh.pipes p] at hp
    cases hp

/-- A call that changed nothing but the heap. -/
structure Untouched (C : Contract B h) (s : Sys τ κ α γ) (p : Addr) (P : Pipe)
    (s' : Sys τ κ α γ) : Prop where
  after : After C s p P s'
  transfers : s'.dev.transfers = s.dev.transfers
  calls : s'.dev.calls = s.dev.calls

/-- What a call started in `s` can answer and leave behind. -/
inductive StepResult (C : Contract B h) (s : Sys τ κ α γ) :
    Event → Reply → Sys τ κ α γ → Prop where
  | unused {e p} : e.pipe? = some p → s.pipes p = none → StepResult C s e .unused s
  | create {pipeId error pipe s'} : CreateResult C s pipeId (error, pipe) s' →
    StepResult C s (.create pipeId) (.created error pipe) s'
  | allocate {p pipeId n size error s'} : s.pipes p = some (.opened h pipeId) →
    AllocateResult C s p (.opened h pipeId) n size error s' →
    StepResult C s (.allocateTransfers p n size) (.done error) s'
  | allocateAgain {p P n size e s'} : s.pipes p = some P → Allocated C.view s.dev P →
    Untouched C s p P s' → StepResult C s (.allocateTransfers p n size) (.done (some e)) s'
  | startOpened {p P e s'} : s.pipes p = some P → P.transferArray = none →
    Untouched C s p P s' → StepResult C s (.startEndlessTransfers p) (.done (some e)) s'
  | start {p P P' s'} : s.pipes p = some P → Allocated C.view s.dev P → P.Same P' →
    After C s p P' s' → Allocated C.view s'.dev P' → P'.endlessTransfersEnabled = true →
    P'.pendingCount = P'.transferCount → P'.nextFinish = P.nextFinish →
    Submits P.transfers s.dev s'.dev →
    StepResult C s (.startEndlessTransfers p) (.done none) s'
  | events {p P error s'} : s.pipes p = some P → s'.handle = s.handle → s'.pipes = s.pipes →
    C.Inv s'.dev → Touches C.view [] s.dev s'.dev →
    StepResult C s (.handleEvents p) (.done error) s'
  | hasPending {p P result error s'} : s.pipes p = some P → Untouched C s p P s' →
    (result ≠ none → error = none) →
    StepResult C s (.hasPendingTransfers p result)
      (.pending error (result.map fun _ => P.pendingCount != 0)) s'
  | finishOpened {p P out} : s.pipes p = some P → P.pendingCount = 0 → P.transferArray = none →
    StepResult C s (.handleFinishedTransfer p out) (.finished none (resetOutputs out)) s
  | finish {p P out error out' s'} : s.pipes p = some P → Allocated C.view s.dev P →
    FinishResult C s p P out (error, out') s' →
    StepResult C s (.handleFinishedTransfer p out) (.finished error out') s'
  | cancelOpened {p pipeId s'} : s.pipes p = some (.opened h pipeId) → B.linux = true →
    Cancelled C s p (.opened h pipeId) s' → StepResult C s (.cancelTransfers p) (.done none) s'
  | cancel {p P error s'} : s.pipes p = some P → Allocated C.view s.dev P →
    Cancelled C s p P s' → StepResult C s (.cancelTransfers p) (.done error) s'
  | close {p P s'} : s.pipes p = some P → Closed C s p P s' →
    StepResult C s (.close p) .closed s'

/-- Outside of Linux, `cancel_transfers` may not be called before the transfers are allocated. -/
def Backend.Admits (B : Backend τ κ α γ) (e : Event) (s : Sys τ κ α γ) : Prop :=
  B.linux = true ∨ ∀ p P, e = .cancelTransfers p → s.pipes p = some P → P.transferArray ≠ none

variable {s' : Sys τ κ α γ} {p : Addr} {P : Pipe}

/-- The pipe is as it was opened, or has allocated transfers. -/
lemma SysInv.cases (inv : SysInv C s) (hp : s.pipes p = some P) :
    (∃ pipeId, P = .opened h pipeId ∧ pipeId &&& 0x80 ≠ 0) ∨ Allocated C.view s.dev P := by
  have pinv := inv.pipes p P hp
  rcases pinv.state with opened | ⟨al, _⟩
  · exact .inl ⟨P.pipeId, opened, pinv.pipeId⟩
  · exact .inr al

/-- An open pipe with an array has its transfers allocated. -/
lemma SysInv.allocated (inv : SysInv C s) (hp : s.pipes p = some P) (array : P.transferArray ≠ none) :
    Allocated C.view s.dev P := by
  rcases inv.cases hp with ⟨pipeId, rfl, _⟩ | al
  · exact absurd rfl array
  · exact al

/-- A call on an open pipe is not left out. -/
lemma Event.used {e : Event} {q : Addr} (hp : s.pipes p = some P) (call : e.pipe? = some p)
    (about : e.pipe? = some q) : s.pipes q ≠ none := by
  rw [call] at about
  cases about
  rw [hp]
  exact Option.some_ne_none P

/-- A call on the pipe at `p` works on the struct that is there. -/
lemma Event.operand {e : Event} {q : Addr} {Q : Pipe} (hp : s.pipes p = some P)
    (call : e.pipe? = some p) (about : e.pipe? = some q) (hq : s.pipes q = some Q) :
    q = p ∧ Q = P := by
  rw [call] at about
  cases about
  rw [hp] at hq
  cases hq
  exact ⟨rfl, rfl⟩

/-- An admitted call on an open pipe returns, and does what `StepResult` says. -/
lemma wp_exec (inv : SysInv C s) (e : Event) (adm : B.Admits e s)
    (op : ∀ p, e.pipe? = some p → ∃ P, s.pipes p = some P) :
    wp (B.exec e) (StepResult C s e) s := by
  cases e with
  | create pipeId =>
    simp only [Backend.exec, wp_bind, wp_get, inv.handle, wp_pure]
    apply wp_mono (wp_createPipe (C := C) inv.inv)
    rintro ⟨error, pipe⟩ s' result
    exact .create result
  | allocateTransfers p n size =>
    obtain ⟨P, hp⟩ := op p rfl
    simp only [Backend.exec, wp_bind, wp_pure]
    -- a second call is refused, because the array is there
    rcases inv.cases hp with ⟨pipeId, rfl, input⟩ | al
    · apply wp_mono (wp_allocate_opened (C := C) inv.inv input hp)
      intro error s' result
      exact .allocate hp result
    · apply wp_mono (wp_allocate_allocated inv.inv hp al)
      rintro error s' ⟨ne, after, transfers, calls⟩
      obtain ⟨e, rfl⟩ := Option.ne_none_iff_exists'.mp ne
      exact .allocateAgain hp al ⟨after, transfers, calls⟩
  | startEndlessTransfers p =>
    obtain ⟨P, hp⟩ := op p rfl
    simp only [Backend.exec, wp_bind, wp_pure]
    rcases inv.cases hp with ⟨pipeId, rfl, _⟩ | al
    · apply wp_mono (wp_start_opened (C := C) inv.inv hp rfl)
      rintro error s' ⟨ne, after, transfers, calls⟩
      obtain ⟨e, rfl⟩ := Option.ne_none_iff_exists'.mp ne
      exact .startOpened hp rfl ⟨after, transfers, calls⟩
    · apply wp_mono (wp_start_allocated inv.inv hp al)
      rintro error s' ⟨rfl, P', same, after, al', endless, full, next, subs⟩
      exact .start hp al same after al' endless full next subs
  | handleEvents p =>
    obtain ⟨P, hp⟩ := op p rfl
    simp only [Backend.exec, wp_bind, wp_pure]
    apply wp_mono (wp_handleEvents (C := C) inv.inv hp (inv.pipes p P hp).handle)
    rintro error s' ⟨handle, pipes, inv', touch⟩
    exact .events hp handle pipes inv' touch
  | hasPendingTransfers p result =>
    obtain ⟨P, hp⟩ := op p rfl
    simp only [Backend.exec, wp_bind, wp_pure]
    apply wp_mono (wp_hasPending (C := C) inv.inv hp result)
    rintro ⟨error, answer⟩ s' ⟨rfl, none, after, transfers, calls⟩
    exact .hasPending hp ⟨after, transfers, calls⟩ none
  | handleFinishedTransfer p out =>
    obtain ⟨P, hp⟩ := op p rfl
    simp only [Backend.exec, wp_bind, wp_pure]
    rcases inv.cases hp with ⟨pipeId, rfl, _⟩ | al
    · apply wp_mono (wp_finish_opened (B := B) hp rfl)
      rintro ⟨error, out'⟩ s' ⟨eq, rfl⟩
      cases eq
      exact .finishOpened hp rfl rfl
    · apply wp_mono (wp_finish_allocated inv.inv hp al)
      rintro ⟨error, out'⟩ s' result
      exact .finish hp al result
  | cancelTransfers p =>
    obtain ⟨P, hp⟩ := op p rfl
    simp only [Backend.exec, wp_bind, wp_pure]
    rcases inv.cases hp with ⟨pipeId, rfl, _⟩ | al
    · -- only Linux does not look at the array
      rcases adm with linux | allocated
      · apply wp_mono (wp_cancel_opened (C := C) inv.inv hp linux rfl)
        rintro error s' ⟨rfl, cancelled⟩
        exact .cancelOpened hp linux cancelled
      · exact absurd rfl (allocated p _ rfl hp)
    · apply wp_mono (wp_cancel_allocated inv.inv hp al)
      intro error s' cancelled
      exact .cancel hp al cancelled
  | close p =>
    obtain ⟨P, hp⟩ := op p rfl
    simp only [Backend.exec, wp_bind, wp_pure]
    rcases inv.cases hp with ⟨pipeId, rfl, _⟩ | al
    · apply wp_mono (wp_close_opened (C := C) inv.inv hp)
      intro _ s' closed
      exact .close hp closed
    · apply wp_mono (wp_close_allocated inv.inv hp al)
      intro _ s' closed
      exact .close hp closed

/-- Every admitted call returns, and does what `StepResult` says. -/
lemma wp_step (inv : SysInv C s) (e : Event) (adm : B.Admits e s) :
    wp (B.step e) (StepResult C s e) s := by
  simp only [Backend.step, wp_bind, wp_get]
  cases about : e.pipe? with
  | none =>
    apply wp_exec inv e adm
    intro p eq
    rw [about] at eq
    cases eq
  | some p =>
    apply wp_ite
    · intro isOpen
      apply wp_exec inv e adm
      intro q eq
      rw [about] at eq
      cases eq
      exact Option.isSome_iff_exists.mp isOpen
    · intro closed
      rw [wp_pure]
      rw [Option.not_isSome_iff_eq_none] at closed
      exact .unused about closed

/-! ## The invariant of a system -/

/-- The pipe at `p` may change with its own transfers, as long as it keeps its invariant. -/
lemma SysInv.after {P' : Pipe} (inv : SysInv C s) (hp : s.pipes p = some P)
    (after : After C s p P' s') (pinv : PipeInv C.view h s'.dev P')
    (own : ∀ q Q, s.pipes q = some Q → q ≠ p → List.Disjoint P'.transfers Q.transfers) :
    SysInv C s' := by
  have other : ∀ {q Q}, s'.pipes q = some Q → q ≠ p → s.pipes q = some Q := by
    intro q Q hq ne
    rwa [after.pipes, Function.update_of_ne ne] at hq
  have self : ∀ {Q}, s'.pipes p = some Q → Q = P' := fun hq => (after.unique hq).symm
  refine ⟨after.handle.trans inv.handle, after.inv, ?_, ?_, ?_⟩
  · intro q Q hq
    by_cases e : q = p
    · subst e
      rw [self hq]
      exact pinv
    · exact (inv.pipes q Q (other hq e)).frame after.touches (own q Q (other hq e) e)
  · intro q Q hq
    apply Nat.lt_of_lt_of_le _ after.touches.heap.next
    by_cases e : q = p
    · subst e
      exact inv.fresh _ P hp
    · exact inv.fresh q Q (other hq e)
  · intro q r Q R hq hr ne
    by_cases e : q = p
    · subst e
      rw [self hq]
      exact own r R (other hr ne.symm) ne.symm
    · by_cases e' : r = p
      · subst e'
        rw [self hr]
        exact List.disjoint_symm (own q Q (other hq e) e)
      · exact inv.disjoint q r Q R (other hq e) (other hr e') ne

/-- A pipe that keeps its transfers keeps them apart from the others. -/
lemma SysInv.same {P' : Pipe} (inv : SysInv C s) (hp : s.pipes p = some P)
    (after : After C s p P' s') (same : P'.transfers = P.transfers)
    (pinv : PipeInv C.view h s'.dev P') : SysInv C s' := by
  apply inv.after hp after pinv
  intro q Q hq ne
  rw [same]
  exact inv.disjoint p q P Q hp hq ne.symm

lemma SysInv.untouched (inv : SysInv C s) (hp : s.pipes p = some P)
    (u : Untouched C s p P s') : SysInv C s' := by
  apply inv.same hp u.after rfl
  apply (inv.pipes p P hp).frame _ (List.disjoint_nil_left _)
  apply Touches.of_same u.after.touches.heap u.transfers
  intro us
  rw [u.calls]

/-- An allocated pipe stays an open pipe as long as the endless flag means a full ring. -/
lemma PipeInv.of_same {d : Dev τ κ α γ} {P' : Pipe} (pinv : PipeInv C.view h d P)
    (same : P.Same P') {d' : Dev τ κ α γ} (al : Allocated C.view d' P')
    (full : P'.endlessTransfersEnabled = true → P'.pendingCount = P'.transferCount) :
    PipeInv C.view h d' P' where
  handle := same.handle.trans pinv.handle
  pipeId := by
    rw [same.pipeId]
    exact pinv.pipeId
  state := .inr ⟨al, full⟩

/-- The endless flag of an allocated pipe means a full ring. -/
lemma SysInv.full (inv : SysInv C s) (hp : s.pipes p = some P) (al : Allocated C.view s.dev P)
    (endless : P.endlessTransfersEnabled = true) : P.pendingCount = P.transferCount := by
  rcases (inv.pipes p P hp).state with opened | ⟨_, full⟩
  · have pos := al.pos
    rw [opened] at pos
    cases pos
  · exact full endless

lemma SysInv.closed (inv : SysInv C s) (hp : s.pipes p = some P) (c : Closed C s p P s') :
    SysInv C s' := by
  have other : ∀ {q Q}, s'.pipes q = some Q → q ≠ p ∧ s.pipes q = some Q := by
    intro q Q hq
    rw [c.pipes] at hq
    by_cases e : q = p
    · rw [e, Function.update_self] at hq
      cases hq
    · exact ⟨e, by rwa [Function.update_of_ne e] at hq⟩
  refine ⟨c.handle.trans inv.handle, c.released.inv, ?_, ?_, ?_⟩
  · intro q Q hq
    obtain ⟨ne, hq⟩ := other hq
    exact (inv.pipes q Q hq).frame c.released.touches (inv.disjoint p q P Q hp hq ne.symm)
  · intro q Q hq
    exact Nat.lt_of_lt_of_le (inv.fresh q Q (other hq).2) c.released.heap.next
  · intro q r Q R hq hr ne
    exact inv.disjoint q r Q R (other hq).2 (other hr).2 ne

lemma SysInv.create {pipeId : UInt8} {r : Option Error × Option (Option Addr)} (inv : SysInv C s)
    (c : CreateResult C s pipeId r s') : SysInv C s' := by
  cases c with
  | failed handle pipes rel =>
    refine ⟨handle.trans inv.handle, rel.inv, ?_, ?_, ?_⟩
    · intro q Q hq
      rw [pipes] at hq
      exact (inv.pipes q Q hq).frame rel.touches (List.disjoint_nil_left _)
    · intro q Q hq
      rw [pipes] at hq
      exact Nat.lt_of_lt_of_le (inv.fresh q Q hq) rel.heap.next
    · intro q r Q R hq hr
      rw [pipes] at hq hr
      exact inv.disjoint q r Q R hq hr
  | @created p _ input handle fresh below pipes rel =>
    -- the new pipe owns no transfer yet
    have cases : ∀ {q Q}, s'.pipes q = some Q → Q = .opened h pipeId ∧ q = p ∨
        s.pipes q = some Q := by
      intro q Q hq
      rw [pipes] at hq
      by_cases e : q = p
      · rw [e, Function.update_self] at hq
        cases hq
        exact .inl ⟨rfl, e⟩
      · exact .inr (by rwa [Function.update_of_ne e] at hq)
    refine ⟨handle.trans inv.handle, rel.inv, ?_, ?_, ?_⟩
    · intro q Q hq
      rcases cases hq with ⟨rfl, _⟩ | hq
      · exact ⟨rfl, input, .inl rfl⟩
      · exact (inv.pipes q Q hq).frame rel.touches (List.disjoint_nil_left _)
    · intro q Q hq
      rcases cases hq with ⟨_, rfl⟩ | hq
      · exact below
      · exact Nat.lt_of_lt_of_le (inv.fresh q Q hq) rel.heap.next
    · intro q r Q R hq hr ne
      rcases cases hq with ⟨rfl, _⟩ | hq
      · exact List.disjoint_nil_left _
      · rcases cases hr with ⟨rfl, _⟩ | hr
        · exact List.disjoint_nil_right _
        · exact inv.disjoint q r Q R hq hr ne

/-- Fresh transfers are no transfers of an open pipe. -/
lemma SysInv.disjoint_fresh {ts : List Addr} (inv : SysInv C s) (hp : s.pipes p = some P)
    (fresh : ∀ t ∈ ts, s.dev.heap.next ≤ t) : List.Disjoint ts P.transfers := by
  intro t mem mem'
  have old : Allocated C.view s.dev P := by
    rcases inv.cases hp with ⟨_, rfl, _⟩ | al
    · cases mem'
    · exact al
  obtain ⟨T, hT, _⟩ := old.live t mem'
  exact absurd (C.liveFresh inv.inv hT) (Nat.not_lt.mpr (fresh t mem))

lemma SysInv.allocate {pipeId : UInt8} {n size : Nat} {r : Option Error} (inv : SysInv C s)
    (hp : s.pipes p = some (.opened h pipeId))
    (a : AllocateResult C s p (.opened h pipeId) n size r s') : SysInv C s' := by
  cases a with
  | failed after transfers calls => exact inv.untouched hp ⟨after, transfers, calls⟩
  | @done _ P' a ts _ _ _ fresh eq after al =>
    subst eq
    apply inv.after hp after
    · exact ⟨rfl, (inv.pipes p _ hp).pipeId, .inr ⟨al, fun endless => by cases endless⟩⟩
    · intro q Q hq _
      rw [Pipe.transfers_of_array rfl]
      exact inv.disjoint_fresh hq fresh

lemma SysInv.finish {out : Outputs} {r : Option Error × Outputs} (inv : SysInv C s)
    (hp : s.pipes p = some P) (al : Allocated C.view s.dev P)
    (f : FinishResult C s p P out r s') : SysInv C s' := by
  have pinv := inv.pipes p P hp
  cases f with
  | idle after al' => exact inv.same hp after rfl (pinv.of_same .refl al' (inv.full hp al))
  | @finished _ _ _ _ P' queue _ _ after al' _ last =>
    by_cases endless : P.endlessTransfersEnabled = true
    · rw [if_pos endless] at last
      obtain ⟨rfl, _⟩ := last
      apply inv.same hp after rfl
      apply pinv.of_same (Pipe.Same.finished.trans .submitted) al'
      intro _
      have full := inv.full hp al endless
      have pos := al.pos
      show P.pendingCount - 1 + 1 = P.transferCount
      omega
    · rw [if_neg endless] at last
      obtain ⟨rfl, _⟩ := last
      apply inv.same hp after rfl
      exact pinv.of_same .finished al' fun endless' => absurd endless' endless

/-- Whatever a call does keeps the invariant of the system. -/
lemma StepResult.sysInv {e : Event} {r : Reply} (inv : SysInv C s) (step : StepResult C s e r s') :
    SysInv C s' := by
  cases step with
  | unused => exact inv
  | create c => exact inv.create c
  | allocate hp a => exact inv.allocate hp a
  | allocateAgain hp _ u => exact inv.untouched hp u
  | startOpened hp _ u => exact inv.untouched hp u
  | start hp al same after al' _ full =>
    exact inv.same hp after same.transfers ((inv.pipes _ _ hp).of_same same al' fun _ => full)
  | events hp handle pipes inv' touch =>
    refine ⟨handle.trans inv.handle, inv', ?_, ?_, ?_⟩
    · intro q Q hq
      rw [pipes] at hq
      exact (inv.pipes q Q hq).frame touch (List.disjoint_nil_left _)
    · intro q Q hq
      rw [pipes] at hq
      exact Nat.lt_of_lt_of_le (inv.fresh q Q hq) touch.heap.next
    · intro q r Q R hq hr
      rw [pipes] at hq hr
      exact inv.disjoint q r Q R hq hr
  | hasPending hp u => exact inv.untouched hp u
  | finishOpened => exact inv
  | finish hp al f => exact inv.finish hp al f
  | cancelOpened hp _ c =>
    apply inv.same hp c.after rfl
    exact ⟨rfl, (inv.pipes _ _ hp).pipeId, .inl rfl⟩
  | cancel hp al c =>
    apply inv.same hp c.after rfl
    refine PipeInv.of_same (inv.pipes _ _ hp) ?_ (c.allocated al) ?_
    · exact ⟨rfl, rfl, rfl, rfl, rfl⟩
    · intro endless
      cases endless
  | close hp c => exact inv.closed hp c

/-! ## Runs -/

/-- A call on an open pipe is carried out. -/
lemma step_eq_exec {e : Event} (hp : s.pipes p = some P) (about : e.pipe? = some p) :
    B.step e s = B.exec e s := by
  simp only [Backend.step, about]
  rw [bind_of_ok get_ok, hp]
  rfl

lemma step_unused {e : Event} (closed : s.pipes p = none) (about : e.pipe? = some p) :
    B.step e s = .ok (.unused, s) := by
  simp only [Backend.step, about]
  rw [bind_of_ok get_ok, closed]
  rfl

/-- A call that is not admitted reads through the null array. -/
lemma step_fault {e : Event} (forbidden : ¬B.Admits e s) :
    B.step e s = .error .nullPointer := by
  simp only [Backend.Admits, not_or, Bool.not_eq_true, not_forall, not_not] at forbidden
  obtain ⟨other, p, P, rfl, hp, none⟩ := forbidden
  rw [step_eq_exec hp rfl, Backend.exec]
  exact bind_of_error (cancel_opened_fault hp other none)

/-- Whatever a call answered and left behind, it is a `StepResult`. -/
lemma step_result {e : Event} {r : Reply} (inv : SysInv C s) (run : B.step e s = .ok (r, s')) :
    StepResult C s e r s' := by
  by_cases adm : B.Admits e s
  · exact (wp_step inv e adm).elim run
  · rw [step_fault adm] at run
    cases run

/-- A run of admitted calls returns, and keeps the invariant. -/
lemma wp_run {es : List Event} (inv : SysInv C s) (adm : Machine.Along B.step B.Admits es s) :
    wp (Machine.run B.step es) (fun _ s' => SysInv C s') s :=
  Machine.wp_run (fun e _ inv adm => wp_mono (wp_step inv e adm) fun _ _ step => step.sysInv inv)
    inv adm

/-- A run stops only at a call that is not admitted, which reads through the null array. -/
lemma run_fault {es : List Event} {f : Fault} (inv : SysInv C s)
    (stops : Machine.run B.step es s = .error f) : f = .nullPointer := by
  have keeps : ∀ e s r s', SysInv C s → B.step e s = .ok (r, s') → SysInv C s' :=
    fun _ _ _ _ inv run => (step_result inv run).sysInv inv
  obtain ⟨e, t, inv', fault⟩ := Machine.run_error keeps inv stops
  have forbidden : ¬B.Admits e t := by
    intro adm
    obtain ⟨r, s', run, _⟩ := wp_step inv' e adm
    rw [run] at fault
    cases fault
  rw [step_fault forbidden] at fault
  cases fault
  rfl

/-- Outputs with no null pointer. -/
def allOutputs : Outputs := ⟨some false, some fun _ => 0, some 0, some none⟩

/-- Whether a pipe with allocated transfers is open at `p`. -/
def isAllocated (p : Addr) (s : Sys τ κ α γ) : Bool :=
  (s.pipes p).any fun P => P.transferArray.isSome

lemma array_of_isAllocated (isAllocated : isAllocated p s = true) :
    ∃ P, s.pipes p = some P ∧ P.transferArray ≠ none := by
  cases hp : s.pipes p with
  | none =>
    rw [Libusbp.isAllocated, hp] at isAllocated
    cases isAllocated
  | some P =>
    rw [Libusbp.isAllocated, hp] at isAllocated
    exact ⟨P, rfl, Option.isSome_iff_ne_none.mp isAllocated⟩

/-- Whether a pipe with `n` pending transfers is open at `p`. -/
def hasCount (p : Addr) (n : Nat) (s : Sys τ κ α γ) : Bool :=
  (s.pipes p).any fun P => P.pendingCount == n

lemma pipe_of_hasCount {n : Nat} (count : hasCount p n s = true) :
    ∃ P, s.pipes p = some P ∧ P.pendingCount = n := by
  obtain ⟨P, hp, eq⟩ := (Option.any_eq_true ..).mp count
  exact ⟨P, hp, beq_iff_eq.mp eq⟩

/-- A pipe is opened and filled. -/
def fillEvents : List Event := [.create 0x81, .allocateTransfers 1 2 8, .startEndlessTransfers 1]

/-- Both of its transfers are reported. -/
def reportEvents : List Event :=
  [.handleFinishedTransfer 1 allOutputs, .handleFinishedTransfer 1 allOutputs]

end Libusbp
