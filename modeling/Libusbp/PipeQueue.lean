import Libusbp.PipeRun

/-!
# A pipe is a bounded queue of submissions

What any call does to the pipes (`PipesStep`), and what it does, on this pipe or another, to one with
allocated transfers (`PipeStep`). From it the property of runs: the pipe refines a bounded first-in
first-out queue (`RefinesFifo`), and every finished report takes one submission out of it (`Counted`).
-/

namespace Libusbp

open Prog Heap

variable {τ κ α γ : Type} {B : Backend τ κ α γ} {h : Handle} {C : Contract B h}

/-- The transfers `ts` that are not pending do not become pending. -/
def StayIdle (v : View τ) (ts : List Addr) (d d' : Dev τ κ α γ) : Prop :=
  ∀ t ∈ ts, ∀ T, d.transfers t = some T → v.pending T = false →
    ∃ T', d'.transfers t = some T' ∧ v.pending T' = false

lemma Settles.stayIdle {v : View τ} {ts us : List Addr} {d d' : Dev τ κ α γ}
    (settles : Settles v ts d d') (dis : List.Disjoint ts us) : StayIdle v us d d' := by
  intro t mem T hT idle
  obtain ⟨T', hT', _, pend⟩ := settles t (fun mem' => dis mem' mem) T hT
  exact ⟨T', hT', pend idle⟩

/-- What a call does to the allocated pipe `P` at `p`, which stays open. -/
inductive PipeStep (C : Contract B h) (s : Sys τ κ α γ) (p : Addr) (P : Pipe) (e : Event)
    (r : Reply) (s' : Sys τ κ α γ) : Pipe → Prop where
  | keep : (∀ out, e ≠ .handleFinishedTransfer p out) → e ≠ .startEndlessTransfers p →
    e ≠ .cancelTransfers p →
    queueOps P.transfers s'.dev.calls = queueOps P.transfers s.dev.calls →
    StayIdle C.view P.transfers s.dev s'.dev → PipeStep C s p P e r s' P
  | cancel : e = .cancelTransfers p →
    queueOps P.transfers s'.dev.calls = queueOps P.transfers s.dev.calls →
    StayIdle C.view P.transfers s.dev s'.dev →
    PipeStep C s p P e r s' { P with endlessTransfersEnabled := false }
  | start {P' : Pipe} : e = .startEndlessTransfers p → r = .done none → P.Same P' →
    P'.endlessTransfersEnabled = true → P'.pendingCount = P'.transferCount →
    Submits P.transfers s.dev s'.dev → PipeStep C s p P e r s' P'
  | idle {out : Outputs} : e = .handleFinishedTransfer p out →
    r = .finished none (resetOutputs out) →
    (∀ t ∈ P.queue.head?, ∀ T, s.dev.transfers t = some T → C.view.pending T = true) →
    queueOps P.transfers s'.dev.calls = queueOps P.transfers s.dev.calls →
    StayIdle C.view P.transfers s.dev s'.dev → PipeStep C s p P e r s' P
  | finish {out outr : Outputs} {t : Addr} {pre : List (Call α γ)} {P' : Pipe} :
    e = .handleFinishedTransfer p out →
    r = .finished none { outr with finished := out.finished.map fun _ => true } →
    P.queue = t :: P.finished.queue → (∀ us, queueOps us pre = queueOps us s.dev.calls) →
    C.Report pre t P.transferSize (resetOutputs out) outr →
    (P.endlessTransfersEnabled = false → StayIdle C.view P.transfers s.dev s'.dev) →
    (if P.endlessTransfersEnabled then
      P' = P.finished.submitted ∧ ∃ t' ∈ P.transfers, ∃ a,
        s'.dev.calls = .submit t' a :: .results t outr :: pre
    else P' = P.finished ∧ s'.dev.calls = .results t outr :: pre) →
    PipeStep C s p P e r s' P'

variable {s s' : Sys τ κ α γ} {p : Addr} {P P' : Pipe} {e : Event} {r : Reply}

/-- The pipe at `p` is open as it was, and its transfers are not touched. -/
structure Kept (C : Contract B h) (s : Sys τ κ α γ) (p : Addr) (P : Pipe) (s' : Sys τ κ α γ) :
    Prop where
  isOpen : s'.pipes p = some P
  touches : ∃ ts, List.Disjoint ts P.transfers ∧ Touches C.view ts s.dev s'.dev

lemma Kept.queueOps (k : Kept C s p P s') :
    queueOps P.transfers s'.dev.calls = queueOps P.transfers s.dev.calls := by
  obtain ⟨ts, dis, touch⟩ := k.touches
  exact touch.calls _ dis

lemma Kept.stayIdle (k : Kept C s p P s') : StayIdle C.view P.transfers s.dev s'.dev := by
  obtain ⟨ts, dis, touch⟩ := k.touches
  exact touch.live.stayIdle dis

/-- A call on another pipe leaves this one alone. -/
lemma After.keep {q : Addr} {Q : Pipe} (after : After C s q Q s') (hp : s.pipes p = some P)
    (ne : q ≠ p) (dis : List.Disjoint Q.transfers P.transfers) : Kept C s p P s' where
  isOpen := by rw [after.pipes, Function.update_of_ne ne.symm, hp]
  touches := ⟨_, dis, after.touches⟩

/-- Finishing a transfer keeps the fields of the pipe outside the ring. -/
lemma same_of_finish {X Y : Prop} (last : if P.endlessTransfersEnabled then
    P' = P.finished.submitted ∧ X else P' = P.finished ∧ Y) : P.Same P' := by
  split at last
  · rw [last.1]
    exact Pipe.Same.finished.trans .submitted
  · rw [last.1]
    exact .finished

lemma Untouched.stayIdle (u : Untouched C s p P s') (ts : List Addr) :
    StayIdle C.view ts s.dev s'.dev := by
  intro t _ T hT idle
  exact ⟨T, by rw [u.transfers, hT], idle⟩

/-- What a call does to the pipes: it leaves them as they are, opens one, changes the one it is about, or
closes that one. Only a pipe that has no array gets transfers, and these are new. -/
inductive PipesStep (C : Contract B h) (s : Sys τ κ α γ) (e : Event) (r : Reply)
    (s' : Sys τ κ α γ) : Prop where
  | same : s'.pipes = s.pipes → Touches C.view [] s.dev s'.dev →
    ((∀ q, e ≠ .handleEvents q) → s'.dev.transfers = s.dev.transfers) → PipesStep C s e r s'
  | opens {pipeId q} : e = .create pipeId → r = .created none (some (some q)) →
    s.dev.heap.next ≤ q → s'.pipes = Function.update s.pipes q (some (.opened h pipeId)) →
    Released C s.dev [] s'.dev → PipesStep C s e r s'
  | changes {q Q Q'} : e.pipe? = some q → s.pipes q = some Q → After C s q Q' s' →
    (Q.Same Q' ∨ Q.transferArray = none ∧ ∀ t ∈ Q'.transfers, s.dev.heap.next ≤ t) →
    PipesStep C s e r s'
  | closes {q Q} : e = .close q → s.pipes q = some Q → Closed C s q Q s' → PipesStep C s e r s'

lemma StepResult.pipesStep (step : StepResult C s e r s') : PipesStep C s e r s' := by
  cases step with
  | unused => exact .same rfl Touches.refl fun _ => rfl
  | create result =>
    cases result with
    | failed _ pipes released =>
      refine .same pipes released.touches fun _ => ?_
      rw [released.transfers, release_nil]
    | created _ _ fresh _ pipes released => exact .opens rfl rfl fresh pipes released
  | allocate hp result =>
    cases result with
    | failed after => exact .changes rfl hp after (.inl .refl)
    | done _ _ _ fresh eq after =>
      refine .changes rfl hp after (.inr ⟨rfl, ?_⟩)
      rwa [eq, Pipe.transfers_of_array rfl]
  | allocateAgain hp _ u => exact .changes rfl hp u.after (.inl .refl)
  | startOpened hp _ u => exact .changes rfl hp u.after (.inl .refl)
  | start hp _ same after => exact .changes rfl hp after (.inl same)
  | @events q _ _ _ _ _ pipes _ touches =>
    exact .same pipes touches fun no => absurd rfl (no q)
  | hasPending hp u => exact .changes rfl hp u.after (.inl .refl)
  | finishOpened => exact .same rfl Touches.refl fun _ => rfl
  | finish hp _ result =>
    cases result with
    | idle after => exact .changes rfl hp after (.inl .refl)
    | finished _ _ _ after _ _ last => exact .changes rfl hp after (.inl (same_of_finish last))
  | cancelOpened hp _ c => exact .changes rfl hp c.after (.inl ⟨rfl, rfl, rfl, rfl, rfl⟩)
  | cancel hp _ c => exact .changes rfl hp c.after (.inl ⟨rfl, rfl, rfl, rfl, rfl⟩)
  | close hp closed => exact .closes rfl hp closed

/-- A call on another pipe, or on none, leaves this one alone. -/
lemma StepResult.other (inv : SysInv C s) (step : StepResult C s e r s')
    (hp : s.pipes p = some P) (ne : e.pipe? ≠ some p) : Kept C s p P s' := by
  have about : ∀ {q : Addr}, e.pipe? = some q → q ≠ p := by
    rintro q eq rfl
    exact ne eq
  cases step.pipesStep with
  | same pipes touches => exact ⟨by rw [pipes, hp], [], List.disjoint_nil_left _, touches⟩
  | @opens _ q _ _ fresh pipes released =>
    have ne : p ≠ q := fun eq => absurd (inv.fresh p P hp) (Nat.not_lt.mpr (eq ▸ fresh))
    refine ⟨?_, [], List.disjoint_nil_left _, released.touches⟩
    rw [pipes, Function.update_of_ne ne, hp]
  | @changes q _ _ eq hq after keeps =>
    apply after.keep hp (about eq)
    rcases keeps with same | ⟨_, fresh⟩
    · rw [same.transfers]
      exact inv.disjoint q p _ P hq hp (about eq)
    · exact inv.disjoint_fresh hp fresh
  | @closes q _ eq hq c =>
    have ne : q ≠ p := about (by rw [eq]; rfl)
    refine ⟨?_, _, inv.disjoint q p _ P hq hp ne, c.released.touches⟩
    rw [c.pipes, Function.update_of_ne ne.symm, hp]

/-- What a call does to a pipe with allocated transfers. -/
lemma StepResult.pipeStep (inv : SysInv C s) (step : StepResult C s e r s')
    (hp : s.pipes p = some P) (al : Allocated C.view s.dev P) (hp' : s'.pipes p = some P') :
    PipeStep C s p P e r s' P' := by
  have pos := al.pos
  -- a call on another pipe, or on none, does not touch this one
  by_cases about : e.pipe? = some p
  swap
  · have kept := step.other inv hp about
    have isOpen := kept.isOpen
    rw [hp'] at isOpen
    cases isOpen
    apply PipeStep.keep _ _ _ kept.queueOps kept.stayIdle
    · rintro out rfl
      exact about rfl
    · rintro rfl
      exact about rfl
    · rintro rfl
      exact about rfl
  cases step with
  | unused eq closed => exact absurd closed (Event.used hp about eq)
  | create => cases about
  | allocate hq =>
    obtain ⟨rfl, rfl⟩ := Event.operand hp about rfl hq
    -- a pipe as it was opened has no transfers
    cases pos
  | allocateAgain hq _ u =>
    obtain ⟨rfl, rfl⟩ := Event.operand hp about rfl hq
    obtain rfl := u.after.unique hp'
    exact .keep (fun _ => Event.noConfusion) Event.noConfusion Event.noConfusion (by rw [u.calls])
      (u.stayIdle _)
  | startOpened hq none =>
    obtain ⟨rfl, rfl⟩ := Event.operand hp about rfl hq
    exact absurd none al.array_ne_none
  | start hq _ keep after _ endless full _ subs =>
    obtain ⟨rfl, rfl⟩ := Event.operand hp about rfl hq
    obtain rfl := after.unique hp'
    exact .start rfl rfl keep endless full subs
  | events hq _ pipes _ touch =>
    obtain ⟨rfl, rfl⟩ := Event.operand hp about rfl hq
    rw [pipes, hp] at hp'
    cases hp'
    exact .keep (fun _ => Event.noConfusion) Event.noConfusion Event.noConfusion
      (touch.calls _ (List.disjoint_nil_left _)) (touch.live.stayIdle (List.disjoint_nil_left _))
  | hasPending hq u =>
    obtain ⟨rfl, rfl⟩ := Event.operand hp about rfl hq
    obtain rfl := u.after.unique hp'
    exact .keep (fun _ => Event.noConfusion) Event.noConfusion Event.noConfusion (by rw [u.calls])
      (u.stayIdle _)
  | finishOpened hq _ none =>
    obtain ⟨rfl, rfl⟩ := Event.operand hp about rfl hq
    exact absurd none al.array_ne_none
  | finish hq _ f =>
    obtain ⟨rfl, rfl⟩ := Event.operand hp about rfl hq
    cases f with
    | idle after _ ops settles pending =>
      obtain rfl := after.unique hp'
      exact .idle rfl rfl pending (ops _) (settles.stayIdle (List.disjoint_nil_left _))
    | finished queue poll report after _ settles last =>
      obtain rfl := after.unique hp'
      refine .finish rfl rfl queue (C.poll poll).queueOps report ?_ last
      exact fun stopped => (settles stopped).stayIdle (List.disjoint_nil_left _)
  | cancelOpened hq =>
    obtain ⟨rfl, rfl⟩ := Event.operand hp about rfl hq
    cases pos
  | cancel hq _ c =>
    obtain ⟨rfl, rfl⟩ := Event.operand hp about rfl hq
    obtain rfl := c.after.unique hp'
    refine .cancel rfl (c.calls _) ?_
    intro t _ T hT idle
    exact ⟨T, by rw [c.transfers, hT], idle⟩
  | close hq c =>
    cases about
    rw [c.pipes, Function.update_self] at hp'
    cases hp'

lemma PipeStep.same (step : PipeStep C s p P e r s' P') : P.Same P' := by
  cases step with
  | keep => exact .refl
  | cancel => exact ⟨rfl, rfl, rfl, rfl, rfl⟩
  | start _ _ same => exact same
  | idle => exact .refl
  | finish _ _ _ _ _ _ last => exact same_of_finish last

/-! ## First in, first out -/

/-- The history of a pipe is that of a bounded queue of submissions: the reports and the pending
submissions are the submissions, and the report with the number `k` is read out of a transfer that
was last submitted by the submission with the number `k`. -/
structure RefinesFifo (calls : List (Call α γ)) (P : Pipe) : Prop where
  reaches : Fifo.Reaches P.transferCount (queueOps P.transfers calls) P.queue
  difference : (Fifo.pushes (queueOps P.transfers calls)).length =
    (Fifo.pops (queueOps P.transfers calls)).length + P.pendingCount
  bound : P.pendingCount ≤ P.transferCount
  order : ∀ t out pre, .results t out :: pre <:+ calls → t ∈ P.transfers →
    Fifo.lastPush t (queueOps P.transfers pre) =
      some (Fifo.pops (queueOps P.transfers pre)).length

/-- Whether a call is a finished report of the pipe at `p`. -/
def isReport (p : Addr) : Event × Reply → Bool
  | (.handleFinishedTransfer q _, .finished _ out) => q == p && out.finished == some true
  | _ => false

lemma isReport_iff : isReport p (e, r) = true ↔ ∃ out error out',
    e = .handleFinishedTransfer p out ∧ r = .finished error out' ∧ out'.finished = some true := by
  constructor
  · intro is
    cases e with
    | handleFinishedTransfer q out =>
      cases r with
      | finished error out' =>
        simp only [isReport, Bool.and_eq_true, beq_iff_eq] at is
        obtain ⟨rfl, fin⟩ := is
        exact ⟨out, error, out', rfl, rfl, fin⟩
      | _ => cases is
    | _ => cases is
  · rintro ⟨out, error, out', rfl, rfl, fin⟩
    simp [isReport, fin]

lemma resetOutputs_finished {out : Outputs} : (resetOutputs out).finished ≠ some true := by
  cases fin : out.finished with
  | none => simp [resetOutputs, fin]
  | some b => simp [resetOutputs, fin]

/-- Allocated transfers form a bounded queue. -/
lemma Allocated.refinesFifo {v : View τ} {d : Dev τ κ α γ} (al : Allocated v d P) :
    RefinesFifo d.calls P where
  reaches := al.fifo
  difference := by
    rw [al.fifo.pushes_eq, List.length_append, Pipe.length_queue]
  bound := al.ring.count_le
  order := by
    intro t out pre sfx mem
    have sfx : queueOps P.transfers (.results t out :: pre) <:+ queueOps P.transfers d.calls :=
      sfx.filterMap _
    rw [queueOps_cons_results mem] at sfx
    obtain ⟨q, reaches⟩ := al.fifo.suffix sfx
    exact reaches.last_push

/-- A finished report is read out of the transfer at the head of the queue, whose last submission
has the number of the report. -/
lemma StepResult.report (step : StepResult C s e r s') (hp : s.pipes p = some P)
    (al : Allocated C.view s.dev P) (is : isReport p (e, r) = true) : ∃ out outr t pre,
      e = .handleFinishedTransfer p out ∧ r = .finished none { outr with finished := some true } ∧
      P.queue.head? = some t ∧ C.Poll t s.dev.calls pre ∧
      .results t outr :: pre <:+ s'.dev.calls ∧
      Fifo.lastPush t (queueOps P.transfers s.dev.calls) =
        some (Fifo.pops (queueOps P.transfers s.dev.calls)).length ∧
      C.Report pre t P.transferSize (resetOutputs out) outr := by
  obtain ⟨out, error, out', rfl, rfl, fin⟩ := isReport_iff.mp is
  cases step with
  | finishOpened => exact absurd fin resetOutputs_finished
  | finish hq _ f =>
    rw [hp] at hq
    cases hq
    cases f with
    | idle => exact absurd fin resetOutputs_finished
    | @finished _ t outr pre _ queue poll report _ _ _ last =>
      refine ⟨out, outr, t, pre, rfl, by rw [← fin], ?_, poll, ?_, ?_, report⟩
      · rw [queue]
        rfl
      · split at last
        · obtain ⟨_, _, _, _, calls⟩ := last
          rw [calls]
          exact List.suffix_cons _ _
        · rw [last.2]
      · have fifo := al.fifo
        rw [queue] at fifo
        exact fifo.lastPush_getElem 0 (Nat.zero_lt_succ _)

/-- Every finished report pops one transfer, and nothing else does. -/
lemma PipeStep.pops_length (al : Allocated C.view s.dev P) (step : PipeStep C s p P e r s' P')
    (asks : ∀ out, e = .handleFinishedTransfer p out → out.finished ≠ none) :
    (Fifo.pops (queueOps P.transfers s'.dev.calls)).length =
      (Fifo.pops (queueOps P.transfers s.dev.calls)).length +
        if isReport p (e, r) then 1 else 0 := by
  -- a report comes from `handle_finished_transfer` only
  have no : (∀ out, e ≠ .handleFinishedTransfer p out) → isReport p (e, r) = false := by
    intro no
    cases is : isReport p (e, r) with
    | false => rfl
    | true =>
      obtain ⟨out, _, _, eq, _⟩ := isReport_iff.mp is
      exact absurd eq (no out)
  cases step with
  | keep other _ _ ops => simp [no other, ops]
  | cancel eq ops => simp [no (by rw [eq]; exact fun _ => Event.noConfusion), ops]
  | start eq _ _ _ _ subs =>
    simp [no (by rw [eq]; exact fun _ => Event.noConfusion), subs.pops_eq]
  | @idle out eq eq' _ ops =>
    have silent : isReport p (e, r) = false := by
      cases is : isReport p (e, r) with
      | false => rfl
      | true =>
        obtain ⟨_, _, _, _, eq'', fin⟩ := isReport_iff.mp is
        rw [eq'] at eq''
        cases eq''
        exact absurd fin resetOutputs_finished
    simp [silent, ops]
  | @finish out outr t pre _ eq eq' queue ops _ _ last =>
    have said : isReport p (e, r) = true := by
      obtain ⟨b, hb⟩ := Option.ne_none_iff_exists'.mp (asks out eq)
      exact isReport_iff.mpr ⟨out, none, _, eq, eq', by simp [hb]⟩
    have mem : t ∈ P.transfers := by
      apply al.queue_subset
      rw [queue]
      exact List.mem_cons_self
    have popped : Fifo.pops (queueOps P.transfers s'.dev.calls) =
        Fifo.pops (queueOps P.transfers s.dev.calls) ++ [t] := by
      rw [← ops P.transfers]
      -- with endless transfers on, the finished transfer is submitted again behind its results
      split at last
      · obtain ⟨_, t', mem', a, calls⟩ := last
        rw [calls, queueOps_cons_submit mem', queueOps_cons_results mem]
        rfl
      · rw [last.2, queueOps_cons_results mem]
        rfl
    simp [said, popped]

/-- The answer to `has_pending_transfers`. -/
lemma StepResult.hasPending_reply {b : Bool}
    (step : StepResult C s (.hasPendingTransfers p (some b)) r s') (hp : s.pipes p = some P) :
    r = .pending none (some (P.pendingCount != 0)) := by
  cases step with
  | unused about closed => exact absurd closed (Event.used hp rfl about)
  | hasPending hq _ none =>
    rw [hp] at hq
    cases hq
    rw [none (Option.some_ne_none b)]
    rfl

/-- No address is handed out twice over a call. -/
lemma StepResult.heap (step : StepResult C s e r s') : Le s.dev.heap s'.dev.heap := by
  cases step.pipesStep with
  | same _ touches => exact touches.heap
  | opens _ _ _ _ released => exact released.heap
  | changes _ _ after => exact after.touches.heap
  | closes _ _ c => exact c.released.heap

lemma queueOps_nil {calls : List (Call α γ)} : queueOps [] calls = [] :=
  queueOps_eq_nil fun _ _ => List.not_mem_nil

/-- A call that is not about the pipe at `p` is no report of it. -/
lemma isReport_other (ne : e.pipe? ≠ some p) : isReport p (e, r) = false := by
  cases is : isReport p (e, r) with
  | false => rfl
  | true =>
    obtain ⟨_, _, _, rfl, _⟩ := isReport_iff.mp is
    exact absurd rfl ne

/-- A pipe whose transfers were not allocated has no queue and reports nothing. -/
lemma StepResult.opened {pipeId : UInt8} (inv : SysInv C s) (step : StepResult C s e r s')
    (hp : s.pipes p = some (.opened h pipeId)) (hp' : s'.pipes p = some P') :
    isReport p (e, r) = false ∧ queueOps P'.transfers s'.dev.calls = [] ∧ P'.pendingCount = 0 ∧
      P'.endlessTransfersEnabled = false := by
  by_cases about : e.pipe? = some p
  swap
  · have isOpen := (step.other inv hp about).isOpen
    rw [hp'] at isOpen
    cases isOpen
    exact ⟨isReport_other about, queueOps_nil, rfl, rfl⟩
  have absurd' : ∀ {Q}, s.pipes p = some Q → ¬Allocated C.view s.dev Q := by
    intro Q hq al
    rw [hp] at hq
    cases hq
    exact absurd al.pos (Nat.lt_irrefl 0)
  cases step with
  | unused eq closed => exact absurd closed (Event.used hp about eq)
  | create => cases about
  | allocate hq a =>
    obtain ⟨rfl, ⟨⟩⟩ := Event.operand hp about rfl hq
    refine ⟨rfl, ?_⟩
    cases a with
    | failed after =>
      obtain rfl := after.unique hp'
      exact ⟨queueOps_nil, rfl, rfl⟩
    | @done _ _ a ts _ _ _ fresh eq after _ calls =>
      obtain rfl := after.unique hp'
      rw [eq, calls, Pipe.transfers_of_array rfl]
      refine ⟨?_, rfl, rfl⟩
      apply queueOps_eq_nil
      intro c mem hts
      -- the transfers are new, and every call so far was about older ones
      exact absurd (C.callFresh inv.inv mem) (Nat.not_lt.mpr (fresh _ hts))
  | allocateAgain hq al =>
    cases about
    exact absurd al (absurd' hq)
  | startOpened hq _ u =>
    obtain ⟨rfl, rfl⟩ := Event.operand hp about rfl hq
    obtain rfl := u.after.unique hp'
    exact ⟨rfl, queueOps_nil, rfl, rfl⟩
  | start hq al =>
    cases about
    exact absurd al (absurd' hq)
  | events hq _ pipes =>
    cases about
    rw [pipes, hp] at hp'
    cases hp'
    exact ⟨rfl, queueOps_nil, rfl, rfl⟩
  | hasPending hq u =>
    obtain ⟨rfl, rfl⟩ := Event.operand hp about rfl hq
    obtain rfl := u.after.unique hp'
    exact ⟨rfl, queueOps_nil, rfl, rfl⟩
  | finishOpened hq =>
    cases about
    rw [hp] at hp'
    cases hp'
    refine ⟨?_, queueOps_nil, rfl, rfl⟩
    simp [isReport, resetOutputs_finished]
  | finish hq al =>
    cases about
    exact absurd al (absurd' hq)
  | cancelOpened hq _ c =>
    obtain ⟨rfl, ⟨⟩⟩ := Event.operand hp about rfl hq
    obtain rfl := c.after.unique hp'
    exact ⟨rfl, queueOps_nil, rfl, rfl⟩
  | cancel hq al =>
    cases about
    exact absurd al (absurd' hq)
  | close hq c =>
    cases about
    rw [c.pipes, Function.update_self] at hp'
    cases hp'

/-- Where no pipe is open there is no report. -/
lemma StepResult.silent (step : StepResult C s e r s') (closed : s.pipes p = none) :
    isReport p (e, r) = false := by
  cases is : isReport p (e, r) with
  | false => rfl
  | true =>
    obtain ⟨_, _, _, rfl, rfl, _⟩ := isReport_iff.mp is
    cases step with
    | finishOpened hq =>
      rw [closed] at hq
      cases hq
    | finish hq =>
      rw [closed] at hq
      cases hq

/-- Where no pipe is open only `async_in_pipe_create` can open one, at a fresh address. -/
lemma StepResult.closed (step : StepResult C s e r s') (closed : s.pipes p = none) :
    isReport p (e, r) = false ∧
      ∀ P', s'.pipes p = some P' → s.dev.heap.next ≤ p ∧ P'.transfers = [] := by
  refine ⟨step.silent closed, ?_⟩
  intro P' hp'
  -- a pipe that was open is another one
  have still : ∀ {q Q Q'}, s.pipes q = some Q → s'.pipes = Function.update s.pipes q Q' →
      s'.pipes p = none := by
    intro q Q Q' hq pipes
    have ne : p ≠ q := by
      rintro rfl
      rw [closed] at hq
      cases hq
    rw [pipes, Function.update_of_ne ne, closed]
  cases step.pipesStep with
  | same pipes =>
    rw [pipes, closed] at hp'
    cases hp'
  | @opens _ q _ _ fresh pipes =>
    rw [pipes] at hp'
    by_cases eq : p = q
    · rw [eq, Function.update_self] at hp'
      cases hp'
      exact ⟨eq ▸ fresh, rfl⟩
    · rw [Function.update_of_ne eq, closed] at hp'
      cases hp'
  | changes _ hq after =>
    rw [still hq after.pipes] at hp'
    cases hp'
  | closes _ hq c =>
    rw [still hq c.pipes] at hp'
    cases hp'

/-- The finished reports of the pipe at `p` in a record, against the history. -/
structure Counted (C : Contract B h) (p : Addr) (tr : List (Event × Reply)) (s : Sys τ κ α γ) :
    Prop where
  sysInv : SysInv C s
  reports : ∀ P, s.pipes p = some P →
    tr.countP (isReport p) = (Fifo.pops (queueOps P.transfers s.dev.calls)).length
  fresh : s.dev.heap.next ≤ p → tr.countP (isReport p) = 0

lemma Counted.step {tr : List (Event × Reply)} (c : Counted C p tr s)
    (asks : ∀ out, e = .handleFinishedTransfer p out → out.finished ≠ none)
    (run : B.step e s = .ok (r, s')) : Counted C p (tr ++ [(e, r)]) s' := by
  have step := step_result c.sysInv run
  have count : (tr ++ [(e, r)]).countP (isReport p) =
      tr.countP (isReport p) + if isReport p (e, r) then 1 else 0 := by
    rw [List.countP_append, List.countP_singleton]
  refine ⟨step.sysInv c.sysInv, ?_, ?_⟩
  · intro P' hp'
    rw [count]
    cases hp : s.pipes p with
    | none =>
      obtain ⟨silent, opened⟩ := step.closed hp
      obtain ⟨fresh, nil⟩ := opened P' hp'
      rw [silent, c.fresh fresh, nil, queueOps_nil]
      rfl
    | some P =>
      rcases c.sysInv.cases hp with ⟨pipeId, rfl, _⟩ | al
      · obtain ⟨silent, nil, _⟩ := step.opened c.sysInv hp hp'
        have none := c.reports _ hp
        rw [Pipe.transfers_opened, queueOps_nil] at none
        rw [silent, none, nil]
        rfl
      · have own := step.pipeStep c.sysInv hp al hp'
        rw [own.same.transfers, own.pops_length al asks, c.reports P hp]
  · intro fresh
    have before := step.heap.next.trans fresh
    have closed : s.pipes p = none := by
      cases hp : s.pipes p with
      | none => rfl
      | some P => exact absurd (c.sysInv.fresh p P hp) (Nat.not_lt.mpr before)
    rw [count, (step.closed closed).1, c.fresh before]
    rfl

/-- The number of finished reports in a run from a system on which nothing is open, in which every
caller asks whether a report was finished. -/
lemma Counted.run {es : List Event} {rs : List Reply} (fresh : s.Fresh h) (inv : C.Inv s.dev)
    (run : Machine.run B.step es s = .ok (rs, s'))
    (asks : ∀ out, .handleFinishedTransfer p out ∈ es → out.finished ≠ none) :
    Counted C p (es.zip rs) s' := by
  have start : Counted C p [] s := by
    refine ⟨fresh.sysInv inv, ?_, fun _ => rfl⟩
    intro P hp
    rw [fresh.pipes p] at hp
    cases hp
  apply Machine.run_trace _ start run
  rintro e mem tr s r s' c step
  apply c.step _ step
  rintro out rfl
  exact asks out mem

end Libusbp
