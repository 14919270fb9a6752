import Libusbp.Linux.Pipes

/-!
# Polling a pipe on Linux

How often `handle_finished_transfer` reports a finished transfer in a row while no events are handled.
Such a call takes the oldest submission and, while endless transfers are enabled, submits the transfer
again; a submission that is refused is finished at once. What can be reported without handling events
is therefore decided by what became of the submissions in the queue, followed by the answers to the
resubmissions (`outlook`).
-/

namespace Libusbp.Linux

open Prog Heap

/-- A call that asks for a finished transfer of the pipe at `p`. -/
def IsPoll (p : Addr) (e : Event) : Prop :=
  ∃ out, e = .handleFinishedTransfer p out ∧ out.finished ≠ none

/-- The answers to the submissions in the history, the oldest first. -/
def submissions (calls : List (Call Submission Returned)) : List Submission :=
  (calls.filterMap fun c => match c with
    | .submit _ a => some a
    | _ => none).reverse

/-- The answers to the submissions that were made between two states. -/
def resubmissions (s s' : Sys) : List Submission :=
  (submissions s'.dev.calls).drop (submissions s.dev.calls).length

/-- What became of a submission is still up to the kernel. -/
def Busy (last : Option (Submission × Option Returned)) : Prop :=
  ∃ a, last = some (a, none) ∧ a.errno.isNone = true

/-- What became of the submissions in the queue, the oldest first. -/
def outlook (s : Sys) (P : Pipe) : List (Option (Submission × Option Returned)) :=
  P.queue.map fun t => lastSubmission t s.dev.calls

variable {s s' : Sys} {p : Addr} {P : Pipe} {e : Event} {r : Reply} {handle : Handle}

lemma outlook_getElem? {i : Nat} (hi : i < P.queue.length) :
    (outlook s P)[i]? = some (lastSubmission P.queue[i] s.dev.calls) := by
  rw [outlook, List.getElem?_map, List.getElem?_eq_getElem hi]
  rfl

/-- A transfer is pending while what became of its last submission is up to the kernel. -/
lemma pending_iff_busy (inv : Inv s.dev) {t : Addr} {T : Transfer}
    (hT : s.dev.transfers t = some T) :
    T.pending = true ↔ Busy (lastSubmission t s.dev.calls) :=
  (inv.fate t T hT).pending_iff

/-- Full rings turn by one place when a transfer is finished and submitted again. -/
lemma queue_turns {v : View Transfer} {d : Dev} (al : Allocated v d P)
    (full : P.pendingCount = P.transferCount) :
    P.queue = P.transfers.getD P.nextFinish 0 :: P.finished.queue ∧
      P.finished.submitted.queue =
        P.finished.queue ++ [P.transfers.getD P.nextFinish 0] := by
  have pos := al.pos
  have lt := al.ring.head_lt
  refine ⟨al.queue_finished (by omega), ?_⟩
  have next : P.finished.nextFinish = (P.nextFinish + 1) % P.transferCount :=
    incrementAndWrapSize_eq lt
  have last : (P.finished.nextFinish + (P.pendingCount - 1)) % P.transferCount = P.nextFinish := by
    rw [next, Nat.mod_add_mod, full, Nat.add_assoc, Nat.add_sub_cancel' pos, Nat.add_mod_right,
      Nat.mod_eq_of_lt lt]
  show (Circular.window P.transferCount P.finished.nextFinish (P.pendingCount - 1 + 1)).map _ = _
  rw [Circular.window_push, List.map_append, last]
  rfl

/-- A call that finds the oldest submission still pending changes nothing. -/
lemma wp_finish_pending {out : Outputs} (hp : s.pipes p = some P)
    (al : Allocated view s.dev P) {t : Addr} (head : P.queue.head? = some t) {T : Transfer}
    (hT : s.dev.transfers t = some T) (pend : T.pending = true) :
    wp (backend.asyncInPipeHandleFinishedTransfer (some p) out)
      (fun r s' => r = (none, resetOutputs out) ∧ s' = s) s := by
  have pos : P.pendingCount ≠ 0 := by
    rw [← Pipe.length_queue]
    intro zero
    rw [List.eq_nil_of_length_eq_zero zero] at head
    cases head
  rw [al.queue_finished pos] at head
  cases head
  simp only [Backend.asyncInPipeHandleFinishedTransfer, wp_bind, wp_loadPipe hp, if_neg pos,
    al.wp_transferAt al.ring.head_lt, onDev, wp_zoom]
  apply (wp_pending hT).mpr
  rw [if_pos pend, wp_pure]
  exact ⟨rfl, rfl⟩

/-- What became of a submission that was just answered. -/
def answered (a : Submission) : Option (Submission × Option Returned) := some (a, none)

lemma answered_not_busy {a : Submission} : ¬Busy (answered a) ↔ a.errno ≠ none := by
  unfold Busy answered
  cases hn : a.errno with
  | none => simp [hn]
  | some errno => simp [hn]

/-- What a poll does to a pipe: it finds nothing or the oldest submission still pending and changes
nothing, or it reports that submission, and the pipe resubmits the transfer if it is endless. -/
inductive Poll (s : Sys) (p : Addr) (P : Pipe) (e : Event) (r : Reply) (s' : Sys) : Prop where
  | idle : isReport p (e, r) = false → s' = s →
    (∀ last ∈ (outlook s P).head?, Busy last) → Poll s p P e r s'
  | reported {P' : Pipe} {last : Option (Submission × Option Returned)}
    {rest : List (Option (Submission × Option Returned))} {news : List Submission} :
    isReport p (e, r) = true → outlook s P = last :: rest → ¬Busy last → s'.pipes p = some P' →
    P'.endlessTransfersEnabled = P.endlessTransfersEnabled →
    submissions s'.dev.calls = submissions s.dev.calls ++ news →
    outlook s' P' = rest ++ news.map answered →
    (P.endlessTransfersEnabled = false → news = []) → Poll s p P e r s'

lemma isReport_reset {out : Outputs} {q : Addr} {error : Option Error} :
    isReport p (.handleFinishedTransfer q out, .finished error (resetOutputs out)) = false := by
  cases is : isReport p (.handleFinishedTransfer q out, .finished error (resetOutputs out)) with
  | false => rfl
  | true =>
    obtain ⟨_, _, _, _, eq, fin⟩ := isReport_iff.mp is
    cases eq
    exact absurd fin resetOutputs_finished

lemma submissions_submit {t : Addr} {a : Submission} {calls : List (Call Submission Returned)} :
    submissions (.submit t a :: calls) = submissions calls ++ [a] := by simp [submissions]

lemma submissions_results {t : Addr} {out : Outputs} {calls : List (Call Submission Returned)} :
    submissions (.results t out :: calls) = submissions calls := by simp [submissions]

/-- Without a pending submission, there is nothing to poll. -/
lemma step_poll_empty {out : Outputs} (hp : s.pipes p = some P) (zero : P.pendingCount = 0)
    (step : backend.step (.handleFinishedTransfer p out) s = .ok (r, s')) :
    Poll s p P (.handleFinishedTransfer p out) r s' := by
  have run : wp (backend.exec (.handleFinishedTransfer p out))
      (fun r t => r = .finished none (resetOutputs out) ∧ t = s) s := by
    simp only [Backend.exec, wp_bind, wp_pure]
    apply wp_mono (wp_finish_opened hp zero)
    rintro _ t ⟨rfl, rfl⟩
    exact ⟨rfl, rfl⟩
  rw [step_eq_exec hp rfl] at step
  obtain ⟨rfl, same⟩ := run.elim step
  refine .idle isReport_reset same fun last mem => ?_
  have nil : P.queue = [] := List.eq_nil_of_length_eq_zero (Pipe.length_queue.trans zero)
  rw [outlook, nil] at mem
  cases mem

/-- While the next transfer to finish is pending, a poll changes nothing. -/
lemma step_poll_pending {out : Outputs} (hp : s.pipes p = some P) (al : Allocated view s.dev P)
    (busy : ∀ t ∈ P.queue.head?, ∃ T, s.dev.transfers t = some T ∧ T.pending = true)
    (step : backend.step (.handleFinishedTransfer p out) s = .ok (r, s')) : s' = s := by
  have stays : wp (backend.asyncInPipeHandleFinishedTransfer (some p) out)
      (fun r s' => r = (none, resetOutputs out) ∧ s' = s) s := by
    cases head : P.queue.head? with
    | none =>
      have nil : P.queue = [] := List.head?_eq_none_iff.mp head
      apply wp_finish_opened hp
      rw [← Pipe.length_queue, nil, List.length_nil]
    | some t =>
      obtain ⟨T, hT, pend⟩ := busy t head
      exact wp_finish_pending hp al head hT pend
  have run : wp (backend.exec (.handleFinishedTransfer p out)) (fun _ t => t = s) s := by
    simp only [Backend.exec, wp_bind, wp_pure]
    exact wp_mono stays fun _ _ h => h.2
  rw [step_eq_exec hp rfl] at step
  exact run.elim step

/-- With endless transfers, the transfer that was finished goes behind the others. -/
lemma resubmits_finished {t t' : Addr} {a : Submission} {out : Outputs} (al : Allocated view s.dev P)
    (al' : Allocated view s'.dev P.finished.submitted) (full : P.pendingCount = P.transferCount)
    (queue : P.queue = t :: P.finished.queue) (mem' : t' ∈ P.transfers)
    (calls : s'.dev.calls = .submit t' a :: .results t out :: s.dev.calls) :
    t' = t ∧ P.finished.submitted.queue = P.finished.queue ++ [t] := by
  obtain ⟨_, turned⟩ := queue_turns al full
  have same : P.transfers.getD P.nextFinish 0 = t := by
    rw [al.queue_finished (by rw [← Pipe.length_queue, queue]; exact Nat.succ_ne_zero _)] at queue
    exact (List.cons.inj queue).1
  rw [same] at turned
  refine ⟨?_, turned⟩
  -- the history has the transfer that was submitted at the end of the queue
  have fifo := al'.fifo
  rw [calls, show P.finished.submitted.transfers = P.transfers from rfl,
    queueOps_cons_submit mem', turned] at fifo
  generalize eq : P.finished.queue ++ [t] = q at fifo
  cases fifo
  exact (List.cons.inj (List.append_inj' eq rfl).2).1.symm

/-- What lies ahead when the transfer that was finished is submitted again. -/
lemma outlook_resubmitted {t : Addr} {a : Submission} {out : Outputs} (nm : t ∉ P.finished.queue)
    (turned : P.finished.submitted.queue = P.finished.queue ++ [t])
    (calls : s'.dev.calls = .submit t a :: .results t out :: s.dev.calls) :
    outlook s' P.finished.submitted =
      (P.finished.queue.map fun u => lastSubmission u s.dev.calls) ++ [answered a] := by
  rw [outlook, turned, List.map_append, calls]
  congr 1
  · apply List.map_congr_left
    intro u hu
    have ne : (Call.submit t a : Call Submission Returned).transfer ≠ u := by
      rintro rfl
      exact nm hu
    rw [lastSubmission_cons_of_ne ne, lastSubmission_cons_results]
  · rw [List.map_singleton, lastSubmission_cons_submit]
    rfl

/-- Every poll is a `Poll`. -/
lemma step_poll (inv : SysInv (contract handle) s) (hp : s.pipes p = some P) (poll : IsPoll p e)
    (step : backend.step e s = .ok (r, s')) : Poll s p P e r s' := by
  obtain ⟨out, rfl, asks⟩ := poll
  rcases inv.cases hp with ⟨_, rfl, _⟩ | al
  · exact step_poll_empty hp rfl step
  cases step_result inv step with
  | unused about closed => exact absurd closed (Event.used hp rfl about)
  | finishOpened hq _ none =>
    rw [hp] at hq
    cases hq
    exact absurd none al.array_ne_none
  | finish hq _ f =>
    rw [hp] at hq
    cases hq
    cases f with
    | idle _ _ _ _ pending =>
      have busy : ∀ t ∈ P.queue.head?, ∃ T, s.dev.transfers t = some T ∧ T.pending = true := by
        intro t mem
        obtain ⟨T, hT, _⟩ := al.live t (al.queue_subset (List.mem_of_mem_head? mem))
        exact ⟨T, hT, pending t mem T hT⟩
      refine .idle isReport_reset (step_poll_pending hp al busy step) fun last mem => ?_
      rw [outlook, List.head?_map] at mem
      obtain ⟨t, head, rfl⟩ := Option.mem_map.mp mem
      obtain ⟨T, hT, pend⟩ := busy t head
      exact (pending_iff_busy inv.inv hT).mp pend
    | @finished _ t outr pre P' queue poll report after al' _ last =>
      obtain rfl : pre = s.dev.calls := poll
      obtain ⟨T, fate, idle, _⟩ := report
      -- a transfer that gave its results has ended its last submission
      have notBusy : ¬Busy (lastSubmission t s.dev.calls) := by
        intro busy
        rw [fate.pending_iff.mpr busy] at idle
        cases idle
      have said : isReport p (.handleFinishedTransfer p out,
          .finished none { outr with finished := out.finished.map fun _ => true }) = true := by
        obtain ⟨b, hb⟩ := Option.ne_none_iff_exists'.mp asks
        exact isReport_iff.mpr ⟨out, none, _, rfl, rfl, by simp [hb]⟩
      have head : outlook s P = lastSubmission t s.dev.calls ::
          P.finished.queue.map fun t => lastSubmission t s.dev.calls := by
        rw [outlook, queue, List.map_cons]
      have nm : t ∉ P.finished.queue := by
        have nodup := al.fifo.nodup
        rw [queue] at nodup
        exact (List.nodup_cons.mp nodup).1
      cases endless : P.endlessTransfersEnabled with
      | false =>
        rw [endless] at last
        obtain ⟨rfl, calls⟩ := last
        have none : submissions s'.dev.calls = submissions s.dev.calls ++ [] := by
          rw [calls, submissions_results, List.append_nil]
        refine .reported said head notBusy after.get rfl none ?_ fun _ => rfl
        rw [List.map_nil, List.append_nil, outlook, calls]
        rfl
      | true =>
        rw [endless] at last
        obtain ⟨rfl, t', mem', a, calls⟩ := last
        obtain ⟨rfl, turned⟩ :=
          resubmits_finished al al' (inv.full hp al endless) queue mem' calls
        have one : submissions s'.dev.calls = submissions s.dev.calls ++ [a] := by
          rw [calls, submissions_submit, submissions_results]
        refine .reported said head notBusy after.get rfl one ?_ fun no => ?_
        · exact outlook_resubmitted nm turned calls
        · rw [endless] at no
          cases no

/-- An endless pipe has something to report or to wait for. -/
lemma outlook_ne_nil (inv : SysInv (contract handle) s) (hp : s.pipes p = some P)
    (endless : P.endlessTransfersEnabled = true) : outlook s P ≠ [] := by
  rcases inv.cases hp with ⟨_, rfl, _⟩ | al
  · cases endless
  have pos := al.pos
  rw [← inv.full hp al endless, ← Pipe.length_queue] at pos
  intro nil
  rw [List.map_eq_nil_iff.mp nil] at pos
  cases pos

/-- A run of polls reports each time exactly as long as what lies ahead is not up to the kernel. -/
lemma run_polls {es : List Event} {rs : List Reply} (inv : SysInv (contract handle) s)
    (hp : s.pipes p = some P) (polls : ∀ e ∈ es, IsPoll p e)
    (run : Machine.run backend.step es s = .ok (rs, s')) :
    ∃ news, submissions s'.dev.calls = submissions s.dev.calls ++ news ∧
      (P.endlessTransfersEnabled = false → news = []) ∧
      ((∀ er ∈ es.zip rs, isReport p er = true) ↔
        ∀ i < es.length, ∃ last, (outlook s P ++ news.map answered)[i]? = some last ∧ ¬Busy last) := by
  induction es generalizing s rs P with
  | nil =>
    cases run
    exact ⟨[], (List.append_nil _).symm, fun _ => rfl, by simp⟩
  | cons e es ih =>
    obtain ⟨r, s₁, rs', step, later, rfl⟩ := Machine.run_cons_ok run
    have polls' : ∀ e' ∈ es, IsPoll p e' := fun e' mem => polls e' (List.mem_cons_of_mem _ mem)
    cases step_poll inv hp (polls e List.mem_cons_self) step with
    | idle silent same busy =>
      subst same
      obtain ⟨news, hnews, stopped, _⟩ := ih inv hp polls' later
      refine ⟨news, hnews, stopped, ?_, ?_⟩
      · intro all
        have said := all (e, r) List.mem_cons_self
        rw [silent] at said
        cases said
      · intro all
        exfalso
        obtain ⟨last, ahead, notBusy⟩ := all 0 (Nat.zero_lt_succ _)
        cases look : outlook s₁ P with
        | nil =>
          cases endless : P.endlessTransfersEnabled with
          | true => exact outlook_ne_nil inv hp endless look
          | false =>
            rw [look, stopped endless] at ahead
            cases ahead
        | cons first rest =>
          rw [look] at ahead busy
          cases ahead
          exact notBusy (busy _ rfl)
    | @reported P' last rest ns said look notBusy hp' endless hns look' stopped =>
      have inv' := (step_result inv step).sysInv inv
      obtain ⟨news, hnews, stopped', rest_iff⟩ := ih inv' hp' polls' later
      refine ⟨ns ++ news, by rw [hnews, hns, List.append_assoc], ?_, ?_⟩
      · intro no
        rw [stopped no, stopped' (endless.trans no), List.append_nil]
      · have ahead : outlook s P ++ (ns ++ news).map answered =
            last :: (outlook s₁ P' ++ news.map answered) := by
          rw [look, look', List.map_append, List.cons_append, List.append_assoc]
        rw [ahead, List.zip_cons_cons, List.forall_mem_cons, rest_iff]
        constructor
        · rintro ⟨_, all⟩ i lt
          cases i with
          | zero => exact ⟨last, rfl, notBusy⟩
          | succ i => exact all i (Nat.lt_of_succ_lt_succ lt)
        · intro all
          exact ⟨said, fun i lt => all (i + 1) (Nat.succ_lt_succ lt)⟩

/-- The polling loop. While no events are handled, `handle_finished_transfer` reports a finished
transfer at most as often in a row as the pipe has transfers, unless endless transfers are enabled,
the kernel owns none of the transfers, and the first resubmission is refused; then each further
report is that of a refused resubmission, up to the first one that is accepted. -/
theorem polling_reports_iff {es : List Event} {rs : List Reply} (reach : Reachable s)
    (hp : s.pipes p = some P) (polls : ∀ e ∈ es, IsPoll p e)
    (run : Machine.run backend.step es s = .ok (rs, s')) (more : P.transferCount < es.length) :
    (∀ er ∈ es.zip rs, isReport p er = true) ↔
      P.endlessTransfersEnabled = true ∧ (∀ t ∈ P.transfers, t ∉ s.dev.kernel.inFlight) ∧
        ∀ i < es.length - P.transferCount,
          ∃ a, (resubmissions s s')[i]? = some a ∧ a.errno ≠ none := by
  obtain ⟨handle, inv⟩ := reach.sysInv
  obtain ⟨news, hnews, stopped, reports⟩ := run_polls inv hp polls run
  have same : resubmissions s s' = news := by rw [resubmissions, hnews, List.drop_left]
  rcases inv.cases hp with ⟨_, rfl, _⟩ | al
  · rw [reports]
    constructor
    · intro all
      obtain ⟨last, ahead, _⟩ := all 0 more
      rw [stopped rfl] at ahead
      cases ahead
    · rintro ⟨endless, _⟩
      cases endless
  have length : (outlook s P).length = P.pendingCount := by
    rw [outlook, List.length_map, Pipe.length_queue]
  have owned : ∀ {t T}, s.dev.transfers t = some T →
      (t ∈ s.dev.kernel.inFlight ↔ Busy (lastSubmission t s.dev.calls)) := fun hT =>
    (inv.inv.mem_inFlight hT).trans (pending_iff_busy inv.inv hT)
  rw [same, reports]
  constructor
  · intro all
    have endless : P.endlessTransfersEnabled = true := by
      by_contra no
      rw [Bool.not_eq_true] at no
      -- without endless transfers the polls run out of submissions
      obtain ⟨last, ahead, _⟩ := all P.transferCount more
      rw [stopped no, List.map_nil, List.append_nil,
        List.getElem?_eq_none (by rw [length]; exact al.ring.count_le)] at ahead
      cases ahead
    have full := inv.full hp al endless
    rw [full] at length
    refine ⟨endless, ?_, ?_⟩
    · intro t mem
      obtain ⟨T, hT, _⟩ := al.live t mem
      rw [owned hT]
      by_cases queued : t ∈ P.queue
      · obtain ⟨i, hi, rfl⟩ := List.getElem_of_mem queued
        have lt : i < (outlook s P).length := by rwa [outlook, List.length_map]
        obtain ⟨last, ahead, notBusy⟩ := all i (by omega)
        rw [List.getElem?_append_left lt, outlook_getElem? hi] at ahead
        cases ahead
        exact notBusy
      · have idle : T.pending = false := al.outside t mem queued T hT
        rw [← pending_iff_busy inv.inv hT, idle]
        exact Bool.false_ne_true
    · intro i lt
      obtain ⟨last, ahead, notBusy⟩ := all (P.transferCount + i) (by omega)
      rw [List.getElem?_append_right (by omega), length, Nat.add_sub_cancel_left,
        List.getElem?_map, Option.map_eq_some_iff] at ahead
      obtain ⟨a, ha, rfl⟩ := ahead
      exact ⟨a, ha, answered_not_busy.mp notBusy⟩
  · rintro ⟨endless, idle, refused⟩ i lt
    rw [inv.full hp al endless] at length
    -- the first polls finish what is queued, the later ones what was submitted again
    by_cases first : i < P.transferCount
    · have hi : i < P.queue.length := by rwa [Pipe.length_queue, inv.full hp al endless]
      have mem := al.queue_subset (List.getElem_mem hi)
      obtain ⟨T, hT, _⟩ := al.live _ mem
      refine ⟨_, ?_, mt (owned hT).mpr (idle _ mem)⟩
      rw [List.getElem?_append_left (by omega), outlook_getElem? hi]
    · obtain ⟨a, ha, errno⟩ := refused (i - P.transferCount) (by omega)
      refine ⟨answered a, ?_, answered_not_busy.mpr errno⟩
      rw [List.getElem?_append_right (by omega), length, List.getElem?_map, ha]
      rfl

/-- The kernel accepts the submissions of two transfers, returns them, and refuses every later one
because the device is gone. -/
def unpluggingPlan : Nat → Turn
  | 0 => promptTurn
  | 1 => promptTurn
  | 2 => promptTurn
  | 3 => promptTurn
  | 4 => { promptTurn with errno := some eagain }
  | _ => { promptTurn with errno := some enodev }

/-- A ring of two transfers that have both been returned. -/
def returnedEvents : List Event :=
  [.create 0x81, .allocateTransfers 1 2 8, .startEndlessTransfers 1, .handleEvents 1]

/-- Three polls of the pipe at 1. -/
def threePolls : List Event := List.replicate 3 (.handleFinishedTransfer 1 allOutputs)

lemma threePolls_polls : ∀ e ∈ threePolls, IsPoll 1 e := by
  intro e mem
  obtain rfl := List.eq_of_mem_replicate mem
  exact ⟨allOutputs, rfl, Option.some_ne_none _⟩

/-- Whether the pipe at 1 has two transfers and reports a finished one three times in a row. -/
def reportsThrice (s : Sys) : Bool :=
  match Machine.run backend.step threePolls s, s.pipes 1 with
  | .ok (rs, _), some P => P.transferCount == 2 && (threePolls.zip rs).all (isReport 1)
  | _, _ => false

/-- A ring of two transfers whose device was unplugged reports three times in a row. -/
lemma unplugged_reports : ∃ s s' P rs, Reachable s ∧ s.pipes 1 = some P ∧ P.transferCount = 2 ∧
    Machine.run backend.step threePolls s = .ok (rs, s') ∧
      ∀ er ∈ threePolls.zip rs, isReport 1 er = true := by
  have passes : Machine.passes backend.step returnedEvents (exampleSystem unpluggingPlan)
      (fun _ s => reportsThrice s) = true := by decide +kernel
  obtain ⟨_, s, run, test⟩ := Machine.run_of_passes passes
  unfold reportsThrice at test
  split at test
  case h_2 => cases test
  case h_1 rs s' P polls hp =>
    rw [Bool.and_eq_true, beq_iff_eq, List.all_eq_true] at test
    exact ⟨s, s', P, rs, ⟨_, _, _, _, exampleSystem_initial _, run⟩, hp, test.1, polls, test.2⟩

theorem polling_reports_iff_example : ∃ (s s' : Sys) (P : Pipe), Reachable s ∧
    s.pipes 1 = some P ∧ P.endlessTransfersEnabled = true ∧
      (∀ t ∈ P.transfers, t ∉ s.dev.kernel.inFlight) ∧
      ∃ a, (resubmissions s s')[0]? = some a ∧ a.errno ≠ none := by
  obtain ⟨s, s', P, rs, reach, hp, two, run, reports⟩ := unplugged_reports
  have more : P.transferCount < threePolls.length := by
    rw [two]
    decide
  obtain ⟨endless, idle, refused⟩ :=
    (polling_reports_iff reach hp threePolls_polls run more).mp reports
  exact ⟨s, s', P, reach, hp, endless, idle, refused 0 (by omega)⟩

/-- The polling loop need not end after as many reports as there are transfers: when the device was
unplugged, every resubmission is refused, and is reported again. -/
theorem polling_exceeds : ¬∀ (s s' : Sys) (p : Addr) (P : Pipe) (es : List Event) (rs : List Reply),
    Reachable s → s.pipes p = some P → (∀ e ∈ es, IsPoll p e) →
      Machine.run backend.step es s = .ok (rs, s') → P.transferCount < es.length →
      ∃ er ∈ es.zip rs, isReport p er = false := by
  intro always
  obtain ⟨s, s', P, rs, reach, hp, two, run, reports⟩ := unplugged_reports
  have more : P.transferCount < threePolls.length := by
    rw [two]
    decide
  obtain ⟨er, mem, silent⟩ := always s s' 1 P threePolls rs reach hp threePolls_polls run more
  rw [reports er mem] at silent
  cases silent

end Libusbp.Linux
