import Libusbp.Linux.Accounts
import Libusbp.Windows.Accounts
import Libusbp.Mac.Accounts

/-!
# What a run leaves behind

Every block that the calls of a run allocated is a part of an open pipe, of a transfer or of an error
that was handed out, or it was freed (`Accounted`). A pipe that is closed while transfers are pending
leaves these behind for ever (`Stray`); if that never happens, every transfer belongs to an open pipe
(`Housed`), and closing all pipes leaves nothing but the errors.
-/

namespace Libusbp

open Prog Heap

variable {τ κ α γ : Type} {B : Backend τ κ α γ} {h : Handle} {C : Contract B h} {K : Custody C}
  {s s' : Sys τ κ α γ} {e : Event} {r : Reply} {p q : Addr} {P P' Q : Pipe} {t : Addr}

/-! ## The account of a run -/

/-- Of what was allocated since `s₀`, the open pipes, the transfers that were not freed and the errors
that were handed out hold their blocks, no two of them the same, and everything else was freed once. -/
def Accounted (E : Estate τ) (s₀ : Sys τ κ α γ) (rs : List Reply) (s : Sys τ κ α γ) : Prop :=
  ∃ pipes transfers, Stock pipeBlocks s.pipes pipes ∧ Stock E.blocks s.dev.transfers transfers ∧
    Leaves (pipes + transfers + blocksOf (errorsOf rs)) s₀.dev.heap s.dev.heap

lemma Books.accounted (L : Books K) {s₀ : Sys τ κ α γ} {es : List Event} {rs : List Reply}
    (fresh : s₀.Fresh h) (inv : C.Inv s₀.dev) (run : Machine.run B.step es s₀ = .ok (rs, s)) :
    Accounted L.estate s₀ rs s := by
  obtain ⟨_, pipes, ofPipes, _, transfers, ofTransfers, own⟩ :=
    L.run_tells (fresh.sysInv inv) fresh.accounts run
  refine ⟨pipes, transfers, ofPipes, ofTransfers, OwnsSince.leaves (own.of_eq ?_)⟩
  abel

/-- In every run on every system all memory is accounted for. -/
theorem asyncInPipe_accounted (es : List Event) :
    (∀ handle s₀ rs s, Linux.Initial handle s₀ → Machine.run Linux.backend.step es s₀ = .ok (rs, s) →
      Accounted Linux.estate s₀ rs s) ∧
    (∀ handle s₀ rs s, Windows.Initial handle s₀ →
      Machine.run Windows.backend.step es s₀ = .ok (rs, s) → Accounted Windows.estate s₀ rs s) ∧
    ∀ handle s₀ rs s, Mac.Initial handle s₀ → Machine.run Mac.backend.step es s₀ = .ok (rs, s) →
      Accounted Mac.estate s₀ rs s :=
  ⟨fun handle _ _ _ init run => (Linux.books handle).accounted init.fresh init.inv run,
    fun handle _ _ _ init run => (Windows.books handle).accounted init.fresh init.inv run,
    fun handle _ _ _ init run => (Mac.books handle).accounted init.fresh init.inv run⟩

theorem asyncInPipe_accounted_example :
    (∃ rs s, Machine.run Linux.backend.step Linux.exampleEvents
        (Linux.exampleSystem fun _ => Linux.promptTurn) = .ok (rs, s) ∧
      Accounted Linux.estate (Linux.exampleSystem fun _ => Linux.promptTurn) rs s) ∧
    (∃ rs s, Machine.run Windows.backend.step Windows.exampleEvents
        (Windows.exampleSystem Windows.examplePlan) = .ok (rs, s) ∧
      Accounted Windows.estate (Windows.exampleSystem Windows.examplePlan) rs s) ∧
    ∃ rs s, Machine.run Mac.backend.step Mac.exampleEvents (Mac.exampleSystem Mac.examplePlan) =
        .ok (rs, s) ∧
      Accounted Mac.estate (Mac.exampleSystem Mac.examplePlan) rs s := by
  refine ⟨?_, ?_, ?_⟩
  · obtain ⟨rs, s, run, _⟩ := Linux.exampleEvents_run
    exact ⟨rs, s, run, (asyncInPipe_accounted _).1 _ _ _ _ (Linux.exampleSystem_initial _) run⟩
  · obtain ⟨rs, s, run, _⟩ := Windows.exampleEvents_run
    exact ⟨rs, s, run, (asyncInPipe_accounted _).2.1 _ _ _ _ (Windows.exampleSystem_initial _) run⟩
  · obtain ⟨rs, s, run, _⟩ := Mac.exampleEvents_run
    exact ⟨rs, s, run, (asyncInPipe_accounted _).2.2 _ _ _ _ (Mac.exampleSystem_initial _) run⟩

/-! ## Transfers that no pipe has -/

/-- The transfer was not freed, and no open pipe has it. -/
def Stray (s : Sys τ κ α γ) (t : Addr) : Prop :=
  s.dev.transfers t ≠ none ∧ ∀ p P, s.pipes p = some P → t ∉ P.transfers

lemma Stray.mono (stray : Stray s t) (live : s'.dev.transfers t ≠ none)
    (pipes : ∀ p P, s'.pipes p = some P → s.pipes p = some P) : Stray s' t :=
  ⟨live, fun p P hp => stray.2 p P (pipes p P hp)⟩

/-- A stray transfer that reads into the memory `area`. -/
structure StrayAt (v : View τ) (area : Option Loc × Nat) (s : Sys τ κ α γ) (t : Addr) : Prop where
  live : ∃ T, s.dev.transfers t = some T ∧ v.area T = area
  apart : ∀ p P, s.pipes p = some P → t ∉ P.transfers

namespace StrayAt

variable {v : View τ} {area : Option Loc × Nat}

lemma stray (stray : StrayAt v area s t) : Stray s t := by
  obtain ⟨⟨T, hT, _⟩, apart⟩ := stray
  refine ⟨?_, apart⟩
  rw [hT]
  exact Option.some_ne_none T

/-- The transfer is as it was. -/
lemma same (stray : StrayAt v area s t) (same : s'.dev.transfers t = s.dev.transfers t)
    (apart : ∀ p P, s'.pipes p = some P → t ∉ P.transfers) : StrayAt v area s' t where
  live := by
    rw [same]
    exact stray.live
  apart := apart

/-- A pipe may change, as long as it does not take the transfer. -/
lemma apart_update (stray : StrayAt v area s t) (pipes : s'.pipes = Function.update s.pipes p (some P'))
    (notMem : t ∉ P'.transfers) : ∀ q Q, s'.pipes q = some Q → t ∉ Q.transfers := by
  intro q Q hq
  rw [pipes] at hq
  by_cases same : q = p
  · rw [same, Function.update_self] at hq
    cases hq
    exact notMem
  · rw [Function.update_of_ne same] at hq
    exact stray.apart q Q hq

/-- A pipe may be closed. -/
lemma apart_remove (stray : StrayAt v area s t) (pipes : s'.pipes = Function.update s.pipes p none) :
    ∀ q Q, s'.pipes q = some Q → t ∉ Q.transfers := by
  intro q Q hq
  rw [pipes] at hq
  by_cases same : q = p
  · rw [same, Function.update_self] at hq
    cases hq
  · rw [Function.update_of_ne same] at hq
    exact stray.apart q Q hq

lemma after (stray : StrayAt v area s t) (after : After C s p P' s') (notMem : t ∉ P'.transfers) :
    StrayAt v area s' t :=
  stray.same (after.others t notMem) (stray.apart_update after.pipes notMem)

end StrayAt

/-- No call takes up a stray transfer again, and none frees it or moves its buffer. -/
lemma StepResult.strayAt {area : Option Loc × Nat} (step : StepResult C s e r s') (inv : SysInv C s)
    (stray : StrayAt C.view area s t) : StrayAt C.view area s' t := by
  cases step.pipesStep with
  | same pipes touches =>
    refine ⟨?_, ?_⟩
    · obtain ⟨T, hT, here⟩ := stray.live
      obtain ⟨T', hT', same, _⟩ := touches.live t List.not_mem_nil T hT
      exact ⟨T', hT', same.trans here⟩
    · rw [pipes]
      exact stray.apart
  | opens _ _ _ pipes released =>
    apply stray.same
    · rw [released.transfers, release_nil]
    · apply stray.apart_update pipes
      rw [Pipe.transfers_opened]
      exact List.not_mem_nil
  | changes _ hp after keeps =>
    apply stray.after after
    rcases keeps with same | ⟨_, fresh⟩
    · rw [same.transfers]
      exact stray.apart _ _ hp
    -- what is allocated is new
    · intro mem
      obtain ⟨T, hT, _⟩ := stray.live
      exact absurd (C.liveFresh inv.inv hT) (Nat.not_lt.mpr (fresh t mem))
  | @closes q Q _ hp closed =>
    apply stray.same
    · rw [closed.released.transfers, release_of_notMem (stray.apart q Q hp)]
    · exact stray.apart_remove closed.pipes

lemma SysInv.strayAt {area : Option Loc × Nat} {es : List Event} {rs : List Reply} (inv : SysInv C s)
    (stray : StrayAt C.view area s t) (run : Machine.run B.step es s = .ok (rs, s')) :
    StrayAt C.view area s' t := by
  have pres : ∀ e ∈ es, ∀ s r s', SysInv C s ∧ StrayAt C.view area s t → B.step e s = .ok (r, s') →
      SysInv C s' ∧ StrayAt C.view area s' t := by
    rintro e _ s r s' ⟨inv, stray⟩ step
    have result := step_result inv step
    exact ⟨result.sysInv inv, result.strayAt inv stray⟩
  exact (Machine.run_inv pres ⟨inv, stray⟩ run).2

/-- A transfer that is pending when its pipe is closed is left behind. -/
lemma SysInv.close_strayAt (inv : SysInv C s) (hp : s.pipes p = some P) {T : τ}
    (mem : t ∈ P.transfers) (hT : s.dev.transfers t = some T) (pend : C.view.pending T = true)
    (closed : Closed C s p P s') : StrayAt C.view (C.view.area T) s' t where
  live := by
    rw [closed.released.transfers, release_of_pending hT pend]
    exact ⟨T, rfl, rfl⟩
  apart := by
    intro q Q hq mem'
    rw [closed.pipes] at hq
    by_cases same : q = p
    · rw [same, Function.update_self] at hq
      cases hq
    · rw [Function.update_of_ne same] at hq
      exact inv.disjoint p q P Q hp hq (Ne.symm same) mem mem'

/-- What closing the pipe `P` at `p` does after a run from `s₀`. The blocks of the pipe and those of its
transfers that are not pending are freed, and nothing else is. A transfer that is pending is never freed
with its buffer, whatever is called later, and no pipe has it again. -/
structure ClosesPipe (B : Backend τ κ α γ) (v : View τ) (s₀ s : Sys τ κ α γ) (p : Addr) (P : Pipe)
    (s' : Sys τ κ α γ) : Prop where
  pipes : s'.pipes = Function.update s.pipes p none
  live : ∀ t ∈ P.transfers, s.dev.transfers t ≠ none
  frees : Frees (closeBlocks v s.dev.transfers p P) s.dev.heap s'.dev.heap
  pipe : ∀ l ∈ pipeBlocks p P, s'.dev.heap.freeCount l = s.dev.heap.freeCount l + 1
  idle : ∀ t ∈ P.transfers, ∀ T, s.dev.transfers t = some T → v.pending T = false →
    s'.dev.transfers t = none ∧
      ∀ l ∈ v.blocks t T, s'.dev.heap.freeCount l = s.dev.heap.freeCount l + 1
  pending : ∀ t ∈ P.transfers, ∀ T, s.dev.transfers t = some T → v.pending T = true →
    ∀ es rs s'', Machine.run B.step es s' = .ok (rs, s'') → Stray s'' t ∧
      ∃ T'', s''.dev.transfers t = some T'' ∧ v.buffer T'' = v.buffer T ∧
        ∀ l ∈ v.blocks t T'', Alive s₀.dev.heap s''.dev.heap l

/-- A pipe that is closed gives back its memory, but for the transfers that are pending. -/
def KeepsPending (B : Backend τ κ α γ) (v : View τ) (es : List Event) (s₀ : Sys τ κ α γ) : Prop :=
  ∀ rs s p P, Machine.run B.step es s₀ = .ok (rs, s) → s.pipes p = some P →
    ∃ s', B.step (.close p) s = .ok (.closed, s') ∧ ClosesPipe B v s₀ s p P s'

lemma Books.keepsPending (L : Books K) {s₀ : Sys τ κ α γ} (fresh : s₀.Fresh h) (inv : C.Inv s₀.dev)
    (es : List Event) : KeepsPending B C.view es s₀ := by
  intro rs s p P run hp
  have inv₁ := (fresh.sysInv inv).run run
  have acc₁ := (L.run_tells (fresh.sysInv inv) fresh.accounts run).2
  obtain ⟨s', step, closed⟩ := inv₁.wp_closed hp
  have inv' := (step_result inv₁ step).sysInv inv₁
  have acc' := (L.step_tells inv₁ acc₁ step).2
  have closes := L.closesBlocks inv₁ acc₁ hp step
  refine ⟨s', step, closed.pipes, ?_, closes.frees, fun l mem => closes.pipe mem, ?_, ?_⟩
  · intro t mem
    rcases inv₁.cases hp with ⟨_, rfl, _⟩ | al
    · cases mem
    · obtain ⟨T, hT, _⟩ := al.live t mem
      rw [hT]
      exact Option.some_ne_none T
  · intro t mem T hT idle
    have gone : s'.dev.transfers t = none := by
      rw [closed.released.transfers, release_of_idle mem hT idle]
    exact ⟨gone, fun l mem' => closes.idle mem hT idle mem'⟩
  · intro t mem T hT pend es' rs' s'' later
    have strayed := inv'.strayAt (inv₁.close_strayAt hp mem hT pend closed) later
    obtain ⟨T'', hT'', same⟩ := strayed.live
    have acc'' := (L.run_tells inv' acc' later).2
    exact ⟨strayed.stray, T'', hT'', congrArg Prod.fst same, fun l mem' => acc''.alive hT'' mem'⟩

/-- On every system, closing a pipe gives back its memory, but for the transfers that are pending, which
are lost. -/
theorem asyncInPipeClose_keepsPending (es : List Event) :
    (∀ handle s₀, Linux.Initial handle s₀ → KeepsPending Linux.backend Linux.view es s₀) ∧
    (∀ handle s₀, Windows.Initial handle s₀ →
      KeepsPending Windows.backend Windows.fields.view es s₀) ∧
    ∀ handle s₀, Mac.Initial handle s₀ → KeepsPending Mac.backend Mac.fields.view es s₀ :=
  ⟨fun handle _ init => (Linux.books handle).keepsPending init.fresh init.inv es,
    fun handle _ init => (Windows.books handle).keepsPending init.fresh init.inv es,
    fun handle _ init => (Mac.books handle).keepsPending init.fresh init.inv es⟩

/-- Some transfer of the pipe at `p` is pending or not, as asked. -/
def hasTransfer (v : View τ) (p : Addr) (pending : Bool) (s : Sys τ κ α γ) : Bool :=
  (s.pipes p).any fun P => P.transfers.any fun t =>
    (s.dev.transfers t).any fun T => v.pending T == pending

lemma transfer_of_hasTransfer {v : View τ} {pending : Bool} (hp : s.pipes p = some P)
    (has : hasTransfer v p pending s = true) :
    ∃ t ∈ P.transfers, ∃ T, s.dev.transfers t = some T ∧ v.pending T = pending := by
  rw [hasTransfer, hp, Option.any_some] at has
  obtain ⟨t, mem, some⟩ := List.any_eq_true.mp has
  obtain ⟨T, hT, eq⟩ := (Option.any_eq_true ..).mp some
  exact ⟨t, mem, T, hT, beq_iff_eq.mp eq⟩

/-- After the calls the example pipe has a transfer that is pending and one that is not, and is closed. -/
def ClosesHalfway (B : Backend τ κ α γ) (v : View τ) (es : List Event) (s₀ : Sys τ κ α γ) : Prop :=
  ∃ rs s P s', Machine.run B.step es s₀ = .ok (rs, s) ∧ s.pipes 1 = some P ∧
    (∀ pending, ∃ t ∈ P.transfers, ∃ T, s.dev.transfers t = some T ∧ v.pending T = pending) ∧
    B.step (.close 1) s = .ok (.closed, s') ∧ ClosesPipe B v s₀ s 1 P s'

lemma closesHalfway_of_passes {v : View τ} {es : List Event} {s₀ : Sys τ κ α γ}
    (keeps : KeepsPending B v es s₀)
    (passes : Machine.passes B.step es s₀ (fun _ s =>
      isAllocated 1 s && hasTransfer v 1 true s && hasTransfer v 1 false s) = true) :
    ClosesHalfway B v es s₀ := by
  obtain ⟨rs, s, run, test⟩ := Machine.run_of_passes passes
  simp only [Bool.and_eq_true] at test
  obtain ⟨⟨allocated, some⟩, other⟩ := test
  obtain ⟨P, hp, _⟩ := array_of_isAllocated allocated
  obtain ⟨s', step, closes⟩ := keeps rs s 1 P run hp
  refine ⟨rs, s, P, s', run, hp, ?_, step, closes⟩
  intro pending
  cases pending with
  | true => exact transfer_of_hasTransfer hp some
  | false => exact transfer_of_hasTransfer hp other

theorem asyncInPipeClose_keepsPending_example :
    ClosesHalfway Linux.backend Linux.view Linux.exampleEvents
      (Linux.exampleSystem fun _ => Linux.promptTurn) ∧
    ClosesHalfway Windows.backend Windows.fields.view fillEvents
      (Windows.exampleSystem Windows.examplePlan) ∧
    ClosesHalfway Mac.backend Mac.fields.view fillEvents (Mac.exampleSystem Mac.examplePlan) := by
  refine ⟨?_, ?_, ?_⟩
  · exact closesHalfway_of_passes
      ((asyncInPipeClose_keepsPending _).1 _ _ (Linux.exampleSystem_initial _)) (by decide +kernel)
  · exact closesHalfway_of_passes
      ((asyncInPipeClose_keepsPending _).2.1 _ _ (Windows.exampleSystem_initial _)) (by decide +kernel)
  · exact closesHalfway_of_passes
      ((asyncInPipeClose_keepsPending _).2.2 _ _ (Mac.exampleSystem_initial _)) (by decide +kernel)

/-! ## Orderly runs -/

/-- Every transfer belongs to an open pipe. -/
def Housed (s : Sys τ κ α γ) : Prop := ∀ t, ¬Stray s t

/-- A pipe is only closed when none of its transfers is pending. -/
def Orderly (e : Event) (s : Sys τ κ α γ) : Prop :=
  match e with
  | .close p => ∀ P ∈ s.pipes p, P.pendingCount = 0
  | _ => True

instance : Decidable (Orderly e s) :=
  match e with
  | .close p => inferInstanceAs (Decidable (∀ P ∈ s.pipes p, P.pendingCount = 0))
  | .create _ | .allocateTransfers _ _ _ | .startEndlessTransfers _ | .handleEvents _
  | .hasPendingTransfers _ _ | .handleFinishedTransfer _ _ | .cancelTransfers _ => .isTrue trivial

/-- A transfer that is stray after a change of a pipe was stray before. -/
lemma Stray.before (stray : Stray s' t) (hp : s.pipes p = some P) (after : After C s p P' s')
    (sub : P.transfers ⊆ P'.transfers) : Stray s t := by
  have self : s'.pipes p = some P' := by rw [after.pipes, Function.update_self]
  have notMem := stray.2 p P' self
  refine ⟨?_, ?_⟩
  · rw [← after.others t notMem]
    exact stray.1
  · intro q Q hq
    by_cases same : q = p
    · rw [same, hp] at hq
      cases hq
      exact fun mem => notMem (sub mem)
    · apply stray.2 q Q
      rw [after.pipes, Function.update_of_ne same, hq]

/-- An orderly call leaves no transfer behind. -/
lemma StepResult.housed (step : StepResult C s e r s') (inv : SysInv C s) (orderly : Orderly e s)
    (events : ∀ p, e = .handleEvents p → NoneBorn s.dev s'.dev) (housed : Housed s) : Housed s' := by
  intro t stray
  refine housed t ?_
  cases step.pipesStep with
  | same pipes _ transfers =>
    have live : s.dev.transfers t ≠ none := by
      by_cases polls : ∃ q, e = .handleEvents q
      · obtain ⟨q, eq⟩ := polls
        exact events q eq t stray.1
      · rw [← transfers (not_exists.mp polls)]
        exact stray.1
    apply stray.mono live
    rw [pipes]
    exact fun _ _ hp => hp
  | @opens _ q _ _ fresh pipes released =>
    have live := stray.1
    rw [released.transfers, release_nil] at live
    apply stray.mono live
    intro q' Q hq
    have ne : q' ≠ q := by
      rintro rfl
      exact absurd (inv.fresh q' Q hq) (Nat.not_lt.mpr fresh)
    rw [pipes, Function.update_of_ne ne, hq]
  | changes _ hp after keeps =>
    apply stray.before hp after
    rcases keeps with same | ⟨none, _⟩
    · rw [same.transfers]
      exact List.Subset.refl _
    · rw [Pipe.transfers_of_none none]
      exact List.nil_subset _
  | @closes p P eq hp closed =>
    have zero : P.pendingCount = 0 := by
      rw [eq] at orderly
      exact orderly P hp
    have gone : t ∉ P.transfers := by
      intro mem
      -- an empty ring has no pending transfer
      obtain ⟨T, hT, idle⟩ := inv.idle_of_zero hp zero mem
      apply stray.1
      rw [closed.released.transfers, release_of_idle mem hT idle]
    refine ⟨?_, ?_⟩
    · have live := stray.1
      rwa [closed.released.transfers, release_of_notMem gone] at live
    · intro q Q hq
      by_cases same : q = p
      · rw [same, hp] at hq
        cases hq
        exact gone
      · apply stray.2 q Q
        rw [closed.pipes, Function.update_of_ne same, hq]

lemma Books.step_noneBorn (L : Books K) {c : List HeapCall} {m : Multiset Loc} (inv : SysInv C s)
    (acc : SysAccounts L.estate c s m) (step : B.step (.handleEvents p) s = .ok (r, s')) :
    NoneBorn s.dev s'.dev := by
  cases hp : s.pipes p with
  | none =>
    rw [step_unused hp rfl] at step
    cases step
    exact .of_same rfl
  | some P =>
    rw [step_eq_exec hp rfl] at step
    obtain ⟨_, acc₀, _⟩ := acc.onDev
    have none : wp (B.exec (.handleEvents p)) (fun _ s' => NoneBorn s.dev s'.dev) s := by
      simp only [Backend.exec, Backend.asyncInPipeHandleEvents, wp_bind, wp_loadPipe hp,
        (inv.pipes p P hp).handle, onDev, wp_zoom, wp_pure]
      exact wp_mono (L.events inv.inv acc₀) fun _ _ done => done.2
    exact none.elim step

lemma Books.run_housed (L : Books K) {c : List HeapCall} {m : Multiset Loc} {es : List Event}
    {rs : List Reply} (inv : SysInv C s) (acc : SysAccounts L.estate c s m) (housed : Housed s)
    (orderly : Machine.Along B.step Orderly es s) (run : Machine.run B.step es s = .ok (rs, s')) :
    Housed s' := by
  induction es generalizing s rs m with
  | nil =>
    cases run
    exact housed
  | cons e es ih =>
    obtain ⟨r, s₁, rs', first, rest, rfl⟩ := Machine.run_cons_ok run
    have result := step_result inv first
    have acc₁ := (L.step_tells inv acc first).2
    apply ih (result.sysInv inv) acc₁ _ (orderly.2 r s₁ first) rest
    apply result.housed inv orderly.1 _ housed
    rintro p rfl
    exact L.step_noneBorn inv acc first

/-- If the run is orderly, then every transfer belongs to an open pipe at its end, and if no pipe is
open any more, then nothing is left of what it allocated but the errors. -/
def LeaksNothing (B : Backend τ κ α γ) (es : List Event) (s₀ : Sys τ κ α γ) : Prop :=
  Machine.Along B.step Orderly es s₀ → ∀ rs s, Machine.run B.step es s₀ = .ok (rs, s) →
    Housed s ∧ ((∀ p, s.pipes p = none) →
      Leaves (blocksOf (errorsOf rs)) s₀.dev.heap s.dev.heap)

lemma Books.leaksNothing (L : Books K) {s₀ : Sys τ κ α γ} (fresh : s₀.Fresh h)
    (inv : C.Inv s₀.dev) (es : List Event) : LeaksNothing B es s₀ := by
  intro orderly rs s run
  have housed : Housed s := by
    apply L.run_housed (fresh.sysInv inv) fresh.accounts _ orderly run
    exact fun t stray => stray.1 (fresh.transfers t)
  refine ⟨housed, ?_⟩
  intro closed
  obtain ⟨pipes, transfers, ofPipes, ofTransfers, leaves⟩ := L.accounted fresh inv run
  have noPipes : pipes = 0 := by
    apply ofPipes.eq_zero
    intro p P hp
    rw [closed p] at hp
    cases hp
  have noTransfers : transfers = 0 := by
    apply ofTransfers.eq_zero
    intro t T hT
    refine absurd ⟨?_, ?_⟩ (housed t)
    · rw [hT]
      exact Option.some_ne_none T
    · intro p P hp
      rw [closed p] at hp
      cases hp
  rwa [noPipes, noTransfers, add_zero, zero_add] at leaves

/-- On every system, a program that waits for its transfers before it closes a pipe loses no memory. -/
theorem asyncInPipe_leaksNothing (es : List Event) :
    (∀ handle s₀, Linux.Initial handle s₀ → LeaksNothing Linux.backend es s₀) ∧
    (∀ handle s₀, Windows.Initial handle s₀ → LeaksNothing Windows.backend es s₀) ∧
    ∀ handle s₀, Mac.Initial handle s₀ → LeaksNothing Mac.backend es s₀ :=
  ⟨fun handle _ init => (Linux.books handle).leaksNothing init.fresh init.inv es,
    fun handle _ init => (Windows.books handle).leaksNothing init.fresh init.inv es,
    fun handle _ init => (Mac.books handle).leaksNothing init.fresh init.inv es⟩

/-- A pipe that is open after a call was open before, or the call opened it. -/
lemma StepResult.opens (step : StepResult C s e r s') (open' : s'.pipes q ≠ none) :
    s.pipes q ≠ none ∨ ∃ error, r = .created error (some (some q)) := by
  cases step.pipesStep with
  | same pipes => exact .inl (pipes ▸ open')
  | @opens _ p _ eq _ pipes =>
    by_cases e : q = p
    · exact .inr ⟨none, by rw [eq, e]⟩
    · rw [pipes, Function.update_of_ne e] at open'
      exact .inl open'
  | @changes p _ _ _ hp after =>
    by_cases e : q = p
    · rw [e, hp]
      exact .inl (Option.some_ne_none _)
    · rw [after.pipes, Function.update_of_ne e] at open'
      exact .inl open'
  | @closes p P _ hp closed =>
    rw [closed.pipes] at open'
    by_cases e : q = p
    · rw [e, Function.update_self] at open'
      exact absurd rfl open'
    · rw [Function.update_of_ne e] at open'
      exact .inl open'

/-- Only pipes that a run opened are open at its end. -/
lemma SysInv.opens {es : List Event} {rs : List Reply} (inv : SysInv C s)
    (run : Machine.run B.step es s = .ok (rs, s')) (open' : s'.pipes q ≠ none) :
    s.pipes q ≠ none ∨ ∃ error, .created error (some (some q)) ∈ rs := by
  induction es generalizing s rs with
  | nil =>
    cases run
    exact .inl open'
  | cons e es ih =>
    obtain ⟨r, s₁, rs', first, rest, rfl⟩ := Machine.run_cons_ok run
    have result := step_result inv first
    rcases ih (result.sysInv inv) rest with before | ⟨error, mem⟩
    · rcases result.opens before with before | ⟨error, rfl⟩
      · exact .inl before
      · exact .inr ⟨error, List.mem_cons_self⟩
    · exact .inr ⟨error, List.mem_cons_of_mem _ mem⟩

/-- A pipe is opened and filled, cancelled, emptied and closed. -/
def shutdownEvents : List Event :=
  fillEvents ++ .cancelTransfers 1 :: .handleEvents 1 :: reportEvents ++ [.close 1]

/-- The only pipe that was opened is closed, and no call handed out an error. -/
def isShutDown (rs : List Reply) (s : Sys τ κ α γ) : Bool :=
  (s.pipes 1).isNone && (errorsOf rs).length == 0 && rs.all fun
    | .created _ pipe => pipe == some (some 1)
    | _ => true

lemma SysInv.shutDown {s₀ : Sys τ κ α γ} (inv : SysInv C s₀) (es : List Event)
    (none : ∀ p, s₀.pipes p = none) (passes : Machine.passes B.step es s₀ isShutDown = true) :
    ∃ rs s, Machine.run B.step es s₀ = .ok (rs, s) ∧ (∀ p, s.pipes p = Option.none) ∧
      blocksOf (errorsOf rs) = 0 := by
  obtain ⟨rs, s, run, shut⟩ := Machine.run_of_passes passes
  simp only [isShutDown, Bool.and_eq_true, Option.isNone_iff_eq_none, beq_iff_eq,
    List.length_eq_zero_iff, List.all_eq_true] at shut
  obtain ⟨⟨closed, noErrors⟩, only⟩ := shut
  refine ⟨rs, s, run, ?_, by rw [noErrors]; rfl⟩
  intro p
  by_contra open'
  rcases inv.opens run open' with before | ⟨error, mem⟩
  · exact before (none p)
  · have first := only _ mem
    simp only [beq_iff_eq, Option.some.injEq] at first
    exact open' (first ▸ closed)

/-- After these calls on a system there is nothing left of what they allocated. -/
def LeftNothing (B : Backend τ κ α γ) (es : List Event) (s₀ : Sys τ κ α γ) : Prop :=
  ∃ rs s, Machine.run B.step es s₀ = .ok (rs, s) ∧ (∀ p, s.pipes p = none) ∧
    Leaves 0 s₀.dev.heap s.dev.heap

theorem asyncInPipe_leaksNothing_example :
    LeftNothing Linux.backend shutdownEvents (Linux.exampleSystem fun _ => Linux.promptTurn) ∧
    LeftNothing Windows.backend shutdownEvents
      (Windows.exampleSystem fun _ => ⟨true, 0, 4, fun _ => 0⟩) ∧
    LeftNothing Mac.backend shutdownEvents
      (Mac.exampleSystem fun _ => ⟨0, 0, 0, 0, 4, fun _ => 0⟩) := by
  obtain ⟨linux, windows, mac⟩ := asyncInPipe_leaksNothing shutdownEvents
  refine ⟨?_, ?_, ?_⟩
  · have init := Linux.exampleSystem_initial fun _ => Linux.promptTurn
    obtain ⟨rs, s, run, closed, noErrors⟩ :=
      init.sysInv.shutDown shutdownEvents init.fresh.pipes (by decide +kernel)
    have left := (linux _ _ init (by decide +kernel) rs s run).2 closed
    exact ⟨rs, s, run, closed, noErrors ▸ left⟩
  · have init := Windows.exampleSystem_initial fun _ => ⟨true, 0, 4, fun _ => 0⟩
    obtain ⟨rs, s, run, closed, noErrors⟩ :=
      init.sysInv.shutDown shutdownEvents init.fresh.pipes (by decide +kernel)
    have left := (windows _ _ init (by decide +kernel) rs s run).2 closed
    exact ⟨rs, s, run, closed, noErrors ▸ left⟩
  · have init := Mac.exampleSystem_initial fun _ => ⟨0, 0, 0, 0, 4, fun _ => 0⟩
    obtain ⟨rs, s, run, closed, noErrors⟩ :=
      init.sysInv.shutDown shutdownEvents init.fresh.pipes (by decide +kernel)
    have left := (mac _ _ init (by decide +kernel) rs s run).2 closed
    exact ⟨rs, s, run, closed, noErrors ▸ left⟩

end Libusbp
