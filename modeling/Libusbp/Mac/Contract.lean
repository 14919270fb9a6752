import Libusbp.Mac.AsyncInTransfer
import Libusbp.Outcome

/-!
# The macOS backend meets its contract

A transfer learns that its read is finished from its callback. A transfer that is pending holds no
error and no byte count, which is what the callback asserts, and a transfer that is not pending shows
the outcome of its last submission.
-/

namespace Libusbp.Mac

open Prog Heap

/-- What a submission came to: nothing yet for a read that was accepted. -/
def outcome (kr : UInt32) : Option Completed → Option Outcome
  | none => if kr = kernSuccess then none else some ⟨true, 0, fun _ => 0⟩
  | some c => if kr = kernSuccess then some ⟨c.kr != kernSuccess, c.count, c.data⟩ else none

lemma outcome_accepted {c : Completed} :
    outcome kernSuccess (some c) = some ⟨c.kr != kernSuccess, c.count, c.data⟩ := by
  rw [outcome, if_pos rfl]

lemma outcome_refused {kr : UInt32} (refused : kr ≠ kernSuccess) :
    outcome kr none = some ⟨true, 0, fun _ => 0⟩ := by
  rw [outcome, if_neg refused]

lemma eq_kernSuccess {kr : UInt32} (isNone : (outcome kr none).isNone = true) : kr = kernSuccess := by
  by_contra refused
  rw [outcome_refused refused] at isNone
  cases isNone

def fields : Fields Transfer where
  block T := T.buffer.map (·.loc)
  size := Transfer.size
  pending := Transfer.pending
  error := Transfer.error
  transferred := Transfer.transferred
  buffer T := (T.buffer.map (·.val)).getD fun _ => 0

/-- What every transfer satisfies from its creation on. -/
structure Transfer.WF (T : Transfer) : Prop where
  buffer : T.buffer ≠ none
  error : ∀ e, T.error = some e → e.WF
  small : T.transferred ≤ T.size
  clean : T.pending = true → T.error = none ∧ T.transferred = 0

/-- What the assertions of the callback say. -/
def Completed.Expected (c : Completed) : Prop :=
  c.pending = true ∧ c.error = none ∧ c.transferred = 0

abbrev transferSpec : TransferSpec Transfer Kernel UInt32 Completed :=
  fields.spec outcome (fun _ T => T.WF) Kernel.inFlight Completed.Expected

/-- The invariant of the transfers and the operating system. -/
abbrev Inv : Dev → Prop := TransferInv transferSpec

variable {d d' : Dev} {t : Addr} {T : Transfer}

lemma wp_loadTransfer (hT : d.transfers t = some T) {Q : Transfer → Dev → Prop} :
    wp (loadTransfer t) Q d ↔ Q T d := by
  simp only [loadTransfer, wp_bind, wp_get, wp_expect, hT, Option.some.injEq, exists_eq_left']

/-- The operating system answers every call. -/
lemma wp_call {Q : Turn → Dev → Prop}
    (post : ∀ turn, Q turn { d with kernel := { d.kernel with calls := d.kernel.calls + 1 } }) :
    wp call Q d := by
  simp only [call, wp_bind, wp_get, wp_set, wp_pure]
  exact post _

lemma wp_createMach {errorCode : UInt32} {format : String} {Q : Option Error → Dev → Prop}
    (post : ∀ e h', e.WF → Le d.heap h' → Q (some e) { d with heap := h' }) :
    wp (createMach errorCode format) Q d := by
  simp only [createMach, wp_bind, wp_get]
  exact wp_onHeap_made (made_createMach _ _ _ _) post

/-- The bytes that a read stored. -/
lemma Transfer.filled_val {count i : Nat} {data : Bytes} (buffer : T.buffer ≠ none)
    (lt : i < count) : fields.buffer (T.filled count data) i = data i := by
  obtain ⟨b, eq⟩ := Option.ne_none_iff_exists'.mp buffer
  simp only [fields, Transfer.filled, eq, Option.map_some, Option.getD_some]
  exact if_pos lt

/-! ## Submitting -/

/-- The transfer as it is handed to `ReadPipeAsync`. -/
def Transfer.submitted (T : Transfer) : Transfer :=
  { T with error := none, transferred := 0, pending := true }

/-- A submission keeps the invariant, whether or not it is accepted. -/
lemma wp_submit (inv : Inv d) (hT : d.transfers t = some T) (idle : T.pending = false) :
    wp (asyncInTransferSubmit (some t)) (fun _ d' => Inv d' ∧ Le d.heap d'.heap ∧
      (∃ a, d'.calls = .submit t a :: d.calls) ∧ ∃ T', fields.view.area T' = fields.view.area T ∧
        d'.transfers = Function.update d.transfers t (some T')) d := by
  have wf := inv.wf t T hT
  simp only [asyncInTransferSubmit, wp_bind, wp_loadTransfer hT, wp_check, onHeap, wp_zoom]
  refine ⟨by simp [idle], ?_⟩
  apply wp_errorFree
  intro h₁ le₁ _
  simp only [storeTransfer, wp_modify, readPipeAsync, wp_bind]
  apply wp_call
  intro turn
  have outstanding : transferSpec.outstanding turn.result = decide (turn.result = kernSuccess) := by
    show (if turn.result = kernSuccess then none else _ : Option Outcome).isNone = _
    split <;> simp_all
  apply wp_ite
  · intro accepted
    simp only [wp_bind, wp_modify, wp_pure]
    apply wp_ite (fun no => absurd accepted no)
    intro _
    rw [wp_pure]
    refine ⟨inv.submit (a := turn.result) hT idle le₁ rfl ?_ ?_ rfl ?_, le₁,
      ⟨_, rfl⟩, T.submitted, rfl, rfl⟩
    · exact ⟨wf.buffer, by rintro _ ⟨⟩, Nat.zero_le _, fun _ => ⟨rfl, rfl⟩⟩
    · rw [accepted]
      exact ⟨rfl, rfl⟩
    · rw [outstanding, if_pos (decide_eq_true accepted)]
  · -- the pending flag was set before the call and is taken back
    intro refused
    simp only [wp_pure]
    apply wp_ite (fun _ => ?_) (fun no => absurd refused no)
    simp only [wp_bind]
    refine (wp_loadTransfer (T := T.submitted) ?_).mpr ?_
    · exact Function.update_self ..
    simp only [wp_modify]
    apply wp_createMach
    intro e h₂ wfe le₂
    refine (wp_loadTransfer (T := { T.submitted with pending := false }) ?_).mpr ?_
    · exact Function.update_self ..
    have le₂ : Le d.heap h₂ := le₁.trans le₂
    simp only [Function.update_idem]
    refine ⟨inv.submit (a := turn.result) hT idle le₂ rfl ?_ ?_ rfl ?_, le₂, ⟨_, rfl⟩, _, ?_, rfl⟩
    · refine ⟨wf.buffer, ?_, Nat.zero_le _, fun pend => by cases pend⟩
      rintro _ ⟨⟩
      exact wfe
    · apply Fields.Shows.fate (outcome_refused refused)
      exact ⟨rfl, by simp [fields], rfl, Nat.zero_le _, fun i lt => absurd lt (Nat.not_lt_zero i)⟩
    · rw [outstanding, if_neg (by simpa using refused)]
    · rfl

/-! ## Handling events -/

/-- Nothing that the transfers or the history show has changed. -/
structure Quiet (d d' : Dev) : Prop where
  inv : Inv d'
  heap : Le d.heap d'.heap
  transfers : d'.transfers = d.transfers
  calls : d'.calls = d.calls
  inFlight : d'.kernel.inFlight = d.kernel.inFlight

/-- The operating system reported the end of the read into `t`, which the callback took over. -/
structure Handled (d : Dev) (t : Addr) (T : Transfer) (d' : Dev) : Prop where
  inv : Inv d'
  heap : Le d.heap d'.heap
  transfers : ∃ T', fields.view.area T' = fields.view.area T ∧ fields.pending T' = false ∧
    d'.transfers = Function.update d.transfers t (some T')
  calls : ∃ c, d'.calls = .complete t c :: d.calls
  inFlight : d'.kernel.inFlight = d.kernel.inFlight.erase t

/-- The device when the message about the read into `t` was received. -/
def Dev.received (d : Dev) (t : Addr) (T : Transfer) (kr : UInt32) (count : Nat) (data : Bytes) :
    Dev :=
  { d with
    transfers := Function.update d.transfers t (some (T.filled count data))
    kernel := { d.kernel with inFlight := d.kernel.inFlight.erase t }
    calls := .complete t ⟨kr, count, data, T.pending, T.error, T.transferred⟩ :: d.calls }

/-- What `mach_msg` does. -/
inductive MsgResult (d : Dev) : MachMsg → Dev → Prop where
  | failed {mr : UInt32} {msghSize : Nat} {d' : Dev} : Quiet d d' →
    MsgResult d (.failed mr msghSize) d'
  | received {t : Addr} {T : Transfer} {kr : UInt32} {count : Nat} {data : Bytes} {d₁ : Dev} :
    Quiet d d₁ → d₁.transfers t = some T → t ∈ d₁.kernel.inFlight → count ≤ T.size →
    MsgResult d (.received t kr count) (d₁.received t T kr count data)

lemma wp_machMsg (inv : Inv d) : wp machMsg (MsgResult d) d := by
  have quiet : ∀ n, Quiet d { d with kernel := { d.kernel with calls := n } } := fun n =>
    ⟨inv.same (Le.refl _) rfl, Le.refl _, rfl, rfl, rfl⟩
  simp only [machMsg, wp_bind]
  apply wp_call
  intro turn
  simp only [wp_get]
  apply wp_ite
  · intro _
    rw [wp_pure]
    exact .failed (quiet _)
  intro _
  cases pick : d.kernel.inFlight[turn.pick]? with
  | none =>
    rw [wp_pure]
    exact .failed (quiet _)
  | some t =>
    have mem := List.mem_of_getElem? pick
    obtain ⟨T, hT, _⟩ := (inv.owned t).mp mem
    simp only [storeTransfer, wp_bind]
    refine (wp_loadTransfer (T := T) ?_).mpr ?_
    · exact hT
    simp only [wp_modify, wp_pure]
    exact .received (quiet (d.kernel.calls + 1)) hT mem (min_le_right _ _)

/-- The transfer when its callback returns. -/
def Transfer.ended (T : Transfer) (count : Nat) (data : Bytes) (error : Option Error) : Transfer :=
  { T.filled count data with transferred := count, pending := false, error := error }

/-- The bytes of a read go to the buffer, which stays where it was. -/
lemma Transfer.ended_area {count : Nat} {data : Bytes} {error : Option Error} :
    fields.view.area (T.ended count data error) = fields.view.area T := by
  cases buffer : T.buffer with
  | none => simp [View.area, fields, Transfer.ended, Transfer.filled, buffer]
  | some b => simp [View.area, fields, Transfer.ended, Transfer.filled, buffer]

/-- The assertions of the callback hold, and the transfer shows the outcome afterwards. -/
lemma wp_callback (inv : Inv d) (hT : d.transfers t = some T) (mem : t ∈ d.kernel.inFlight)
    {kr : UInt32} {count : Nat} {data : Bytes} (le : count ≤ T.size) :
    wp (asyncInTransferCallback (some t) kr count) (fun _ d' => Handled d t T d')
      (d.received t T kr count data) := by
  have wf := inv.wf t T hT
  have pend : T.pending = true := (inv.mem_inFlight hT).mp mem
  obtain ⟨noError, zero⟩ := wf.clean pend
  have load : (d.received t T kr count data).transfers t = some (T.filled count data) :=
    Function.update_self ..
  simp only [asyncInTransferCallback, wp_bind]
  rw [wp_loadTransfer load]
  simp only [wp_check]
  refine ⟨pend, by simp [Transfer.filled, noError], by simp [Transfer.filled, zero], ?_⟩
  have done : ∀ error h', Le d.heap h' → (∀ e, error = some e → e.WF) →
      (error ≠ none ↔ (kr != kernSuccess) = true) → Handled d t T
        { d.received t T kr count data with
          heap := h'
          transfers := Function.update (d.received t T kr count data).transfers t
            (some (T.ended count data error)) } := by
    intro error h' le' wfe failed
    have written : Function.update (d.received t T kr count data).transfers t
        (some (T.ended count data error)) =
          Function.update d.transfers t (some (T.ended count data error)) :=
      Function.update_idem ..
    refine ⟨inv.complete hT pend le' written ?_ ?_ ⟨pend, noError, zero⟩ rfl rfl, le',
      ⟨_, Transfer.ended_area, rfl, written⟩, ⟨_, rfl⟩, rfl⟩
    · exact ⟨by simpa [Transfer.ended, Transfer.filled] using wf.buffer, wfe, le,
        fun pend => by cases pend⟩
    · intro a outstanding _
      rw [eq_kernSuccess outstanding]
      apply Fields.Shows.fate outcome_accepted
      exact ⟨rfl, failed, rfl, le, fun i lt => Transfer.filled_val wf.buffer lt⟩
  apply wp_ite
  · intro failed
    rw [wp_bind]
    apply wp_createMach
    intro e h' wfe le'
    simp only [wp_bind, storeTransfer, wp_modify]
    refine (wp_loadTransfer (T := T.filled count data) ?_).mpr ?_
    · exact load
    apply done (some e) h' le'
    · rintro _ ⟨⟩
      exact wfe
    · simpa using failed
  · intro success
    simp only [wp_bind, wp_pure, storeTransfer, wp_modify]
    rw [wp_loadTransfer load]
    apply done none d.heap (Le.refl _)
    · rintro _ ⟨⟩
    · simpa using success

/-- A round of the loop ends it, or handles one more message. -/
lemma wp_receiveAndDispatch (inv : Inv d) : wp receiveAndDispatch (fun r d' => match r with
    | some _ => Quiet d d'
    | none => ∃ d₁ t T, Quiet d d₁ ∧ d₁.transfers t = some T ∧ t ∈ d₁.kernel.inFlight ∧
      Handled d₁ t T d') d := by
  simp only [receiveAndDispatch, wp_bind]
  apply wp_mono (wp_machMsg inv)
  intro msg d₁ result
  cases result with
  | @failed mr msghSize _ q =>
    apply wp_ite
    · intro _
      rw [wp_pure]
      exact q
    intro _
    apply wp_ite
    · intro _
      simp only [wp_bind, wp_pure]
      apply wp_onHeap_made (made_create _ _)
      intro e h' _ le
      exact ⟨q.inv.heap le, q.heap.trans le, q.transfers, q.calls, q.inFlight⟩
    · intro _
      simp only [wp_bind, wp_pure]
      apply wp_createMach
      intro e h' _ le
      exact ⟨q.inv.heap le, q.heap.trans le, q.transfers, q.calls, q.inFlight⟩
  | @received t T kr count data d₁ q hT mem le =>
    simp only [wp_bind, wp_pure]
    apply wp_mono (wp_callback q.inv hT mem le)
    exact fun _ d' handled => ⟨d₁, t, T, q, hT, mem, handled⟩

lemma Quiet.touches (q : Quiet d d') : Touches fields.view [] d d' :=
  Touches.of_same q.heap q.transfers fun us => by rw [q.calls]

/-- A message changes no transfer's buffer, makes none pending, and is no queue operation. -/
lemma Handled.touches (hT : d.transfers t = some T) (handled : Handled d t T d') :
    Touches fields.view [] d d' := by
  obtain ⟨T', area, idle, transfers⟩ := handled.transfers
  obtain ⟨c, calls⟩ := handled.calls
  refine ⟨handled.heap, ?_, ?_⟩
  · intro u _ U hU
    by_cases e : u = t
    · subst e
      rw [hT] at hU
      cases hU
      exact ⟨T', by rw [transfers, Function.update_self], area, fun _ => idle⟩
    · exact ⟨U, by rw [transfers, Function.update_of_ne e, hU], rfl, id⟩
  · intro us _
    rw [calls, queueOps_cons_complete]

/-- The loop ends because every round but the last leaves fewer reads to be reported. -/
lemma wp_events (inv : Inv d) (handle : Handle) :
    wp (genericHandleEvents (some handle)) (fun _ d' =>
      Inv d' ∧ Touches fields.view [] d d') d := by
  simp only [genericHandleEvents, wp_bind, wp_check, wp_get]
  refine ⟨rfl, ?_⟩
  apply wp_loop (fun d₁ => Inv d₁ ∧ Touches fields.view [] d d₁)
    fun d₁ => d₁.kernel.inFlight.length
  · rintro d₁ ⟨inv₁, touches⟩
    apply wp_mono (wp_receiveAndDispatch inv₁)
    intro result d₂ h
    cases result with
    | some error => exact ⟨h.inv, touches.trans h.touches⟩
    | none =>
      obtain ⟨d₁', t, T, q, hT, mem, handled⟩ := h
      refine ⟨⟨handled.inv, touches.trans (q.touches.trans (handled.touches hT))⟩, ?_⟩
      have pos : 0 < d₁'.kernel.inFlight.length := List.length_pos_of_mem mem
      rw [handled.inFlight, List.length_erase_of_mem mem, ← q.inFlight]
      exact Nat.sub_lt pos Nat.one_pos
  · exact Nat.lt_succ_self _
  · exact ⟨inv, Touches.refl⟩

/-! ## Results and cancelling -/

lemma wp_getResults {out : Outputs} (inv : Inv d) (hT : d.transfers t = some T)
    (idle : T.pending = false) :
    wp (asyncInTransferGetResults (some t) out) (fun r d' =>
      r.1 = none ∧ r.2.finished = out.finished ∧ Inv d' ∧ Le d.heap d'.heap ∧
        d'.transfers = d.transfers ∧ d'.calls = .results t r.2 :: d.calls ∧
          OutcomeReport outcome d.calls t (fields.size T) out r.2) d := by
  have wf := inv.wf t T hT
  obtain ⟨block, eq⟩ := Option.ne_none_iff_exists'.mp wf.buffer
  have bytes : block.val = fields.buffer T := by simp [fields, eq]
  simp only [asyncInTransferGetResults, wp_bind, wp_loadTransfer hT, wp_check, wp_expect]
  refine ⟨by simp [idle], by simpa using wf.small, block, eq, ?_⟩
  cases te : out.transferError with
  | none =>
    simp only [wp_bind, wp_modify, wp_pure]
    refine ⟨trivial, trivial, inv.results (Le.refl _) hT idle, Le.refl _, trivial, trivial, ?_⟩
    apply (inv.fate t T hT).report idle rfl (by rw [bytes]; rfl)
    · rw [te]
    · intro error eq
      cases eq
  | some slot =>
    simp only [onHeap, wp_bind, wp_zoom, wp_modify, wp_pure]
    apply wp_errorCopy wf.error
    intro r h' le copied
    refine ⟨trivial, trivial, inv.results le hT idle, le, trivial, trivial, ?_⟩
    apply (inv.fate t T hT).report idle rfl (by rw [bytes]; rfl)
    · rw [te]
      rfl
    · rintro error ⟨⟩
      exact copied

lemma wp_pending (hT : d.transfers t = some T) {Q : Bool → Dev → Prop} :
    wp (asyncInTransferPending (some t)) Q d ↔ Q T.pending d := by
  simp only [asyncInTransferPending, wp_bind, wp_loadTransfer hT, wp_pure]

lemma wp_cancel (inv : Inv d) (hT : d.transfers t = some T) :
    wp (asyncInTransferCancel (some t)) (fun _ d' => Quiet d d') d := by
  simp only [asyncInTransferCancel, wp_bind, wp_loadTransfer hT]
  apply wp_call
  intro turn
  apply wp_ite
  · intro _
    apply wp_createMach
    intro e h' _ le
    exact ⟨inv.same le rfl, le, rfl, rfl, rfl⟩
  · intro _
    rw [wp_pure]
    exact ⟨inv.same (Le.refl _) rfl, Le.refl _, rfl, rfl, rfl⟩

/-! ## Memory -/

lemma wp_free_idle (hT : d.transfers t = some T) (idle : T.pending = false)
    {Q : Unit → Dev → Prop}
    (post : ∀ h', Frees (fields.view.blocks t T) d.heap h' →
      Q () { d with heap := h', transfers := Function.update d.transfers t none }) :
    wp (asyncInTransferFree (some t)) Q d := by
  simp only [asyncInTransferFree, wp_bind, wp_loadTransfer hT, idle]
  apply wp_ite (fun pend => by cases pend)
  intro _
  simp only [wp_bind, onHeap, wp_zoom]
  apply errorFree_frees
  intro h₁ error
  apply Frees.wp_free
  intro h₂ buffer
  simp only [freeTransfer, wp_bind]
  refine (wp_loadTransfer (T := T) ?_).mpr ?_
  · exact hT
  simp only [wp_modify, onHeap, wp_zoom]
  apply Frees.wp_free
  intro h₃ struct
  apply post
  exact ((error.trans buffer).trans struct).of_eq (Estate.blocks_freed (E := fields.view.toEstate) (T := T))

/-- A pending transfer is not freed. -/
lemma wp_free_pending (hT : d.transfers t = some T) (pend : T.pending = true)
    {Q : Unit → Dev → Prop} (post : Q () d) : wp (asyncInTransferFree (some t)) Q d := by
  simp only [asyncInTransferFree, wp_bind, wp_loadTransfer hT]
  apply wp_ite
  · intro _
    rwa [wp_pure]
  · exact fun no => absurd pend no

lemma wp_getPipeIndex {handle : Handle} {pipeId : UInt8} {Q : UInt8 → Dev → Prop}
    (post : ∀ i, Q i d) : wp (genericHandleGetPipeIndex (some handle) pipeId) Q d := by
  simp only [genericHandleGetPipeIndex, wp_bind, wp_get]
  apply wp_ite
  · intro _
    exact wp_pure.mpr (post _)
  · intro _
    exact wp_pure.mpr (post _)

lemma wp_create {handle : Handle} {pipeId : UInt8} {size : Nat} (inv : Inv d) :
    wp (asyncInTransferCreate (some handle) pipeId size) (fun r d' =>
      Inv d' ∧ Le d.heap d'.heap ∧ d'.calls = d.calls ∧
        match r with
        | .error error => error.WF ∧ d'.transfers = d.transfers
        | .ok t => d.heap.next ≤ t ∧ t < d'.heap.next ∧ ∃ T,
          fields.size T = size ∧ fields.view.Buffered d'.heap T ∧ fields.pending T = false ∧
            d'.transfers = Function.update d.transfers t (some T)) d := by
  simp only [asyncInTransferCreate, wp_bind, wp_check]
  refine ⟨rfl, ?_⟩
  apply wp_ite
  · intro _
    rw [wp_bind]
    apply wp_onHeap_made (made_create _ _)
    intro e h₁ wf le
    simp only [wp_bind, wp_expect, Option.some.injEq, exists_eq_left', wp_pure]
    exact ⟨inv.heap le, le, trivial, wf, trivial⟩
  intro _
  simp only [wp_bind, onHeap, wp_zoom]
  apply wp_calloc
  · intro h₁ le₁ next₁ _
    simp only [storeTransfer, wp_bind, wp_modify, wp_zoom]
    apply wp_malloc_sized
    · intro h₂ le₂ next₂ block
      have le := le₁.trans le₂
      have lt : d.heap.next < h₂.next := by omega
      simp only [wp_bind, wp_get, genericHandleGetIoh, wp_pure]
      apply wp_getPipeIndex
      intro pipeIndex
      simp only [wp_modify, Function.update_idem]
      refine ⟨inv.create le lt (Nat.le_refl _) rfl ?_ ?_ rfl rfl, le, trivial, Nat.le_refl _, lt, _,
        ?_, ⟨_, rfl, block⟩, ?_, rfl⟩
      · exact ⟨Option.some_ne_none _, by rintro _ ⟨⟩, Nat.zero_le _, fun pend => by cases pend⟩
      all_goals rfl
    · intro h₂ le₂
      simp only [wp_bind, wp_modify, wp_pure, Function.update_idem]
      apply wp_free_idle (Function.update_self ..) rfl
      intro h₃ freed
      have fresh : d.transfers d.heap.next = none := by
        rw [Option.eq_none_iff_forall_ne_some]
        exact fun T hT => absurd (inv.fresh _ T hT) (Nat.lt_irrefl _)
      have le := le₁.trans (le₂.trans freed.le)
      have same : Function.update d.transfers d.heap.next none = d.transfers := by
        rw [← fresh, Function.update_eq_self]
      simp only [Function.update_idem, same]
      exact ⟨inv.heap le, le, trivial, errorNoMemory_wf, trivial⟩
  · intro h₁ le₁
    simp only [asyncInTransferFree, wp_bind, wp_pure]
    exact ⟨inv.heap le₁, le₁, trivial, errorNoMemory_wf, trivial⟩

/-- The macOS backend meets its contract. -/
def contract (handle : Handle) : Contract backend handle where
  view := fields.view
  Inv := Inv
  Report := OutcomeReport outcome
  Poll _ calls calls' := calls' = calls
  poll := Or.inl
  heap := TransferInv.heap
  liveFresh inv hT := inv.fresh _ _ hT
  callFresh inv mem := inv.callFresh _ mem
  setup inv := wp_pure.mpr ⟨inv, Le.refl _, rfl, rfl, by rintro _ ⟨⟩⟩
  create inv _ _ := wp_create inv
  freeNull := wp_pure.mpr rfl
  free := by
    intro d t T inv hT
    cases pend : T.pending with
    | true =>
      apply wp_free_pending hT pend
      refine ⟨inv, Frees.of_eq (.refl _) ?_, rfl, (if_pos pend).symm⟩
      exact (if_pos pend).symm
    | false =>
      apply wp_free_idle hT pend
      intro h' freed
      have no : ¬T.pending = true := by
        rw [pend]
        exact Bool.false_ne_true
      exact ⟨inv.remove hT pend freed.le rfl, freed.of_eq (if_neg no).symm, rfl, (if_neg no).symm⟩
  submit := wp_submit
  pending := by
    intro d t T inv hT
    apply (wp_pending hT).mpr
    exact ⟨inv, Le.refl _, rfl, T, rfl, rfl, id, by rw [← hT, Function.update_eq_self]⟩
  getResults := wp_getResults
  cancel := by
    intro d t T inv hT
    apply wp_mono (wp_cancel inv hT)
    intro _ d' q
    exact ⟨q.inv, q.heap, q.transfers, fun us => by rw [q.calls]⟩
  events inv := wp_events inv handle

end Libusbp.Mac
