import Libusbp.Windows.AsyncInTransfer
import Libusbp.Outcome

/-!
# The Windows backend meets its contract

A transfer learns that its read is finished when it is polled. A transfer that is not pending shows
the outcome of its last submission, whether that was refused, succeeded at once or was harvested.
-/

namespace Libusbp.Windows

open Prog Heap

/-- What a submission came to: nothing yet for a read that is left to the operating system. -/
def outcome : ReadAnswer → Option Harvest → Option Outcome
  | .completed count data, none => some ⟨false, count, data⟩
  | .pending, some g => some ⟨!g.success, g.count, g.data⟩
  | .refused _, none => some ⟨true, 0, fun _ => 0⟩
  | _, _ => none

def fields : Fields Transfer where
  block T := some T.buffer.loc
  size := Transfer.bufferSize
  pending := Transfer.pending
  error := Transfer.error
  transferred := Transfer.transferred
  buffer T := T.buffer.val

/-- What every transfer satisfies from its creation on. -/
structure Transfer.WF (T : Transfer) : Prop where
  error : ∀ e, T.error = some e → e.WF
  clean : T.pending = true → T.error = none

abbrev transferSpec : TransferSpec Transfer Kernel ReadAnswer Harvest :=
  fields.spec outcome (fun _ T => T.WF) Kernel.inFlight fun _ => True

/-- The invariant of the transfers and the operating system. -/
abbrev Inv : Dev → Prop := TransferInv transferSpec

variable {d d' : Dev} {t : Addr} {T : Transfer}

lemma wp_loadTransfer (hT : d.transfers t = some T) {Q : Transfer → Dev → Prop} :
    wp (loadTransfer t) Q d ↔ Q T d := by
  simp only [loadTransfer, wp_bind, wp_get, wp_expect, hT, Option.some.injEq, exists_eq_left']

/-- The operating system answers every call. -/
lemma wp_call {Q : Turn → Dev → Prop}
    (post : ∀ turn, Q turn { d with kernel := { d.kernel with calls := d.kernel.calls + 1 } }) :
    wp call Q d := by
  simp only [call, wp_bind, wp_get, wp_set, wp_pure]
  exact post _

lemma wp_createWinapi {errorCode : UInt32} {format : String} {Q : Option Error → Dev → Prop}
    (post : ∀ e h', e.WF → Le d.heap h' → Q (some e) { d with heap := h' }) :
    wp (createWinapi errorCode format) Q d := by
  simp only [createWinapi, wp_bind, wp_get]
  exact wp_onHeap_made (made_createWinapi _ _ _ _) post

lemma wp_createOverlapped {errorCode : UInt32} {format : String} {Q : Option Error → Dev → Prop}
    (post : ∀ e h', e.WF → Le d.heap h' → Q (some e) { d with heap := h' }) :
    wp (createOverlapped errorCode format) Q d := by
  simp only [createOverlapped, wp_bind, wp_get]
  exact wp_onHeap_made (made_createOverlapped _ _ _ _) post

/-! ## Submitting -/

/-- The transfer as it is handed to `WinUsb_ReadPipe`. -/
def Transfer.submitted (T : Transfer) : Transfer :=
  { T with error := none, pending := true, transferred := 0 }

/-- What `WinUsb_ReadPipe` does to a transfer that was just reset. -/
inductive ReadResult (d : Dev) (t : Addr) (T : Transfer) : ReadAnswer → Dev → Prop where
  | completed {count : Nat} {data : Bytes} {d' : Dev} : count ≤ T.bufferSize →
    d'.heap = d.heap → d'.kernel.inFlight = d.kernel.inFlight →
    d'.calls = .submit t (.completed count data) :: d.calls →
    d'.transfers = Function.update d.transfers t
      (some { T.filled count data with transferred := count }) →
    ReadResult d t T (.completed count data) d'
  | pending {count : Nat} {d' : Dev} : d'.heap = d.heap →
    d'.kernel.inFlight = d.kernel.inFlight ++ [t] → d'.calls = .submit t .pending :: d.calls →
    d'.transfers = Function.update d.transfers t (some { T with transferred := count }) →
    ReadResult d t T .pending d'
  | refused {lastError : UInt32} {d' : Dev} : d'.heap = d.heap →
    d'.kernel.inFlight = d.kernel.inFlight →
    d'.calls = .submit t (.refused lastError) :: d.calls → d'.transfers = d.transfers →
    ReadResult d t T (.refused lastError) d'

lemma wp_readPipe (hT : d.transfers t = some T) :
    wp (winUsbReadPipe t) (ReadResult d t T) d := by
  simp only [winUsbReadPipe, wp_bind, wp_loadTransfer hT]
  apply wp_call
  intro turn
  apply wp_ite
  · intro _
    simp only [storeTransfer, wp_bind, wp_modify, wp_pure]
    exact .completed (min_le_right _ _) rfl rfl rfl rfl
  intro _
  apply wp_ite
  · intro _
    simp only [storeTransfer, wp_bind, wp_modify, wp_pure]
    exact .pending rfl rfl rfl rfl
  · intro _
    simp only [wp_bind, wp_modify, wp_pure]
    exact .refused rfl rfl rfl rfl

/-- The bytes that a read stored. -/
lemma Transfer.filled_val {count i : Nat} {data : Bytes} (lt : i < count) :
    (T.filled count data).buffer.val i = data i :=
  if_pos lt

/-- A submission keeps the invariant, whatever the operating system answers. -/
lemma wp_submit (inv : Inv d) (hT : d.transfers t = some T) (idle : T.pending = false) :
    wp (asyncInTransferSubmit (some t)) (fun _ d' => Inv d' ∧ Le d.heap d'.heap ∧
      (∃ a, d'.calls = .submit t a :: d.calls) ∧ ∃ T', fields.view.area T' = fields.view.area T ∧
        d'.transfers = Function.update d.transfers t (some T')) d := by
  simp only [asyncInTransferSubmit, wp_bind, wp_loadTransfer hT, wp_check, onHeap, wp_zoom]
  refine ⟨by simp [idle], ?_⟩
  apply wp_errorFree
  intro h₁ le₁ _
  simp only [storeTransfer, wp_modify]
  apply wp_mono (wp_readPipe (T := T.submitted) (Function.update_self ..))
  intro answer d₂ result
  cases result with
  -- the read succeeded at once: nothing is left to the operating system
  | @completed count data _ le heap flight calls transfers =>
    simp only [wp_bind]
    rw [wp_loadTransfer (by rw [transfers]; exact Function.update_self ..), wp_modify]
    have le₂ : Le d.heap d₂.heap := by
      rw [heap]
      exact le₁
    have written : Function.update d₂.transfers t
        (some { T.submitted.filled count data with transferred := count, pending := false }) =
          Function.update d.transfers t
            (some { T.submitted.filled count data with transferred := count, pending := false }) := by
      rw [transfers]
      simp only [Function.update_idem]
    refine ⟨inv.submit hT idle le₂ written ⟨?_, ?_⟩ ?_ calls flight, le₂, ⟨_, calls⟩, _, ?_, written⟩
    · rintro _ ⟨⟩
    · exact fun pend => by cases pend
    · exact ⟨rfl, by simp [fields, Transfer.filled, Transfer.submitted], rfl, le,
        fun i lt => Transfer.filled_val lt⟩
    · rfl
  | @pending count _ heap flight calls transfers =>
    rw [wp_pure]
    have le₂ : Le d.heap d₂.heap := by
      rw [heap]
      exact le₁
    simp only [Function.update_idem] at transfers
    refine ⟨inv.submit (a := .pending) hT idle le₂ transfers ⟨?_, fun _ => rfl⟩ ⟨rfl, rfl⟩ calls flight,
      le₂, ⟨_, calls⟩, _, ?_, transfers⟩
    · rintro _ ⟨⟩
    · rfl
  -- any error but `ERROR_IO_PENDING` ends the transfer with an error
  | @refused lastError _ heap flight calls transfers =>
    simp only [wp_bind]
    apply wp_createWinapi
    intro e h₃ wf le₃
    rw [wp_loadTransfer (by show d₂.transfers t = _; rw [transfers]; exact Function.update_self ..),
      wp_modify]
    have le₂ : Le d.heap h₃ := by
      rw [heap] at le₃
      exact le₁.trans le₃
    have written : Function.update d₂.transfers t
        (some { T.submitted with error := some e, pending := false }) =
          Function.update d.transfers t
            (some { T.submitted with error := some e, pending := false }) := by
      rw [transfers]
      simp only [Function.update_idem]
    refine ⟨inv.submit hT idle le₂ written ⟨?_, ?_⟩ ?_ calls flight, le₂, ⟨_, calls⟩, _, ?_, written⟩
    · rintro _ ⟨⟩
      exact wf
    · exact fun pend => by cases pend
    · exact ⟨rfl, by simp [fields], rfl, Nat.zero_le _, fun i lt => absurd lt (Nat.not_lt_zero i)⟩
    · rfl

/-! ## Polling -/

/-- What `WinUsb_GetOverlappedResult` does. -/
inductive OverlappedResult (d : Dev) (t : Addr) (T : Transfer) : Bool × UInt32 × Nat → Dev → Prop where
  | incomplete {count : Nat} {d' : Dev} : d'.heap = d.heap →
    d'.kernel.inFlight = d.kernel.inFlight → d'.calls = d.calls → d'.transfers = d.transfers →
    OverlappedResult d t T (false, errorIoIncomplete, count) d'
  | harvested {g : Harvest} {d' : Dev} : ¬(g.success = false ∧ g.lastError = errorIoIncomplete) →
    g.count ≤ T.bufferSize → d'.heap = d.heap →
    d'.kernel.inFlight = d.kernel.inFlight.erase t → d'.calls = .complete t g :: d.calls →
    d'.transfers = Function.update d.transfers t (some (T.filled g.count g.data)) →
    OverlappedResult d t T (g.success, g.lastError, g.count) d'

lemma wp_getOverlappedResult (hT : d.transfers t = some T) :
    wp (winUsbGetOverlappedResult t) (OverlappedResult d t T) d := by
  simp only [winUsbGetOverlappedResult, wp_bind, wp_loadTransfer hT]
  apply wp_call
  intro turn
  apply wp_ite
  · intro _
    rw [wp_pure]
    exact .incomplete rfl rfl rfl rfl
  · intro complete
    simp only [storeTransfer, wp_bind, wp_modify, wp_pure]
    exact .harvested (g := ⟨turn.success, turn.lastError, min turn.count T.bufferSize, turn.data⟩)
      complete (min_le_right _ _) rfl rfl rfl rfl

/-- The transfer after a read was harvested from it. -/
def Transfer.harvested (T : Transfer) (g : Harvest) (error : Option Error) : Transfer :=
  { T.filled g.count g.data with transferred := g.count, pending := false, error := error }

/-- A harvested transfer shows how the read went. -/
lemma Transfer.harvested_shows {g : Harvest} {error : Option Error} (le : g.count ≤ T.bufferSize)
    (failed : error ≠ none ↔ g.success = false) :
    fields.Shows (T.harvested g error) ⟨!g.success, g.count, g.data⟩ :=
  ⟨rfl, by simpa [Transfer.harvested, fields] using failed, rfl, le, fun _ lt => filled_val lt⟩

/-- A harvest keeps the invariant. -/
lemma inv_harvested (inv : Inv d) (hT : d.transfers t = some T) (pend : T.pending = true)
    {g : Harvest} {error : Option Error} (le : g.count ≤ T.bufferSize)
    (failed : error ≠ none ↔ g.success = false) (wf : ∀ e, error = some e → e.WF)
    (heap : Le d.heap d'.heap)
    (transfers : d'.transfers = Function.update d.transfers t (some (T.harvested g error)))
    (calls : d'.calls = .complete t g :: d.calls)
    (flight : d'.kernel.inFlight = d.kernel.inFlight.erase t) : Inv d' := by
  apply inv.complete hT pend heap transfers ⟨wf, fun no => by cases no⟩ _ trivial calls flight
  -- only a read that was left to the operating system can be harvested
  intro a outstanding _
  cases a with
  | pending => exact Transfer.harvested_shows le failed
  | completed count data => cases outstanding
  | refused lastError => cases outstanding

/-- Polling harvests a read that is finished, and then shows its outcome; a transfer that is not
pending is left alone. -/
lemma wp_pending (inv : Inv d) (hT : d.transfers t = some T) :
    wp (asyncInTransferPending (some t)) (fun r d' => Inv d' ∧ Le d.heap d'.heap ∧
      Polled t d.calls d'.calls ∧
      ∃ T', fields.view.area T' = fields.view.area T ∧ fields.pending T' = r ∧
        (fields.pending T = false → fields.pending T' = false) ∧
          d'.transfers = Function.update d.transfers t (some T')) d := by
  simp only [asyncInTransferPending, wp_bind, wp_loadTransfer hT]
  apply wp_ite
  · intro idle
    rw [wp_pure]
    refine ⟨inv, Le.refl _, .inl rfl, T, rfl, by simpa [fields] using idle, id, ?_⟩
    rw [← hT, Function.update_eq_self]
  intro pend
  have pend : T.pending = true := by simpa using pend
  have wf := inv.wf t T hT
  simp only [wp_bind]
  apply wp_mono (wp_getOverlappedResult hT)
  rintro _ d₁ result
  cases result with
  | @incomplete count _ heap flight calls transfers =>
    rw [wp_loadTransfer (transfers.symm ▸ hT)]
    apply wp_ite (fun no => by cases no)
    intro _
    apply wp_ite (fun _ => ?_) (fun no => absurd rfl no)
    have le : Le d.heap d₁.heap := heap.symm ▸ Le.refl _
    have written : Function.update d₁.transfers t (some { T with transferred := count }) =
        Function.update d.transfers t (some { T with transferred := count }) := by
      rw [transfers]
    simp only [storeTransfer, wp_bind, wp_modify, wp_pure]
    refine ⟨inv.modify hT le written ⟨wf.error, wf.clean⟩ rfl ?_ calls flight, le, .inl calls,
      { T with transferred := count }, rfl, pend, id, written⟩
    -- only the count of bytes changed, which says nothing while the transfer is pending
    exact fun last fate => Fields.Fate.of_pending fate pend pend
  | @harvested g _ complete count heap flight calls transfers =>
    rw [wp_loadTransfer (by rw [transfers]; exact Function.update_self ..)]
    have le₁ : Le d.heap d₁.heap := heap.symm ▸ Le.refl _
    have written (error : Option Error) : Function.update d₁.transfers t
        (some (T.harvested g error)) = Function.update d.transfers t (some (T.harvested g error)) := by
      rw [transfers, Function.update_idem]
    apply wp_ite
    · intro success
      have success : g.success = true := success
      have failed : T.error ≠ none ↔ g.success = false := by simp [wf.clean pend, success]
      simp only [storeTransfer, wp_bind, wp_modify, wp_pure]
      refine ⟨?_, le₁, .inr ⟨g, calls⟩, T.harvested g T.error, rfl, rfl, fun _ => rfl,
        written T.error⟩
      exact inv_harvested inv hT pend count failed wf.error le₁ (written T.error) calls flight
    · intro unsuccessful
      have unsuccessful : g.success = false := by simpa using unsuccessful
      apply wp_ite (fun no => absurd ⟨unsuccessful, no⟩ complete)
      intro _
      simp only [wp_bind]
      apply wp_createOverlapped
      intro e h₂ wfe le₂
      have le₂ : Le d.heap h₂ := le₁.trans le₂
      have failed : some e ≠ none ↔ g.success = false := by simp [unsuccessful]
      simp only [storeTransfer, wp_modify, wp_pure]
      have wfe : ∀ e', some e = some e' → e'.WF := by
        rintro _ ⟨⟩
        exact wfe
      refine ⟨?_, le₂, .inr ⟨g, calls⟩, T.harvested g (some e), rfl, rfl, fun _ => rfl,
        written (some e)⟩
      exact inv_harvested inv hT pend count failed wfe le₂ (written (some e)) calls flight

/-! ## Results and cancelling -/

lemma wp_getResults {out : Outputs} (inv : Inv d) (hT : d.transfers t = some T)
    (idle : T.pending = false) :
    wp (asyncInTransferGetResults (some t) out) (fun r d' =>
      r.1 = none ∧ r.2.finished = out.finished ∧ Inv d' ∧ Le d.heap d'.heap ∧
        d'.transfers = d.transfers ∧ d'.calls = .results t r.2 :: d.calls ∧
          OutcomeReport outcome d.calls t (fields.size T) out r.2) d := by
  have wf := inv.wf t T hT
  simp only [asyncInTransferGetResults, wp_bind, wp_loadTransfer hT, wp_check]
  refine ⟨by simp [idle], ?_⟩
  cases te : out.transferError with
  | none =>
    simp only [wp_bind, wp_modify, wp_pure]
    refine ⟨trivial, trivial, inv.results (Le.refl _) hT idle, Le.refl _, trivial, trivial, ?_⟩
    apply (inv.fate t T hT).report idle rfl rfl
    · rw [te]
    · intro error eq
      cases eq
  | some slot =>
    simp only [onHeap, wp_bind, wp_zoom, wp_modify, wp_pure]
    apply wp_errorCopy wf.error
    intro r h' le copied
    refine ⟨trivial, trivial, inv.results le hT idle, le, trivial, trivial, ?_⟩
    apply (inv.fate t T hT).report idle rfl rfl
    · rw [te]
      rfl
    · rintro error ⟨⟩
      exact copied

lemma wp_cancel (inv : Inv d) (hT : d.transfers t = some T) :
    wp (asyncInTransferCancel (some t)) (fun _ d' => Inv d' ∧ Le d.heap d'.heap ∧
      d'.transfers = d.transfers ∧ d'.calls = d.calls) d := by
  simp only [asyncInTransferCancel, wp_bind, wp_loadTransfer hT]
  apply wp_call
  intro turn
  apply wp_ite
  · intro _
    rw [wp_pure]
    exact ⟨inv.same (Le.refl _) rfl, Le.refl _, rfl, rfl⟩
  · intro _
    apply wp_createWinapi
    intro e h' _ le
    exact ⟨inv.same le rfl, le, rfl, rfl⟩

/-! ## Memory -/

lemma wp_free_idle (hT : d.transfers t = some T) (idle : T.pending = false)
    {Q : Unit → Dev → Prop}
    (post : ∀ h', Frees (fields.view.blocks t T) d.heap h' → Q () { d with
      heap := h'
      transfers := Function.update d.transfers t none
      kernel := { d.kernel with openEvents := d.kernel.openEvents.erase T.event } }) :
    wp (asyncInTransferFree (some t)) Q d := by
  simp only [asyncInTransferFree, wp_bind, wp_loadTransfer hT, idle]
  apply wp_ite (fun pend => by cases pend)
  intro _
  simp only [wp_bind, onHeap, wp_zoom, closeHandle, wp_modify]
  apply errorFree_frees
  intro h₁ error
  apply Frees.wp_free
  intro h₂ buffer
  simp only [freeTransfer, wp_bind]
  refine (wp_loadTransfer (T := T) ?_).mpr ?_
  · exact hT
  simp only [wp_modify, onHeap, wp_zoom]
  apply Frees.wp_free
  intro h₃ struct
  apply post
  exact ((error.trans buffer).trans struct).of_eq (Estate.blocks_freed (E := fields.view.toEstate) (T := T))

/-- A pending transfer is not freed. -/
lemma wp_free_pending (hT : d.transfers t = some T) (pend : T.pending = true)
    {Q : Unit → Dev → Prop} (post : Q () d) : wp (asyncInTransferFree (some t)) Q d := by
  simp only [asyncInTransferFree, wp_bind, wp_loadTransfer hT]
  apply wp_ite
  · intro _
    rwa [wp_pure]
  · exact fun no => absurd pend no

/-- The outcome of `CreateEvent`. -/
lemma wp_createEvent {Q : Int × UInt32 → Dev → Prop}
    (post : ∀ event lastError openEvents, Q (event, lastError) { d with
      kernel := { d.kernel with calls := d.kernel.calls + 1, openEvents := openEvents } }) :
    wp createEvent Q d := by
  simp only [createEvent, wp_bind, wp_get]
  apply wp_call
  intro turn
  apply wp_ite
  · intro _
    simp only [wp_bind, wp_modify, wp_pure]
    exact post _ _ _
  · intro _
    rw [wp_pure]
    exact post _ _ _

lemma wp_create {handle : Handle} {pipeId : UInt8} {size : Nat} (inv : Inv d) (pos : size ≠ 0) :
    wp (asyncInTransferCreate (some handle) pipeId size) (fun r d' =>
      Inv d' ∧ Le d.heap d'.heap ∧ d'.calls = d.calls ∧
        match r with
        | .error error => error.WF ∧ d'.transfers = d.transfers
        | .ok t => d.heap.next ≤ t ∧ t < d'.heap.next ∧ ∃ T,
          fields.size T = size ∧ fields.view.Buffered d'.heap T ∧ fields.pending T = false ∧
            d'.transfers = Function.update d.transfers t (some T)) d := by
  simp only [asyncInTransferCreate, wp_bind, wp_check]
  refine ⟨by simpa using pos, ?_⟩
  apply wp_ite
  · intro _
    rw [wp_bind]
    apply wp_onHeap_made (made_create _ _)
    intro e h₁ wf le
    simp only [wp_bind, wp_expect, Option.some.injEq, exists_eq_left', wp_pure]
    exact ⟨inv.heap le, le, trivial, wf, trivial⟩
  intro _
  simp only [wp_bind, onHeap, wp_zoom]
  apply wp_calloc
  · intro h₁ le₁ next₁ _
    simp only [wp_bind, wp_zoom]
    apply wp_malloc_sized
    · intro h₂ le₂ next₂ block
      simp only [wp_bind]
      -- the event is the last thing to be made; without it both blocks are freed again
      apply wp_createEvent
      intro event lastError openEvents
      apply wp_ite
      · intro _
        simp only [wp_bind]
        apply wp_createWinapi
        intro e h₃ wf le₃
        simp only [wp_expect, Option.some.injEq, exists_eq_left', closeHandle, wp_modify, wp_zoom,
          wp_pure]
        apply wp_free_le
        intro h₄ le₄
        apply wp_free_le
        intro h₅ le₅
        have le := le₁.trans (le₂.trans (le₃.trans (le₄.trans le₅)))
        exact ⟨inv.same le rfl, le, trivial, wf, trivial⟩
      · intro _
        simp only [wp_bind, wp_get, storeTransfer, wp_modify, wp_pure]
        have le := le₁.trans le₂
        have lt : d.heap.next < h₂.next := by omega
        refine ⟨inv.create le lt (Nat.le_refl _) rfl ⟨?_, fun _ => rfl⟩ ?_ rfl rfl, le, trivial,
          Nat.le_refl _, lt, _, ?_, ⟨_, rfl, block⟩, ?_, rfl⟩
        · rintro _ ⟨⟩
        all_goals rfl
    · intro h₂ le₂
      simp only [wp_bind, wp_zoom, wp_pure]
      apply wp_free_le
      intro h₃ le₃
      have le := le₁.trans (le₂.trans le₃)
      exact ⟨inv.heap le, le, trivial, errorNoMemory_wf, trivial⟩
  · intro h₁ le₁
    simp only [wp_pure]
    exact ⟨inv.heap le₁, le₁, trivial, errorNoMemory_wf, trivial⟩

lemma wp_setup {handle : Handle} {pipeId : UInt8} (inv : Inv d) :
    wp (asyncInPipeSetup (some handle) pipeId) (fun r d' => Inv d' ∧ Le d.heap d'.heap ∧
      d'.calls = d.calls ∧ d'.transfers = d.transfers ∧ ∀ error, r = some error → error.WF) d := by
  simp only [asyncInPipeSetup, wp_bind, wp_check]
  refine ⟨rfl, ?_⟩
  apply wp_call
  intro turn
  apply wp_ite
  · intro _
    rw [wp_pure]
    refine ⟨inv.same (Le.refl _) rfl, Le.refl _, rfl, rfl, ?_⟩
    rintro _ ⟨⟩
  · intro _
    apply wp_createWinapi
    intro e h' wf le
    refine ⟨inv.same le rfl, le, rfl, rfl, ?_⟩
    rintro _ ⟨⟩
    exact wf

/-- The Windows backend meets its contract. -/
def contract (handle : Handle) : Contract backend handle where
  view := fields.view
  Inv := Inv
  Report := OutcomeReport outcome
  Poll := Polled
  poll := id
  heap := TransferInv.heap
  liveFresh inv hT := inv.fresh _ _ hT
  callFresh inv mem := inv.callFresh _ mem
  setup := wp_setup
  create inv _ pos := wp_create inv pos
  freeNull := wp_pure.mpr rfl
  free := by
    intro d t T inv hT
    cases pend : T.pending with
    | true =>
      apply wp_free_pending hT pend
      refine ⟨inv, Frees.of_eq (.refl _) ?_, rfl, (if_pos pend).symm⟩
      exact (if_pos pend).symm
    | false =>
      apply wp_free_idle hT pend
      intro h' freed
      have no : ¬T.pending = true := by
        rw [pend]
        exact Bool.false_ne_true
      exact ⟨inv.remove hT pend freed.le rfl, freed.of_eq (if_neg no).symm, rfl, (if_neg no).symm⟩
  submit := wp_submit
  pending := wp_pending
  getResults := wp_getResults
  cancel := by
    intro d t T inv hT
    apply wp_mono (wp_cancel inv hT)
    rintro _ d' ⟨inv', le, transfers, calls⟩
    exact ⟨inv', le, transfers, fun us => by rw [calls]⟩
  events := by
    intro d inv
    exact wp_pure.mpr ⟨inv, Touches.refl⟩

end Libusbp.Windows
