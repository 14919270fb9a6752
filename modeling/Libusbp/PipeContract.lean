import Libusbp.AsyncInPipe
import Libusbp.ErrorLedger
import Libusbp.Lib.Fifo

/-!
# What a backend owes to the pipe code

`Contract` is the specification of the `async_in_transfer` functions that the pipe code relies on:
an invariant of the device state, the transfer's own pending flag, and for each function what it
changes. `Touches` is the frame: a function called on the transfers `ts` leaves every other transfer
alive, with the same buffer and not newly pending, and adds no queue operation of another pipe to the
history.
-/

namespace Libusbp

open Prog Heap

variable {τ κ α γ : Type}

/-- A call that always makes an error, on the heap of the device. -/
lemma wp_onHeap_made {x : Prog Fault Heap (Option Error)} {d : Dev τ κ α γ}
    (made : wp x (Made d.heap) d.heap) {Q : Option Error → Dev τ κ α γ → Prop}
    (post : ∀ e h', e.WF → Le d.heap h' → Q (some e) { d with heap := h' }) :
    wp (onHeap x) Q d := by
  rw [onHeap, wp_zoom]
  apply wp_mono made
  rintro _ h' ⟨e, rfl, wf, le⟩
  exact post e h' wf le

/-- The transfer that an entry of the history is about. -/
def Call.transfer : Call α γ → Addr
  | .submit t _ => t
  | .complete t _ => t
  | .results t _ => t

/-- The queue operation that an entry of the history is for a pipe with the transfers `ts`. -/
def Call.queueOp? (ts : List Addr) : Call α γ → Option (Fifo.Op Addr)
  | .submit t _ => if t ∈ ts then some (.push t) else none
  | .complete _ _ => none
  | .results t _ => if t ∈ ts then some (.pop t) else none

/-- The queue operations of a pipe with the transfers `ts`, newest first. -/
def queueOps (ts : List Addr) (calls : List (Call α γ)) : List (Fifo.Op Addr) :=
  calls.filterMap (Call.queueOp? ts)

lemma queueOps_cons_submit {ts : List Addr} {calls : List (Call α γ)} {t : Addr} {a : α}
    (mem : t ∈ ts) : queueOps ts (.submit t a :: calls) = .push t :: queueOps ts calls := by
  simp [queueOps, Call.queueOp?, mem]

lemma queueOps_cons_results {ts : List Addr} {calls : List (Call α γ)} {t : Addr} {out : Outputs}
    (mem : t ∈ ts) : queueOps ts (.results t out :: calls) = .pop t :: queueOps ts calls := by
  simp [queueOps, Call.queueOp?, mem]

/-- An entry about a transfer of another pipe is no operation of this one. -/
lemma queueOps_cons_of_notMem {ts : List Addr} {calls : List (Call α γ)} {c : Call α γ}
    (nm : c.transfer ∉ ts) : queueOps ts (c :: calls) = queueOps ts calls := by
  cases c with
  | submit t a =>
    have nm : t ∉ ts := nm
    simp [queueOps, Call.queueOp?, nm]
  | complete t g => exact List.filterMap_cons_none rfl
  | results t out =>
    have nm : t ∉ ts := nm
    simp [queueOps, Call.queueOp?, nm]

lemma queueOps_cons_complete {ts : List Addr} {calls : List (Call α γ)} {t : Addr} {g : γ} :
    queueOps ts (.complete t g :: calls) = queueOps ts calls :=
  List.filterMap_cons_none rfl

/-- Transfers that the history does not mention have no operations. -/
lemma queueOps_eq_nil {ts : List Addr} {calls : List (Call α γ)}
    (h : ∀ c ∈ calls, c.transfer ∉ ts) : queueOps ts calls = [] := by
  induction calls with
  | nil => rfl
  | cons c calls ih =>
    rw [queueOps_cons_of_notMem (h c List.mem_cons_self)]
    exact ih fun c' mem => h c' (List.mem_cons_of_mem c mem)

/-- The answer to the last submission of a transfer, and the completion reported for it, if any. -/
def lastSubmission (t : Addr) : List (Call α γ) → Option (α × Option γ)
  | [] => none
  | .submit u a :: calls => if u = t then some (a, none) else lastSubmission t calls
  | .complete u g :: calls =>
    if u = t then (lastSubmission t calls).map fun last => (last.1, some g)
    else lastSubmission t calls
  | .results _ _ :: calls => lastSubmission t calls

lemma lastSubmission_cons_of_ne {t : Addr} {calls : List (Call α γ)} {c : Call α γ}
    (ne : c.transfer ≠ t) : lastSubmission t (c :: calls) = lastSubmission t calls := by
  cases c with
  | submit u a => exact if_neg ne
  | complete u g => exact if_neg ne
  | results u out => rfl

/-- Calls on other transfers say nothing about this one. -/
lemma lastSubmission_append {t : Addr} {cs calls : List (Call α γ)}
    (others : ∀ c ∈ cs, c.transfer ≠ t) :
    lastSubmission t (cs ++ calls) = lastSubmission t calls := by
  induction cs with
  | nil => rfl
  | cons c cs ih =>
    rw [List.cons_append, lastSubmission_cons_of_ne (others c List.mem_cons_self)]
    exact ih fun c' mem => others c' (List.mem_cons_of_mem c mem)

@[simp] lemma lastSubmission_cons_submit {t : Addr} {calls : List (Call α γ)} {a : α} :
    lastSubmission t (.submit t a :: calls) = some (a, none) := if_pos rfl

@[simp] lemma lastSubmission_cons_complete {t : Addr} {calls : List (Call α γ)} {g : γ} :
    lastSubmission t (.complete t g :: calls) =
      (lastSubmission t calls).map fun last => (last.1, some g) := if_pos rfl

@[simp] lemma lastSubmission_cons_results {t u : Addr} {calls : List (Call α γ)} {out : Outputs} :
    lastSubmission t (.results u out :: calls) = lastSubmission t calls := rfl

/-- A transfer that the history does not mention was never submitted. -/
lemma lastSubmission_eq_none {t : Addr} {calls : List (Call α γ)}
    (h : ∀ c ∈ calls, c.transfer ≠ t) : lastSubmission t calls = none := by
  rw [← List.append_nil calls]
  exact lastSubmission_append h

/-- What was pushed was submitted. -/
lemma lastSubmission_ne_none {t : Addr} {ts : List Addr} {calls : List (Call α γ)}
    (pushed : Fifo.lastPush t (queueOps ts calls) ≠ none) : lastSubmission t calls ≠ none := by
  induction calls with
  | nil => exact absurd rfl pushed
  | cons c calls ih =>
    cases c with
    | submit u a =>
      by_cases e : u = t
      · rw [e, lastSubmission_cons_submit]
        exact Option.some_ne_none _
      · rw [lastSubmission_cons_of_ne (show (Call.submit u a : Call α γ).transfer ≠ t from e)]
        apply ih
        by_cases mem : u ∈ ts
        · rw [queueOps_cons_submit mem] at pushed
          simpa [Fifo.lastPush, e] using pushed
        · rwa [queueOps_cons_of_notMem mem] at pushed
    | complete u g =>
      rw [queueOps_cons_complete] at pushed
      by_cases e : u = t
      · rw [e, lastSubmission_cons_complete]
        simpa using ih pushed
      · rw [lastSubmission_cons_of_ne (show (Call.complete u g : Call α γ).transfer ≠ t from e)]
        exact ih pushed
    | results u out =>
      apply ih
      by_cases mem : u ∈ ts
      · rw [queueOps_cons_results mem] at pushed
        exact pushed
      · rwa [queueOps_cons_of_notMem mem] at pushed

/-- Polling the transfer at `t` adds at most its completion to the history. -/
def Polled (t : Addr) (calls calls' : List (Call α γ)) : Prop :=
  calls' = calls ∨ ∃ g, calls' = .complete t g :: calls

lemma Polled.queueOps {t : Addr} {calls calls' : List (Call α γ)} (polled : Polled t calls calls')
    (us : List Addr) : queueOps us calls' = queueOps us calls := by
  obtain rfl | ⟨g, rfl⟩ := polled
  · rfl
  · exact queueOps_cons_complete

/-- What was submitted before a poll was submitted after it. -/
lemma Polled.lastSubmission_ne_none {t : Addr} {calls calls' : List (Call α γ)}
    (polled : Polled t calls calls') (submitted : lastSubmission t calls ≠ none) :
    lastSubmission t calls' ≠ none := by
  obtain rfl | ⟨g, rfl⟩ := polled
  · exact submitted
  · rw [lastSubmission_cons_complete]
    simpa using submitted

/-- The buffer and the error of a transfer struct. -/
structure Estate (τ : Type) where
  buffer : τ → Option Loc
  error : τ → Option Error

/-- The blocks of the transfer at an address: the struct, its buffer and its error. -/
def Estate.blocks (E : Estate τ) (t : Addr) (T : τ) : Multiset Loc :=
  {.heap t} + ((E.buffer T).toList : Multiset Loc) + errorBlocks (E.error T)

/-- The blocks of all of the transfers `ts`. -/
def Estate.blocksAll (E : Estate τ) (transfers : Addr → Option τ) (ts : List Addr) : Multiset Loc :=
  (ts.map fun t => (transfers t).elim 0 (E.blocks t)).sum

/-- The blocks in the order in which they are freed. -/
lemma Estate.blocks_freed {E : Estate τ} {t : Addr} {T : τ} :
    errorBlocks (E.error T) + ((E.buffer T).toList : Multiset Loc) +
      ((some (Loc.heap t)).toList : Multiset Loc) = E.blocks t T := by
  simp only [Estate.blocks, Option.toList_some, Multiset.coe_singleton]
  abel

/-- What the pipe code relies on in a transfer struct: its buffer with the size, its error and its own
pending flag. -/
structure View (τ : Type) extends Estate τ where
  size : τ → Nat
  pending : τ → Bool

namespace View

variable {v : View τ} {T T' : τ} {h h' : Heap}

/-- The memory that a transfer reads into: its place and its size. -/
def area (v : View τ) (T : τ) : Option Loc × Nat := (v.buffer T, v.size T)

/-- The buffer of a transfer is a block that was handed out with the size of the transfer. -/
def Buffered (v : View τ) (h : Heap) (T : τ) : Prop :=
  ∃ a, v.buffer T = some (.heap a) ∧ .alloc a (v.size T) ∈ h.calls

/-- What freeing the transfer at an address gives back: nothing, while it is pending. -/
def releases (v : View τ) (t : Addr) (T : τ) : Multiset Loc := if v.pending T then 0 else v.blocks t T

/-- What freeing all of the transfers `ts` gives back. -/
def releasesAll (v : View τ) (transfers : Addr → Option τ) (ts : List Addr) : Multiset Loc :=
  (ts.map fun t => (transfers t).elim 0 (v.releases t)).sum

/-- Of transfers none of which is pending, everything is given back. -/
lemma releasesAll_idle {transfers : Addr → Option τ} {ts : List Addr}
    (idle : ∀ t ∈ ts, ∀ T, transfers t = some T → v.pending T = false) :
    v.releasesAll transfers ts = v.blocksAll transfers ts := by
  unfold releasesAll Estate.blocksAll
  congr 1
  apply List.map_congr_left
  intro t mem
  cases hT : transfers t with
  | none => rfl
  | some T => simp only [Option.elim_some, releases, idle t mem T hT, Bool.false_eq_true, if_false]

lemma size_of_area (same : v.area T' = v.area T) : v.size T' = v.size T := congrArg Prod.snd same

/-- A transfer that reads into the same memory still has its block. -/
lemma Buffered.keep (buffered : v.Buffered h T) (le : Le h h') (same : v.area T' = v.area T) :
    v.Buffered h' T' := by
  obtain ⟨a, loc, mem⟩ := buffered
  refine ⟨a, ?_, ?_⟩
  · rw [← loc]
    exact congrArg Prod.fst same
  · rw [size_of_area same]
    exact le.calls.subset mem

end View

/-- Every transfer but those in `ts` lives on, keeps its buffer and does not become pending. -/
def Settles (v : View τ) (ts : List Addr) (d d' : Dev τ κ α γ) : Prop :=
  ∀ t ∉ ts, ∀ T, d.transfers t = some T → ∃ T', d'.transfers t = some T' ∧
    v.area T' = v.area T ∧ (v.pending T = false → v.pending T' = false)

/-- The device changed, as far as pipes can tell, in the transfers `ts` only. -/
structure Touches (v : View τ) (ts : List Addr) (d d' : Dev τ κ α γ) : Prop where
  heap : Le d.heap d'.heap
  live : Settles v ts d d'
  calls : ∀ us, List.Disjoint ts us → queueOps us d'.calls = queueOps us d.calls

namespace Touches

variable {v : View τ} {ts us : List Addr} {d d₁ d₂ : Dev τ κ α γ}

lemma refl : Touches v ts d d where
  heap := Le.refl d.heap
  live := fun _ _ T h => ⟨T, h, rfl, id⟩
  calls := fun _ _ => rfl

lemma trans (h₁ : Touches v ts d d₁) (h₂ : Touches v ts d₁ d₂) : Touches v ts d d₂ where
  heap := h₁.heap.trans h₂.heap
  live := by
    intro t nm T hT
    obtain ⟨T₁, hT₁, area₁, pend₁⟩ := h₁.live t nm T hT
    obtain ⟨T₂, hT₂, area₂, pend₂⟩ := h₂.live t nm T₁ hT₁
    exact ⟨T₂, hT₂, area₂.trans area₁, fun h => pend₂ (pend₁ h)⟩
  calls := fun us dis => (h₂.calls us dis).trans (h₁.calls us dis)

/-- A change of the heap alone touches no transfer. -/
lemma onHeap {h : Heap} (le : Le d.heap h) : Touches v ts d { d with heap := h } where
  heap := le
  live := fun _ _ T hT => ⟨T, hT, rfl, id⟩
  calls := fun _ _ => rfl

/-- A change of the device in which no transfer changed touches no pipe. -/
lemma of_same (le : Le d.heap d₁.heap) (transfers : d₁.transfers = d.transfers)
    (calls : ∀ us, queueOps us d₁.calls = queueOps us d.calls) : Touches v ts d d₁ where
  heap := le
  live := fun _ _ T hT => ⟨T, by rw [transfers, hT], rfl, id⟩
  calls := fun us _ => calls us

end Touches

/-- The contract of a backend, opened on the handle `handle`. -/
structure Contract (B : Backend τ κ α γ) (handle : Handle) where
  view : View τ
  /-- The invariant of the device state between two calls of the backend. -/
  Inv : Dev τ κ α γ → Prop
  /-- What the results read out of a transfer have to do with the history. -/
  Report : List (Call α γ) → Addr → Nat → Outputs → Outputs → Prop
  /-- What polling the transfer at an address may add to the history. -/
  Poll : Addr → List (Call α γ) → List (Call α γ) → Prop
  poll : ∀ {t calls calls'}, Poll t calls calls' → Polled t calls calls'
  heap : ∀ {d h}, Inv d → Le d.heap h → Inv { d with heap := h }
  liveFresh : ∀ {d t T}, Inv d → d.transfers t = some T → t < d.heap.next
  callFresh : ∀ {d c}, Inv d → c ∈ d.calls → c.transfer < d.heap.next
  setup : ∀ {d pipeId}, Inv d →
    wp (B.asyncInPipeSetup (some handle) pipeId) (fun r d' =>
      Inv d' ∧ Le d.heap d'.heap ∧ d'.calls = d.calls ∧ d'.transfers = d.transfers ∧
        ∀ error, r = some error → error.WF) d
  create : ∀ {d pipeId size}, Inv d → pipeId &&& 0x80 ≠ 0 → size ≠ 0 →
    wp (B.asyncInTransferCreate (some handle) pipeId size) (fun r d' =>
      Inv d' ∧ Le d.heap d'.heap ∧ d'.calls = d.calls ∧
        match r with
        | .error error => error.WF ∧ d'.transfers = d.transfers
        | .ok t => d.heap.next ≤ t ∧ t < d'.heap.next ∧ ∃ T,
          view.size T = size ∧ view.Buffered d'.heap T ∧ view.pending T = false ∧
            d'.transfers = Function.update d.transfers t (some T)) d
  freeNull : ∀ {d}, wp (B.asyncInTransferFree none) (fun _ d' => d' = d) d
  free : ∀ {d t T}, Inv d → d.transfers t = some T →
    wp (B.asyncInTransferFree (some t)) (fun _ d' =>
      Inv d' ∧ Frees (view.releases t T) d.heap d'.heap ∧ d'.calls = d.calls ∧
        d'.transfers =
          if view.pending T then d.transfers else Function.update d.transfers t none) d
  submit : ∀ {d t T}, Inv d → d.transfers t = some T → view.pending T = false →
    wp (B.asyncInTransferSubmit (some t)) (fun _ d' =>
      Inv d' ∧ Le d.heap d'.heap ∧ (∃ a, d'.calls = .submit t a :: d.calls) ∧
        ∃ T', view.area T' = view.area T ∧
          d'.transfers = Function.update d.transfers t (some T')) d
  pending : ∀ {d t T}, Inv d → d.transfers t = some T →
    wp (B.asyncInTransferPending (some t)) (fun r d' =>
      Inv d' ∧ Le d.heap d'.heap ∧ Poll t d.calls d'.calls ∧
        ∃ T', view.area T' = view.area T ∧ view.pending T' = r ∧
          (view.pending T = false → view.pending T' = false) ∧
            d'.transfers = Function.update d.transfers t (some T')) d
  getResults : ∀ {d t T out}, Inv d → d.transfers t = some T → view.pending T = false →
    wp (B.asyncInTransferGetResults (some t) out) (fun r d' =>
      r.1 = none ∧ r.2.finished = out.finished ∧ Inv d' ∧ Le d.heap d'.heap ∧
        d'.transfers = d.transfers ∧ d'.calls = .results t r.2 :: d.calls ∧
          Report d.calls t (view.size T) out r.2) d
  cancel : ∀ {d t T}, Inv d → d.transfers t = some T →
    wp (B.asyncInTransferCancel (some t)) (fun _ d' =>
      Inv d' ∧ Le d.heap d'.heap ∧ d'.transfers = d.transfers ∧
        ∀ us, queueOps us d'.calls = queueOps us d.calls) d
  events : ∀ {d}, Inv d →
    wp (B.genericHandleEvents (some handle)) (fun _ d' => Inv d' ∧ Touches view [] d d') d

end Libusbp
