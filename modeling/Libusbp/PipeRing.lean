import Libusbp.PipeContract
import Mathlib.Data.List.GetD
import Mathlib.Data.List.ReduceOption

/-!
# The ring of a pipe

`Allocated` is the representation invariant of a pipe whose transfers were allocated: the array is
full of distinct live transfers, the indices and the counter are a `Circular` ring over it, the
transfers in the ring (`Pipe.queue`) are what a bounded queue holds after the operations in the
history, and no other transfer of the pipe is pending. `After` is how one pipe operation relates the
systems before and after it.
-/

namespace Libusbp

open Prog Heap

variable {τ κ α γ : Type}

/-- The transfers in the array of a pipe. -/
def Pipe.transfers (P : Pipe) : List Addr :=
  match P.transferArray with
  | none => []
  | some array => array.val.reduceOption

/-- The transfers that are submitted but not finished, the next one to finish first. -/
def Pipe.queue (P : Pipe) : List Addr :=
  (Circular.window P.transferCount P.nextFinish P.pendingCount).map (P.transfers.getD · 0)

/-- The pipe after its next transfer was submitted. -/
def Pipe.submitted (P : Pipe) : Pipe :=
  { P with
    pendingCount := P.pendingCount + 1
    nextSubmit := incrementAndWrapSize P.nextSubmit P.transferCount }

/-- The pipe after its next transfer was finished. -/
def Pipe.finished (P : Pipe) : Pipe :=
  { P with
    pendingCount := P.pendingCount - 1
    nextFinish := incrementAndWrapSize P.nextFinish P.transferCount }

/-- The representation invariant of a pipe with allocated transfers. -/
structure Allocated (v : View τ) (d : Dev τ κ α γ) (P : Pipe) : Prop where
  array : ∃ l, P.transferArray = some ⟨l, P.transfers.map some⟩
  count : P.transferCount = P.transfers.length
  nodup : P.transfers.Nodup
  live : ∀ t ∈ P.transfers, ∃ T, d.transfers t = some T ∧ v.size T = P.transferSize ∧
    v.Buffered d.heap T
  ring : Circular P.transferCount P.nextFinish P.nextSubmit P.pendingCount
  outside : ∀ t ∈ P.transfers, t ∉ P.queue → ∀ T, d.transfers t = some T → v.pending T = false
  fifo : Fifo.Reaches P.transferCount (queueOps P.transfers d.calls) P.queue

/-- The invariant of an open pipe: as it was opened, or with its transfers allocated. -/
structure PipeInv (v : View τ) (h : Handle) (d : Dev τ κ α γ) (P : Pipe) : Prop where
  handle : P.handle = some h
  pipeId : P.pipeId &&& 0x80 ≠ 0
  state : P = .opened h P.pipeId ∨ Allocated v d P ∧
    (P.endlessTransfersEnabled = true → P.pendingCount = P.transferCount)

lemma incrementAndWrapSize_eq {n bound : Nat} (lt : n < bound) :
    incrementAndWrapSize n bound = (n + 1) % bound := by
  unfold incrementAndWrapSize
  by_cases last : n + 1 = bound
  · simp [last]
  · rw [Nat.mod_eq_of_lt (by omega)]
    simp only [ge_iff_le, ite_eq_right_iff]
    omega

lemma Pipe.transfers_opened {h : Handle} {pipeId : UInt8} : (Pipe.opened h pipeId).transfers = [] :=
  rfl

/-- A full array has the transfers that were put into it. -/
lemma reduceOption_map_some {ts : List Addr} : (ts.map some).reduceOption = ts := by
  simp [List.reduceOption]

lemma Pipe.transfers_of_none {P : Pipe} (none : P.transferArray = none) : P.transfers = [] := by
  rw [Pipe.transfers, none]

lemma Pipe.transfers_of_array {P : Pipe} {l : Loc} {ts : List Addr}
    (array : P.transferArray = some ⟨l, ts.map some⟩) : P.transfers = ts := by
  rw [Pipe.transfers, array]
  exact reduceOption_map_some

lemma Pipe.length_queue {P : Pipe} : P.queue.length = P.pendingCount := by
  simp [Pipe.queue]

namespace Allocated

variable {v : View τ} {d d' : Dev τ κ α γ} {P : Pipe}

lemma pos (al : Allocated v d P) : 0 < P.transferCount := by
  have := al.ring.head_lt
  omega

lemma array_ne_none (al : Allocated v d P) : P.transferArray ≠ none := by
  obtain ⟨_, array⟩ := al.array
  rw [array]
  exact Option.some_ne_none _

lemma getD_mem (al : Allocated v d P) {i : Nat} (lt : i < P.transferCount) :
    P.transfers.getD i 0 ∈ P.transfers := by
  rw [al.count] at lt
  rw [List.getD_eq_getElem _ _ lt]
  exact List.getElem_mem lt

/-- Different places of the array hold different transfers. -/
lemma getD_inj (al : Allocated v d P) {i j : Nat} (hi : i < P.transferCount)
    (hj : j < P.transferCount) (e : P.transfers.getD i 0 = P.transfers.getD j 0) : i = j := by
  rw [al.count] at hi hj
  rw [List.getD_eq_getElem _ _ hi, List.getD_eq_getElem _ _ hj] at e
  exact (List.Nodup.getElem_inj_iff al.nodup).mp e

lemma queue_subset (al : Allocated v d P) : P.queue ⊆ P.transfers := by
  intro t mem
  obtain ⟨i, hi, rfl⟩ := List.mem_map.mp mem
  exact al.getD_mem (Circular.window_lt al.pos hi)

/-- A place outside the window holds a transfer outside the queue. -/
lemma getD_notMem_queue (al : Allocated v d P) {i : Nat} (lt : i < P.transferCount)
    (nm : i ∉ Circular.window P.transferCount P.nextFinish P.pendingCount) :
    P.transfers.getD i 0 ∉ P.queue := by
  intro mem
  obtain ⟨j, hj, e⟩ := List.mem_map.mp mem
  have eq := al.getD_inj (Circular.window_lt al.pos hj) lt e
  rw [eq] at hj
  exact nm hj

/-- The slot that is submitted next is free as long as the ring is not full. -/
lemma nextSubmit_notMem (al : Allocated v d P) (lt : P.pendingCount < P.transferCount) :
    P.transfers.getD P.nextSubmit 0 ∉ P.queue := by
  apply al.getD_notMem_queue al.ring.tail_lt
  rw [al.ring.tail_eq]
  exact Circular.tail_notMem lt

/-- A submission appends to the queue. -/
lemma queue_submitted (al : Allocated v d P) :
    P.submitted.queue = P.queue ++ [P.transfers.getD P.nextSubmit 0] := by
  have window : Circular.window P.transferCount P.nextFinish (P.pendingCount + 1) =
      Circular.window P.transferCount P.nextFinish P.pendingCount ++ [P.nextSubmit] := by
    rw [Circular.window_push, ← al.ring.tail_eq]
  show (Circular.window P.transferCount P.nextFinish (P.pendingCount + 1)).map _ = _
  rw [window, List.map_append]
  rfl

/-- A finished report removes the head of the queue. -/
lemma queue_finished (al : Allocated v d P) (pos : P.pendingCount ≠ 0) :
    P.queue = P.transfers.getD P.nextFinish 0 :: P.finished.queue := by
  obtain ⟨k, hk⟩ := Nat.exists_eq_succ_of_ne_zero pos
  have next : P.finished.nextFinish = (P.nextFinish + 1) % P.transferCount :=
    incrementAndWrapSize_eq al.ring.head_lt
  have count : P.finished.pendingCount = k := by
    show P.pendingCount - 1 = k
    omega
  show (Circular.window P.transferCount P.nextFinish P.pendingCount).map _ = _
  rw [hk, Nat.succ_eq_add_one, Circular.window_pop al.ring.head_lt, List.map_cons]
  show _ = _ :: (Circular.window P.transferCount P.finished.nextFinish
    P.finished.pendingCount).map _
  rw [next, count]
  rfl

/-- A change that touches other transfers only keeps a pipe's invariant. -/
lemma frame {ts : List Addr} (al : Allocated v d P) (touch : Touches v ts d d')
    (dis : List.Disjoint ts P.transfers) : Allocated v d' P where
  array := al.array
  count := al.count
  nodup := al.nodup
  live := by
    intro t mem
    obtain ⟨T, hT, size, buffered⟩ := al.live t mem
    obtain ⟨T', hT', area, _⟩ := touch.live t (fun mem' => dis mem' mem) T hT
    exact ⟨T', hT', (View.size_of_area area).trans size, buffered.keep touch.heap area⟩
  ring := al.ring
  outside := by
    intro t mem nm T' hT'
    obtain ⟨T, hT, _⟩ := al.live t mem
    obtain ⟨T'', hT'', _, pend⟩ := touch.live t (fun mem' => dis mem' mem) T hT
    rw [hT''] at hT'
    cases hT'
    exact pend (al.outside t mem nm T hT)
  fifo := by
    rw [touch.calls P.transfers dis]
    exact al.fifo

end Allocated

/-- A change that touches other transfers only keeps the invariant of an open pipe. -/
lemma PipeInv.frame {v : View τ} {h : Handle} {d d' : Dev τ κ α γ} {P : Pipe} {ts : List Addr}
    (inv : PipeInv v h d P) (touch : Touches v ts d d') (dis : List.Disjoint ts P.transfers) :
    PipeInv v h d' P where
  handle := inv.handle
  pipeId := inv.pipeId
  state := by
    rcases inv.state with opened | ⟨al, endless⟩
    · exact .inl opened
    · exact .inr ⟨al.frame touch dis, endless⟩

variable {B : Backend τ κ α γ} {h : Handle} {C : Contract B h}

/-- An operation on the pipe at `p` left the struct `P` there and touched its transfers only. -/
structure After (C : Contract B h) (s : Sys τ κ α γ) (p : Addr) (P : Pipe) (s' : Sys τ κ α γ) :
    Prop where
  handle : s'.handle = s.handle
  pipes : s'.pipes = Function.update s.pipes p (some P)
  inv : C.Inv s'.dev
  touches : Touches C.view P.transfers s.dev s'.dev
  others : ∀ t ∉ P.transfers, s'.dev.transfers t = s.dev.transfers t

namespace After

variable {s s₁ s₂ : Sys τ κ α γ} {p : Addr} {P P₁ P₂ : Pipe}

/-- Nothing happened. -/
lemma refl (inv : C.Inv s.dev) (hp : s.pipes p = some P) : After C s p P s where
  handle := rfl
  pipes := by rw [← hp, Function.update_eq_self]
  inv := inv
  touches := Touches.refl
  others := fun _ _ => rfl

lemma trans (h₁ : After C s p P₁ s₁) (h₂ : After C s₁ p P₂ s₂)
    (same : P₁.transfers = P₂.transfers) : After C s p P₂ s₂ where
  handle := h₂.handle.trans h₁.handle
  pipes := by rw [h₂.pipes, h₁.pipes, Function.update_idem]
  inv := h₂.inv
  touches := by
    have touches := h₁.touches
    rw [same] at touches
    exact touches.trans h₂.touches
  others := by
    intro t nm
    rw [h₂.others t nm]
    rw [← same] at nm
    exact h₁.others t nm

lemma get (h : After C s p P s₁) : s₁.pipes p = some P := by
  rw [h.pipes, Function.update_self]

/-- The struct that is at `p` now is the one that was left there. -/
lemma unique (h : After C s p P s₁) (hp : s₁.pipes p = some P₁) : P = P₁ :=
  Option.some.inj (h.get.symm.trans hp)

end After

/-- A step on the device alone, on the transfers of one pipe. -/
lemma After.onDev {s : Sys τ κ α γ} {p : Addr} {P : Pipe} {d : Dev τ κ α γ}
    (hp : s.pipes p = some P) (inv : C.Inv d) (touch : Touches C.view P.transfers s.dev d)
    (others : ∀ t ∉ P.transfers, d.transfers t = s.dev.transfers t) :
    After C s p P { s with dev := d } where
  handle := rfl
  pipes := by
    show s.pipes = _
    rw [← hp, Function.update_eq_self]
  inv := inv
  touches := touch
  others := others

lemma loadPipe_ok {s : Sys τ κ α γ} {p : Addr} {P : Pipe} (hp : s.pipes p = some P) :
    loadPipe p s = .ok (P, s) := by
  rw [loadPipe, bind_of_ok get_ok, hp]
  rfl

lemma storePipe_ok {s : Sys τ κ α γ} {p : Addr} {P : Pipe} :
    storePipe p P s = .ok ((), { s with pipes := Function.update s.pipes p (some P) }) := rfl

lemma wp_loadPipe {s : Sys τ κ α γ} {p : Addr} {P : Pipe} (hp : s.pipes p = some P)
    {Q : Pipe → Sys τ κ α γ → Prop} : wp (loadPipe p) Q s ↔ Q P s := by
  simp only [loadPipe, wp_bind, wp_get, wp_expect, hp, Option.some.injEq]
  constructor
  · rintro ⟨_, rfl, q⟩
    exact q
  · exact fun q => ⟨P, rfl, q⟩

/-- Every place of the array can be read, and holds a transfer. -/
lemma Allocated.wp_transferAt {v : View τ} {d : Dev τ κ α γ} {P : Pipe} (al : Allocated v d P)
    {i : Nat} (lt : i < P.transferCount) {s : Sys τ κ α γ}
    {Q : Option Addr → Sys τ κ α γ → Prop} :
    wp (transferAt P i) Q s ↔ Q (some (P.transfers.getD i 0)) s := by
  obtain ⟨l, hl⟩ := al.array
  rw [al.count] at lt
  have slot : (P.transfers.map some)[i]? = some (some (P.transfers.getD i 0)) := by
    rw [List.getElem?_map, List.getElem?_eq_getElem lt, List.getD_eq_getElem _ _ lt]
    rfl
  simp only [transferAt, hl, wp_expect, slot, Option.some.injEq, exists_eq_left']

lemma Touches.write_others {ts : List Addr} {d d' : Dev τ κ α γ} {t : Addr} {T : τ} (mem : t ∈ ts)
    (transfers : d'.transfers = Function.update d.transfers t (some T)) :
    ∀ t' ∉ ts, d'.transfers t' = d.transfers t' := by
  intro t' nm
  have ne : t' ≠ t := by
    intro e
    rw [e] at nm
    exact nm mem
  rw [transfers, Function.update_of_ne ne]

/-- A write to one transfer of a pipe touches that pipe only. -/
lemma Touches.write {v : View τ} {ts : List Addr} {d d' : Dev τ κ α γ} {t : Addr} {T : τ}
    (le : Le d.heap d'.heap) (mem : t ∈ ts)
    (transfers : d'.transfers = Function.update d.transfers t (some T))
    (calls : ∀ us, List.Disjoint ts us → queueOps us d'.calls = queueOps us d.calls) :
    Touches v ts d d' where
  heap := le
  live := by
    intro t' nm T' hT'
    refine ⟨T', ?_, rfl, id⟩
    rw [Touches.write_others mem transfers t' nm, hT']
  calls := calls

/-- A new entry about a transfer of one pipe is no operation of another. -/
lemma queueOps_cons_of_disjoint {ts us : List Addr} {calls : List (Call α γ)} {c : Call α γ}
    (mem : c.transfer ∈ ts) (dis : List.Disjoint ts us) :
    queueOps us (c :: calls) = queueOps us calls :=
  queueOps_cons_of_notMem (dis mem)

/-- Submitting the transfer at the tail keeps the representation invariant. -/
lemma Allocated.submitted {v : View τ} {d d' : Dev τ κ α γ} {P : Pipe} {T' : τ} {a : α}
    (al : Allocated v d P) (lt : P.pendingCount < P.transferCount) (le : Le d.heap d'.heap)
    (area : ∀ T, d.transfers (P.transfers.getD P.nextSubmit 0) = some T → v.area T' = v.area T)
    (transfers : d'.transfers =
      Function.update d.transfers (P.transfers.getD P.nextSubmit 0) (some T'))
    (calls : d'.calls = .submit (P.transfers.getD P.nextSubmit 0) a :: d.calls) :
    Allocated v d' P.submitted where
  array := al.array
  count := al.count
  nodup := al.nodup
  live := by
    intro t mem
    obtain ⟨T, hT, size, buffered⟩ := al.live t mem
    rw [transfers]
    by_cases e : t = P.transfers.getD P.nextSubmit 0
    · subst e
      exact ⟨T', Function.update_self .., (View.size_of_area (area T hT)).trans size,
        buffered.keep le (area T hT)⟩
    · exact ⟨T, by rw [Function.update_of_ne e, hT], size, buffered.keep le rfl⟩
  ring := by
    have next : P.submitted.nextSubmit = (P.nextSubmit + 1) % P.transferCount :=
      incrementAndWrapSize_eq al.ring.tail_lt
    rw [next]
    exact al.ring.push lt
  outside := by
    intro t mem nm T hT
    rw [al.queue_submitted, List.mem_append, List.mem_singleton, not_or] at nm
    rw [transfers, Function.update_of_ne nm.2] at hT
    exact al.outside t mem nm.1 T hT
  fifo := by
    show Fifo.Reaches _ (queueOps P.transfers d'.calls) _
    rw [calls, queueOps_cons_submit (al.getD_mem al.ring.tail_lt), al.queue_submitted]
    apply al.fifo.push
    · rw [Pipe.length_queue]
      exact lt
    · exact al.nextSubmit_notMem lt

/-- What one submission does to a pipe whose ring is not full. -/
lemma wp_submitNextTransfer {s : Sys τ κ α γ} {p : Addr} {P : Pipe} (inv : C.Inv s.dev)
    (hp : s.pipes p = some P) (al : Allocated C.view s.dev P)
    (lt : P.pendingCount < P.transferCount) :
    wp (B.asyncInPipeSubmitNextTransfer p) (fun _ s' =>
      After C s p P.submitted s' ∧ Allocated C.view s'.dev P.submitted ∧
        ∃ a, s'.dev.calls = .submit (P.transfers.getD P.nextSubmit 0) a :: s.dev.calls) s := by
  simp only [Backend.asyncInPipeSubmitNextTransfer, wp_bind, wp_loadPipe hp, wp_check,
    decide_eq_true_eq, al.wp_transferAt al.ring.tail_lt]
  refine ⟨lt, ?_⟩
  have mem := al.getD_mem al.ring.tail_lt
  obtain ⟨T, hT, _⟩ := al.live _ mem
  have idle := al.outside _ mem (al.nextSubmit_notMem lt) T hT
  simp only [onDev, wp_zoom]
  apply wp_mono (C.submit inv hT idle)
  rintro _ d ⟨inv', le, ⟨a, calls⟩, T', area, transfers⟩
  simp only [storePipe, wp_modify]
  refine ⟨⟨rfl, rfl, inv', ?_, ?_⟩, ?_, a, calls⟩
  · apply Touches.write le mem transfers
    intro us dis
    rw [calls]
    exact queueOps_cons_of_disjoint mem dis
  · exact Touches.write_others mem transfers
  · apply al.submitted lt le _ transfers calls
    intro T₀ hT₀
    rw [hT] at hT₀
    cases hT₀
    exact area

end Libusbp
