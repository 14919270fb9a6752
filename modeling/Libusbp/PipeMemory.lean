import Libusbp.PipeOps

/-!
# Creating pipes, allocating their transfers and closing them

The operations of `async_in_pipe.c` that create and free memory. A failed `allocate_transfers` leaves
the transfers of the system as they were, and closing a pipe frees those of its transfers that are
not pending (`release`).
-/

namespace Libusbp

open Prog Heap

variable {τ κ α γ : Type}

/-- Free the transfers `ts` that are not pending. -/
def release (v : View τ) (ts : List Addr) (transfers : Addr → Option τ) : Addr → Option τ :=
  fun t => if t ∈ ts then (transfers t).filter v.pending else transfers t

@[simp] lemma release_nil {v : View τ} {transfers : Addr → Option τ} :
    release v [] transfers = transfers := by
  funext t
  simp [release]

lemma release_of_notMem {v : View τ} {ts : List Addr} {transfers : Addr → Option τ} {t : Addr}
    (nm : t ∉ ts) : release v ts transfers t = transfers t := by
  simp [release, nm]

/-- A pending transfer stays, whether it is released or not. -/
lemma release_of_pending {v : View τ} {ts : List Addr} {transfers : Addr → Option τ} {t : Addr} {T : τ}
    (hT : transfers t = some T) (pend : v.pending T = true) : release v ts transfers t = some T := by
  rw [release, hT, Option.filter_some, if_pos pend, ite_self]

lemma release_of_idle {v : View τ} {ts : List Addr} {transfers : Addr → Option τ} {t : Addr} {T : τ}
    (mem : t ∈ ts) (hT : transfers t = some T) (idle : v.pending T = false) :
    release v ts transfers t = none := by
  rw [release, if_pos mem, hT, Option.filter_some, idle, if_neg Bool.false_ne_true]

/-- Releasing one more transfer. -/
lemma release_concat {v : View τ} {ts : List Addr} {transfers : Addr → Option τ} {t : Addr} {T : τ}
    (nm : t ∉ ts) (hT : transfers t = some T) :
    release v (ts ++ [t]) transfers =
      if v.pending T then release v ts transfers
      else Function.update (release v ts transfers) t none := by
  funext t'
  by_cases e : t' = t
  · subst e
    cases pend : v.pending T with
    | true => simp [release, nm, hT, pend]
    | false => simp [release, hT, pend]
  · have mem : t' ∈ ts ++ [t] ↔ t' ∈ ts := by simp [e]
    cases v.pending T with
    | true => simp [release, mem]
    | false => simp [release, mem, e]

variable {B : Backend τ κ α γ} {h : Handle} {C : Contract B h} {d : Dev τ κ α γ}

/-- What the loop of `async_in_transfer_array_free` did to the first transfers of the array. -/
structure Released (C : Contract B h) (d : Dev τ κ α γ) (ts : List Addr) (d' : Dev τ κ α γ) :
    Prop where
  inv : C.Inv d'
  heap : Le d.heap d'.heap
  calls : d'.calls = d.calls
  transfers : d'.transfers = release C.view ts d.transfers

lemma Released.refl (inv : C.Inv d) : Released C d [] d where
  inv := inv
  heap := Le.refl _
  calls := rfl
  transfers := release_nil.symm

/-- Releasing transfers of one pipe touches that pipe only. -/
lemma Released.touches {ts : List Addr} {d' : Dev τ κ α γ} (r : Released C d ts d') :
    Touches C.view ts d d' where
  heap := r.heap
  live := by
    intro t nm T hT
    refine ⟨T, ?_, rfl, id⟩
    rw [r.transfers, release_of_notMem nm, hT]
  calls := by
    intro us _
    rw [r.calls]

/-- Freeing an array frees the transfers in it one after the other, and then the array. -/
lemma wp_arrayFree_rule (C : Contract B h) {l : Loc} {slots : List (Option Addr)}
    {Q : Unit → Dev τ κ α γ → Prop} (I : List Addr → Dev τ κ α γ → Prop) (start : I [] d)
    (step : ∀ ts t rest d₁, slots.reduceOption = ts ++ t :: rest → I ts d₁ →
      wp (B.asyncInTransferFree (some t)) (fun _ d₂ => I (ts ++ [t]) d₂) d₁)
    (last : ∀ d₁, I slots.reduceOption d₁ → wp (onHeap (free (some l))) Q d₁) :
    wp (B.asyncInTransferArrayFree (some ⟨l, slots⟩) slots.length) Q d := by
  simp only [Backend.asyncInTransferArrayFree, wp_bind]
  apply wp_forRange fun j d' => I (slots.take j).reduceOption d'
  · intro j d₁ _ lt i
    rw [Nat.zero_add] at lt
    have next : (slots.take (j + 1)).reduceOption =
        (slots.take j).reduceOption ++ (slots[j]).toList := by
      rw [← List.take_concat_get' slots j lt, List.reduceOption_append, List.reduceOption_singleton]
    simp only [wp_bind, wp_expect, List.getElem?_eq_getElem lt, Option.some.injEq,
      exists_eq_left']
    cases slot : slots[j] with
    | none =>
      rw [slot, Option.toList_none, List.append_nil] at next
      apply wp_mono C.freeNull
      rintro _ d₂ rfl
      rw [next]
      exact i
    | some t =>
      rw [slot, Option.toList_some] at next
      have split : slots.reduceOption =
          (slots.take j).reduceOption ++ t :: (slots.drop (j + 1)).reduceOption := by
        rw [← List.take_append_drop (j + 1) slots, List.reduceOption_append, next]
        simp
      rw [next]
      exact step _ t _ d₁ split i
  · intro d₁ i
    rw [Nat.zero_add, List.take_length] at i
    exact last d₁ i
  · exact start

/-- Freeing an array frees its transfers that are not pending, with their blocks. -/
lemma wp_arrayFree {l : Loc} {slots : List (Option Addr)} (inv : C.Inv d)
    (nodup : slots.reduceOption.Nodup)
    (live : ∀ t ∈ slots.reduceOption, ∃ T, d.transfers t = some T) :
    wp (B.asyncInTransferArrayFree (some ⟨l, slots⟩) slots.length)
      (fun _ d' => Released C d slots.reduceOption d' ∧
        Frees (C.view.releasesAll d.transfers slots.reduceOption + {l}) d.heap d'.heap) d := by
  apply wp_arrayFree_rule C fun ts d' => Released C d ts d' ∧
    Frees (C.view.releasesAll d.transfers ts) d.heap d'.heap
  · exact ⟨Released.refl inv, .refl _⟩
  · rintro ts t rest d₁ split ⟨rel, freed⟩
    have nm : t ∉ ts := by
      rw [split] at nodup
      exact fun mem => (List.disjoint_of_nodup_append nodup) mem List.mem_cons_self
    obtain ⟨T, hT⟩ := live t (by rw [split]; simp)
    have hT₁ : d₁.transfers t = some T := by
      rw [rel.transfers, release_of_notMem nm, hT]
    apply wp_mono (C.free rel.inv hT₁)
    rintro _ d₂ ⟨inv₂, freed₂, calls₂, transfers₂⟩
    refine ⟨⟨inv₂, rel.heap.trans freed₂.le, calls₂.trans rel.calls, ?_⟩, ?_⟩
    · rw [release_concat nm hT, transfers₂, rel.transfers]
    · apply (freed.trans freed₂).of_eq
      simp [View.releasesAll, hT]
  · rintro d₁ ⟨rel, freed⟩
    rw [onHeap, wp_zoom]
    apply Frees.wp_free
    intro h' array
    have le := array.le
    exact ⟨⟨C.heap rel.inv le, rel.heap.trans le, rel.calls, rel.transfers⟩, freed.trans array⟩

/-- The loop of `allocate_transfers` created the transfers `ts`. -/
structure Created (C : Contract B h) (d : Dev τ κ α γ) (size : Nat) (ts : List Addr)
    (d' : Dev τ κ α γ) : Prop where
  inv : C.Inv d'
  heap : Le d.heap d'.heap
  calls : d'.calls = d.calls
  nodup : ts.Nodup
  fresh : ∀ t ∈ ts, d.heap.next ≤ t
  live : ∀ t ∈ ts, ∃ T, d'.transfers t = some T ∧ C.view.size T = size ∧
    C.view.Buffered d'.heap T ∧ C.view.pending T = false
  others : ∀ t ∉ ts, d'.transfers t = d.transfers t

lemma Created.refl {size : Nat} (inv : C.Inv d) : Created C d size [] d where
  inv := inv
  heap := Le.refl _
  calls := rfl
  nodup := List.nodup_nil
  fresh := by simp
  live := by simp
  others := fun _ _ => rfl

/-- A creation that failed changes none of the transfers. -/
lemma Created.failed {size : Nat} {ts : List Addr} {d₁ d₂ : Dev τ κ α γ} (c : Created C d size ts d₁)
    (inv : C.Inv d₂) (le : Le d₁.heap d₂.heap) (calls : d₂.calls = d₁.calls)
    (transfers : d₂.transfers = d₁.transfers) : Created C d size ts d₂ where
  inv := inv
  heap := c.heap.trans le
  calls := calls.trans c.calls
  nodup := c.nodup
  fresh := c.fresh
  live := by
    intro t mem
    obtain ⟨T, hT, hsize, buffered, idle⟩ := c.live t mem
    exact ⟨T, by rw [transfers, hT], hsize, buffered.keep le rfl, idle⟩
  others := by
    rw [transfers]
    exact c.others

/-- A fresh transfer is none of those that were created. -/
lemma Created.notMem {size : Nat} {ts : List Addr} {d₁ : Dev τ κ α γ} {t : Addr}
    (c : Created C d size ts d₁) (fresh : d₁.heap.next ≤ t) : t ∉ ts := by
  intro mem
  obtain ⟨T, hT, _⟩ := c.live t mem
  exact absurd (C.liveFresh c.inv hT) (Nat.not_lt.mpr fresh)

/-- One more transfer. -/
lemma Created.concat {size : Nat} {ts : List Addr} {d₁ d₂ : Dev τ κ α γ} {t : Addr} {T : τ}
    (c : Created C d size ts d₁) (inv : C.Inv d₂) (le : Le d₁.heap d₂.heap)
    (calls : d₂.calls = d₁.calls) (fresh : d₁.heap.next ≤ t) (hsize : C.view.size T = size)
    (buffered : C.view.Buffered d₂.heap T) (idle : C.view.pending T = false)
    (transfers : d₂.transfers = Function.update d₁.transfers t (some T)) :
    Created C d size (ts ++ [t]) d₂ := by
  have nm := c.notMem fresh
  refine ⟨inv, c.heap.trans le, calls.trans c.calls, ?_, ?_, ?_, ?_⟩
  · exact List.nodup_append.mpr ⟨c.nodup, List.nodup_singleton t, by
      intro a ha b hb
      rw [List.mem_singleton] at hb
      subst hb
      exact fun e => nm (e ▸ ha)⟩
  · intro t' mem
    rcases List.mem_append.mp mem with mem | mem
    · exact c.fresh t' mem
    · rw [List.mem_singleton] at mem
      subst mem
      exact c.heap.next.trans fresh
  · intro t' mem
    by_cases e : t' = t
    · subst e
      exact ⟨T, by rw [transfers, Function.update_self], hsize, buffered, idle⟩
    · have mem : t' ∈ ts := by simpa [e] using mem
      obtain ⟨T', hT', size', buffered', idle'⟩ := c.live t' mem
      exact ⟨T', by rw [transfers, Function.update_of_ne e, hT'], size', buffered'.keep le rfl, idle'⟩
  · intro t' nm'
    rw [List.mem_append, List.mem_singleton, not_or] at nm'
    rw [transfers, Function.update_of_ne nm'.2]
    exact c.others t' nm'.1

/-- Freeing what the loop created restores the transfers. -/
lemma Created.released {size : Nat} {ts : List Addr} {d₁ d₂ : Dev τ κ α γ} (inv : C.Inv d)
    (c : Created C d size ts d₁) (r : Released C d₁ ts d₂) : d₂.transfers = d.transfers := by
  funext t
  rw [r.transfers]
  by_cases mem : t ∈ ts
  · obtain ⟨T, hT, _, _, idle⟩ := c.live t mem
    have dead : d.transfers t = none := by
      cases hd : d.transfers t with
      | none => rfl
      | some T₀ =>
        exact absurd (C.liveFresh inv hd) (Nat.not_lt.mpr (c.fresh t mem))
    simp [release, mem, hT, idle, dead]
  · rw [release_of_notMem mem, c.others t mem]

/-- The array after the first transfers were created. -/
def slotsOf (n : Nat) (ts : List Addr) : List (Option Addr) :=
  ts.map some ++ List.replicate (n - ts.length) none

lemma slotsOf_set {n : Nat} {ts : List Addr} (lt : ts.length < n) (t : Addr) :
    (slotsOf n ts).set ts.length (some t) = slotsOf n (ts ++ [t]) := by
  obtain ⟨k, hk⟩ := Nat.exists_eq_add_of_lt lt
  have free : n - ts.length = k + 1 := by omega
  have rest : n - (ts ++ [t]).length = k := by
    rw [List.length_append, List.length_singleton]
    omega
  unfold slotsOf
  rw [List.set_append_right _ _ (by simp), free, rest]
  simp [List.replicate_succ]

lemma reduceOption_slotsOf {n : Nat} {ts : List Addr} : (slotsOf n ts).reduceOption = ts := by
  unfold slotsOf
  rw [List.reduceOption_append, List.reduceOption_replicate_none, List.append_nil]
  exact reduceOption_map_some

lemma length_slotsOf {n : Nat} {ts : List Addr} (le : ts.length ≤ n) :
    (slotsOf n ts).length = n := by
  unfold slotsOf
  rw [List.length_append, List.length_map, List.length_replicate]
  omega

/-- The loop creates all transfers, or stops at the first error. -/
lemma wp_createTransfers {pipeId : UInt8} {size n : Nat} (inv : C.Inv d)
    (input : pipeId &&& 0x80 ≠ 0) (pos : size ≠ 0) :
    wp (B.createTransfers (some h) pipeId size n) (fun r d' => ∃ ts, Created C d size ts d' ∧
      r.2 = slotsOf n ts ∧ ts.length ≤ n ∧ match r.1 with
        | none => ts.length = n
        | some error => error.WF) d := by
  unfold Backend.createTransfers
  apply wp_forUntil fun j slots d' =>
    ∃ ts, Created C d size ts d' ∧ slots = slotsOf n ts ∧ ts.length = j
  · rintro j _ d₁ _ lt ⟨ts, c, rfl, rfl⟩
    rw [Nat.zero_add] at lt
    simp only [wp_bind]
    apply wp_mono (C.create c.inv input pos)
    rintro r d₂ ⟨inv₂, le₂, calls₂, result⟩
    cases r with
    | error e =>
      obtain ⟨wf, transfers₂⟩ := result
      simp only [wp_pure]
      exact ⟨ts, c.failed inv₂ le₂ calls₂ transfers₂, rfl, lt.le, wf⟩
    | ok t =>
      obtain ⟨fresh, _, T, hsize, buffered, idle, transfers₂⟩ := result
      simp only [wp_pure]
      refine ⟨ts ++ [t], c.concat inv₂ le₂ calls₂ fresh hsize buffered idle transfers₂, ?_, ?_⟩
      · exact slotsOf_set lt t
      · simp
  · rintro _ d₁ ⟨ts, c, rfl, len⟩
    rw [Nat.zero_add] at len
    exact ⟨ts, c, rfl, len.le, len⟩
  · exact ⟨[], Created.refl inv, by simp [slotsOf], rfl⟩

variable {s : Sys τ κ α γ} {p : Addr} {P : Pipe}

/-- Allocating twice is refused. -/
lemma wp_allocate_allocated {transferCount transferSize : Nat} (inv : C.Inv s.dev)
    (hp : s.pipes p = some P) (al : Allocated C.view s.dev P) :
    wp (B.asyncInPipeAllocateTransfers (some p) transferCount transferSize) (fun r s' =>
      r ≠ none ∧ After C s p P s' ∧ s'.dev.transfers = s.dev.transfers ∧
        s'.dev.calls = s.dev.calls) s := by
  have isSome : P.transferArray.isSome = true := by
    rw [← Option.not_isNone, al.isNone]
    rfl
  simp only [Backend.asyncInPipeAllocateTransfers, wp_bind, wp_loadPipe hp, isSome, if_true]
  exact wp_refuse inv hp _

/-- The result of `allocate_transfers` on a pipe that had none: an error and the same transfers, or
the fields of the pipe set up over fresh transfers. -/
inductive AllocateResult (C : Contract B h) (s : Sys τ κ α γ) (p : Addr) (P : Pipe)
    (transferCount transferSize : Nat) : Option Error → Sys τ κ α γ → Prop where
  | failed {e s'} : After C s p P s' → s'.dev.transfers = s.dev.transfers →
    s'.dev.calls = s.dev.calls → AllocateResult C s p P transferCount transferSize (some e) s'
  | done {s' P' a} {ts : List Addr} : transferCount ≠ 0 → transferSize ≠ 0 → ts.length = transferCount →
    (∀ t ∈ ts, s.dev.heap.next ≤ t) →
    P' = { P with
      transferArray := some ⟨.heap a, ts.map some⟩
      transferCount := transferCount
      transferSize := transferSize } →
    After C s p P' s' → Allocated C.view s'.dev P' → s'.dev.calls = s.dev.calls →
    AllocateResult C s p P transferCount transferSize none s'

/-- Fresh transfers make an empty ring. -/
lemma Created.allocated {a : Addr} {pipeId : UInt8} {size : Nat} {ts : List Addr}
    {d' : Dev τ κ α γ} (inv : C.Inv d) (c : Created C d size ts d') (pos : ts.length ≠ 0) :
    Allocated C.view d' { Pipe.opened h pipeId with
      transferArray := some ⟨.heap a, ts.map some⟩
      transferCount := ts.length
      transferSize := size } := by
  have transfers : (ts.map some).reduceOption = ts := reduceOption_map_some
  have nil : queueOps ts d'.calls = [] := by
    rw [c.calls]
    apply queueOps_eq_nil
    intro call mem hts
    exact absurd (C.callFresh inv mem) (Nat.not_lt.mpr (c.fresh _ hts))
  constructor
  case array => exact ⟨.heap a, by simp [Pipe.transfers, transfers]⟩
  case count => simp [Pipe.transfers, transfers]
  case nodup => simpa [Pipe.transfers, transfers] using c.nodup
  case live =>
    intro t mem
    simp only [Pipe.transfers, transfers] at mem
    obtain ⟨T, hT, hsize, buffered, _⟩ := c.live t mem
    exact ⟨T, hT, hsize, buffered⟩
  case ring =>
    have lt := Nat.pos_of_ne_zero pos
    exact ⟨lt, lt, Nat.zero_le _, (Nat.zero_mod _).symm⟩
  case outside =>
    intro t mem _ T hT
    simp only [Pipe.transfers, transfers] at mem
    obtain ⟨T', hT', _, _, idle⟩ := c.live t mem
    rw [hT] at hT'
    cases hT'
    exact idle
  case fifo =>
    simp only [Pipe.transfers, transfers, nil]
    exact .nil

/-- Freeing the array that the loop left off restores the transfers. -/
lemma wp_createdFree {l : Loc} {size n : Nat} {ts : List Addr} {d₁ : Dev τ κ α γ}
    (c : Created C d size ts d₁) (len : ts.length ≤ n) :
    wp (B.asyncInTransferArrayFree (some ⟨l, slotsOf n ts⟩) n) (fun _ d₂ =>
      C.Inv d₂ ∧ Le d₁.heap d₂.heap ∧ d₂.calls = d₁.calls ∧
        (C.Inv d → d₂.transfers = d.transfers)) d₁ := by
  have reduce : (slotsOf n ts).reduceOption = ts := reduceOption_slotsOf
  have free : wp (B.asyncInTransferArrayFree (some ⟨l, slotsOf n ts⟩) (slotsOf n ts).length)
      (fun _ d₂ => Released C d₁ (slotsOf n ts).reduceOption d₂ ∧ Frees (C.view.releasesAll
        d₁.transfers (slotsOf n ts).reduceOption + {l}) d₁.heap d₂.heap) d₁ := by
    apply wp_arrayFree c.inv
    · rw [reduce]
      exact c.nodup
    · rw [reduce]
      intro t mem
      obtain ⟨T, hT, _⟩ := c.live t mem
      exact ⟨T, hT⟩
  rw [length_slotsOf len, reduce] at free
  apply wp_mono free
  rintro _ d₂ ⟨rel, _⟩
  exact ⟨rel.inv, rel.heap, rel.calls, fun inv => c.released inv rel⟩

/-- Adding text to an error leaves an error. -/
lemma errorAdd_made {e : Error} (wf : e.WF) {hp : Heap} (text : String) :
    wp (errorAdd (some e) (some text)) (Made hp) hp :=
  Made.add ⟨e, rfl, wf, Le.refl hp⟩ text

/-- What `allocate_transfers` does to a pipe that was just opened. -/
lemma wp_allocate_opened {pipeId : UInt8} {transferCount transferSize : Nat} (inv : C.Inv s.dev)
    (input : pipeId &&& 0x80 ≠ 0) (hp : s.pipes p = some (.opened h pipeId)) :
    wp (B.asyncInPipeAllocateTransfers (some p) transferCount transferSize)
      (AllocateResult C s p (.opened h pipeId) transferCount transferSize) s := by
  have refuse : ∀ text : String, wp (onDev (onHeap (errorCreate text)))
      (AllocateResult C s p (.opened h pipeId) transferCount transferSize) s := by
    intro text
    apply wp_mono (wp_refuse inv hp text)
    rintro r s' ⟨ne, after, transfers, calls⟩
    obtain ⟨e, rfl⟩ := Option.ne_none_iff_exists'.mp ne
    exact .failed after transfers calls
  simp only [Backend.asyncInPipeAllocateTransfers, wp_bind, wp_loadPipe hp]
  apply wp_ite (fun some => absurd some (by simp [Pipe.opened]))
  intro _
  apply wp_ite (fun _ => refuse _)
  intro count
  apply wp_ite (fun _ => refuse _)
  intro size
  simp only [wp_bind, onDev, onHeap, wp_zoom]
  apply wp_calloc
  · intro h₁ le₁ _ _
    have inv₁ := C.heap inv le₁
    simp only [wp_bind, wp_zoom]
    apply wp_mono (wp_createTransfers inv₁ input size)
    rintro ⟨error, slots⟩ d₂ ⟨ts, c, rfl, len, result⟩
    -- what was created since the array was allocated was created since the call
    have c₀ : Created C s.dev transferSize ts d₂ :=
      ⟨c.inv, le₁.trans c.heap, c.calls, c.nodup, fun t mem => le₁.next.trans (c.fresh t mem),
        c.live, c.others⟩
    cases error with
    | none =>
      obtain rfl : ts.length = transferCount := result
      have full : slotsOf ts.length ts = ts.map some := by simp [slotsOf]
      have transfers : (ts.map some).reduceOption = ts := reduceOption_map_some
      simp only [wp_bind, storePipe, wp_modify, wp_pure, full]
      refine .done (a := s.dev.heap.next) count size rfl c₀.fresh rfl ?_ (c₀.allocated inv count)
        c₀.calls
      refine ⟨rfl, rfl, c₀.inv, ⟨c₀.heap, ?_, fun us _ => by rw [c₀.calls]⟩, ?_⟩
      · intro t nm T hT
        simp only [Pipe.transfers, transfers] at nm
        exact ⟨T, by rw [c₀.others t nm, hT], rfl, id⟩
      · intro t nm
        simp only [Pipe.transfers, transfers] at nm
        exact c₀.others t nm
    | some e =>
      simp only [wp_bind, wp_zoom]
      -- the transfers created before the failure are freed with the array
      apply wp_mono (wp_createdFree c len)
      rintro _ d₃ ⟨inv₃, le₃, calls₃, transfers₃⟩
      apply wp_mono (errorAdd_made result _)
      rintro r h₄ ⟨e', rfl, _, le₄⟩
      have le : Le s.dev.heap h₄ := ((c₀.heap.trans le₃).trans le₄)
      have same : d₃.transfers = s.dev.transfers := transfers₃ inv₁
      have calls : d₃.calls = s.dev.calls := calls₃.trans c₀.calls
      refine .failed ⟨rfl, ?_, C.heap inv₃ le₄, ?_, fun t _ => congrFun same t⟩ same calls
      · show s.pipes = _
        rw [← hp, Function.update_eq_self]
      · exact Touches.of_same le same fun us => by rw [← calls]
  · intro h₁ le₁
    simp only [wp_zoom]
    apply wp_mono (errorAdd_made errorNoMemory_wf _)
    rintro r h₂ ⟨e, rfl, _, le₂⟩
    have le := le₁.trans le₂
    exact .failed (After.onHeap inv hp le) rfl rfl

/-- The struct of a pipe and its array. -/
def pipeBlocks (p : Addr) (P : Pipe) : Multiset Loc :=
  {.heap p} + ((P.transferArray.map (·.loc)).toList : Multiset Loc)

/-- What closing the pipe `P` at `p` gives back: its struct, its array, and those of its transfers that
are not pending. -/
def closeBlocks (v : View τ) (transfers : Addr → Option τ) (p : Addr) (P : Pipe) : Multiset Loc :=
  pipeBlocks p P + v.releasesAll transfers P.transfers

/-- What `async_in_pipe_close` does to the system. -/
structure Closed (C : Contract B h) (s : Sys τ κ α γ) (p : Addr) (P : Pipe) (s' : Sys τ κ α γ) :
    Prop where
  handle : s'.handle = s.handle
  pipes : s'.pipes = Function.update s.pipes p none
  released : Released C s.dev P.transfers s'.dev
  frees : Frees (closeBlocks C.view s.dev.transfers p P) s.dev.heap s'.dev.heap

/-- The struct of the pipe is freed last. -/
lemma Closed.of_released {d₁ : Dev τ κ α γ} (rel : Released C s.dev P.transfers d₁)
    (freed : Frees (C.view.releasesAll s.dev.transfers P.transfers +
      ((P.transferArray.map (·.loc)).toList : Multiset Loc)) s.dev.heap d₁.heap)
    (hp : s.pipes p = some P) :
    wp (freePipe p) (fun _ s' => Closed C s p P s') { s with dev := d₁ } := by
  simp only [freePipe, loadPipe, wp_bind, wp_get, wp_expect, wp_modify, onDev, onHeap, wp_zoom]
  refine ⟨P, hp, ?_⟩
  apply Frees.wp_free
  intro h' struct
  have le := struct.le
  refine ⟨rfl, rfl, ⟨C.heap rel.inv le, rel.heap.trans le, rel.calls, rel.transfers⟩, ?_⟩
  apply (freed.trans struct).of_eq
  simp only [closeBlocks, pipeBlocks, Option.toList_some, Multiset.coe_singleton]
  abel

/-- Closing a pipe whose transfers were not allocated. -/
lemma wp_close_opened {pipeId : UInt8} (inv : C.Inv s.dev)
    (hp : s.pipes p = some (.opened h pipeId)) :
    wp (B.asyncInPipeClose (some p)) (fun _ s' => Closed C s p (.opened h pipeId) s') s := by
  simp only [Backend.asyncInPipeClose, wp_bind, wp_loadPipe hp, Pipe.opened,
    Backend.asyncInTransferArrayFree, onDev, wp_zoom, wp_pure]
  exact Closed.of_released (Released.refl inv) (.refl _) hp

/-- Closing a pipe frees its transfers that are not pending. -/
lemma wp_close_allocated (inv : C.Inv s.dev) (hp : s.pipes p = some P)
    (al : Allocated C.view s.dev P) :
    wp (B.asyncInPipeClose (some p)) (fun _ s' => Closed C s p P s') s := by
  obtain ⟨l, array⟩ := al.array
  have reduce : (P.transfers.map some).reduceOption = P.transfers := reduceOption_map_some
  have free : wp (B.asyncInTransferArrayFree P.transferArray P.transferCount)
      (fun _ d' => Released C s.dev P.transfers d' ∧
        Frees (C.view.releasesAll s.dev.transfers P.transfers + {l}) s.dev.heap d'.heap) s.dev := by
    have free := wp_arrayFree (l := l) (B := B) (C := C) inv (by rw [reduce]; exact al.nodup) (by
      rw [reduce]
      intro t mem
      obtain ⟨T, hT, _⟩ := al.live t mem
      exact ⟨T, hT⟩)
    rwa [reduce, List.length_map, ← al.count, ← array] at free
  simp only [Backend.asyncInPipeClose, wp_bind, wp_loadPipe hp, onDev, wp_zoom]
  apply wp_mono free
  rintro _ d₁ ⟨rel, freed⟩
  apply Closed.of_released rel _ hp
  rw [array]
  exact freed

/-- The result of `async_in_pipe_create`: an error and the same pipes, or a new pipe at a fresh
address. -/
inductive CreateResult (C : Contract B h) (s : Sys τ κ α γ) (pipeId : UInt8) :
    Option Error × Option (Option Addr) → Sys τ κ α γ → Prop where
  | failed {e s'} : s'.handle = s.handle → s'.pipes = s.pipes →
    Released C s.dev [] s'.dev → CreateResult C s pipeId (some e, some none) s'
  | created {p s'} : pipeId &&& 0x80 ≠ 0 → s'.handle = s.handle →
    s.dev.heap.next ≤ p → p < s'.dev.heap.next →
    s'.pipes = Function.update s.pipes p (some (.opened h pipeId)) →
    Released C s.dev [] s'.dev → CreateResult C s pipeId (none, some (some p)) s'

/-- Checking a pipe ID makes an error object or does nothing. -/
lemma wp_checkPipeId {pipeId : UInt8} {hp : Heap} :
    wp (checkPipeId pipeId) (fun _ h' => Le hp h') hp := by
  unfold checkPipeId errorInvalidPipeId
  apply wp_ite
  · intro _
    exact wp_mono (made_create _ hp) fun _ _ made => made.le
  · intro _
    rw [wp_pure]
    exact Le.refl hp

lemma wp_createPipe {pipeId : UInt8} (inv : C.Inv s.dev) :
    wp (B.asyncInPipeCreate (some h) pipeId (some none)) (CreateResult C s pipeId) s := by
  have heap : ∀ {h'}, Le s.dev.heap h' → Released C s.dev [] { s.dev with heap := h' } :=
    fun le => ⟨C.heap inv le, le, rfl, release_nil.symm⟩
  simp only [Backend.asyncInPipeCreate, wp_bind, onDev, onHeap, wp_zoom]
  apply wp_mono wp_checkPipeId
  intro r h₁ le₁
  cases r with
  | some e =>
    simp only [wp_pure]
    exact .failed rfl rfl (heap le₁)
  | none =>
    apply wp_ite
    · intro _
      simp only [wp_bind, wp_zoom, wp_pure]
      apply wp_mono (made_create _ _)
      rintro r h₂ ⟨e, rfl, _, le₂⟩
      exact .failed rfl rfl (heap (le₁.trans le₂))
    · intro input
      simp only [wp_bind, wp_zoom]
      apply wp_mono (C.setup (C.heap inv le₁))
      rintro r d₂ ⟨inv₂, le₂, calls₂, transfers₂, _⟩
      have rel₂ : Released C s.dev [] d₂ :=
        ⟨inv₂, le₁.trans le₂, calls₂, transfers₂.trans release_nil.symm⟩
      cases r with
      | some e =>
        simp only [wp_pure]
        exact .failed rfl rfl rel₂
      | none =>
        simp only [wp_bind, wp_zoom]
        apply wp_calloc
        · intro h₃ le₃ next _
          simp only [wp_bind, storePipe, wp_modify, wp_pure]
          refine .created input rfl rel₂.heap.next ?_ rfl ?_
          · show d₂.heap.next < h₃.next
            omega
          · exact ⟨C.heap inv₂ le₃, rel₂.heap.trans le₃, rel₂.calls, rel₂.transfers⟩
        · intro h₃ le₃
          simp only [wp_pure]
          exact .failed rfl rfl
            ⟨C.heap inv₂ le₃, rel₂.heap.trans le₃, rel₂.calls, rel₂.transfers⟩

end Libusbp
