import Libusbp.ErrorAlike
import Libusbp.Lib.Since
import Libusbp.PipeRun
import Libusbp.Requests

/-!
# The memory of a failed allocation

What `allocate_transfers` allocated is given back if it fails. `Custody` is what a backend owes to that:
the blocks of a transfer that was just created are the blocks that freeing it gives back, and a creation
that fails leaves those of its error only. The blocks are counted from the beginning of the call on, so
nothing has to be known about what the program did before.
-/

namespace Libusbp

open Prog Heap

/-! ## Errors -/

/-- The heap holds the blocks of `m` and of the error that `r` points to, counted since `c`. -/
def KeepsSince (c : List HeapCall) (m : Multiset Loc) (r : Option Error) (h : Heap) : Prop :=
  (∀ e, r = some e → e.Sound) ∧ OwnsSince c h (m + errorBlocks r)

variable {c : List HeapCall} {m : Multiset Loc}

/-- What a function of `error.c` keeps, it keeps since any time. -/
lemma OwnsSince.keeps {x : Prog Fault Heap (Option Error)} {m₀ : Multiset Loc} {h : Heap}
    (own : Heap.OwnsSince c h m₀) (oblivious : Respects (Resumed c) x)
    (spec : ∀ h₀ : Heap, h₀.Owns m₀ → wp x (Keeps m) h₀) : wp x (KeepsSince c m) h :=
  own.wp_of_owns oblivious spec

lemma errorCreate_keepsSince {h : Heap} (own : Heap.OwnsSince c h m) (text : String) :
    wp (errorCreate (some text)) (fun r h' => ∃ e, r = some e ∧ KeepsSince c m (some e) h') h := by
  have keeps : wp (errorCreate (some text)) (KeepsSince c m) h :=
    OwnsSince.keeps own (respects_errorCreate text) fun h₀ own₀ =>
      errorAddV_owns (by rintro _ ⟨⟩) (some text) (own₀.of_eq (add_zero m).symm)
  apply wp_mono (keeps.and (made_create text h))
  rintro r h' ⟨kept, e, rfl, _⟩
  exact ⟨e, rfl, kept⟩

/-- An error with a text, on the heap of a device. -/
lemma wp_onHeap_create {τ κ α γ : Type} {d : Dev τ κ α γ} (own : Heap.OwnsSince c d.heap m)
    (text : String) {Q : Option Error → Dev τ κ α γ → Prop}
    (post : ∀ e h', KeepsSince c m (some e) h' → Q (some e) { d with heap := h' }) :
    wp (onHeap (errorCreate (some text))) Q d := by
  rw [onHeap, wp_zoom]
  apply wp_mono (errorCreate_keepsSince own text)
  rintro _ h' ⟨e, rfl, keeps⟩
  exact post e h' keeps

/-- `error_no_memory` owns no block. -/
lemma noMemory_keepsSince {h : Heap} (own : Heap.OwnsSince c h m) :
    KeepsSince c m (some errorNoMemory) h := by
  refine ⟨?_, own.of_eq (add_zero m).symm⟩
  rintro _ ⟨⟩
  exact errorNoMemory_sound

lemma errorAdd_keepsSince {h : Heap} {error : Option Error} (keeps : KeepsSince c m error h)
    (text : String) : wp (errorAdd error (some text)) (KeepsSince c m) h :=
  OwnsSince.keeps keeps.2 (respects_errorAdd error text) fun _ own₀ =>
    errorAddV_owns keeps.1 (some text) own₀

lemma errorAddCode_keepsSince {h : Heap} {error : Option Error} (keeps : KeepsSince c m error h)
    (code : UInt32) : wp (errorAddCode error code) (KeepsSince c m) h :=
  OwnsSince.keeps keeps.2 (respects_errorAddCode error code) fun _ own₀ =>
    errorAddCode_owns keeps.1 code own₀

/-- A chain of texts and codes keeps the error it is given. -/
lemma errorChain_keepsSince {h : Heap} {error : Option Error} {steps : List ErrorStep}
    (keeps : KeepsSince c m error h) (adds : ∀ step ∈ steps, step.adds = true) :
    wp (errorChain error steps) (KeepsSince c m) h := by
  induction steps generalizing error h with
  | nil => exact wp_pure.mpr keeps
  | cons step steps ih =>
    rw [errorChain, wp_bind]
    have rest : ∀ r h', KeepsSince c m r h' → wp (errorChain r steps) (KeepsSince c m) h' :=
      fun _ _ keeps => ih keeps fun step mem => adds step (List.mem_cons_of_mem _ mem)
    cases step with
    | create text | copy => exact absurd (adds _ List.mem_cons_self) Bool.false_ne_true
    | add text | addV text => exact wp_mono (errorAdd_keepsSince keeps text) rest
    | addCode code => exact wp_mono (errorAddCode_keepsSince keeps code) rest

variable {τ κ α γ : Type} {B : Backend τ κ α γ} {h : Handle}

/-- What a backend does with the memory of the transfers that it creates. -/
structure Custody (C : Contract B h) where
  create : ∀ {d pipeId size c m}, size ≠ 0 → OwnsSince c d.heap m →
    wp (B.asyncInTransferCreate (some h) pipeId size) (fun r d' => match r with
      | .error error => KeepsSince c m (some error) d'.heap
      | .ok t => ∃ T, d'.transfers t = some T ∧ C.view.pending T = false ∧ C.view.error T = none ∧
          OwnsSince c d'.heap (m + C.view.blocks t T)) d
  /-- The operating system is going to allow the creation of all transfers of the size. -/
  Lenient : κ → Nat → Prop
  succeeds : ∀ {d pipeId size}, size ≠ 0 → d.heap.GrantsAll → Lenient d.kernel size →
    wp (B.asyncInTransferCreate (some h) pipeId size) (fun r d' =>
      (∃ t, r = .ok t) ∧ d'.heap.GrantsAll ∧ Lenient d'.kernel size) d

variable {C : Contract B h} {K : Custody C} {d d' : Dev τ κ α γ}

/-- The transfer at `t` is not pending and consists of the blocks `b`. -/
def Contract.Holds (C : Contract B h) (d : Dev τ κ α γ) (t : Addr) (b : Multiset Loc) : Prop :=
  ∃ T, d.transfers t = some T ∧ C.view.pending T = false ∧ b = C.view.blocks t T

lemma Contract.Holds.frame {t : Addr} {b : Multiset Loc} (holds : C.Holds d t b)
    (same : d'.transfers t = d.transfers t) : C.Holds d' t b := by
  obtain ⟨T, hT, rest⟩ := holds
  exact ⟨T, by rw [same, hT], rest⟩

/-- The transfers `ts` are not pending and consist of the blocks `b`. -/
def Contract.HoldsAll (C : Contract B h) (d : Dev τ κ α γ) (ts : List Addr) (b : Multiset Loc) :
    Prop :=
  ∃ held : List (Addr × Multiset Loc), ts = held.map Prod.fst ∧ b = (held.map Prod.snd).sum ∧
    ∀ x ∈ held, C.Holds d x.1 x.2

namespace Contract.HoldsAll

variable {ts : List Addr} {t : Addr} {b b' : Multiset Loc}

lemma nil : C.HoldsAll d [] 0 := ⟨[], rfl, rfl, by simp⟩

/-- The first transfer and the others. -/
lemma cons (holds : C.HoldsAll d (t :: ts) b) :
    ∃ b₁ b₂, b = b₁ + b₂ ∧ C.Holds d t b₁ ∧ C.HoldsAll d ts b₂ := by
  obtain ⟨held, eq, rfl, all⟩ := holds
  cases held with
  | nil => cases eq
  | cons x held =>
    rw [List.map_cons, List.cons.injEq] at eq
    obtain ⟨rfl, rfl⟩ := eq
    refine ⟨x.2, (held.map Prod.snd).sum, by simp, all x List.mem_cons_self, held, rfl, rfl, ?_⟩
    exact fun y mem => all y (List.mem_cons_of_mem x mem)

/-- One more transfer. -/
lemma concat (holds : C.HoldsAll d ts b) (new : C.Holds d t b') :
    C.HoldsAll d (ts ++ [t]) (b + b') := by
  obtain ⟨held, rfl, rfl, all⟩ := holds
  refine ⟨held ++ [(t, b')], by simp, by simp, ?_⟩
  intro x mem
  rcases List.mem_append.mp mem with mem | mem
  · exact all x mem
  · rw [List.mem_singleton.mp mem]
    exact new

/-- Other transfers do not matter. -/
lemma frame (holds : C.HoldsAll d ts b) (same : ∀ t ∈ ts, d'.transfers t = d.transfers t) :
    C.HoldsAll d' ts b := by
  obtain ⟨held, rfl, rfl, all⟩ := holds
  refine ⟨held, rfl, rfl, ?_⟩
  intro x mem
  exact (all x mem).frame (same x.1 (List.mem_map_of_mem mem))

end Contract.HoldsAll

/-- Freeing a transfer that is not pending gives back its blocks. -/
lemma Contract.wp_free {t : Addr} {T : τ} (inv : C.Inv d) (hT : d.transfers t = some T)
    (idle : C.view.pending T = false) (own : Heap.OwnsSince c d.heap (m + C.view.blocks t T)) :
    wp (B.asyncInTransferFree (some t)) (fun _ d' => C.Inv d' ∧ Heap.OwnsSince c d'.heap m ∧
      d'.transfers = Function.update d.transfers t none) d := by
  apply wp_mono (C.free inv hT)
  rintro _ d' ⟨inv', freed, _, transfers⟩
  rw [idle, if_neg Bool.false_ne_true] at transfers
  rw [View.releases, idle, if_neg Bool.false_ne_true] at freed
  exact ⟨inv', own.frees freed, transfers⟩

/-- Freeing an array of transfers that are not pending gives back their blocks and that of the array. -/
lemma wp_arrayFree_owns {l : Loc} {slots : List (Option Addr)} {b : Multiset Loc} (inv : C.Inv d)
    (nodup : slots.reduceOption.Nodup) (holds : C.HoldsAll d slots.reduceOption b)
    (own : Heap.OwnsSince c d.heap (m + {l} + b)) :
    wp (B.asyncInTransferArrayFree (some ⟨l, slots⟩) slots.length)
      (fun _ d' => Heap.OwnsSince c d'.heap m) d := by
  -- the transfers that are left hold their blocks
  apply wp_arrayFree_rule C fun ts d' => C.Inv d' ∧ ∀ rest, slots.reduceOption = ts ++ rest →
    ∃ b, C.HoldsAll d' rest b ∧ Heap.OwnsSince c d'.heap (m + {l} + b)
  · refine ⟨inv, ?_⟩
    intro rest eq
    rw [List.nil_append] at eq
    exact ⟨b, eq ▸ holds, own⟩
  · rintro ts t rest d₁ split ⟨inv₁, left⟩
    obtain ⟨b, holds₁, own₁⟩ := left (t :: rest) split
    obtain ⟨b₁, b₂, rfl, ⟨T, hT, idle, rfl⟩, others⟩ := holds₁.cons
    have own₁ : Heap.OwnsSince c d₁.heap (m + {l} + b₂ + C.view.blocks t T) := own₁.of_eq (by abel)
    apply wp_mono (Contract.wp_free inv₁ hT idle own₁)
    rintro _ d₂ ⟨inv₂, own₂, transfers₂⟩
    refine ⟨inv₂, ?_⟩
    intro rest' eq
    rw [split, List.append_assoc] at eq
    obtain rfl : rest = rest' := by simpa using eq
    refine ⟨b₂, others.frame fun u mem => ?_, own₂⟩
    rw [transfers₂, Function.update_of_ne]
    rintro rfl
    rw [split] at nodup
    exact (List.nodup_cons.mp nodup.of_append_right).1 mem
  · rintro d₁ ⟨_, left⟩
    obtain ⟨b, holds₁, own₁⟩ := left [] (List.append_nil _).symm
    obtain ⟨held, nil, rfl, _⟩ := holds₁
    obtain rfl : held = [] := List.map_eq_nil_iff.mp nil.symm
    rw [onHeap, wp_zoom]
    refine OwnsSince.wp_free (own₁.of_eq ?_) fun h' own' => own'
    simp

/-- The loop that creates the transfers holds the blocks of those that it created, and of its error. -/
lemma wp_createTransfers_owns (K : Custody C) {pipeId : UInt8} {size n : Nat} (inv : C.Inv d)
    (input : pipeId &&& 0x80 ≠ 0) (pos : size ≠ 0) (own : Heap.OwnsSince c d.heap m) :
    wp (B.createTransfers (some h) pipeId size n) (fun r d' => ∃ ts b, Created C d size ts d' ∧
      r.2 = slotsOf n ts ∧ ts.length ≤ n ∧ C.HoldsAll d' ts b ∧
        ∀ e, r.1 = some e → KeepsSince c (m + b) (some e) d'.heap) d := by
  unfold Backend.createTransfers
  apply wp_forUntil fun j slots d' => ∃ ts b, Created C d size ts d' ∧ slots = slotsOf n ts ∧
    ts.length = j ∧ C.HoldsAll d' ts b ∧ Heap.OwnsSince c d'.heap (m + b)
  · rintro j _ d₁ _ lt ⟨ts, b, created, rfl, rfl, holds, own₁⟩
    rw [Nat.zero_add] at lt
    simp only [wp_bind]
    apply wp_mono ((C.create created.inv input pos).and (K.create pos own₁))
    rintro r d₂ ⟨⟨inv₂, le₂, calls₂, result⟩, memory⟩
    cases r with
    | error e =>
      obtain ⟨_, transfers₂⟩ := result
      rw [wp_pure]
      refine ⟨ts, b, created.failed inv₂ le₂ calls₂ transfers₂, rfl, lt.le,
        holds.frame fun t _ => by rw [transfers₂], ?_⟩
      rintro _ ⟨⟩
      exact memory
    | ok t =>
      obtain ⟨fresh, _, T, hsize, buffered, idle, transfers₂⟩ := result
      obtain ⟨T', hT', idle', _, own₂⟩ := memory
      rw [wp_pure]
      refine ⟨ts ++ [t], b + C.view.blocks t T', created.concat inv₂ le₂ calls₂ fresh hsize buffered idle
        transfers₂, slotsOf_set lt t, by simp, ?_, own₂.of_eq (add_assoc m b _)⟩
      refine (holds.frame fun t' mem => ?_).concat ⟨T', hT', idle', rfl⟩
      rw [transfers₂, Function.update_of_ne]
      rintro rfl
      exact created.notMem fresh mem
  · rintro _ d₁ ⟨ts, b, created, rfl, len, holds, _⟩
    rw [Nat.zero_add] at len
    exact ⟨ts, b, created, rfl, len.le, holds, by rintro _ ⟨⟩⟩
  · exact ⟨[], 0, Created.refl inv, by simp [slotsOf], rfl, .nil, own.of_eq (add_zero m).symm⟩

variable {s : Sys τ κ α γ} {p : Addr} {P : Pipe}

/-- If `allocate_transfers` fails, what it allocated are the blocks of the error. -/
lemma wp_allocate_owns (K : Custody C) {transferCount transferSize : Nat} (inv : SysInv C s)
    (hp : s.pipes p = some P) :
    wp (B.asyncInPipeAllocateTransfers (some p) transferCount transferSize) (fun r s' =>
      ∀ e, r = some e → e.Sound ∧ Heap.OwnsSince s.dev.heap.calls s'.dev.heap e.blocks) s := by
  -- what is kept besides what the system had is the error that is returned
  have told : ∀ {r : Option Error} {h' : Heap}, KeepsSince s.dev.heap.calls 0 r h' →
      ∀ e, r = some e → e.Sound ∧ Heap.OwnsSince s.dev.heap.calls h' e.blocks := by
    rintro _ h' keeps e rfl
    exact ⟨keeps.1 e rfl, keeps.2.of_eq (zero_add _)⟩
  have refuse : ∀ text : String, wp (onDev (onHeap (errorCreate text))) (fun r s' =>
      ∀ e, r = some e → e.Sound ∧ Heap.OwnsSince s.dev.heap.calls s'.dev.heap e.blocks) s := by
    intro text
    simp only [onDev, onHeap, wp_zoom]
    apply wp_mono (errorCreate_keepsSince .start text)
    rintro _ h' ⟨e, rfl, keeps⟩
    exact told keeps
  simp only [Backend.asyncInPipeAllocateTransfers, wp_bind, wp_loadPipe hp]
  apply wp_ite (fun _ => refuse _)
  intro unallocated
  apply wp_ite (fun _ => refuse _)
  intro count
  apply wp_ite (fun _ => refuse _)
  intro size
  rcases inv.cases hp with ⟨pipeId, rfl, input⟩ | al
  case inr =>
    rw [← Option.not_isNone, al.isNone] at unallocated
    exact absurd rfl unallocated
  simp only [wp_bind, onDev, onHeap, wp_zoom]
  have bytes : transferCount * sizeofPointer ≠ 0 := Nat.mul_ne_zero count (by decide)
  have made : wp (calloc transferCount sizeofPointer : Prog Fault Heap _)
      (fun r h' => OwnsSince s.dev.heap.calls h' (r.elim 0 fun a => {.heap a})) s.dev.heap :=
    OwnsSince.start.wp_calloc bytes (fun _ _ own => own.of_eq (zero_add _)) fun _ own => own
  have grows : wp (calloc transferCount sizeofPointer : Prog Fault Heap _)
      (fun _ h' => Le s.dev.heap h') s.dev.heap :=
    wp_calloc (fun _ le _ _ => le) fun _ le => le
  apply wp_mono (made.and grows)
  rintro (_ | a) h₁ ⟨own₁, le₁⟩
  · simp only [wp_zoom]
    have keeps : KeepsSince s.dev.heap.calls 0 (some errorNoMemory) h₁ := by
      refine ⟨?_, own₁⟩
      rintro _ ⟨⟩
      exact errorNoMemory_sound
    exact wp_mono (errorAdd_keepsSince keeps _) fun _ _ keeps => told keeps
  · simp only [wp_bind, wp_zoom]
    apply wp_mono (wp_createTransfers_owns K (C.heap inv.inv le₁) input size own₁)
    rintro ⟨error, slots⟩ d₂ ⟨ts, b, created, rfl, len, holds, memory⟩
    cases error with
    | none =>
      simp only [wp_bind, storePipe, wp_modify, wp_pure]
      rintro _ ⟨⟩
    | some e =>
      obtain ⟨sound, own₂⟩ := memory e rfl
      simp only [wp_bind, wp_zoom]
      -- the blocks of the error stay, those of the array and of its transfers are given back
      have own₃ : Heap.OwnsSince s.dev.heap.calls d₂.heap (e.blocks + {.heap a} + b) :=
        own₂.of_eq (by rw [errorBlocks_some, Option.elim_some]; abel)
      have freed : wp (B.asyncInTransferArrayFree (some ⟨.heap a, slotsOf transferCount ts⟩)
          (slotsOf transferCount ts).length) (fun _ d' =>
            Heap.OwnsSince s.dev.heap.calls d'.heap e.blocks) d₂ := by
        apply wp_arrayFree_owns created.inv _ _ own₃
        · rw [reduceOption_slotsOf]
          exact created.nodup
        · rw [reduceOption_slotsOf]
          exact holds
      rw [length_slotsOf len] at freed
      apply wp_mono freed
      intro _ d₃ own₄
      have keeps : KeepsSince s.dev.heap.calls 0 (some e) d₃.heap :=
        ⟨sound, own₄.of_eq (zero_add _).symm⟩
      exact wp_mono (errorAdd_keepsSince keeps _) fun _ _ keeps => told keeps

/-- With enough memory and a lenient operating system the loop creates all transfers. -/
lemma wp_createTransfers_succeeds (K : Custody C) {pipeId : UInt8} {size n : Nat} (pos : size ≠ 0)
    (all : d.heap.GrantsAll) (lenient : K.Lenient d.kernel size) :
    wp (B.createTransfers (some h) pipeId size n) (fun r _ => r.1 = none) d := by
  unfold Backend.createTransfers
  apply wp_forUntil fun _ _ d' => d'.heap.GrantsAll ∧ K.Lenient d'.kernel size
  · rintro j slots d₁ _ _ ⟨all₁, lenient₁⟩
    rw [wp_bind]
    apply wp_mono (K.succeeds pos all₁ lenient₁)
    rintro _ d₂ ⟨⟨t, rfl⟩, next⟩
    exact wp_pure.mpr next
  · exact fun _ _ _ => rfl
  · exact ⟨all, lenient⟩

/-- With enough memory and a lenient operating system `allocate_transfers` succeeds on a pipe that has
no transfers yet. -/
lemma wp_allocate_succeeds (K : Custody C) {n size : Nat} (inv : SysInv C s) (hp : s.pipes p = some P)
    (unallocated : P.transferArray = none) (count : n ≠ 0) (pos : size ≠ 0)
    (fits : n * sizeofPointer < 2 ^ 64) (all : s.dev.heap.GrantsAll)
    (lenient : K.Lenient s.dev.kernel size) :
    wp (B.asyncInPipeAllocateTransfers (some p) n size) (fun r _ => r = none) s := by
  have handle := (inv.pipes p P hp).handle
  simp only [Backend.asyncInPipeAllocateTransfers, wp_bind, wp_loadPipe hp, unallocated,
    Option.isSome_none, Bool.false_eq_true, if_false, if_neg count, if_neg pos, handle]
  simp only [onDev, onHeap, wp_zoom]
  apply all.wp_calloc fits
  intro a h₁ all₁
  simp only [wp_bind, wp_zoom]
  apply wp_mono (wp_createTransfers_succeeds K (d := { s.dev with heap := h₁ }) pos all₁ lenient)
  rintro ⟨_, slots⟩ d₂ rfl
  simp only [wp_bind, storePipe, wp_modify, wp_pure]

end Libusbp
