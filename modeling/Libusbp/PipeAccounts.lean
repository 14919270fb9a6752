import Libusbp.Lib.Stock
import Libusbp.PipeLedger
import Mathlib.Algebra.Order.BigOperators.Group.List
import Mathlib.Data.Multiset.OrderedMonoid

/-!
# The memory of a whole system of pipes

Every block that was allocated since the handle was opened belongs to something: to an open pipe, to a
transfer that was not freed, or to an error that a call handed out. `Books` is what a backend owes to
that for each of its functions, whatever became of a transfer, and `wp_step_told` is what one call of the
interface does to the account.
-/

namespace Libusbp

open Prog Heap

variable {c : List HeapCall} {m m' : Multiset Loc}

/-! ## Errors -/

lemma errorFree_ownsSince {error : Option Error} {h : Heap}
    (own : Heap.OwnsSince c h (m + errorBlocks error)) :
    wp (errorFree error) (fun _ h' => Heap.OwnsSince c h' m) h := by
  have freed : wp (errorFree error) (fun _ h' => True ∧ Heap.OwnsSince c h' m) h := by
    apply own.wp_of_owns (respects_errorFree error)
    intro h₀ own₀
    apply errorFree_owns own₀
    exact fun h' own' _ => ⟨trivial, own'⟩
  exact wp_mono freed fun _ _ done => done.2

lemma errorCopy_keepsSince {error : Option Error} {h : Heap} (sound : ∀ e, error = some e → e.Sound)
    (own : Heap.OwnsSince c h m) : wp (errorCopy error) (KeepsSince c m) h :=
  OwnsSince.keeps own (respects_errorCopy error) fun _ own₀ => errorCopy_keeps sound own₀

/-- A chain that begins with a text makes an error. -/
lemma errorChain_create_keepsSince {h : Heap} {text : String} {steps : List ErrorStep}
    (own : Heap.OwnsSince c h m) (adds : ∀ step ∈ steps, step.adds = true) :
    wp (errorChain none (.create text :: steps)) (KeepsSince c m) h := by
  rw [errorChain, wp_bind]
  apply wp_mono (errorCreate_keepsSince own text)
  rintro _ h' ⟨e, rfl, keeps⟩
  exact errorChain_keepsSince keeps adds

/-! ## The blocks of the transfers -/

variable {τ κ α γ : Type}

/-- What is allocated since the calls `c` are the blocks of the transfers and those of `m`. -/
structure Accounts (E : Estate τ) (c : List HeapCall) (d : Dev τ κ α γ) (m : Multiset Loc) : Prop where
  sound : ∀ t T, d.transfers t = some T → ∀ e, E.error T = some e → e.Sound
  stock : ∃ b, Stock E.blocks d.transfers b ∧ Heap.OwnsSince c d.heap (m + b)

/-- Besides the blocks of `m`, a function hands out those of an error. -/
def Hands (E : Estate τ) (c : List HeapCall) (m : Multiset Loc) (r : Option Error)
    (d : Dev τ κ α γ) : Prop :=
  (∀ e, r = some e → e.Sound) ∧ Accounts E c d (m + errorBlocks r)

namespace Accounts

variable {E : Estate τ} {d d' : Dev τ κ α γ} {t : Addr} {T : τ}

lemma of_eq (acc : Accounts E c d m) (e : m = m') : Accounts E c d m' := e ▸ acc

/-- The heap, as long as no transfer changes, or one is made at a fresh address. -/
lemma heap (acc : Accounts E c d m) : ∃ b, Heap.OwnsSince c d.heap (m + b) ∧
    (∀ (d' : Dev τ κ α γ) (m' : Multiset Loc), d'.transfers = d.transfers →
      Heap.OwnsSince c d'.heap (m' + b) → Accounts E c d' m') ∧
    ∀ (d' : Dev τ κ α γ) (m' : Multiset Loc) (t : Addr) (T : τ), d.transfers t = none →
      (∀ e, E.error T = some e → e.Sound) →
      d'.transfers = Function.update d.transfers t (some T) →
        Heap.OwnsSince c d'.heap (m' + b + E.blocks t T) → Accounts E c d' m' := by
  obtain ⟨b, stock, own⟩ := acc.stock
  refine ⟨b, own, ?_, ?_⟩
  · intro d' m' same own'
    refine ⟨?_, b, by rw [same]; exact stock, own'⟩
    rw [same]
    exact acc.sound
  · intro d' m' t T new sound same own'
    refine ⟨?_, _, by rw [same]; exact stock.insert new T, own'.of_eq (add_assoc _ _ _)⟩
    rw [same]
    intro u U hU
    by_cases e : u = t
    · rw [e, Function.update_self] at hU
      cases hU
      exact sound
    · rw [Function.update_of_ne e] at hU
      exact acc.sound u U hU

/-- One transfer by itself, which may be written or freed as long as the heap follows. -/
lemma pick (acc : Accounts E c d m) (hT : d.transfers t = some T) : ∃ rest,
    Heap.OwnsSince c d.heap (m + rest + E.blocks t T) ∧
    (∀ (d' : Dev τ κ α γ) (m' : Multiset Loc) (T' : τ), (∀ e, E.error T' = some e → e.Sound) →
      d'.transfers = Function.update d.transfers t (some T') →
        Heap.OwnsSince c d'.heap (m' + rest + E.blocks t T') → Accounts E c d' m') ∧
    ∀ (d' : Dev τ κ α γ) (m' : Multiset Loc), d'.transfers = Function.update d.transfers t none →
      Heap.OwnsSince c d'.heap (m' + rest) → Accounts E c d' m' := by
  obtain ⟨b, stock, own⟩ := acc.stock
  obtain ⟨rest, rfl, write, remove⟩ := stock.pick hT
  refine ⟨rest, own.of_eq (add_assoc _ _ _).symm, ?_, ?_⟩
  · intro d' m' T' sound same own'
    refine ⟨?_, _, by rw [same]; exact write T', own'.of_eq (add_assoc _ _ _)⟩
    rw [same]
    intro u U hU
    by_cases e : u = t
    · rw [e, Function.update_self] at hU
      cases hU
      exact sound
    · rw [Function.update_of_ne e] at hU
      exact acc.sound u U hU
  · intro d' m' same own'
    refine ⟨?_, rest, by rw [same]; exact remove, own'⟩
    rw [same]
    intro u U hU
    by_cases e : u = t
    · rw [e, Function.update_self] at hU
      cases hU
    · rw [Function.update_of_ne e] at hU
      exact acc.sound u U hU

/-- A program on the heap of a device that makes an error, or none. -/
lemma wp_onHeap (acc : Accounts E c d m) {x : Prog Fault Heap (Option Error)}
    (made : ∀ m₀, Heap.OwnsSince c d.heap m₀ → wp x (KeepsSince c m₀) d.heap) :
    wp (onHeap x) (Hands E c m) d := by
  obtain ⟨b, own, keep, _⟩ := acc.heap
  rw [onHeap, wp_zoom]
  apply wp_mono (made _ own)
  intro r h' keeps
  refine ⟨keeps.1, keep _ _ rfl (keeps.2.of_eq ?_)⟩
  abel

lemma wp_create (acc : Accounts E c d m) (text : String) :
    wp (onHeap (errorCreate (some text))) (Hands E c m) d := by
  apply acc.wp_onHeap
  intro m₀ own
  apply wp_mono (errorCreate_keepsSince own text)
  rintro _ h' ⟨e, rfl, keeps⟩
  exact keeps

/-- An array goes out of the account. -/
lemma wp_free {l : Loc} (acc : Accounts E c d (m + {l})) :
    wp (onHeap (free (some l))) (fun _ d' => Accounts E c d' m) d := by
  obtain ⟨b, own, keep, _⟩ := acc.heap
  rw [onHeap, wp_zoom]
  have own₀ : Heap.OwnsSince c d.heap (m + b + {l}) := own.of_eq (by abel)
  apply own₀.wp_free
  exact fun h' own' => keep _ _ rfl own'

/-- A block that was asked for comes into the account, if the request was granted. -/
lemma wp_calloc {count size : Nat} (acc : Accounts E c d m) (pos : count * size ≠ 0) :
    wp (onHeap (calloc count size))
      (fun r d' => Accounts E c d' (m + r.elim 0 fun a => {.heap a})) d := by
  obtain ⟨b, own, keep, _⟩ := acc.heap
  rw [onHeap, wp_zoom]
  apply own.wp_calloc pos
  · exact fun a h' own' => keep _ _ rfl (own'.of_eq (by rw [Option.elim_some]; abel))
  · exact fun h' own' => keep _ _ rfl (own'.of_eq (by rw [Option.elim_none, add_zero]))

/-- The kernel and the history do not matter. -/
lemma same (acc : Accounts E c d m) (transfers : d'.transfers = d.transfers)
    (heap : d'.heap = d.heap) : Accounts E c d' m := by
  obtain ⟨_, own, keep, _⟩ := acc.heap
  exact keep d' m transfers (heap ▸ own)

/-- A write to a transfer that keeps its buffer and its error. -/
lemma write {T' : τ} (acc : Accounts E c d m) (hT : d.transfers t = some T)
    (transfers : d'.transfers = Function.update d.transfers t (some T')) (heap : d'.heap = d.heap)
    (buffer : E.buffer T' = E.buffer T) (error : E.error T' = E.error T) :
    Accounts E c d' m := by
  obtain ⟨rest, own, write, _⟩ := acc.pick hT
  apply write d' m T' _ transfers
  · rw [heap, Estate.blocks, buffer, error]
    exact own
  · rw [error]
    exact acc.sound t T hT

/-- Freeing the error of a transfer, from where a null pointer has to be written. -/
lemma wp_clear (acc : Accounts E c d m) (hT : d.transfers t = some T) :
    wp (onHeap (errorFree (E.error T))) (fun _ d₁ => d₁.transfers = d.transfers ∧
      ∀ (d' : Dev τ κ α γ) (T' : τ), d'.transfers = Function.update d.transfers t (some T') →
        d'.heap = d₁.heap → E.buffer T' = E.buffer T → E.error T' = none →
          Accounts E c d' m) d := by
  obtain ⟨rest, own, write, _⟩ := acc.pick hT
  have own₀ : Heap.OwnsSince c d.heap
      (m + rest + {.heap t} + ((E.buffer T).toList : Multiset Loc) + errorBlocks (E.error T)) := by
    apply own.of_eq
    rw [Estate.blocks]
    abel
  rw [onHeap, wp_zoom]
  apply wp_mono (errorFree_ownsSince own₀)
  intro _ h₁ own₁
  refine ⟨rfl, ?_⟩
  intro d' T' transfers heap buffer error
  apply write d' m T' _ transfers
  · rw [heap, Estate.blocks, buffer, error, errorBlocks_none]
    apply own₁.of_eq
    abel
  · rw [error]
    rintro _ ⟨⟩

end Accounts

/-- An error is handed to a transfer that has none. -/
lemma Hands.store {E : Estate τ} {d d' : Dev τ κ α γ} {t : Addr} {T T' : τ} {r : Option Error}
    (hands : Hands E c m r d) (hT : d.transfers t = some T) (none : E.error T = none)
    (transfers : d'.transfers = Function.update d.transfers t (some T')) (heap : d'.heap = d.heap)
    (buffer : E.buffer T' = E.buffer T) (error : E.error T' = r) : Accounts E c d' m := by
  obtain ⟨sound, acc⟩ := hands
  obtain ⟨rest, own, write, _⟩ := acc.pick hT
  apply write d' m T' _ transfers
  · rw [heap]
    apply own.of_eq
    rw [Estate.blocks, Estate.blocks, buffer, error, none, errorBlocks_none]
    abel
  · rw [error]
    exact sound

/-- An error was made for the caller, and no transfer changed. -/
def MakesError (E : Estate τ) (c : List HeapCall) (m : Multiset Loc) (d : Dev τ κ α γ)
    (r : Option Error) (d' : Dev τ κ α γ) : Prop :=
  (∃ e, r = some e) ∧ d'.transfers = d.transfers ∧ Hands E c m r d'

/-- A chain that begins with a text makes an error. -/
lemma Accounts.wp_chain {E : Estate τ} {d : Dev τ κ α γ} (acc : Accounts E c d m) (text : String)
    {steps : List ErrorStep} (adds : ∀ step ∈ steps, step.adds = true) :
    wp (onHeap (errorChain none (.create text :: steps))) (MakesError E c m d) d := by
  have made : wp (onHeap (errorChain none (.create text :: steps)))
      (fun r d' => (∃ e, r = some e) ∧ d'.transfers = d.transfers) d :=
    wp_onHeap_made (made_chain text adds d.heap) fun e _ _ _ => ⟨⟨e, rfl⟩, rfl⟩
  apply wp_mono (made.and (acc.wp_onHeap fun m₀ own => errorChain_create_keepsSince own adds))
  rintro r d' ⟨⟨error, same⟩, hands⟩
  exact ⟨error, same, hands⟩

variable {B : Backend τ κ α γ} {h : Handle} {C : Contract B h}

/-- No transfer came to life. -/
def NoneBorn (d d' : Dev τ κ α γ) : Prop := ∀ t, d'.transfers t ≠ none → d.transfers t ≠ none

namespace NoneBorn

variable {d d' d'' : Dev τ κ α γ} {t : Addr} {T T' : τ}

lemma of_same (same : d'.transfers = d.transfers) : NoneBorn d d' := fun t live => by rwa [← same]

lemma trans (first : NoneBorn d d') (second : NoneBorn d' d'') : NoneBorn d d'' :=
  fun t live => first t (second t live)

/-- Writing to a transfer makes no other one. -/
lemma update (hT : d.transfers t = some T)
    (transfers : d'.transfers = Function.update d.transfers t (some T')) : NoneBorn d d' := by
  intro u live
  by_cases same : u = t
  · rw [same, hT]
    exact Option.some_ne_none T
  · rwa [transfers, Function.update_of_ne same] at live

end NoneBorn

/-- What the functions of a backend do to the account. -/
structure Books (K : Custody C) : Prop where
  setup : ∀ {d pipeId c m}, Accounts C.view.toEstate c d m →
    wp (B.asyncInPipeSetup (some h) pipeId) (Hands C.view.toEstate c m) d
  submit : ∀ {d t T c m}, C.Inv d → d.transfers t = some T → C.view.pending T = false →
    Accounts C.view.toEstate c d m →
    wp (B.asyncInTransferSubmit (some t)) (fun _ d' => Accounts C.view.toEstate c d' m) d
  pending : ∀ {d t T c m}, C.Inv d → d.transfers t = some T → Accounts C.view.toEstate c d m →
    wp (B.asyncInTransferPending (some t)) (fun _ d' => Accounts C.view.toEstate c d' m) d
  getResults : ∀ {d t T out c m}, C.Inv d → d.transfers t = some T → C.view.pending T = false →
    Accounts C.view.toEstate c d m → out.transferError.join = none →
    wp (B.asyncInTransferGetResults (some t) out)
      (fun r d' => Hands C.view.toEstate c m r.2.transferError.join d') d
  cancel : ∀ {d t T c m}, d.transfers t = some T → Accounts C.view.toEstate c d m →
    wp (B.asyncInTransferCancel (some t)) (Hands C.view.toEstate c m) d
  events : ∀ {d c m}, C.Inv d → Accounts C.view.toEstate c d m →
    wp (B.genericHandleEvents (some h)) (fun r d' => Hands C.view.toEstate c m r d' ∧ NoneBorn d d') d

/-- The books of a backend say what becomes of the blocks of its transfers. -/
abbrev Books.estate {K : Custody C} (_ : Books K) : Estate τ := C.view.toEstate

variable {K : Custody C} {d : Dev τ κ α γ}

/-- A transfer that is created comes into the account, or the error does. -/
lemma Books.wp_create (L : Books K) {pipeId : UInt8} {size : Nat} (inv : C.Inv d)
    (input : pipeId &&& 0x80 ≠ 0) (pos : size ≠ 0) (acc : Accounts L.estate c d m) :
    wp (B.asyncInTransferCreate (some h) pipeId size) (fun r d' => match r with
      | .error e => Hands L.estate c m (some e) d'
      | .ok _ => Accounts L.estate c d' m) d := by
  obtain ⟨b, own, keep, insert⟩ := acc.heap
  apply wp_mono ((C.create inv input pos).and (K.create pos own))
  rintro r d' ⟨⟨_, _, _, result⟩, memory⟩
  cases r with
  | error e =>
    refine ⟨memory.1, keep _ _ result.2 (memory.2.of_eq ?_)⟩
    abel
  | ok t =>
    obtain ⟨fresh, _, T, _, _, _, transfers⟩ := result
    obtain ⟨T', hT', _, noError, own'⟩ := memory
    rw [transfers, Function.update_self] at hT'
    cases hT'
    have sound : ∀ e, C.view.error T = some e → e.Sound := by
      intro e eq
      rw [noError] at eq
      cases eq
    have new : d.transfers t = none := by
      rw [Option.eq_none_iff_forall_ne_some]
      exact fun U hU => absurd (C.liveFresh inv hU) (Nat.not_lt.mpr fresh)
    exact insert _ _ _ _ new sound transfers own'

/-- Freeing a transfer takes it out of the account, unless it is pending. -/
lemma Books.wp_free (L : Books K) {t : Addr} {T : τ} (inv : C.Inv d) (hT : d.transfers t = some T)
    (acc : Accounts L.estate c d m) :
    wp (B.asyncInTransferFree (some t)) (fun _ d' => C.Inv d' ∧ Accounts L.estate c d' m ∧
      d'.transfers = if C.view.pending T then d.transfers else Function.update d.transfers t none) d := by
  apply wp_mono (C.free inv hT)
  rintro _ d' ⟨inv', freed, _, transfers⟩
  refine ⟨inv', ?_, transfers⟩
  cases pend : C.view.pending T with
  | true =>
    rw [pend, if_pos rfl] at transfers
    rw [View.releases, pend, if_pos rfl] at freed
    obtain ⟨b, own, keep, _⟩ := acc.heap
    exact keep d' m transfers (OwnsSince.frees (own.of_eq (add_zero _).symm) freed)
  | false =>
    rw [pend, if_neg Bool.false_ne_true] at transfers
    rw [View.releases, pend, if_neg Bool.false_ne_true] at freed
    obtain ⟨rest, own, _, remove⟩ := acc.pick hT
    exact remove d' m transfers (own.frees freed)

/-- Freeing an array frees what the account has of its transfers, and the array. -/
lemma Books.wp_arrayFree (L : Books K) {l : Loc} {slots : List (Option Addr)} (inv : C.Inv d)
    (nodup : slots.reduceOption.Nodup)
    (live : ∀ t ∈ slots.reduceOption, ∃ T, d.transfers t = some T)
    (acc : Accounts L.estate c d (m + {l})) :
    wp (B.asyncInTransferArrayFree (some ⟨l, slots⟩) slots.length)
      (fun _ d' => Accounts L.estate c d' m) d := by
  apply wp_arrayFree_rule C fun ts d' => C.Inv d' ∧ Accounts L.estate c d' (m + {l}) ∧
    ∀ rest, slots.reduceOption = ts ++ rest → ∀ t ∈ rest, ∃ T, d'.transfers t = some T
  · refine ⟨inv, acc, ?_⟩
    rintro rest eq
    rw [List.nil_append] at eq
    exact eq ▸ live
  · rintro ts t rest d₁ split ⟨inv₁, acc₁, live₁⟩
    obtain ⟨T, hT⟩ := live₁ (t :: rest) split t List.mem_cons_self
    apply wp_mono (L.wp_free inv₁ hT acc₁)
    rintro _ d₂ ⟨inv₂, acc₂, transfers₂⟩
    refine ⟨inv₂, acc₂, ?_⟩
    intro rest' eq u mem
    rw [split, List.append_assoc] at eq
    obtain rfl : rest = rest' := by simpa using eq
    obtain ⟨U, hU⟩ := live₁ (t :: rest) split u (List.mem_cons_of_mem _ mem)
    rw [split] at nodup
    have ne : u ≠ t := by
      rintro rfl
      exact (List.nodup_cons.mp nodup.of_append_right).1 mem
    refine ⟨U, ?_⟩
    rw [transfers₂]
    split
    case isTrue => exact hU
    case isFalse => rw [Function.update_of_ne ne, hU]
  · rintro d₁ ⟨_, acc₁, _⟩
    exact acc₁.wp_free

/-- The loop that creates the transfers hands out its error, if there is one. -/
lemma Books.wp_createTransfers (L : Books K) {pipeId : UInt8} {size n : Nat} (inv : C.Inv d)
    (input : pipeId &&& 0x80 ≠ 0) (pos : size ≠ 0) (acc : Accounts L.estate c d m) :
    wp (B.createTransfers (some h) pipeId size n)
      (fun r d' => Hands L.estate c m r.1 d') d := by
  unfold Backend.createTransfers
  apply wp_forUntil fun _ _ d' => C.Inv d' ∧ Accounts L.estate c d' m
  · rintro j slots d₁ _ _ ⟨inv₁, acc₁⟩
    simp only [wp_bind]
    apply wp_mono ((C.create inv₁ input pos).and (L.wp_create inv₁ input pos acc₁))
    rintro r d₂ ⟨⟨inv₂, _⟩, result⟩
    cases r with
    | error e => exact wp_pure.mpr result
    | ok t => exact wp_pure.mpr ⟨inv₂, result⟩
  · rintro slots d₁ ⟨_, acc₁⟩
    exact ⟨by rintro _ ⟨⟩, acc₁.of_eq (add_zero m).symm⟩
  · exact ⟨inv, acc⟩

/-! ## The blocks of the pipes -/

/-- What is allocated since the calls `c` are the blocks of the pipes and their transfers, and those
of `m`. -/
def SysAccounts (E : Estate τ) (c : List HeapCall) (s : Sys τ κ α γ) (m : Multiset Loc) : Prop :=
  ∃ b, Stock pipeBlocks s.pipes b ∧ Accounts E c s.dev (m + b)

/-- The blocks of the errors that were handed out. -/
def blocksOf (errors : List Error) : Multiset Loc := (errors.map Error.blocks).sum

/-- A function of the interface hands out the errors. -/
def Tells (E : Estate τ) (c : List HeapCall) (m : Multiset Loc) (errors : List Error)
    (s : Sys τ κ α γ) : Prop :=
  (∀ e ∈ errors, e.Sound) ∧ SysAccounts E c s (m + blocksOf errors)

variable {E : Estate τ} {s s' : Sys τ κ α γ} {p : Addr} {P : Pipe}

lemma blocksOf_toList {r : Option Error} : blocksOf r.toList = errorBlocks r := by
  cases r with
  | none => rfl
  | some e => simp [blocksOf]

namespace SysAccounts

lemma of_eq (acc : SysAccounts E c s m) (e : m = m') : SysAccounts E c s m' := e ▸ acc

/-- A call that hands out nothing. -/
lemma tells (acc : SysAccounts E c s m) : Tells E c m [] s :=
  ⟨by simp, acc.of_eq (add_zero m).symm⟩

/-- The device, as long as the pipes stay. -/
lemma onDev (acc : SysAccounts E c s m) : ∃ b, Accounts E c s.dev (m + b) ∧
    (∀ (s' : Sys τ κ α γ) (m' : Multiset Loc), s'.pipes = s.pipes →
      Accounts E c s'.dev (m' + b) → SysAccounts E c s' m') ∧
    ∀ (s' : Sys τ κ α γ) (m' : Multiset Loc) (p : Addr) (P : Pipe), s.pipes p = none →
      s'.pipes = Function.update s.pipes p (some P) →
        Accounts E c s'.dev (m' + b + pipeBlocks p P) → SysAccounts E c s' m' := by
  obtain ⟨b, stock, acc⟩ := acc
  refine ⟨b, acc, ?_, ?_⟩
  · exact fun s' m' same acc' => ⟨b, by rw [same]; exact stock, acc'⟩
  · intro s' m' p P new same acc'
    exact ⟨_, by rw [same]; exact stock.insert new P, acc'.of_eq (add_assoc _ _ _)⟩

/-- One pipe by itself. -/
lemma pick (acc : SysAccounts E c s m) (hp : s.pipes p = some P) : ∃ rest,
    Accounts E c s.dev (m + rest + pipeBlocks p P) ∧
    (∀ (s' : Sys τ κ α γ) (m' : Multiset Loc) (P' : Pipe),
      s'.pipes = Function.update s.pipes p (some P') →
        Accounts E c s'.dev (m' + rest + pipeBlocks p P') → SysAccounts E c s' m') ∧
    ∀ (s' : Sys τ κ α γ) (m' : Multiset Loc), s'.pipes = Function.update s.pipes p none →
      Accounts E c s'.dev (m' + rest) → SysAccounts E c s' m' := by
  obtain ⟨b, stock, acc⟩ := acc
  obtain ⟨rest, rfl, write, remove⟩ := stock.pick hp
  refine ⟨rest, acc.of_eq (add_assoc _ _ _).symm, ?_, ?_⟩
  · intro s' m' P' same acc'
    exact ⟨_, by rw [same]; exact write P', acc'.of_eq (add_assoc _ _ _)⟩
  · exact fun s' m' same acc' => ⟨rest, by rw [same]; exact remove, acc'⟩

/-- A program on the device that hands out an error, or none. -/
lemma wp_onDev (acc : SysAccounts E c s m) {β : Type} {x : Prog Fault (Dev τ κ α γ) β}
    (error : β → Option Error)
    (hands : ∀ m₀, Accounts E c s.dev m₀ → wp x (fun r d' => Hands E c m₀ (error r) d') s.dev) :
    wp (Libusbp.onDev x) (fun r s' => Tells E c m (error r).toList s') s := by
  obtain ⟨b, acc₀, keep, _⟩ := acc.onDev
  rw [Libusbp.onDev, wp_zoom]
  apply wp_mono (hands _ acc₀)
  rintro r d' ⟨sound, acc'⟩
  refine ⟨fun e mem => sound e (Option.mem_toList.mp mem), keep _ _ rfl (acc'.of_eq ?_)⟩
  rw [blocksOf_toList]
  abel

lemma wp_refuse (acc : SysAccounts E c s m) (text : String) :
    wp (Libusbp.onDev (onHeap (errorCreate (some text))))
      (fun r s' => Tells E c m r.toList s') s :=
  acc.wp_onDev id fun _ acc₀ => acc₀.wp_create text

/-- A write to a pipe that keeps its array. -/
lemma store {P' : Pipe} (acc : SysAccounts E c s m) (hp : s.pipes p = some P)
    (same : P'.transferArray = P.transferArray) :
    SysAccounts E c { s with pipes := Function.update s.pipes p (some P') } m := by
  obtain ⟨rest, acc₀, write, _⟩ := acc.pick hp
  refine write _ m P' rfl ?_
  rw [pipeBlocks, same]
  exact acc₀

end SysAccounts

/-! ## The operations -/

/-- Adding a text to an error that is handed out. -/
lemma Hands.wp_add {E : Estate τ} {error : Option Error} (hands : Hands E c m error d) (text : String) :
    wp (onHeap (errorAdd error (some text))) (Hands E c m) d := by
  obtain ⟨sound, acc⟩ := hands
  obtain ⟨b, own, keep, _⟩ := acc.heap
  rw [onHeap, wp_zoom]
  have keeps : KeepsSince c (m + b) error d.heap := ⟨sound, own.of_eq (by abel)⟩
  apply wp_mono (errorAdd_keepsSince keeps text)
  intro r h' keeps'
  refine ⟨keeps'.1, keep _ _ rfl (keeps'.2.of_eq ?_)⟩
  abel

lemma Hands.of_none {E : Estate τ} (acc : Accounts E c d m) : Hands E c m none d :=
  ⟨by rintro _ ⟨⟩, acc.of_eq (add_zero m).symm⟩

lemma Hands.of_noMemory {E : Estate τ} (acc : Accounts E c d m) :
    Hands E c m (some errorNoMemory) d := by
  refine ⟨?_, acc.of_eq (add_zero m).symm⟩
  rintro _ ⟨⟩
  exact errorNoMemory_sound

/-- A request for memory, with what the pipe code has to know about it. -/
lemma Books.wp_calloc (L : Books K) {count size : Nat} (inv : C.Inv d) (acc : Accounts L.estate c d m)
    (pos : count * size ≠ 0) : wp (onHeap (calloc count size)) (fun r d' => C.Inv d' ∧
      Le d.heap d'.heap ∧ d'.transfers = d.transfers ∧
        Accounts L.estate c d' (m + r.elim 0 fun a => {.heap a})) d := by
  have grows : wp (onHeap (calloc count size)) (fun _ d' => C.Inv d' ∧ Le d.heap d'.heap ∧
      d'.transfers = d.transfers) d := by
    rw [onHeap, wp_zoom]
    apply Heap.wp_calloc
    · exact fun h' le _ _ => ⟨C.heap inv le, le, rfl⟩
    · exact fun h' le => ⟨C.heap inv le, le, rfl⟩
  apply wp_mono (grows.and (acc.wp_calloc pos))
  rintro r d' ⟨⟨inv', le, same⟩, acc'⟩
  exact ⟨inv', le, same, acc'⟩

lemma Accounts.wp_checkPipeId {E : Estate τ} (acc : Accounts E c d m) (pipeId : UInt8) :
    wp (onHeap (checkPipeId pipeId)) (Hands E c m) d := by
  unfold checkPipeId errorInvalidPipeId
  split
  case isTrue => exact acc.wp_create _
  case isFalse =>
    simp only [onHeap, wp_zoom, wp_pure]
    exact .of_none acc

/-- What `async_in_pipe_create` hands out, and the struct of the new pipe. -/
lemma Books.wp_createPipe_dev (L : Books K) {pipeId : UInt8} (acc : Accounts L.estate c s.dev m) :
    wp (B.asyncInPipeCreate (some h) pipeId (some none)) (fun r s' => (∀ e, r.1 = some e → e.Sound) ∧
      Accounts L.estate c s'.dev (m + errorBlocks r.1 +
        (r.2.join.elim 0 fun p => {.heap p}))) s := by
  -- an error is handed out, and no pipe
  have failed : ∀ {d : Dev τ κ α γ} {e : Error}, Hands L.estate c m (some e) d →
      (∀ e', some e = some e' → e'.Sound) ∧
        Accounts L.estate c d (m + errorBlocks (some e) + 0) :=
    fun hands => ⟨hands.1, hands.2.of_eq (add_zero _).symm⟩
  simp only [Backend.asyncInPipeCreate, wp_bind, onDev, wp_zoom]
  apply wp_mono (acc.wp_checkPipeId pipeId)
  intro r d₁ hands₁
  cases r with
  | some e =>
    rw [wp_pure]
    exact failed hands₁
  | none =>
    have acc₁ : Accounts L.estate c d₁ m := hands₁.2.of_eq (add_zero m)
    apply wp_ite
    · intro _
      simp only [wp_bind, wp_zoom, wp_pure]
      apply wp_mono (acc₁.wp_create _)
      exact fun r d₂ hands₂ => ⟨hands₂.1, hands₂.2.of_eq (add_zero _).symm⟩
    · intro input
      simp only [wp_bind, wp_zoom]
      apply wp_mono (L.setup acc₁)
      intro r d₂ hands₂
      cases r with
      | some e =>
        rw [wp_pure]
        exact failed hands₂
      | none =>
        have acc₂ : Accounts L.estate c d₂ m := hands₂.2.of_eq (add_zero m)
        simp only [wp_bind, wp_zoom]
        apply wp_mono (acc₂.wp_calloc (by decide))
        intro r d₃ acc₃
        cases r with
        | none =>
          rw [wp_pure]
          exact failed (.of_noMemory (acc₃.of_eq (add_zero m)))
        | some p =>
          simp only [wp_bind, storePipe, wp_modify, wp_pure]
          exact ⟨by rintro _ ⟨⟩, acc₃.of_eq (by rw [errorBlocks_none, add_zero]; rfl)⟩

/-- Opening a pipe. -/
lemma Books.wp_createPipe (L : Books K) {pipeId : UInt8} (inv : SysInv C s)
    (acc : SysAccounts L.estate c s m) :
    wp (B.asyncInPipeCreate (some h) pipeId (some none))
      (fun r s' => Tells L.estate c m r.1.toList s') s := by
  obtain ⟨b, acc₀, keep, insert⟩ := acc.onDev
  apply wp_mono ((Libusbp.wp_createPipe inv.inv).and (L.wp_createPipe_dev acc₀))
  rintro r s' ⟨result, sound, acc'⟩
  refine ⟨fun e mem => sound e (Option.mem_toList.mp mem), ?_⟩
  rw [blocksOf_toList]
  cases result with
  | failed _ pipes => exact keep _ _ pipes (acc'.of_eq (by rw [Option.join_some]; simp; abel))
  | @created p _ _ _ fresh _ pipes =>
    have new : s.pipes p = none := by
      rw [Option.eq_none_iff_forall_ne_some]
      exact fun Q hQ => absurd (inv.fresh p Q hQ) (Nat.not_lt.mpr fresh)
    refine insert _ _ p _ new pipes (acc'.of_eq ?_)
    simp [pipeBlocks, Pipe.opened]

/-- Allocating the transfers of a pipe. -/
lemma Books.wp_allocate (L : Books K) {transferCount transferSize : Nat} (inv : SysInv C s)
    (hp : s.pipes p = some P) (acc : SysAccounts L.estate c s m) :
    wp (B.asyncInPipeAllocateTransfers (some p) transferCount transferSize)
      (fun r s' => Tells L.estate c m r.toList s') s := by
  simp only [Backend.asyncInPipeAllocateTransfers, wp_bind, wp_loadPipe hp]
  apply wp_ite (fun _ => acc.wp_refuse _)
  intro unallocated
  apply wp_ite (fun _ => acc.wp_refuse _)
  intro count
  apply wp_ite (fun _ => acc.wp_refuse _)
  intro size
  rcases inv.cases hp with ⟨pipeId, rfl, input⟩ | al
  case inr =>
    rw [← Option.not_isNone, al.isNone] at unallocated
    exact absurd rfl unallocated
  obtain ⟨rest, acc₀, write, _⟩ := acc.pick hp
  have keep : ∀ {d : Dev τ κ α γ} {r : Option Error},
      Hands L.estate c (m + rest + pipeBlocks p (.opened h pipeId)) r d →
        Tells L.estate c m r.toList { s with dev := d } := by
    rintro d r ⟨sound, acc'⟩
    refine ⟨fun e mem => sound e (Option.mem_toList.mp mem), write _ _ (.opened h pipeId) ?_ ?_⟩
    · show s.pipes = _
      rw [← hp, Function.update_eq_self]
    · rw [blocksOf_toList]
      exact acc'.of_eq (by abel)
  simp only [wp_bind, onDev, wp_zoom]
  have bytes : transferCount * sizeofPointer ≠ 0 := Nat.mul_ne_zero count (by decide)
  apply wp_mono (L.wp_calloc inv.inv acc₀ bytes)
  rintro (_ | a) d₁ ⟨inv₁, _, _, acc₁⟩
  · simp only [wp_zoom]
    apply wp_mono ((Hands.of_noMemory (acc₁.of_eq (add_zero _))).wp_add _)
    exact fun r d₂ hands => keep hands
  · simp only [wp_bind, wp_zoom]
    apply wp_mono ((Libusbp.wp_createTransfers inv₁ input size).and
      (L.wp_createTransfers inv₁ input size acc₁))
    rintro ⟨error, slots⟩ d₂ ⟨⟨ts, created, rfl, len, _⟩, sound, acc₂⟩
    cases error with
    | none =>
      simp only [wp_bind, storePipe, wp_modify, wp_pure]
      refine ⟨by simp, write _ _ _ rfl (acc₂.of_eq ?_)⟩
      simp only [pipeBlocks, Pipe.opened, errorBlocks_none, Option.elim_some, Option.map_none,
        Option.map_some, Option.toList_none, Option.toList_some, Multiset.coe_nil,
        Multiset.coe_singleton, blocksOf, List.map_nil, List.sum_nil]
      abel
    | some e =>
      simp only [wp_bind, wp_zoom]
      have reduce : (slotsOf transferCount ts).reduceOption = ts := reduceOption_slotsOf
      have freed : wp (B.asyncInTransferArrayFree (some ⟨.heap a, slotsOf transferCount ts⟩)
          (slotsOf transferCount ts).length) (fun _ d' => Accounts L.estate c d'
            (m + rest + pipeBlocks p (.opened h pipeId) + errorBlocks (some e))) d₂ := by
        apply L.wp_arrayFree created.inv
        · rw [reduce]
          exact created.nodup
        · rw [reduce]
          intro t mem
          obtain ⟨T, hT, _⟩ := created.live t mem
          exact ⟨T, hT⟩
        · exact acc₂.of_eq (by rw [Option.elim_some]; abel)
      rw [length_slotsOf len] at freed
      apply wp_mono freed
      intro _ d₃ acc₃
      have hands : Hands L.estate c _ (some e) d₃ := ⟨sound, acc₃⟩
      apply wp_mono (hands.wp_add _)
      exact fun r d₄ hands' => keep hands'

/-- Submitting the next transfer. -/
lemma Books.wp_submitNextTransfer (L : Books K) (inv : C.Inv s.dev) (hp : s.pipes p = some P)
    (al : Allocated C.view s.dev P) (lt : P.pendingCount < P.transferCount)
    (acc : SysAccounts L.estate c s m) :
    wp (B.asyncInPipeSubmitNextTransfer p) (fun _ s' => SysAccounts L.estate c s' m) s := by
  obtain ⟨rest, acc₀, write, _⟩ := acc.pick hp
  have mem := al.getD_mem al.ring.tail_lt
  obtain ⟨T, hT, _⟩ := al.live _ mem
  have idle := al.outside _ mem (al.nextSubmit_notMem lt) T hT
  simp only [Backend.asyncInPipeSubmitNextTransfer, wp_bind, wp_loadPipe hp, wp_check,
    decide_eq_true_eq, al.wp_transferAt al.ring.tail_lt, onDev, wp_zoom]
  refine ⟨lt, ?_⟩
  apply wp_mono (L.submit inv hT idle acc₀)
  intro _ d acc'
  simp only [storePipe, wp_modify]
  exact write _ _ P.submitted rfl acc'

/-- A round of the loop of `start_endless_transfers`. -/
lemma Books.wp_fillRing (L : Books K) {s₁ : Sys τ κ α γ} (fill : Filling C s p P s₁)
    (acc : SysAccounts L.estate c s₁ m) : wp (B.fillRing p) (fun r s₂ => match r with
      | none => (Filling C s p P s₂ ∧ SysAccounts L.estate c s₂ m) ∧ freeSlots p s₂ < freeSlots p s₁
      | some _ => SysAccounts L.estate c s₂ m) s₁ := by
  obtain ⟨P₁, same, after, al₁, endless, next, subs⟩ := fill
  simp only [Backend.fillRing, wp_bind, wp_loadPipe after.get]
  apply wp_ite
  · intro lt
    simp only [wp_bind, wp_pure]
    apply wp_mono ((Libusbp.wp_submitNextTransfer after.inv after.get al₁ lt).and
      (L.wp_submitNextTransfer after.inv after.get al₁ lt acc))
    rintro _ s₂ ⟨⟨after₂, al₂, a, calls⟩, acc₂⟩
    refine ⟨⟨⟨P₁.submitted, same.trans .submitted, after.trans after₂ rfl, al₂, endless, next, ?_⟩,
      acc₂⟩, ?_⟩
    · apply subs.snoc _ calls
      rw [← same.transfers]
      exact al₁.getD_mem al₁.ring.tail_lt
    · unfold freeSlots
      rw [after.get, after₂.get]
      show P₁.transferCount - (P₁.pendingCount + 1) < P₁.transferCount - P₁.pendingCount
      omega
  · intro _
    rwa [wp_pure]

/-- Starting endless transfers. -/
lemma Books.wp_start (L : Books K) (inv : SysInv C s) (hp : s.pipes p = some P)
    (acc : SysAccounts L.estate c s m) :
    wp (B.asyncInPipeStartEndlessTransfers (some p))
      (fun r s' => Tells L.estate c m r.toList s') s := by
  simp only [Backend.asyncInPipeStartEndlessTransfers, wp_bind, wp_loadPipe hp]
  apply wp_ite (fun _ => acc.wp_refuse _)
  intro array
  have al : Allocated C.view s.dev P := inv.allocated hp (by simpa using array)
  simp only [wp_bind, storePipe, wp_modify, wp_pure]
  apply wp_loop (fun s₁ => Filling C s p P s₁ ∧ SysAccounts L.estate c s₁ m) (freeSlots p)
  · rintro s₁ ⟨fill, acc₁⟩
    apply wp_mono (L.wp_fillRing fill acc₁)
    intro r s₂ result
    cases r with
    | none => exact result
    | some _ => exact SysAccounts.tells result
  · simp only [freeSlots, Function.update_self]
    omega
  · refine ⟨⟨{ P with endlessTransfersEnabled := true }, ⟨rfl, rfl, rfl, rfl, rfl⟩,
      After.store inv.inv, al.setEndless true, rfl, rfl, Submits.refl⟩, acc.store hp rfl⟩

/-- Handling events. -/
lemma Books.wp_handleEvents (L : Books K) (inv : SysInv C s) (hp : s.pipes p = some P)
    (acc : SysAccounts L.estate c s m) :
    wp (B.asyncInPipeHandleEvents (some p)) (fun r s' => Tells L.estate c m r.toList s') s := by
  simp only [Backend.asyncInPipeHandleEvents, wp_bind, wp_loadPipe hp, (inv.pipes p P hp).handle]
  exact acc.wp_onDev id fun _ acc₀ => wp_mono (L.events inv.inv acc₀) fun _ _ done => done.1

/-- Asking whether transfers are pending. -/
lemma SysAccounts.wp_hasPending {E : Estate τ} (hp : s.pipes p = some P) (acc : SysAccounts E c s m)
    (result : Option Bool) : wp (Backend.asyncInPipeHasPendingTransfers (some p) result)
      (fun r s' => Tells E c m r.1.toList s') s := by
  cases result with
  | none =>
    simp only [Backend.asyncInPipeHasPendingTransfers, wp_bind, wp_pure]
    exact acc.wp_refuse _
  | some b =>
    simp only [Backend.asyncInPipeHasPendingTransfers, wp_bind, wp_loadPipe hp, wp_pure]
    exact acc.tells

lemma resetOutputs_transferError {out : Outputs} : (resetOutputs out).transferError.join = none := by
  unfold resetOutputs
  cases out.transferError with
  | none => rfl
  | some error => rfl

/-- Finishing a transfer hands out a copy of its error. -/
lemma Books.wp_finish (L : Books K) {out : Outputs} (inv : SysInv C s) (hp : s.pipes p = some P)
    (acc : SysAccounts L.estate c s m) :
    wp (B.asyncInPipeHandleFinishedTransfer (some p) out) (fun r s' =>
      Tells L.estate c m (r.1.toList ++ r.2.transferError.join.toList) s') s := by
  have nothing : ∀ {s' : Sys τ κ α γ}, SysAccounts L.estate c s' m → Tells L.estate c m
      ((none : Option Error).toList ++ (resetOutputs out).transferError.join.toList) s' := by
    intro s' acc'
    rw [resetOutputs_transferError]
    exact acc'.tells
  simp only [Backend.asyncInPipeHandleFinishedTransfer, wp_bind, wp_loadPipe hp]
  apply wp_ite
  · intro _
    rw [wp_pure]
    exact nothing acc
  intro pos
  have al : Allocated C.view s.dev P := by
    rcases inv.cases hp with ⟨pipeId, rfl, _⟩ | al
    · exact absurd rfl pos
    · exact al
  obtain ⟨rest, acc₀, write, _⟩ := acc.pick hp
  have mem := al.getD_mem al.ring.head_lt
  obtain ⟨T, hT, _⟩ := al.live _ mem
  simp only [wp_bind, al.wp_transferAt al.ring.head_lt, onDev, wp_zoom]
  apply wp_mono ((C.pending inv.inv hT).and (L.pending inv.inv hT acc₀))
  rintro b d₁ ⟨⟨inv₁, le₁, poll, T₁, area₁, rfl, pend₁, transfers₁⟩, acc₁⟩
  obtain ⟨after₁, al₁, _⟩ := After.poll hp al mem hT inv₁ le₁ (C.poll poll).queueOps area₁ pend₁ transfers₁
  apply wp_ite
  · intro _
    rw [wp_pure]
    refine nothing (write _ _ P ?_ acc₁)
    show s.pipes = _
    rw [← hp, Function.update_eq_self]
  intro idle
  rw [Bool.not_eq_true] at idle
  have hT₁ : d₁.transfers (P.transfers.getD P.nextFinish 0) = some T₁ := by
    rw [transfers₁, Function.update_self]
  simp only [wp_bind, wp_zoom]
  apply wp_mono ((C.getResults inv₁ hT₁ idle).and
    (L.getResults inv₁ hT₁ idle acc₁ resetOutputs_transferError))
  rintro ⟨error, outr⟩ d₂ ⟨⟨rfl, _, inv₂, le₂, transfers₂, calls₂, _⟩, sound, acc₂⟩
  have al₂ := al₁.finished pos hT₁ idle le₂ transfers₂ calls₂
  have told : SysAccounts L.estate c
      { s with pipes := Function.update s.pipes p (some P.finished), dev := d₂ }
      (m + errorBlocks outr.transferError.join) := by
    refine write _ _ P.finished rfl (acc₂.of_eq ?_)
    show _ = _ + rest + pipeBlocks p P
    abel
  have tells : ∀ {s' : Sys τ κ α γ},
      SysAccounts L.estate c s' (m + errorBlocks outr.transferError.join) →
        Tells L.estate c m (outr.transferError.join.toList) s' := by
    intro s' acc'
    refine ⟨fun e mem => sound e (Option.mem_toList.mp mem), ?_⟩
    rwa [blocksOf_toList]
  simp only [storePipe, wp_bind, wp_modify]
  apply wp_ite
  · intro _
    simp only [wp_bind, wp_pure]
    have lt : P.finished.pendingCount < P.finished.transferCount := by
      have le := al.ring.count_le
      show P.pendingCount - 1 < P.transferCount
      omega
    have next := L.wp_submitNextTransfer (p := p) inv₂ (Function.update_self ..) al₂ lt told
    exact wp_mono next fun _ s₃ acc₃ => tells acc₃
  · intro _
    rw [wp_pure]
    exact tells told

/-- Cancelling hands out the first error of the backend. -/
lemma Books.wp_cancel (L : Books K) (inv : SysInv C s) (hp : s.pipes p = some P)
    (adm : B.linux = true ∨ P.transferArray ≠ none) (acc : SysAccounts L.estate c s m) :
    wp (B.asyncInPipeCancelTransfers (some p)) (fun r s' => Tells L.estate c m r.toList s') s := by
  have cancel : ∀ {s₁ : Sys τ κ α γ} {i : Nat}, Cancelled C s p P s₁ → SysAccounts L.estate c s₁ m →
      Allocated C.view s.dev P → i < P.transferCount →
      wp (onDev (B.asyncInTransferCancel (some (P.transfers.getD i 0))))
        (fun r s₂ => Cancelled C s p P s₂ ∧ Tells L.estate c m r.toList s₂) s₁ := by
    intro s₁ i cancelled acc₁ al lt
    have mem := al.getD_mem lt
    obtain ⟨T, hT, _⟩ := al.live _ mem
    have hT₁ : s₁.dev.transfers (P.transfers.getD i 0) = some T := by rw [cancelled.transfers, hT]
    have told : wp (onDev (B.asyncInTransferCancel (some (P.transfers.getD i 0))))
        (fun r s₂ => Tells L.estate c m r.toList s₂) s₁ :=
      acc₁.wp_onDev id fun _ acc₀ => L.cancel hT₁ acc₀
    refine wp.and ?_ told
    rw [onDev, wp_zoom]
    exact cancelled.wp_cancel al mem
  have stored : SysAccounts L.estate c { s with
      pipes := Function.update s.pipes p (some { P with endlessTransfersEnabled := false }) } m :=
    acc.store hp rfl
  simp only [Backend.asyncInPipeCancelTransfers, wp_bind, wp_loadPipe hp, storePipe, wp_modify]
  apply wp_ite
  · intro _
    simp only [wp_bind]
    apply wp_forUntil fun _ _ s₁ => Cancelled C s p P s₁ ∧ SysAccounts L.estate c s₁ m
    · rintro i _ s₁ _ lt ⟨cancelled, acc₁⟩
      rw [Nat.zero_add] at lt
      rcases inv.cases hp with ⟨_, rfl, _⟩ | al
      · exact absurd lt (Nat.not_lt_zero i)
      simp only [wp_bind, al.wp_transferAt lt, wp_pure]
      apply wp_mono (cancel cancelled acc₁ al lt)
      rintro r s₂ ⟨cancelled₂, told⟩
      cases r with
      | none => exact ⟨cancelled₂, told.2.of_eq (by simp [blocksOf])⟩
      | some e => exact told
    · rintro _ s₁ ⟨_, acc₁⟩
      rw [wp_pure]
      exact acc₁.tells
    · exact ⟨Cancelled.store inv.inv, stored⟩
  · intro other
    have al : Allocated C.view s.dev P :=
      inv.allocated hp (adm.resolve_left other)
    simp only [wp_bind, al.wp_transferAt al.pos]
    apply wp_mono (cancel (Cancelled.store inv.inv) stored al al.pos)
    exact fun _ _ told => told.2

/-- Closing takes the pipe, its array and its transfers out of the account; a transfer that is pending
stays in it. -/
lemma Books.wp_close (L : Books K) (inv : SysInv C s) (hp : s.pipes p = some P)
    (acc : SysAccounts L.estate c s m) :
    wp (B.asyncInPipeClose (some p)) (fun _ s' => SysAccounts L.estate c s' m) s := by
  obtain ⟨rest, acc₀, _, remove⟩ := acc.pick hp
  -- what is left of the pipe after its array is the struct
  have array : wp (B.asyncInTransferArrayFree P.transferArray P.transferCount)
      (fun _ d' => Accounts L.estate c d' (m + rest + {.heap p})) s.dev := by
    rcases inv.cases hp with ⟨pipeId, rfl, _⟩ | al
    · rw [Pipe.opened, Backend.asyncInTransferArrayFree, wp_pure]
      exact acc₀.of_eq (by simp [pipeBlocks, Pipe.opened])
    · obtain ⟨l, array⟩ := al.array
      have reduce : (P.transfers.map some).reduceOption = P.transfers := reduceOption_map_some
      have freed : wp (B.asyncInTransferArrayFree (some ⟨l, P.transfers.map some⟩)
          (P.transfers.map some).length)
          (fun _ d' => Accounts L.estate c d' (m + rest + {.heap p})) s.dev := by
        apply L.wp_arrayFree inv.inv
        · rw [reduce]
          exact al.nodup
        · rw [reduce]
          intro t mem
          obtain ⟨T, hT, _⟩ := al.live t mem
          exact ⟨T, hT⟩
        · refine acc₀.of_eq ?_
          simp only [pipeBlocks, array, Option.map_some, Option.toList_some, Multiset.coe_singleton]
          abel
      rwa [List.length_map, ← al.count, ← array] at freed
  simp only [Backend.asyncInPipeClose, wp_bind, wp_loadPipe hp, onDev, wp_zoom]
  apply wp_mono array
  intro _ d₁ acc₁
  simp only [freePipe, wp_bind]
  refine (wp_loadPipe (P := P) ?_).mpr ?_
  · exact hp
  simp only [wp_modify, onDev, wp_zoom]
  apply wp_mono acc₁.wp_free
  exact fun _ d₂ acc₂ => remove _ _ rfl acc₂

/-! ## Runs -/

/-- The errors that a call handed out. -/
def Reply.errors : Reply → List Error
  | .unused => []
  | .created error _ => error.toList
  | .done error => error.toList
  | .pending error _ => error.toList
  | .finished error out => error.toList ++ out.transferError.join.toList
  | .closed => []

/-- One call of the interface. -/
lemma Books.wp_exec (L : Books K) (inv : SysInv C s) (e : Event) (adm : B.Admits e s)
    (op : ∀ p, e.pipe? = some p → ∃ P, s.pipes p = some P) (acc : SysAccounts L.estate c s m) :
    wp (B.exec e) (fun r s' => Tells L.estate c m r.errors s') s := by
  cases e with
  | create pipeId =>
    simp only [Backend.exec, wp_bind, wp_get, inv.handle, wp_pure]
    exact L.wp_createPipe inv acc
  | allocateTransfers p n size =>
    obtain ⟨P, hp⟩ := op p rfl
    simp only [Backend.exec, wp_bind, wp_pure]
    exact L.wp_allocate inv hp acc
  | startEndlessTransfers p =>
    obtain ⟨P, hp⟩ := op p rfl
    simp only [Backend.exec, wp_bind, wp_pure]
    exact L.wp_start inv hp acc
  | handleEvents p =>
    obtain ⟨P, hp⟩ := op p rfl
    simp only [Backend.exec, wp_bind, wp_pure]
    exact L.wp_handleEvents inv hp acc
  | hasPendingTransfers p result =>
    obtain ⟨P, hp⟩ := op p rfl
    simp only [Backend.exec, wp_bind, wp_pure]
    exact acc.wp_hasPending hp result
  | handleFinishedTransfer p out =>
    obtain ⟨P, hp⟩ := op p rfl
    simp only [Backend.exec, wp_bind, wp_pure]
    exact L.wp_finish inv hp acc
  | cancelTransfers p =>
    obtain ⟨P, hp⟩ := op p rfl
    simp only [Backend.exec, wp_bind, wp_pure]
    exact L.wp_cancel inv hp (adm.imp id fun all => all p P rfl hp) acc
  | close p =>
    obtain ⟨P, hp⟩ := op p rfl
    simp only [Backend.exec, wp_bind, wp_pure]
    exact wp_mono (L.wp_close inv hp acc) fun _ _ => SysAccounts.tells

/-- What a call that returned handed out is what the account lost. -/
lemma Books.step_tells (L : Books K) {e : Event} {r : Reply} (inv : SysInv C s)
    (acc : SysAccounts L.estate c s m) (run : B.step e s = .ok (r, s')) :
    Tells L.estate c m r.errors s' := by
  have adm : B.Admits e s := by
    by_contra forbidden
    rw [step_fault forbidden] at run
    cases run
  cases about : e.pipe? with
  | none =>
    have exec : B.step e s = B.exec e s := by
      simp only [Backend.step, about]
      rw [bind_of_ok get_ok]
    rw [exec] at run
    refine (L.wp_exec inv e adm ?_ acc).elim run
    intro p eq
    rw [about] at eq
    cases eq
  | some p =>
    cases hp : s.pipes p with
    | none =>
      rw [step_unused hp about] at run
      cases run
      exact acc.tells
    | some P =>
      rw [step_eq_exec hp about] at run
      refine (L.wp_exec inv e adm ?_ acc).elim run
      intro q eq
      rw [about] at eq
      cases eq
      exact ⟨P, hp⟩

/-- The errors that the calls of a run handed out. -/
def errorsOf (rs : List Reply) : List Error := rs.flatMap Reply.errors

/-- After a run, what is allocated belongs to a pipe, to a transfer or to an error that was handed out. -/
lemma Books.run_tells (L : Books K) {es : List Event} {rs : List Reply} (inv : SysInv C s)
    (acc : SysAccounts L.estate c s m) (run : Machine.run B.step es s = .ok (rs, s')) :
    Tells L.estate c m (errorsOf rs) s' := by
  induction es generalizing s rs m with
  | nil =>
    cases run
    exact acc.tells
  | cons e es ih =>
    obtain ⟨r, t, rs', first, rest, rfl⟩ := Machine.run_cons_ok run
    obtain ⟨sound, acc₁⟩ := L.step_tells inv acc first
    obtain ⟨sound', acc'⟩ := ih ((step_result inv first).sysInv inv) acc₁ rest
    have split : errorsOf (r :: rs') = r.errors ++ errorsOf rs' := List.flatMap_cons ..
    rw [split]
    refine ⟨?_, acc'.of_eq ?_⟩
    · intro error mem
      rcases List.mem_append.mp mem with mem | mem
      · exact sound error mem
      · exact sound' error mem
    · simp only [blocksOf, List.map_append, List.sum_append]
      abel

/-- On a fresh handle nothing was allocated since. -/
lemma Sys.Fresh.accounts {E : Estate τ} (fresh : s.Fresh h) :
    SysAccounts E s.dev.heap.calls s 0 := by
  refine ⟨0, .empty fresh.pipes, ?_, 0, .empty fresh.transfers, ?_⟩
  · intro t T hT
    rw [fresh.transfers t] at hT
    cases hT
  · exact Heap.OwnsSince.start

/-! ## Closing -/

/-- A transfer that was not freed has its blocks. -/
lemma SysAccounts.alive {s₀ : Sys τ κ α γ} (acc : SysAccounts E s₀.dev.heap.calls s m) {t : Addr}
    {T : τ} (hT : s.dev.transfers t = some T) {l : Loc} (mem : l ∈ E.blocks t T) :
    Alive s₀.dev.heap s.dev.heap l := by
  obtain ⟨_, acc, _⟩ := acc.onDev
  obtain ⟨_, own, _⟩ := acc.pick hT
  exact OwnsSince.alive own (Multiset.mem_add.mpr (.inr mem))

/-- What closing the pipe `P` at `p` does to the memory that was allocated since `s₀`: the blocks of the
pipe and of its transfers that are not pending are freed once and nothing else is, and the transfers that
are left have their blocks. -/
structure ClosesBlocks (v : View τ) (s₀ s : Sys τ κ α γ) (p : Addr) (P : Pipe) (s' : Sys τ κ α γ) :
    Prop where
  frees : Frees (closeBlocks v s.dev.transfers p P) s.dev.heap s'.dev.heap
  once : (closeBlocks v s.dev.transfers p P).Nodup
  left : ∀ t T, s'.dev.transfers t = some T → ∀ l ∈ v.blocks t T,
    Alive s₀.dev.heap s'.dev.heap l ∧ l ∉ closeBlocks v s.dev.transfers p P

lemma Books.closesBlocks (L : Books K) {s₀ : Sys τ κ α γ} {r : Reply} (inv : SysInv C s)
    (acc : SysAccounts L.estate s₀.dev.heap.calls s m) (hp : s.pipes p = some P)
    (step : B.step (.close p) s = .ok (r, s')) : ClosesBlocks C.view s₀ s p P s' := by
  have acc' := (L.step_tells inv acc step).2
  have result := step_result inv step
  cases result with
  | unused about closed => exact absurd closed (Event.used hp rfl about)
  | close hq closed =>
    rw [hp] at hq
    cases hq
    obtain ⟨_, ⟨_, _, own⟩, _⟩ := acc.onDev
    obtain ⟨b, ofPipes, sound, transfers, ofTransfers, own'⟩ := acc'
    have split := OwnsSince.balance own.2 closed.frees own'
    have nodup := OwnsSince.nodup own.2
    rw [split, Multiset.nodup_add] at nodup
    refine ⟨closed.frees, nodup.2.1, ?_⟩
    intro t T hT l mem
    obtain ⟨rest, eq, _⟩ := ofTransfers.pick hT
    have held : l ∈ m + blocksOf (Reply.errors .closed) + b + transfers := by
      rw [eq]
      exact Multiset.mem_add.mpr (.inr (Multiset.mem_add.mpr (.inr mem)))
    exact ⟨OwnsSince.alive own' held, fun mem' => Multiset.disjoint_left.mp nodup.2.2 held mem'⟩

namespace ClosesBlocks

variable {v : View τ} {s₀ : Sys τ κ α γ} {t : Addr} {T : τ} {l : Loc}

lemma freed_once (closes : ClosesBlocks v s₀ s p P s') (mem : l ∈ closeBlocks v s.dev.transfers p P) :
    s'.dev.heap.freeCount l = s.dev.heap.freeCount l + 1 := by
  rw [closes.frees.freeCount, Multiset.count_eq_one_of_mem closes.once mem]

/-- The blocks of the pipe are freed once. -/
lemma pipe (closes : ClosesBlocks v s₀ s p P s') (mem : l ∈ pipeBlocks p P) :
    s'.dev.heap.freeCount l = s.dev.heap.freeCount l + 1 :=
  closes.freed_once (Multiset.mem_add.mpr (.inl mem))

/-- The blocks of a transfer that is not pending are freed once. -/
lemma idle (closes : ClosesBlocks v s₀ s p P s') (inPipe : t ∈ P.transfers)
    (hT : s.dev.transfers t = some T) (idle : v.pending T = false) (mem : l ∈ v.blocks t T) :
    s'.dev.heap.freeCount l = s.dev.heap.freeCount l + 1 := by
  have one : v.blocks t T ∈ P.transfers.map fun t => (s.dev.transfers t).elim 0 (v.releases t) := by
    refine List.mem_map.mpr ⟨t, inPipe, ?_⟩
    rw [hT, Option.elim_some, View.releases, idle, if_neg Bool.false_ne_true]
  have part := List.le_sum_of_mem one
  exact closes.freed_once (Multiset.mem_add.mpr (.inr (Multiset.mem_of_le part mem)))

/-- The blocks of a transfer that is left are not freed. -/
lemma unfreed (closes : ClosesBlocks v s₀ s p P s') (hT : s'.dev.transfers t = some T)
    (mem : l ∈ v.blocks t T) : s'.dev.heap.freeCount l = s.dev.heap.freeCount l := by
  rw [closes.frees.freeCount, Multiset.count_eq_zero.mpr (closes.left t T hT l mem).2, Nat.add_zero]

end ClosesBlocks

end Libusbp
