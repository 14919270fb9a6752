import Libusbp.PipeContract

/-!
# The invariant of a backend

The backends keep one invariant, over what each of them stores in a transfer (`TransferSpec`): a
transfer is pending exactly while the operating system owns it, and its fields say what became of its
last submission. The history is `Harvested`: every submission that was left outstanding is completed
once, before the transfer is read out or submitted again.
-/

namespace Libusbp

open Prog Heap

variable {τ κ α γ : Type}

/-- What a backend stores in its transfers, and how it relates to the history. -/
structure TransferSpec (τ κ α γ : Type) where
  view : View τ
  /-- What holds of every transfer from its creation on. -/
  wf : Addr → τ → Prop
  /-- The transfers that the operating system owns. -/
  inFlight : κ → List Addr
  /-- Whether the answer to a submission leaves the transfer to the operating system. -/
  outstanding : α → Bool
  /-- What the fields of a transfer say about its last submission. -/
  fate : τ → Option (α × Option γ) → Prop
  /-- What holds of every completion. -/
  completion : γ → Prop
  pending_iff : ∀ {T last}, fate T last →
    (view.pending T = true ↔ ∃ a, last = some (a, none) ∧ outstanding a = true)

namespace TransferSpec

variable (spec : TransferSpec τ κ α γ)

/-- The last submission of the transfer is not complete yet. -/
def Outstanding (t : Addr) (calls : List (Call α γ)) : Prop :=
  ∃ a, lastSubmission t calls = some (a, none) ∧ spec.outstanding a = true

/-- Every submission that was left outstanding is completed exactly once, before its results are read
and before the transfer is submitted again, and nothing else is completed. -/
def Harvested : List (Call α γ) → Prop
  | [] => True
  | .submit t _ :: calls => ¬spec.Outstanding t calls ∧ Harvested calls
  | .complete t g :: calls => spec.Outstanding t calls ∧ spec.completion g ∧ Harvested calls
  | .results t _ :: calls => ¬spec.Outstanding t calls ∧ Harvested calls

lemma Harvested.completion {spec : TransferSpec τ κ α γ} {calls : List (Call α γ)} {t : Addr} {g : γ}
    (h : spec.Harvested calls) (mem : .complete t g ∈ calls) : spec.completion g := by
  induction calls with
  | nil => cases mem
  | cons c calls ih =>
    cases mem with
    | head => exact h.2.1
    | tail _ mem =>
      cases c with
      | submit u a => exact ih h.2 mem
      | complete u g' => exact ih h.2.2 mem
      | results u out => exact ih h.2 mem

end TransferSpec

/-- The invariant of the transfers and the operating system. -/
structure TransferInv (spec : TransferSpec τ κ α γ) (d : Dev τ κ α γ) : Prop where
  fresh : ∀ t T, d.transfers t = some T → t < d.heap.next
  callFresh : ∀ c ∈ d.calls, c.transfer < d.heap.next
  wf : ∀ t T, d.transfers t = some T → spec.wf t T
  fate : ∀ t T, d.transfers t = some T → spec.fate T (lastSubmission t d.calls)
  owned : ∀ t, t ∈ spec.inFlight d.kernel ↔
    ∃ T, d.transfers t = some T ∧ spec.view.pending T = true
  nodup : (spec.inFlight d.kernel).Nodup
  harvested : spec.Harvested d.calls

namespace TransferInv

variable {spec : TransferSpec τ κ α γ} {d d' : Dev τ κ α γ} {t : Addr} {T : τ}

/-- A device on which nothing was opened. -/
lemma init (transfers : ∀ t, d.transfers t = none) (calls : d.calls = [])
    (inFlight : spec.inFlight d.kernel = []) : TransferInv spec d where
  fresh := by
    intro t T hT
    rw [transfers t] at hT
    cases hT
  callFresh := by simp [calls]
  wf := by
    intro t T hT
    rw [transfers t] at hT
    cases hT
  fate := by
    intro t T hT
    rw [transfers t] at hT
    cases hT
  owned := by simp [inFlight, transfers]
  nodup := by
    rw [inFlight]
    exact List.nodup_nil
  harvested := by
    rw [calls]
    trivial

/-- A change of the heap, and of the kernel where no transfer is concerned. -/
lemma same {h : Heap} {k : κ} (inv : TransferInv spec d) (le : Le d.heap h)
    (inFlight : spec.inFlight k = spec.inFlight d.kernel) :
    TransferInv spec { d with heap := h, kernel := k } where
  fresh := fun t T hT => (inv.fresh t T hT).trans_le le.next
  callFresh := fun c mem => (inv.callFresh c mem).trans_le le.next
  wf := inv.wf
  fate := inv.fate
  owned := by
    intro t
    rw [← inv.owned t, ← inFlight]
  nodup := by
    show (spec.inFlight k).Nodup
    rw [inFlight]
    exact inv.nodup
  harvested := inv.harvested

lemma heap {h : Heap} (inv : TransferInv spec d) (le : Le d.heap h) :
    TransferInv spec { d with heap := h } :=
  inv.same le rfl

/-- The operating system owns a transfer exactly if it is pending. -/
lemma mem_inFlight (inv : TransferInv spec d) (hT : d.transfers t = some T) :
    t ∈ spec.inFlight d.kernel ↔ spec.view.pending T = true := by
  rw [inv.owned t]
  constructor
  · rintro ⟨T', hT', pend⟩
    rw [hT] at hT'
    cases hT'
    exact pend
  · exact fun pend => ⟨T, hT, pend⟩

lemma notMem_inFlight (inv : TransferInv spec d) (hT : d.transfers t = some T)
    (idle : spec.view.pending T = false) : t ∉ spec.inFlight d.kernel := by
  rw [inv.mem_inFlight hT, idle]
  exact Bool.false_ne_true

lemma outstanding_iff (inv : TransferInv spec d) (hT : d.transfers t = some T) :
    spec.Outstanding t d.calls ↔ spec.view.pending T = true :=
  (spec.pending_iff (inv.fate t T hT)).symm

/-- A transfer that is not pending has no outstanding submission. -/
lemma not_outstanding (inv : TransferInv spec d) (hT : d.transfers t = some T)
    (idle : spec.view.pending T = false) : ¬spec.Outstanding t d.calls := by
  rw [inv.outstanding_iff hT, idle]
  exact Bool.false_ne_true

/-- A change of the transfer `t` alone keeps the invariant if `t` keeps its part of it. -/
lemma write {T' : τ} (inv : TransferInv spec d) (le : Le d.heap d'.heap) (lt : t < d'.heap.next)
    (transfers : d'.transfers = Function.update d.transfers t (some T')) (wf : spec.wf t T')
    (calls : ∃ cs, d'.calls = cs ++ d.calls ∧ ∀ c ∈ cs, c.transfer = t)
    (harvested : spec.Harvested d'.calls) (fate : spec.fate T' (lastSubmission t d'.calls))
    (flight : ∀ u, u ≠ t → (u ∈ spec.inFlight d'.kernel ↔ u ∈ spec.inFlight d.kernel))
    (own : t ∈ spec.inFlight d'.kernel ↔ spec.view.pending T' = true)
    (nodup : (spec.inFlight d'.kernel).Nodup) : TransferInv spec d' := by
  obtain ⟨cs, grown, about⟩ := calls
  have last : ∀ u, u ≠ t → lastSubmission u d'.calls = lastSubmission u d.calls := by
    intro u ne
    rw [grown]
    exact lastSubmission_append fun c mem eq => ne (eq.symm.trans (about c mem))
  have other : ∀ {u T₀}, u ≠ t → d'.transfers u = some T₀ → d.transfers u = some T₀ := by
    intro u T₀ ne hT₀
    rwa [transfers, Function.update_of_ne ne] at hT₀
  have self : ∀ {T₀}, d'.transfers t = some T₀ → T₀ = T' := by
    intro T₀ hT₀
    rw [transfers, Function.update_self] at hT₀
    cases hT₀
    rfl
  -- `t` keeps each part of the invariant by its hypothesis, the other transfers keep what they had
  refine ⟨?_, ?_, ?_, ?_, ?_, nodup, harvested⟩
  · intro u T₀ hT₀
    by_cases e : u = t
    · rw [e]
      exact lt
    · exact (inv.fresh u T₀ (other e hT₀)).trans_le le.next
  · intro c mem
    rw [grown, List.mem_append] at mem
    cases mem with
    | inl mem =>
      rw [about c mem]
      exact lt
    | inr mem => exact (inv.callFresh c mem).trans_le le.next
  · intro u T₀ hT₀
    by_cases e : u = t
    · subst e
      rw [self hT₀]
      exact wf
    · exact inv.wf u T₀ (other e hT₀)
  · intro u T₀ hT₀
    by_cases e : u = t
    · subst e
      rw [self hT₀]
      exact fate
    · rw [last u e]
      exact inv.fate u T₀ (other e hT₀)
  · intro u
    by_cases e : u = t
    · subst e
      rw [own]
      constructor
      · exact fun pend => ⟨T', by rw [transfers, Function.update_self], pend⟩
      · rintro ⟨T₀, hT₀, pend⟩
        rwa [self hT₀] at pend
    · rw [flight u e, inv.owned u, transfers, Function.update_of_ne e]

/-- A change of the fields of a transfer that says the same about its last submission. -/
lemma modify {T' : τ} (inv : TransferInv spec d) (hT : d.transfers t = some T)
    (le : Le d.heap d'.heap) (transfers : d'.transfers = Function.update d.transfers t (some T'))
    (wf : spec.wf t T') (pending : spec.view.pending T' = spec.view.pending T)
    (fate : ∀ last, spec.fate T last → spec.fate T' last) (calls : d'.calls = d.calls)
    (flight : spec.inFlight d'.kernel = spec.inFlight d.kernel) : TransferInv spec d' := by
  apply inv.write le ((inv.fresh t T hT).trans_le le.next) transfers wf
  · exact ⟨[], calls, by simp⟩
  · rw [calls]
    exact inv.harvested
  · rw [calls]
    exact fate _ (inv.fate t T hT)
  · intro u _
    rw [flight]
  · rw [flight, pending]
    exact inv.mem_inFlight hT
  · rw [flight]
    exact inv.nodup

/-- A submission keeps the invariant, whether or not it leaves the transfer outstanding. -/
lemma submit {T' : τ} {a : α} (inv : TransferInv spec d) (hT : d.transfers t = some T)
    (idle : spec.view.pending T = false) (le : Le d.heap d'.heap)
    (transfers : d'.transfers = Function.update d.transfers t (some T')) (wf : spec.wf t T')
    (fate : spec.fate T' (some (a, none))) (calls : d'.calls = .submit t a :: d.calls)
    (flight : spec.inFlight d'.kernel = if spec.outstanding a then spec.inFlight d.kernel ++ [t]
      else spec.inFlight d.kernel) : TransferInv spec d' := by
  have out := inv.notMem_inFlight hT idle
  have pending : spec.view.pending T' = true ↔ spec.outstanding a = true := by
    rw [spec.pending_iff fate]
    constructor
    · rintro ⟨_, ⟨⟩, outstanding⟩
      exact outstanding
    · exact fun outstanding => ⟨a, rfl, outstanding⟩
  apply inv.write le ((inv.fresh t T hT).trans_le le.next) transfers wf
  · exact ⟨[_], calls, by simp [Call.transfer]⟩
  · rw [calls]
    exact ⟨inv.not_outstanding hT idle, inv.harvested⟩
  · rw [calls, lastSubmission_cons_submit]
    exact fate
  · intro u ne
    rw [flight]
    split
    · simp [ne]
    · exact Iff.rfl
  · rw [pending, flight]
    split
    case isTrue outstanding => simp [outstanding]
    case isFalse settled => exact iff_of_false out settled
  · rw [flight]
    split
    · rw [← List.concat_eq_append]
      exact inv.nodup.concat out
    · exact inv.nodup

/-- The completion of a pending transfer keeps the invariant. -/
lemma complete {T' : τ} {g : γ} (inv : TransferInv spec d) (hT : d.transfers t = some T)
    (pend : spec.view.pending T = true) (le : Le d.heap d'.heap)
    (transfers : d'.transfers = Function.update d.transfers t (some T')) (wf : spec.wf t T')
    (fate : ∀ a, spec.outstanding a = true → spec.fate T (some (a, none)) →
      spec.fate T' (some (a, some g)))
    (good : spec.completion g) (calls : d'.calls = .complete t g :: d.calls)
    (flight : spec.inFlight d'.kernel = (spec.inFlight d.kernel).erase t) :
    TransferInv spec d' := by
  obtain ⟨a, last, outstanding⟩ := (inv.outstanding_iff hT).mpr pend
  have old := inv.fate t T hT
  rw [last] at old
  have new := fate a outstanding old
  have idle : ¬spec.view.pending T' = true := by
    rw [spec.pending_iff new]
    rintro ⟨_, ⟨⟩, _⟩
  apply inv.write le ((inv.fresh t T hT).trans_le le.next) transfers wf
  · exact ⟨[_], calls, by simp [Call.transfer]⟩
  · rw [calls]
    exact ⟨⟨a, last, outstanding⟩, good, inv.harvested⟩
  · rw [calls, lastSubmission_cons_complete, last]
    exact new
  · intro u ne
    rw [flight]
    exact List.mem_erase_of_ne ne
  · rw [flight]
    exact iff_of_false inv.nodup.not_mem_erase idle
  · rw [flight]
    exact inv.nodup.erase t

/-- Reading out a transfer that is not pending changes nothing but the history. -/
lemma results {out : Outputs} {h : Heap} (inv : TransferInv spec d) (le : Le d.heap h)
    (hT : d.transfers t = some T) (idle : spec.view.pending T = false) :
    TransferInv spec { d with heap := h, calls := .results t out :: d.calls } where
  fresh := fun u U hU => (inv.fresh u U hU).trans_le le.next
  callFresh := by
    intro c mem
    cases mem with
    | head => exact (inv.fresh t T hT).trans_le le.next
    | tail _ mem => exact (inv.callFresh c mem).trans_le le.next
  wf := inv.wf
  fate := inv.fate
  owned := inv.owned
  nodup := inv.nodup
  harvested := ⟨inv.not_outstanding hT idle, inv.harvested⟩

/-- A transfer that is not pending may die. -/
lemma remove {h : Heap} {k : κ} (inv : TransferInv spec d) (hT : d.transfers t = some T)
    (idle : spec.view.pending T = false) (le : Le d.heap h)
    (inFlight : spec.inFlight k = spec.inFlight d.kernel) :
    TransferInv spec
      { d with heap := h, kernel := k, transfers := Function.update d.transfers t none } := by
  have alive : ∀ {u U}, Function.update d.transfers t none u = some U →
      d.transfers u = some U := by
    intro u U hU
    by_cases e : u = t
    · rw [e, Function.update_self] at hU
      cases hU
    · rwa [Function.update_of_ne e] at hU
  refine ⟨?_, ?_, ?_, ?_, ?_, ?_, inv.harvested⟩
  · exact fun u U hU => (inv.fresh u U (alive hU)).trans_le le.next
  · exact fun c mem => (inv.callFresh c mem).trans_le le.next
  · exact fun u U hU => inv.wf u U (alive hU)
  · exact fun u U hU => inv.fate u U (alive hU)
  · intro u
    show u ∈ spec.inFlight k ↔ _
    rw [inFlight, inv.owned u]
    constructor
    · rintro ⟨U, hU, pend⟩
      have ne : u ≠ t := by
        rintro rfl
        rw [hT] at hU
        cases hU
        exact absurd (pend.symm.trans idle) (by decide)
      exact ⟨U, by rw [← hU]; exact Function.update_of_ne ne _ _, pend⟩
    · rintro ⟨U, hU, pend⟩
      exact ⟨U, alive hU, pend⟩
  · show (spec.inFlight k).Nodup
    rw [inFlight]
    exact inv.nodup

/-- A transfer that was just created. -/
lemma create {T' : τ} (inv : TransferInv spec d) (le : Le d.heap d'.heap)
    (lt : t < d'.heap.next) (fresh : d.heap.next ≤ t)
    (transfers : d'.transfers = Function.update d.transfers t (some T')) (wf : spec.wf t T')
    (new : spec.fate T' none) (calls : d'.calls = d.calls)
    (inFlight : spec.inFlight d'.kernel = spec.inFlight d.kernel) : TransferInv spec d' := by
  have dead : ∀ T₀, d.transfers t ≠ some T₀ := fun T₀ hT₀ =>
    absurd (inv.fresh t T₀ hT₀) (Nat.not_lt.mpr fresh)
  have last : lastSubmission t d'.calls = none := by
    rw [calls]
    apply lastSubmission_eq_none
    rintro c mem rfl
    exact absurd (inv.callFresh c mem) (Nat.not_lt.mpr fresh)
  apply inv.write le lt transfers wf
  · exact ⟨[], calls, by simp⟩
  · rw [calls]
    exact inv.harvested
  · rw [last]
    exact new
  · intro u _
    rw [inFlight]
  · rw [inFlight, inv.owned t, spec.pending_iff new]
    constructor
    · rintro ⟨T₀, hT₀, _⟩
      exact absurd hT₀ (dead T₀)
    · rintro ⟨_, none, _⟩
      cases none
  · rw [inFlight]
    exact inv.nodup

end TransferInv

end Libusbp
