import Libusbp.Lib.Host

/-!
# Programs among references of further kinds

A program that takes references of the kinds `κ` can be run where references of the kinds `ι` are held
as well. `Host.among x` is the program `x` there: it sees the references of its own kinds and leaves the
others as they are. What it holds at its end, it holds there as well.
-/

namespace Entry

variable {R R' : Type}

/-- What an entry says about the values of `f`. -/
def pick (f : R → Option R') : Entry R → Option (Entry R')
  | .take r => (f r).map .take
  | .drop r => (f r).map .drop

lemma pick_take {f : R → Option R'} {e : Entry R} {r' : R'} :
    pick f e = some (.take r') ↔ ∃ r, e = .take r ∧ f r = some r' := by
  cases e with
  | take r => simp [pick]
  | drop r => simp [pick]

variable [DecidableEq R] [DecidableEq R']

/-- A part of a ledger balances to the same part of what is held. -/
lemma balance_pick {f : R → Option R'} {es : List (Entry R)} {m : Multiset R}
    (h : balance es = some m) : balance (es.filterMap (pick f)) = some (m.filterMap f) := by
  induction es generalizing m with
  | nil =>
    cases h
    rfl
  | cons e es ih =>
    cases e with
    | take r =>
      obtain ⟨m', hm, rfl⟩ := Option.map_eq_some_iff.mp h
      rw [add_comm, Multiset.singleton_add]
      cases hf : f r with
      | none =>
        rw [List.filterMap_cons_none (by simp [pick, hf]), Multiset.filterMap_cons_none _ _ hf]
        exact ih hm
      | some r' =>
        rw [List.filterMap_cons_some (b := .take r') (by simp [pick, hf]),
          Multiset.filterMap_cons_some _ _ _ hf, balance_take (ih hm), add_comm,
          Multiset.singleton_add]
    | drop r =>
      obtain ⟨m', hm, hd⟩ := Option.bind_eq_some_iff.mp h
      split at hd
      case isFalse => cases hd
      case isTrue mem =>
        cases hd
        have before := ih hm
        rw [← Multiset.cons_erase mem] at before
        cases hf : f r with
        | none =>
          rw [Multiset.filterMap_cons_none _ _ hf] at before
          rw [List.filterMap_cons_none (by simp [pick, hf])]
          exact before
        | some r' =>
          rw [Multiset.filterMap_cons_some _ _ _ hf] at before
          rw [List.filterMap_cons_some (b := .drop r') (by simp [pick, hf])]
          apply balance_drop
          rw [before, add_comm, Multiset.singleton_add]

/-- Two ledgers, one on top of the other. -/
lemma balance_append {es fs : List (Entry R)} {m n : Multiset R} (h : balance es = some m)
    (h' : balance fs = some n) : balance (es ++ fs) = some (m + n) := by
  induction es generalizing m with
  | nil =>
    cases h
    rw [zero_add]
    exact h'
  | cons e es ih =>
    cases e with
    | take r =>
      obtain ⟨m', hm, rfl⟩ := Option.map_eq_some_iff.mp h
      rw [List.cons_append, balance_take (ih hm), add_right_comm]
    | drop r =>
      obtain ⟨m', hm, hd⟩ := Option.bind_eq_some_iff.mp h
      split at hd
      case isFalse => cases hd
      case isTrue mem =>
        cases hd
        rw [List.cons_append]
        apply balance_drop
        have whole : m'.erase r + {r} = m' := by
          rw [add_comm, Multiset.singleton_add, Multiset.cons_erase mem]
        rw [ih hm, add_right_comm, whole]

/-- What a part of a ledger says about the only reference behind one of its own. -/
lemma count_pick {f : R → Option R'} {r : R} {r' : R'} (only : ∀ q, f q = some r' ↔ q = r)
    (es : List (Entry R)) : (es.filterMap (pick f)).count (.take r') = es.count (.take r) := by
  induction es with
  | nil => rfl
  | cons e es ih =>
    cases e with
    | take q =>
      cases hf : f q with
      | none =>
        have ne : q ≠ r := by
          intro eq
          rw [(only q).mpr eq] at hf
          cases hf
        rw [List.filterMap_cons_none (by simp [pick, hf]), List.count_cons_of_ne (by simp [ne]), ih]
      | some q' =>
        rw [List.filterMap_cons_some (b := .take q') (by simp [pick, hf]), List.count_cons,
          List.count_cons, ih]
        have same : q' = r' ↔ q = r := by rw [← only q, hf, Option.some_inj]
        simp [same]
    | drop q =>
      rw [List.count_cons_of_ne (by simp), ← ih]
      cases hf : f q with
      | none => rw [List.filterMap_cons_none (by simp [pick, hf])]
      | some q' =>
        rw [List.filterMap_cons_some (b := .drop q') (by simp [pick, hf]),
          List.count_cons_of_ne (by simp)]

omit [DecidableEq R] in
/-- A part of a ledger does not mention what is not behind it. -/
lemma count_pick_none {f : R → Option R'} {r' : R'} (never : ∀ q, f q ≠ some r')
    (es : List (Entry R)) : (es.filterMap (pick f)).count (.take r') = 0 := by
  apply List.count_eq_zero_of_not_mem
  intro mem
  obtain ⟨e, _, picked⟩ := List.mem_filterMap.mp mem
  obtain ⟨r, -, hf⟩ := pick_take.mp picked
  exact never r hf

end Entry

namespace Host

open Prog

variable {φ κ ι α : Type}

/-- A reference of one of the kinds `κ`. -/
def inner? : (κ ⊕ ι) × Nat → Option (κ × Nat)
  | (.inl k, n) => some (k, n)
  | (.inr _, _) => none

/-- A reference of one of the kinds `ι`. -/
def outer? : (κ ⊕ ι) × Nat → Option ((κ ⊕ ι) × Nat)
  | (.inl _, _) => none
  | (.inr i, n) => some (.inr i, n)

/-- A reference among references of further kinds. -/
def widen (r : κ × Nat) : (κ ⊕ ι) × Nat := (.inl r.1, r.2)

lemma inner?_widen (r : κ × Nat) : inner? (widen r : (κ ⊕ ι) × Nat) = some r := rfl

lemma inner?_eq_some {q : (κ ⊕ ι) × Nat} {r : κ × Nat} : inner? q = some r ↔ q = widen r := by
  obtain ⟨k | i, n⟩ := q
  · simp [inner?, widen, Prod.ext_iff]
  · simp [inner?, widen]

lemma outer?_eq_some {q r : (κ ⊕ ι) × Nat} : outer? q = some r ↔ q = r ∧ r.1.isRight := by
  obtain ⟨k | i, n⟩ := q
  · simp only [outer?, reduceCtorEq, false_iff]
    rintro ⟨rfl, right⟩
    cases right
  · simp only [outer?, Option.some_inj]
    exact ⟨fun eq => ⟨eq, eq ▸ rfl⟩, fun h => h.1⟩

/-- What a program sees that knows the kinds `κ` only. -/
def inner (s : Host (κ ⊕ ι)) : Host κ :=
  ⟨s.heap, s.next, s.refs.filterMap (Entry.pick inner?)⟩

/-- What such a program leaves, where the other references are as they were. -/
def around (t : Host κ) (s : Host (κ ⊕ ι)) : Host (κ ⊕ ι) :=
  ⟨t.heap, max s.next t.next,
    t.refs.filterMap (Entry.pick (some ∘ widen)) ++ s.refs.filterMap (Entry.pick outer?)⟩

/-- Run a program of the kinds `κ` where references of the kinds `ι` are held as well. -/
def among (x : Prog φ (Host κ) α) : Prog φ (Host (κ ⊕ ι)) α := zoom inner around x

end Host

namespace Holdings

open Host

variable {κ ι : Type}

/-- The part of what is held that has the kinds `κ`. -/
def inner (m : Holdings (κ ⊕ ι)) : Holdings κ := (m.1, m.2.filterMap inner?)

/-- The references of the other kinds. -/
def outer (m : Holdings (κ ⊕ ι)) : Multiset ((κ ⊕ ι) × Nat) := m.2.filterMap outer?

/-- What is held, among references of further kinds. -/
def widen (m : Holdings κ) : Holdings (κ ⊕ ι) := (m.1, m.2.map Host.widen)

lemma filterMap_add {α β : Type} (f : α → Option β) (m n : Multiset α) :
    (m + n).filterMap f = m.filterMap f + n.filterMap f := by
  induction m using Multiset.induction_on with
  | empty => simp
  | cons a m ih =>
    rw [Multiset.cons_add]
    cases hf : f a with
    | none => rw [Multiset.filterMap_cons_none _ _ hf, Multiset.filterMap_cons_none _ _ hf, ih]
    | some b =>
      rw [Multiset.filterMap_cons_some _ _ _ hf, Multiset.filterMap_cons_some _ _ _ hf, ih,
        Multiset.cons_add]

@[simp] lemma inner_add (m n : Holdings (κ ⊕ ι)) : inner (m + n) = inner m + inner n :=
  Prod.ext rfl (filterMap_add _ _ _)

@[simp] lemma outer_add (m n : Holdings (κ ⊕ ι)) : outer (m + n) = outer m + outer n :=
  filterMap_add _ _ _

@[simp] lemma inner_blocks (b : Multiset Loc) : inner ((b, 0) : Holdings (κ ⊕ ι)) = (b, 0) := rfl

@[simp] lemma outer_blocks (b : Multiset Loc) : outer ((b, 0) : Holdings (κ ⊕ ι)) = 0 := rfl

@[simp] lemma widen_blocks (b : Multiset Loc) : (widen (b, 0) : Holdings (κ ⊕ ι)) = (b, 0) := rfl

@[simp] lemma widen_zero : (widen 0 : Holdings (κ ⊕ ι)) = 0 := rfl

lemma widen_add (m n : Holdings κ) : (widen (m + n) : Holdings (κ ⊕ ι)) = widen m + widen n :=
  Prod.ext rfl (Multiset.map_add _ _ _)

@[simp] lemma inner_widen (m : Holdings κ) : inner (widen m : Holdings (κ ⊕ ι)) = m := by
  refine Prod.ext rfl ?_
  show (m.2.map Host.widen).filterMap inner? = m.2
  induction m.2 using Multiset.induction_on with
  | empty => rfl
  | cons r rs ih =>
    rw [Multiset.map_cons, Multiset.filterMap_cons_some inner? _ _ (inner?_widen r), ih]

@[simp] lemma outer_widen (m : Holdings κ) : outer (widen m : Holdings (κ ⊕ ι)) = 0 := by
  show (m.2.map Host.widen).filterMap outer? = 0
  induction m.2 using Multiset.induction_on with
  | empty => rfl
  | cons r rs ih => rw [Multiset.map_cons, Multiset.filterMap_cons_none _ _ rfl, ih]

/-- The two parts together. -/
lemma inner_add_outer (m : Holdings (κ ⊕ ι)) : (inner m).2.map Host.widen + outer m = m.2 := by
  show (m.2.filterMap inner?).map Host.widen + m.2.filterMap outer? = m.2
  induction m.2 using Multiset.induction_on with
  | empty => rfl
  | cons r rs ih =>
    obtain ⟨k | i, n⟩ := r
    · have kept : inner? ((.inl k, n) : (κ ⊕ ι) × Nat) = some (k, n) := rfl
      rw [Multiset.filterMap_cons_some inner? _ _ kept,
        Multiset.filterMap_cons_none (f := outer?) _ _ rfl, Multiset.map_cons, Multiset.cons_add, ih]
      rfl
    · have kept : outer? ((.inr i, n) : (κ ⊕ ι) × Nat) = some (.inr i, n) := rfl
      rw [Multiset.filterMap_cons_none (f := inner?) _ _ rfl,
        Multiset.filterMap_cons_some outer? _ _ kept, Multiset.add_cons, ih]

end Holdings

namespace Host

open Prog

variable {φ κ ι α : Type} [DecidableEq κ] [DecidableEq ι]

namespace Owns

variable {s : Host (κ ⊕ ι)} {t : Host κ} {m m' : Holdings (κ ⊕ ι)}

omit [DecidableEq κ] [DecidableEq ι] in
lemma mem_inner {k : κ} {n : Nat} :
    .take (k, n) ∈ s.inner.refs ↔ .take (.inl k, n) ∈ s.refs := by
  simp only [Host.inner, List.mem_filterMap, Entry.pick_take, inner?_eq_some]
  constructor
  · rintro ⟨_, mem, _, rfl, rfl⟩
    exact mem
  · exact fun mem => ⟨_, mem, _, rfl, rfl⟩

/-- A program that knows the kinds `κ` only holds its part. -/
lemma inner (own : s.Owns m) : s.inner.Owns (Holdings.inner m) where
  heap := own.heap
  refs := Entry.balance_pick own.refs
  fresh k n le := mem_inner.not.mpr (own.fresh (.inl k) n le)
  once r := by
    rw [Host.inner, Entry.count_pick (fun _ => inner?_eq_some)]
    exact own.once _

/-- What such a program holds at its end is held among the other references. -/
lemma around (own : s.Owns m') (own' : t.Owns (Holdings.inner m))
    (same : Holdings.outer m' = Holdings.outer m) : (t.around s).Owns m where
  heap := own'.heap
  refs := by
    have inside : Entry.balance (t.refs.filterMap (Entry.pick (some ∘ Host.widen (ι := ι)))) =
        some ((Holdings.inner m).2.filterMap (some ∘ Host.widen)) := Entry.balance_pick own'.refs
    have outside : Entry.balance (s.refs.filterMap (Entry.pick outer?)) =
        some (Holdings.outer m') := Entry.balance_pick own.refs
    rw [Host.around, Entry.balance_append inside outside, same, Multiset.filterMap_eq_map,
      Holdings.inner_add_outer]
  fresh k n le mem := by
    simp only [Host.around, List.mem_append, List.mem_filterMap, Entry.pick_take,
      outer?_eq_some] at mem
    rcases mem with ⟨_, mem, ⟨k', n'⟩, rfl, eq⟩ | ⟨_, mem, _, rfl, rfl, -⟩
    · cases eq
      exact own'.fresh k' n' (le_of_max_le_right le) mem
    · exact own.fresh k n (le_of_max_le_left le) mem
  once r := by
    rw [Host.around, List.count_append]
    obtain ⟨k | i, n⟩ := r
    · rw [Entry.count_pick (r := (k, n)) (by simp [Host.widen, Prod.ext_iff]),
        Entry.count_pick_none (by simp [outer?_eq_some])]
      exact own'.once _
    · rw [Entry.count_pick_none (by simp [Host.widen]),
        Entry.count_pick (r := (.inr i, n)) (by simp [outer?_eq_some]), zero_add]
      exact own.once _

end Owns

end Host
