import Mathlib.Data.List.Count
import Mathlib.Logic.Equiv.Basic
import Mathlib.Tactic.Common

/-!
# Objects with one owner

Objects are made, used, and in the end freed, or released to somebody who is not considered here. While
an object is neither, exactly one of the owners `ι` has it (`SingleOwner`). Owners may swap what they
have (`SingleOwner.comp`), take a new object (`SingleOwner.make`) and part with one
(`SingleOwner.part`).
-/

/-- What happens to an object. -/
inductive ObjectEvent where
  | made (o : Nat)
  | used (o : Nat)
  | freed (o : Nat)
  | released (o : Nat)
deriving DecidableEq, Repr

/-- An object is live from the time when it is made until it is freed or released. -/
def isLive (log : List ObjectEvent) (o : Nat) : Bool :=
  .made o ∈ log ∧ .freed o ∉ log ∧ .released o ∉ log

lemma isLive_iff {log : List ObjectEvent} {o : Nat} :
    isLive log o = true ↔ .made o ∈ log ∧ .freed o ∉ log ∧ .released o ∉ log := by
  simp only [isLive, decide_eq_true_eq]

/-- The number of times that an object was freed or released. -/
def partings (log : List ObjectEvent) (o : Nat) : Nat :=
  log.count (.freed o) + log.count (.released o)

/-- Every object that was made has exactly one owner, or it was freed or released, exactly once. -/
structure SingleOwner {ι : Type} (own : ι → Option Nat) (next : Nat) (log : List ObjectEvent) :
    Prop where
  unique : ∀ i j o, own i = some o → own j = some o → i = j
  live : ∀ i o, own i = some o → isLive log o = true
  settled : ∀ o, .made o ∈ log → (∀ i, own i ≠ some o) → partings log o = 1
  once : ∀ o, log.count (.made o) ≤ 1
  fresh : ∀ o, next ≤ o → .made o ∉ log ∧ partings log o = 0

namespace SingleOwner

variable {ι : Type} {own : ι → Option Nat} {next : Nat} {log : List ObjectEvent}

/-- At the start there is nothing to own. -/
lemma empty : SingleOwner (fun _ : ι => none) 0 [] where
  unique := by rintro _ _ _ ⟨⟩
  live := by rintro _ _ ⟨⟩
  settled := by rintro _ ⟨⟩
  once _ := Nat.zero_le _
  fresh _ _ := ⟨List.not_mem_nil, rfl⟩

/-- The owners swap what they have. -/
lemma comp (h : SingleOwner own next log) (e : ι ≃ ι) : SingleOwner (own ∘ e) next log where
  unique i j o hi hj := e.injective (h.unique _ _ o hi hj)
  live i := h.live (e i)
  settled o mem none := h.settled o mem fun i => by simpa using none (e.symm i)
  once := h.once
  fresh := h.fresh

/-- An owner uses what it has. -/
lemma use (h : SingleOwner own next log) (o : Nat) : SingleOwner own next (.used o :: log) where
  unique := h.unique
  live i q hq := by simpa [isLive] using h.live i q hq
  settled q mem none := by simpa [partings] using h.settled q (by simpa using mem) none
  once q := by simpa using h.once q
  fresh q le := by simpa [partings] using h.fresh q le

variable [DecidableEq ι]

/-- An owner that has nothing takes a new object. -/
lemma make (h : SingleOwner own next log) {i : ι} (empty : own i = none) :
    SingleOwner (Function.update own i (some next)) (next + 1) (.made next :: log) where
  unique := by
    have apart : ∀ j, own j ≠ some next := fun j hj =>
      (h.fresh next (Nat.le_refl _)).1 (isLive_iff.mp (h.live j next hj)).1
    intro j k o hj hk
    rw [Function.update_apply] at hj hk
    split_ifs at hj hk with ej ek
    · rw [ej, ek]
    · cases hj
      exact absurd hk (apart k)
    · cases hk
      exact absurd hj (apart j)
    · exact h.unique j k o hj hk
  live := by
    intro j o hj
    rw [Function.update_apply] at hj
    split_ifs at hj with ej
    · cases hj
      have new := (h.fresh next (Nat.le_refl _)).2
      simp only [partings, Nat.add_eq_zero_iff, List.count_eq_zero] at new
      simpa [isLive] using new
    · simpa [isLive_iff] using (isLive_iff.mp (h.live j o hj)).imp .inr id
  settled := by
    intro o mem none
    have old : .made o ∈ log := by
      rcases List.mem_cons.mp mem with new | old
      · cases new
        exact absurd (by simp) (none i)
      · exact old
    have unowned : ∀ j, own j ≠ some o := by
      intro j hj
      have ne : j ≠ i := by
        rintro rfl
        rw [empty] at hj
        cases hj
      exact none j (by rwa [Function.update_of_ne ne])
    simpa [partings] using h.settled o old unowned
  once := by
    intro o
    rw [List.count_cons]
    by_cases ho : o = next
    · subst ho
      simp [List.count_eq_zero_of_not_mem (h.fresh o (Nat.le_refl _)).1]
    · have := h.once o
      simpa [Ne.symm ho] using this
  fresh := by
    intro o le
    obtain ⟨unmade, none⟩ := h.fresh o (by omega)
    have ne : o ≠ next := by omega
    exact ⟨by simp [unmade, ne], by simpa [partings] using none⟩

/-- An owner parts with what it has, which is freed or released. -/
lemma part (h : SingleOwner own next log) {i : ι} {o : Nat} (has : own i = some o)
    {e : ObjectEvent} (parting : e = .freed o ∨ e = .released o) :
    SingleOwner (Function.update own i none) next (e :: log) where
  unique := by
    intro j k q hj hk
    rw [Function.update_apply] at hj hk
    split_ifs at hj hk
    exact h.unique j k q hj hk
  live := by
    intro j q hj
    rw [Function.update_apply] at hj
    split_ifs at hj with ej
    have ne : q ≠ o := by
      rintro rfl
      exact ej (h.unique j i q hj has)
    obtain ⟨made, unfreed, unreleased⟩ := isLive_iff.mp (h.live j q hj)
    rcases parting with rfl | rfl
    all_goals exact isLive_iff.mpr (by simp [made, unfreed, unreleased, ne])
  settled := by
    intro q mem none
    have old : .made q ∈ log := by
      rcases parting with rfl | rfl
      all_goals simpa using mem
    by_cases same : q = o
    · -- the object was live until now
      subst same
      obtain ⟨_, unfreed, unreleased⟩ := isLive_iff.mp (h.live i q has)
      rcases parting with rfl | rfl
      all_goals simp [partings, List.count_eq_zero_of_not_mem unfreed,
        List.count_eq_zero_of_not_mem unreleased]
    · have unowned : ∀ j, own j ≠ some q := by
        intro j hj
        have ne : j ≠ i := by
          rintro rfl
          rw [has] at hj
          exact same (Option.some.inj hj).symm
        exact none j (by rwa [Function.update_of_ne ne])
      have settled := h.settled q old unowned
      rcases parting with rfl | rfl
      all_goals simpa [partings, Ne.symm same] using settled
  once := by
    intro q
    rcases parting with rfl | rfl
    all_goals simpa using h.once q
  fresh := by
    intro q le
    obtain ⟨unmade, none⟩ := h.fresh q le
    have ne : o ≠ q := by
      rintro rfl
      exact unmade (isLive_iff.mp (h.live i o has)).1
    rcases parting with rfl | rfl
    all_goals exact ⟨by simpa using unmade, by simpa [partings, ne] using none⟩

end SingleOwner
