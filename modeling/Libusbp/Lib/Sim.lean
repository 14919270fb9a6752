import Libusbp.Lib.Machine

/-!
# Simulation between programs

`Sim R x y` says that whatever `x` does from a state, `y` does with the same value from every related
state, and leaves a related state behind. `Respects R x` is the case of one program: related states
cannot be told apart by running it. `Within R x` says that `x` takes a state only to states related to
it. The rules follow the structure of programs, and `Respects.run` carries them over runs of a
machine.
-/

namespace Prog

variable {φ σ δ ε α β : Type} {R : σ → σ → Prop}

/-- What `x` does from a state, `y` does from every related state. -/
def Sim (R : σ → σ → Prop) (x y : Prog φ σ α) : Prop :=
  ∀ s t a s', R s t → x s = .ok (a, s') → ∃ t', y t = .ok (a, t') ∧ R s' t'

/-- Related states cannot be told apart by running `x`. -/
def Respects (R : σ → σ → Prop) (x : Prog φ σ α) : Prop := Sim R x x

/-- The rule for a sequence, with what is known of the value in between. -/
lemma Sim.bind_of {x y : Prog φ σ α} {f g : α → Prog φ σ β} (hx : Sim R x y)
    (hf : ∀ a s t s', R s t → x s = .ok (a, s') → Sim R (f a) (g a)) :
    Sim R (x >>= f) (y >>= g) := by
  intro s t b s'' related run
  obtain ⟨a, s', hxs, hfs⟩ := bind_ok run
  obtain ⟨t', hyt, related'⟩ := hx s t a s' related hxs
  obtain ⟨t'', hgt, related''⟩ := hf a s t s' related hxs s' t' b s'' related' hfs
  exact ⟨t'', bind_eq_ok hyt hgt, related''⟩

/-- Reading the whole state, which may tell related states apart. -/
lemma Sim.get {f g : σ → Prog φ σ β} (hf : ∀ s t, R s t → Sim R (f s) (g t)) :
    Sim R (get >>= f) (get >>= g) := by
  intro s t b s' related run
  obtain ⟨_, _, eq, hfs⟩ := bind_ok run
  cases eq
  obtain ⟨t', hgt, related'⟩ := hf s t related s t b s' related hfs
  exact ⟨t', bind_eq_ok rfl hgt, related'⟩

lemma Sim.set_bind {s₀ t₀ : σ} {x y : Prog φ σ β} (h : R s₀ t₀) (hx : Sim R x y) :
    Sim R (do set s₀; x) (do set t₀; y) := by
  intro s t b s' _ run
  obtain ⟨_, _, eq, hxs⟩ := bind_ok run
  cases eq
  obtain ⟨t', hyt, related'⟩ := hx s₀ t₀ b s' h hxs
  exact ⟨t', bind_eq_ok rfl hyt, related'⟩

lemma Sim.expect {f : φ} {o₁ o₂ : Option α} (h : ∀ a, o₁ = some a → o₂ = some a) :
    Sim R (Prog.expect f o₁) (Prog.expect f o₂) := by
  intro s t a s' related run
  cases o₁ with
  | none => cases run
  | some a₁ =>
    cases run
    rw [h a rfl]
    exact ⟨t, rfl, related⟩

namespace Respects

lemma pure {a : α} : Respects R (pure a : Prog φ σ α) := by
  intro s t b s' related run
  cases run
  exact ⟨t, rfl, related⟩

lemma throw {f : φ} : Respects R (throw f : Prog φ σ α) := by
  intro s t b s' _ run
  cases run

lemma bind {x : Prog φ σ α} {f : α → Prog φ σ β} (hx : Respects R x)
    (hf : ∀ a, Respects R (f a)) : Respects R (x >>= f) :=
  Sim.bind_of hx fun a _ _ _ _ _ => hf a

lemma modify {g : σ → σ} (h : ∀ s t, R s t → R (g s) (g t)) :
    Respects R (modify g : Prog φ σ PUnit) := by
  intro s t a s' related run
  cases run
  exact ⟨g t, rfl, h s t related⟩

lemma check {f : φ} {c : Bool} : Respects R (Prog.check f c) := by
  cases c with
  | true => exact pure
  | false => exact throw

lemma expect {f : φ} {o : Option α} : Respects R (Prog.expect f o) :=
  Sim.expect fun _ h => h

lemma ite {c : Prop} [Decidable c] {x y : Prog φ σ α} (hx : Respects R x) (hy : Respects R y) :
    Respects R (if c then x else y) := by
  split
  case isTrue => exact hx
  case isFalse => exact hy

/-- A program of a part of the state respects what the parts are related by. -/
lemma zoom {D : δ → δ → Prop} {get : σ → δ} {put : δ → σ → σ} {x : Prog φ δ α}
    (hx : Respects D x) (part : ∀ s t, R s t → D (get s) (get t))
    (whole : ∀ s t d e, R s t → D d e → R (put d s) (put e t)) :
    Respects R (Prog.zoom get put x) := by
  intro s t a s' related run
  cases hs : x (get s) with
  | error f =>
    simp only [Prog.zoom, hs] at run
    cases run
  | ok r =>
    obtain ⟨b, d⟩ := r
    simp only [Prog.zoom, hs] at run
    cases run
    obtain ⟨e, ht, related'⟩ := hx _ _ _ _ (part s t related) hs
    exact ⟨put e t, by simp only [Prog.zoom, ht], whole s t d e related related'⟩

lemma forUntil {body : Nat → α → Prog φ σ (Option ε × α)} (h : ∀ i a, Respects R (body i a))
    {i k : Nat} {a : α} : Respects R (Prog.forUntil body i k a) := by
  induction k generalizing i a with
  | zero => exact pure
  | succ k ih =>
    apply bind (h i a)
    rintro ⟨_ | e, a'⟩
    · exact ih
    · exact pure

lemma forRange {body : Nat → Prog φ σ Unit} (h : ∀ i, Respects R (body i)) {i k : Nat} :
    Respects R (Prog.forRange body i k) := by
  induction k generalizing i with
  | zero => exact pure
  | succ k ih =>
    apply bind (h i)
    intro _
    exact ih

lemma loop {endless : φ} {body : Prog φ σ (Option α)} (h : Respects R body) {k : Nat} :
    Respects R (Prog.loop endless body k) := by
  induction k with
  | zero => exact throw
  | succ k ih =>
    apply bind h
    intro r
    cases r with
    | none => exact ih
    | some a => exact pure

/-- A run of events that respect the relation gives the same replies from related states. -/
lemma run {ρ : Type} {step : ε → Prog φ σ ρ} {es : List ε}
    (h : ∀ e ∈ es, Respects R (step e)) : Respects R (Machine.run step es) := by
  induction es with
  | nil => exact pure
  | cons e es ih =>
    apply bind (h e List.mem_cons_self)
    intro r
    apply bind (ih fun e' mem => h e' (List.mem_cons_of_mem e mem))
    intro rs
    exact pure

end Respects

/-- Every state that `x` leaves behind is related to the one it was started in. -/
def Within (R : σ → σ → Prop) (x : Prog φ σ α) : Prop :=
  ∀ s a s', x s = .ok (a, s') → R s s'

namespace Within

variable (refl : ∀ s, R s s) (trans : ∀ s t u, R s t → R t u → R s u)

include refl in
lemma pure {a : α} : Within R (pure a : Prog φ σ α) := by
  intro s b s' run
  cases run
  exact refl s

include refl in
lemma get : Within R (get : Prog φ σ σ) := by
  intro s b s' run
  cases run
  exact refl s

include refl in
lemma expect {f : φ} {o : Option α} : Within R (Prog.expect f o) := by
  intro s b s' run
  cases o with
  | none => cases run
  | some a =>
    cases run
    exact refl s

lemma modify {g : σ → σ} (h : ∀ s, R s (g s)) : Within R (modify g : Prog φ σ PUnit) := by
  intro s a s' run
  cases run
  exact h s

include trans in
lemma bind {x : Prog φ σ α} {f : α → Prog φ σ β} (hx : Within R x) (hf : ∀ a, Within R (f a)) :
    Within R (x >>= f) := by
  intro s b s' run
  obtain ⟨a, t, hxs, hfs⟩ := bind_ok run
  exact trans s t s' (hx s a t hxs) (hf a t b s' hfs)

lemma ite {c : Prop} [Decidable c] {x y : Prog φ σ α} (hx : Within R x) (hy : Within R y) :
    Within R (if c then x else y) := by
  split
  case isTrue => exact hx
  case isFalse => exact hy

/-- A program of a part of the state takes the whole to a related one if it does so for the part. -/
lemma zoom {D : δ → δ → Prop} {get : σ → δ} {put : δ → σ → σ} {x : Prog φ δ α} (hx : Within D x)
    (whole : ∀ s d, D (get s) d → R s (put d s)) : Within R (Prog.zoom get put x) := by
  intro s a s' run
  cases hs : x (get s) with
  | error f =>
    simp only [Prog.zoom, hs] at run
    cases run
  | ok r =>
    obtain ⟨b, d⟩ := r
    simp only [Prog.zoom, hs] at run
    cases run
    exact whole s d (hx _ _ _ hs)

include refl trans in
lemma forRange {body : Nat → Prog φ σ Unit} (h : ∀ i, Within R (body i)) {i k : Nat} :
    Within R (Prog.forRange body i k) := by
  induction k generalizing i with
  | zero => exact pure refl
  | succ k ih =>
    apply bind trans (h i)
    intro _
    exact ih

end Within

end Prog
