import Mathlib.Order.Basic
import Mathlib.Tactic.Common

/-!
# Programs with state and faults

A program over a state `σ` either returns a value and the next state or stops with a fault, which
stands for leaving the defined behaviour of the source language. The weakest precondition `wp` is
the total one: `wp x Q s` says that `x` started in `s` returns, without a fault, and ends in `Q`.

The `wp_*` equations run straight-line code; `wp_mono` and `wp_zoom` are the rules of consequence
and of framing; `wp_forUntil`, `wp_forRange` and `wp_loop` are the loop rules.
-/

/-- A program over the state `σ` that may stop with a fault of type `φ`. -/
abbrev Prog (φ σ α : Type) : Type := StateT σ (Except φ) α

namespace Prog

variable {φ σ δ ε α β : Type}

/-- The program returns from `s`, without a fault, with a value and a state in `Q`. -/
def wp (x : Prog φ σ α) (Q : α → σ → Prop) (s : σ) : Prop :=
  ∃ a s', x s = .ok (a, s') ∧ Q a s'

/-- Stop with a fault unless the condition holds. -/
def check (f : φ) (c : Bool) : Prog φ σ Unit :=
  if c then pure () else throw f

/-- The value under an option, or a fault. -/
def expect (f : φ) : Option α → Prog φ σ α
  | none => throw f
  | some a => pure a

/-- Run a program of a part `δ` of the state. -/
def zoom (get : σ → δ) (put : δ → σ → σ) (x : Prog φ δ α) : Prog φ σ α := fun s =>
  match x (get s) with
  | .ok (a, d) => .ok (a, put d s)
  | .error f => .error f

/-- The loop `for (; error == NULL && i < n; i++)`: `k` rounds from `i`, left at the first error. -/
def forUntil (body : Nat → α → Prog φ σ (Option ε × α)) : Nat → Nat → α → Prog φ σ (Option ε × α)
  | _, 0, a => pure (none, a)
  | i, k + 1, a => do
    match ← body i a with
    | (some e, a') => pure (some e, a')
    | (none, a') => forUntil body (i + 1) k a'

/-- The loop `for (; i < n; i++)`: `k` rounds from `i`. -/
def forRange (body : Nat → Prog φ σ Unit) : Nat → Nat → Prog φ σ Unit
  | _, 0 => pure ()
  | i, k + 1 => do
    body i
    forRange body (i + 1) k

/-- The loop `while (true)`: a round that yields `none` goes on, one that yields a value leaves the
loop with it. Running out of rounds is the fault `endless`. -/
def loop (endless : φ) (body : Prog φ σ (Option α)) : Nat → Prog φ σ α
  | 0 => throw endless
  | k + 1 => do
    match ← body with
    | some a => pure a
    | none => loop endless body k

@[simp] lemma wp_pure {a : α} {Q : α → σ → Prop} {s : σ} :
    wp (pure a : Prog φ σ α) Q s ↔ Q a s := by
  constructor
  · rintro ⟨_, _, h, q⟩
    cases h
    exact q
  · exact fun q => ⟨a, s, rfl, q⟩

@[simp] lemma wp_throw {f : φ} {Q : α → σ → Prop} {s : σ} :
    wp (throw f : Prog φ σ α) Q s ↔ False := by
  constructor
  · rintro ⟨_, _, h, _⟩
    cases h
  · exact False.elim

/-- What follows a program that returned goes on from what it returned. -/
lemma bind_of_ok {x : Prog φ σ α} {f : α → Prog φ σ β} {s s' : σ} {a : α}
    (hx : x s = .ok (a, s')) : (x >>= f) s = f a s' := by
  simp only [bind, StateT.bind, Except.bind, hx]

/-- Nothing follows a program that stopped. -/
lemma bind_of_error {x : Prog φ σ α} {f : α → Prog φ σ β} {s : σ} {e : φ}
    (hx : x s = .error e) : (x >>= f) s = .error e := by
  simp only [bind, StateT.bind, Except.bind, hx]

lemma get_ok {s : σ} : (get : Prog φ σ σ) s = .ok (s, s) := rfl

@[simp] lemma wp_bind {x : Prog φ σ α} {f : α → Prog φ σ β} {Q : β → σ → Prop} {s : σ} :
    wp (x >>= f) Q s ↔ wp x (fun a s' => wp (f a) Q s') s := by
  constructor
  · rintro ⟨b, s'', h, q⟩
    cases hx : x s with
    | error e =>
      rw [bind_of_error hx] at h
      cases h
    | ok r =>
      obtain ⟨a, s'⟩ := r
      rw [bind_of_ok hx] at h
      exact ⟨a, s', hx, b, s'', h, q⟩
  · rintro ⟨a, s', hx, b, s'', hf, q⟩
    exact ⟨b, s'', (bind_of_ok hx).trans hf, q⟩

@[simp] lemma wp_map {x : Prog φ σ α} {f : α → β} {Q : β → σ → Prop} {s : σ} :
    wp (f <$> x) Q s ↔ wp x (fun a s' => Q (f a) s') s := by
  rw [← bind_pure_comp, wp_bind]
  simp only [wp_pure]

@[simp] lemma wp_get {Q : σ → σ → Prop} {s : σ} :
    wp (get : Prog φ σ σ) Q s ↔ Q s s := by
  constructor
  · rintro ⟨_, _, h, q⟩
    cases h
    exact q
  · exact fun q => ⟨s, s, rfl, q⟩

@[simp] lemma wp_set {t : σ} {Q : PUnit → σ → Prop} {s : σ} :
    wp (set t : Prog φ σ PUnit) Q s ↔ Q ⟨⟩ t := by
  constructor
  · rintro ⟨_, _, h, q⟩
    cases h
    exact q
  · exact fun q => ⟨⟨⟩, t, rfl, q⟩

@[simp] lemma wp_modify {g : σ → σ} {Q : PUnit → σ → Prop} {s : σ} :
    wp (modify g : Prog φ σ PUnit) Q s ↔ Q ⟨⟩ (g s) := by
  constructor
  · rintro ⟨_, _, h, q⟩
    cases h
    exact q
  · exact fun q => ⟨⟨⟩, g s, rfl, q⟩

@[simp] lemma wp_check {f : φ} {c : Bool} {Q : Unit → σ → Prop} {s : σ} :
    wp (check f c) Q s ↔ c = true ∧ Q () s := by
  cases c <;> simp [check]

@[simp] lemma wp_expect {f : φ} {o : Option α} {Q : α → σ → Prop} {s : σ} :
    wp (expect f o) Q s ↔ ∃ a, o = some a ∧ Q a s := by
  cases o <;> simp [expect]

@[simp] lemma wp_zoom {get : σ → δ} {put : δ → σ → σ} {x : Prog φ δ α} {Q : α → σ → Prop} {s : σ} :
    wp (zoom get put x) Q s ↔ wp x (fun a d => Q a (put d s)) (get s) := by
  constructor
  · rintro ⟨a, s', h, q⟩
    cases hx : x (get s) with
    | error e =>
      simp only [zoom, hx] at h
      cases h
    | ok r =>
      obtain ⟨b, d⟩ := r
      simp only [zoom, hx] at h
      cases h
      exact ⟨_, d, hx, q⟩
  · rintro ⟨a, d, hx, q⟩
    exact ⟨a, put d s, by simp only [zoom, hx], q⟩

/-- The two branches of a conditional. -/
lemma wp_ite {c : Prop} [Decidable c] {x y : Prog φ σ α} {Q : α → σ → Prop} {s : σ}
    (hx : c → wp x Q s) (hy : ¬c → wp y Q s) : wp (if c then x else y) Q s := by
  split
  case isTrue h => exact hx h
  case isFalse h => exact hy h

/-- The rule of consequence. -/
lemma wp_mono {x : Prog φ σ α} {P Q : α → σ → Prop} {s : σ}
    (h : wp x P s) (imp : ∀ a s', P a s' → Q a s') : wp x Q s := by
  obtain ⟨a, s', hx, p⟩ := h
  exact ⟨a, s', hx, imp a s' p⟩

/-- What a program is shown to do holds of what it did. -/
lemma wp.elim {x : Prog φ σ α} {Q : α → σ → Prop} {s s' : σ} {a : α}
    (h : wp x Q s) (hx : x s = .ok (a, s')) : Q a s' := by
  obtain ⟨_, _, hx', q⟩ := h
  rw [hx] at hx'
  cases hx'
  exact q

/-- What a program ends in, it ends in by its run. -/
lemma wp.run {x : Prog φ σ α} {Q : α → σ → Prop} {s : σ} (h : wp x Q s) :
    wp x (fun a s' => Q a s' ∧ x s = .ok (a, s')) s := by
  obtain ⟨a, s', hx, q⟩ := h
  exact ⟨a, s', hx, q, hx⟩

/-- Two facts about one run are one fact. -/
lemma wp.and {x : Prog φ σ α} {P Q : α → σ → Prop} {s : σ}
    (hP : wp x P s) (hQ : wp x Q s) : wp x (fun a s' => P a s' ∧ Q a s') s := by
  obtain ⟨a, s', hx, p⟩ := hP
  exact ⟨a, s', hx, p, hQ.elim hx⟩

/-- What a sequence of programs did, its parts did one after the other. -/
lemma bind_ok {x : Prog φ σ α} {f : α → Prog φ σ β} {s s'' : σ} {b : β}
    (h : (x >>= f) s = .ok (b, s'')) : ∃ a s', x s = .ok (a, s') ∧ f a s' = .ok (b, s'') := by
  have run : wp (x >>= f) (fun c t => (c, t) = (b, s'')) s := ⟨b, s'', h, rfl⟩
  rw [wp_bind] at run
  obtain ⟨a, s', eq, c, t, eq', ⟨⟩⟩ := run
  exact ⟨a, s', eq, eq'⟩

lemma bind_eq_ok {x : Prog φ σ α} {f : α → Prog φ σ β} {s t s' : σ} {a : α} {b : β}
    (hx : x s = .ok (a, t)) (hf : f a t = .ok (b, s')) : (x >>= f) s = .ok (b, s') :=
  (bind_of_ok hx).trans hf

/-- A fault ends the program. -/
lemma throw_bind {f : φ} {g : α → Prog φ σ β} :
    (throw f >>= g : Prog φ σ β) = throw f := rfl

/-- Whether the program returns what passes a test. -/
def returns (x : Prog φ σ α) (s : σ) (test : α → Bool) : Bool :=
  match x s with
  | .ok (a, _) => test a
  | .error _ => false

lemma ok_of_returns {x : Prog φ σ α} {s : σ} {test : α → Bool} (h : returns x s test = true) :
    ∃ a s', x s = .ok (a, s') ∧ test a = true := by
  unfold returns at h
  split at h
  case h_1 a s' eq => exact ⟨a, s', eq, h⟩
  case h_2 => cases h

/-- Whatever the program returns satisfies `P`, if it returns. -/
def Yields (x : Prog φ σ α) (P : α → Prop) : Prop := ∀ s a s', x s = .ok (a, s') → P a

lemma Yields.pure {P : α → Prop} {a : α} (h : P a) : Yields (pure a : Prog φ σ α) P := by
  rintro s _ _ ⟨⟩
  exact h

lemma Yields.bind {x : Prog φ σ α} {f : α → Prog φ σ β} {P : α → Prop} {Q : β → Prop}
    (hx : Yields x P) (hf : ∀ a, P a → Yields (f a) Q) : Yields (x >>= f) Q := by
  intro s b s'' h
  obtain ⟨a, s', eq, eq'⟩ := bind_ok h
  exact hf a (hx s a s' eq) s' b s'' eq'

lemma Yields.any (x : Prog φ σ α) : Yields x fun _ => True := fun _ _ _ _ => trivial

/-- What a program on a part of the state returned, and the state behind it. -/
lemma zoom_ok {get : σ → δ} {put : δ → σ → σ} {x : Prog φ δ α} {s s' : σ} {a : α}
    (h : zoom get put x s = .ok (a, s')) : ∃ d, x (get s) = .ok (a, d) ∧ s' = put d s := by
  have run : wp (zoom get put x) (fun b t => (b, t) = (a, s')) s := ⟨a, s', h, rfl⟩
  rw [wp_zoom] at run
  obtain ⟨_, d, eq, ⟨⟩⟩ := run
  exact ⟨d, eq, rfl⟩

lemma Yields.zoom {get : σ → δ} {put : δ → σ → σ} {x : Prog φ δ α} {P : α → Prop}
    (h : Yields x P) : Yields (zoom get put x) P := by
  intro s a s' run
  obtain ⟨d, eq, _⟩ := zoom_ok run
  exact h (get s) a d eq

/-- The rule for `forUntil`: an invariant indexed by the counter, and what an early exit gives. -/
lemma wp_forUntil {body : Nat → α → Prog φ σ (Option ε × α)} {Q : Option ε × α → σ → Prop}
    {i k : Nat} {a : α} {s : σ} (Inv : Nat → α → σ → Prop)
    (step : ∀ j a s, i ≤ j → j < i + k → Inv j a s →
      wp (body j a) (fun r s' => match r with
        | (none, a') => Inv (j + 1) a' s'
        | (some e, a') => Q (some e, a') s') s)
    (done : ∀ a s, Inv (i + k) a s → Q (none, a) s) (init : Inv i a s) :
    wp (forUntil body i k a) Q s := by
  induction k generalizing i a s with
  | zero =>
    simp only [forUntil, wp_pure]
    exact done a s init
  | succ k ih =>
    simp only [forUntil, wp_bind]
    apply wp_mono (step i a s (Nat.le_refl i) (by omega) init)
    rintro ⟨_ | e, a'⟩ s' h
    · apply ih
      · exact fun j b t le lt => step j b t (by omega) (by omega)
      · intro b t hb
        apply done b t
        rwa [show i + (k + 1) = i + 1 + k from by omega]
      · exact h
    · simpa only [wp_pure] using h

/-- Whatever a loop that was not left early has come to. -/
lemma Yields.forUntil {body : Nat → α → Prog φ σ (Option ε × α)} {i k : Nat} {a : α}
    (Inv : Nat → α → Prop)
    (step : ∀ j a, i ≤ j → j < i + k → Inv j a → Yields (body j a) fun r => r.1 = none → Inv (j + 1) r.2)
    (init : Inv i a) : Yields (forUntil body i k a) fun r => r.1 = none → Inv (i + k) r.2 := by
  induction k generalizing i a with
  | zero => exact .pure fun _ => init
  | succ k ih =>
    refine (step i a (Nat.le_refl i) (by omega) init).bind ?_
    rintro ⟨_ | e, a'⟩ inv
    · rw [show i + (k + 1) = i + 1 + k from by omega]
      exact ih (fun j b le lt => step j b (by omega) (by omega)) (inv rfl)
    · exact .pure (by rintro ⟨⟩)

/-- The rule for `forRange`: an invariant indexed by the counter. -/
lemma wp_forRange {body : Nat → Prog φ σ Unit} {Q : Unit → σ → Prop} {i k : Nat} {s : σ}
    (Inv : Nat → σ → Prop)
    (step : ∀ j s, i ≤ j → j < i + k → Inv j s → wp (body j) (fun _ s' => Inv (j + 1) s') s)
    (done : ∀ s, Inv (i + k) s → Q () s) (init : Inv i s) : wp (forRange body i k) Q s := by
  induction k generalizing i s with
  | zero =>
    simp only [forRange, wp_pure]
    exact done s init
  | succ k ih =>
    simp only [forRange, wp_bind]
    apply wp_mono (step i s (Nat.le_refl i) (by omega) init)
    intro _ s' h
    apply ih
    · exact fun j t le lt => step j t (by omega) (by omega)
    · intro t ht
      apply done t
      rwa [show i + (k + 1) = i + 1 + k from by omega]
    · exact h

/-- The rule for `loop`: an invariant and a measure that every round but the last decreases. -/
lemma wp_loop {endless : φ} {body : Prog φ σ (Option α)} {Q : α → σ → Prop} {k : Nat} {s : σ}
    (Inv : σ → Prop) (measure : σ → Nat)
    (step : ∀ s, Inv s → wp body (fun r s' => match r with
        | none => Inv s' ∧ measure s' < measure s
        | some a => Q a s') s)
    (fuel : measure s < k) (init : Inv s) : wp (loop endless body k) Q s := by
  induction k generalizing s with
  | zero => omega
  | succ k ih =>
    simp only [loop, wp_bind]
    apply wp_mono (step s init)
    rintro (_ | a) s' h
    · exact ih (by omega) h.1
    · simpa only [wp_pure] using h

/-- A loop that is left would be left with more rounds, too. -/
lemma loop_ok_of_le {endless : φ} {body : Prog φ σ (Option α)} {k k' : Nat} {a : α} {s s' : σ}
    (le : k ≤ k') (run : loop endless body k s = .ok (a, s')) :
    loop endless body k' s = .ok (a, s') := by
  induction k generalizing k' s with
  | zero => cases run
  | succ k ih =>
    cases k' with
    | zero => exact absurd le (Nat.not_succ_le_zero k)
    | succ k' =>
      obtain ⟨r, t, round, rest⟩ := bind_ok run
      apply bind_eq_ok round
      cases r with
      | some a => exact rest
      | none => exact ih (Nat.le_of_succ_le_succ le) rest

end Prog
