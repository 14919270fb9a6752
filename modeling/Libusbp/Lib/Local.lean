import Libusbp.Lib.Prog

/-!
# Programs with local variables

`stages` is the constructor that consists of steps `if (error == NULL) { error = … }`, which share
local variables and are skipped once one of them has failed. `loopWith` is `while (true)` over local
variables, left by a round that yields a value.
-/

namespace Prog

variable {φ σ ε ν α : Type}

/-- The steps up to the first one that fails, over the local variables of type `ν`. -/
def stages : List (ν → Prog φ σ (Option ε × ν)) → ν → Prog φ σ (Option ε × ν)
  | [], l => pure (none, l)
  | f :: fs, l => do
    match ← f l with
    | (some e, l') => pure (some e, l')
    | (none, l') => stages fs l'

/-- The step `error = f(…, &x)`, where `put` writes the output to the variable `x`. -/
def into (f : ν → Prog φ σ (Option ε × α)) (put : ν → α → ν) (l : ν) :
    Prog φ σ (Option ε × ν) := do
  let r ← f l
  pure (r.1, put l r.2)

/-- The step `error = f(…)` without an output. -/
def checking (f : ν → Prog φ σ (Option ε)) (l : ν) : Prog φ σ (Option ε × ν) := do
  let error ← f l
  pure (error, l)

/-- A function that consists of steps, then cleans up what is left in its variables, and returns the
error with the output that one of the variables holds. -/
def construct (steps : List (ν → Prog φ σ (Option ε × ν))) (cleanUp : ν → Prog φ σ Unit)
    (output : ν → α) (l : ν) : Prog φ σ (Option ε × α) := do
  let (error, l) ← stages steps l
  cleanUp l
  pure (error, output l)

/-- The loop `while (true)` over the local variables of type `ν`, for at most the given number of
rounds. Running out of rounds is the fault `endless`. -/
def loopWith (endless : φ) (body : ν → Prog φ σ (ν ⊕ α)) : Nat → ν → Prog φ σ α
  | 0, _ => throw endless
  | k + 1, l => do
    match ← body l with
    | .inr a => pure a
    | .inl l' => loopWith endless body k l'

lemma wp_stages_nil {l : ν} {Q : Option ε × ν → σ → Prop} {s : σ} :
    wp (stages [] l : Prog φ σ _) Q s ↔ Q (none, l) s := by
  simp only [stages, wp_pure]

/-- A step that fails ends the sequence, and one that succeeds is followed by the others. -/
lemma wp_stages_cons {f : ν → Prog φ σ (Option ε × ν)} {fs : List (ν → Prog φ σ (Option ε × ν))}
    {l : ν} {Q : Option ε × ν → σ → Prop} {s : σ}
    (h : wp (f l) (fun r s' => match r with
      | (some e, l') => Q (some e, l') s'
      | (none, l') => wp (stages fs l') Q s') s) : wp (stages (f :: fs) l) Q s := by
  simp only [stages, wp_bind]
  apply wp_mono h
  rintro ⟨_ | e, l'⟩ s' h'
  · exact h'
  · simpa only [wp_pure] using h'

/-- A step with an output ends the sequence with its error, or the others see its output. -/
lemma wp_stages_into {f : ν → Prog φ σ (Option ε × α)} {put : ν → α → ν}
    {fs : List (ν → Prog φ σ (Option ε × ν))} {l : ν} {Q : Option ε × ν → σ → Prop} {s : σ}
    (h : wp (f l) (fun r s' => match r with
      | (some e, x) => Q (some e, put l x) s'
      | (none, x) => wp (stages fs (put l x)) Q s') s) : wp (stages (into f put :: fs) l) Q s := by
  apply wp_stages_cons
  simp only [into, wp_bind, wp_pure]
  apply wp_mono h
  rintro ⟨_ | e, x⟩ s' h'
  · exact h'
  · exact h'

/-- A step without an output ends the sequence with its error, or changes no variable. -/
lemma wp_stages_checking {f : ν → Prog φ σ (Option ε)}
    {fs : List (ν → Prog φ σ (Option ε × ν))} {l : ν} {Q : Option ε × ν → σ → Prop} {s : σ}
    (h : wp (f l) (fun r s' => match r with
      | some e => Q (some e, l) s'
      | none => wp (stages fs l) Q s') s) : wp (stages (checking f :: fs) l) Q s := by
  apply wp_stages_cons
  simp only [checking, wp_bind, wp_pure]
  apply wp_mono h
  rintro (_ | e) s' h'
  · exact h'
  · exact h'

/-- Two sequences, one after the other. -/
lemma wp_stages_append {fs gs : List (ν → Prog φ σ (Option ε × ν))} {l : ν}
    {Q : Option ε × ν → σ → Prop} {s : σ}
    (h : wp (stages fs l) (fun r s' => match r with
      | (some e, l') => Q (some e, l') s'
      | (none, l') => wp (stages gs l') Q s') s) : wp (stages (fs ++ gs) l) Q s := by
  induction fs generalizing l s with
  | nil => exact wp_stages_nil.mp h
  | cons f fs ih =>
    rw [List.cons_append]
    apply wp_stages_cons
    rw [stages, wp_bind] at h
    apply wp_mono h
    rintro ⟨_ | e, l'⟩ s' h'
    · exact ih h'
    · obtain ⟨_, _, ⟨⟩, h'⟩ := h'
      exact h'

/-- What a sequence of steps did: the first one failed, or the others went on after it. -/
lemma stages_ok {f : ν → Prog φ σ (Option ε × ν)} {fs : List (ν → Prog φ σ (Option ε × ν))}
    {l : ν} {s s'' : σ} {r : Option ε × ν} (h : stages (f :: fs) l s = .ok (r, s'')) :
    (∃ e l', r = (some e, l') ∧ f l s = .ok ((some e, l'), s'')) ∨
      ∃ l' s', f l s = .ok ((none, l'), s') ∧ stages fs l' s' = .ok (r, s'') := by
  rw [stages] at h
  obtain ⟨⟨_ | e, l'⟩, s', eq, eq'⟩ := bind_ok h
  · exact .inr ⟨l', s', eq, eq'⟩
  · cases eq'
    exact .inl ⟨e, l', rfl, eq⟩

/-- Steps that went well are followed by the others. -/
lemma stages_append {fs gs : List (ν → Prog φ σ (Option ε × ν))} {l l' : ν}
    {s s' : σ}
    (run : stages fs l s = .ok ((none, l'), s')) : stages (fs ++ gs) l s = stages gs l' s' := by
  induction fs generalizing l s with
  | nil =>
    cases run
    rfl
  | cons f fs ih =>
    rcases stages_ok run with ⟨e, l₁, ⟨⟩, _⟩ | ⟨l₁, s₁, first, rest⟩
    rw [← ih rest, List.cons_append, stages, bind_of_ok first]

/-- What a sequence of steps did whose first step has an output. -/
lemma stages_into_ok {f : ν → Prog φ σ (Option ε × α)} {put : ν → α → ν}
    {fs : List (ν → Prog φ σ (Option ε × ν))} {l : ν} {s s'' : σ} {r : Option ε × ν}
    (h : stages (into f put :: fs) l s = .ok (r, s'')) :
    (∃ e x, r = (some e, put l x) ∧ f l s = .ok ((some e, x), s'')) ∨
      ∃ x s', f l s = .ok ((none, x), s') ∧ stages fs (put l x) s' = .ok (r, s'') := by
  rcases stages_ok h with ⟨e, l', rfl, eq⟩ | ⟨l', s', eq, rest⟩
  · obtain ⟨⟨e', x⟩, t, run, eq'⟩ := bind_ok eq
    cases eq'
    exact .inl ⟨e, x, rfl, run⟩
  · obtain ⟨⟨e', x⟩, t, run, eq'⟩ := bind_ok eq
    cases eq'
    exact .inr ⟨x, s', run, rest⟩

/-- What a sequence of steps without an error did: its first step had none, nor had the others. -/
lemma stages_into_none {f : ν → Prog φ σ (Option ε × α)} {put : ν → α → ν}
    {fs : List (ν → Prog φ σ (Option ε × ν))} {l l' : ν} {s s'' : σ}
    (h : stages (into f put :: fs) l s = .ok ((none, l'), s'')) :
    ∃ x s', f l s = .ok ((none, x), s') ∧ stages fs (put l x) s' = .ok ((none, l'), s'') := by
  rcases stages_into_ok h with ⟨e, x, ⟨⟩, _⟩ | run
  exact run

/-- The same for a step without an output. -/
lemma stages_checking_none {f : ν → Prog φ σ (Option ε)} {fs : List (ν → Prog φ σ (Option ε × ν))}
    {l l' : ν} {s s'' : σ} (h : stages (checking f :: fs) l s = .ok ((none, l'), s'')) :
    ∃ s', f l s = .ok (none, s') ∧ stages fs l s' = .ok ((none, l'), s'') := by
  rcases stages_ok h with ⟨e, l₁, ⟨⟩, _⟩ | ⟨l₁, s', step, rest⟩
  obtain ⟨error, t, run, step⟩ := bind_ok step
  cases step
  exact ⟨s', run, rest⟩

/-- The last step only assigns. -/
lemma stages_assign {g : ν → ν} {l l' : ν} {s s' : σ}
    (h : stages [fun l => (pure (none, g l) : Prog φ σ (Option ε × ν))] l s = .ok ((none, l'), s')) :
    l' = g l := by
  rcases stages_ok h with ⟨e, x, ⟨⟩, _⟩ | ⟨x, t, step, rest⟩
  cases step
  cases rest
  rfl

/-- What a function that returned without an error did. -/
lemma construct_none {steps : List (ν → Prog φ σ (Option ε × ν))} {cleanUp : ν → Prog φ σ Unit}
    {output : ν → α} {l : ν} {x : α} {s s'' : σ}
    (h : construct steps cleanUp output l s = .ok ((none, x), s'')) :
    ∃ l' s', stages steps l s = .ok ((none, l'), s') ∧ x = output l' := by
  obtain ⟨⟨e, l'⟩, s', run, rest⟩ := bind_ok h
  obtain ⟨_, t, _, rest⟩ := bind_ok rest
  cases rest
  exact ⟨l', s', run, rfl⟩

/-- The rule for `loopWith`: an invariant, and a measure that every round but the last decreases. -/
lemma wp_loopWith {endless : φ} {body : ν → Prog φ σ (ν ⊕ α)} {Q : α → σ → Prop} {k : Nat} {l : ν}
    {s : σ} (Inv : ν → σ → Prop) (measure : ν → Nat)
    (step : ∀ l s, Inv l s → wp (body l) (fun r s' => match r with
      | .inl l' => Inv l' s' ∧ measure l' < measure l
      | .inr a => Q a s') s)
    (fuel : measure l < k) (init : Inv l s) : wp (loopWith endless body k l) Q s := by
  induction k generalizing l s with
  | zero => omega
  | succ k ih =>
    simp only [loopWith, wp_bind]
    apply wp_mono (step l s init)
    rintro (l' | a) s' h
    · exact ih (by omega) h.1
    · simpa only [wp_pure] using h

end Prog
