import Libusbp.Lib.Prog

/-!
# Runs of a state machine

A machine answers each event of type `ε` with a reply of type `ρ` and a new state, or stops with a
fault. `run` is a whole sequence of events, `Reach` the states it can lead to, and `Along` says that
every event of a sequence satisfies a condition in the state it is issued in. An invariant is shown
once per event: `wp_run` carries it over runs and `Reach.inv` to every reachable state.
-/

namespace Machine

open Prog

variable {φ σ ε ρ : Type}

/-- The replies to a sequence of events. -/
def run (step : ε → Prog φ σ ρ) : List ε → Prog φ σ (List ρ)
  | [] => pure []
  | e :: es => do
    let r ← step e
    let rs ← run step es
    pure (r :: rs)

/-- The states that some sequence of events leads to without a fault. -/
def Reach (step : ε → Prog φ σ ρ) (Init : σ → Prop) (s : σ) : Prop :=
  ∃ s₀ es rs, Init s₀ ∧ run step es s₀ = .ok (rs, s)

/-- Every event satisfies `P` in the state in which it is issued. -/
def Along (step : ε → Prog φ σ ρ) (P : ε → σ → Prop) : List ε → σ → Prop
  | [], _ => True
  | e :: es, s => P e s ∧ ∀ r s', step e s = .ok (r, s') → Along step P es s'

lemma run_cons_ok {step : ε → Prog φ σ ρ} {e : ε} {es : List ε} {rs : List ρ} {s s' : σ}
    (h : run step (e :: es) s = .ok (rs, s')) :
    ∃ r t rs', step e s = .ok (r, t) ∧ run step es t = .ok (rs', s') ∧ rs = r :: rs' := by
  have hw : wp (run step (e :: es)) (fun a t => (a, t) = (rs, s')) s := ⟨rs, s', h, rfl⟩
  simp only [run, wp_bind, wp_pure] at hw
  obtain ⟨r, t, hr, rs', s'', hrs, eq⟩ := hw
  cases eq
  exact ⟨r, t, rs', hr, hrs, rfl⟩

/-- A run goes on after its first event. -/
lemma run_cons_eq {step : ε → Prog φ σ ρ} {e : ε} {es : List ε} {r : ρ} {s t : σ}
    (first : step e s = .ok (r, t)) :
    run step (e :: es) s = (run step es t).map fun rest => (r :: rest.1, rest.2) := by
  rw [run, bind_of_ok first]
  cases rest : run step es t with
  | error f => exact bind_of_error rest
  | ok answer => exact bind_of_ok rest

lemma run_cons {step : ε → Prog φ σ ρ} {e : ε} {es : List ε} {r : ρ} {rs : List ρ} {s t u : σ}
    (first : step e s = .ok (r, t)) (rest : run step es t = .ok (rs, u)) :
    run step (e :: es) s = .ok (r :: rs, u) := by
  rw [run_cons_eq first, rest]
  rfl

lemma run_singleton {step : ε → Prog φ σ ρ} {e : ε} {r : ρ} {s t : σ} (h : step e s = .ok (r, t)) :
    run step [e] s = .ok ([r], t) := run_cons h rfl

lemma run_append_ok {step : ε → Prog φ σ ρ} {es fs : List ε} {rs : List ρ} {s s' : σ}
    (h : run step (es ++ fs) s = .ok (rs, s')) :
    ∃ r₁ t r₂, run step es s = .ok (r₁, t) ∧ run step fs t = .ok (r₂, s') ∧ rs = r₁ ++ r₂ := by
  induction es generalizing s rs with
  | nil => exact ⟨[], s, rs, rfl, h, rfl⟩
  | cons e es ih =>
    obtain ⟨r, t, rs', he, hes, rfl⟩ := run_cons_ok h
    obtain ⟨r₁, u, r₂, h₁, h₂, rfl⟩ := ih hes
    exact ⟨r :: r₁, u, r₂, run_cons he h₁, h₂, rfl⟩

/-- A run goes on from where its first event leads. -/
lemma wp_run_cons {step : ε → Prog φ σ ρ} {e : ε} {es : List ε} {Q : σ → Prop} {s : σ}
    (h : wp (step e) (fun _ t => wp (run step es) (fun _ => Q) t) s) :
    wp (run step (e :: es)) (fun _ => Q) s := by
  simp only [run, wp_bind, wp_pure]
  exact h

/-- One run after another. -/
lemma wp_run_append {step : ε → Prog φ σ ρ} {es fs : List ε} {Q : σ → Prop} {s : σ}
    (h : wp (run step es) (fun _ t => wp (run step fs) (fun _ => Q) t) s) :
    wp (run step (es ++ fs)) (fun _ => Q) s := by
  induction es generalizing s with
  | nil =>
    rw [run, wp_pure] at h
    exact h
  | cons e es ih =>
    simp only [run, wp_bind, wp_pure] at h
    exact wp_run_cons (wp_mono h fun _ _ => ih)

/-- The invariant rule: what every admitted event preserves, without a fault, a run of admitted
events preserves without a fault. -/
lemma wp_run {step : ε → Prog φ σ ρ} {P : ε → σ → Prop} {Inv : σ → Prop} {es : List ε} {s : σ}
    (pres : ∀ e s, Inv s → P e s → wp (step e) (fun _ s' => Inv s') s)
    (init : Inv s) (adm : Along step P es s) : wp (run step es) (fun _ s' => Inv s') s := by
  induction es generalizing s with
  | nil =>
    simp only [run, wp_pure]
    exact init
  | cons e es ih =>
    obtain ⟨he, hes⟩ := adm
    obtain ⟨r, t, hr, ht⟩ := pres e s init he
    simp only [run, wp_bind, wp_pure]
    exact ⟨r, t, hr, ih ht (hes r t hr)⟩

/-- The invariant rule for partial correctness: an invariant of every fault-free step holds in
every reachable state. -/
lemma Reach.inv {step : ε → Prog φ σ ρ} {Init Inv : σ → Prop} {s : σ}
    (h : Reach step Init s) (init : ∀ s, Init s → Inv s)
    (pres : ∀ e s r s', Inv s → step e s = .ok (r, s') → Inv s') : Inv s := by
  obtain ⟨s₀, es, rs, hi, hr⟩ := h
  have h₀ := init s₀ hi
  clear hi
  induction es generalizing s₀ rs with
  | nil =>
    cases hr
    exact h₀
  | cons e es ih =>
    obtain ⟨r, t, rs', he, hes, rfl⟩ := run_cons_ok hr
    exact ih t rs' hes (pres e s₀ r t h₀ he)

/-- The invariant rule with a record of the events and replies so far. -/
lemma run_trace {step : ε → Prog φ σ ρ} {Inv : List (ε × ρ) → σ → Prop} {es : List ε}
    {rs : List ρ} {s s' : σ} {tr : List (ε × ρ)}
    (pres : ∀ e ∈ es, ∀ tr s r s', Inv tr s → step e s = .ok (r, s') → Inv (tr ++ [(e, r)]) s')
    (init : Inv tr s) (h : run step es s = .ok (rs, s')) : Inv (tr ++ es.zip rs) s' := by
  induction es generalizing s rs tr with
  | nil =>
    cases h
    simpa using init
  | cons e es ih =>
    obtain ⟨r, t, rs', he, hes, rfl⟩ := run_cons_ok h
    have next := pres e List.mem_cons_self tr s r t init he
    have last := ih (fun e' mem => pres e' (List.mem_cons_of_mem e mem)) next hes
    simpa only [List.zip_cons_cons, List.append_assoc, List.singleton_append] using last

/-- The invariant rule for the events of one run. -/
lemma run_inv {step : ε → Prog φ σ ρ} {Inv : σ → Prop} {es : List ε} {rs : List ρ} {s s' : σ}
    (pres : ∀ e ∈ es, ∀ s r s', Inv s → step e s = .ok (r, s') → Inv s')
    (init : Inv s) (h : run step es s = .ok (rs, s')) : Inv s' :=
  @run_trace φ σ ε ρ step (fun _ s => Inv s) es rs s s' []
    (fun e mem _ s r s' inv he => pres e mem s r s' inv he) init h

/-- What is required along a run can be computed with the run. -/
instance decidableAlong {step : ε → Prog φ σ ρ} {P : ε → σ → Prop} [∀ e s, Decidable (P e s)] :
    (es : List ε) → (s : σ) → Decidable (Along step P es s)
  | [], _ => .isTrue trivial
  | e :: es, s =>
    match eq : step e s with
    | .ok (r, s') =>
      have : Decidable (Along step P es s') := decidableAlong es s'
      decidable_of_iff (P e s ∧ Along step P es s')
        (and_congr_right fun _ => ⟨fun along _ _ eq' => by cases eq.symm.trans eq'; exact along,
          fun along => along r s' eq⟩)
    | .error _ =>
      decidable_of_iff (P e s)
        ⟨fun p => ⟨p, fun _ _ eq' => by cases eq.symm.trans eq'⟩, fun along => along.1⟩

/-- A condition that every event satisfies in every state. -/
lemma along_of_forall {step : ε → Prog φ σ ρ} {P : ε → σ → Prop} {es : List ε} {s : σ}
    (h : ∀ e s, P e s) : Along step P es s := by
  induction es generalizing s with
  | nil => trivial
  | cons e es ih => exact ⟨h e s, fun _ _ _ => ih⟩

/-- A run whose forbidden events fault consists of admitted events. -/
lemma along_of_run {step : ε → Prog φ σ ρ} {P : ε → σ → Prop} {es : List ε} {rs : List ρ} {s s' : σ}
    (faults : ∀ e s, ¬P e s → ∃ f, step e s = .error f) (h : run step es s = .ok (rs, s')) :
    Along step P es s := by
  induction es generalizing s rs with
  | nil => trivial
  | cons e es ih =>
    obtain ⟨r, t, rs', he, hes, rfl⟩ := run_cons_ok h
    constructor
    · by_contra forbidden
      obtain ⟨f, fault⟩ := faults e s forbidden
      rw [he] at fault
      cases fault
    · intro r' t' he'
      rw [he] at he'
      cases he'
      exact ih hes

/-- A run that stops does so at one event, and every invariant of the fault-free steps holds there. -/
lemma run_error {step : ε → Prog φ σ ρ} {Inv : σ → Prop} {es : List ε} {s : σ} {f : φ}
    (pres : ∀ e s r s', Inv s → step e s = .ok (r, s') → Inv s') (init : Inv s)
    (stops : run step es s = .error f) : ∃ e t, Inv t ∧ step e t = .error f := by
  induction es generalizing s with
  | nil => cases stops
  | cons e es ih =>
    cases he : step e s with
    | error f' =>
      rw [run, bind_of_error he] at stops
      cases stops
      exact ⟨e, s, init, he⟩
    | ok answer =>
      obtain ⟨r, t⟩ := answer
      rw [run_cons_eq he] at stops
      cases hes : run step es t with
      | error f' =>
        rw [hes] at stops
        cases stops
        exact ih (pres e s r t init he) hes
      | ok rest =>
        rw [hes] at stops
        cases stops

/-- Whether a sequence of events runs without a fault to replies and a state that pass a test. -/
def passes (step : ε → Prog φ σ ρ) (es : List ε) (s : σ) (test : List ρ → σ → Bool) : Bool :=
  match run step es s with
  | .ok (rs, s') => test rs s'
  | .error _ => false

lemma run_of_passes {step : ε → Prog φ σ ρ} {es : List ε} {s : σ} {test : List ρ → σ → Bool}
    (h : passes step es s test = true) :
    ∃ rs s', run step es s = .ok (rs, s') ∧ test rs s' = true := by
  unfold passes at h
  split at h
  case h_1 rs s' eq => exact ⟨rs, s', eq, h⟩
  case h_2 => cases h

/-- A run that passes one test on its way and another one at its end. -/
lemma run_append_of_passes {step : ε → Prog φ σ ρ} {es fs : List ε} {s : σ}
    {test last : List ρ → σ → Bool} (first : passes step es s test = true)
    (whole : passes step (es ++ fs) s last = true) :
    ∃ rs s₁ rs' s₂, run step es s = .ok (rs, s₁) ∧ test rs s₁ = true ∧
      run step fs s₁ = .ok (rs', s₂) ∧ last (rs ++ rs') s₂ = true := by
  obtain ⟨rs, s₁, run₁, tested⟩ := run_of_passes first
  obtain ⟨_, s₂, run₂, ended⟩ := run_of_passes whole
  obtain ⟨rs₁, u, rs', run₁', rest, rfl⟩ := run_append_ok run₂
  rw [run₁] at run₁'
  cases run₁'
  exact ⟨rs, s₁, rs', s₂, run₁, tested, rest, ended⟩

end Machine
