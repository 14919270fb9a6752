import Mathlib.Data.List.Basic

/-!
# Outcomes, and search loops that stop at the first verdict

An outcome is a value or an error. A loop over the entries of an enumeration judges one entry after the other. It passes over an entry
whose verdict is `.ok none` and stops at any other, with what was found or with an error.
-/

variable {ε ι α β : Type}

/-- An outcome goes on from what went well. -/
lemma ok_bind {x : Except ε α} {f : α → Except ε β} {a : α} (h : x = .ok a) : x >>= f = f a := by
  rw [h]
  rfl

/-- An outcome ends at an error. -/
lemma error_bind {x : Except ε α} {f : α → Except ε β} {v : ε} (h : x = .error v) :
    x >>= f = .error v := by
  rw [h]
  rfl

/-- Where the error of a sequence comes from. -/
lemma of_bind_error {x : Except ε α} {f : α → Except ε β} {v : ε} (h : x >>= f = .error v) :
    x = .error v ∨ ∃ a, x = .ok a ∧ f a = .error v := by
  cases x with
  | error w =>
    cases h
    exact .inl rfl
  | ok a => exact .inr ⟨a, rfl, h⟩

/-- Where the value of a sequence comes from. -/
lemma of_bind_ok {x : Except ε α} {f : α → Except ε β} {b : β} (h : x >>= f = .ok b) :
    ∃ a, x = .ok a ∧ f a = .ok b := by
  cases x with
  | error w => cases h
  | ok a => exact ⟨a, rfl, h⟩

/-- The verdict that a search stops at, or `.ok none` if it passes over every entry. -/
def firstVerdict (verdict : ι → Except ε (Option β)) : List ι → Except ε (Option β)
  | [] => .ok none
  | e :: es =>
    match verdict e with
    | .ok none => firstVerdict verdict es
    | .ok (some b) => .ok (some b)
    | .error v => .error v

section Rules

variable {verdict : ι → Except ε (Option β)} {e : ι} {es es' : List ι}

/-- An entry that is passed over is skipped. -/
lemma firstVerdict_pass (h : verdict e = .ok none) :
    firstVerdict verdict (e :: es) = firstVerdict verdict es := by
  simp only [firstVerdict, h]

/-- The search stops at any other entry. -/
lemma firstVerdict_stop (h : verdict e ≠ .ok none) :
    firstVerdict verdict (e :: es) = verdict e := by
  unfold firstVerdict
  split
  case h_1 eq => exact absurd eq h
  case h_2 eq => exact eq.symm
  case h_3 eq => exact eq.symm

/-- A search that passes over every entry finds nothing. -/
lemma firstVerdict_none (h : ∀ e ∈ es, verdict e = .ok none) : firstVerdict verdict es = .ok none := by
  induction es with
  | nil => rfl
  | cons e es ih =>
    rw [firstVerdict_pass (h e List.mem_cons_self)]
    exact ih fun e' mem => h e' (List.mem_cons_of_mem e mem)

end Rules

/-- Whether the search stops at this entry. -/
def stopsAt (verdict : ι → Except ε (Option β)) (e : ι) : Bool :=
  match verdict e with
  | .ok none => false
  | _ => true

/-- The error with which the search stops at this entry. -/
def failureAt (verdict : ι → Except ε (Option β)) (e : ι) : Option ε :=
  match verdict e with
  | .ok _ => none
  | .error v => some v

/-- What the search finds at this entry. -/
def foundAt (verdict : ι → Except ε (Option β)) (e : ι) : Option β :=
  match verdict e with
  | .ok found => found
  | .error _ => none

/-- A search finds the first entry that can be found if none fails ahead of it. -/
lemma firstVerdict_found {verdict : ι → Except ε (Option β)} {es : List ι}
    (calm : ∀ e ∈ es.takeWhile fun e => (foundAt verdict e).isNone, failureAt verdict e = none) :
    firstVerdict verdict es = .ok (es.findSome? (foundAt verdict)) := by
  induction es with
  | nil => rfl
  | cons e es ih =>
    rw [List.takeWhile_cons] at calm
    cases hv : verdict e with
    | error v =>
      have passes : (foundAt verdict e).isNone = true := by simp only [foundAt, hv, Option.isNone_none]
      rw [if_pos passes] at calm
      have fails := calm e List.mem_cons_self
      simp only [failureAt, hv] at fails
      cases fails
    | ok found =>
      cases found with
      | none =>
        have passes : (foundAt verdict e).isNone = true := by
          simp only [foundAt, hv, Option.isNone_none]
        rw [if_pos passes] at calm
        rw [firstVerdict_pass hv, ih fun e' mem => calm e' (List.mem_cons_of_mem e mem)]
        simp only [List.findSome?_cons, foundAt, hv]
      | some b =>
        rw [firstVerdict_stop (by rw [hv]; rintro ⟨⟩), hv]
        simp only [List.findSome?_cons, foundAt, hv]

/-- The first failure among the entries that are not `own`, ahead of the first own entry that the
search would stop at. -/
def disturbance (verdict : ι → Except ε (Option β)) (own : ι → Bool) (es : List ι) : Option ε :=
  (es.takeWhile fun e => !(own e && stopsAt verdict e)).findSome? fun e =>
    if own e then none else failureAt verdict e

/-- The failure of the first own entry that the search would stop at. -/
def ownFailure (verdict : ι → Except ε (Option β)) (own : ι → Bool) (es : List ι) : Option ε :=
  ((es.filter own).find? (stopsAt verdict)).bind (failureAt verdict)

section Disturbance

variable {verdict : ι → Except ε (Option β)} {own : ι → Bool} {es : List ι}

/-- Where nothing but own entries can be found, the search among all entries is the search among the
own ones, unless another entry fails first. -/
lemma firstVerdict_disturbance (foreign : ∀ e ∈ es, own e = false → ∀ b, verdict e ≠ .ok (some b)) :
    firstVerdict verdict es = (disturbance verdict own es).elim
      (firstVerdict verdict (es.filter own)) .error := by
  induction es with
  | nil => rfl
  | cons e es ih =>
    have ih := ih fun e' mem => foreign e' (List.mem_cons_of_mem e mem)
    cases mine : own e with
    | true =>
      cases hv : verdict e with
      | error v => simp [firstVerdict, disturbance, stopsAt, mine, hv]
      | ok found =>
        cases found with
        | none => simpa [firstVerdict, disturbance, stopsAt, mine, hv] using ih
        | some b => simp [firstVerdict, disturbance, stopsAt, mine, hv]
    | false =>
      cases hv : verdict e with
      | error v => simp [firstVerdict, disturbance, failureAt, mine, hv]
      | ok found =>
        cases found with
        | none => simpa [firstVerdict, disturbance, failureAt, mine, hv] using ih
        | some b => exact absurd hv (foreign e List.mem_cons_self mine b)

/-- How the search among the own entries fails. -/
lemma ownFailure_eq {v : ε} :
    ownFailure verdict own es = some v ↔ firstVerdict verdict (es.filter own) = .error v := by
  unfold ownFailure
  induction es.filter own with
  | nil => simp [firstVerdict]
  | cons e es ih =>
    cases hv : verdict e with
    | error w => simp [firstVerdict, stopsAt, failureAt, hv]
    | ok found =>
      cases found with
      | none => simpa [firstVerdict, List.find?_cons, stopsAt, hv] using ih
      | some b => simp [firstVerdict, stopsAt, failureAt, hv]

end Disturbance
