import Libusbp.Error
import Mathlib.Data.List.Basic
import Mathlib.Data.String.Basic

/-!
# Chains of operations on an error

What an error says is its `ErrorValue`: a message and a list of codes. Each function of `error.c`
has one specification here, of the form `Gives h v`: the result is never null, and either no request
for memory was denied and it says `v`, or one was denied and it has the code
`LIBUSBP_ERROR_MEMORY`. `errorChain` is any chain of such calls, each applied to the result of the
one before, and `Gives` composes along it.
-/

namespace Libusbp

open Prog Heap

/-- What an error tells its reader. -/
@[ext] structure ErrorValue where
  message : String
  codes : List UInt32

namespace ErrorValue

/-- Nothing said yet. -/
def blank : ErrorValue := ⟨"", []⟩

/-- A new text goes in front, with two spaces between texts that are not empty. -/
def addText (v : ErrorValue) (text : String) : ErrorValue :=
  { v with message :=
      if text = "" then v.message
      else if v.message = "" then text
      else text ++ "  " ++ v.message }

/-- A new code goes to the end. -/
def addCode (v : ErrorValue) (code : UInt32) : ErrorValue :=
  { v with codes := v.codes ++ [code] }

end ErrorValue

def Error.value (e : Error) : ErrorValue where
  message := errorGetMessage (some e)
  codes := e.codes.take e.codeCount

/-- What a pointer to an error says; the null pointer says nothing. -/
def errorValue (error : Option Error) : ErrorValue :=
  match error with
  | none => .blank
  | some e => e.value

/-- The array holds exactly the counted codes. -/
def Error.WF (e : Error) : Prop := e.codeCount = e.codes.length

lemma Error.WF.take_codes {e : Error} (wf : e.WF) : e.codes.take e.codeCount = e.codes := by
  rw [wf, List.take_length]

lemma errorNoMemory_wf : errorNoMemory.WF := rfl

lemma errorMaskedByNoMemory_wf : errorMaskedByNoMemory.WF := rfl

lemma errorBlank_wf : errorBlank.WF := rfl

/-- `libusbp_error_has_code` answers membership. -/
lemma errorHasCode_iff {e : Error} {code : UInt32} :
    errorHasCode (some e) code = true ↔ code ∈ e.value.codes := by
  simp only [errorHasCode, Error.value, List.any_eq_true, beq_iff_eq]
  constructor
  · rintro ⟨c, hc, rfl⟩
    exact hc
  · exact fun hc => ⟨code, hc, rfl⟩

/-- The outcome of a call that is meant to build the value `v`. -/
def Gives (h : Heap) (v : ErrorValue) (r : Option Error) (h' : Heap) : Prop :=
  ∃ e, r = some e ∧ e.WF ∧ Le h h' ∧
    (h'.denials = h.denials ∧ e.value = v ∨
      h.denials < h'.denials ∧ (ErrorCode.memory : UInt32) ∈ e.value.codes)

/-- The masking error is what a denied request gives. -/
lemma Gives.masked {h h' : Heap} {v : ErrorValue} (le : Le h h')
    (lt : h.denials < h'.denials) : Gives h v (some errorMaskedByNoMemory) h' :=
  ⟨_, rfl, errorMaskedByNoMemory_wf, le, .inr ⟨lt, by decide⟩⟩

/-- Freeing an error denies nothing. -/
lemma wp_errorFree {error : Option Error} {Q : Unit → Heap → Prop} {h : Heap}
    (post : ∀ h', Le h h' → h'.denials = h.denials → Q () h') : wp (errorFree error) Q h := by
  cases error with
  | none =>
    simp only [errorFree, wp_pure]
    exact post h (Le.refl h) rfl
  | some e =>
    simp only [errorFree]
    apply wp_ite
    · intro _
      simp only [wp_pure]
      exact post h (Le.refl h) rfl
    · intro _
      simp only [wp_bind]
      apply wp_free
      intro h₁ le₁ _ d₁ _
      apply wp_free
      intro h₂ le₂ _ d₂ _
      apply wp_free
      intro h₃ le₃ _ d₃ _
      apply post
      · exact (le₁.trans le₂).trans le₃
      · rw [d₃, d₂, d₁]

/-- The outcome of making an error mutable: the same value in a mutable error, or the mask. -/
def Mutable (h : Heap) (v : ErrorValue) (r : Option Error) (h' : Heap) : Prop :=
  Le h h' ∧ ((∃ e, r = some e ∧ e.WF ∧ e.doNotFree = false ∧ h'.denials = h.denials ∧ e.value = v) ∨
    r = some errorMaskedByNoMemory ∧ h.denials < h'.denials)

lemma Mutable.gives {h h' : Heap} {v : ErrorValue} {r : Option Error} (m : Mutable h v r h') :
    Gives h v r h' := by
  obtain ⟨le, ⟨e, rfl, wf, _, hd, hv⟩ | ⟨rfl, lt⟩⟩ := m
  · exact ⟨e, rfl, wf, le, .inl ⟨hd, hv⟩⟩
  · exact .masked le lt

/-- The last steps of a copy whose allocations failed. -/
lemma wp_copyFailed {a m c : Option Loc} {h h' : Heap} {v : ErrorValue} (le : Le h h')
    (lt : h.denials < h'.denials) :
    wp (do free a; free m; free c; pure (some errorMaskedByNoMemory) : Prog Fault Heap _)
      (Mutable h v) h' := by
  simp only [wp_bind, wp_pure]
  apply wp_free
  intro h₁ le₁ _ d₁ _
  apply wp_free
  intro h₂ le₂ _ d₂ _
  apply wp_free
  intro h₃ le₃ _ d₃ _
  refine ⟨((le.trans le₁).trans le₂).trans le₃, .inr ⟨rfl, ?_⟩⟩
  rw [d₃, d₂, d₁]
  exact lt

lemma Error.WF.copiedCount {e : Error} (wf : e.WF) : e.copiedCount = e.codeCount := by
  unfold Error.WF at wf
  unfold Error.copiedCount
  cases hArray : e.codeArray with
  | none =>
    rw [wf]
    simp only [Error.codes, hArray, Option.isNone_none, if_true, List.length_nil]
  | some b => simp only [Option.isNone_some, Bool.false_eq_true, if_false]

/-- A copy says what its source says. -/
lemma Error.WF.copyInto {e : Error} (wf : e.WF) {a m : Addr} {c : Option Addr}
    (hc : e.codeCount ≠ 0 → c ≠ none) :
    (e.copyInto a m c).WF ∧ (e.copyInto a m c).value = e.value := by
  have count : e.codes.take e.copiedCount = e.codes := by
    rw [wf.copiedCount, wf, List.take_length]
  have codes : (e.copyInto a m c).codes = e.codes := by
    cases c with
    | none =>
      have zero : e.codeCount = 0 := by
        by_contra nz
        exact hc nz rfl
      rw [wf] at zero
      exact (List.eq_nil_of_length_eq_zero zero).symm
    | some c => simpa [Error.codes, Error.copyInto] using count
  constructor
  · unfold Error.WF at wf ⊢
    rw [codes, ← wf]
    exact Error.WF.copiedCount wf
  · ext1
    · rfl
    · simp only [Error.value, codes]
      rw [show (e.copyInto a m c).codeCount = e.copiedCount from rfl, wf.copiedCount]

/-- `libusbp_error_copy` makes a mutable copy or gives the mask. -/
lemma errorCopy_spec {e : Error} (wf : e.WF) (h : Heap) :
    wp (errorCopy (some e)) (Mutable h e.value) h := by
  simp only [errorCopy, wp_bind]
  apply wp_malloc
  · intro h₁ l₁ _ d₁
    apply wp_malloc
    · intro h₂ l₂ _ d₂
      apply wp_malloc
      · intro h₃ l₃ _ d₃
        simp only [Option.isNone_some, Bool.and_false, wp_pure]
        obtain ⟨wf', hv⟩ := wf.copyInto (a := h.next) (m := h₁.next) (c := some h₂.next) (by simp)
        refine ⟨l₁.trans (l₂.trans l₃), .inl ⟨_, rfl, wf', rfl, ?_, hv⟩⟩
        rw [d₃, d₂, d₁]
      · intro h₃ l₃ pos zero
        -- without codes a null array is no failure: `malloc(0)` may give the null pointer
        by_cases hz : e.codeCount = 0
        · have hc : e.copiedCount = 0 := by rw [wf.copiedCount, hz]
          simp only [hc, bne_self_eq_false, Bool.false_and, wp_pure]
          obtain ⟨wf', hv⟩ := wf.copyInto (a := h.next) (m := h₁.next) (c := none)
            (fun nz => absurd hz nz)
          refine ⟨l₁.trans (l₂.trans l₃), .inl ⟨_, rfl, wf', rfl, ?_, hv⟩⟩
          rw [zero (by rw [hc]; rfl), d₂, d₁]
        · have hc : e.copiedCount ≠ 0 := by rwa [wf.copiedCount]
          have lt : h.denials < h₃.denials := by
            rw [pos (Nat.mul_ne_zero hc (by decide)), d₂, d₁]
            exact Nat.lt_succ_self _
          have flag : (e.copiedCount != 0 && (none : Option Addr).isNone) = true := by
            simp [hc]
          simp only [flag]
          exact wp_copyFailed (l₁.trans (l₂.trans l₃)) lt
    · -- the source requests all three blocks before it looks at any of them
      intro h₂ l₂ pos _
      apply wp_malloc
      all_goals
        intro h₃ l₃ _ _
        apply wp_copyFailed (l₁.trans (l₂.trans l₃))
        have := pos (Nat.succ_ne_zero _)
        have := l₃.denials
        omega
  · intro h₁ l₁ pos _
    apply wp_malloc
    all_goals
      intro h₂ l₂ _ _
      apply wp_malloc
      all_goals
        intro h₃ l₃ _ _
        apply wp_copyFailed (l₁.trans (l₂.trans l₃))
        have := pos (by decide)
        have := l₂.denials
        have := l₃.denials
        omega

/-- `error_make_mutable` keeps what the error says, or gives the mask. -/
lemma errorMakeMutable_spec {error : Option Error} (wf : ∀ e, error = some e → e.WF) (h : Heap) :
    wp (errorMakeMutable error) (Mutable h (errorValue error)) h := by
  have hv : (error.getD errorBlank).value = errorValue error := by
    cases error <;> rfl
  have hw : (error.getD errorBlank).WF := by
    cases error with
    | none => exact errorBlank_wf
    | some e => exact wf e rfl
  simp only [errorMakeMutable, ← hv]
  apply wp_ite
  · exact fun _ => errorCopy_spec hw h
  · intro hd
    simp only [wp_pure]
    exact ⟨Le.refl h, .inl ⟨_, rfl, hw, by simpa using hd, rfl, rfl⟩⟩

/-- The length of a string decides whether it is empty. -/
lemma length_bne_zero {s : String} : (s.length != 0) = !decide (s = "") := by
  by_cases hs : s = ""
  · simp [hs]
  · have : s.length ≠ 0 := fun hl => hs (String.length_eq_zero_iff.mp hl)
    simp [hs]

/-- Joining two texts as `error_add_v` does. -/
lemma addText_message {v : ErrorValue} {text : String} :
    (v.addText text).message =
      text ++ (if (if v.message.length != 0 && text.length != 0 then 2 else 0) != 0 then "  " else "")
        ++ v.message := by
  simp only [ErrorValue.addText, length_bne_zero]
  by_cases ht : text = ""
  · simp [ht]
  · by_cases hm : v.message = ""
    · simp [ht, hm]
    · simp [ht, hm]

/-- `error_add_v` puts the text in front. -/
lemma errorAddV_spec {error : Option Error} (wf : ∀ e, error = some e → e.WF) (text : String)
    (h : Heap) :
    wp (errorAddV error (some text)) (Gives h ((errorValue error).addText text)) h := by
  simp only [errorAddV, wp_bind]
  apply wp_mono (errorMakeMutable_spec wf h)
  rintro r h₁ ⟨l₁, ⟨e, rfl, hw, hd, d₁, hv⟩ | ⟨rfl, lt⟩⟩
  · simp only [hd, Bool.false_eq_true, if_false, wp_bind]
    have msg : (e.message.getD ⟨.static, ""⟩).val = (errorValue error).message := by
      rw [← hv]
      simp only [Error.value, errorGetMessage]
      cases e.message <;> rfl
    apply wp_malloc
    · intro h₂ l₂ _ d₂
      simp only [wp_bind, wp_pure]
      apply wp_free
      intro h₃ le₃ _ d₃ _
      refine ⟨_, rfl, hw, l₁.trans (l₂.trans le₃), .inl ⟨?_, ?_⟩⟩
      · rw [d₃, d₂, d₁]
      · ext1
        · rw [addText_message, ← msg]
          rfl
        · rw [← hv]
          rfl
    · -- the request for the new message was denied: the error is freed, the mask takes its place
      intro h₂ l₂ pos _
      simp only [wp_bind, wp_pure]
      apply wp_errorFree
      intro h₃ l₃ d₃
      apply Gives.masked (l₁.trans (l₂.trans l₃))
      rw [d₃, pos (Nat.succ_ne_zero _), d₁]
      exact Nat.lt_succ_self _
  · show wp (pure (some errorMaskedByNoMemory)) _ h₁
    rw [wp_pure]
    exact .masked l₁ lt

/-- `error_add_code` appends the code, unless there are too many codes already. -/
lemma errorAddCode_spec {error : Option Error} (wf : ∀ e, error = some e → e.WF) (code : UInt32)
    (h : Heap) :
    wp (errorAddCode error code) (fun r h' =>
      Gives h ((errorValue error).addCode code) r h' ∨
        sizeMax / sizeofUInt32 ≤ (errorValue error).codes.length ∧
          Gives h (errorValue error) r h') h := by
  simp only [errorAddCode, wp_bind]
  apply wp_mono (errorMakeMutable_spec wf h)
  rintro r h₁ ⟨l₁, ⟨e, rfl, hw, hd, d₁, hv⟩ | ⟨rfl, lt⟩⟩
  · have codes : (errorValue error).codes = e.codes := by
      rw [← hv]
      exact hw.take_codes
    simp only [hd, Bool.false_eq_true, if_false]
    apply wp_ite
    · -- another code would overflow the size of the array
      intro full
      simp only [wp_pure]
      refine .inr ⟨?_, e, rfl, hw, l₁, .inl ⟨d₁, hv⟩⟩
      rw [codes, ← hw]
      exact full
    · intro _
      simp only [wp_bind]
      apply wp_realloc (Nat.mul_ne_zero (Nat.succ_ne_zero _) (by decide))
      · intro h₂ l₂ d₂
        simp only [wp_pure]
        refine .inl ⟨_, rfl, ?_, l₁.trans l₂, .inl ⟨by rw [d₂, d₁], ?_⟩⟩
        · show e.codeCount + 1 = (e.codes.take e.codeCount ++ [code]).length
          rw [hw.take_codes, List.length_append, List.length_singleton, hw]
        · ext1
          · rw [← hv]
            rfl
          · show (e.codes.take e.codeCount ++ [code]).take (e.codeCount + 1) = _
            rw [hw.take_codes, hw, List.take_of_length_le (by simp)]
            simp only [ErrorValue.addCode, codes]
      · intro h₂ l₂ d₂
        simp only [wp_bind, wp_pure]
        apply wp_errorFree
        intro h₃ l₃ d₃
        apply Or.inl
        apply Gives.masked (l₁.trans (l₂.trans l₃))
        rw [d₃, d₂, d₁]
        exact Nat.lt_succ_self _
  · show wp (pure (some errorMaskedByNoMemory)) _ h₁
    rw [wp_pure]
    exact .inl (.masked l₁ lt)

/-- `libusbp_error_copy` keeps what the error says. -/
lemma errorCopy_gives {e : Error} (wf : e.WF) (h : Heap) :
    wp (errorCopy (some e)) (Gives h e.value) h :=
  wp_mono (errorCopy_spec wf h) fun _ _ => Mutable.gives

/-- An error was made: a pointer that is not null, to a well-formed error. -/
def Made (h : Heap) (r : Option Error) (h' : Heap) : Prop :=
  ∃ e, r = some e ∧ e.WF ∧ Le h h'

lemma Gives.made {h h' : Heap} {v : ErrorValue} {r : Option Error} (g : Gives h v r h') :
    Made h r h' := by
  obtain ⟨e, rfl, wf, le, _⟩ := g
  exact ⟨e, rfl, wf, le⟩

lemma Made.wf {h h' : Heap} {r : Option Error} (m : Made h r h') : ∀ e, r = some e → e.WF := by
  obtain ⟨e, rfl, wf, _⟩ := m
  rintro _ ⟨⟩
  exact wf

lemma Made.after {h h₁ h₂ : Heap} {r : Option Error} (le : Le h h₁) (m : Made h₁ r h₂) :
    Made h r h₂ := by
  obtain ⟨e, rfl, wf, le'⟩ := m
  exact ⟨e, rfl, wf, le.trans le'⟩

lemma Made.le {h h' : Heap} {r : Option Error} (m : Made h r h') : Le h h' := by
  obtain ⟨_, _, _, le⟩ := m
  exact le

/-- The copy of an error is null exactly if the error is. -/
lemma wp_errorCopy {error : Option Error} (wf : ∀ e, error = some e → e.WF) {h : Heap}
    {Q : Option Error → Heap → Prop}
    (post : ∀ r h', Le h h' → (r = none ↔ error = none) → Q r h') : wp (errorCopy error) Q h := by
  cases error with
  | none =>
    simp only [errorCopy, wp_pure]
    exact post none h (Le.refl h) Iff.rfl
  | some e =>
    apply wp_mono (errorCopy_gives (wf e rfl) h)
    rintro r h' ⟨e', rfl, _, le, _⟩
    exact post _ h' le (by simp)

lemma made_create (text : String) (h : Heap) : wp (errorCreate (some text)) (Made h) h :=
  wp_mono (errorAddV_spec (by rintro _ ⟨⟩) text h) fun _ _ => Gives.made

lemma Made.add {h h' : Heap} {r : Option Error} (m : Made h r h') (text : String) :
    wp (errorAdd r (some text)) (Made h) h' :=
  wp_mono (errorAddV_spec m.wf text h') fun _ _ g => g.made.after m.le

lemma Made.addCode {h h' : Heap} {r : Option Error} (m : Made h r h') (code : UInt32) :
    wp (errorAddCode r code) (Made h) h' := by
  apply wp_mono (errorAddCode_spec m.wf code h')
  rintro r' h'' (g | ⟨_, g⟩)
  · exact g.made.after m.le
  · exact g.made.after m.le

/-- One call of a chain; `create` starts from the null pointer. -/
inductive ErrorStep where
  | create (text : String)
  | add (text : String)
  | addV (text : String)
  | addCode (code : UInt32)
  | copy

namespace ErrorStep

def exec (error : Option Error) : ErrorStep → Prog Fault Heap (Option Error)
  | create text => errorCreate (some text)
  | add text => errorAdd error (some text)
  | addV text => errorAddV error (some text)
  | addCode code => errorAddCode error code
  | copy => errorCopy error

/-- The code that a call adds. -/
def code? : ErrorStep → Option UInt32
  | addCode code => some code
  | _ => none

/-- What a call makes of a value. -/
def value (v : ErrorValue) : ErrorStep → ErrorValue
  | create text => v.addText text
  | add text => v.addText text
  | addV text => v.addText text
  | addCode code => v.addCode code
  | copy => v

end ErrorStep

/-- A chain of calls, each applied to the result of the one before. -/
def errorChain (error : Option Error) : List ErrorStep → Prog Fault Heap (Option Error)
  | [] => pure error
  | step :: steps => do
    let error ← step.exec error
    errorChain error steps

/-- One chain after the other. -/
lemma errorChain_append {error : Option Error} {steps steps' : List ErrorStep} :
    errorChain error (steps ++ steps') =
      (do let error ← errorChain error steps; errorChain error steps') := by
  induction steps generalizing error with
  | nil => simp only [List.nil_append, errorChain, pure_bind]
  | cons step steps ih => simp only [List.cons_append, errorChain, bind_assoc, ih]

/-- A call that adds a text or a code to the error it is given. -/
def ErrorStep.adds : ErrorStep → Bool
  | .add _ | .addV _ | .addCode _ => true
  | .create _ | .copy => false

/-- A chain of at most `n` texts and codes to add. -/
structure Additions (n : Nat) (steps : List ErrorStep) : Prop where
  adds : ∀ step ∈ steps, step.adds = true
  few : steps.length ≤ n

lemma Additions.append {n k : Nat} {steps steps' : List ErrorStep} (h : Additions n steps)
    (h' : Additions k steps') : Additions (n + k) (steps ++ steps') where
  adds step mem := (List.mem_append.mp mem).elim (h.adds step) (h'.adds step)
  few := by
    rw [List.length_append]
    exact Nat.add_le_add h.few h'.few

lemma Additions.addV (text : String) : Additions 1 [.addV text] where
  adds step mem := by
    rw [List.mem_singleton.mp mem]
    rfl
  few := Nat.le_refl 1

/-- Both ends of a branch. -/
lemma Additions.ite {n : Nat} {c : Prop} [Decidable c] {a b : List ErrorStep × Bool}
    (h : Additions n a.1) (h' : Additions n b.1) : Additions n (if c then a else b).1 := by
  by_cases hc : c
  · rwa [if_pos hc]
  · rwa [if_neg hc]

/-- The calls of a list, with the answer that stands next to it. -/
def detailChain (error : Option Error) (details : List ErrorStep × Bool) :
    Prog Fault Heap (Option Error × Bool) := do
  let error ← errorChain error details.1
  pure (error, details.2)

/-- Programs that are chosen in the way in which the lists of calls are chosen. -/
lemma detailChain_ite {error : Option Error} {c : Prop} [Decidable c]
    {x y : Prog Fault Heap (Option Error × Bool)} {a b : List ErrorStep × Bool}
    (hx : x = detailChain error a) (hy : y = detailChain error b) :
    (if c then x else y) = detailChain error (if c then a else b) := by
  rw [hx, hy, apply_ite (detailChain error)]

/-- A chain of texts and codes added to an error. -/
lemma Made.chain {h h₁ : Heap} {r : Option Error} {steps : List ErrorStep} (m : Made h r h₁)
    (adds : ∀ step ∈ steps, step.adds = true) : wp (errorChain r steps) (Made h) h₁ := by
  induction steps generalizing r h₁ with
  | nil => exact wp_pure.mpr m
  | cons step steps ih =>
    rw [errorChain, wp_bind]
    have rest : ∀ r' h', Made h r' h' → wp (errorChain r' steps) (Made h) h' :=
      fun _ _ m => ih m fun step mem => adds step (List.mem_cons_of_mem _ mem)
    cases step with
    | create text | copy => exact absurd (adds _ List.mem_cons_self) Bool.false_ne_true
    | add text | addV text => exact wp_mono (m.add text) rest
    | addCode code => exact wp_mono (m.addCode code) rest

/-- A new error with a chain of texts and codes added to it. -/
lemma made_chain (text : String) {steps : List ErrorStep} (adds : ∀ step ∈ steps, step.adds = true)
    (h : Heap) : wp (errorChain none (.create text :: steps)) (Made h) h := by
  rw [errorChain, wp_bind]
  apply wp_mono (made_create text h)
  exact fun r h₁ m => m.chain adds

/-- The chains in question: from the null pointer the first call creates or adds, and nothing but
the null pointer is created from. -/
def ErrorChainOk : Bool → List ErrorStep → Prop
  | true, [] => False
  | true, .copy :: _ => False
  | true, _ :: steps => ErrorChainOk false steps
  | false, [] => True
  | false, .create _ :: _ => False
  | false, _ :: steps => ErrorChainOk false steps

/-- The errors that a chain starts from: the null pointer, `error_no_memory`, and what a chain from
one of these built. The heap in which the building started is `h₀`. -/
def ErrorOrigin (h₀ : Heap) (error : Option Error) (h : Heap) : Prop :=
  h = h₀ ∧ (error = none ∨ error = some errorNoMemory) ∨
    ∃ start steps, (start = none ∨ start = some errorNoMemory) ∧
      ErrorChainOk start.isNone steps ∧ errorChain start steps h₀ = .ok (error, h)

/-- One step of a chain: the error stays well formed, keeps the record of a denied request, and
says what the step makes of it unless a request is denied or the array of codes is full. -/
lemma ErrorStep.exec_spec {error : Option Error} (wf : ∀ e, error = some e → e.WF)
    {step : ErrorStep} (ok : ErrorChainOk error.isNone [step]) (h : Heap) :
    wp (step.exec error) (fun r h' =>
      Gives h (step.value (errorValue error)) r h' ∨
        sizeMax / sizeofUInt32 ≤ (errorValue error).codes.length ∧ step.code?.isSome ∧
          Gives h (errorValue error) r h') h := by
  cases step with
  | create text =>
    cases error with
    | none => exact wp_mono (errorAddV_spec wf text h) fun _ _ => Or.inl
    | some e => exact ok.elim
  | add text => exact wp_mono (errorAddV_spec wf text h) fun _ _ => Or.inl
  | addV text => exact wp_mono (errorAddV_spec wf text h) fun _ _ => Or.inl
  | addCode code =>
    apply wp_mono (errorAddCode_spec wf code h)
    rintro r h' (g | ⟨full, g⟩)
    · exact .inl g
    · exact .inr ⟨full, rfl, g⟩
  | copy =>
    cases error with
    | none => exact ok.elim
    | some e => exact wp_mono (errorCopy_gives (wf e rfl) h) fun _ _ => Or.inl

/-- A code is never lost. -/
lemma ErrorStep.mem_value {v : ErrorValue} {code : UInt32} (mem : code ∈ v.codes)
    (step : ErrorStep) : code ∈ (step.value v).codes := by
  cases step with
  | addCode c => exact List.mem_append_left _ mem
  | _ => exact mem

/-- The state of a chain that began in the heap `h₀`: the error is well formed, and if a request was
denied since, it has the memory code. -/
structure ErrorSound (h₀ : Heap) (error : Option Error) (h : Heap) : Prop where
  le : Le h₀ h
  wf : ∀ e, error = some e → e.WF
  denied : h₀.denials < h.denials → (ErrorCode.memory : UInt32) ∈ (errorValue error).codes

/-- What a step gives continues a sound chain. -/
lemma Gives.sound {h₀ h h' : Heap} {error r : Option Error} {v : ErrorValue}
    (snd : ErrorSound h₀ error h) (g : Gives h v r h')
    (keep : ∀ code ∈ (errorValue error).codes, code ∈ v.codes) : ErrorSound h₀ r h' := by
  obtain ⟨e, rfl, wf, le, outcome⟩ := g
  refine ⟨snd.le.trans le, ?_, ?_⟩
  · rintro _ ⟨⟩
    exact wf
  · intro lt
    obtain ⟨hd, hv⟩ | ⟨_, mem⟩ := outcome
    · have mem := keep _ (snd.denied (by omega))
      rwa [← hv] at mem
    · exact mem

/-- A step leads from a sound chain to a sound chain and to an error that is not null. -/
lemma ErrorStep.exec_sound {h₀ h : Heap} {error : Option Error} (snd : ErrorSound h₀ error h)
    {step : ErrorStep} (ok : ErrorChainOk error.isNone [step]) :
    wp (step.exec error) (fun r h' => ErrorSound h₀ r h' ∧ r ≠ none) h := by
  apply wp_mono (exec_spec snd.wf ok h)
  rintro r h' (g | ⟨_, _, g⟩)
  · refine ⟨g.sound snd fun code mem => mem_value mem step, ?_⟩
    obtain ⟨e, rfl, _⟩ := g
    exact Option.some_ne_none e
  · refine ⟨g.sound snd fun code mem => mem, ?_⟩
    obtain ⟨e, rfl, _⟩ := g
    exact Option.some_ne_none e

lemma ErrorChainOk.head {null : Bool} {step : ErrorStep} {steps : List ErrorStep}
    (ok : ErrorChainOk null (step :: steps)) :
    ErrorChainOk null [step] ∧ ErrorChainOk false steps := by
  cases null with
  | true =>
    cases step with
    | copy => exact ok.elim
    | _ => exact ⟨trivial, ok⟩
  | false =>
    cases step with
    | create text => exact ok.elim
    | _ => exact ⟨trivial, ok⟩

/-- A whole chain keeps the error sound and ends in an error that is not null. -/
lemma errorChain_sound {h₀ h : Heap} {error : Option Error} {steps : List ErrorStep}
    (snd : ErrorSound h₀ error h) (ok : ErrorChainOk error.isNone steps) :
    wp (errorChain error steps) (fun r h' => ErrorSound h₀ r h' ∧ r ≠ none) h := by
  induction steps generalizing error h with
  | nil =>
    simp only [errorChain, wp_pure]
    cases error with
    | none => exact ok.elim
    | some e => exact ⟨snd, Option.some_ne_none e⟩
  | cons step steps ih =>
    -- after the first call the error is not null, so the rest is a chain from a real error
    obtain ⟨ok₁, ok₂⟩ := ok.head
    simp only [errorChain, wp_bind]
    apply wp_mono (step.exec_sound snd ok₁)
    rintro r h' ⟨snd', nn⟩
    apply ih snd'
    cases r with
    | none => exact absurd rfl nn
    | some e => exact ok₂

/-- Where a chain starts from is sound. -/
lemma ErrorOrigin.sound {h₀ h : Heap} {error : Option Error} (o : ErrorOrigin h₀ error h) :
    ErrorSound h₀ error h := by
  have base : ∀ start : Option Error, start = none ∨ start = some errorNoMemory →
      ErrorSound h₀ start h₀ := by
    rintro start (rfl | rfl)
    · exact ⟨Le.refl h₀, (by rintro _ ⟨⟩), fun lt => absurd lt (Nat.lt_irrefl _)⟩
    · refine ⟨Le.refl h₀, ?_, fun lt => absurd lt (Nat.lt_irrefl _)⟩
      rintro _ ⟨⟩
      exact errorNoMemory_wf
  rcases o with ⟨rfl, start⟩ | ⟨start, steps, hs, ok, run⟩
  · exact base error start
  · exact ((errorChain_sound (base start hs) ok).elim run).1

/-- What a chain makes of a value. -/
def chainValue (v : ErrorValue) (steps : List ErrorStep) : ErrorValue :=
  steps.foldl ErrorStep.value v

end Libusbp
