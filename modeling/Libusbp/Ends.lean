import Libusbp.ErrorLedger
import Libusbp.Lib.Host
import Libusbp.Lib.Local

/-!
# How a call ends

Most functions of the library return an error and write an output. What such a function is meant to
do is an `Except ErrorValue (Option β)`: the text and codes of the error, or what the output says, if
it is not null. `Ends m d o` says that the call has done it, having started with `m` in hand and `d`
requests for memory denied so far: it returned no error and the output says what `o` says, no further
request was denied, and besides `m` only the output is held; or it returned an error, the output is
null, besides `m` only the error is held, and the error says what `o` says unless a request was denied,
in which case it has the code `LIBUSBP_ERROR_MEMORY`.
-/

namespace Libusbp

open Prog Host

variable {κ α β γ : Type} [DecidableEq κ]

/-- An error with just a text. -/
def ErrorValue.ofText (text : String) : ErrorValue := ⟨text, []⟩

/-- The outcome of a check that fails under the condition `c`. -/
def failIf (c : Prop) [Decidable c] (v : ErrorValue) : Except ErrorValue Unit :=
  if c then .error v else .ok ()

/-- The program holds `m`, and `d` requests for memory were denied so far. -/
structure Holding (m : Holdings κ) (d : Nat) (s : Host κ) : Prop where
  owns : s.Owns m
  denials : s.denials = d

lemma Holding.of_eq {m m' : Holdings κ} {d : Nat} {s : Host κ} (own : Holding m d s) (e : m = m') :
    Holding m' d s := e ▸ own

/-- The value of an error is one of `V`, or a request was denied and it has the memory code. -/
def Says (d : Nat) (V : ErrorValue → Prop) (v : ErrorValue) (s : Host κ) : Prop :=
  s.denials = d ∧ V v ∨ d < s.denials ∧ (ErrorCode.memory : UInt32) ∈ v.codes

/-- The call ended in the error `e`, which says one of `V` unless a request for memory was denied. -/
structure Raised (m : Holdings κ) (d : Nat) (V : ErrorValue → Prop) (e : Error) (s : Host κ) :
    Prop where
  sound : e.Sound
  owns : s.Owns (m + (e.blocks, 0))
  value : Says d V e.value s

/-- The call of a function with an output ended as `o` says. -/
def Ends [Owned κ α] [Content α β] (m : Holdings κ) (d : Nat) (o : Except ErrorValue (Option β))
    (r : Option Error × Option α) (s : Host κ) : Prop :=
  match r with
  | (none, x) => o = .ok (x.map content) ∧ Holding (m + owned x) d s
  | (some e, x) => x = none ∧ Raised m d (fun v => o = .error v) e s

/-- The call of a function that gets a plain value ended as `o` says. -/
def Gets (m : Holdings κ) (d : Nat) (o : Except ErrorValue γ) (r : Option Error × γ)
    (s : Host κ) : Prop :=
  match r with
  | (none, x) => o = .ok x ∧ Holding m d s
  | (some e, _) => Raised m d (fun v => o = .error v) e s

/-- The call of a function that only checks something ended as `o` says. -/
def Checked (m : Holdings κ) (d : Nat) (o : Except ErrorValue Unit) (r : Option Error)
    (s : Host κ) : Prop :=
  match r with
  | none => o = .ok () ∧ Holding m d s
  | some e => Raised m d (fun v => o = .error v) e s

namespace Raised

variable {m : Holdings κ} {d : Nat} {V W : ErrorValue → Prop} {e : Error} {s : Host κ}

lemma mono (r : Raised m d V e s) (imp : ∀ v, V v → W v) : Raised m d W e s where
  sound := r.sound
  owns := r.owns
  value := r.value.imp_left fun h => ⟨h.1, imp _ h.2⟩

lemma of_eq {m' : Holdings κ} (r : Raised m d V e s) (eq : m = m') : Raised m' d V e s := eq ▸ r

/-- `error_no_memory` after a denied request. -/
lemma noMemory (own : s.Owns m) (lt : d < s.denials) : Raised m d V errorNoMemory s where
  sound := errorNoMemory_sound
  owns := own.of_eq (by rw [errorNoMemory_blocks]; exact (add_zero m).symm)
  value := .inr ⟨lt, by decide⟩

/-- `error_no_memory` right after the denied request. -/
lemma denied (own : s.Owns m) (hd : s.denials = d + 1) : Raised m d V errorNoMemory s :=
  .noMemory own (Nat.lt_of_lt_of_eq (Nat.lt_succ_self d) hd.symm)

/-- An error of a call that had nothing to say is one that a denied request left. -/
lemma of_ok {α : Type} {x : α} {W : ErrorValue → Prop}
    (r : Raised m d (fun v => Except.ok x = Except.error v) e s) : Raised m d W e s :=
  r.mono fun _ h => nomatch h

lemma wf (r : Raised m d V e s) : ∀ e', some e = some e' → e'.WF := by
  rintro _ ⟨⟩
  exact r.sound.wf

lemma sound' (r : Raised m d V e s) : ∀ e', some e = some e' → e'.Sound := by
  rintro _ ⟨⟩
  exact r.sound

/-- What a function of `error.c` makes of an error that says one of `V`. -/
lemma after {h : Heap} {error r : Option Error} {f : ErrorValue → ErrorValue}
    (own : s.Owns (m + (errorBlocks error, 0))) (said : Says d V (errorValue error) s)
    (keepsMemory : ∀ v, (ErrorCode.memory : UInt32) ∈ v.codes →
      (ErrorCode.memory : UInt32) ∈ (f v).codes)
    (gives : Gives s.heap (f (errorValue error)) r h) (keeps : Keeps m.1 r h) :
    ∃ e, r = some e ∧ Raised m d (fun v => ∃ u, V u ∧ v = f u) e { s with heap := h } := by
  obtain ⟨e, rfl, _, _, outcome⟩ := gives
  obtain ⟨snd, own'⟩ := keeps
  refine ⟨e, rfl, snd e rfl, (own.inHeap own').of_eq (Prod.ext rfl rfl), ?_⟩
  rcases said with ⟨eq, hV⟩ | ⟨lt, mem⟩
  · rcases outcome with ⟨hd, hv⟩ | ⟨lt, mem⟩
    · exact .inl ⟨hd.trans eq, _, hV, hv⟩
    · exact .inr ⟨eq ▸ lt, mem⟩
  · rcases outcome with ⟨hd, hv⟩ | ⟨lt', mem'⟩
    · exact .inr ⟨Nat.lt_of_lt_of_eq lt hd.symm, hv ▸ keepsMemory _ mem⟩
    · exact .inr ⟨Nat.lt_trans lt lt', mem'⟩

/-- Another text on the error. -/
lemma wp_add (r : Raised m d V e s) (text : String) {Q : Option Error → Host κ → Prop}
    (post : ∀ e' s', Raised m d (fun v => ∃ u, V u ∧ v = u.addText text) e' s' → Q (some e') s') :
    wp (inHeap (errorAdd (some e) (some text))) Q s := by
  simp only [inHeap, wp_zoom]
  apply wp_mono ((errorAddV_spec r.wf text s.heap).and
    (errorAddV_owns r.sound' (some text) r.owns.heap))
  rintro r' h ⟨gives, keeps⟩
  obtain ⟨e', rfl, raised⟩ := after (f := fun v => v.addText text) r.owns r.value
    (fun _ mem => mem) gives keeps
  exact post e' _ raised

/-- Another code on the error. -/
lemma wp_addCode (r : Raised m d V e s) (code : UInt32)
    (few : ∀ u, V u → u.codes.length < sizeMax / sizeofUInt32) {Q : Option Error → Host κ → Prop}
    (post : ∀ e' s', Raised m d (fun v => ∃ u, V u ∧ v = u.addCode code) e' s' → Q (some e') s') :
    wp (inHeap (errorAddCode (some e) code)) Q s := by
  simp only [inHeap, wp_zoom]
  apply wp_mono ((errorAddCode_spec r.wf code s.heap).and
    (errorAddCode_owns r.sound' code r.owns.heap))
  rintro r' h ⟨gives | ⟨full, gives⟩, keeps⟩
  · obtain ⟨e', rfl, raised⟩ := after (f := fun v => v.addCode code) r.owns r.value
      (fun _ mem => List.mem_append_left _ mem) gives keeps
    exact post e' _ raised
  · -- an array that is full leaves the error as it is; then a request was denied before
    have denied : Says d (fun _ => False) e.value s := by
      rcases r.value with ⟨_, hV⟩ | lt
      · exact absurd full (Nat.not_le_of_lt (few _ hV))
      · exact .inr lt
    have own : s.Owns (m + (errorBlocks (some e), 0)) := r.owns
    obtain ⟨e', rfl, raised⟩ := after (f := id) own denied
      (fun _ mem => mem) gives keeps
    exact post e' _ (raised.mono (by rintro _ ⟨_, ⟨⟩, _⟩))

/-- The error is freed. -/
lemma wp_free (r : Raised m d V e s) {Q : Unit → Host κ → Prop}
    (post : ∀ s', Holding m s.denials s' → Q () s') :
    wp (inHeap (errorFree (some e))) Q s := by
  simp only [inHeap, wp_zoom]
  apply errorFree_owns r.owns.heap
  intro h own hd
  exact post _ ⟨(r.owns.inHeap own).of_eq (Prod.ext rfl (add_zero _)), hd⟩

end Raised

/-- A call whose output is not null when it succeeds. -/
lemma Ends.elim [Owned κ α] [Content α β] {m : Holdings κ} {d : Nat} {o : Except ErrorValue β}
    {r : Option Error × Option α} {s : Host κ} (h : Ends m d (o.map some) r s) :
    (∃ a, r = (none, some a) ∧ o = .ok (content a) ∧ Holding (m + owned a) d s) ∨
      ∃ e, r = (some e, none) ∧ Raised m d (fun v => o = .error v) e s := by
  obtain ⟨_ | e, x⟩ := r
  · obtain ⟨ho, own⟩ := h
    cases o with
    | error u => cases ho
    | ok b =>
      cases x with
      | none => cases ho
      | some a =>
        cases ho
        exact .inl ⟨a, rfl, rfl, own⟩
  · obtain ⟨rfl, raised⟩ := h
    refine .inr ⟨e, rfl, raised.mono fun v hv => ?_⟩
    cases o with
    | error u =>
      cases hv
      rfl
    | ok b => cases hv

/-- Without a denied request the call is determined by its outcome. -/
lemma Ends.result [Owned κ α] [Content α β] {m : Holdings κ} {d : Nat} {o : Except ErrorValue β}
    {r : Option Error × Option α} {s : Host κ} (h : Ends m d (o.map some) r s)
    (granted : s.denials = d) :
    (∃ b, o = .ok b ∧ r.1 = none ∧ r.2.map content = some b) ∨
      ∃ v, o = .error v ∧ r.1.map (·.value) = some v ∧ r.2 = none := by
  obtain ⟨a, rfl, ho, _⟩ | ⟨e, rfl, raised⟩ := h.elim
  · exact .inl ⟨content a, ho, rfl, rfl⟩
  · rcases raised.value with ⟨_, ho⟩ | ⟨lt, _⟩
    · exact .inr ⟨e.value, ho, rfl, rfl⟩
    · omega

/-- The function returned an object that is not null or, with a null output, an error; everything
that it acquired on the way was given back exactly once. -/
def Releases [Owned κ α] (m : Holdings κ) (r : Option Error × Option α) (s : Host κ) : Prop :=
  match r with
  | (none, x) => x.isSome ∧ s.Settled (m + owned x)
  | (some e, x) => x = none ∧ s.Settled (m + (e.blocks, 0))

lemma Ends.releases [Owned κ α] [Content α β] {m : Holdings κ} {d : Nat} {o : Except ErrorValue β}
    {r : Option Error × Option α} {s : Host κ} (h : Ends m d (o.map some) r s) : Releases m r s := by
  obtain ⟨a, rfl, _, own⟩ | ⟨e, rfl, raised⟩ := h.elim
  · exact ⟨rfl, own.owns.settled⟩
  · exact ⟨rfl, raised.owns.settled⟩

/-- The call of a function with an output ended with an object that satisfies `P`, without a denied
request, or with an error and nothing else. -/
def Ended [Owned κ α] (P : α → Prop) (m : Holdings κ) (d : Nat) (r : Option Error × Option α)
    (s : Host κ) : Prop :=
  match r with
  | (none, x) => ∃ a, x = some a ∧ P a ∧ Holding (m + owned a) d s
  | (some e, x) => x = none ∧ Raised m d (fun _ => True) e s

lemma Raised.any {m : Holdings κ} {d : Nat} {V : ErrorValue → Prop} {e : Error} {s : Host κ}
    (r : Raised m d V e s) : Raised m d (fun _ => True) e s := r.mono fun _ _ => trivial

lemma Ends.ended [Owned κ α] [Content α β] {m : Holdings κ} {d : Nat} {o : Except ErrorValue β}
    {r : Option Error × Option α} {s : Host κ} (h : Ends m d (o.map some) r s) :
    Ended (fun a => o = .ok (content a)) m d r s := by
  obtain ⟨a, rfl, ho, own⟩ | ⟨e, rfl, raised⟩ := h.elim
  · exact ⟨a, rfl, ho, own⟩
  · exact ⟨rfl, raised.any⟩

lemma Ended.mono [Owned κ α] {P P' : α → Prop} {m : Holdings κ} {d : Nat}
    {r : Option Error × Option α} {s : Host κ} (h : Ended P m d r s) (imp : ∀ a, P a → P' a) :
    Ended P' m d r s := by
  obtain ⟨_ | e, x⟩ := r
  · obtain ⟨a, rfl, p, own⟩ := h
    exact ⟨a, rfl, imp a p, own⟩
  · exact h

/-- The call of a function with an output came to the object `o`, or to an error if there is none or if
a request was denied. -/
def Makes [Owned κ α] [Content α β] (o : Option β) (m : Holdings κ) (d : Nat)
    (r : Option Error × Option α) (s : Host κ) : Prop :=
  match r with
  | (none, x) => ∃ a, x = some a ∧ o = some (content a) ∧ Holding (m + owned a) d s
  | (some e, x) => x = none ∧ Raised m d (fun _ => o = none) e s

lemma Ends.makes [Owned κ α] [Content α β] {m : Holdings κ} {d : Nat} {o : Except ErrorValue β}
    {r : Option Error × Option α} {s : Host κ} (h : Ends m d (o.map some) r s) :
    Makes o.toOption m d r s := by
  obtain ⟨a, rfl, rfl, own⟩ | ⟨e, rfl, raised⟩ := h.elim
  · exact ⟨a, rfl, rfl, own⟩
  · exact ⟨rfl, raised.mono fun v hv => by rw [hv]; rfl⟩

lemma Makes.ended [Owned κ α] [Content α β] {m : Holdings κ} {d : Nat} {o : Option β}
    {r : Option Error × Option α} {s : Host κ} (h : Makes o m d r s) :
    Ended (fun a => o = some (content a)) m d r s := by
  obtain ⟨_ | e, x⟩ := r
  · exact h
  · exact ⟨h.1, h.2.any⟩

/-- A call that asks for no memory but that of its error came to `o`. -/
def Comes [Owned κ α] [Content α β] (m : Holdings κ) (d : Nat) (o : Except ErrorValue β)
    (r : Option Error × Option α) (s : Host κ) : Prop :=
  match o with
  | .ok b => ∃ a, r = (none, some a) ∧ content a = b ∧ Holding (m + owned a) d s
  | .error v => ∃ e, r = (some e, none) ∧ Raised m d (· = v) e s

lemma Comes.ends [Owned κ α] [Content α β] {m : Holdings κ} {d : Nat} {o : Except ErrorValue β}
    {r : Option Error × Option α} {s : Host κ} (h : Comes m d o r s) : Ends m d (o.map some) r s := by
  cases o with
  | ok b =>
    obtain ⟨a, rfl, rfl, own⟩ := h
    exact ⟨rfl, own⟩
  | error v =>
    obtain ⟨e, rfl, raised⟩ := h
    exact ⟨rfl, raised.mono fun _ hv => by rw [hv]; rfl⟩

/-- An outcome whose error has another text in front. -/
def withContext (o : Except ErrorValue γ) (text : String) : Except ErrorValue γ :=
  o.mapError (·.addText text)

lemma withContext_error {o : Except ErrorValue γ} {text : String} {v : ErrorValue}
    (h : o = .error v) : withContext o text = .error (v.addText text) := by
  rw [h]
  rfl

/-- A new error. -/
lemma Holding.wp_create {m : Holdings κ} {d : Nat} {s : Host κ} (own : Holding m d s)
    (text : String) {Q : Option Error → Host κ → Prop}
    (post : ∀ e s', Raised m d (· = .ofText text) e s' → Q (some e) s') :
    wp (inHeap (errorCreate (some text))) Q s := by
  have own' : s.Owns (m + (errorBlocks none, 0)) := own.owns.of_eq (add_zero m).symm
  have blank : Says d (· = .blank) (errorValue none) s := .inl ⟨own.denials, rfl⟩
  simp only [inHeap, wp_zoom]
  apply wp_mono ((errorAddV_spec (by rintro _ ⟨⟩) text s.heap).and
    (errorAddV_owns (by rintro _ ⟨⟩) (some text) own'.heap))
  rintro r h ⟨gives, keeps⟩
  obtain ⟨e, rfl, raised⟩ := Raised.after (f := fun v => v.addText text) own' blank
    (fun _ mem => mem) gives keeps
  apply post e _ (raised.mono _)
  rintro _ ⟨_, rfl, rfl⟩
  simp only [ErrorValue.addText, ErrorValue.blank, ErrorValue.ofText, if_true]
  split
  case isTrue empty => rw [empty]
  case isFalse => rfl

/-- The program gives back what `o` holds and touches nothing else. -/
def GivesBack (x : Prog Fault (Host κ) Unit) (o : Holdings κ) : Prop :=
  ∀ m d s, Holding (m + o) d s → wp x (fun _ s' => Holding m d s') s

namespace GivesBack

variable {x y : Prog Fault (Host κ) Unit} {o o' m : Holdings κ} {d : Nat} {s : Host κ}

lemma nothing : GivesBack (pure () : Prog Fault (Host κ) Unit) 0 := by
  intro m d s own
  rw [wp_pure]
  exact own.of_eq (add_zero m)

lemma of_eq (h : GivesBack x o) (e : o = o') : GivesBack x o' := e ▸ h

/-- One after the other. -/
lemma seq (hx : GivesBack x o) (hy : GivesBack y o') : GivesBack (do x; y) (o + o') := by
  intro m d s own
  rw [wp_bind]
  apply wp_mono (hx (m + o') d s (own.of_eq (by abel)))
  exact fun _ s' own' => hy m d s' own'

lemma wp (h : GivesBack x o) (own : Holding (m + o) d s) {Q : Unit → Host κ → Prop}
    (post : ∀ s', Holding m d s' → Q () s') : wp x Q s :=
  wp_mono (h m d s own) fun _ => post

/-- Cleaning up leaves the error as it is. -/
lemma wp_raised (h : GivesBack x o) {V : ErrorValue → Prop} {e : Error}
    (r : Raised (m + o) d V e s) {Q : Unit → Host κ → Prop}
    (post : ∀ s', Raised m d V e s' → Q () s') : Prog.wp x Q s := by
  have own : Holding (m + (e.blocks, 0) + o) s.denials s := ⟨r.owns.of_eq (by abel), rfl⟩
  apply wp_mono (h _ _ s own)
  intro _ s' own'
  refine post s' ⟨r.sound, own'.owns, ?_⟩
  have value := r.value
  rwa [Says, ← own'.denials] at value

/-- A block whose contents own nothing. -/
lemma free {α : Type} [Owned κ α] {b : Option (Box α)}
    (bare : ∀ a : α, (owned a : Holdings κ) = 0 := by intro a; rfl) :
    GivesBack (Host.free b) (owned b : Holdings κ) := by
  intro m d s own
  exact own.owns.wp_free? (fun a _ => bare a.val) fun s' own' hd => ⟨own', hd.trans own.denials⟩

/-- The block of a box whose contents own nothing any more. -/
lemma freeBlock {α : Type} {b : Box α} :
    GivesBack (Host.free (some b)) (({.heap b.addr}, 0) : Holdings κ) := by
  intro m d s own
  exact own.owns.wp_free fun s' own' hd => ⟨own', hd.trans own.denials⟩

lemma freeNull {α : Type} : GivesBack (Host.free (none : Option (Box α))) (0 : Holdings κ) := by
  intro m d s own
  exact ⟨(), s, rfl, own.of_eq (add_zero m)⟩

lemma release? {k : κ} {r : Option Nat} :
    GivesBack (Host.release? k r) (r.elim 0 fun n => (0, {(k, n)})) := by
  intro m d s own
  exact own.owns.wp_release? fun s' own' hd => ⟨own', hd.trans own.denials⟩

end GivesBack

/-- The steps of a function ended as `o` says. Its variables hold the output and other things. -/
def Staged {ν : Type} [Owned κ α] [Content α β] (output : ν → Option α) (others : ν → Holdings κ)
    (m : Holdings κ) (d : Nat) (o : Except ErrorValue (Option β)) (r : Option Error × ν)
    (s : Host κ) : Prop :=
  match r with
  | (none, l) => o = .ok ((output l).map content) ∧ Holding (m + owned (output l) + others l) d s
  | (some e, l) => output l = none ∧ Raised (m + others l) d (fun v => o = .error v) e s

/-- A function whose cleaning up gives back what its variables hold besides the output. -/
lemma Staged.construct {ν : Type} [Owned κ α] [Content α β] {output : ν → Option α}
    (others : ν → Holdings κ) {m : Holdings κ} {d : Nat} {o : Except ErrorValue (Option β)}
    {s : Host κ} {steps : List (ν → Prog Fault (Host κ) (Option Error × ν))}
    {cleanUp : ν → Prog Fault (Host κ) Unit} {l : ν}
    (clean : ∀ l, GivesBack (cleanUp l) (others l))
    (h : wp (stages steps l) (Staged output others m d o) s) :
    wp (construct steps cleanUp output l) (Ends m d o) s := by
  simp only [Prog.construct, wp_bind, wp_pure]
  apply wp_mono h
  rintro ⟨_ | e, l'⟩ s' h'
  · exact (clean l').wp h'.2 fun s'' own => ⟨h'.1, own⟩
  · exact (clean l').wp_raised h'.2 fun s'' r => ⟨h'.1, r⟩

/-- The steps of a function ended with an output that satisfies `P`, or with an error. -/
def EndedSteps {ν : Type} [Owned κ α] (P : α → Prop) (output : ν → Option α) (others : ν → Holdings κ)
    (m : Holdings κ) (d : Nat) (r : Option Error × ν) (s : Host κ) : Prop :=
  match r with
  | (none, l) => ∃ a, output l = some a ∧ P a ∧ Holding (m + owned a + others l) d s
  | (some e, l) => output l = none ∧ Raised (m + others l) d (fun _ => True) e s

lemma EndedSteps.construct {ν : Type} [Owned κ α] {P : α → Prop} {output : ν → Option α}
    (others : ν → Holdings κ) {m : Holdings κ} {d : Nat} {s : Host κ}
    {steps : List (ν → Prog Fault (Host κ) (Option Error × ν))}
    {cleanUp : ν → Prog Fault (Host κ) Unit} {l : ν}
    (clean : ∀ l, GivesBack (cleanUp l) (others l))
    (h : wp (stages steps l) (EndedSteps P output others m d) s) :
    wp (construct steps cleanUp output l) (Ended P m d) s := by
  simp only [Prog.construct, wp_bind, wp_pure]
  apply wp_mono h
  rintro ⟨_ | e, l'⟩ s' h'
  · obtain ⟨a, ha, p, own⟩ := h'
    exact (clean l').wp own fun s'' own' => ⟨a, ha, p, own'⟩
  · exact (clean l').wp_raised h'.2 fun s'' r => ⟨h'.1, r⟩

/-- The steps of a function came to the object `o`, or to an error. -/
def MakesSteps {ν : Type} [Owned κ α] [Content α β] (o : Option β) (output : ν → Option α)
    (others : ν → Holdings κ) (m : Holdings κ) (d : Nat) (r : Option Error × ν) (s : Host κ) : Prop :=
  match r with
  | (none, l) => ∃ a, output l = some a ∧ o = some (content a) ∧ Holding (m + owned a + others l) d s
  | (some e, l) => output l = none ∧ Raised (m + others l) d (fun _ => o = none) e s

lemma MakesSteps.construct {ν : Type} [Owned κ α] [Content α β] {o : Option β} {output : ν → Option α}
    (others : ν → Holdings κ) {m : Holdings κ} {d : Nat} {s : Host κ}
    {steps : List (ν → Prog Fault (Host κ) (Option Error × ν))}
    {cleanUp : ν → Prog Fault (Host κ) Unit} {l : ν}
    (clean : ∀ l, GivesBack (cleanUp l) (others l))
    (h : wp (stages steps l) (MakesSteps o output others m d) s) :
    wp (construct steps cleanUp output l) (Makes o m d) s := by
  simp only [Prog.construct, wp_bind, wp_pure]
  apply wp_mono h
  rintro ⟨_ | e, l'⟩ s' h'
  · obtain ⟨a, ha, there, own⟩ := h'
    exact (clean l').wp own fun s'' own' => ⟨a, ha, there, own'⟩
  · exact (clean l').wp_raised h'.2 fun s'' r => ⟨h'.1, r⟩

/-- A text in front of the error that a pointer may point to. -/
def addContext (error : Option Error) (format : String) : Prog Fault (Host κ) (Option Error) :=
  if error.isSome then inHeap (errorAdd error format)
  else pure error

/-- A function that adds a text to its error before it cleans up. -/
lemma Staged.withContext {ν : Type} [Owned κ α] [Content α β] {output : ν → Option α}
    {others : ν → Holdings κ} {m : Holdings κ} {d : Nat} {o : Except ErrorValue β}
    {s : Host κ} {steps : List (ν → Prog Fault (Host κ) (Option Error × ν))}
    {cleanUp : ν → Prog Fault (Host κ) Unit} {l : ν} {text : String}
    (clean : ∀ l, GivesBack (cleanUp l) (others l))
    (h : wp (stages steps l) (Staged output others m d (o.map some)) s) :
    wp (do
      let (error, l) ← stages steps l
      let error ← addContext error text
      cleanUp l
      pure (error, output l)) (Ends m d ((withContext o text).map some)) s := by
  simp only [wp_bind, wp_pure]
  apply wp_mono h
  rintro ⟨_ | e, l'⟩ s' h'
  · simp only [addContext, Option.isSome_none, Bool.false_eq_true, if_false, wp_pure]
    refine (clean l').wp h'.2 fun s'' own => ⟨?_, own⟩
    cases o with
    | error v => exact absurd h'.1 (by rintro ⟨⟩)
    | ok b => exact h'.1
  · simp only [addContext, Option.isSome_some, if_true]
    apply h'.2.wp_add
    intro e' s'' r
    refine (clean l').wp_raised r fun s''' r' => ⟨h'.1, r'.mono ?_⟩
    rintro _ ⟨u, hu, rfl⟩
    cases o with
    | error v =>
      cases hu
      rfl
    | ok b => cases hu

section Raise

variable {m : Holdings κ} {d : Nat} {s : Host κ}

/-- The exit with a new reference as the output. -/
lemma Holding.acquire_ends [Owned κ α] [Content α β] (own : Holding m d s) {k : κ} {f : Nat → α}
    {b : β} (owns : ∀ n, (owned (f n) : Holdings κ) = (0, {(k, n)})) (shows : ∀ n, content (f n) = b) :
    wp (do
      let ref ← acquire k
      pure ((none : Option Error), some (f ref)) : Prog Fault (Host κ) _)
      (Ends m d (.ok (some b))) s := by
  simp only [wp_bind, wp_pure]
  apply own.owns.wp_acquire
  intro n s' own' hd
  refine ⟨by rw [Option.map_some, shows], own'.of_eq ?_, hd.trans own.denials⟩
  rw [owned_some, owns]

/-- The exit with a new error and a null output. -/
lemma Holding.raise_ends [Owned κ α] [Content α β] (own : Holding m d s) (text : String) :
    wp (do
      let error ← inHeap (errorCreate (some text))
      pure (error, (none : Option α))) (Ends m d (.error (.ofText text))) s := by
  simp only [wp_bind, wp_pure]
  apply own.wp_create
  intro e s' r
  exact ⟨rfl, r.mono fun _ hv => by rw [hv]⟩

lemma raise_releases [Owned κ α] (own : s.Owns m) (text : String) :
    wp (do
      let error ← inHeap (errorCreate (some text))
      pure (error, (none : Option α))) (Releases m) s := by
  simp only [wp_bind, wp_pure]
  apply Holding.wp_create ⟨own, rfl⟩
  intro e s' r
  exact ⟨rfl, r.owns.settled⟩

/-- The exit with a new error and no use for the output. -/
lemma Holding.raise_gets (own : Holding m d s) (text : String) (x : γ) :
    wp (do
      let error ← inHeap (errorCreate (some text))
      pure (error, x)) (Gets m d (.error (.ofText text))) s := by
  simp only [wp_bind, wp_pure]
  apply own.wp_create
  intro e s' r
  exact r.mono fun _ hv => by rw [hv]

end Raise

section Stages

variable {ν : Type} {m : Holdings κ} {d : Nat} {s : Host κ} {l : ν}
  {fs : List (ν → Prog Fault (Host κ) (Option Error × ν))} {Q : Option Error × ν → Host κ → Prop}

/-- A step of a constructor that writes an output, with the run of what it calls. -/
lemma Ends.stageRun [Owned κ α] [Content α β] {o : Except ErrorValue (Option β)}
    {f : ν → Prog Fault (Host κ) (Option Error × Option α)} {put : ν → Option α → ν}
    (h : wp (f l) (Ends m d o) s)
    (failed : ∀ e s', Raised m d (fun v => o = .error v) e s' → Q (some e, put l none) s')
    (ok : ∀ x s', f l s = .ok ((none, x), s') → o = .ok (x.map content) →
      Holding (m + owned x) d s' → wp (stages fs (put l x)) Q s') :
    wp (stages (into f put :: fs) l) Q s := by
  apply wp_stages_into
  apply wp_mono h.run
  rintro ⟨_ | e, x⟩ s' ⟨h', run⟩
  · exact ok x s' run h'.1 h'.2
  · obtain ⟨rfl, r⟩ := h'
    exact failed e s' r

/-- A step of a constructor that writes an output. -/
lemma Ends.stage [Owned κ α] [Content α β] {o : Except ErrorValue (Option β)}
    {f : ν → Prog Fault (Host κ) (Option Error × Option α)} {put : ν → Option α → ν}
    (h : wp (f l) (Ends m d o) s)
    (failed : ∀ e s', Raised m d (fun v => o = .error v) e s' → Q (some e, put l none) s')
    (ok : ∀ x s', o = .ok (x.map content) → Holding (m + owned x) d s' →
      wp (stages fs (put l x)) Q s') : wp (stages (into f put :: fs) l) Q s :=
  Ends.stageRun h failed fun x s' _ => ok x s'

/-- A step of a constructor whose output is not null. -/
lemma Ends.stageSome [Owned κ α] [Content α β] {o : Except ErrorValue β}
    {f : ν → Prog Fault (Host κ) (Option Error × Option α)} {put : ν → Option α → ν}
    (h : wp (f l) (Ends m d (o.map some)) s)
    (failed : ∀ e s', Raised m d (fun v => o = .error v) e s' → Q (some e, put l none) s')
    (ok : ∀ a s', o = .ok (content a) → Holding (m + owned a) d s' →
      wp (stages fs (put l (some a))) Q s') : wp (stages (into f put :: fs) l) Q s := by
  apply wp_stages_into
  apply wp_mono h
  intro r s' h'
  obtain ⟨a, rfl, ho, own⟩ | ⟨e, rfl, raised⟩ := h'.elim
  · exact ok a s' ho own
  · exact failed e s' raised

/-- A step of a constructor whose output is not null and satisfies `P`. -/
lemma Ended.stage [Owned κ α] {P : α → Prop} {f : ν → Prog Fault (Host κ) (Option Error × Option α)}
    {put : ν → Option α → ν} (h : wp (f l) (Ended P m d) s)
    (failed : ∀ e s', Raised m d (fun _ => True) e s' → Q (some e, put l none) s')
    (ok : ∀ a s', P a → Holding (m + owned a) d s' → wp (stages fs (put l (some a))) Q s') :
    wp (stages (into f put :: fs) l) Q s := by
  apply wp_stages_into
  apply wp_mono h
  rintro ⟨_ | e, x⟩ s' h'
  · obtain ⟨a, rfl, p, own⟩ := h'
    exact ok a s' p own
  · obtain ⟨rfl, r⟩ := h'
    exact failed e s' r

/-- A step of a constructor that makes an object, if there is one. -/
lemma Makes.stage [Owned κ α] [Content α β] {o : Option β}
    {f : ν → Prog Fault (Host κ) (Option Error × Option α)} {put : ν → Option α → ν}
    (h : wp (f l) (Makes o m d) s)
    (failed : ∀ e s', Raised m d (fun _ => o = none) e s' → Q (some e, put l none) s')
    (ok : ∀ a s', o = some (content a) → Holding (m + owned a) d s' →
      wp (stages fs (put l (some a))) Q s') : wp (stages (into f put :: fs) l) Q s := by
  apply wp_stages_into
  apply wp_mono h
  rintro ⟨_ | e, x⟩ s' h'
  · obtain ⟨a, rfl, there, own⟩ := h'
    exact ok a s' there own
  · obtain ⟨rfl, r⟩ := h'
    exact failed e s' r

/-- A step of a constructor that gets a plain value. -/
lemma Gets.stage {o : Except ErrorValue γ} {f : ν → Prog Fault (Host κ) (Option Error × γ)}
    {put : ν → γ → ν} (h : wp (f l) (Gets m d o) s)
    (failed : ∀ e x s', Raised m d (fun v => o = .error v) e s' → Q (some e, put l x) s')
    (ok : ∀ x s', o = .ok x → Holding m d s' → wp (stages fs (put l x)) Q s') :
    wp (stages (into f put :: fs) l) Q s := by
  apply wp_stages_into
  apply wp_mono h
  rintro ⟨_ | e, x⟩ s' h'
  · exact ok x s' h'.1 h'.2
  · exact failed e x s' h'

/-- A step of a constructor that only checks something. -/
lemma Checked.stage {o : Except ErrorValue Unit} {f : ν → Prog Fault (Host κ) (Option Error)}
    (h : wp (f l) (Checked m d o) s)
    (failed : ∀ e s', Raised m d (fun v => o = .error v) e s' → Q (some e, l) s')
    (ok : ∀ s', o = .ok () → Holding m d s' → wp (stages fs l) Q s') :
    wp (stages (checking f :: fs) l) Q s := by
  apply wp_stages_checking
  apply wp_mono h
  rintro (_ | e) s' h'
  · exact ok s' h'.1 h'.2
  · exact failed e s' h'

end Stages

/-- A chain of texts and codes added to an error. -/
lemma Raised.wp_chain {m : Holdings κ} {d : Nat} {V : ErrorValue → Prop} {e : Error} {s : Host κ}
    (r : Raised m d V e s) (steps : List ErrorStep) (adds : ∀ step ∈ steps, step.adds = true)
    (few : ∀ u, V u → u.codes.length + steps.length < sizeMax / sizeofUInt32)
    {Q : Option Error → Host κ → Prop}
    (post : ∀ e' s', Raised m d (fun v => ∃ u, V u ∧ v = chainValue u steps) e' s' →
      Q (some e') s') : wp (inHeap (errorChain (some e) steps)) Q s := by
  induction steps generalizing e s V with
  | nil =>
    rw [errorChain, wp_inHeap_pure]
    exact post e s (r.mono fun v hv => ⟨v, hv, rfl⟩)
  | cons step steps ih =>
    rw [errorChain, wp_inHeap_bind]
    simp only [List.length_cons] at few
    -- what a step makes of a value is what the rest of the chain starts from
    have rest : ∀ e' s', Raised m d (fun v => ∃ u, V u ∧ v = step.value u) e' s' →
        wp (inHeap (errorChain (some e') steps)) Q s' := by
      intro e' s' r'
      apply ih r' (fun step' mem => adds step' (List.mem_cons_of_mem _ mem))
      · rintro _ ⟨u, hu, rfl⟩
        have := few u hu
        cases step with
        | addCode code =>
          simp only [ErrorStep.value, ErrorValue.addCode, List.length_append, List.length_singleton]
          omega
        | create text | add text | addV text | copy =>
          simp only [ErrorStep.value, ErrorValue.addText]
          omega
      · intro e'' s'' r''
        apply post
        apply r''.mono
        rintro _ ⟨_, ⟨u, hu, rfl⟩, rfl⟩
        exact ⟨u, hu, rfl⟩
    cases step with
    | create text | copy => exact absurd (adds _ List.mem_cons_self) Bool.false_ne_true
    | add text | addV text => exact r.wp_add text rest
    | addCode code =>
      refine r.wp_addCode code (fun u hu => ?_) rest
      have := few u hu
      omega

omit [DecidableEq κ] in
/-- What always makes an error never yields the null pointer. -/
lemma yields_of_made {x : Prog Fault Heap (Option Error)} (made : ∀ h, wp x (Made h) h) :
    Yields (inHeap x : Prog Fault (Host κ) _) (· ≠ none) := by
  intro s r s' run
  have told : wp (inHeap x : Prog Fault (Host κ) _) (fun r _ => r ≠ none) s := by
    apply wp_zoom.mpr
    apply wp_mono (made s.heap)
    rintro r h ⟨e, rfl, _⟩
    exact Option.some_ne_none e
  exact told.elim run

/-- A new error with a chain of texts and codes added to it. -/
lemma Holding.wp_createChain {m : Holdings κ} {d : Nat} {s : Host κ} (own : Holding m d s)
    (text : String) {n : Nat} {steps : List ErrorStep} (additions : Additions n steps)
    (few : n < sizeMax / sizeofUInt32) {Q : Option Error → Host κ → Prop}
    (post : ∀ e s', Raised m d (· = chainValue (.ofText text) steps) e s' → Q (some e) s') :
    wp (inHeap (errorChain none (.create text :: steps))) Q s := by
  rw [errorChain, wp_inHeap_bind]
  apply own.wp_create
  intro e s₁ r
  apply r.wp_chain steps additions.adds
  · rintro _ rfl
    simpa [ErrorValue.ofText] using Nat.lt_of_le_of_lt additions.few few
  · intro e' s₂ r'
    apply post
    apply r'.mono
    rintro _ ⟨_, rfl, rfl⟩
    rfl

end Libusbp
