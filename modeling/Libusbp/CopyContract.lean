import Libusbp.Objects
import Libusbp.Requests

/-!
# The contract of the functions that copy objects

A function that copies an object returns no error exactly if the copy is complete, and with an error
it returns no copy and leaves nothing behind. `KeepsExactly` says for the objects that a constructor
hands out in which states a function keeps this contract.
-/

namespace Libusbp

open Prog Host

variable {κ α γ : Type}

/-- A function that asks an object gets the same answer from both objects, in every state. -/
def AnswersAlike (get : Option (Box α) → Bool → γ) (a b : Box α) : Prop :=
  ∀ output, get (some a) output = get (some b) output

lemma getNumber_alike {outputNull objectNull : String} {number : α → UInt16} {a b : Box α}
    (same : number a.val = number b.val) :
    AnswersAlike (getNumber outputNull objectNull number : _ → _ → Prog Fault (Host κ) _) a b := by
  intro output
  simp only [getNumber, same]

lemma getString_alike {outputNull objectNull : String}
    {string : α → Prog Fault (Host κ) (Option Error × Option (Box String))} {a b : Box α}
    (same : string a.val = string b.val) :
    AnswersAlike (getString outputNull objectNull string) a b := by
  intro output
  simp only [getString, same]

/-- Adding a text to an error yields an error, even for one that makes no sense. -/
lemma errorAdd_yields (e : Error) (format : String) :
    Yields (errorAdd (some e) (some format)) (· ≠ none) := by
  have copied : Yields (errorCopy (some e)) (· ≠ none) := by
    refine (Yields.any _).bind fun newError _ => ?_
    refine (Yields.any _).bind fun newMessage _ => ?_
    refine (Yields.any _).bind fun newCodeArray _ => ?_
    split
    · exact .pure (Option.some_ne_none _)
    · refine (Yields.any _).bind fun _ _ => (Yields.any _).bind fun _ _ => ?_
      exact (Yields.any _).bind fun _ _ => .pure (Option.some_ne_none _)
  have mutable : Yields (errorMakeMutable (some e)) (· ≠ none) := by
    simp only [errorMakeMutable, Option.getD_some]
    split
    · exact copied
    · exact .pure (Option.some_ne_none _)
  refine mutable.bind fun e' there => ?_
  obtain ⟨e', rfl⟩ := Option.ne_none_iff_exists'.mp there
  dsimp only
  split
  · exact .pure (Option.some_ne_none _)
  · refine (Yields.any _).bind fun message _ => ?_
    cases message with
    | none => exact (Yields.any _).bind fun _ _ => .pure (Option.some_ne_none _)
    | some message => exact (Yields.any _).bind fun _ _ => .pure (Option.some_ne_none _)

/-- A function that returned no error had none before a text was added. -/
lemma addContext_none {error : Option Error} {format : String} {s s' : Host κ}
    (run : addContext error format s = .ok (none, s')) : error = none := by
  cases error with
  | none => rfl
  | some e =>
    have told : wp (inHeap (errorAdd (some e) (some format)) : Prog Fault (Host κ) _)
        (fun r _ => r = none) s := ⟨none, s', run, rfl⟩
    rw [inHeap, wp_zoom] at told
    obtain ⟨r, h, made, rfl⟩ := told
    exact absurd rfl (errorAdd_yields e format _ _ _ made)

/-- The constructor handed the object out. -/
def HandsOut [DecidableEq κ] (create : Prog Fault (Host κ) (Option Error × Option α)) (a : α) : Prop :=
  ∃ m s s', s.Owns m ∧ create s = .ok ((none, some a), s')

variable [DecidableEq κ] [Owned κ α]

/-- There is a copy exactly if there is a source. It answers like the source and shares no block
with it. -/
def Complete (κ : Type) [Owned κ α] (alike : α → α → Prop) : Option α → Option α → Prop
  | none, none => True
  | some source, some copy => alike source copy ∧
    Disjoint (owned source : Holdings κ).1 (owned copy : Holdings κ).1
  | none, some _ | some _, none => False

/-- The contract of a call that started in `s` with `m` and the source in hand. The source is not
touched, and what was allocated on the way is part of the copy or the error, or was freed once. -/
structure CopyContract (alike : α → α → Prop) (source : Option α) (m : Holdings κ) (s : Host κ)
    (r : Option Error × Option α) (s' : Host κ) : Prop where
  complete : r.1 = none ↔ Complete κ alike source r.2
  failed : s.denials < s'.denials → r.1 ≠ none
  null : r.1 ≠ none → r.2 = none
  settled : s'.Settled (m + owned source + owned r.2 + (errorBlocks r.1, 0))

/-- For an object that was made, the function keeps the contract in the states where `c` holds and in
no others. -/
def KeepsExactly (copy : Option α → Bool → Prog Fault (Host κ) (Option Error × Option α))
    (alike : α → α → Prop) (made : α → Prop) (c : Host κ → α → Prop) : Prop :=
  ∀ m s source, s.Owns (m + owned source) → (∀ a, source = some a → made a) →
    (wp (copy source true) (CopyContract alike source m s) s ↔ ∀ a, source = some a → c s a)

variable {m : Holdings κ} {s s' : Host κ} {source : α} {r : Option Error × Option α}
  {alike : α → α → Prop}

/-- A copy that says the same, or an error and nothing else. -/
lemma Ends.copyContract {β : Type} [Content α β]
    (h : Ends (m + owned source) s.denials (Except.map some (.ok (content source))) r s')
    (same : ∀ copy, content source = content copy → alike source copy) :
    CopyContract alike (some source) m s r s' := by
  obtain ⟨copy, rfl, said, own⟩ | ⟨e, rfl, raised⟩ := h.elim
  · have apart := (Multiset.nodup_add.mp own.owns.heap.nodup).2.2
    have disjoint : Disjoint (owned source : Holdings κ).1 (owned copy : Holdings κ).1 :=
      apart.mono_left (Multiset.le_add_left _ _)
    exact {
      complete := iff_of_true rfl ⟨same copy (Except.ok.inj said), disjoint⟩
      failed := fun denied => absurd own.denials (Nat.ne_of_gt denied)
      null := fun e => absurd rfl e
      settled := (own.owns.of_eq (add_zero _).symm).settled }
  · have said : Says s.denials (fun _ => False) e.value s' := by
      rcases raised.value with ⟨_, ⟨⟩⟩ | denied
      exact .inr denied
    exact {
      complete := iff_of_false (Option.some_ne_none e) id
      failed := fun _ => Option.some_ne_none e
      null := fun _ => rfl
      settled := (raised.owns.of_eq (by simp [errorBlocks])).settled }

/-- Nothing is copied for a source that is null. -/
lemma keepsExactly_of {copy : Option α → Bool → Prog Fault (Host κ) (Option Error × Option α)}
    {made : α → Prop} {c : Host κ → α → Prop} (null : copy none true = pure (none, none))
    (each : ∀ m s a, s.Owns (m + owned a) → made a →
      (wp (copy (some a) true) (CopyContract alike (some a) m s) s ↔ c s a)) :
    KeepsExactly copy alike made c := by
  intro m s source own all
  cases source with
  | none =>
    refine iff_of_true ?_ (by rintro _ ⟨⟩)
    rw [null, wp_pure]
    exact {
      complete := iff_of_true rfl trivial
      failed := fun denied => absurd denied (Nat.lt_irrefl _)
      null := fun e => absurd rfl e
      settled := (own.of_eq (by simp [errorBlocks])).settled }
  | some a =>
    rw [each m s a own (all a rfl)]
    exact ⟨by rintro h _ ⟨⟩; exact h, fun h => h a rfl⟩

/-- A function that always gives a copy that says the same, or an error and nothing else. -/
lemma keepsExactly_of_ends {β : Type} [Content α β]
    {copy : Option α → Bool → Prog Fault (Host κ) (Option Error × Option α)} {made : α → Prop}
    (null : copy none true = pure (none, none))
    (ends : ∀ m d s a, Holding m d s → made a →
      wp (copy (some a) true) (Ends m d (Except.map some (.ok (content a)))) s)
    (same : ∀ a b, content a = content b → alike a b) :
    KeepsExactly copy alike made fun _ _ => True := by
  apply keepsExactly_of null
  intro m s a own created
  refine iff_of_true ?_ trivial
  apply wp_mono (ends _ _ s a ⟨own, rfl⟩ created)
  exact fun r s' h => h.copyContract (same a)

end Libusbp
