import Libusbp.ErrorChain
import Libusbp.Lib.Ledger
import Libusbp.Lib.Machine

/-!
# The blocks of error objects

A mutable error owns its struct, its message and its code array; a static one owns nothing. Each
function of `error.c` takes the blocks of the error it consumes out of the balance of the heap and
puts in those of the error it returns, whatever requests for memory are denied. `ErrorStore` is a
program that uses its errors linearly, as the comments in the source require.
-/

namespace Libusbp

open Prog Heap

/-- The blocks that `libusbp_error_free` gives back. -/
def Error.blocks (e : Error) : Multiset Loc :=
  if e.doNotFree then 0
  else ((e.message.map (·.loc)).toList : Multiset Loc) +
    ((e.codeArray.map (·.loc)).toList : Multiset Loc) + {e.loc}

def errorBlocks (error : Option Error) : Multiset Loc := error.elim 0 Error.blocks

@[simp] lemma errorBlocks_none : errorBlocks none = 0 := rfl

@[simp] lemma errorBlocks_some {e : Error} : errorBlocks (some e) = e.blocks := rfl

@[simp] lemma errorNoMemory_blocks : errorNoMemory.blocks = 0 := rfl

@[simp] lemma errorMaskedByNoMemory_blocks : errorMaskedByNoMemory.blocks = 0 := rfl

lemma Error.blocks_mutable {e : Error} (hd : e.doNotFree = false) :
    e.blocks = ((e.message.map (·.loc)).toList : Multiset Loc) +
      ((e.codeArray.map (·.loc)).toList : Multiset Loc) + {e.loc} := by
  simp only [Error.blocks, hd, Bool.false_eq_true, if_false]

/-- What holds of every error that the functions hand out. -/
structure Error.Sound (e : Error) : Prop where
  wf : e.WF
  few : e.codeCount ≤ sizeMax / sizeofUInt32
  message : e.doNotFree = false → e.message ≠ none
  static : e.doNotFree = true →
    e = errorNoMemory ∨ e = errorMaskedByNoMemory ∨ e = errorBlank

lemma errorNoMemory_sound : errorNoMemory.Sound where
  wf := errorNoMemory_wf
  few := by decide
  message := by rintro ⟨⟩
  static _ := .inl rfl

lemma errorMaskedByNoMemory_sound : errorMaskedByNoMemory.Sound where
  wf := errorMaskedByNoMemory_wf
  few := by decide
  message := by rintro ⟨⟩
  static _ := .inr (.inl rfl)

lemma errorBlank_sound : errorBlank.Sound where
  wf := errorBlank_wf
  few := by decide
  message := by rintro ⟨⟩
  static _ := .inr (.inr rfl)

/-- The heap holds the blocks of `m` and of the error that `r` points to. -/
def Keeps (m : Multiset Loc) (r : Option Error) (h : Heap) : Prop :=
  (∀ e, r = some e → e.Sound) ∧ h.Owns (m + errorBlocks r)

lemma Keeps.masked {m : Multiset Loc} {h : Heap} (own : h.Owns m) :
    Keeps m (some errorMaskedByNoMemory) h := by
  refine ⟨?_, own.of_eq (by simp)⟩
  rintro _ ⟨⟩
  exact errorMaskedByNoMemory_sound

/-- `libusbp_error_free` frees the blocks of the error. -/
lemma errorFree_frees {error : Option Error} {h : Heap} {Q : Unit → Heap → Prop}
    (post : ∀ h', Frees (errorBlocks error) h h' → Q () h') : wp (errorFree error) Q h := by
  cases error with
  | none =>
    simp only [errorFree, wp_pure]
    exact post h (.refl h)
  | some e =>
    simp only [errorFree]
    apply wp_ite
    · intro hd
      simp only [wp_pure]
      exact post h (Frees.of_eq (.refl h) (by simp [Error.blocks, hd]))
    · intro hd
      simp only [wp_bind]
      apply Frees.wp_free
      intro h₁ message
      apply Frees.wp_free
      intro h₂ codes
      apply Frees.wp_free
      intro h₃ struct
      apply post
      apply ((message.trans codes).trans struct).of_eq
      rw [errorBlocks_some, Error.blocks_mutable (by simpa using hd)]
      simp

/-- `libusbp_error_free` takes the blocks of the error out of the balance. -/
lemma errorFree_owns {error : Option Error} {m : Multiset Loc} {h : Heap}
    (own : h.Owns (m + errorBlocks error)) {Q : Unit → Heap → Prop}
    (post : ∀ h', h'.Owns m → h'.denials = h.denials → Q () h') : wp (errorFree error) Q h :=
  errorFree_frees fun h' freed => post h' (freed.owns own) freed.denials

/-- What making an error mutable leaves: a mutable error with its blocks, or the mask. -/
def KeepsMutable (m : Multiset Loc) (r : Option Error) (h : Heap) : Prop :=
  ∃ e, r = some e ∧ e.Sound ∧ h.Owns (m + e.blocks) ∧
    (e.doNotFree = false ∨ e = errorMaskedByNoMemory)

/-- The last steps of a copy whose allocations failed give back what was granted. -/
lemma copyFailed_owns {m : Multiset Loc} {a b c : Option Loc} {h : Heap}
    (own : h.Owns (m + (c.toList : Multiset Loc) + (b.toList : Multiset Loc) +
      (a.toList : Multiset Loc))) :
    wp (do free a; free b; free c; pure (some errorMaskedByNoMemory) : Prog Fault Heap _)
      (KeepsMutable m) h := by
  simp only [wp_bind, wp_pure]
  apply own.wp_free?
  intro h₁ own₁ _
  apply own₁.wp_free?
  intro h₂ own₂ _
  apply own₂.wp_free?
  intro h₃ own₃ _
  exact ⟨_, rfl, errorMaskedByNoMemory_sound, own₃.of_eq (by simp), .inr rfl⟩

/-- The copy of a sound error is sound. -/
lemma Error.Sound.copyInto {e : Error} (snd : e.Sound) {a b : Addr} {c : Option Addr}
    (hc : e.codeCount ≠ 0 → c ≠ none) : (e.copyInto a b c).Sound where
  wf := (snd.wf.copyInto hc).1
  few := by
    show e.copiedCount ≤ _
    rw [snd.wf.copiedCount]
    exact snd.few
  message _ := Option.some_ne_none _
  static := by rintro ⟨⟩

lemma Error.copyInto_blocks {e : Error} {a b : Addr} {c : Option Addr} :
    (e.copyInto a b c).blocks =
      {.heap b} + ((c.map Loc.heap).toList : Multiset Loc) + {.heap a} := by
  simp only [Error.blocks, Error.copyInto]
  cases c <;> simp

/-- `libusbp_error_copy` allocates the blocks of the copy, or nothing. -/
lemma errorCopy_owns {e : Error} (snd : e.Sound) {m : Multiset Loc} {h : Heap} (own : h.Owns m) :
    wp (errorCopy (some e)) (KeepsMutable m) h := by
  -- the three requests leave what was granted, in the order in which it is freed again
  have three : wp (do
      let newError ← malloc sizeofError
      let newMessage ← malloc (((e.message.map (·.val)).getD "").length + 1)
      let newCodeArray ← malloc (e.copiedCount * sizeofUInt32)
      pure (newError, newMessage, newCodeArray) : Prog Fault Heap _)
      (fun r h' => h'.Owns (m + ((r.2.2.map Loc.heap).toList : Multiset Loc) +
        ((r.2.1.map Loc.heap).toList : Multiset Loc) + ((r.1.map Loc.heap).toList : Multiset Loc))) h := by
    have one : ∀ {m' : Multiset Loc} {size : Nat} {h' : Heap}, h'.Owns m' →
        wp (malloc size : Prog Fault Heap _)
          (fun r h'' => h''.Owns (m' + ((r.map Loc.heap).toList : Multiset Loc))) h' := by
      intro m' size h' own'
      apply own'.wp_malloc
      · exact fun _ own'' _ => own''
      · exact fun _ own'' _ _ => own''.of_eq (by simp)
    simp only [wp_bind, wp_pure]
    apply wp_mono (one own)
    intro a h₁ own₁
    apply wp_mono (one own₁)
    intro b h₂ own₂
    apply wp_mono (one own₂)
    intro c h₃ own₃
    exact own₃.of_eq (by abel)
  simp only [wp_bind, wp_pure] at three
  simp only [errorCopy, wp_bind]
  apply wp_mono three
  intro a h₁ next
  apply wp_mono next
  intro b h₂ next
  apply wp_mono next
  intro c h₃ own₃
  cases hc : (e.copiedCount != 0 && c.isNone) with
  | true =>
    cases a <;> cases b <;> exact copyFailed_owns own₃
  | false =>
    cases a with
    | none => cases b <;> exact copyFailed_owns own₃
    | some a =>
      cases b with
      | none => exact copyFailed_owns own₃
      | some b =>
        simp only [wp_pure]
        refine ⟨_, rfl, snd.copyInto ?_, own₃.of_eq ?_, .inl rfl⟩
        · rintro nz rfl
          rw [snd.wf.copiedCount] at hc
          simp [nz] at hc
        · rw [Error.copyInto_blocks]
          simp only [Option.map_some, Option.toList_some, Multiset.coe_singleton]
          abel

lemma Error.Sound.static_blocks {e : Error} (hd : e.doNotFree = true) : e.blocks = 0 := by
  simp only [Error.blocks, hd, if_true]

/-- `error_make_mutable` keeps the blocks of a mutable error and copies a static one. -/
lemma errorMakeMutable_owns {error : Option Error} (snd : ∀ e, error = some e → e.Sound)
    {m : Multiset Loc} {h : Heap} (own : h.Owns (m + errorBlocks error)) :
    wp (errorMakeMutable error) (KeepsMutable m) h := by
  have snd' : (error.getD errorBlank).Sound := by
    cases error with
    | none => exact errorBlank_sound
    | some e => exact snd e rfl
  simp only [errorMakeMutable]
  apply wp_ite
  · intro hd
    apply errorCopy_owns snd'
    cases error with
    | none => exact own.of_eq (by simp)
    | some e =>
      have none : e.blocks = 0 := Error.Sound.static_blocks hd
      exact own.of_eq (by rw [errorBlocks_some, none, add_zero])
  · intro hd
    simp only [wp_pure]
    refine ⟨_, rfl, snd', ?_, .inl (by simpa using hd)⟩
    cases error with
    | none => exact absurd rfl hd
    | some e => exact own

/-- `error_add_v` exchanges the old message for the new one. The literal that it would store for a
null message is never stored, because a mutable error has a message. -/
lemma errorAddV_owns {error : Option Error} (snd : ∀ e, error = some e → e.Sound)
    (format : Option String) {m : Multiset Loc} {h : Heap} (own : h.Owns (m + errorBlocks error)) :
    wp (errorAddV error format) (Keeps m) h := by
  cases format with
  | none =>
    simp only [errorAddV, wp_pure]
    exact ⟨snd, own⟩
  | some text =>
    simp only [errorAddV, wp_bind]
    apply wp_mono (errorMakeMutable_owns snd own)
    rintro r h₁ ⟨e, rfl, snd₁, own₁, hd | rfl⟩
    · simp only [hd, Bool.false_eq_true, if_false, wp_bind]
      obtain ⟨inner, hm⟩ := Option.ne_none_iff_exists'.mp (snd₁.message hd)
      simp only [hm, Option.getD_some]
      apply own₁.wp_malloc
      · intro h₂ own₂ _
        simp only [wp_bind, wp_pure]
        rw [Error.blocks_mutable hd, hm] at own₂
        have own₂' : h₂.Owns (m + ({.heap h₁.next} +
            ((e.codeArray.map (·.loc)).toList : Multiset Loc) + {e.loc}) + {inner.loc}) := by
          apply own₂.of_eq
          simp only [Option.map_some, Option.toList_some, Multiset.coe_singleton]
          abel
        apply own₂'.wp_free
        intro h₃ own₃ _
        refine ⟨?_, own₃.of_eq ?_⟩
        · rintro _ ⟨⟩
          exact ⟨snd₁.wf, snd₁.few, fun _ => Option.some_ne_none _, by rintro ⟨⟩⟩
        · rw [errorBlocks_some, Error.blocks_mutable rfl]
          simp
      · intro h₂ own₂ _ _
        simp only [wp_bind, wp_pure]
        have same : ({ e with doNotFree := false, message := some inner } : Error) = e := by
          rw [← hd, ← hm]
        rw [same]
        apply errorFree_owns own₂
        intro h₃ own₃ _
        exact .masked own₃
    · simp only [show errorMaskedByNoMemory.doNotFree = true from rfl, if_true, wp_pure]
      exact .masked (own₁.of_eq (by simp))

/-- `error_add_code` exchanges the old code array for the new one. -/
lemma errorAddCode_owns {error : Option Error} (snd : ∀ e, error = some e → e.Sound)
    (code : UInt32) {m : Multiset Loc} {h : Heap} (own : h.Owns (m + errorBlocks error)) :
    wp (errorAddCode error code) (Keeps m) h := by
  simp only [errorAddCode, wp_bind]
  apply wp_mono (errorMakeMutable_owns snd own)
  rintro r h₁ ⟨e, rfl, snd₁, own₁, hd | rfl⟩
  · simp only [hd, Bool.false_eq_true, if_false]
    apply wp_ite
    · intro _
      simp only [wp_pure]
      refine ⟨?_, own₁⟩
      rintro _ ⟨⟩
      exact snd₁
    · intro few
      simp only [wp_bind]
      rw [Error.blocks_mutable hd] at own₁
      have own₁' : h₁.Owns (m + (((e.message.map (·.loc)).toList : Multiset Loc) + {e.loc}) +
        ((e.codeArray.map (·.loc)).toList : Multiset Loc)) := own₁.of_eq (by abel)
      apply own₁'.wp_realloc (Nat.mul_ne_zero (Nat.succ_ne_zero _) (by decide))
      · intro h₂ own₂ _
        simp only [wp_pure]
        refine ⟨?_, own₂.of_eq ?_⟩
        · rintro _ ⟨⟩
          refine ⟨?_, Nat.lt_of_not_ge few, fun _ => snd₁.message hd, by rintro ⟨⟩⟩
          show e.codeCount + 1 = (e.codes.take e.codeCount ++ [code]).length
          rw [snd₁.wf.take_codes, List.length_append, List.length_singleton, snd₁.wf]
        · rw [errorBlocks_some, Error.blocks_mutable rfl]
          simp only [Option.map_some, Option.toList_some, Multiset.coe_singleton]
          abel
      · intro h₂ own₂ _
        simp only [wp_bind, wp_pure]
        apply errorFree_owns
        · rw [errorBlocks_some, Error.blocks_mutable hd]
          exact own₂.of_eq (by abel)
        · intro h₃ own₃ _
          exact .masked own₃
  · simp only [show errorMaskedByNoMemory.doNotFree = true from rfl, if_true, wp_pure]
    exact .masked (own₁.of_eq (by simp))

/-- `libusbp_error_copy` of a pointer that may be null. -/
lemma errorCopy_keeps {error : Option Error} (snd : ∀ e, error = some e → e.Sound)
    {m : Multiset Loc} {h : Heap} (own : h.Owns m) : wp (errorCopy error) (Keeps m) h := by
  cases error with
  | none =>
    simp only [errorCopy, wp_pure]
    exact ⟨by rintro _ ⟨⟩, own.of_eq (by simp)⟩
  | some e =>
    apply wp_mono (errorCopy_owns (snd e rfl) own)
    rintro r h' ⟨e', rfl, snd', own', _⟩
    refine ⟨?_, own'⟩
    rintro _ ⟨⟩
    exact snd'

end Libusbp
