import Libusbp.Ends

/-!
# Strings on the heap

`string.c`, and the first step of every constructor, which allocates the object.
-/

namespace Libusbp

open Prog Host

variable {κ α β : Type}

/-- `new_object = malloc(size)` with `error_no_memory` for a null pointer. -/
def allocate (size : Nat) (val : α) : Prog Fault (Host κ) (Option Error × Option (Box α)) := do
  match ← new size val with
  | none => pure (some errorNoMemory, none)
  | some newObject => pure (none, some newObject)

/-- `new_object = calloc(1, size)` with `error_no_memory` for a null pointer. -/
def allocateZeroed (size : Nat) (val : α) :
    Prog Fault (Host κ) (Option Error × Option (Box α)) := do
  match ← newZeroed size val with
  | none => pure (some errorNoMemory, none)
  | some newObject => pure (none, some newObject)

def stringCopy (inputString : Option String) :
    Prog Fault (Host κ) (Option Error × Option (Box String)) := do
  let text ← expect .assertion inputString
  allocate (text.utf8ByteSize + 1) text

def stringFree (string : Option (Box String)) : Prog Fault (Host κ) Unit := free string

/-- What a pointer points to after the request for its block. -/
lemma new_some {size : Nat} {val : α} {b : Box α} {s s' : Host κ}
    (run : (new size val : Prog Fault (Host κ) _) s = .ok (some b, s')) : b.val = val := by
  obtain ⟨a, t, _, rest⟩ := bind_ok run
  cases a with
  | none => cases rest
  | some a =>
    cases rest
    rfl

/-- An allocation without an error gave a block. -/
lemma allocate_none {size : Nat} {val : α} {x : Option (Box α)} {s s' : Host κ}
    (run : (allocate size val : Prog Fault (Host κ) _) s = .ok ((none, x), s')) :
    ∃ b, x = some b ∧ b.val = val := by
  obtain ⟨b, t, made, rest⟩ := bind_ok run
  cases b with
  | none => cases rest
  | some b =>
    cases rest
    exact ⟨b, rfl, new_some made⟩

lemma allocateZeroed_none {size : Nat} {val : α} {x : Option (Box α)} {s s' : Host κ}
    (run : (allocateZeroed size val : Prog Fault (Host κ) _) s = .ok ((none, x), s')) :
    ∃ b, x = some b ∧ b.val = val := by
  obtain ⟨b, t, made, rest⟩ := bind_ok run
  cases b with
  | none => cases rest
  | some b =>
    cases rest
    obtain ⟨a, u, _, made⟩ := bind_ok made
    cases a with
    | none => cases made
    | some a =>
      cases made
      exact ⟨_, rfl, rfl⟩

/-- A copy without an error is a copy of a string that is there. -/
lemma stringCopy_none {string : Option String} {x : Option (Box String)} {s s' : Host κ}
    (run : (stringCopy string : Prog Fault (Host κ) _) s = .ok ((none, x), s')) :
    ∃ b, x = some b ∧ string = some b.val := by
  cases string with
  | none => cases run
  | some string =>
    obtain ⟨b, rfl, rfl⟩ := allocate_none (show allocate _ string s = _ from run)
    exact ⟨b, rfl, rfl⟩

variable [DecidableEq κ] {m : Holdings κ} {d : Nat} {s : Host κ}

/-- A block of any size. Without a denied request, only one of no size is not there. -/
lemma wp_allocate [Owned κ α] {size : Nat} {val : α} (own : Holding m d s)
    (bare : (owned val : Holdings κ) = 0) {Q : Option Error × Option (Box α) → Host κ → Prop}
    (made : ∀ b s', b.val = val → Holding (m + owned b) d s' → Q (none, some b) s')
    (failed : ∀ e s', Raised m d (fun _ => size = 0) e s' → Q (some e, none) s') :
    wp (allocate size val) Q s := by
  simp only [allocate, wp_bind]
  apply own.owns.wp_new_any bare
  · intro b s' hb own' hd
    exact wp_pure.mpr (made b s' hb ⟨own', hd.trans own.denials⟩)
  · intro s' own' hd
    refine wp_pure.mpr (failed _ s' ⟨errorNoMemory_sound, own'.of_eq ?_, ?_⟩)
    · rw [errorNoMemory_blocks]
      exact (add_zero m).symm
    · rcases hd with ⟨zero, hd⟩ | hd
      · exact .inl ⟨hd.trans own.denials, zero⟩
      · exact .inr ⟨by rw [hd, own.denials]; exact Nat.lt_succ_self d, by decide⟩

lemma allocate_ends [Owned κ α] [Content α β] {size : Nat} {val : α} (own : Holding m d s)
    (pos : size ≠ 0) (bare : (owned val : Holdings κ) = 0) :
    wp (allocate size val) (Ends m d (Except.map some (.ok (content val)))) s := by
  apply wp_allocate own bare
  · intro b s' hb own'
    exact ⟨by rw [Option.map_some, content_box, hb]; rfl, own'⟩
  · exact fun e s' r => ⟨rfl, r.mono fun _ zero => absurd zero pos⟩

/-- A block of some size, which is there unless the request was denied. -/
lemma wp_allocateZeroed [Owned κ α] {size : Nat} {val : α} (own : Holding m d s) (pos : size ≠ 0)
    (bare : (owned val : Holdings κ) = 0) {Q : Option Error × Option (Box α) → Host κ → Prop}
    (made : ∀ b s', b.val = val → Holding (m + owned b) d s' → Q (none, some b) s')
    (failed : ∀ e s', Raised m d (fun _ => False) e s' → Q (some e, none) s') :
    wp (allocateZeroed size val) Q s := by
  simp only [allocateZeroed, wp_bind]
  apply own.owns.wp_newZeroed pos bare
  · intro b s' hb own' hd
    exact wp_pure.mpr (made b s' hb ⟨own', hd.trans own.denials⟩)
  · intro s' own' hd
    exact wp_pure.mpr (failed _ s' (.denied own' (by rw [hd, own.denials])))

lemma allocateZeroed_ends [Owned κ α] [Content α β] {size : Nat} {val : α} (own : Holding m d s)
    (pos : size ≠ 0) (bare : (owned val : Holdings κ) = 0) :
    wp (allocateZeroed size val) (Ends m d (Except.map some (.ok (content val)))) s := by
  apply wp_allocateZeroed own pos bare
  · intro b s' hb own'
    exact ⟨by rw [Option.map_some, content_box, hb]; rfl, own'⟩
  · exact fun e s' r => ⟨rfl, r.mono fun _ no => no.elim⟩

lemma allocateZeroed_ended [Owned κ α] {size : Nat} {val : α} (own : Holding m d s)
    (pos : size ≠ 0) (bare : (owned val : Holdings κ) = 0) :
    wp (allocateZeroed size val) (Ended (fun b : Box α => b.val = val) m d) s :=
  wp_allocateZeroed own pos bare (fun b _ hb own' => ⟨b, rfl, hb, own'⟩) fun _ _ r => ⟨rfl, r.any⟩

lemma stringCopy_ends (own : Holding m d s) (text : String) :
    wp (stringCopy (some text)) (Ends m d (Except.map some (.ok text))) s := by
  simp only [stringCopy, expect, wp_bind, wp_pure]
  exact allocate_ends own (Nat.succ_ne_zero _) rfl

lemma stringFree_givesBack {string : Option (Box String)} :
    GivesBack (stringFree string) (owned string : Holdings κ) := .free

end Libusbp
