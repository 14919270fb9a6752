import Libusbp.Among
import Libusbp.Client

/-!
# What the functions leave

A function with an object as its output ends with the output or with an error (`EndsWith`), any other
function with a reply and an error, if there is one (`Replies`), and they leave nothing else.
-/

namespace Libusbp

open Prog Host

variable {κ D α β γ ρ : Type} [DecidableEq κ] {m : Holdings κ} {s : Host κ}

/-- A call ended with an output that satisfies `P`, if any, or with an error, and left nothing else. -/
def EndsWith [Owned κ α] (P : α → Prop) (m : Holdings κ) (r : Option Error × Option α)
    (s : Host κ) : Prop :=
  match r with
  | (none, x) => (∀ a, x = some a → P a) ∧ s.Owns (m + owned x)
  | (some e, x) => x = none ∧ e.Sound ∧ s.Owns (m + (e.blocks, 0))

/-- A call replied, and left nothing but its error, if there is one. -/
structure Replies (m : Holdings κ) (r : Option Error × γ) (s : Host κ) : Prop where
  sound : ∀ e, r.1 = some e → e.Sound
  owns : s.Owns (m + (errorBlocks r.1, 0))

section EndsWith

variable [Owned κ α] {P : α → Prop} {x : Prog Fault (Host κ) (Option Error × Option α)}

/-- The outcome tells what there is to know about the output. -/
lemma Ends.endsWith [Content α β] {d : Nat} {o : Except ErrorValue (Option β)}
    {r : Option Error × Option α} (ends : Ends m d o r s)
    (tells : ∀ a, o = .ok (some (content a)) → P a) : EndsWith P m r s := by
  obtain ⟨_ | e, y⟩ := r
  · refine ⟨?_, ends.2.owns⟩
    rintro a rfl
    exact tells a ends.1
  · exact ⟨ends.1, ends.2.sound, ends.2.owns⟩

/-- So does the run. -/
lemma EndsWith.of_run {Q : α → Prop} (ends : wp x (EndsWith P m) s)
    (tells : ∀ a s', x s = .ok ((none, some a), s') → Q a) : wp x (EndsWith Q m) s := by
  apply wp_mono ends.run
  rintro ⟨_ | e, y⟩ s' ⟨ended, run⟩
  · refine ⟨?_, ended.2⟩
    rintro a rfl
    exact tells a s' run
  · exact ended

lemma Ended.endsWith {d : Nat} {r : Option Error × Option α} (ended : Ended P m d r s) :
    EndsWith P m r s := by
  obtain ⟨_ | e, y⟩ := r
  · obtain ⟨a, rfl, p, own⟩ := ended
    exact ⟨by rintro _ ⟨⟩; exact p, own.owns⟩
  · exact ⟨ended.1, ended.2.sound, ended.2.owns⟩

/-- A text is added to the error that a call ended with. -/
lemma EndsWith.wp_addContext {error : Option Error} {a : Option α}
    (ended : EndsWith P m (error, a) s) (context : String) :
    wp (addContext error context) (fun error s' => EndsWith P m (error, a) s') s := by
  cases error with
  | none =>
    simp only [addContext, Option.isSome_none, Bool.false_eq_true, if_false, wp_pure]
    exact ended
  | some e =>
    obtain ⟨null, sound, own⟩ := ended
    have raised : Raised m s.denials (fun _ => True) e s := ⟨sound, own, .inl ⟨rfl, trivial⟩⟩
    simp only [addContext, Option.isSome_some, if_true]
    apply raised.wp_add
    exact fun e' s' raised' => ⟨null, raised'.sound, raised'.owns⟩

lemma raise_endsWith (own : s.Owns m) (text : String) :
    wp (do
      let error ← inHeap (errorCreate (some text))
      pure (error, (none : Option α))) (EndsWith P m) s := by
  simp only [wp_bind, wp_pure]
  apply Holding.wp_create ⟨own, rfl⟩
  exact fun e s' raised => ⟨rfl, raised.sound, raised.owns⟩

/-- The exit of a function that is asked for a serial number that a device does not have. -/
lemma noSerialNumber_endsWith (own : s.Owns m) (text : String) :
    wp (do
      let error ← inHeap do
        let error ← errorCreate (some text)
        errorAddCode error ErrorCode.noSerialNumber
      pure (error, (none : Option α))) (EndsWith P m) s := by
  simp only [wp_bind, wp_pure, wp_inHeap_bind]
  apply Holding.wp_create ⟨own, rfl⟩
  intro e s₁ raised
  apply raised.wp_addCode
  · rintro _ rfl
    show 0 < sizeMax / sizeofUInt32
    decide
  · exact fun e' s₂ raised' => ⟨rfl, raised'.sound, raised'.owns⟩

lemma nothing_endsWith (own : s.Owns m) :
    wp (pure ((none : Option Error), (none : Option α)) : Prog Fault (Host κ) _) (EndsWith P m) s :=
  wp_pure.mpr ⟨by rintro _ ⟨⟩, own.of_eq (add_zero m).symm⟩

end EndsWith

lemma stringCopy_endsWith {string : Option String} (own : s.Owns m) (there : string ≠ none) :
    wp (stringCopy string) (EndsWith (fun _ => True) m) s := by
  obtain ⟨t, rfl⟩ := Option.ne_none_iff_exists'.mp there
  exact wp_mono (stringCopy_ends ⟨own, rfl⟩ t) fun _ _ ends => ends.endsWith fun _ _ => trivial

lemma getString_endsWith {outputNull objectNull : String}
    {string : α → Prog Fault (Host κ) (Option Error × Option (Box String))} {object : Option (Box α)}
    {output : Bool} (own : s.Owns m)
    (gives : ∀ a, object = some a → wp (string a.val) (EndsWith (fun _ => True) m) s) :
    wp (getString outputNull objectNull string object output) (EndsWith (fun _ => True) m) s := by
  unfold getString
  apply wp_ite
  · intro _
    exact raise_endsWith own _
  intro _
  cases object with
  | none => exact raise_endsWith own _
  | some a => exact gives a rfl

/-- `libusbp_find_device_with_vid_pid` ends with a device of the list. -/
lemma findDeviceWithVidPid_endsWith [Owned κ D] {functions : DeviceFunctions κ D}
    {vendorOf productOf : D → UInt16} (reads : functions.Reads vendorOf productOf)
    {listConnectedDevices : Prog Fault (Host κ) (Option Error × ListOutputs D)} {P : Box D → Prop}
    (own : s.Owns m) (lists : wp listConnectedDevices (ListsOnly P m true) s)
    (vendorId productId : UInt16) (output : Bool) :
    wp (findDeviceWithVidPid functions listConnectedDevices vendorId productId output)
      (EndsWith P m) s := by
  cases output with
  | false => exact raise_endsWith own _
  | true =>
    have listed : wp listConnectedDevices (fun r s' => KeepsBut m true true r s' ∧ Passed true r) s :=
      wp_mono lists fun _ _ lists => lists.passes.imp_left .none
    apply wp_mono (findDeviceWithVidPid_spec reads listed vendorId productId)
    rintro ⟨_ | e, device⟩ s' found
    · obtain ⟨outputs, s₁, a, devices, run, slots, first, disposed⟩ := found
      obtain ⟨l, devices', holds, valid, rfl, _⟩ := lists.elim run
      obtain ⟨a', slots'⟩ := holds.slots
      obtain rfl := deviceArray_inj (slots.symm.trans slots')
      refine ⟨fun dev there => valid dev ?_, disposed.settled.owns⟩
      exact List.mem_of_find?_eq_some (first.symm.trans there)
    · obtain ⟨null, outputs, run⟩ := found
      obtain ⟨_, d, raised⟩ := lists.elim run
      exact ⟨null, raised.sound, raised.owns⟩

lemma Raised.replies {d : Nat} {V : ErrorValue → Prop} {e : Error} (raised : Raised m d V e s) (x : γ) :
    Replies m (some e, x) s := ⟨raised.sound', raised.owns⟩

/-- A call that ended without an error. -/
lemma Replies.quiet (own : s.Owns m) (x : γ) : Replies m (none, x) s :=
  ⟨by rintro _ ⟨⟩, own.of_eq (add_zero m).symm⟩

/-- The exit with a new error. -/
lemma raise_replies (own : s.Owns m) (text : String) (x : γ) :
    wp (do
      let error ← inHeap (errorCreate (some text))
      pure (error, x)) (Replies m) s := by
  simp only [wp_bind, wp_pure]
  apply Holding.wp_create ⟨own, rfl⟩
  exact fun e s' raised => raised.replies x

lemma getNumber_replies {outputNull objectNull : String} {number : α → UInt16} (own : s.Owns m)
    (object : Option (Box α)) (output : Bool) :
    wp (getNumber outputNull objectNull number object output) (Replies m) s := by
  unfold getNumber
  apply wp_ite
  · exact fun _ => raise_replies own _ _
  intro _
  cases object with
  | none => exact raise_replies own _ _
  | some a => exact wp_pure.mpr (.quiet own _)

lemma setTimeout_replies (own : s.Owns m) (handle : Option Timeouts) (pipeId : UInt8)
    (timeout : UInt32) : wp (setTimeout handle pipeId timeout) (Replies m) s := by
  cases handle with
  | none => exact raise_replies own _ _
  | some timeouts =>
    have shape : checkPipeId pipeId =
        if false = true then errorInvalidPipeId pipeId else checkPipeId pipeId := rfl
    simp only [setTimeout, wp_bind, wp_pure]
    apply wp_mono (checkPipeId_refuses pipeId shape m s.denials s ⟨own, rfl⟩)
    intro r s' refused
    cases reason : pipeIdReason pipeId false with
    | none =>
      rw [reason] at refused
      obtain ⟨rfl, own'⟩ := refused
      exact .quiet own'.owns _
    | some v =>
      rw [reason] at refused
      obtain ⟨e, rfl, raised⟩ := refused
      exact raised.replies _

/-! ## Transfers -/

/-- A transfer leaves its error, if there is one. -/
def LeavesError (m : Holdings κ) (reply : PipeReply ρ) (s : Host κ) : Prop :=
  Replies m (reply.error, reply.request) s

lemma Validated.leavesError {d : Nat} {reason : Reason} {transferred : Bool} {reply : PipeReply ρ}
    (h : Validated m d reason transferred reply s) : LeavesError m reply s := by
  obtain ⟨error, count, request⟩ := reply
  cases reason with
  | some v =>
    obtain ⟨_, _, e, rfl, raised⟩ := h
    exact raised.replies _
  | none =>
    cases error with
    | none => exact .quiet h.2.owns _
    | some e => exact h.2.replies _

/-- A transfer of a null pointer is refused. -/
lemma refuse_leavesError (own : s.Owns m) (text : String) (transferred : Bool) :
    wp (refuse text transferred : Prog Fault (Host κ) (PipeReply ρ)) (LeavesError m) s := by
  simp only [refuse, wp_bind, wp_pure]
  apply Holding.wp_create ⟨own, rfl⟩
  exact fun e s' raised => raised.replies _

/-- What a client gets of a transfer is its error. -/
lemma wp_sent {timeoutOf : ρ → UInt32} {x : Prog Fault (Host κ) (PipeReply ρ)}
    (leaves : wp x (LeavesError m) s) : wp (sent timeoutOf x) (Replies m) s := by
  simp only [sent, wp_bind, wp_pure]
  exact wp_mono leaves fun _ _ left => ⟨left.sound, left.owns⟩

/-! ## Freeing -/

/-- An error is freed. -/
lemma errorFree_givesBack {error : Option Error} :
    GivesBack (inHeap (errorFree error)) ((errorBlocks error, 0) : Holdings κ) := by
  intro m d s own
  simp only [inHeap, wp_zoom]
  apply errorFree_owns own.owns.heap
  intro h own' hd
  exact ⟨(own.owns.inHeap own').of_eq (Prod.ext rfl (add_zero _)), hd.trans own.denials⟩

/-! ## Among references of further kinds -/

/-- What a value owns, it owns among references of further kinds. -/
class Widened (κ ι α : Type) [Owned κ α] [Owned (κ ⊕ ι) α] : Prop where
  owned_widen : ∀ a : α, (owned a : Holdings (κ ⊕ ι)) = Holdings.widen (owned a)

export Widened (owned_widen)

section Widened

omit [DecidableEq κ]

variable {ι : Type} [Owned κ α] [Owned (κ ⊕ ι) α] [Widened κ ι α]

instance : Widened κ ι String := ⟨fun _ => rfl⟩

instance : Widened κ ι (Box α) := ⟨fun b => by
  rw [owned_box, owned_box, owned_widen b.val, Holdings.widen_add, Holdings.widen_blocks]⟩

instance : Widened κ ι (Option α) := ⟨fun o => by
  cases o with
  | none => rfl
  | some a => exact owned_widen a⟩

instance : Widened κ ι (List α) := ⟨fun l => by
  induction l with
  | nil => rfl
  | cons a l ih => rw [owned_cons, owned_cons, Holdings.widen_add, owned_widen a, ih]⟩

instance : Widened κ ι (Slot α) := ⟨fun slot => by
  cases slot with
  | unset => rfl
  | null => rfl
  | device dev => exact owned_widen dev⟩

end Widened

section Among

variable {ι : Type} [DecidableEq ι] {m : Holdings (κ ⊕ ι)} {s : Host (κ ⊕ ι)} {t : Host κ}

/-- What is held at the end of a call, among the other references. -/
lemma owns_around {o : Holdings κ} (own : s.Owns m) (own' : t.Owns (Holdings.inner m + o)) :
    (t.around s).Owns (m + Holdings.widen o) := by
  apply own.around
  · exact own'.of_eq (by simp)
  · simp

lemma EndsWith.among [Owned κ α] [Owned (κ ⊕ ι) α] [Widened κ ι α] {P : α → Prop}
    {x : Prog Fault (Host κ) (Option Error × Option α)} (own : s.Owns m)
    (ends : wp x (EndsWith P (Holdings.inner m)) s.inner) : wp (Host.among x) (EndsWith P m) s := by
  rw [Host.among, wp_zoom]
  apply wp_mono ends
  rintro ⟨_ | e, a⟩ t ended
  · exact ⟨ended.1, (owns_around own ended.2).of_eq (congrArg (m + ·) (owned_widen a).symm)⟩
  · exact ⟨ended.1, ended.2.1, owns_around own ended.2.2⟩

lemma Replies.among {x : Prog Fault (Host κ) (Option Error × γ)}
    (own : s.Owns m) (replies : wp x (Replies (Holdings.inner m)) s.inner) :
    wp (Host.among x) (Replies m) s := by
  rw [Host.among, wp_zoom]
  apply wp_mono replies
  exact fun r t replied => ⟨replied.sound, owns_around own replied.owns⟩

lemma ListsOnly.among [Owned κ D] [Owned (κ ⊕ ι) D] [Widened κ ι D] {P : Box D → Prop}
    {deviceCount : Bool} {x : Prog Fault (Host κ) (Option Error × ListOutputs D)} (own : s.Owns m)
    (lists : wp x (ListsOnly P (Holdings.inner m) deviceCount) s.inner) :
    wp (Host.among x) (ListsOnly P m deviceCount) s := by
  rw [Host.among, wp_zoom]
  apply wp_mono lists
  rintro ⟨_ | e, outputs⟩ t listed
  · obtain ⟨l, devices, holds, valid, eq, own'⟩ := listed
    refine ⟨l, devices, holds, valid, eq, (owns_around own own').of_eq ?_⟩
    rw [owned_widen l.newList]
  · obtain ⟨start, d, raised⟩ := listed
    exact ⟨start, d, raised.around own⟩

/-- What a call gives back, it gives back among the other references. -/
lemma GivesBack.amongOwned [Owned κ α] [Owned (κ ⊕ ι) α] [Widened κ ι α] {a : α}
    {x : Prog Fault (Host κ) Unit} (gives : GivesBack x (owned a)) :
    GivesBack (Host.among x : Prog Fault (Host (κ ⊕ ι)) Unit) (owned a) :=
  gives.among.of_eq (owned_widen a).symm

end Among

end Libusbp
