import Libusbp.Ends
import Libusbp.Lib.Kinds

/-!
# How a call ends among references of further kinds

A generic handle holds references of other kinds than the functions that are called to open it. What is
known about how such a call ends is known among the other references as well.
-/

namespace Libusbp

open Prog Host

variable {κ ι α β γ : Type} [DecidableEq κ] [DecidableEq ι] {m : Holdings (κ ⊕ ι)} {d : Nat}
  {s : Host (κ ⊕ ι)} {t : Host κ}

lemma Holding.inner (own : Holding m d s) : Holding (Holdings.inner m) d s.inner :=
  ⟨own.owns.inner, own.denials⟩

lemma Holding.around {m' : Holdings (κ ⊕ ι)} {o : Holdings κ} (own : s.Owns m')
    (same : Holdings.outer m' = Holdings.outer m) (own' : Holding (Holdings.inner m + o) d t) :
    Holding (m + Holdings.widen o) d (t.around s) where
  owns := by
    apply own.around
    · exact own'.owns.of_eq (by simp)
    · simpa using same
  denials := own'.denials

lemma Raised.around {V : ErrorValue → Prop} {e : Error} (own : s.Owns m)
    (r : Raised (Holdings.inner m) d V e t) : Raised m d V e (t.around s) where
  sound := r.sound
  owns := by
    apply own.around
    · exact r.owns.of_eq (by simp)
    · simp
  value := r.value

/-- A call with an output, whose references have the kinds of the call. -/
lemma Holding.among_ends [Owned κ α] [Owned (κ ⊕ ι) α] [Content α β] (own : Holding m d s)
    (same : ∀ a : α, (owned a : Holdings (κ ⊕ ι)) = Holdings.widen (owned a))
    {x : Prog Fault (Host κ) (Option Error × Option α)} {o : Except ErrorValue (Option β)}
    (h : ∀ m s, Holding m d s → wp x (Ends m d o) s) : wp (among x) (Ends m d o) s := by
  rw [among, wp_zoom]
  apply wp_mono (h _ _ own.inner)
  rintro ⟨_ | e, a⟩ t ended
  · refine ⟨ended.1, (ended.2.around own.owns rfl).of_eq ?_⟩
    cases a with
    | none => rw [owned_none, Holdings.widen_zero]; rfl
    | some a => rw [owned_some, owned_some, same]
  · exact ⟨ended.1, ended.2.around own.owns⟩

omit [DecidableEq κ] [DecidableEq ι] in
/-- A string holds no references. -/
lemma owned_string_widen (string : Box String) :
    (owned string : Holdings (κ ⊕ ι)) = Holdings.widen (owned string) := by
  rw [owned_box, owned_box, owned_string, owned_string, add_zero, add_zero]
  rfl

/-- A call that gets a plain value. -/
lemma Holding.among_gets (own : Holding m d s) {x : Prog Fault (Host κ) (Option Error × γ)}
    {o : Except ErrorValue γ} (h : ∀ m s, Holding m d s → wp x (Gets m d o) s) :
    wp (among x) (Gets m d o) s := by
  rw [among, wp_zoom]
  apply wp_mono (h _ _ own.inner)
  rintro ⟨_ | e, a⟩ t got
  · exact ⟨got.1, (own.owns.around (got.2.owns) rfl), got.2.denials⟩
  · exact Raised.around own.owns got

/-- A call that only looks at something. -/
lemma Holding.wp_among_pure (own : Holding m d s) {a : α} {Q : α → Host (κ ⊕ ι) → Prop}
    (post : ∀ s', Holding m d s' → Q a s') : wp (among (pure a : Prog Fault (Host κ) α)) Q s := by
  rw [among, wp_zoom, wp_pure]
  exact post _ ⟨own.owns.around own.owns.inner rfl, own.denials⟩

/-- A call that gives something back. -/
lemma GivesBack.among {x : Prog Fault (Host κ) Unit} {o : Holdings κ} (h : GivesBack x o) :
    GivesBack (Host.among x : Prog Fault (Host (κ ⊕ ι)) Unit) (Holdings.widen o) := by
  intro m d s own
  rw [Host.among, wp_zoom]
  have own' : Holding (Holdings.inner m + o) d s.inner := own.inner.of_eq (by simp)
  apply wp_mono (h _ _ _ own')
  exact fun _ t own'' => ⟨own.owns.around own''.owns (by simp), own''.denials⟩

/-- The checks of the arguments of a function that opens a handle. The argument `handle` is false for an
output pointer that is null. -/
def opening (gi : Option α) (handle : Bool)
    (f : α → Prog Fault (Host κ) (Option Error × Option β)) :
    Prog Fault (Host κ) (Option Error × Option β) :=
  if handle = false then do
    let error ← inHeap (errorCreate "Generic handle output pointer is null.")
    pure (error, none)
  else match gi with
    | none => do
      let error ← inHeap (errorCreate "Generic interface is null.")
      pure (error, none)
    | some gi => f gi

/-- The outcome of a call that opens a handle, where `o` says what is done with the interface. -/
def openingOutcome (gi : Option α) (handle : Bool) (o : α → Except ErrorValue β) :
    Except ErrorValue β :=
  if handle = false then .error (.ofText "Generic handle output pointer is null.")
  else match gi with
    | none => .error (.ofText "Generic interface is null.")
    | some gi => o gi

lemma Holding.opening_ends [Owned κ β] [Content β γ] {m : Holdings κ} {s : Host κ}
    (own : Holding m d s) {gi : Option α} {handle : Bool} {o : α → Except ErrorValue γ}
    {f : α → Prog Fault (Host κ) (Option Error × Option β)}
    (rest : ∀ a, gi = some a → wp (f a) (Ends m d ((o a).map some)) s) :
    wp (opening gi handle f) (Ends m d ((openingOutcome gi handle o).map some)) s := by
  unfold opening openingOutcome
  apply wp_ite
  · intro missing
    rw [if_pos missing]
    exact own.raise_ends _
  intro there
  rw [if_neg there]
  cases gi with
  | none => exact own.raise_ends _
  | some a => exact rest a rfl

/-- A call that opens something, and the call that closes what it opened: the first ends as `o` says
and keeps nothing but what it returns, and after the second only the error is left, if there is one. -/
structure Opens [Owned κ α] [Content α β] (m : Holdings κ) (d : Nat) (o : Except ErrorValue β)
    (close : Option α → Prog Fault (Host κ) Unit) (r : Option Error × Option α) (s : Host κ) :
    Prop where
  ends : Ends m d (o.map some) r s
  releases : Releases m r s
  closes : wp (close r.2) (fun _ s' => s'.Settled (m + (errorBlocks r.1, 0))) s

lemma Ends.opens [Owned κ α] [Content α β] {m : Holdings κ} {d : Nat} {o : Except ErrorValue β}
    {close : Option α → Prog Fault (Host κ) Unit} {r : Option Error × Option α} {s : Host κ}
    (closes : ∀ a, GivesBack (close a) (owned a)) (h : Ends m d (o.map some) r s) :
    Opens m d o close r s where
  ends := h
  releases := h.releases
  closes := by
    obtain ⟨a, rfl, _, own⟩ | ⟨e, rfl, raised⟩ := h.elim
    · apply (closes (some a)).wp own
      exact fun s' own' => (own'.owns.of_eq (add_zero m).symm).settled
    · apply (closes none).wp (m := m + (e.blocks, 0)) (d := s.denials)
      · exact ⟨raised.owns.of_eq (by simp), rfl⟩
      · exact fun s' own' => own'.owns.settled

end Libusbp
