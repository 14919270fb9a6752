import Libusbp.Strings

/-!
# Functions that only ask for memory

A function that makes copies fails in one way: a request for memory is denied. `Requests n x` says
that `x` makes `n` requests, stops at the first that is denied and then returns `error_no_memory`, so
that the answers to the next `n` requests decide how it ends.
-/

/-- The next `n` requests for memory will be granted. -/
def Heap.Grants (h : Heap) (n : Nat) : Prop := ∀ i < n, h.grant (h.next + i) = true

instance (h : Heap) (n : Nat) : Decidable (h.Grants n) := inferInstanceAs (Decidable (∀ i < n, _))

/-- One heap is another after `n` requests, with the same answers still to come. -/
structure Heap.After (n : Nat) (h h' : Heap) : Prop where
  grant : h'.grant = h.grant
  next : h'.next = h.next + n

namespace Heap.After

variable {h h' h'' : Heap} {n k : Nat}

lemma refl : After 0 h h := ⟨rfl, rfl⟩

lemma trans (a : After n h h') (a' : After k h' h'') : After (n + k) h h'' where
  grant := a'.grant.trans a.grant
  next := by rw [a'.next, a.next, Nat.add_assoc]

/-- All requests are granted if the first `n` and then the others are. -/
lemma grants_add (a : After n h h') : h.Grants (n + k) ↔ h.Grants n ∧ h'.Grants k := by
  simp only [Heap.Grants, a.grant, a.next]
  constructor
  · intro all
    exact ⟨fun i lt => all i (by omega), fun i lt => by rw [Nat.add_assoc]; exact all _ (by omega)⟩
  · rintro ⟨first, others⟩ i lt
    by_cases hi : i < n
    · exact first i hi
    · have := others (i - n) (by omega)
      rwa [Nat.add_assoc, Nat.add_sub_cancel' (by omega)] at this

end Heap.After

/-- All requests for memory from now on will be granted. -/
def Heap.GrantsAll (h : Heap) : Prop := ∀ n, h.next ≤ n → h.grant n = true

namespace Heap.GrantsAll

open Prog

variable {φ : Type} {h : Heap}

lemma wp_malloc (all : h.GrantsAll) {size : Nat} {Q : Option Addr → Heap → Prop}
    (post : ∀ a h', h'.GrantsAll → Q (some a) h') : wp (malloc size : Prog φ Heap _) Q h := by
  refine ⟨_, _, malloc_eq, ?_⟩
  rw [if_pos (all h.next (Nat.le_refl _))]
  exact post _ _ fun n le => all n (Nat.le_of_succ_le le)

lemma wp_calloc (all : h.GrantsAll) {count size : Nat} (fits : count * size < 2 ^ 64)
    {Q : Option Addr → Heap → Prop} (post : ∀ a h', h'.GrantsAll → Q (some a) h') :
    wp (calloc count size : Prog φ Heap _) Q h := by
  rw [calloc, if_pos fits]
  exact all.wp_malloc post

end Heap.GrantsAll

namespace Libusbp

open Prog Host

variable {κ α β ν : Type}

/-- The program makes `n` requests for memory and stops at the first that is denied. -/
def Requests (n : Nat) (x : Prog Fault (Host κ) (Option Error × α)) : Prop :=
  ∀ s r s', x s = .ok (r, s') →
    (s.heap.Grants n → r.1 = none ∧ s.heap.After n s'.heap) ∧
    (¬s.heap.Grants n → r.1 = some errorNoMemory)

/-- The program makes no requests for memory. -/
def Quiet (x : Prog Fault (Host κ) Unit) : Prop :=
  ∀ s u s', x s = .ok (u, s') → s.heap.After 0 s'.heap

namespace Quiet

lemma seq {x y : Prog Fault (Host κ) Unit} (hx : Quiet x) (hy : Quiet y) :
    Quiet (do x; y) := by
  intro s u s'' h
  obtain ⟨_, s', eq, eq'⟩ := bind_ok h
  exact (hx s _ s' eq).trans (hy s' _ s'' eq')

lemma free {b : Option (Box α)} : Quiet (Host.free b : Prog Fault (Host κ) Unit) := by
  intro s u s' h
  cases b with
  | none =>
    cases h
    exact .refl
  | some b =>
    cases h
    exact ⟨rfl, rfl⟩

end Quiet

namespace Requests

lemma done {a : α} : Requests 0 (pure (none, a) : Prog Fault (Host κ) _) := by
  rintro s _ _ ⟨⟩
  exact ⟨fun _ => ⟨rfl, .refl⟩, fun no => absurd (fun _ lt => absurd lt (Nat.not_lt_zero _)) no⟩

/-- A value that must be there. -/
lemma expect {n : Nat} {o : Option β} {φ : Fault}
    {f : β → Prog Fault (Host κ) (Option Error × α)} (h : ∀ b, o = some b → Requests n (f b)) :
    Requests n (Prog.expect φ o >>= f) := by
  intro s r s'' run
  obtain ⟨b, s', eq, run⟩ := bind_ok run
  cases o with
  | none => cases eq
  | some b =>
    cases eq
    exact h b rfl s r s'' run

/-- The only error is `error_no_memory`. -/
lemma error {n : Nat} {x : Prog Fault (Host κ) (Option Error × α)} (h : Requests n x) {s s' : Host κ}
    {e : Error} {a : α} (run : x s = .ok ((some e, a), s')) :
    e = errorNoMemory ∧ ¬s.heap.Grants n := by
  obtain ⟨yes, no⟩ := h s _ s' run
  by_cases grants : s.heap.Grants n
  · cases (yes grants).1
  · exact ⟨Option.some.inj (no grants), grants⟩

/-- It succeeds exactly if all requests are granted. -/
lemma ok {n : Nat} {x : Prog Fault (Host κ) (Option Error × α)} (h : Requests n x) {s s' : Host κ}
    {a : α} (run : x s = .ok ((none, a), s')) : s.heap.Grants n ∧ s.heap.After n s'.heap := by
  obtain ⟨yes, no⟩ := h s _ s' run
  by_cases grants : s.heap.Grants n
  · exact ⟨grants, (yes grants).2⟩
  · cases no grants

variable {n k : Nat}

lemma into {f : ν → Prog Fault (Host κ) (Option Error × α)} {put : ν → α → ν} {l : ν}
    (h : Requests n (f l)) : Requests n (into f put l) := by
  intro s r s'' run
  obtain ⟨r', s', eq, eq'⟩ := bind_ok run
  cases eq'
  exact h s r' _ eq

/-- The steps of a constructor, the first of which makes `n` requests. -/
lemma stages {f : ν → Prog Fault (Host κ) (Option Error × ν)}
    {fs : List (ν → Prog Fault (Host κ) (Option Error × ν))} (first : ∀ l, Requests n (f l))
    (others : ∀ l, Requests k (Prog.stages fs l)) (l : ν) :
    Requests (n + k) (Prog.stages (f :: fs) l) := by
  intro s r s'' run
  rcases stages_ok run with ⟨e, l', rfl, eq⟩ | ⟨l', s', eq, eq'⟩
  · obtain ⟨rfl, denied⟩ := (first l).error eq
    refine ⟨fun all => absurd ?_ denied, fun _ => rfl⟩
    exact fun i lt => all i (by omega)
  · obtain ⟨granted, after⟩ := (first l).ok eq
    obtain ⟨yes, no⟩ := others l' s' r s'' eq'
    rw [after.grants_add]
    refine ⟨fun all => ?_, fun nope => no fun rest => nope ⟨granted, rest⟩⟩
    exact ⟨(yes all.2).1, after.trans (yes all.2).2⟩

lemma stagesInto {f : ν → Prog Fault (Host κ) (Option Error × α)} {put : ν → α → ν}
    {fs : List (ν → Prog Fault (Host κ) (Option Error × ν))} (first : ∀ l, Requests n (f l))
    (others : ∀ l, Requests k (Prog.stages fs l)) (l : ν) :
    Requests (n + k) (Prog.stages (Prog.into f put :: fs) l) :=
  stages (fun l => into (first l)) others l

lemma construct {steps : List (ν → Prog Fault (Host κ) (Option Error × ν))}
    {cleanUp : ν → Prog Fault (Host κ) Unit} {output : ν → α} {l : ν}
    (clean : ∀ l, Quiet (cleanUp l)) (h : Requests n (Prog.stages steps l)) :
    Requests n (construct steps cleanUp output l) := by
  intro s r s'' run
  obtain ⟨r', s', eq, run⟩ := bind_ok run
  obtain ⟨u, t, eq', run⟩ := bind_ok run
  cases run
  obtain ⟨yes, no⟩ := h s r' s' eq
  exact ⟨fun all => ⟨(yes all).1, (yes all).2.trans (clean _ _ _ _ eq')⟩, no⟩

end Requests

/-- The next request decides about a new block. -/
lemma new_answered {size : Nat} {val : α} {b : Option (Box α)} {s s' : Host κ}
    (run : (new size val : Prog Fault (Host κ) _) s = .ok (b, s')) :
    s.heap.After 1 s'.heap ∧ b.isSome = s.heap.grant s.heap.next := by
  have after : s.heap.After 1 (s.heap.request size) := ⟨rfl, rfl⟩
  obtain ⟨a, s₁, eq, run⟩ := bind_ok run
  simp only [inHeap, zoom, Heap.malloc_eq] at eq
  cases eq
  cases run
  refine ⟨after, ?_⟩
  cases s.heap.grant s.heap.next with
  | true => rfl
  | false => rfl

/-- A request of any size that is granted yields a block. -/
lemma Holding.wp_new_granted [DecidableEq κ] [Owned κ α] {m : Holdings κ} {d : Nat} {s : Host κ}
    {size : Nat} {val : α} (own : Holding m d s) (granted : s.heap.grant s.heap.next = true)
    (bare : (owned val : Holdings κ) = 0) {Q : Option (Box α) → Host κ → Prop}
    (post : ∀ b s', b.val = val → Holding (m + owned b) d s' → Q (some b) s') :
    wp (new size val : Prog Fault (Host κ) _) Q s := by
  have made : wp (new size val : Prog Fault (Host κ) _) (fun b s' =>
      ∀ a, b = some a → a.val = val ∧ Holding (m + owned a) d s') s := by
    apply own.owns.wp_new_any bare
    · rintro b s' hb own' hd _ ⟨⟩
      exact ⟨hb, own', hd.trans own.denials⟩
    · rintro s' _ _ a ⟨⟩
  apply wp_mono made.run
  rintro b s' ⟨held, run⟩
  obtain ⟨a, rfl⟩ := Option.isSome_iff_exists.mp ((new_answered run).2.trans granted)
  exact post a s' (held a rfl).1 (held a rfl).2

/-- A request of any size that is denied yields no block. -/
lemma Holding.wp_new_denied [DecidableEq κ] [Owned κ α] {m : Holdings κ} {d : Nat} {s : Host κ}
    {size : Nat} {val : α} (own : Holding m d s) (denied : s.heap.grant s.heap.next = false)
    (bare : (owned val : Holdings κ) = 0) {Q : Option (Box α) → Host κ → Prop}
    (post : ∀ s', s'.Owns m → Q none s') : wp (new size val : Prog Fault (Host κ) _) Q s := by
  have made : wp (new size val : Prog Fault (Host κ) _) (fun b s' => b = none → s'.Owns m) s := by
    apply own.owns.wp_new_any bare
    · rintro b s' _ _ _ ⟨⟩
    · exact fun s' own' _ _ => own'
  apply wp_mono made.run
  rintro b s' ⟨held, run⟩
  have null : b = none := by
    rw [← Option.not_isSome_iff_eq_none, (new_answered run).2, denied]
    exact Bool.false_ne_true
  rw [null]
  exact post s' (held null)

/-- A request for zero bytes is one for bytes, unless it is for too many. -/
lemma newZeroed_eq {size : Nat} {val : α} (small : size < 2 ^ 64) :
    (newZeroed size val : Prog Fault (Host κ) _) = new size val := by
  simp only [newZeroed, new, Heap.calloc, Nat.one_mul, if_pos small]

lemma newZeroed_answered {size : Nat} {val : α} {b : Option (Box α)} {s s' : Host κ}
    (small : size < 2 ^ 64) (run : (newZeroed size val : Prog Fault (Host κ) _) s = .ok (b, s')) :
    s.heap.After 1 s'.heap ∧ b.isSome = s.heap.grant s.heap.next := by
  rw [newZeroed_eq small] at run
  exact new_answered run

lemma allocate_requests {size : Nat} {val : α} :
    Requests 1 (allocate size val : Prog Fault (Host κ) _) := by
  intro s r s' run
  have grants : s.heap.Grants 1 ↔ s.heap.grant s.heap.next = true := by simp [Heap.Grants]
  obtain ⟨b, s₁, made, run⟩ := bind_ok run
  obtain ⟨after, there⟩ := new_answered made
  rw [grants, ← there]
  cases b with
  | none =>
    cases run
    exact ⟨fun yes => absurd yes Bool.false_ne_true, fun _ => rfl⟩
  | some b =>
    cases run
    exact ⟨fun _ => ⟨rfl, after⟩, fun no => absurd rfl no⟩

lemma allocateZeroed_requests {size : Nat} {val : α} (small : size < 2 ^ 64) :
    Requests 1 (allocateZeroed size val : Prog Fault (Host κ) _) := by
  have same : (newZeroed size val : Prog Fault (Host κ) _) = new size val := newZeroed_eq small
  simp only [allocateZeroed, same]
  exact allocate_requests

lemma stringCopy_requests {string : Option String} :
    Requests 1 (stringCopy string : Prog Fault (Host κ) _) :=
  Requests.expect fun _ _ => allocate_requests

end Libusbp
