import Libusbp.Lib.Machine
import Libusbp.Lib.Owners

/-!
# The wrappers of the C++ API

`unique_pointer_wrapper` and `unique_pointer_wrapper_with_copy` of `libusbp.hpp`, for variables of any
number. An underlying C object is a number; `pointer_copy` and `pointer_free` stop the program if it is
not live. The moves of `unique_pointer_wrapper_with_copy` are defaulted, so they are those of
`unique_pointer_wrapper`.
-/

namespace Libusbp.Wrapper

open Prog

/-- Why a program with wrappers has no defined behavior. -/
inductive WrapperFault where
  /-- a variable is used that is not constructed, or constructed again -/
  | lifetime
  | useAfterFree
deriving DecidableEq, Repr

/-- `pointer x` is the member `pointer` of the variable `x`, once it is constructed. -/
structure World (V : Type) where
  pointer : V → Option (Option Nat)
  next : Nat
  log : List ObjectEvent

/-- The pointer that the program passes in: null, or that of an object that it just made. -/
inductive Given where
  | null
  | fresh
deriving DecidableEq, Repr

/-- What `pointer_copy` comes to. Where it returns a null pointer the copy is empty. -/
inductive CopyAnswer where
  | throws
  | null
  | fresh
deriving DecidableEq, Repr

/-- What the program does with its variables. -/
inductive Op (V : Type) where
  | construct (x : V) (p : Given)
  | moveConstruct (x other : V)
  | moveAssign (x other : V)
  | copyConstruct (x other : V) (answer : CopyAnswer)
  | copyAssign (x other : V) (answer : CopyAnswer)
  | pointerReset (x : V) (p : Given)
  | pointerRelease (x : V)
  | destroy (x : V)
deriving DecidableEq, Repr

inductive Result where
  | done
  | threw
  | released (p : Option Nat)
deriving DecidableEq, Repr

variable {V : Type} [DecidableEq V]

/-- A new object. -/
def make : Prog WrapperFault (World V) (Option Nat) := do
  let w ← get
  set { w with next := w.next + 1, log := .made w.next :: w.log }
  pure (some w.next)

def give (p : Given) : Prog WrapperFault (World V) (Option Nat) :=
  match p with
  | .null => pure none
  | .fresh => make

def pointerFree (p : Option Nat) : Prog WrapperFault (World V) Unit :=
  match p with
  | none => pure ()
  | some o => do
    let w ← get
    check .useAfterFree (isLive w.log o)
    set { w with log := .freed o :: w.log }

/-- `pointer_copy`, which yields nothing where it throws. -/
def pointerCopy (p : Option Nat) (answer : CopyAnswer) :
    Prog WrapperFault (World V) (Option (Option Nat)) := do
  if let some o := p then do
    let w ← get
    check .useAfterFree (isLive w.log o)
    set { w with log := .used o :: w.log }
  match answer with
  | .throws => pure none
  | .null => pure (some none)
  | .fresh => do
    let copy ← make
    pure (some copy)

def load (x : V) : Prog WrapperFault (World V) (Option Nat) := do
  let w ← get
  expect .lifetime (w.pointer x)

def store (x : V) (p : Option Nat) : Prog WrapperFault (World V) Unit := do
  let w ← get
  check .lifetime (w.pointer x).isSome
  set { w with pointer := Function.update w.pointer x (some p) }

/-- The constructor that takes a pointer. -/
def construct (x : V) (p : Option Nat) : Prog WrapperFault (World V) Unit := do
  let w ← get
  check .lifetime (w.pointer x).isNone
  set { w with pointer := Function.update w.pointer x (some p) }

def pointerReset (x : V) (p : Option Nat) : Prog WrapperFault (World V) Unit := do
  pointerFree (← load x)
  store x p

def pointerRelease (x : V) : Prog WrapperFault (World V) (Option Nat) := do
  let p ← load x
  store x none
  pure p

def moveConstruct (x other : V) : Prog WrapperFault (World V) Unit := do
  construct x (← pointerRelease other)

def moveAssign (x other : V) : Prog WrapperFault (World V) Unit := do
  pointerReset x (← pointerRelease other)

/-- The destructor. -/
def destroy (x : V) : Prog WrapperFault (World V) Unit := do
  pointerReset x none
  modify fun w => { w with pointer := Function.update w.pointer x none }

/-- The copy constructor. If its body throws, the base class is destroyed. -/
def copyConstruct (x other : V) (answer : CopyAnswer) : Prog WrapperFault (World V) Result := do
  construct x none
  match ← pointerCopy (← load other) answer with
  | none => do
    destroy x
    pure .threw
  | some copy => do
    store x copy
    pure .done

def copyAssign (x other : V) (answer : CopyAnswer) : Prog WrapperFault (World V) Result := do
  match ← pointerCopy (← load other) answer with
  | none => pure .threw
  | some copy => do
    pointerReset x copy
    pure .done

/-- The variables that are used are constructed, and the one that is constructed is not. -/
def Op.admitted (w : World V) : Op V → Bool
  | .construct x _ => (w.pointer x).isNone
  | .moveConstruct x other | .copyConstruct x other _ =>
    (w.pointer x).isNone && (w.pointer other).isSome
  | .moveAssign x other | .copyAssign x other _ =>
    (w.pointer x).isSome && (w.pointer other).isSome
  | .pointerReset x _ | .pointerRelease x | .destroy x => (w.pointer x).isSome

def perform : Op V → Prog WrapperFault (World V) Result
  | .construct x p => do
    construct x (← give p)
    pure .done
  | .moveConstruct x other => do
    moveConstruct x other
    pure .done
  | .moveAssign x other => do
    moveAssign x other
    pure .done
  | .copyConstruct x other answer => copyConstruct x other answer
  | .copyAssign x other answer => copyAssign x other answer
  | .pointerReset x p => do
    pointerReset x (← give p)
    pure .done
  | .pointerRelease x => do
    let p ← pointerRelease x
    -- from now on the object is the caller's
    if let some o := p then modify fun w => { w with log := .released o :: w.log }
    pure (.released p)
  | .destroy x => do
    destroy x
    pure .done

def step (op : Op V) : Prog WrapperFault (World V) Result := do
  let w ← get
  check .lifetime (op.admitted w)
  perform op

/-- The program starts without variables and without objects. -/
def start : World V := ⟨fun _ => none, 0, []⟩

/-- Who has which object: the variables, and the code that has the pointer `held` in hand. -/
def World.owners (w : World V) (held : Option Nat) : Option V → Option Nat
  | none => held
  | some x => (w.pointer x).join

/-- Every object has one owner, with a pointer in hand. -/
abbrev Inv (held : Option Nat) (w : World V) : Prop := SingleOwner (w.owners held) w.next w.log

/-- What a part of an operation did that started in `w`: it changed the pointers, has `held` in hand, and
released nothing to the caller. -/
structure After (w : World V) (pointer : V → Option (Option Nat)) (held : Option Nat) (w' : World V) :
    Prop where
  pointer : w'.pointer = pointer
  inv : Inv held w'
  log : ∃ events, w'.log = events ++ w.log ∧ ∀ o, .released o ∉ events

variable {w : World V} {x y : V} {p old : Option Nat}

omit [DecidableEq V] in
lemma Inv.after {held : Option Nat} (inv : Inv held w) : After w w.pointer held w :=
  ⟨rfl, inv, [], rfl, fun _ => List.not_mem_nil⟩

omit [DecidableEq V] in
lemma After.trans {w' w'' : World V} {pointer pointer' : V → Option (Option Nat)}
    {held held' : Option Nat} (h : After w pointer held w') (h' : After w' pointer' held' w'') :
    After w pointer' held' w'' := by
  obtain ⟨events, eq, unreleased⟩ := h.log
  obtain ⟨events', eq', unreleased'⟩ := h'.log
  refine ⟨h'.pointer, h'.inv, events' ++ events, by rw [eq', eq, List.append_assoc], ?_⟩
  intro o mem
  rcases List.mem_append.mp mem with later | earlier
  · exact unreleased' o later
  · exact unreleased o earlier

/-- A variable that gives up its pointer for another one changes places with the code. -/
lemma owners_swap (w : World V) (x : V) (q : Option Nat) :
    World.owners { w with pointer := Function.update w.pointer x (some q) } (w.pointer x).join =
      w.owners q ∘ Equiv.swap none (some x) := by
  funext i
  cases i with
  | none => simp [World.owners]
  | some y =>
    by_cases same : y = x
    · simp [World.owners, same]
    · have ne : some y ≠ some x := fun eq => same (Option.some.inj eq)
      rw [Function.comp_apply, Equiv.swap_apply_of_ne_of_ne (Option.some_ne_none y) ne]
      simp [World.owners, same]

/-- A variable with a null pointer, or one that is not constructed, takes the pointer in hand. -/
lemma Inv.put (inv : Inv p w) (empty : (w.pointer x).join = none) :
    Inv none { w with pointer := Function.update w.pointer x (some p) } := by
  have swapped := owners_swap w x p
  rw [empty] at swapped
  show SingleOwner _ _ _
  rw [swapped]
  exact inv.comp _

/-- The pointer of a variable is taken in hand. -/
lemma Inv.take (inv : Inv none w) (has : w.pointer x = some p) :
    Inv p { w with pointer := Function.update w.pointer x (some none) } := by
  have swapped := owners_swap w x none
  rw [has, Option.join_some] at swapped
  show SingleOwner _ _ _
  rw [swapped]
  exact inv.comp _

/-- The variable `x` has the object `o`. -/
def World.Has (w : World V) (x : V) (o : Nat) : Prop := w.pointer x = some (some o)

/-- What an operation must come to. -/
structure Contract (op : Op V) (w : World V) (r : Result) (w' : World V) : Prop where
  inv : Inv none w'
  /-- an object that is dropped was freed, once, or released to the caller -/
  dropped : ∀ x o, w.Has x o → (∀ y, ¬w'.Has y o) →
    if r = .released (some o) then w'.log.count (.freed o) = 0 else w'.log.count (.freed o) = 1
  copyThrows : ∀ x other, op = .copyAssign x other .throws → r = .threw ∧ w'.pointer = w.pointer
  moves : ∀ x other, op = .moveConstruct x other ∨ op = .moveAssign x other →
    w'.pointer x = w.pointer other ∧ (x ≠ other → w'.pointer other = some none)

/-- The parts of the contract follow from what became of the pointers and the log. -/
lemma Contract.of_inv {op : Op V} {r : Result} {w' : World V} (inv : Inv none w) (inv' : Inv none w')
    (log : ∃ events, w'.log = events ++ w.log ∧
      ∀ o, events.count (.released o) = if r = .released (some o) then 1 else 0)
    (copyThrows : ∀ x other, op = .copyAssign x other .throws → r = .threw ∧ w'.pointer = w.pointer)
    (moves : ∀ x other, op = .moveConstruct x other ∨ op = .moveAssign x other →
      w'.pointer = Function.update (Function.update w.pointer other (some none)) x (w.pointer other)) :
    Contract op w r w' where
  inv := inv'
  dropped := by
    obtain ⟨events, eq, released⟩ := log
    intro x o has gone
    have owned : w.owners none (some x) = some o := by
      rw [World.owners, show w.pointer x = some (some o) from has]
      rfl
    obtain ⟨made, _, unreleased⟩ := isLive_iff.mp (inv.live _ o owned)
    have unowned : ∀ i, w'.owners none i ≠ some o := by
      intro i hi
      cases i with
      | none => cases hi
      | some y => exact gone y (Option.join_eq_some_iff.mp hi)
    have parted := inv'.settled o (by rw [eq]; exact List.mem_append_right _ made) unowned
    have count : w'.log.count (.released o) = if r = .released (some o) then 1 else 0 := by
      rw [eq, List.count_append, released, List.count_eq_zero_of_not_mem unreleased, Nat.add_zero]
    rw [partings, count] at parted
    split_ifs at parted ⊢
    · omega
    · omega
  copyThrows := copyThrows
  moves x other op := by
    rw [moves x other op]
    refine ⟨by simp, fun ne => ?_⟩
    rw [Function.update_of_ne (Ne.symm ne), Function.update_self]

/-- An operation that releases nothing to the caller, and is neither a copy that throws nor a move. -/
lemma After.contract {op : Op V} {r : Result} {w' : World V} {pointer : V → Option (Option Nat)}
    (inv : Inv none w) (after : After w pointer none w') (keeps : ∀ o, r ≠ .released (some o))
    (copyThrows : ∀ x other, op = .copyAssign x other .throws → r = .threw ∧ pointer = w.pointer)
    (moves : ∀ x other, op = .moveConstruct x other ∨ op = .moveAssign x other →
      pointer = Function.update (Function.update w.pointer other (some none)) x (w.pointer other)) :
    Contract op w r w' := by
  obtain ⟨events, eq, unreleased⟩ := after.log
  apply Contract.of_inv inv after.inv
  · refine ⟨events, eq, fun o => ?_⟩
    rw [if_neg (keeps o), List.count_eq_zero_of_not_mem (unreleased o)]
  · rwa [after.pointer]
  · rwa [after.pointer]

/-- Every object has one owner, was freed once or was released to the caller once. -/
structure World.Disciplined (w : World V) : Prop where
  unique : ∀ x y o, w.Has x o → w.Has y o → x = y
  live : ∀ x o, w.Has x o → isLive w.log o = true
  settled : ∀ o, .made o ∈ w.log → (∀ x, ¬w.Has x o) → partings w.log o = 1

omit [DecidableEq V] in
lemma Inv.disciplined (inv : Inv none w) : w.Disciplined where
  unique x y o hx hy := Option.some.inj
    (inv.unique (some x) (some y) o (Option.join_eq_some_iff.mpr hx) (Option.join_eq_some_iff.mpr hy))
  live x o hx := inv.live (some x) o (Option.join_eq_some_iff.mpr hx)
  settled o made unowned := by
    apply inv.settled o made
    intro i hi
    cases i with
    | none => cases hi
    | some x => exact unowned x (Option.join_eq_some_iff.mp hi)

end Libusbp.Wrapper
