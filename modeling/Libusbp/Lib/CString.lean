import Libusbp.Lib.Local
import Mathlib.Logic.Function.Basic

/-!
# Strings in memory

A memory of bytes that keeps the addresses a program has looked at. Nothing marks the end of a buffer in
it: a loop goes where its addresses lead. `Inside bytes` says that the memory begins with a buffer and
that nothing behind the buffer was looked at, and `wp_readString` that a program which reads a string of
the buffer up to its zero byte keeps it that way.
-/

/-- Bytes at their addresses, and the addresses that were looked at. -/
structure Memory where
  byte : Nat → UInt8
  examined : List Nat

namespace Memory

open Prog

variable {φ : Type}

/-- Look at a byte. -/
def examine (i : Nat) : Prog φ Memory UInt8 := do
  let memory ← get
  set { memory with examined := i :: memory.examined }
  pure (memory.byte i)

/-- Write a byte. -/
def store (i : Nat) (c : UInt8) : Prog φ Memory Unit :=
  modify fun memory => { memory with byte := Function.update memory.byte i c }

/-- Look at the bytes from `p` on up to the first zero byte, and yield those in front of it. -/
def readString (endless : φ) (rounds p : Nat) : Prog φ Memory (List UInt8) :=
  loopWith endless (fun string => do
    let c ← examine (p + string.length)
    pure (if c = 0 then .inr string else .inl (string ++ [c]))) rounds []

/-- The memory begins with a buffer, and nothing else was looked at. -/
structure Inside (bytes : List UInt8) (memory : Memory) : Prop where
  holds : ∀ i < bytes.length, bytes[i]? = some (memory.byte i)
  examined : ∀ i ∈ memory.examined, i < bytes.length

variable {bytes : List UInt8} {memory : Memory} {i p rounds : Nat} {endless : φ}

lemma Inside.drop (inside : Inside bytes memory) (lt : p < bytes.length) :
    bytes.drop p = memory.byte p :: bytes.drop (p + 1) := by
  have here : bytes[p] = memory.byte p := by
    have holds := inside.holds p lt
    rw [List.getElem?_eq_getElem lt] at holds
    exact Option.some.inj holds
  rw [List.drop_eq_getElem_cons lt, here]

/-- Looking at a byte of the buffer. -/
lemma Inside.wp_examine (inside : Inside bytes memory) (lt : i < bytes.length)
    {Q : UInt8 → Memory → Prop}
    (post : ∀ memory', memory'.byte = memory.byte → Inside bytes memory' →
      Q (memory.byte i) memory') : wp (examine i : Prog φ Memory _) Q memory := by
  simp only [examine, wp_bind, wp_get, wp_set, wp_pure]
  refine post _ rfl ?_
  constructor
  · exact inside.holds
  · intro j mem
    rcases List.mem_cons.mp mem with rfl | mem
    · exact lt
    · exact inside.examined j mem

/-- Reading a string of the buffer, which has a zero byte behind it. -/
lemma Inside.wp_readString (inside : Inside bytes memory) (ends : 0 ∈ bytes.drop p)
    (enough : bytes.length ≤ rounds) {Q : List UInt8 → Memory → Prop}
    (post : ∀ memory', Inside bytes memory' → Q ((bytes.drop p).takeWhile (· != 0)) memory') :
    wp (readString endless rounds p) Q memory := by
  have within {q : Nat} (ends : 0 ∈ bytes.drop q) : q < bytes.length := by
    by_contra le
    rw [List.drop_eq_nil_of_le (Nat.not_lt.mp le)] at ends
    cases ends
  -- what was read so far, and what is still in front of the zero byte
  apply wp_loopWith (fun string memory => Inside bytes memory ∧
      0 ∈ bytes.drop (p + string.length) ∧
      string ++ (bytes.drop (p + string.length)).takeWhile (· != 0) =
        (bytes.drop p).takeWhile (· != 0))
    fun string => bytes.length - 1 - (p + string.length)
  · rintro string memory ⟨inside, ends, split⟩
    have lt := within ends
    have next := inside.drop lt
    simp only [wp_bind]
    apply inside.wp_examine lt
    intro memory' _ inside'
    rw [next] at ends split
    rw [wp_pure]
    by_cases zero : memory.byte (p + string.length) = 0
    · rw [if_pos zero]
      rw [List.takeWhile_cons_of_neg (by simpa using zero), List.append_nil] at split
      rw [split]
      exact post memory' inside'
    · rw [if_neg zero]
      rw [List.takeWhile_cons_of_pos (by simpa using zero)] at split
      have ends' : 0 ∈ bytes.drop (p + string.length + 1) :=
        (List.mem_cons.mp ends).resolve_left (Ne.symm zero)
      have lt' := within ends'
      have length : p + (string ++ [memory.byte (p + string.length)]).length =
          p + string.length + 1 := by
        rw [List.length_append, List.length_singleton, Nat.add_assoc]
      dsimp only
      rw [length]
      refine ⟨⟨inside', ends', ?_⟩, by omega⟩
      rw [List.append_assoc]
      exact split
  · have lt := within ends
    simp only [List.length_nil, Nat.add_zero]
    omega
  · exact ⟨inside, ends, rfl⟩

end Memory
