import Mathlib.Logic.Basic

/-!
# Settings that are written and read

A history of accesses to settings, the newest one first. `lastWrite` is the value that a setting has at
the end of the history, and `Faithful` says that each read got the value that its setting had then.
-/

/-- An access to a setting: a write, or a read with the value that it got. -/
inductive Access (K V : Type) where
  | write (k : K) (v : V)
  | read (k : K) (v : V)
deriving DecidableEq, Repr

namespace Access

variable {K V : Type} [DecidableEq K]

/-- The value that was written last to `k`, where `v₀` is the value at the start. -/
def lastWrite (v₀ : V) (k : K) : List (Access K V) → V
  | [] => v₀
  | .write k' v :: log => if k' = k then v else lastWrite v₀ k log
  | .read _ _ :: log => lastWrite v₀ k log

/-- Every read got the value that was written last. -/
def Faithful (v₀ : V) : List (Access K V) → Prop
  | [] => True
  | .write _ _ :: log => Faithful v₀ log
  | .read k v :: log => v = lastWrite v₀ k log ∧ Faithful v₀ log

variable {v₀ v : V} {k k' : K} {log : List (Access K V)}

@[simp] lemma lastWrite_write_self : lastWrite v₀ k (.write k v :: log) = v := if_pos rfl

lemma lastWrite_write_of_ne (ne : k' ≠ k) :
    lastWrite v₀ k (.write k' v :: log) = lastWrite v₀ k log := if_neg ne

@[simp] lemma lastWrite_read : lastWrite v₀ k (.read k' v :: log) = lastWrite v₀ k log := rfl

/-- A read anywhere in the history got what was written last before it. -/
lemma Faithful.read {newer older : List (Access K V)}
    (h : Faithful v₀ (newer ++ .read k v :: older)) : v = lastWrite v₀ k older := by
  induction newer with
  | nil => exact h.1
  | cons a newer ih =>
    cases a with
    | write k v => exact ih h
    | read k v => exact ih h.2

end Access
