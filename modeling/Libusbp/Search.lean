import Libusbp.Ends
import Libusbp.Lib.First

/-!
# Searches that find nothing

A search through what the operating system enumerates ends with the code `LIBUSBP_ERROR_NOT_READY` if
nothing was found, on every platform.
-/

namespace Libusbp

open Prog Host

variable {κ β : Type}

/-- An error with the code `LIBUSBP_ERROR_NOT_READY` unless something was found. -/
def notReadyUnless (found : Bool) (text : String) : Prog Fault (Host κ) (Option Error) :=
  if found then pure none
  else inHeap do
    let error ← errorCreate text
    errorAddCode error ErrorCode.notReady

/-- The error of a search that found nothing. -/
def notReadyError (text : String) : ErrorValue := (ErrorValue.ofText text).addCode ErrorCode.notReady

/-- What was found, or the error of a search that found nothing. -/
def orNotReady (text : String) (found : Option β) : Except ErrorValue β :=
  match found with
  | some b => .ok b
  | none => .error (notReadyError text)

variable [DecidableEq κ] {m : Holdings κ} {d : Nat} {s : Host κ}

lemma notReadyUnless_checked (own : Holding m d s) (text : String) :
    wp (notReadyUnless false text) (Checked m d (.error (notReadyError text))) s := by
  simp only [notReadyUnless, Bool.false_eq_true, if_false]
  rw [wp_inHeap_bind]
  apply own.wp_create
  intro e s₁ r
  apply r.wp_addCode
  · rintro _ rfl
    show 0 < sizeMax / sizeofUInt32
    decide
  · intro e' s₂ r'
    apply r'.mono
    rintro _ ⟨_, rfl, rfl⟩
    rfl

end Libusbp
