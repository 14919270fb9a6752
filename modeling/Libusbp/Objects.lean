import Libusbp.Strings

/-!
# Getters of the objects of the API

On every platform a getter checks its output pointer and its object, and then gives a number or the
copy of a string of the object. An argument `output` is false for an output pointer that is null.
-/

namespace Libusbp

open Prog Host

variable {κ α : Type}

/-- The getter of a number. -/
def getNumber (outputNull objectNull : String) (number : α → UInt16) (object : Option (Box α))
    (output : Bool) : Prog Fault (Host κ) (Option Error × UInt16) :=
  if output = false then do
    let error ← inHeap (errorCreate outputNull)
    pure (error, 0)
  else match object with
    | none => do
      let error ← inHeap (errorCreate objectNull)
      pure (error, 0)
    | some object => pure (none, number object.val)

/-- The getter of a string. -/
def getString (outputNull objectNull : String)
    (string : α → Prog Fault (Host κ) (Option Error × Option (Box String)))
    (object : Option (Box α)) (output : Bool) :
    Prog Fault (Host κ) (Option Error × Option (Box String)) :=
  if output = false then do
    let error ← inHeap (errorCreate outputNull)
    pure (error, none)
  else match object with
    | none => do
      let error ← inHeap (errorCreate objectNull)
      pure (error, none)
    | some object => string object.val

/-- The contents of a string that a pointer may point to. -/
def text (string : Option (Box String)) : Option String := string.map (·.val)

lemma isSome_of_text {string : Option (Box String)} {t : String} (said : text string = some t) :
    string.isSome = true := by
  cases string with
  | none => cases said
  | some string => rfl

end Libusbp
