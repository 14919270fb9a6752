import Libusbp.ErrorChain
import Libusbp.Lib.Oblivious

/-!
# Errors on heaps that answer alike

The functions of `error.c` respect every relation between heaps that the allocator keeps up.
-/

namespace Libusbp

open Prog Heap

variable {R : Heap → Heap → Prop} [Oblivious R]

lemma respects_errorFree (error : Option Error) : Respects R (errorFree error) := by
  cases error with
  | none => exact .pure
  | some e =>
    apply Respects.ite .pure
    apply Respects.bind (respects_free _)
    intro _
    apply Respects.bind (respects_free _)
    intro _
    exact respects_free _

lemma respects_errorCopy (error : Option Error) : Respects R (errorCopy error) := by
  cases error with
  | none => exact .pure
  | some e =>
    apply Respects.bind (respects_malloc _)
    intro newError
    apply Respects.bind (respects_malloc _)
    intro newMessage
    apply Respects.bind (respects_malloc _)
    intro newCodeArray
    split
    · exact .pure
    · apply Respects.bind (respects_free _)
      intro _
      apply Respects.bind (respects_free _)
      intro _
      apply Respects.bind (respects_free _)
      intro _
      exact .pure

lemma respects_errorMakeMutable (error : Option Error) :
    Respects R (errorMakeMutable error) :=
  .ite (respects_errorCopy _) .pure

lemma respects_errorAddV (error : Option Error) (format : Option String) :
    Respects R (errorAddV error format) := by
  cases format with
  | none => exact .pure
  | some text =>
    apply Respects.bind (respects_errorMakeMutable error)
    intro r
    cases r with
    | none => exact .pure
    | some e =>
      apply Respects.ite .pure
      apply Respects.bind (respects_malloc _)
      intro r
      cases r with
      | none =>
        apply Respects.bind (respects_errorFree _)
        exact fun _ => .pure
      | some message =>
        apply Respects.bind (respects_free _)
        exact fun _ => .pure

lemma respects_errorAddCode (error : Option Error) (code : UInt32) :
    Respects R (errorAddCode error code) := by
  apply Respects.bind (respects_errorMakeMutable error)
  intro r
  cases r with
  | none => exact .pure
  | some e =>
    apply Respects.ite .pure
    apply Respects.ite .pure
    apply Respects.bind (respects_realloc _ _)
    intro r
    cases r with
    | none =>
      apply Respects.bind (respects_errorFree _)
      exact fun _ => .pure
    | some newArray => exact .pure

lemma respects_errorAdd (error : Option Error) (text : String) :
    Respects R (errorAdd error (some text)) :=
  respects_errorAddV error (some text)

lemma respects_errorCreate (text : String) : Respects R (errorCreate (some text)) :=
  respects_errorAddV none (some text)

lemma ErrorStep.respects_exec (step : ErrorStep) (error : Option Error) :
    Respects R (step.exec error) := by
  cases step with
  | create text => exact respects_errorCreate text
  | add text => exact respects_errorAdd error text
  | addV text => exact respects_errorAddV error (some text)
  | addCode code => exact respects_errorAddCode error code
  | copy => exact respects_errorCopy error

lemma respects_errorChain (steps : List ErrorStep) (error : Option Error) :
    Respects R (errorChain error steps) := by
  induction steps generalizing error with
  | nil => exact .pure
  | cons step steps ih => exact .bind (step.respects_exec error) ih

end Libusbp
