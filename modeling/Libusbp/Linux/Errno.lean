import Libusbp.ErrorChain

/-!
# Errors from Linux error numbers

`error_linux.c`. The message of an error number comes from `strerror_r`, which depends on the locale
and may fail; it is a parameter of the functions here.
-/

namespace Libusbp.Linux

open Prog Heap

def enoent : Int := 2
def ebadf : Int := 9
def eagain : Int := 11
def enomem : Int := 12
def eacces : Int := 13
def enodev : Int := 19
def einval : Int := 22
def epipe : Int := 32
def etime : Int := 62
def eproto : Int := 71
def eoverflow : Int := 75
def eilseq : Int := 84
def eshutdown : Int := 108
def etimedout : Int := 110

/-- The texts and codes that the `switch` of `error_create_errno` adds, and whether it skips the
standard message. -/
def errnoDetails (error : Option Error) (errorCode : Int) :
    Prog Fault Heap (Option Error × Bool) :=
  if errorCode = eacces then do
    let error ← errorAddCode error ErrorCode.accessDenied
    pure (error, false)
  else if errorCode = enomem then do
    let error ← errorAddCode error ErrorCode.memory
    pure (error, false)
  else if errorCode = epipe then do
    let error ← errorAdd error "The request was invalid or there was an I/O problem."
    let error ← errorAddCode error ErrorCode.stall
    let error ← errorAddCode error ErrorCode.deviceDisconnected
    pure (error, true)
  else if errorCode = enodev ∨ errorCode = eshutdown then do
    let error ← errorAdd error "The device was removed."
    let error ← errorAddCode error ErrorCode.deviceDisconnected
    pure (error, true)
  else if errorCode = eproto ∨ errorCode = etime then do
    let error ← errorAddCode error ErrorCode.deviceDisconnected
    pure (error, false)
  else if errorCode = etimedout then do
    let error ← errorAdd error "The operation timed out."
    let error ← errorAddCode error ErrorCode.timeout
    pure (error, true)
  else if errorCode = eoverflow then do
    let error ← errorAdd error "The transfer overflowed."
    pure (error, true)
  else if errorCode = eilseq then do
    let error ← errorAdd error
      "Illegal byte sequence: the device may have been disconnected or the request may have been cancelled."
    let error ← errorAddCode error ErrorCode.deviceDisconnected
    let error ← errorAddCode error ErrorCode.cancelled
    pure (error, true)
  else pure (error, false)

/-- The message of the C library, unless it is skipped or there is none. -/
def addStandardMessage (strerror : Int → Option String) (errorCode : Int)
    (skipStandardMessage : Bool) (error : Option Error) : Prog Fault Heap (Option Error) :=
  if skipStandardMessage then pure error
  else match strerror errorCode with
    | none => pure error
    | some buffer => errorAdd error s!"{buffer}."

/-- `error_create_errno` with the error number `errorCode` and the context message `format`. -/
def errorCreateErrno (strerror : Int → Option String) (errorCode : Int) (format : String) :
    Prog Fault Heap (Option Error) := do
  let error ← errorCreate s!"Error code {errorCode}."
  let (error, skipStandardMessage) ← errnoDetails error errorCode
  let error ← addStandardMessage strerror errorCode skipStandardMessage error
  errorAddV error format

/-- `error_from_urb_status` of an URB with the status `status`. -/
def errorFromUrbStatus (strerror : Int → Option String) (status : Int) :
    Prog Fault Heap (Option Error) := do
  let errorCode := -status
  if errorCode = 0 then pure none
  else if errorCode = enoent then do
    let error ← errorCreate s!"Error code {errorCode}."
    let error ← errorAdd error "The operation was cancelled."
    errorAddCode error ErrorCode.cancelled
  else errorCreateErrno strerror errorCode ""

/-- The calls that the `switch` of `error_create_errno` makes, and whether it skips the standard
message. -/
def detailSteps (errorCode : Int) : List ErrorStep × Bool :=
  if errorCode = eacces then ([.addCode ErrorCode.accessDenied], false)
  else if errorCode = enomem then ([.addCode ErrorCode.memory], false)
  else if errorCode = epipe then
    ([.add "The request was invalid or there was an I/O problem.", .addCode ErrorCode.stall,
      .addCode ErrorCode.deviceDisconnected], true)
  else if errorCode = enodev ∨ errorCode = eshutdown then
    ([.add "The device was removed.", .addCode ErrorCode.deviceDisconnected], true)
  else if errorCode = eproto ∨ errorCode = etime then
    ([.addCode ErrorCode.deviceDisconnected], false)
  else if errorCode = etimedout then
    ([.add "The operation timed out.", .addCode ErrorCode.timeout], true)
  else if errorCode = eoverflow then ([.add "The transfer overflowed."], true)
  else if errorCode = eilseq then
    ([.add "Illegal byte sequence: the device may have been disconnected or the request may have been cancelled.",
      .addCode ErrorCode.deviceDisconnected, .addCode ErrorCode.cancelled], true)
  else ([], false)

/-- The standard message, unless it is skipped or there is none. -/
def standardSteps (strerror : Int → Option String) (errorCode : Int) (skip : Bool) :
    List ErrorStep :=
  if skip then []
  else match strerror errorCode with
    | none => []
    | some buffer => [.add s!"{buffer}."]

/-- The calls of `error_create_errno` after the first one. -/
def errnoSteps (strerror : Int → Option String) (errorCode : Int) (format : String) :
    List ErrorStep :=
  (detailSteps errorCode).1 ++
    (standardSteps strerror errorCode (detailSteps errorCode).2 ++ [.addV format])

lemma errnoDetails_eq (error : Option Error) (errorCode : Int) :
    errnoDetails error errorCode = detailChain error (detailSteps errorCode) := by
  unfold errnoDetails detailSteps
  repeat' apply detailChain_ite
  all_goals simp only [detailChain, errorChain, ErrorStep.exec, bind_assoc, pure_bind]

lemma addStandardMessage_eq (strerror : Int → Option String) (errorCode : Int) (skip : Bool)
    (error : Option Error) : addStandardMessage strerror errorCode skip error =
      errorChain error (standardSteps strerror errorCode skip) := by
  unfold addStandardMessage standardSteps
  cases skip with
  | true => rfl
  | false =>
    cases strerror errorCode with
    | none => rfl
    | some buffer =>
      simp only [Bool.false_eq_true, if_false, errorChain, ErrorStep.exec, bind_pure]

/-- `error_create_errno` is a chain of calls. -/
lemma errorCreateErrno_eq (strerror : Int → Option String) (errorCode : Int) (format : String) :
    errorCreateErrno strerror errorCode format =
      errorChain none (.create s!"Error code {errorCode}." ::
        errnoSteps strerror errorCode format) := by
  simp only [errorCreateErrno, errnoSteps, errnoDetails_eq, detailChain, addStandardMessage_eq,
    errorChain, ErrorStep.exec, errorChain_append, bind_assoc, pure_bind, bind_pure]

lemma detailSteps_additions (errorCode : Int) : Additions 3 (detailSteps errorCode).1 := by
  unfold detailSteps
  repeat' apply Additions.ite
  all_goals exact ⟨by simp [ErrorStep.adds], by simp⟩

lemma standardSteps_additions (strerror : Int → Option String) (errorCode : Int) (skip : Bool) :
    Additions 1 (standardSteps strerror errorCode skip) := by
  unfold standardSteps
  cases skip with
  | true => exact ⟨by simp, by simp⟩
  | false => cases strerror errorCode <;> exact ⟨by simp [ErrorStep.adds], by simp⟩

/-- `error_create_errno` adds at most five texts and codes to its first text. -/
lemma errnoSteps_additions (strerror : Int → Option String) (errorCode : Int) (format : String) :
    Additions 5 (errnoSteps strerror errorCode format) :=
  (detailSteps_additions errorCode).append
    ((standardSteps_additions strerror errorCode _).append (.addV format))

/-- `error_create_errno` always makes an error. -/
lemma made_createErrno (strerror : Int → Option String) (errorCode : Int) (format : String)
    (h : Heap) : wp (errorCreateErrno strerror errorCode format) (Made h) h := by
  rw [errorCreateErrno_eq]
  exact made_chain _ (errnoSteps_additions strerror errorCode format).adds h

/-- `error_from_urb_status` makes an error exactly if the status is not zero. -/
lemma wp_errorFromUrbStatus (strerror : Int → Option String) (status : Int) (h : Heap) :
    wp (errorFromUrbStatus strerror status)
      (fun r h' => if status = 0 then r = none ∧ h' = h else Made h r h') h := by
  unfold errorFromUrbStatus
  apply wp_ite
  · intro zero
    have status : status = 0 := by omega
    rw [wp_pure, if_pos status]
    exact ⟨rfl, rfl⟩
  · intro nonzero
    have status : status ≠ 0 := by omega
    simp only [if_neg status]
    apply wp_ite
    · intro _
      simp only [wp_bind]
      apply wp_mono (made_create _ h)
      intro r₁ h₁ m₁
      exact wp_mono (m₁.add _) fun r₂ h₂ m₂ => m₂.addCode _
    · intro _
      exact made_createErrno strerror _ _ h

end Libusbp.Linux
