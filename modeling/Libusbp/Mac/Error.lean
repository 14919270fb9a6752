import Libusbp.ErrorChain

/-!
# Errors from Mach error codes

`error_mac.c`. The sentence that `mach_error_string` gives for an error code is a parameter of the
functions here.
-/

namespace Libusbp.Mac

open Prog Heap

def kernSuccess : UInt32 := 0
def kIOReturnNoDevice : UInt32 := 0xe00002c0
def kIOReturnExclusiveAccess : UInt32 := 0xe00002c5
def kIOReturnOverrun : UInt32 := 0xe00002e8
def kIOReturnAborted : UInt32 := 0xe00002eb
def kIOUSBPipeStalled : UInt32 := 0xe000404f
def kIOUSBTransactionTimeout : UInt32 := 0xe0004051

/-- The texts and codes that the `switch` of `error_create_mach` adds, and whether it skips the
standard message. -/
def machDetails (error : Option Error) (errorCode : UInt32) :
    Prog Fault Heap (Option Error × Bool) :=
  if errorCode = kIOUSBPipeStalled then do
    let error ← errorAdd error "The request was invalid or there was an I/O problem."
    let error ← errorAddCode error ErrorCode.stall
    let error ← errorAddCode error ErrorCode.deviceDisconnected
    pure (error, true)
  else if errorCode = kIOReturnNoDevice then do
    let error ← errorAddCode error ErrorCode.deviceDisconnected
    pure (error, false)
  else if errorCode = kIOUSBTransactionTimeout then do
    let error ← errorAdd error "The operation timed out."
    let error ← errorAddCode error ErrorCode.timeout
    pure (error, true)
  else if errorCode = kIOReturnExclusiveAccess then do
    let error ← errorAdd error
      "Access is denied.  Try closing all other programs that are using the device."
    let error ← errorAddCode error ErrorCode.accessDenied
    pure (error, true)
  else if errorCode = kIOReturnOverrun then do
    let error ← errorAdd error "The transfer overflowed."
    pure (error, true)
  else if errorCode = kIOReturnAborted then do
    let error ← errorAdd error "The operation was cancelled."
    let error ← errorAddCode error ErrorCode.cancelled
    pure (error, true)
  else pure (error, false)

/-- The message from the system, unless it is skipped. -/
def addStandardMessage (machErrorString : UInt32 → String) (errorCode : UInt32)
    (skipStandardMessage : Bool) (error : Option Error) : Prog Fault Heap (Option Error) :=
  if skipStandardMessage then pure error
  else errorAdd error (machErrorString errorCode ++ ".")

def errorCreateMach (machErrorString : UInt32 → String) (errorCode : UInt32) (format : String) :
    Prog Fault Heap (Option Error) := do
  let error ← errorCreate ("Error code 0x" ++ formatHex 0 errorCode.toNat ++ ".")
  let (error, skipStandardMessage) ← machDetails error errorCode
  let error ← addStandardMessage machErrorString errorCode skipStandardMessage error
  errorAddV error format

/-- The calls that the `switch` of `error_create_mach` makes, and whether it skips the standard
message. -/
def detailSteps (errorCode : UInt32) : List ErrorStep × Bool :=
  if errorCode = kIOUSBPipeStalled then
    ([.add "The request was invalid or there was an I/O problem.", .addCode ErrorCode.stall,
      .addCode ErrorCode.deviceDisconnected], true)
  else if errorCode = kIOReturnNoDevice then ([.addCode ErrorCode.deviceDisconnected], false)
  else if errorCode = kIOUSBTransactionTimeout then
    ([.add "The operation timed out.", .addCode ErrorCode.timeout], true)
  else if errorCode = kIOReturnExclusiveAccess then
    ([.add "Access is denied.  Try closing all other programs that are using the device.",
      .addCode ErrorCode.accessDenied], true)
  else if errorCode = kIOReturnOverrun then ([.add "The transfer overflowed."], true)
  else if errorCode = kIOReturnAborted then
    ([.add "The operation was cancelled.", .addCode ErrorCode.cancelled], true)
  else ([], false)

/-- The message from the system, unless it is skipped. -/
def standardSteps (machErrorString : UInt32 → String) (errorCode : UInt32) (skip : Bool) :
    List ErrorStep :=
  if skip then [] else [.add (machErrorString errorCode ++ ".")]

/-- The calls of `error_create_mach` after the first one. -/
def machSteps (machErrorString : UInt32 → String) (errorCode : UInt32) (format : String) :
    List ErrorStep :=
  (detailSteps errorCode).1 ++
    (standardSteps machErrorString errorCode (detailSteps errorCode).2 ++ [.addV format])

lemma machDetails_eq (error : Option Error) (errorCode : UInt32) :
    machDetails error errorCode = detailChain error (detailSteps errorCode) := by
  unfold machDetails detailSteps
  repeat' apply detailChain_ite
  all_goals simp only [detailChain, errorChain, ErrorStep.exec, bind_assoc, pure_bind]

lemma addStandardMessage_eq (machErrorString : UInt32 → String) (errorCode : UInt32) (skip : Bool)
    (error : Option Error) : addStandardMessage machErrorString errorCode skip error =
      errorChain error (standardSteps machErrorString errorCode skip) := by
  unfold addStandardMessage standardSteps
  cases skip with
  | true => rfl
  | false => simp only [Bool.false_eq_true, if_false, errorChain, ErrorStep.exec, bind_pure]

/-- `error_create_mach` is a chain of calls. -/
lemma errorCreateMach_eq (machErrorString : UInt32 → String) (errorCode : UInt32)
    (format : String) : errorCreateMach machErrorString errorCode format =
      errorChain none (.create ("Error code 0x" ++ formatHex 0 errorCode.toNat ++ ".") ::
        machSteps machErrorString errorCode format) := by
  simp only [errorCreateMach, machSteps, machDetails_eq, detailChain, addStandardMessage_eq,
    errorChain, ErrorStep.exec, errorChain_append, bind_assoc, pure_bind, bind_pure]

lemma detailSteps_additions (errorCode : UInt32) : Additions 3 (detailSteps errorCode).1 := by
  unfold detailSteps
  repeat' apply Additions.ite
  all_goals exact ⟨by simp [ErrorStep.adds], by simp⟩

lemma standardSteps_additions (machErrorString : UInt32 → String) (errorCode : UInt32)
    (skip : Bool) : Additions 1 (standardSteps machErrorString errorCode skip) := by
  unfold standardSteps
  split_ifs <;> exact ⟨by simp [ErrorStep.adds], by simp⟩

/-- `error_create_mach` adds at most five texts and codes to its first text. -/
lemma machSteps_additions (machErrorString : UInt32 → String) (errorCode : UInt32)
    (format : String) : Additions 5 (machSteps machErrorString errorCode format) :=
  (detailSteps_additions errorCode).append
    ((standardSteps_additions machErrorString errorCode _).append (.addV format))

/-- `error_create_mach` always makes an error. -/
lemma made_createMach (machErrorString : UInt32 → String) (errorCode : UInt32) (format : String)
    (h : Heap) : wp (errorCreateMach machErrorString errorCode format) (Made h) h := by
  rw [errorCreateMach_eq]
  exact made_chain _ (machSteps_additions machErrorString errorCode format).adds h

end Libusbp.Mac
