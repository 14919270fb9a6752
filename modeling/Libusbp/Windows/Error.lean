import Libusbp.ErrorChain

/-!
# Errors from Windows error codes

`error_windows.c`. The English sentence that `FormatMessage` gives for an error code is a parameter
of the functions here; it is empty where Windows has none.
-/

namespace Libusbp.Windows

open Prog Heap

def errorFileNotFound : UInt32 := 2
def errorAccessDenied : UInt32 := 5
def errorNotEnoughMemory : UInt32 := 8
def errorOutofmemory : UInt32 := 14
def errorGenFailure : UInt32 := 31
def errorSemTimeout : UInt32 := 121
def errorOperationAborted : UInt32 := 995
def errorIoIncomplete : UInt32 := 996
def errorIoPending : UInt32 := 997

/-- The texts and codes that the `switch` of `error_create_winapi_v` adds, and whether it skips the
message from Windows. -/
def winapiDetails (error : Option Error) (errorCode : UInt32) :
    Prog Fault Heap (Option Error × Bool) :=
  if errorCode = errorAccessDenied then do
    let error ← errorAdd error "Try closing all other programs that are using the device."
    let error ← errorAddCode error ErrorCode.accessDenied
    pure (error, false)
  else if errorCode = errorOutofmemory ∨ errorCode = errorNotEnoughMemory then do
    let error ← errorAddCode error ErrorCode.memory
    pure (error, false)
  else if errorCode = errorGenFailure then do
    let error ← errorAdd error "The request was invalid or there was an I/O problem."
    let error ← errorAddCode error ErrorCode.stall
    let error ← errorAddCode error ErrorCode.deviceDisconnected
    pure (error, true)
  else if errorCode = errorSemTimeout then do
    let error ← errorAdd error "The operation timed out."
    let error ← errorAddCode error ErrorCode.timeout
    pure (error, true)
  else if errorCode = errorOperationAborted then do
    let error ← errorAdd error "The operation was cancelled."
    let error ← errorAddCode error ErrorCode.cancelled
    pure (error, true)
  -- no details, and the text of the code is added by the caller
  else pure (error, false)

/-- A message from Windows without the space at its end. -/
def dropTrailingSpace (buffer : String) : String :=
  match buffer.toList.reverse with
  | ' ' :: rest => String.ofList rest.reverse
  | _ => buffer

/-- The sentence from Windows, unless it is skipped or there is none. -/
def addWindowsMessage (formatMessage : UInt32 → String) (errorCode : UInt32)
    (skipWindowsMessage : Bool) (error : Option Error) : Prog Fault Heap (Option Error) :=
  if skipWindowsMessage ∨ formatMessage errorCode = "" then pure error
  else errorAdd error (dropTrailingSpace (formatMessage errorCode))

/-- `error_create_winapi_v`, which `error_create_winapi` calls with the code of `GetLastError`. -/
def errorCreateWinapi (formatMessage : UInt32 → String) (errorCode : UInt32) (format : String) :
    Prog Fault Heap (Option Error) := do
  let error ← errorCreate ("Windows error code 0x" ++ formatHex 0 errorCode.toNat ++ ".")
  let (error, skipWindowsMessage) ← winapiDetails error errorCode
  let error ← addWindowsMessage formatMessage errorCode skipWindowsMessage error
  errorAddV error format

/-- `error_create_overlapped` with the code of `GetLastError`. -/
def errorCreateOverlapped (formatMessage : UInt32 → String) (errorCode : UInt32)
    (format : String) : Prog Fault Heap (Option Error) :=
  if errorCode = errorFileNotFound then do
    let error ← errorCreate ("Windows error code 0x" ++ formatHex 0 errorCode.toNat ++ ".")
    let error ← errorAdd error "The device was disconnected."
    let error ← errorAddCode error ErrorCode.deviceDisconnected
    errorAddV error format
  else errorCreateWinapi formatMessage errorCode format

/-- `error_create_cr` with a `CONFIGRET` code. -/
def errorCreateCr (cr : UInt32) (format : String) : Prog Fault Heap (Option Error) := do
  let error ← errorCreate ("CONFIGRET error code 0x" ++ formatHex 0 cr.toNat ++ ".")
  errorAddV error format

/-- `error_create_hr` with an `HRESULT` code. -/
def errorCreateHr (hr : UInt32) (format : String) : Prog Fault Heap (Option Error) := do
  let error ← errorCreate ("HRESULT error code 0x" ++ formatHex 0 hr.toNat ++ ".")
  errorAddV error format

/-- The calls that the `switch` of `error_create_winapi_v` makes, and whether it skips the message
from Windows. -/
def detailSteps (errorCode : UInt32) : List ErrorStep × Bool :=
  if errorCode = errorAccessDenied then
    ([.add "Try closing all other programs that are using the device.",
      .addCode ErrorCode.accessDenied], false)
  else if errorCode = errorOutofmemory ∨ errorCode = errorNotEnoughMemory then
    ([.addCode ErrorCode.memory], false)
  else if errorCode = errorGenFailure then
    ([.add "The request was invalid or there was an I/O problem.", .addCode ErrorCode.stall,
      .addCode ErrorCode.deviceDisconnected], true)
  else if errorCode = errorSemTimeout then
    ([.add "The operation timed out.", .addCode ErrorCode.timeout], true)
  else if errorCode = errorOperationAborted then
    ([.add "The operation was cancelled.", .addCode ErrorCode.cancelled], true)
  else ([], false)

/-- The sentence from Windows, unless it is skipped or there is none. -/
def messageSteps (formatMessage : UInt32 → String) (errorCode : UInt32) (skip : Bool) :
    List ErrorStep :=
  if skip ∨ formatMessage errorCode = "" then []
  else [.add (dropTrailingSpace (formatMessage errorCode))]

/-- The calls of `error_create_winapi_v` after the first one. -/
def winapiSteps (formatMessage : UInt32 → String) (errorCode : UInt32) (format : String) :
    List ErrorStep :=
  (detailSteps errorCode).1 ++
    (messageSteps formatMessage errorCode (detailSteps errorCode).2 ++ [.addV format])

lemma winapiDetails_eq (error : Option Error) (errorCode : UInt32) :
    winapiDetails error errorCode = detailChain error (detailSteps errorCode) := by
  unfold winapiDetails detailSteps
  repeat' apply detailChain_ite
  all_goals simp only [detailChain, errorChain, ErrorStep.exec, bind_assoc, pure_bind]

lemma addWindowsMessage_eq (formatMessage : UInt32 → String) (errorCode : UInt32) (skip : Bool)
    (error : Option Error) : addWindowsMessage formatMessage errorCode skip error =
      errorChain error (messageSteps formatMessage errorCode skip) := by
  unfold addWindowsMessage messageSteps
  split
  case isTrue => rfl
  case isFalse => simp only [errorChain, ErrorStep.exec, bind_pure]

/-- `error_create_winapi` is a chain of calls. -/
lemma errorCreateWinapi_eq (formatMessage : UInt32 → String) (errorCode : UInt32)
    (format : String) : errorCreateWinapi formatMessage errorCode format =
      errorChain none (.create ("Windows error code 0x" ++ formatHex 0 errorCode.toNat ++ ".") ::
        winapiSteps formatMessage errorCode format) := by
  simp only [errorCreateWinapi, winapiSteps, winapiDetails_eq, detailChain, addWindowsMessage_eq,
    errorChain, ErrorStep.exec, errorChain_append, bind_assoc, pure_bind, bind_pure]

lemma detailSteps_additions (errorCode : UInt32) : Additions 3 (detailSteps errorCode).1 := by
  unfold detailSteps
  repeat' apply Additions.ite
  all_goals exact ⟨by simp [ErrorStep.adds], by simp⟩

lemma messageSteps_additions (formatMessage : UInt32 → String) (errorCode : UInt32) (skip : Bool) :
    Additions 1 (messageSteps formatMessage errorCode skip) := by
  unfold messageSteps
  split_ifs <;> exact ⟨by simp [ErrorStep.adds], by simp⟩

/-- `error_create_winapi` adds at most five texts and codes to its first text. -/
lemma winapiSteps_additions (formatMessage : UInt32 → String) (errorCode : UInt32)
    (format : String) : Additions 5 (winapiSteps formatMessage errorCode format) :=
  (detailSteps_additions errorCode).append
    ((messageSteps_additions formatMessage errorCode _).append (.addV format))

/-- `error_create_winapi` always makes an error. -/
lemma made_createWinapi (formatMessage : UInt32 → String) (errorCode : UInt32) (format : String)
    (h : Heap) : wp (errorCreateWinapi formatMessage errorCode format) (Made h) h := by
  rw [errorCreateWinapi_eq]
  exact made_chain _ (winapiSteps_additions formatMessage errorCode format).adds h

/-- `error_create_overlapped` always makes an error. -/
lemma made_createOverlapped (formatMessage : UInt32 → String) (errorCode : UInt32)
    (format : String) (h : Heap) :
    wp (errorCreateOverlapped formatMessage errorCode format) (Made h) h := by
  unfold errorCreateOverlapped
  apply wp_ite
  · intro _
    simp only [wp_bind]
    apply wp_mono (made_create _ h)
    intro r₁ h₁ m₁
    apply wp_mono (m₁.add _)
    intro r₂ h₂ m₂
    apply wp_mono (m₂.addCode _)
    exact fun r₃ h₃ m₃ => m₃.add format
  · intro _
    exact made_createWinapi formatMessage errorCode format h

end Libusbp.Windows
