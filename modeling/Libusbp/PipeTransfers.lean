import Libusbp.AsyncInPipe
import Libusbp.Linux.Usbfd
import Libusbp.Mac.IOKit
import Libusbp.Windows.SetupApi

/-!
# Reading from pipes and writing to them

`libusbp_read_pipe` and `libusbp_write_pipe` of the three platforms. A call is refused for the first
check that fails, or it gets to the operating system. An argument `transferred` or `buffer` is false for
a null pointer.
-/

namespace Libusbp

open Prog Host

variable {κ H ρ : Type}

def checkPipeIdIn (pipeId : UInt8) : Prog Fault Heap (Option Error) :=
  if pipeId &&& 0x80 = 0 then errorInvalidPipeId pipeId else checkPipeId pipeId

def checkPipeIdOut (pipeId : UInt8) : Prog Fault Heap (Option Error) :=
  if pipeId &&& 0x80 ≠ 0 then errorInvalidPipeId pipeId else checkPipeId pipeId

/-- `pipe_id & MAX_ENDPOINT_NUMBER` -/
def endpointNumber (pipeId : UInt8) : Fin 16 := Fin.ofNat 16 (pipeId &&& maxEndpointNumber).toNat

/-- `UINT_MAX` on Linux, `ULONG_MAX` on Windows and `UINT32_MAX` on macOS -/
def uintMax : UInt64 := 0xffffffff

/-- What a call returns, the value of `*transferred`, and what was passed to the operating system. -/
structure PipeReply (ρ : Type) where
  error : Option Error
  transferred : Option Nat
  request : Option ρ

/-- The value of `*transferred` at the start. -/
def noneTransferred (transferred : Bool) : Option Nat := if transferred then some 0 else none

/-- The checks `if (error == NULL) { error = … }` -/
def firstError : List (Prog Fault (Host κ) (Option Error)) → Prog Fault (Host κ) (Option Error)
  | [] => pure none
  | check :: checks => do
    match ← check with
    | some e => pure (some e)
    | none => firstError checks

/-- The check `if (error == NULL && c) { error = error_create(text); }` -/
def refuseIf (c : Bool) (text : String) : Prog Fault (Host κ) (Option Error) :=
  if c then inHeap (errorCreate text) else pure none

/-- Return a new error. -/
def refuse (text : String) (transferred : Bool) : Prog Fault (Host κ) (PipeReply ρ) := do
  let error ← inHeap (errorCreate text)
  pure ⟨error, noneTransferred transferred, none⟩

/-- The shape of all the functions: the handle is checked, then the other arguments, and an error of
these checks or of the transfer gets a context. -/
def pipeTransfer (context : String) (check : Prog Fault (Host κ) (Option Error))
    (transfer : H → Prog Fault (Host κ) (PipeReply ρ)) (handle : Option H) (transferred : Bool) :
    Prog Fault (Host κ) (PipeReply ρ) :=
  match handle with
  | none => refuse "Generic handle is null." transferred
  | some handle => do
    let error ← check
    let reply ←
      if error.isSome then pure ⟨error, noneTransferred transferred, none⟩ else transfer handle
    let error ← addContext reply.error context
    pure { reply with error }

namespace Linux

/-- The fields of a generic handle that are read here. -/
structure PipeHandle where
  inTimeout : Fin 16 → UInt32
  outTimeout : Fin 16 → UInt32

/-- `struct usbdevfs_bulktransfer` without its data -/
structure BulkTransfer where
  ep : UInt8
  len : UInt32
  timeout : UInt32

/-- `ioctl` with `USBDEVFS_BULK`, which yields `errno` or the number of bytes. -/
abbrev BulkAnswer : Type := BulkTransfer → Except Int Nat

def usbfdBulkOrInterruptTransfer (strerror : Int → Option String) (ioctl : BulkAnswer)
    (pipe : UInt8) (timeout : UInt32) (buffer : Bool) (size : UInt64) (transferred : Bool) :
    Prog Fault System (PipeReply BulkTransfer) :=
  if size = 0 ∧ pipe &&& 0x80 ≠ 0 then refuse "Transfer size 0 is not allowed." transferred
  else if size > uintMax then refuse "Transfer size is too large." transferred
  else if buffer = false ∧ size ≠ 0 then refuse "Buffer is null." transferred
  else
    let transfer : BulkTransfer := ⟨pipe, size.toUInt32, timeout⟩
    match ioctl transfer with
    | .error errno => do
      let error ← inHeap (errorCreateErrno strerror errno "")
      pure ⟨error, noneTransferred transferred, transfer⟩
    | .ok result => pure ⟨none, if transferred then some result else none, transfer⟩

def readPipe (strerror : Int → Option String) (ioctl : BulkAnswer) (handle : Option PipeHandle)
    (pipeId : UInt8) (data : Bool) (size : UInt64) (transferred : Bool) :
    Prog Fault System (PipeReply BulkTransfer) :=
  pipeTransfer "Failed to read from pipe." (inHeap (checkPipeIdIn pipeId))
    (fun handle => usbfdBulkOrInterruptTransfer strerror ioctl pipeId
      (handle.inTimeout (endpointNumber pipeId)) data size transferred)
    handle transferred

def writePipe (strerror : Int → Option String) (ioctl : BulkAnswer) (handle : Option PipeHandle)
    (pipeId : UInt8) (data : Bool) (size : UInt64) (transferred : Bool) :
    Prog Fault System (PipeReply BulkTransfer) :=
  pipeTransfer "Failed to write to pipe." (inHeap (checkPipeIdOut pipeId))
    (fun handle => usbfdBulkOrInterruptTransfer strerror ioctl pipeId
      (handle.outTimeout (endpointNumber pipeId)) data size transferred)
    handle transferred

end Linux

namespace Windows

/-- A generic handle, of which only the handle of WinUSB is used here. -/
structure PipeHandle where
  winusbHandle : Nat

/-- What is passed to `WinUsb_ReadPipe` and `WinUsb_WritePipe`. -/
structure WinUsbTransfer where
  winusbHandle : Nat
  pipeId : UInt8
  size : UInt32

/-- The error code, if the call fails, and the number of bytes. -/
abbrev WinUsbAnswer : Type := WinUsbTransfer → Option UInt32 × UInt32

/-- The calls of WinUSB, behind which `*transferred` is written in any case. -/
def winUsbPipe (formatMessage : UInt32 → String) (winUsb : WinUsbAnswer) (pipeId : UInt8)
    (size : UInt64) (transferred : Bool) (handle : PipeHandle) :
    Prog Fault System (PipeReply WinUsbTransfer) := do
  let transfer : WinUsbTransfer := ⟨handle.winusbHandle, pipeId, size.toUInt32⟩
  let (failed, winusbTransferred) := winUsb transfer
  let error ← match failed with
    | none => pure none
    | some errorCode => inHeap (errorCreateWinapi formatMessage errorCode "")
  pure ⟨error, if transferred then some winusbTransferred.toNat else none, transfer⟩

def writePipe (formatMessage : UInt32 → String) (winUsb : WinUsbAnswer) (handle : Option PipeHandle)
    (pipeId : UInt8) (data : Bool) (size : UInt64) (transferred : Bool) :
    Prog Fault System (PipeReply WinUsbTransfer) :=
  pipeTransfer "Failed to write to pipe."
    (firstError [inHeap (checkPipeIdOut pipeId),
      refuseIf (size > uintMax) "Transfer size is too large.",
      refuseIf (data = false ∧ size ≠ 0) "Buffer is null."])
    (winUsbPipe formatMessage winUsb pipeId size transferred) handle transferred

def readPipe (formatMessage : UInt32 → String) (winUsb : WinUsbAnswer) (handle : Option PipeHandle)
    (pipeId : UInt8) (data : Bool) (size : UInt64) (transferred : Bool) :
    Prog Fault System (PipeReply WinUsbTransfer) :=
  pipeTransfer "Failed to read from pipe."
    (firstError [inHeap (checkPipeIdIn pipeId),
      refuseIf (size = 0) "Transfer size 0 is not allowed.",
      refuseIf (size > uintMax) "Transfer size is too large.",
      refuseIf (data = false) "Buffer is null."])
    (winUsbPipe formatMessage winUsb pipeId size transferred) handle transferred

end Windows

namespace Mac

/-- The fields of a generic handle that are read here. -/
structure PipeHandle where
  inTimeout : Fin 16 → UInt32
  outTimeout : Fin 16 → UInt32
  inPipeIndex : Fin 16 → UInt32
  outPipeIndex : Fin 16 → UInt32

/-- What is passed to `ReadPipeTO` and `WritePipeTO`, where the timeout for no data is 0. -/
structure PipeRequest where
  pipeIndex : UInt32
  size : UInt32
  completionTimeout : UInt32

/-- The code that is returned, and the size as the call leaves it. -/
abbrev PipeAnswer : Type := PipeRequest → UInt32 × UInt32

/-- An error for the code of a call that failed. -/
def machFailure (machErrorString : UInt32 → String) (kr : UInt32) :
    Prog Fault System (Option Error) :=
  if kr = kernSuccess then pure none else inHeap (errorCreateMach machErrorString kr "")

def readPipe (machErrorString : UInt32 → String) (readPipeTO : PipeAnswer)
    (handle : Option PipeHandle) (pipeId : UInt8) (buffer : Bool) (size : UInt64)
    (transferred : Bool) : Prog Fault System (PipeReply PipeRequest) :=
  pipeTransfer "Failed to read from pipe."
    (firstError [refuseIf (size = 0) "Transfer size 0 is not allowed.",
      refuseIf (size > uintMax) "Transfer size is too large.",
      refuseIf (buffer = false) "Buffer is null.",
      inHeap (checkPipeIdIn pipeId)])
    (fun handle => do
      let request : PipeRequest := ⟨handle.inPipeIndex (endpointNumber pipeId), size.toUInt32,
        handle.inTimeout (endpointNumber pipeId)⟩
      let (kr, iokitSize) := readPipeTO request
      let error ← machFailure machErrorString kr
      pure ⟨error, if transferred then some iokitSize.toNat else none, request⟩)
    handle transferred

/-- The number of bytes that were written is not known, so all of them are assumed. -/
def writePipe (machErrorString : UInt32 → String) (writePipeTO : PipeAnswer)
    (handle : Option PipeHandle) (pipeId : UInt8) (buffer : Bool) (size : UInt64)
    (transferred : Bool) : Prog Fault System (PipeReply PipeRequest) :=
  pipeTransfer "Failed to write to pipe."
    (firstError [refuseIf (size > uintMax) "Transfer size is too large.",
      refuseIf (buffer = false ∧ size ≠ 0) "Buffer is null.",
      inHeap (checkPipeIdOut pipeId)])
    (fun handle => do
      let request : PipeRequest := ⟨handle.outPipeIndex (endpointNumber pipeId), size.toUInt32,
        handle.outTimeout (endpointNumber pipeId)⟩
      let error ← machFailure machErrorString (writePipeTO request).1
      pure ⟨error, if error.isNone ∧ transferred then some size.toNat else noneTransferred transferred,
        request⟩)
    handle transferred

end Mac

/-- Why a call is refused, if it is. -/
abbrev Reason : Type := Option ErrorValue

def refusedIf (c : Bool) (text : String) : Reason := if c then some (.ofText text) else none

def pipeIdReason (pipeId : UInt8) (wrongDirection : Bool) : Reason :=
  refusedIf (wrongDirection ∨ pipeId &&& ~~~0x80 > maxEndpointNumber ∨ pipeId = 0x80)
    ("Invalid pipe ID 0x" ++ formatHex 2 pipeId.toNat ++ ".")

def inReason (pipeId : UInt8) : Reason := pipeIdReason pipeId (pipeId &&& 0x80 = 0)

def outReason (pipeId : UInt8) : Reason := pipeIdReason pipeId (pipeId &&& 0x80 ≠ 0)

/-- What can be wrong with the size and the buffer of a call that reads. -/
def readReason (size : UInt64) (buffer : Bool) : Reason :=
  refusedIf (size = 0) "Transfer size 0 is not allowed." <|>
    refusedIf (size > uintMax) "Transfer size is too large." <|>
      refusedIf (buffer = false) "Buffer is null."

/-- What can be wrong with the size and the buffer of a call that writes. -/
def writeReason (size : UInt64) (buffer : Bool) : Reason :=
  refusedIf (size > uintMax) "Transfer size is too large." <|>
    refusedIf (buffer = false ∧ size ≠ 0) "Buffer is null."

/-- What a call that reads is refused for on Linux and Windows, which check the pipe ID first. -/
def readRefusal (pipeId : UInt8) (size : UInt64) (buffer : Bool) : Reason :=
  (inReason pipeId <|> readReason size buffer).map (·.addText "Failed to read from pipe.")

/-- What a call that writes is refused for there. -/
def writeRefusal (pipeId : UInt8) (size : UInt64) (buffer : Bool) : Reason :=
  (outReason pipeId <|> writeReason size buffer).map (·.addText "Failed to write to pipe.")

/-- What a call that reads is refused for on macOS, which checks the pipe ID last. -/
def Mac.readRefusal (pipeId : UInt8) (size : UInt64) (buffer : Bool) : Reason :=
  (readReason size buffer <|> inReason pipeId).map (·.addText "Failed to read from pipe.")

def Mac.writeRefusal (pipeId : UInt8) (size : UInt64) (buffer : Bool) : Reason :=
  (writeReason size buffer <|> outReason pipeId).map (·.addText "Failed to write to pipe.")

/-- The call was refused for the reason ahead of the operating system, with nothing transferred, or
there was no reason and it got to the operating system. -/
def Validated [DecidableEq κ] (m : Holdings κ) (d : Nat) (reason : Reason) (transferred : Bool)
    (r : PipeReply ρ) (s : Host κ) : Prop :=
  match reason with
  | some v => r.request = none ∧ r.transferred = noneTransferred transferred ∧
      ∃ e, r.error = some e ∧ Raised m d (· = v) e s
  | none => r.request.isSome ∧
      match r.error with
      | none => Holding m d s
      | some e => Raised m d (fun _ => True) e s

variable [DecidableEq κ] {m : Holdings κ} {d : Nat} {s : Host κ} {reason : Reason}
  {transferred : Bool}

/-- A call gets to the operating system exactly if there is no reason against it. -/
lemma Validated.requests {r : PipeReply ρ} (validated : Validated m d reason transferred r s) :
    r.request.isSome = true ↔ reason = none := by
  cases reason with
  | none => exact ⟨fun _ => rfl, fun _ => validated.1⟩
  | some v => simp [validated.1]

/-- A check failed for the reason, or it passed if there is none. -/
def FailedFor (m : Holdings κ) (d : Nat) (reason : Reason) (r : Option Error) (s : Host κ) : Prop :=
  match reason with
  | some v => ∃ e, r = some e ∧ Raised m d (· = v) e s
  | none => r = none ∧ Holding m d s

/-- Whenever the check is made, it fails for the reason. -/
def Refuses (check : Prog Fault (Host κ) (Option Error)) (reason : Reason) : Prop :=
  ∀ m d s, Holding m d s → wp check (FailedFor m d reason) s

lemma refuses_create (text : String) :
    Refuses (inHeap (errorCreate text) : Prog Fault (Host κ) _) (some (.ofText text)) := by
  intro m d s own
  apply own.wp_create
  exact fun e s' r => ⟨e, rfl, r⟩

lemma refuses_none : Refuses (pure none : Prog Fault (Host κ) _) none :=
  fun _ _ _ own => wp_pure.mpr ⟨rfl, own⟩

lemma refuseIf_refuses (c : Bool) (text : String) :
    Refuses (refuseIf c text : Prog Fault (Host κ) _) (refusedIf c text) := by
  cases c with
  | true => exact refuses_create text
  | false => exact refuses_none

/-- The reason of the first check, or else that of the others. -/
lemma firstError_refuses {check : Prog Fault (Host κ) (Option Error)}
    {checks : List (Prog Fault (Host κ) (Option Error))} {reason rest : Reason}
    (first : Refuses check reason) (others : Refuses (firstError checks) rest) :
    Refuses (firstError (check :: checks)) (reason <|> rest) := by
  intro m d s own
  rw [firstError, wp_bind]
  apply wp_mono (first m d s own)
  intro r s' refused
  cases reason with
  | none =>
    obtain ⟨rfl, own'⟩ := refused
    exact others m d s' own'
  | some v =>
    obtain ⟨e, rfl, raised⟩ := refused
    exact wp_pure.mpr ⟨e, rfl, raised⟩

/-- The last check. -/
lemma firstError_refuses_last {check : Prog Fault (Host κ) (Option Error)} {reason : Reason}
    (last : Refuses check reason) : Refuses (firstError [check]) reason := by
  have both : Refuses (firstError [check]) (reason <|> none) := firstError_refuses last refuses_none
  cases reason with
  | none => exact both
  | some v => exact both

/-- Two groups of checks, one after the other. -/
lemma firstError_append_refuses {checks checks' : List (Prog Fault (Host κ) (Option Error))}
    {reason rest : Reason} (first : Refuses (firstError checks) reason)
    (others : Refuses (firstError checks') rest) :
    Refuses (firstError (checks ++ checks')) (reason <|> rest) := by
  have append : firstError (checks ++ checks') = (do
      match ← firstError checks with
      | some e => pure (some e)
      | none => firstError checks') := by
    clear first
    induction checks with
    | nil => simp only [firstError, List.nil_append, pure_bind]
    | cons check checks ih =>
      simp only [firstError, List.cons_append, bind_assoc, ih]
      congr 1
      funext r
      cases r with
      | none => rfl
      | some e => simp only [pure_bind]
  rw [append]
  exact firstError_refuses first others

lemma checkPipeId_refuses (pipeId : UInt8) {wrongDirection : Bool}
    {check : Prog Fault Heap (Option Error)}
    (shape : check = if wrongDirection then errorInvalidPipeId pipeId else checkPipeId pipeId) :
    Refuses (inHeap check : Prog Fault (Host κ) _) (pipeIdReason pipeId wrongDirection) := by
  rw [shape]
  cases wrongDirection with
  | true => exact refuses_create _
  | false =>
    simp only [Bool.false_eq_true, if_false, checkPipeId, pipeIdReason, false_or]
    by_cases bad : pipeId &&& ~~~0x80 > maxEndpointNumber ∨ pipeId = 0x80
    · rw [if_pos bad, decide_eq_true bad]
      exact refuses_create _
    · rw [if_neg bad, decide_eq_false bad]
      intro m d s own
      rw [wp_inHeap_pure]
      exact ⟨rfl, own⟩

lemma checkPipeIdIn_refuses (pipeId : UInt8) :
    Refuses (inHeap (checkPipeIdIn pipeId) : Prog Fault (Host κ) _) (inReason pipeId) :=
  checkPipeId_refuses pipeId (by simp [checkPipeIdIn])

lemma checkPipeIdOut_refuses (pipeId : UInt8) :
    Refuses (inHeap (checkPipeIdOut pipeId) : Prog Fault (Host κ) _) (outReason pipeId) :=
  checkPipeId_refuses pipeId (by simp [checkPipeIdOut])

lemma refuse_validated (own : Holding m d s) (text : String) :
    wp (refuse text transferred : Prog Fault (Host κ) (PipeReply ρ))
      (Validated m d (some (.ofText text)) transferred) s := by
  simp only [refuse, wp_bind, wp_pure]
  apply own.wp_create
  exact fun e s' r => ⟨rfl, rfl, e, rfl, r⟩

/-- What a call comes to whose check and whose transfer refuse for the given reasons. -/
lemma pipeTransfer_validated {context : String} {check : Prog Fault (Host κ) (Option Error)}
    {transfer : H → Prog Fault (Host κ) (PipeReply ρ)} {handle : H} {reason rest : Reason}
    (own : Holding m d s) (checks : Refuses check reason)
    (transfers : ∀ s', Holding m d s' → wp (transfer handle) (Validated m d rest transferred) s') :
    wp (pipeTransfer context check transfer (some handle) transferred)
      (Validated m d ((reason <|> rest).map (·.addText context)) transferred) s := by
  simp only [pipeTransfer, wp_bind]
  apply wp_mono (checks m d s own)
  intro r s₁ refused
  cases reason with
  | some v =>
    -- the check refuses, and the transfer is not reached
    obtain ⟨e, rfl, raised⟩ := refused
    simp only [Option.isSome_some, if_true, addContext, pure_bind, wp_bind]
    apply raised.wp_add
    intro e' s₂ r
    refine wp_pure.mpr ⟨rfl, rfl, e', rfl, r.mono ?_⟩
    rintro _ ⟨_, rfl, rfl⟩
    rfl
  | none =>
    obtain ⟨rfl, own₁⟩ := refused
    simp only [Option.isSome_none, Bool.false_eq_true, if_false, wp_bind]
    apply wp_mono (transfers s₁ own₁)
    intro reply s₂ validated
    cases rest with
    | some v =>
      obtain ⟨request, count, e, error, raised⟩ := validated
      simp only [addContext, error, Option.isSome_some, if_true]
      apply raised.wp_add
      intro e' s₃ r
      refine wp_pure.mpr ⟨request, count, e', rfl, r.mono ?_⟩
      rintro _ ⟨_, rfl, rfl⟩
      rfl
    | none =>
      obtain ⟨error, count, request'⟩ := reply
      obtain ⟨request, ended⟩ := validated
      cases error with
      | none =>
        simp only [addContext, Option.isSome_none, Bool.false_eq_true, if_false, wp_pure]
        exact ⟨request, ended⟩
      | some e =>
        simp only [addContext, Option.isSome_some, if_true]
        apply ended.wp_add
        exact fun e' s₃ r => wp_pure.mpr ⟨request, r.any⟩

/-- What a call comes to whose transfer refuses nothing. -/
lemma pipeTransfer_validated_of_checks {context : String}
    {check : Prog Fault (Host κ) (Option Error)} {transfer : H → Prog Fault (Host κ) (PipeReply ρ)}
    {handle : H} {reason : Reason} (own : Holding m d s) (checks : Refuses check reason)
    (transfers : ∀ s', Holding m d s' → wp (transfer handle) (Validated m d none transferred) s') :
    wp (pipeTransfer context check transfer (some handle) transferred)
      (Validated m d (reason.map (·.addText context)) transferred) s := by
  have validated : wp (pipeTransfer context check transfer (some handle) transferred)
      (Validated m d ((reason <|> (none : Reason)).map (·.addText context)) transferred) s :=
    pipeTransfer_validated own checks transfers
  cases reason with
  | none => exact validated
  | some v => exact validated

/-- What can be wrong with the arguments of `usbfd_bulk_or_interrupt_transfer`. -/
def usbfdReason (pipe : UInt8) (size : UInt64) (buffer : Bool) : Reason :=
  refusedIf (size = 0 ∧ pipe &&& 0x80 ≠ 0) "Transfer size 0 is not allowed." <|>
    writeReason size buffer

/-- A call that reads gets to `usbfd_bulk_or_interrupt_transfer` with an IN pipe only. -/
lemma inReason_usbfdReason (pipeId : UInt8) (size : UInt64) (buffer : Bool) :
    (inReason pipeId <|> usbfdReason pipeId size buffer) =
      (inReason pipeId <|> readReason size buffer) := by
  by_cases out : pipeId &&& 0x80 = 0
  · simp [inReason, pipeIdReason, refusedIf, out]
  · by_cases zero : size = 0
    · simp [usbfdReason, readReason, refusedIf, out, zero]
    · simp [usbfdReason, readReason, writeReason, refusedIf, zero]

/-- A call that writes gets there with an OUT pipe only. -/
lemma outReason_usbfdReason (pipeId : UInt8) (size : UInt64) (buffer : Bool) :
    (outReason pipeId <|> usbfdReason pipeId size buffer) =
      (outReason pipeId <|> writeReason size buffer) := by
  by_cases out : pipeId &&& 0x80 = 0
  · simp [usbfdReason, refusedIf, out]
  · simp [outReason, pipeIdReason, refusedIf, out]

lemma Linux.usbfdBulkOrInterruptTransfer_validated {m : Holdings Linux.RefKind} {s : Linux.System}
    (own : Holding m d s) (strerror : Int → Option String) (ioctl : Linux.BulkAnswer) (pipe : UInt8)
    (timeout : UInt32) (buffer : Bool) (size : UInt64) :
    wp (Linux.usbfdBulkOrInterruptTransfer strerror ioctl pipe timeout buffer size transferred)
      (Validated m d (usbfdReason pipe size buffer) transferred) s := by
  unfold Linux.usbfdBulkOrInterruptTransfer usbfdReason writeReason refusedIf
  by_cases zero : size = 0 ∧ pipe &&& 0x80 ≠ 0
  · simp only [if_pos zero, decide_eq_true zero]
    exact refuse_validated own _
  by_cases large : size > uintMax
  · simp only [if_neg zero, decide_eq_false zero, if_pos large, decide_eq_true large]
    exact refuse_validated own _
  by_cases null : buffer = false ∧ size ≠ 0
  · simp only [if_neg zero, decide_eq_false zero, if_neg large, decide_eq_false large, if_pos null,
      decide_eq_true null]
    exact refuse_validated own _
  simp only [if_neg zero, decide_eq_false zero, if_neg large, decide_eq_false large, if_neg null,
    decide_eq_false null]
  cases ioctl ⟨pipe, size.toUInt32, timeout⟩ with
  | error errno =>
    simp only [wp_bind, wp_pure]
    apply Linux.Holding.wp_createErrno own
    exact fun e s' r => ⟨rfl, r.any⟩
  | ok result => exact wp_pure.mpr ⟨rfl, own⟩

lemma Windows.winUsbPipe_validated {m : Holdings Windows.RefKind} {s : Windows.System}
    (own : Holding m d s) (formatMessage : UInt32 → String) (winUsb : Windows.WinUsbAnswer)
    (pipeId : UInt8) (size : UInt64) (handle : Windows.PipeHandle) :
    wp (Windows.winUsbPipe formatMessage winUsb pipeId size transferred handle)
      (Validated m d none transferred) s := by
  unfold Windows.winUsbPipe
  dsimp only
  cases (winUsb ⟨handle.winusbHandle, pipeId, size.toUInt32⟩).1 with
  | none => exact wp_pure.mpr ⟨rfl, own⟩
  | some errorCode =>
    simp only [wp_bind, wp_pure]
    apply Windows.wp_createWinapiError own
    exact fun e s' r => ⟨rfl, r.any⟩

/-- A call of IOKit behind which an error is made of the code that it returns. -/
lemma Mac.machFailure_validated {m : Holdings Mac.RefKind} {s : Mac.System} (own : Holding m d s)
    (machErrorString : UInt32 → String) (kr : UInt32) (count : Option Error → Option Nat)
    (request : Mac.PipeRequest) :
    wp (do
      let error ← Mac.machFailure machErrorString kr
      pure (⟨error, count error, some request⟩ : PipeReply Mac.PipeRequest))
      (Validated m d none transferred) s := by
  simp only [Mac.machFailure, wp_bind, wp_pure]
  apply wp_ite
  · exact fun _ => wp_pure.mpr ⟨rfl, own⟩
  · intro _
    apply Mac.wp_createMachError own
    exact fun e s' r => ⟨rfl, r.any⟩

/-- Every implementation of a function validates its arguments like this: with the first reason on Linux
and Windows, and with the second one on macOS. -/
structure Validates (reason macReason : Reason) (transferred : Bool)
    (linux : (Int → Option String) → Linux.BulkAnswer → Linux.PipeHandle →
      Prog Fault Linux.System (PipeReply Linux.BulkTransfer))
    (windows : (UInt32 → String) → Windows.WinUsbAnswer → Windows.PipeHandle →
      Prog Fault Windows.System (PipeReply Windows.WinUsbTransfer))
    (mac : (UInt32 → String) → Mac.PipeAnswer → Mac.PipeHandle →
      Prog Fault Mac.System (PipeReply Mac.PipeRequest)) : Prop where
  linux : ∀ strerror ioctl handle m d s, Holding m d s →
    wp (linux strerror ioctl handle) (Validated m d reason transferred) s
  windows : ∀ formatMessage winUsb handle m d s, Holding m d s →
    wp (windows formatMessage winUsb handle) (Validated m d reason transferred) s
  mac : ∀ machErrorString answer handle m d s, Holding m d s →
    wp (mac machErrorString answer handle) (Validated m d macReason transferred) s

/-- The checks of the size and the buffer of a call that reads. -/
lemma readChecks_refuses (size : UInt64) (buffer : Bool) :
    Refuses (firstError [refuseIf (size = 0) "Transfer size 0 is not allowed.",
      refuseIf (size > uintMax) "Transfer size is too large.",
      refuseIf (buffer = false) "Buffer is null."] : Prog Fault (Host κ) _) (readReason size buffer) :=
  firstError_refuses (refuseIf_refuses _ _) (firstError_refuses (refuseIf_refuses _ _)
    (firstError_refuses_last (refuseIf_refuses _ _)))

/-- The checks of the size and the buffer of a call that writes. -/
lemma writeChecks_refuses (size : UInt64) (buffer : Bool) :
    Refuses (firstError [refuseIf (size > uintMax) "Transfer size is too large.",
      refuseIf (buffer = false ∧ size ≠ 0) "Buffer is null."] : Prog Fault (Host κ) _)
      (writeReason size buffer) :=
  firstError_refuses (refuseIf_refuses _ _) (firstError_refuses_last (refuseIf_refuses _ _))

/-- The three implementations of `libusbp_read_pipe`. -/
lemma readPipe_validates (pipeId : UInt8) (size : UInt64) (buffer transferred : Bool) :
    Validates (readRefusal pipeId size buffer) (Mac.readRefusal pipeId size buffer) transferred
      (fun strerror ioctl handle =>
        Linux.readPipe strerror ioctl (some handle) pipeId buffer size transferred)
      (fun formatMessage winUsb handle =>
        Windows.readPipe formatMessage winUsb (some handle) pipeId buffer size transferred)
      (fun machErrorString readPipeTO handle =>
        Mac.readPipe machErrorString readPipeTO (some handle) pipeId buffer size transferred) where
  linux strerror ioctl handle m d s own := by
    rw [readRefusal, ← inReason_usbfdReason]
    apply pipeTransfer_validated own (checkPipeIdIn_refuses pipeId)
    exact fun s' own' => Linux.usbfdBulkOrInterruptTransfer_validated own' _ _ _ _ _ _
  windows formatMessage winUsb handle m d s own := by
    apply pipeTransfer_validated_of_checks own
    · exact firstError_refuses (checkPipeIdIn_refuses pipeId) (readChecks_refuses size buffer)
    · exact fun s' own' => Windows.winUsbPipe_validated own' _ _ _ _ _
  mac machErrorString readPipeTO handle m d s own := by
    apply pipeTransfer_validated_of_checks own
    · exact firstError_append_refuses (readChecks_refuses size buffer)
        (firstError_refuses_last (checkPipeIdIn_refuses pipeId))
    · exact fun s' own' => Mac.machFailure_validated own' machErrorString _
        (fun _ => if transferred then some _ else none) _

/-- The three implementations of `libusbp_write_pipe`. -/
lemma writePipe_validates (pipeId : UInt8) (size : UInt64) (buffer transferred : Bool) :
    Validates (writeRefusal pipeId size buffer) (Mac.writeRefusal pipeId size buffer) transferred
      (fun strerror ioctl handle =>
        Linux.writePipe strerror ioctl (some handle) pipeId buffer size transferred)
      (fun formatMessage winUsb handle =>
        Windows.writePipe formatMessage winUsb (some handle) pipeId buffer size transferred)
      (fun machErrorString writePipeTO handle =>
        Mac.writePipe machErrorString writePipeTO (some handle) pipeId buffer size transferred) where
  linux strerror ioctl handle m d s own := by
    rw [writeRefusal, ← outReason_usbfdReason]
    apply pipeTransfer_validated own (checkPipeIdOut_refuses pipeId)
    exact fun s' own' => Linux.usbfdBulkOrInterruptTransfer_validated own' _ _ _ _ _ _
  windows formatMessage winUsb handle m d s own := by
    apply pipeTransfer_validated_of_checks own
    · exact firstError_refuses (checkPipeIdOut_refuses pipeId) (writeChecks_refuses size buffer)
    · exact fun s' own' => Windows.winUsbPipe_validated own' _ _ _ _ _
  mac machErrorString writePipeTO handle m d s own := by
    apply pipeTransfer_validated_of_checks own
    · exact firstError_append_refuses (writeChecks_refuses size buffer)
        (firstError_refuses_last (checkPipeIdOut_refuses pipeId))
    · exact fun s' own' => Mac.machFailure_validated own' machErrorString _
        (fun error => if error.isNone ∧ transferred then some size.toNat
          else noneTransferred transferred) _

lemma refusedIf_eq_none {c : Bool} {text : String} : refusedIf c text = none ↔ c = false := by
  cases c with
  | true => simp [refusedIf]
  | false => simp [refusedIf]

lemma readReason_eq_none {size : UInt64} {buffer : Bool} :
    readReason size buffer = none ↔ size ≠ 0 ∧ size ≤ uintMax ∧ buffer = true := by
  simp [readReason, refusedIf_eq_none, UInt64.not_lt]

lemma writeReason_eq_none {size : UInt64} {buffer : Bool} :
    writeReason size buffer = none ↔ size ≤ uintMax ∧ (buffer = true ∨ size = 0) := by
  simp [writeReason, refusedIf_eq_none, UInt64.not_lt, or_iff_not_imp_left]

lemma orElse_some {reason rest : Reason} {v : ErrorValue} (h : (reason <|> rest) = some v) :
    reason = some v ∨ rest = some v := by
  cases reason with
  | none => exact .inr h
  | some w => exact .inl h

lemma refusedIf_some {c : Bool} {text : String} {v : ErrorValue} (h : refusedIf c text = some v) :
    v = .ofText text := by
  cases c with
  | true => exact (Option.some.inj h).symm
  | false => cases h

lemma pipeIdReason_initial {pipeId : UInt8} {wrongDirection : Bool} {v : ErrorValue}
    (h : pipeIdReason pipeId wrongDirection = some v) : v.message.toList.head? = some 'I' := by
  rw [refusedIf_some h, ErrorValue.ofText, String.append_assoc, String.toList_append]
  rfl

lemma writeReason_initial {size : UInt64} {buffer : Bool} {w : ErrorValue}
    (h : writeReason size buffer = some w) :
    w.message.toList.head? = some 'T' ∨ w.message.toList.head? = some 'B' := by
  rcases orElse_some h with large | null
  · exact .inl (by rw [refusedIf_some large]; rfl)
  · exact .inr (by rw [refusedIf_some null]; rfl)

lemma readReason_initial {size : UInt64} {buffer : Bool} {w : ErrorValue}
    (h : readReason size buffer = some w) :
    w.message.toList.head? = some 'T' ∨ w.message.toList.head? = some 'B' := by
  rcases orElse_some h with zero | rest
  · exact .inl (by rw [refusedIf_some zero]; rfl)
  rcases orElse_some rest with large | null
  · exact .inl (by rw [refusedIf_some large]; rfl)
  · exact .inr (by rw [refusedIf_some null]; rfl)

/-- A context in front does not hide which of two messages follows it. -/
lemma addText_cancel {v w : ErrorValue} {text : String} (hv : v.message ≠ "") (hw : w.message ≠ "")
    (h : v.addText text = w.addText text) : v.message = w.message := by
  have messages := congrArg ErrorValue.message h
  by_cases empty : text = ""
  · simpa [ErrorValue.addText, empty] using messages
  · simpa [ErrorValue.addText, empty, hv, hw, String.append_assoc] using messages

/-- The checks of the pipe ID and those of the other arguments, in either order, refuse the same calls,
and for the same reason exactly if not both fail. -/
lemma reasons_swap {pipeId : UInt8} {wrongDirection : Bool} {rest : Reason} (context : String)
    (initial : ∀ w, rest = some w →
      w.message.toList.head? = some 'T' ∨ w.message.toList.head? = some 'B') :
    let reason := (pipeIdReason pipeId wrongDirection <|> rest).map (·.addText context)
    let macReason := (rest <|> pipeIdReason pipeId wrongDirection).map (·.addText context)
    reason.isSome = macReason.isSome ∧
      (reason = macReason ↔ pipeIdReason pipeId wrongDirection = none ∨ rest = none) := by
  cases pipe : pipeIdReason pipeId wrongDirection with
  | none => cases rest <;> simp
  | some v =>
    cases rest with
    | none => simp
    | some w =>
      -- the messages of the pipe ID begin with a letter that no other message begins with
      have headV := pipeIdReason_initial pipe
      have different : v.message ≠ w.message := by
        intro same
        rw [same] at headV
        rcases initial w rfl with head | head
        · exact absurd (headV.symm.trans head) (by decide)
        · exact absurd (headV.symm.trans head) (by decide)
      have hv : v.message ≠ "" := by
        intro empty
        rw [empty] at headV
        cases headV
      have hw : w.message ≠ "" := by
        intro empty
        rcases initial w rfl with head | head
        all_goals
          rw [empty] at head
          cases head
      simpa using fun same => different (addText_cancel hv hw same)

/-- For every pipe ID, size, and buffer the three implementations of `libusbp_read_pipe` and those of
`libusbp_write_pipe` refuse the same calls, with nothing transferred, or all get to the operating system.
Linux and Windows refuse a call for the pipe ID, or else for the size or the buffer, and macOS for the
size or the buffer, or else for the pipe ID; so the reasons are the same unless both are wrong. -/
theorem pipeTransfers_validate (pipeId : UInt8) (size : UInt64) (buffer transferred : Bool) :
    (Validates (readRefusal pipeId size buffer) (Mac.readRefusal pipeId size buffer) transferred
        (fun strerror ioctl handle =>
          Linux.readPipe strerror ioctl (some handle) pipeId buffer size transferred)
        (fun formatMessage winUsb handle =>
          Windows.readPipe formatMessage winUsb (some handle) pipeId buffer size transferred)
        (fun machErrorString readPipeTO handle =>
          Mac.readPipe machErrorString readPipeTO (some handle) pipeId buffer size transferred) ∧
      (readRefusal pipeId size buffer).isSome = (Mac.readRefusal pipeId size buffer).isSome ∧
      (readRefusal pipeId size buffer = Mac.readRefusal pipeId size buffer ↔
        inReason pipeId = none ∨ readReason size buffer = none)) ∧
    (Validates (writeRefusal pipeId size buffer) (Mac.writeRefusal pipeId size buffer) transferred
        (fun strerror ioctl handle =>
          Linux.writePipe strerror ioctl (some handle) pipeId buffer size transferred)
        (fun formatMessage winUsb handle =>
          Windows.writePipe formatMessage winUsb (some handle) pipeId buffer size transferred)
        (fun machErrorString writePipeTO handle =>
          Mac.writePipe machErrorString writePipeTO (some handle) pipeId buffer size transferred) ∧
      (writeRefusal pipeId size buffer).isSome = (Mac.writeRefusal pipeId size buffer).isSome ∧
      (writeRefusal pipeId size buffer = Mac.writeRefusal pipeId size buffer ↔
        outReason pipeId = none ∨ writeReason size buffer = none)) := by
  constructor
  · exact ⟨readPipe_validates pipeId size buffer transferred,
      reasons_swap "Failed to read from pipe." fun _ => readReason_initial⟩
  · exact ⟨writePipe_validates pipeId size buffer transferred,
      reasons_swap "Failed to write to pipe." fun _ => writeReason_initial⟩

/-- The message of the error that a call returned. -/
def messageOf (r : Except Fault (PipeReply ρ × Host κ)) : Option String :=
  r.toOption.bind fun r => r.1.error.map (·.value.message)

/-- A call that reads nothing from an OUT pipe is refused for two different reasons. -/
theorem readPipe_reasons_differ :
    messageOf (Linux.readPipe (fun _ => none) (fun _ => .ok 0) (some ⟨fun _ => 0, fun _ => 0⟩)
        0x02 true 0 true ⟨⟨fun _ => true, 0, []⟩, 0, []⟩) =
      some "Failed to read from pipe.  Invalid pipe ID 0x02." ∧
    messageOf (Mac.readPipe (fun _ => "") (fun _ => (Mac.kernSuccess, 0))
        (some ⟨fun _ => 0, fun _ => 0, fun _ => 0, fun _ => 0⟩)
        0x02 true 0 true ⟨⟨fun _ => true, 0, []⟩, 0, []⟩) =
      some "Failed to read from pipe.  Transfer size 0 is not allowed." := by
  decide +kernel

end Libusbp
