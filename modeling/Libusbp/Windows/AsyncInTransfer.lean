import Libusbp.AsyncInPipe
import Libusbp.Windows.Error

/-!
# Asynchronous IN transfers on Windows

`async_in_transfer_windows.c`, with an operating system that answers every call as `Kernel.plan` says.
A read is refused, succeeds at once, or is left to the operating system, and is then finished when
`WinUsb_GetOverlappedResult` says so. What is assumed: a refused read stores no byte count, and no
byte count exceeds the size of the read. The buffer of a transfer is not read while the transfer is
pending, so it makes no difference when the operating system writes to it; here it does so when the
read is finished.
-/

namespace Libusbp.Windows

open Prog Heap

/-- `struct async_in_transfer`; of the `OVERLAPPED` struct only the event is set by the library. -/
structure Transfer where
  winusbHandle : Int
  pipeId : UInt8
  buffer : Block Bytes
  bufferSize : Nat
  event : Int
  transferred : Nat
  pending : Bool
  error : Option Error

/-- The answer of the operating system to one call, with what `GetLastError` gives after it, and the
bytes that a read stores. -/
structure Turn where
  success : Bool
  lastError : UInt32
  count : Nat
  data : Bytes

/-- What became of a call of `WinUsb_ReadPipe`. -/
inductive ReadAnswer where
  | completed (count : Nat) (data : Bytes)
  | pending
  | refused (lastError : UInt32)

/-- What `WinUsb_GetOverlappedResult` says about a read that is finished. -/
structure Harvest where
  success : Bool
  lastError : UInt32
  count : Nat
  data : Bytes

/-- The operating system: the reads left to it, by their transfers, the open events and its future
answers; with its messages and what `malloc` finds in memory. -/
structure Kernel where
  inFlight : List Addr
  openEvents : List Int
  plan : Nat → Turn
  calls : Nat
  formatMessage : UInt32 → String
  garbage : Addr → Bytes

abbrev Dev := Libusbp.Dev Transfer Kernel ReadAnswer Harvest

def invalidHandleValue : Int := -1

def ulongMax : Nat := 2 ^ 32 - 1

def sizeofTransfer : Nat := 88

/-- Read the transfer struct at an address. -/
def loadTransfer (t : Addr) : Prog Fault Dev Transfer := do
  let d ← get
  expect .useAfterFree (d.transfers t)

/-- Write the transfer struct at an address. -/
def storeTransfer (t : Addr) (transfer : Transfer) : Prog Fault Dev Unit :=
  modify fun d => { d with transfers := Function.update d.transfers t (some transfer) }

/-- A call of the operating system. -/
def call : Prog Fault Dev Turn := do
  let d ← get
  set { d with kernel := { d.kernel with calls := d.kernel.calls + 1 } }
  pure (d.kernel.plan d.kernel.calls)

def createWinapi (errorCode : UInt32) (format : String) : Prog Fault Dev (Option Error) := do
  let d ← get
  onHeap (errorCreateWinapi d.kernel.formatMessage errorCode format)

def createOverlapped (errorCode : UInt32) (format : String) : Prog Fault Dev (Option Error) := do
  let d ← get
  onHeap (errorCreateOverlapped d.kernel.formatMessage errorCode format)

/-- `CreateEvent` gives a handle that is not open yet, or null. -/
def createEvent : Prog Fault Dev (Int × UInt32) := do
  let d ← get
  let turn ← call
  if turn.success then do
    let event : Int := d.kernel.calls + 1
    modify fun d => { d with kernel := { d.kernel with openEvents := event :: d.kernel.openEvents } }
    pure (event, turn.lastError)
  else pure (0, turn.lastError)

def closeHandle (event : Int) : Prog Fault Dev Unit :=
  modify fun d => { d with
    kernel := { d.kernel with openEvents := d.kernel.openEvents.erase event } }

/-- The transfer with the bytes that a read stored in its buffer. -/
def Transfer.filled (T : Transfer) (count : Nat) (data : Bytes) : Transfer :=
  { T with buffer := ⟨T.buffer.loc, memcpy T.buffer.val data count⟩ }

/-- `WinUsb_ReadPipe` into the buffer of the transfer `t`. -/
def winUsbReadPipe (t : Addr) : Prog Fault Dev ReadAnswer := do
  let T ← loadTransfer t
  let turn ← call
  let count := min turn.count T.bufferSize
  if turn.success then do
    modify fun d => { d with calls := .submit t (.completed count turn.data) :: d.calls }
    storeTransfer t { T.filled count turn.data with transferred := count }
    pure (.completed count turn.data)
  else if turn.lastError = errorIoPending then do
    modify fun d => { d with
      kernel := { d.kernel with inFlight := d.kernel.inFlight ++ [t] }
      calls := .submit t .pending :: d.calls }
    -- what is stored for a read that is not finished is not specified
    storeTransfer t { T with transferred := turn.count }
    pure .pending
  else do
    modify fun d => { d with calls := .submit t (.refused turn.lastError) :: d.calls }
    pure (.refused turn.lastError)

/-- `WinUsb_GetOverlappedResult` for the read into the transfer `t`, without waiting: whether it
succeeded, the last error, and the byte count. -/
def winUsbGetOverlappedResult (t : Addr) : Prog Fault Dev (Bool × UInt32 × Nat) := do
  let T ← loadTransfer t
  let turn ← call
  if turn.success = false ∧ turn.lastError = errorIoIncomplete then
    pure (false, errorIoIncomplete, turn.count)
  else do
    let count := min turn.count T.bufferSize
    storeTransfer t (T.filled count turn.data)
    modify fun d => { d with
      kernel := { d.kernel with inFlight := d.kernel.inFlight.erase t }
      calls := .complete t ⟨turn.success, turn.lastError, count, turn.data⟩ :: d.calls }
    pure (turn.success, turn.lastError, count)

def genericHandleGetWinusbHandle (handle : Option Handle) : Int :=
  match handle with
  | none => invalidHandleValue
  | some handle => handle.descriptor

def asyncInPipeSetup (handle : Option Handle) (pipeId : UInt8) : Prog Fault Dev (Option Error) := do
  check .assertion handle.isSome
  let turn ← call
  if turn.success then pure none
  else
    createWinapi turn.lastError
      ("Failed to enable raw I/O for pipe 0x" ++ formatHex 0 pipeId.toNat ++ ".")

/-- Free the transfer struct at an address. -/
def freeTransfer (t : Addr) : Prog Fault Dev Unit := do
  let _ ← loadTransfer t
  modify fun d => { d with transfers := Function.update d.transfers t none }
  onHeap (free (some (.heap t)))

def asyncInTransferFree (transfer : Option Addr) : Prog Fault Dev Unit :=
  match transfer with
  | none => pure ()
  | some t => do
    let T ← loadTransfer t
    if T.pending then
      -- the operating system still needs the memory, which is leaked
      pure ()
    else do
      onHeap (errorFree T.error)
      closeHandle T.event
      onHeap (free (some T.buffer.loc))
      freeTransfer t

def asyncInTransferSubmit (transfer : Option Addr) : Prog Fault Dev Unit :=
  match transfer with
  | none => throw .assertion
  | some t => do
    let T ← loadTransfer t
    check .assertion (T.pending == false)
    onHeap (errorFree T.error)
    -- the flag is set before the call, since the read may end at once
    storeTransfer t { T with error := none, pending := true, transferred := 0 }
    match ← winUsbReadPipe t with
    | .completed _ _ => do
      let T ← loadTransfer t
      storeTransfer t { T with pending := false }
    | .pending => pure ()
    | .refused lastError => do
      let error ← createWinapi lastError "Failed to submit asynchronous in transfer."
      let T ← loadTransfer t
      storeTransfer t { T with error := error, pending := false }

/-- The transfer that `async_in_transfer_create` assembles. -/
def Transfer.assembled (winusbHandle : Int) (pipeId : UInt8) (transferSize : Nat) (event : Int)
    (buffer : Block Bytes) : Transfer where
  winusbHandle := winusbHandle
  pipeId := pipeId
  buffer := buffer
  bufferSize := transferSize
  event := event
  transferred := 0
  pending := false
  error := none

def asyncInTransferCreate (handle : Option Handle) (pipeId : UInt8) (transferSize : Nat) :
    Prog Fault Dev (Except Error Addr) := do
  check .assertion (transferSize != 0)
  if transferSize > ulongMax then do
    let error ← onHeap (errorCreate "Transfer size is too large.")
    let error ← expect .nullPointer error
    pure (.error error)
  else do
    match ← onHeap (calloc 1 sizeofTransfer) with
    | none => pure (.error errorNoMemory)
    | some newTransfer => do
      match ← onHeap (malloc transferSize) with
      | none => do
        onHeap (free (some (.heap newTransfer)))
        pure (.error errorNoMemory)
      | some newBuffer => do
        let (newEvent, lastError) ← createEvent
        if newEvent = 0 then do
          let error ← createWinapi lastError "Failed to create event for asynchronous in transfer."
          let error ← expect .nullPointer error
          -- the null handle is closed, too
          closeHandle newEvent
          onHeap (free (some (.heap newBuffer)))
          onHeap (free (some (.heap newTransfer)))
          pure (.error error)
        else do
          let d ← get
          storeTransfer newTransfer (.assembled (genericHandleGetWinusbHandle handle) pipeId
            transferSize newEvent ⟨.heap newBuffer, d.kernel.garbage newBuffer⟩)
          pure (.ok newTransfer)

def asyncInTransferGetResults (transfer : Option Addr) (out : Outputs) :
    Prog Fault Dev (Option Error × Outputs) :=
  match transfer with
  | none => throw .assertion
  | some t => do
    let T ← loadTransfer t
    check .assertion (!T.pending)
    let tmpTransferred := if T.transferred > T.bufferSize then T.bufferSize else T.transferred
    let out := { out with
      buffer := out.buffer.map fun buffer => memcpy buffer T.buffer.val tmpTransferred
      transferred := out.transferred.map fun _ => tmpTransferred }
    let out ←
      match out.transferError with
      | none => pure out
      | some _ => do
        let error ← onHeap (errorCopy T.error)
        pure { out with transferError := some error }
    modify fun d => { d with calls := .results t out :: d.calls }
    pure (none, out)

/-- Cancels all of the transfers on the pipe of the given one. -/
def asyncInTransferCancel (transfer : Option Addr) : Prog Fault Dev (Option Error) :=
  match transfer with
  | none => onHeap (errorCreate "Transfer to cancel is null.")
  | some t => do
    let T ← loadTransfer t
    let turn ← call
    if turn.success then pure none
    else
      createWinapi turn.lastError
        ("Failed to cancel transfers on pipe 0x" ++ formatHex 0 T.pipeId.toNat ++ ".")

/-- Asks for the result of a pending read, and takes it over once there is one. -/
def asyncInTransferPending (transfer : Option Addr) : Prog Fault Dev Bool :=
  match transfer with
  | none => throw .assertion
  | some t => do
    let T ← loadTransfer t
    if !T.pending then pure false
    else do
      let (success, lastError, transferred) ← winUsbGetOverlappedResult t
      let T ← loadTransfer t
      let T := { T with transferred := transferred }
      if success then do
        storeTransfer t { T with pending := false }
        pure false
      else if lastError = errorIoIncomplete then do
        storeTransfer t T
        pure true
      else do
        let error ← createOverlapped lastError "Asynchronous IN transfer failed."
        storeTransfer t { T with error := error, pending := false }
        pure false

def genericHandleEvents (_handle : Option Handle) : Prog Fault Dev (Option Error) :=
  pure none

def backend : Backend Transfer Kernel ReadAnswer Harvest where
  linux := false
  asyncInPipeSetup := asyncInPipeSetup
  asyncInTransferCreate := asyncInTransferCreate
  asyncInTransferFree := asyncInTransferFree
  asyncInTransferSubmit := asyncInTransferSubmit
  asyncInTransferGetResults := asyncInTransferGetResults
  asyncInTransferCancel := asyncInTransferCancel
  asyncInTransferPending := asyncInTransferPending
  genericHandleEvents := genericHandleEvents

end Libusbp.Windows
