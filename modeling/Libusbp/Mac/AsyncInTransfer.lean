import Libusbp.AsyncInPipe
import Libusbp.Mac.Error

/-!
# Asynchronous IN transfers on macOS

`async_in_transfer_mac.c` and the event loop of `generic_handle_mac.c`, with an operating system that
answers every call as `Kernel.plan` says. An accepted read is reported by one message on the port of
the handle, in any order, and the callback of the transfer takes it over. What is assumed: there is
at most one message for every accepted read and none for a refused one, and no byte count exceeds the
size of the read. The buffer of a transfer is not read while the transfer is pending, so it makes no
difference when the operating system writes to it; here it does so when the message is received.
-/

namespace Libusbp.Mac

open Prog Heap

/-- `struct async_in_transfer`. -/
structure Transfer where
  ioh : Int
  pipeIndex : UInt8
  buffer : Option (Block Bytes)
  size : Nat
  pending : Bool
  transferred : Nat
  error : Option Error

/-- The struct as `calloc` gives it. -/
def Transfer.zeroed : Transfer where
  ioh := 0
  pipeIndex := 0
  buffer := none
  size := 0
  pending := false
  transferred := 0
  error := none

/-- The answer of the operating system to one call: what the call returns, and for a message that is
received which of the reads it is about, its size, and how the read ended. -/
structure Turn where
  result : UInt32
  pick : Nat
  msghSize : Nat
  kr : UInt32
  count : Nat
  data : Bytes

/-- A read that ended, and what the callback found in the transfer. -/
structure Completed where
  kr : UInt32
  count : Nat
  data : Bytes
  pending : Bool
  error : Option Error
  transferred : Nat

/-- The operating system: the reads that it accepted and has not reported yet, by their transfers,
and its future answers; with its messages, the pipes that the handle found in the interface, and what
`malloc` finds in memory. -/
structure Kernel where
  inFlight : List Addr
  plan : Nat → Turn
  calls : Nat
  machErrorString : UInt32 → String
  inPipeIndex : UInt8 → UInt8
  outPipeIndex : UInt8 → UInt8
  garbage : Addr → Bytes

abbrev Dev := Libusbp.Dev Transfer Kernel UInt32 Completed

def machMsgSuccess : UInt32 := 0
def machRcvTimedOut : UInt32 := 0x10004003
def machRcvTooLarge : UInt32 := 0x10004004

def uint32Max : Nat := 2 ^ 32 - 1

def sizeofTransfer : Nat := 48

/-- The size of `our_msg`: a message header and 1024 bytes. -/
def sizeofMsg : Nat := 24 + 1024

/-- Read the transfer struct at an address. -/
def loadTransfer (t : Addr) : Prog Fault Dev Transfer := do
  let d ← get
  expect .useAfterFree (d.transfers t)

/-- Write the transfer struct at an address. -/
def storeTransfer (t : Addr) (transfer : Transfer) : Prog Fault Dev Unit :=
  modify fun d => { d with transfers := Function.update d.transfers t (some transfer) }

/-- A call of the operating system. -/
def call : Prog Fault Dev Turn := do
  let d ← get
  set { d with kernel := { d.kernel with calls := d.kernel.calls + 1 } }
  pure (d.kernel.plan d.kernel.calls)

def createMach (errorCode : UInt32) (format : String) : Prog Fault Dev (Option Error) := do
  let d ← get
  onHeap (errorCreateMach d.kernel.machErrorString errorCode format)

/-- `ReadPipeAsync` into the buffer of the transfer `t`, which is the context of the callback. -/
def readPipeAsync (t : Addr) : Prog Fault Dev UInt32 := do
  let turn ← call
  modify fun d => { d with calls := .submit t turn.result :: d.calls }
  if turn.result = kernSuccess then
    modify fun d => { d with kernel := { d.kernel with inFlight := d.kernel.inFlight ++ [t] } }
  pure turn.result

/-- The transfer with the bytes that a read stored in its buffer. -/
def Transfer.filled (T : Transfer) (count : Nat) (data : Bytes) : Transfer :=
  { T with buffer := T.buffer.map fun buffer => ⟨buffer.loc, memcpy buffer.val data count⟩ }

/-- What `mach_msg` gives: an error code and the size of the message, or a message, which holds the
context and the arguments of a callback. -/
inductive MachMsg where
  | failed (mr : UInt32) (msghSize : Nat)
  | received (context : Addr) (kr : UInt32) (arg0 : Nat)

/-- `mach_msg` on the port of the handle, without waiting. -/
def machMsg : Prog Fault Dev MachMsg := do
  let turn ← call
  let d ← get
  if turn.result ≠ machMsgSuccess then pure (.failed turn.result turn.msghSize)
  else
    match d.kernel.inFlight[turn.pick]? with
    -- nothing is waiting in the port, and the timeout is zero
    | none => pure (.failed machRcvTimedOut turn.msghSize)
    | some t => do
      let T ← loadTransfer t
      let count := min turn.count T.size
      storeTransfer t (T.filled count turn.data)
      modify fun d => { d with
        kernel := { d.kernel with inFlight := d.kernel.inFlight.erase t }
        calls := .complete t ⟨turn.kr, count, turn.data, T.pending, T.error, T.transferred⟩ ::
          d.calls }
      pure (.received t turn.kr count)

def genericHandleGetIoh (handle : Option Handle) : Prog Fault Dev Int :=
  match handle with
  | none => throw .assertion
  | some handle => pure handle.descriptor

def genericHandleGetPipeIndex (handle : Option Handle) (pipeId : UInt8) : Prog Fault Dev UInt8 :=
  match handle with
  | none => throw .nullPointer
  | some _ => do
    let d ← get
    let endpointNumber := pipeId &&& maxEndpointNumber
    if pipeId &&& 0x80 ≠ 0 then pure (d.kernel.inPipeIndex endpointNumber)
    else pure (d.kernel.outPipeIndex endpointNumber)

def asyncInTransferCallback (context : Option Addr) (kr : UInt32) (arg0 : Nat) :
    Prog Fault Dev Unit :=
  match context with
  | none => throw .assertion
  | some t => do
    let T ← loadTransfer t
    check .assertion T.pending
    check .assertion T.error.isNone
    check .assertion (T.transferred == 0)
    let error ←
      if kr ≠ kernSuccess then createMach kr "Asynchronous IN transfer failed." else pure none
    let T ← loadTransfer t
    storeTransfer t { T with transferred := arg0, pending := false, error := error }

def asyncInPipeSetup (_handle : Option Handle) (_pipeId : UInt8) :
    Prog Fault Dev (Option Error) :=
  pure none

/-- Free the transfer struct at an address. -/
def freeTransfer (t : Addr) : Prog Fault Dev Unit := do
  let _ ← loadTransfer t
  modify fun d => { d with transfers := Function.update d.transfers t none }
  onHeap (free (some (.heap t)))

def asyncInTransferFree (transfer : Option Addr) : Prog Fault Dev Unit :=
  match transfer with
  | none => pure ()
  | some t => do
    let T ← loadTransfer t
    if T.pending then
      -- the kernel still needs the memory, which is leaked
      pure ()
    else do
      onHeap (errorFree T.error)
      onHeap (free (T.buffer.map (·.loc)))
      freeTransfer t

def asyncInTransferCreate (handle : Option Handle) (pipeId : UInt8) (transferSize : Nat) :
    Prog Fault Dev (Except Error Addr) := do
  check .assertion handle.isSome
  if transferSize > uint32Max then do
    let error ← onHeap (errorCreate "Transfer size is too large.")
    let error ← expect .nullPointer error
    pure (.error error)
  else do
    match ← onHeap (calloc 1 sizeofTransfer) with
    | none => do
      asyncInTransferFree none
      pure (.error errorNoMemory)
    | some newTransfer => do
      storeTransfer newTransfer .zeroed
      match ← onHeap (malloc transferSize) with
      | none => do
        -- the size was stored before the buffer was asked for
        storeTransfer newTransfer { Transfer.zeroed with size := transferSize }
        asyncInTransferFree (some newTransfer)
        pure (.error errorNoMemory)
      | some newBuffer => do
        let d ← get
        let ioh ← genericHandleGetIoh handle
        let pipeIndex ← genericHandleGetPipeIndex handle pipeId
        storeTransfer newTransfer { Transfer.zeroed with
          size := transferSize
          buffer := some ⟨.heap newBuffer, d.kernel.garbage newBuffer⟩
          ioh := ioh
          pipeIndex := pipeIndex }
        pure (.ok newTransfer)

def asyncInTransferSubmit (transfer : Option Addr) : Prog Fault Dev Unit :=
  match transfer with
  | none => throw .assertion
  | some t => do
    let T ← loadTransfer t
    check .assertion (T.pending == false)
    onHeap (errorFree T.error)
    storeTransfer t { T with error := none, transferred := 0, pending := true }
    let kr ← readPipeAsync t
    if kr ≠ kernSuccess then do
      let T ← loadTransfer t
      storeTransfer t { T with pending := false }
      let error ← createMach kr "Failed to submit asynchronous read transfer."
      let T ← loadTransfer t
      storeTransfer t { T with error := error }

def asyncInTransferGetResults (transfer : Option Addr) (out : Outputs) :
    Prog Fault Dev (Option Error × Outputs) :=
  match transfer with
  | none => throw .assertion
  | some t => do
    let T ← loadTransfer t
    check .assertion (T.pending == false)
    -- the assertion in the clamp
    check .assertion (!decide (T.transferred > T.size))
    let tmpTransferred := if T.transferred > T.size then T.size else T.transferred
    let block ← expect .nullPointer T.buffer
    let out := { out with
      buffer := out.buffer.map fun buffer => memcpy buffer block.val tmpTransferred
      transferred := out.transferred.map fun _ => tmpTransferred }
    let out ←
      match out.transferError with
      | none => pure out
      | some _ => do
        let error ← onHeap (errorCopy T.error)
        pure { out with transferError := some error }
    modify fun d => { d with calls := .results t out :: d.calls }
    pure (none, out)

/-- Cancels all of the transfers for the whole pipe. -/
def asyncInTransferCancel (transfer : Option Addr) : Prog Fault Dev (Option Error) :=
  match transfer with
  | none => pure none
  | some t => do
    let _ ← loadTransfer t
    let turn ← call
    if turn.result ≠ kernSuccess then createMach turn.result "Failed to cancel transfers."
    else pure none

def asyncInTransferPending (transfer : Option Addr) : Prog Fault Dev Bool :=
  match transfer with
  | none => throw .assertion
  | some t => do
    let T ← loadTransfer t
    pure T.pending

/-- One round of the loop of `generic_handle_events`; `IODispatchCalloutFromMessage` calls the
callback with the arguments in the message. -/
def receiveAndDispatch : Prog Fault Dev (Option (Option Error)) := do
  match ← machMsg with
  | .failed mr msghSize =>
    if mr = machRcvTimedOut then pure (some none)
    else if mr = machRcvTooLarge then do
      let error ← onHeap (errorCreate
        s!"Mach message received was too large: {msghSize} > {sizeofMsg}\n")
      pure (some error)
    else do
      let error ← createMach mr "Failed to receive mach message."
      pure (some error)
  | .received context kr arg0 => do
    asyncInTransferCallback (some context) kr arg0
    pure none

def genericHandleEvents (handle : Option Handle) : Prog Fault Dev (Option Error) := do
  check .assertion handle.isSome
  let d ← get
  loop .endless receiveAndDispatch (d.kernel.inFlight.length + 1)

def backend : Backend Transfer Kernel UInt32 Completed where
  linux := false
  asyncInPipeSetup := asyncInPipeSetup
  asyncInTransferCreate := asyncInTransferCreate
  asyncInTransferFree := asyncInTransferFree
  asyncInTransferSubmit := asyncInTransferSubmit
  asyncInTransferGetResults := asyncInTransferGetResults
  asyncInTransferCancel := asyncInTransferCancel
  asyncInTransferPending := asyncInTransferPending
  genericHandleEvents := genericHandleEvents

end Libusbp.Mac
