import Libusbp.AsyncInPipe
import Libusbp.Linux.Errno
import Mathlib.Algebra.Group.Int.Defs

/-!
# Asynchronous IN transfers on Linux

`async_in_transfer_linux.c`, the URB functions of `usbfd_linux.c` and `generic_handle_events`, with a
kernel that answers every `ioctl` as `Kernel.plan` says. A statement about all plans is a statement
about all ways in which the kernel can accept, refuse, complete and return URBs, with any results and
in any order. What is assumed of it: it returns an URB only if it accepted it, once for each time it
accepted it, it writes to an URB and its buffer only when it returns it, and a refused submission
changes nothing.
-/

namespace Libusbp.Linux

open Prog Heap

/-- `struct usbdevfs_urb`; the buffer is a pointer, given with the bytes it points to. -/
structure Urb where
  type : UInt8
  endpoint : UInt8
  status : Int
  buffer : Block Bytes
  bufferLength : Int
  actualLength : Int
  errorCount : Int
  usercontext : Option Addr

/-- `struct async_in_transfer`. -/
structure Transfer where
  urb : Urb
  pending : Bool
  error : Option Error
  fd : Int

/-- What the kernel writes to an URB and to its buffer when it returns it. -/
structure Completion where
  status : Int
  errorCount : Int
  actualLength : Int
  data : Bytes

/-- The answer of the kernel to one `ioctl`: an error number or success, and, when an URB is to be
returned, which one of those it owns and with what results. -/
structure Turn where
  errno : Option Int
  pick : Nat
  completion : Completion

/-- The state behind a file descriptor: the URBs that the kernel owns, by the transfer each is a part
of, and its future answers; with the texts of the C library and what `malloc` finds in memory. -/
structure Kernel where
  fd : Int
  inFlight : List Addr
  plan : Nat → Turn
  ioctls : Nat
  strerror : Int → Option String
  garbage : Addr → Bytes

/-- The answer to a submission, and the length that the URB held at that time. -/
structure Submission where
  errno : Option Int
  actualLength : Int

/-- A returned URB, with the two fields of the transfer as they were found. -/
structure Returned where
  completion : Completion
  pending : Bool
  error : Option Error

abbrev Dev := Libusbp.Dev Transfer Kernel Submission Returned

def urbTypeBulk : UInt8 := 3

def intMax : Nat := 2 ^ 31 - 1

def sizeofTransfer : Nat := 80

/-- The conversion of an `int` to `size_t`. -/
def sizeOfInt (n : Int) : Nat := (n % 2 ^ 64).toNat

/-- Read the transfer struct at an address. -/
def loadTransfer (t : Addr) : Prog Fault Dev Transfer := do
  let d ← get
  expect .useAfterFree (d.transfers t)

/-- Write the transfer struct at an address. -/
def storeTransfer (t : Addr) (transfer : Transfer) : Prog Fault Dev Unit :=
  modify fun d => { d with transfers := Function.update d.transfers t (some transfer) }

/-- The answer to an `ioctl` on the descriptor `fd`. -/
def ioctl (fd : Int) : Prog Fault Dev Turn := do
  let d ← get
  set { d with kernel := { d.kernel with ioctls := d.kernel.ioctls + 1 } }
  let turn := d.kernel.plan d.kernel.ioctls
  if fd = d.kernel.fd then pure turn else pure { turn with errno := some ebadf }

def createErrno (errorCode : Int) (format : String) : Prog Fault Dev (Option Error) := do
  let d ← get
  onHeap (errorCreateErrno d.kernel.strerror errorCode format)

/-- The kernel takes over the URB of the transfer `t`. -/
def acceptUrb (t : Addr) : Prog Fault Dev Unit :=
  modify fun d => { d with kernel := { d.kernel with inFlight := d.kernel.inFlight ++ [t] } }

/-- The URB is the first field of the transfer `t`. -/
def usbfdSubmitUrb (fd : Int) (t : Addr) : Prog Fault Dev (Option Error) := do
  let T ← loadTransfer t
  let turn ← ioctl fd
  modify fun d => { d with calls := .submit t ⟨turn.errno, T.urb.actualLength⟩ :: d.calls }
  match turn.errno with
  | some errno => createErrno errno "Submitting USB request block failed."
  | none => do
    acceptUrb t
    pure none

/-- The URB with the results of a completion; only the bytes that were received are written. -/
def Urb.returned (urb : Urb) (c : Completion) : Urb :=
  { urb with
    status := c.status
    errorCount := c.errorCount
    actualLength := c.actualLength
    buffer := ⟨urb.buffer.loc, memcpy urb.buffer.val c.data
      (min (sizeOfInt c.actualLength) (sizeOfInt urb.bufferLength))⟩ }

/-- The kernel writes to the URB of the transfer `t` and gives it back. -/
def returnUrb (t : Addr) (c : Completion) : Prog Fault Dev Unit := do
  let T ← loadTransfer t
  storeTransfer t { T with urb := T.urb.returned c }
  modify fun d => { d with
    kernel := { d.kernel with inFlight := d.kernel.inFlight.erase t }
    calls := .complete t ⟨c, T.pending, T.error⟩ :: d.calls }

/-- The error and the URB that was reaped, by its transfer. -/
def usbfdReapUrb (fd : Int) : Prog Fault Dev (Option Error × Option Addr) := do
  let turn ← ioctl fd
  let d ← get
  match turn.errno, d.kernel.inFlight[turn.pick]? with
  | some errno, _ =>
    if errno = eagain then pure (none, none)
    else do
      let error ← createErrno errno "Failed to reap an asynchronous transfer."
      pure (error, none)
  | none, none => pure (none, none)
  | none, some t => do
    returnUrb t turn.completion
    pure (none, some t)

def usbfdDiscardUrb (fd : Int) (_urb : Addr) : Prog Fault Dev (Option Error) := do
  let turn ← ioctl fd
  match turn.errno with
  | none => pure none
  | some errno =>
    if errno = einval then pure none
    else createErrno errno "Failed to cancel asynchronous transfer."

def genericHandleGetFd (handle : Option Handle) : Int :=
  match handle with
  | none => -1
  | some handle => handle.descriptor

def asyncInPipeSetup (_handle : Option Handle) (_pipeId : UInt8) :
    Prog Fault Dev (Option Error) :=
  pure none

/-- The transfer that `async_in_transfer_create` assembles at the address `t`. -/
def Transfer.assembled (fd : Int) (pipeId : UInt8) (transferSize : Nat) (t : Addr)
    (buffer : Block Bytes) : Transfer where
  urb :=
    { type := urbTypeBulk
      endpoint := pipeId
      status := 0
      buffer := buffer
      bufferLength := transferSize
      actualLength := 0
      errorCount := 0
      usercontext := some t }
  pending := false
  error := none
  fd := fd

def asyncInTransferCreate (handle : Option Handle) (pipeId : UInt8) (transferSize : Nat) :
    Prog Fault Dev (Except Error Addr) := do
  check .assertion (transferSize != 0)
  if transferSize > intMax then do
    let error ← onHeap (errorCreate "Transfer size is too large.")
    let error ← expect .nullPointer error
    pure (.error error)
  else do
    match ← onHeap (calloc 1 sizeofTransfer) with
    | none => pure (.error errorNoMemory)
    | some newTransfer => do
      match ← onHeap (malloc transferSize) with
      | none => do
        onHeap (free (some (.heap newTransfer)))
        pure (.error errorNoMemory)
      | some newBuffer => do
        let d ← get
        -- `malloc` leaves what the memory held before
        storeTransfer newTransfer (.assembled (genericHandleGetFd handle) pipeId transferSize
          newTransfer ⟨.heap newBuffer, d.kernel.garbage newBuffer⟩)
        pure (.ok newTransfer)

/-- Free the transfer struct at an address. -/
def freeTransfer (t : Addr) : Prog Fault Dev Unit := do
  let _ ← loadTransfer t
  modify fun d => { d with transfers := Function.update d.transfers t none }
  onHeap (free (some (.heap t)))

def asyncInTransferFree (transfer : Option Addr) : Prog Fault Dev Unit :=
  match transfer with
  | none => pure ()
  | some t => do
    let T ← loadTransfer t
    if T.pending then
      -- the kernel still needs the memory, which is leaked
      pure ()
    else do
      onHeap (errorFree T.error)
      onHeap (free (some T.urb.buffer.loc))
      freeTransfer t

def asyncInTransferSubmit (transfer : Option Addr) : Prog Fault Dev Unit :=
  match transfer with
  | none => throw .assertion
  | some t => do
    let T ← loadTransfer t
    check .assertion (T.pending == false)
    onHeap (errorFree T.error)
    storeTransfer t { T with error := none, pending := true }
    match ← usbfdSubmitUrb T.fd t with
    | none => pure ()
    | some error => do
      let T ← loadTransfer t
      storeTransfer t { T with pending := false, error := some error }

/-- The error that a completed URB stands for. -/
def completionError (urb : Urb) : Prog Fault Dev (Option Error) := do
  let d ← get
  match ← onHeap (errorFromUrbStatus d.kernel.strerror urb.status) with
  | some error => onHeap (errorAdd (some error) "Asynchronous IN transfer failed.")
  | none =>
    if urb.errorCount ≠ 0 then do
      let error ← onHeap (errorCreate
        s!"Non-zero error count for USB request: {urb.errorCount}.")
      onHeap (errorAdd error "Asynchronous IN transfer failed.")
    else pure none

def asyncInTransferHandleCompletion (transfer : Option Addr) : Prog Fault Dev Unit :=
  match transfer with
  | none => throw .assertion
  | some t => do
    let T ← loadTransfer t
    let error ← completionError T.urb
    let T ← loadTransfer t
    storeTransfer t { T with pending := false, error := error }

def asyncInTransferGetResults (transfer : Option Addr) (out : Outputs) :
    Prog Fault Dev (Option Error × Outputs) :=
  match transfer with
  | none => throw .assertion
  | some t => do
    let T ← loadTransfer t
    check .assertion (!T.pending)
    let tmpTransferred := sizeOfInt T.urb.actualLength
    let tmpTransferred :=
      -- the caller's buffer is never written past the size of the transfer
      if tmpTransferred > sizeOfInt T.urb.bufferLength then sizeOfInt T.urb.bufferLength
      else tmpTransferred
    let out := { out with
      buffer := out.buffer.map fun buffer => memcpy buffer T.urb.buffer.val tmpTransferred
      transferred := out.transferred.map fun _ => tmpTransferred }
    let out ←
      match out.transferError with
      | none => pure out
      | some _ => do
        let error ← onHeap (errorCopy T.error)
        pure { out with transferError := some error }
    modify fun d => { d with calls := .results t out :: d.calls }
    pure (none, out)

def asyncInTransferCancel (transfer : Option Addr) : Prog Fault Dev (Option Error) :=
  match transfer with
  | none => pure none
  | some t => do
    let T ← loadTransfer t
    usbfdDiscardUrb T.fd t

def asyncInTransferPending (transfer : Option Addr) : Prog Fault Dev Bool :=
  match transfer with
  | none => throw .assertion
  | some t => do
    let T ← loadTransfer t
    pure T.pending

/-- `handle_completed_urb` on the URB of the transfer `t`. -/
def handleCompletedUrb (t : Addr) : Prog Fault Dev (Option Error) := do
  let T ← loadTransfer t
  match T.urb.usercontext with
  | none =>
    onHeap (errorCreate "A completed USB request block has a NULL usercontext.")
  | some transfer =>
    if T.urb.type = urbTypeBulk ∧ T.urb.endpoint &&& 0x80 ≠ 0 then do
      asyncInTransferHandleCompletion (some transfer)
      pure none
    else onHeap (errorCreate "A completed USB request block was unrecognized.")

/-- One round of the loop of `generic_handle_events`. -/
def reapAndHandle (fd : Int) : Prog Fault Dev (Option (Option Error)) := do
  match ← usbfdReapUrb fd with
  | (some error, _) => pure (some (some error))
  | (none, none) => pure (some none)
  | (none, some urb) => do
    match ← handleCompletedUrb urb with
    | some error => pure (some (some error))
    | none => pure none

def genericHandleEvents (handle : Option Handle) : Prog Fault Dev (Option Error) :=
  match handle with
  | none => onHeap (errorCreate "Generic handle argument is null.")
  | some handle => do
    let d ← get
    loop .endless (reapAndHandle handle.descriptor) (d.kernel.inFlight.length + 1)

def backend : Backend Transfer Kernel Submission Returned where
  linux := true
  asyncInPipeSetup := asyncInPipeSetup
  asyncInTransferCreate := asyncInTransferCreate
  asyncInTransferFree := asyncInTransferFree
  asyncInTransferSubmit := asyncInTransferSubmit
  asyncInTransferGetResults := asyncInTransferGetResults
  asyncInTransferCancel := asyncInTransferCancel
  asyncInTransferPending := asyncInTransferPending
  genericHandleEvents := genericHandleEvents

end Libusbp.Linux
