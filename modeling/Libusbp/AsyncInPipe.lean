import Libusbp.Error
import Mathlib.Logic.Function.Basic

/-!
# Asynchronous IN pipes

The functions of `async_in_pipe.c`, over whichever operating system implements the
`async_in_transfer` functions that `libusbp_internal.h` declares (`Backend`). A system is one open
generic handle with everything opened on it: its pipes, the transfer structs in memory, the state of
the operating system behind the handle, and the heap.

Pipes and transfers are memory: a pointer is an address or null (`none`), and following a pointer
that is null or was freed is a fault. An output pointer is null or the variable it points to.

`Dev.calls` is a history, newest first, of the calls of `async_in_transfer_submit` and
`async_in_transfer_get_results` and of the completions the operating system reported. No function of
the model reads it.
-/

namespace Libusbp

open Prog Heap

/-- The contents of a memory region, by offset. -/
abbrev Bytes := Nat → UInt8

/-- `memcpy`: the first `n` bytes of `src` over those of `dst`. -/
def memcpy (dst src : Bytes) (n : Nat) : Bytes := fun i => if i < n then src i else dst i

/-- A generic handle, by the descriptor that the operating system gave it. -/
structure Handle where
  descriptor : Int
deriving DecidableEq, Repr

/-- The variables that the output pointers of `handle_finished_transfer` point to. -/
structure Outputs where
  finished : Option Bool
  buffer : Option Bytes
  transferred : Option Nat
  transferError : Option (Option Error)

/-- One entry of the history: a submission with what the operating system answered, a completion
with what it reported, or the results that were read out of a transfer. -/
inductive Call (α γ : Type) where
  | submit (t : Addr) (answer : α)
  | complete (t : Addr) (result : γ)
  | results (t : Addr) (out : Outputs)

/-- `struct libusbp_async_in_pipe`. -/
structure Pipe where
  handle : Option Handle
  pipeId : UInt8
  transferArray : Option (Block (List (Option Addr)))
  transferSize : Nat
  transferCount : Nat
  endlessTransfersEnabled : Bool
  pendingCount : Nat
  nextFinish : Nat
  nextSubmit : Nat

/-- The zeroed struct with the two fields that `async_in_pipe_create` sets. -/
def Pipe.opened (handle : Handle) (pipeId : UInt8) : Pipe where
  handle := some handle
  pipeId := pipeId
  transferArray := none
  transferSize := 0
  transferCount := 0
  endlessTransfersEnabled := false
  pendingCount := 0
  nextFinish := 0
  nextSubmit := 0

/-- The transfers of one handle: the heap, the transfer structs and the operating system. -/
structure Dev (τ κ α γ : Type) where
  heap : Heap
  transfers : Addr → Option τ
  kernel : κ
  calls : List (Call α γ)

/-- One open generic handle and everything opened on it. -/
structure Sys (τ κ α γ : Type) where
  handle : Handle
  pipes : Addr → Option Pipe
  dev : Dev τ κ α γ

/-- What an operating system has to implement for `async_in_pipe.c`. -/
structure Backend (τ κ α γ : Type) where
  /-- Whether `__linux__` is defined. -/
  linux : Bool
  asyncInPipeSetup : Option Handle → UInt8 → Prog Fault (Dev τ κ α γ) (Option Error)
  asyncInTransferCreate :
    Option Handle → UInt8 → Nat → Prog Fault (Dev τ κ α γ) (Except Error Addr)
  asyncInTransferFree : Option Addr → Prog Fault (Dev τ κ α γ) Unit
  asyncInTransferSubmit : Option Addr → Prog Fault (Dev τ κ α γ) Unit
  asyncInTransferGetResults :
    Option Addr → Outputs → Prog Fault (Dev τ κ α γ) (Option Error × Outputs)
  asyncInTransferCancel : Option Addr → Prog Fault (Dev τ κ α γ) (Option Error)
  asyncInTransferPending : Option Addr → Prog Fault (Dev τ κ α γ) Bool
  genericHandleEvents : Option Handle → Prog Fault (Dev τ κ α γ) (Option Error)

variable {τ κ α γ β : Type}

/-- Run a program on the heap. -/
def onHeap (x : Prog Fault Heap β) : Prog Fault (Dev τ κ α γ) β :=
  zoom Dev.heap (fun h d => { d with heap := h }) x

/-- Run a program on the transfers. -/
def onDev (x : Prog Fault (Dev τ κ α γ) β) : Prog Fault (Sys τ κ α γ) β :=
  zoom Sys.dev (fun d s => { s with dev := d }) x

def sizeofPipe : Nat := 72

def maxEndpointNumber : UInt8 := 15

def errorInvalidPipeId (pipeId : UInt8) : Prog Fault Heap (Option Error) :=
  errorCreate ("Invalid pipe ID 0x" ++ formatHex 2 pipeId.toNat ++ ".")

def checkPipeId (pipeId : UInt8) : Prog Fault Heap (Option Error) :=
  if pipeId &&& ~~~0x80 > maxEndpointNumber ∨ pipeId = 0x80 then errorInvalidPipeId pipeId
  else pure none

def incrementAndWrapSize (n bound : Nat) : Nat :=
  let n := n + 1
  if n ≥ bound then 0 else n

/-- Read the pipe struct at an address. -/
def loadPipe (p : Addr) : Prog Fault (Sys τ κ α γ) Pipe := do
  let s ← get
  expect .useAfterFree (s.pipes p)

/-- Write the pipe struct at an address. -/
def storePipe (p : Addr) (pipe : Pipe) : Prog Fault (Sys τ κ α γ) Unit :=
  modify fun s => { s with pipes := Function.update s.pipes p (some pipe) }

/-- Free the pipe struct at an address. -/
def freePipe (p : Addr) : Prog Fault (Sys τ κ α γ) Unit := do
  let _ ← loadPipe p
  modify fun s => { s with pipes := Function.update s.pipes p none }
  onDev (onHeap (free (some (.heap p))))

/-- `pipe->transfer_array[i]`. -/
def transferAt (pipe : Pipe) (i : Nat) : Prog Fault (Sys τ κ α γ) (Option Addr) :=
  match pipe.transferArray with
  | none => throw .nullPointer
  | some array => expect .outOfBounds array.val[i]?

/-- The outputs as `handle_finished_transfer` resets them. -/
def resetOutputs (out : Outputs) : Outputs where
  finished := out.finished.map fun _ => false
  buffer := out.buffer
  transferred := out.transferred.map fun _ => 0
  transferError := out.transferError.map fun _ => none

namespace Backend

variable (B : Backend τ κ α γ)

def asyncInTransferArrayFree (array : Option (Block (List (Option Addr)))) (transferCount : Nat) :
    Prog Fault (Dev τ κ α γ) Unit :=
  match array with
  | none => pure ()
  | some array => do
    forRange (fun i => do
      let transfer ← expect .outOfBounds array.val[i]?
      B.asyncInTransferFree transfer) 0 transferCount
    onHeap (free (some array.loc))

def asyncInPipeClose (pipe : Option Addr) : Prog Fault (Sys τ κ α γ) Unit :=
  match pipe with
  | none => pure ()
  | some p => do
    let pipe ← loadPipe p
    onDev (B.asyncInTransferArrayFree pipe.transferArray pipe.transferCount)
    freePipe p

def asyncInPipeCreate (handle : Option Handle) (pipeId : UInt8) (pipe : Option (Option Addr)) :
    Prog Fault (Sys τ κ α γ) (Option Error × Option (Option Addr)) :=
  match pipe, handle with
  | none, _ => do
    let error ← onDev (onHeap (errorCreate "Pipe output pointer is null."))
    pure (error, none)
  -- the output pointer is written before the handle is checked
  | some _, none => do
    let error ← onDev (onHeap (errorCreate "Generic handle is null."))
    pure (error, some none)
  | some _, some handle => do
    match ← onDev (onHeap (checkPipeId pipeId)) with
    | some error => pure (some error, some none)
    | none =>
      if pipeId &&& 0x80 = 0 then do
        let error ← onDev (onHeap (errorCreate
          "Asynchronous pipes for OUT endpoints are not supported."))
        pure (error, some none)
      else do
        match ← onDev (B.asyncInPipeSetup (some handle) pipeId) with
        | some error => pure (some error, some none)
        | none => do
          match ← onDev (onHeap (calloc 1 sizeofPipe)) with
          | none => pure (some errorNoMemory, some none)
          | some newPipe => do
            storePipe newPipe (.opened handle pipeId)
            pure (none, some (some newPipe))

/-- The loop of `allocate_transfers` that fills the new array. -/
def createTransfers (handle : Option Handle) (pipeId : UInt8) (transferSize transferCount : Nat) :
    Prog Fault (Dev τ κ α γ) (Option Error × List (Option Addr)) :=
  forUntil (fun i slots => do
    match ← B.asyncInTransferCreate handle pipeId transferSize with
    | .error error => pure (some error, slots)
    | .ok transfer => pure (none, slots.set i (some transfer)))
    0 transferCount (List.replicate transferCount none)

def asyncInPipeAllocateTransfers (pipe : Option Addr) (transferCount transferSize : Nat) :
    Prog Fault (Sys τ κ α γ) (Option Error) :=
  match pipe with
  | none => onDev (onHeap (errorCreate "Pipe argument is null."))
  | some p => do
    let pipe ← loadPipe p
    if pipe.transferArray.isSome then
      onDev (onHeap (errorCreate "Transfers were already allocated for this pipe."))
    else if transferCount = 0 then
      onDev (onHeap (errorCreate "Transfer count cannot be zero."))
    else if transferSize = 0 then
      onDev (onHeap (errorCreate "Transfer size cannot be zero."))
    else do
      match ← onDev (onHeap (calloc transferCount sizeofPointer)) with
      | none =>
        onDev (onHeap (errorAdd (some errorNoMemory)
          "Failed to allocate transfers for asynchronous IN pipe."))
      | some a => do
        let (error, slots) ←
          onDev (B.createTransfers pipe.handle pipe.pipeId transferSize transferCount)
        match error with
        | none => do
          storePipe p { pipe with
            transferArray := some ⟨.heap a, slots⟩
            transferCount := transferCount
            transferSize := transferSize }
          pure none
        | some error => do
          -- `error_add` comes last, so the transfers are freed even if it runs out of memory
          onDev (B.asyncInTransferArrayFree (some ⟨.heap a, slots⟩) transferCount)
          onDev (onHeap (errorAdd (some error)
            "Failed to allocate transfers for asynchronous IN pipe."))

def asyncInPipeSubmitNextTransfer (p : Addr) : Prog Fault (Sys τ κ α γ) Unit := do
  let pipe ← loadPipe p
  check .assertion (pipe.pendingCount < pipe.transferCount)
  let transfer ← transferAt pipe pipe.nextSubmit
  onDev (B.asyncInTransferSubmit transfer)
  storePipe p { pipe with
    pendingCount := pipe.pendingCount + 1
    nextSubmit := incrementAndWrapSize pipe.nextSubmit pipe.transferCount }

/-- One round of the loop of `start_endless_transfers`. -/
def fillRing (p : Addr) : Prog Fault (Sys τ κ α γ) (Option Unit) := do
  let pipe ← loadPipe p
  if pipe.pendingCount < pipe.transferCount then do
    B.asyncInPipeSubmitNextTransfer p
    pure none
  else pure (some ())

def asyncInPipeStartEndlessTransfers (pipe : Option Addr) :
    Prog Fault (Sys τ κ α γ) (Option Error) :=
  match pipe with
  | none => onDev (onHeap (errorCreate "Pipe argument is null."))
  | some p => do
    let pipe ← loadPipe p
    if pipe.transferArray.isNone then
      onDev (onHeap (errorCreate "Pipe transfers have not been allocated yet."))
    else do
      storePipe p { pipe with endlessTransfersEnabled := true }
      loop .endless (B.fillRing p) (pipe.transferCount + 1)
      pure none

def asyncInPipeHandleEvents (pipe : Option Addr) : Prog Fault (Sys τ κ α γ) (Option Error) :=
  match pipe with
  | none => onDev (onHeap (errorCreate "Pipe argument is null."))
  | some p => do
    let pipe ← loadPipe p
    onDev (B.genericHandleEvents pipe.handle)

/-- The answer and the variable that `result` points to. -/
def asyncInPipeHasPendingTransfers (pipe : Option Addr) (result : Option Bool) :
    Prog Fault (Sys τ κ α γ) (Option Error × Option Bool) :=
  match result, pipe with
  | none, _ => do
    let error ← onDev (onHeap (errorCreate "Boolean output pointer is null."))
    pure (error, none)
  | some _, none => do
    let error ← onDev (onHeap (errorCreate "Pipe argument is null."))
    pure (error, some false)
  | some _, some p => do
    let pipe ← loadPipe p
    pure (none, some (pipe.pendingCount != 0))

def asyncInPipeHandleFinishedTransfer (pipe : Option Addr) (out : Outputs) :
    Prog Fault (Sys τ κ α γ) (Option Error × Outputs) :=
  let out := resetOutputs out
  match pipe with
  | none => do
    let error ← onDev (onHeap (errorCreate "Pipe argument is null."))
    pure (error, out)
  | some p => do
    let pipe ← loadPipe p
    if pipe.pendingCount = 0 then pure (none, out)
    else do
      let transfer ← transferAt pipe pipe.nextFinish
      if ← onDev (B.asyncInTransferPending transfer) then pure (none, out)
      else do
        let (error, out) ← onDev (B.asyncInTransferGetResults transfer out)
        match error with
        | some error => pure (some error, out)
        | none => do
          let out := { out with finished := out.finished.map fun _ => true }
          storePipe p { pipe with
            pendingCount := pipe.pendingCount - 1
            nextFinish := incrementAndWrapSize pipe.nextFinish pipe.transferCount }
          -- with endless transfers the ring stays full
          if pipe.endlessTransfersEnabled then B.asyncInPipeSubmitNextTransfer p
          pure (none, out)

def asyncInPipeCancelTransfers (pipe : Option Addr) : Prog Fault (Sys τ κ α γ) (Option Error) :=
  match pipe with
  | none => onDev (onHeap (errorCreate "Pipe argument is null."))
  | some p => do
    let pipe ← loadPipe p
    storePipe p { pipe with endlessTransfersEnabled := false }
    if B.linux then do
      -- transfers need to be cancelled individually
      let (error, _) ← forUntil (fun i _ => do
        let transfer ← transferAt pipe i
        let error ← onDev (B.asyncInTransferCancel transfer)
        pure (error, ())) 0 pipe.transferCount ()
      pure error
    else do
      let transfer ← transferAt pipe 0
      onDev (B.asyncInTransferCancel transfer)

end Backend

/-- A call of the interface on an open handle. -/
inductive Event where
  | create (pipeId : UInt8)
  | allocateTransfers (p : Addr) (transferCount transferSize : Nat)
  | startEndlessTransfers (p : Addr)
  | handleEvents (p : Addr)
  | hasPendingTransfers (p : Addr) (result : Option Bool)
  | handleFinishedTransfer (p : Addr) (out : Outputs)
  | cancelTransfers (p : Addr)
  | close (p : Addr)

/-- What a call gives back; `unused` stands for a call on a pipe that is not open, which no caller
may make. -/
inductive Reply where
  | unused
  | created (error : Option Error) (pipe : Option (Option Addr))
  | done (error : Option Error)
  | pending (error : Option Error) (result : Option Bool)
  | finished (error : Option Error) (out : Outputs)
  | closed

/-- The pipe that a call is about. -/
def Event.pipe? : Event → Option Addr
  | .create _ => none
  | .allocateTransfers p _ _ => some p
  | .startEndlessTransfers p => some p
  | .handleEvents p => some p
  | .hasPendingTransfers p _ => some p
  | .handleFinishedTransfer p _ => some p
  | .cancelTransfers p => some p
  | .close p => some p

/-- The call itself. -/
def Backend.exec (B : Backend τ κ α γ) : Event → Prog Fault (Sys τ κ α γ) Reply
  | .create pipeId => do
    let s ← get
    let (error, pipe) ← B.asyncInPipeCreate (some s.handle) pipeId (some none)
    pure (.created error pipe)
  | .allocateTransfers p transferCount transferSize => do
    let error ← B.asyncInPipeAllocateTransfers (some p) transferCount transferSize
    pure (.done error)
  | .startEndlessTransfers p => do
    let error ← B.asyncInPipeStartEndlessTransfers (some p)
    pure (.done error)
  | .handleEvents p => do
    let error ← B.asyncInPipeHandleEvents (some p)
    pure (.done error)
  | .hasPendingTransfers p result => do
    let (error, result) ← Backend.asyncInPipeHasPendingTransfers (some p) result
    pure (.pending error result)
  | .handleFinishedTransfer p out => do
    let (error, out) ← B.asyncInPipeHandleFinishedTransfer (some p) out
    pure (.finished error out)
  | .cancelTransfers p => do
    let error ← B.asyncInPipeCancelTransfers (some p)
    pure (.done error)
  | .close p => do
    B.asyncInPipeClose (some p)
    pure .closed

/-- One step of a system: a call on an open pipe is made, any other is passed over. -/
def Backend.step (B : Backend τ κ α γ) (e : Event) : Prog Fault (Sys τ κ α γ) Reply := do
  let s ← get
  match e.pipe? with
  | none => B.exec e
  | some p => if (s.pipes p).isSome then B.exec e else pure .unused

end Libusbp
