import Libusbp.FindDevice
import Libusbp.Lib.Machine
import Libusbp.Lib.Settings
import Libusbp.Timeouts

/-!
# A client of the library

A client calls the functions of `libusbp.h`. The objects that they hand out are in its hands until it
passes them to the function that frees objects of their kind. `InHand` says that the program holds
exactly what these objects own. The functions of a platform are parameters, and `Api.Keeps` is what they
have to do. The timeouts that were set and used are on record in the state of the client.
-/

namespace Libusbp

open Prog Host

/-- An object in the hands of a client. -/
inductive Obj (D I S : Type) where
  | error (e : Error)
  | string (string : Box String)
  /-- The array of a list, whose devices are objects of their own. -/
  | deviceList (list : Box (List (Slot D)))
  | device (device : Box D)
  | genericInterface (gi : Box I)
  | serialPort (port : Box S)

/-- A generic handle in the hands of a client, with the number of the call that opened it. The timeouts
in its struct are kept beside the other fields. -/
structure ClientHandle (H : Type) where
  number : Nat
  handle : Box H
  timeouts : Timeouts

/-- The state of a client, with the history of the timeouts that were set and used. -/
structure ClientState (κ D I S H : Type) where
  host : Host κ
  held : List (Obj D I S)
  handles : List (ClientHandle H)
  opened : Nat
  log : List (Access (Nat × UInt8) UInt32)

/-- What a platform's operating system answers to the calls of each kind. -/
structure Answers where
  Listing : Type
  GenericInterface : Type
  SerialPort : Type
  GenericHandle : Type
  Timeout : Type
  Control : Type
  Pipe : Type

variable {κ D I S H α β : Type} {A : Answers}

/-! ## The calls -/

/-- The calls with an object as their output. An argument is the position of an object, or `none` for a
null pointer; an argument `output` is false for an output pointer that is null. -/
inductive MakeCall (A : Answers) where
  | errorCopy (error : Option Nat)
  | findDeviceWithVidPid (vendorId productId : UInt16) (output : Bool) (os : A.Listing)
  | deviceCopy (device : Option Nat) (output : Bool)
  | deviceGetSerialNumber (device : Option Nat) (output : Bool)
  | deviceGetOsId (device : Option Nat) (output : Bool)
  | genericInterfaceCreate (device : Option Nat) (interfaceNumber : UInt8) (composite output : Bool)
    (os : A.GenericInterface)
  | genericInterfaceCopy (gi : Option Nat) (output : Bool)
  | genericInterfaceGetOsId (gi : Option Nat) (output : Bool)
  | genericInterfaceGetOsFilename (gi : Option Nat) (output : Bool)
  | serialPortCreate (device : Option Nat) (interfaceNumber : UInt8) (composite output : Bool)
    (os : A.SerialPort)
  | serialPortCopy (port : Option Nat) (output : Bool)
  | serialPortGetName (port : Option Nat) (output : Bool)

/-- The calls with a number as their output. -/
inductive AskCall where
  | deviceGetVendorId (device : Option Nat) (output : Bool)
  | deviceGetProductId (device : Option Nat) (output : Bool)
  | deviceGetRevision (device : Option Nat) (output : Bool)

/-- The transfers of a handle. -/
inductive TransferCall (A : Answers) where
  | control (setup : SetupPacket) (data transferred : Bool) (os : A.Control)
  | read (pipeId : UInt8) (data : Bool) (size : UInt64) (transferred : Bool) (os : A.Pipe)
  | write (pipeId : UInt8) (data : Bool) (size : UInt64) (transferred : Bool) (os : A.Pipe)

/-- The pipe of a transfer. -/
def TransferCall.pipeId : TransferCall A → UInt8
  | .control _ _ _ _ => 0
  | .read pipeId _ _ _ _ => pipeId
  | .write pipeId _ _ _ _ => pipeId

/-- The kinds of objects, each of which has a function that frees it. -/
inductive ObjKind where
  | error
  | string
  | deviceList
  | device
  | genericInterface
  | serialPort

/-- The calls. -/
inductive ClientCall (A : Answers) where
  | make (call : MakeCall A)
  | ask (call : AskCall)
  | listConnectedDevices (deviceList deviceCount : Bool) (os : A.Listing)
  | genericHandleOpen (gi : Option Nat) (output : Bool) (os : A.GenericHandle)
  | setTimeout (handle : Option Nat) (pipeId : UInt8) (timeout : UInt32) (os : A.Timeout)
  | transfer (handle : Option Nat) (call : TransferCall A)
  | genericHandleClose (handle : Option Nat)
  /-- The function that frees objects of the kind of the object at this position. -/
  | dispose (i : Nat)
  /-- The function that frees objects of a kind, with a null pointer. -/
  | disposeNull (kind : ObjKind)

/-- The functions of a platform. The function that sets a timeout yields the tables of the handle behind
the call, if it has any. A transfer yields the timeout that is passed to the operating system, if it gets
there with one. -/
structure Api (κ D I S H : Type) (A : Answers) where
  listConnectedDevices : A.Listing → Bool → Bool → Prog Fault (Host κ) (Option Error × ListOutputs D)
  findDeviceWithVidPid : A.Listing → UInt16 → UInt16 → Bool →
    Prog Fault (Host κ) (Option Error × Option (Box D))
  deviceFree : Option (Box D) → Prog Fault (Host κ) Unit
  deviceCopy : Option (Box D) → Bool → Prog Fault (Host κ) (Option Error × Option (Box D))
  deviceGetVendorId : Option (Box D) → Bool → Prog Fault (Host κ) (Option Error × UInt16)
  deviceGetProductId : Option (Box D) → Bool → Prog Fault (Host κ) (Option Error × UInt16)
  deviceGetRevision : Option (Box D) → Bool → Prog Fault (Host κ) (Option Error × UInt16)
  deviceGetSerialNumber : Option (Box D) → Bool →
    Prog Fault (Host κ) (Option Error × Option (Box String))
  deviceGetOsId : Option (Box D) → Bool → Prog Fault (Host κ) (Option Error × Option (Box String))
  genericInterfaceCreate : A.GenericInterface → Option (Box D) → UInt8 → Bool → Bool →
    Prog Fault (Host κ) (Option Error × Option (Box I))
  genericInterfaceFree : Option (Box I) → Prog Fault (Host κ) Unit
  genericInterfaceCopy : Option (Box I) → Bool → Prog Fault (Host κ) (Option Error × Option (Box I))
  genericInterfaceGetOsId : Option (Box I) → Bool →
    Prog Fault (Host κ) (Option Error × Option (Box String))
  genericInterfaceGetOsFilename : Option (Box I) → Bool →
    Prog Fault (Host κ) (Option Error × Option (Box String))
  serialPortCreate : A.SerialPort → Option (Box D) → UInt8 → Bool → Bool →
    Prog Fault (Host κ) (Option Error × Option (Box S))
  serialPortFree : Option (Box S) → Prog Fault (Host κ) Unit
  serialPortCopy : Option (Box S) → Bool → Prog Fault (Host κ) (Option Error × Option (Box S))
  serialPortGetName : Option (Box S) → Bool →
    Prog Fault (Host κ) (Option Error × Option (Box String))
  genericHandleOpen : A.GenericHandle → Option (Box I) → Bool →
    Prog Fault (Host κ) (Option Error × Option (Box H))
  genericHandleClose : Option (Box H) → Prog Fault (Host κ) Unit
  setTimeout : A.Timeout → Option (Box H × Timeouts) → UInt8 → UInt32 →
    Prog Fault (Host κ) (Option Error × Option Timeouts)
  transfer : Option (Box H × Timeouts) → TransferCall A →
    Prog Fault (Host κ) (Option Error × Option UInt32)

def Obj.error? : Obj D I S → Option Error
  | .error e => some e
  | _ => none

def Obj.device? : Obj D I S → Option (Box D)
  | .device dev => some dev
  | _ => none

def Obj.genericInterface? : Obj D I S → Option (Box I)
  | .genericInterface gi => some gi
  | _ => none

def Obj.serialPort? : Obj D I S → Option (Box S)
  | .serialPort port => some port
  | _ => none

/-- The object of the kind `f` at a position. Where there is none, a null pointer is passed. -/
def ClientState.arg (c : ClientState κ D I S H) (f : Obj D I S → Option α) (i : Option Nat) : Option α :=
  i.bind fun i => c.held[i]?.bind f

/-- The handle at a position and the others. -/
def ClientState.handleAt (c : ClientState κ D I S H) (i : Option Nat) :
    Option (ClientHandle H × List (ClientHandle H)) :=
  i.bind fun i => c.handles[i]?.map fun h => (h, c.handles.eraseIdx i)

/-- The handle at a position and the others are the handles. -/
lemma ClientState.handleAt_perm {c : ClientState κ D I S H} {i : Option Nat} {h : ClientHandle H}
    {others : List (ClientHandle H)} (at' : c.handleAt i = some (h, others)) :
    c.handles.Perm (h :: others) := by
  cases i with
  | none => cases at'
  | some i =>
    obtain ⟨h', there, eq⟩ := Option.map_eq_some_iff.mp at'
    cases eq
    obtain ⟨lt, rfl⟩ := List.getElem?_eq_some_iff.mp there
    exact (List.getElem_cons_eraseIdx_perm lt).symm

/-- A transfer that yields its error and the timeout of its request. -/
def sent {ρ : Type} (timeoutOf : ρ → UInt32) (x : Prog Fault (Host κ) (PipeReply ρ)) :
    Prog Fault (Host κ) (Option Error × Option UInt32) := do
  let reply ← x
  pure (reply.error, reply.request.map timeoutOf)

/-- A call whose output is an object of one kind. -/
def giving (f : α → Obj D I S) (x : Prog Fault (Host κ) (Option Error × Option α)) :
    Prog Fault (Host κ) (Option Error × Option (Obj D I S)) := do
  let (error, a) ← x
  pure (error, a.map f)

def Api.make (api : Api κ D I S H A) (c : ClientState κ D I S H) :
    MakeCall A → Prog Fault (Host κ) (Option Error × Option (Obj D I S))
  | .errorCopy error => do
    let copy ← inHeap (errorCopy (c.arg Obj.error? error))
    pure (none, copy.map .error)
  | .findDeviceWithVidPid vendorId productId output os =>
    giving .device (api.findDeviceWithVidPid os vendorId productId output)
  | .deviceCopy device output => giving .device (api.deviceCopy (c.arg Obj.device? device) output)
  | .deviceGetSerialNumber device output =>
    giving .string (api.deviceGetSerialNumber (c.arg Obj.device? device) output)
  | .deviceGetOsId device output =>
    giving .string (api.deviceGetOsId (c.arg Obj.device? device) output)
  | .genericInterfaceCreate device interfaceNumber composite output os =>
    giving .genericInterface (api.genericInterfaceCreate os (c.arg Obj.device? device)
      interfaceNumber composite output)
  | .genericInterfaceCopy gi output =>
    giving .genericInterface (api.genericInterfaceCopy (c.arg Obj.genericInterface? gi) output)
  | .genericInterfaceGetOsId gi output =>
    giving .string (api.genericInterfaceGetOsId (c.arg Obj.genericInterface? gi) output)
  | .genericInterfaceGetOsFilename gi output =>
    giving .string (api.genericInterfaceGetOsFilename (c.arg Obj.genericInterface? gi) output)
  | .serialPortCreate device interfaceNumber composite output os =>
    giving .serialPort (api.serialPortCreate os (c.arg Obj.device? device) interfaceNumber composite
      output)
  | .serialPortCopy port output =>
    giving .serialPort (api.serialPortCopy (c.arg Obj.serialPort? port) output)
  | .serialPortGetName port output =>
    giving .string (api.serialPortGetName (c.arg Obj.serialPort? port) output)

def Api.ask (api : Api κ D I S H A) (c : ClientState κ D I S H) :
    AskCall → Prog Fault (Host κ) (Option Error × UInt16)
  | .deviceGetVendorId device output => api.deviceGetVendorId (c.arg Obj.device? device) output
  | .deviceGetProductId device output => api.deviceGetProductId (c.arg Obj.device? device) output
  | .deviceGetRevision device output => api.deviceGetRevision (c.arg Obj.device? device) output

def Api.dispose (api : Api κ D I S H A) : Obj D I S → Prog Fault (Host κ) Unit
  | .error e => inHeap (errorFree e)
  | .string string => stringFree string
  | .deviceList list => listFree (some list)
  | .device device => api.deviceFree device
  | .genericInterface gi => api.genericInterfaceFree gi
  | .serialPort port => api.serialPortFree port

def Api.disposeNull (api : Api κ D I S H A) : ObjKind → Prog Fault (Host κ) Unit
  | .error => inHeap (errorFree none)
  | .string => stringFree none
  | .deviceList => listFree (none : Option (Box (List (Slot D))))
  | .device => api.deviceFree none
  | .genericInterface => api.genericInterfaceFree none
  | .serialPort => api.serialPortFree none

/-- The array of a list and its devices. -/
def ListOutputs.objs (outputs : ListOutputs D) : List (Obj D I S) :=
  match outputs.deviceList with
  | none => []
  | some list => .deviceList list :: list.val.filterMap fun slot =>
    match slot with
    | .device dev => some (.device dev)
    | _ => none

/-- The objects among the error and the output of a call. -/
def handed (error : Option Error) (obj : Option (Obj D I S)) : List (Obj D I S) :=
  (error.map .error).toList ++ obj.toList

def onHost (x : Prog Fault (Host κ) α) : Prog Fault (ClientState κ D I S H) α :=
  zoom (·.host) (fun host c => { c with host }) x

def receive (objs : List (Obj D I S)) : Prog Fault (ClientState κ D I S H) Unit :=
  modify fun c => { c with held := objs ++ c.held }

def Api.step (api : Api κ D I S H A) : ClientCall A → Prog Fault (ClientState κ D I S H) Unit
  | .make call => do
    let (error, obj) ← onHost (api.make (← get) call)
    receive (handed error obj)
  | .ask call => do
    let (error, _) ← onHost (api.ask (← get) call)
    receive (handed error none)
  | .listConnectedDevices deviceList deviceCount os => do
    let (error, outputs) ← onHost (api.listConnectedDevices os deviceList deviceCount)
    receive (handed error none ++ outputs.objs)
  | .genericHandleOpen gi output os => do
    let (error, handle) ←
      onHost (api.genericHandleOpen os ((← get).arg Obj.genericInterface? gi) output)
    receive (handed error none)
    modify fun c => { c with
      handles := (handle.map fun handle => ⟨c.opened, handle, .zeroed⟩).toList ++ c.handles
      opened := c.opened + 1 }
  | .setTimeout i pipeId timeout os => do
    match (← get).handleAt i with
    | none => do
      let (error, _) ← onHost (api.setTimeout os none pipeId timeout)
      receive (handed error none)
    | some (h, others) => do
      let (error, timeouts) ← onHost (api.setTimeout os (h.handle, h.timeouts) pipeId timeout)
      receive (handed error none)
      modify fun c => { c with
        handles := { h with timeouts := timeouts.getD h.timeouts } :: others
        log := if error.isNone && timeouts.isSome then .write (h.number, pipeId) timeout :: c.log
          else c.log }
  | .transfer i call => do
    match (← get).handleAt i with
    | none => do
      let (error, _) ← onHost (api.transfer none call)
      receive (handed error none)
    | some (h, _) => do
      let (error, timeout) ← onHost (api.transfer (h.handle, h.timeouts) call)
      receive (handed error none)
      modify fun c => { c with
        log := (timeout.map fun timeout => .read (h.number, call.pipeId) timeout).toList ++ c.log }
  | .genericHandleClose i => do
    match (← get).handleAt i with
    | none => onHost (api.genericHandleClose none)
    | some (h, others) => do
      onHost (api.genericHandleClose h.handle)
      modify fun c => { c with handles := others }
  | .dispose i => do
    match (← get).held[i]? with
    | none => pure ()
    | some obj => do
      onHost (api.dispose obj)
      modify fun c => { c with held := c.held.eraseIdx i }
  | .disposeNull kind => onHost (api.disposeNull kind)

end Libusbp
