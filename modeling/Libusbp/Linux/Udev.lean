import Libusbp.Lib.Scan
import Libusbp.Search
import Libusbp.Strings

/-!
# libudev

`udev_linux.c`. A call of libudev may fail at any time, so its answers are parameters: what an
enumeration yields, what looking a device up yields, what a device says about itself. A context, an
enumeration and a device are counted references, which the caller gives back.
-/

namespace Libusbp.Linux

open Prog Host

/-- The kinds of references that a program on Linux holds. -/
inductive RefKind where
  | udev
  | udevEnumerate
  | udevDevice
  | file
deriving DecidableEq, Repr

abbrev System : Type := Host RefKind

/-- What libudev answers about a device that it has looked up. -/
structure UdevInfo where
  syspath : String
  devtype : Option String
  sysattr : String → Option String
  /-- The syspath of the parent of subsystem `usb` and devtype `usb_device`. -/
  usbParent : Option String
  driver : Option String
  devnode : Option String
  subsystem : Option String
  property : String → Option String
  isInitialized : Bool

/-- `struct udev *` -/
structure Udev where
  ref : Nat

/-- `struct udev_device *` -/
structure UdevDevice where
  ref : Nat
  info : UdevInfo

/-- An entry of an enumeration, with what looking its name up will yield. -/
structure UdevEntry where
  name : String
  lookup : Option UdevInfo

/-- `struct udev_enumerate *` -/
structure UdevEnumerate where
  ref : Nat
  entries : List UdevEntry

/-- What libudev answers while an enumeration is made. -/
structure EnumerateAnswers where
  created : Bool
  addMatch : Int
  scanDevices : Int
  entries : List UdevEntry

instance : Owned RefKind Udev := ⟨fun u => (0, {(.udev, u.ref)})⟩

instance : Owned RefKind UdevDevice := ⟨fun dev => (0, {(.udevDevice, dev.ref)})⟩

instance : Owned RefKind UdevEnumerate := ⟨fun list => (0, {(.udevEnumerate, list.ref)})⟩

instance : Content Udev Unit := ⟨fun _ => ()⟩

instance : Content UdevDevice UdevInfo := ⟨(·.info)⟩

instance : Content UdevEnumerate (List UdevEntry) := ⟨(·.entries)⟩

def errorCreateUdev (errorCode : Int) (format : String) : Prog Fault Heap (Option Error) := do
  let error ← errorCreate s!"Error from libudev: {errorCode}."
  errorAddV error format

def udevUnref (udev : Option Udev) : Prog Fault System Unit :=
  release? .udev (udev.map (·.ref))

def udevDeviceUnref (dev : Option UdevDevice) : Prog Fault System Unit :=
  release? .udevDevice (dev.map (·.ref))

def udevEnumerateUnref (list : Option UdevEnumerate) : Prog Fault System Unit :=
  release? .udevEnumerate (list.map (·.ref))

def udevwCreateContext (created : Bool) : Prog Fault System (Option Error × Option Udev) :=
  if created then do
    let ref ← acquire .udev
    pure (none, some ⟨ref⟩)
  else do
    let error ← inHeap (errorCreate "Failed to create a udev context.")
    pure (error, none)

/-- `udev_enumerate_new`, with the error of its callers for a null pointer. -/
def udevEnumerateNew (os : EnumerateAnswers) :
    Prog Fault System (Option Error × Option UdevEnumerate) :=
  if os.created then do
    let ref ← acquire .udevEnumerate
    pure (none, some ⟨ref, os.entries⟩)
  else do
    let error ← inHeap (errorCreate "Failed to create a udev enumeration context.")
    pure (error, none)

/-- The result of a step of an enumeration, with the error of the callers if it is not zero. -/
def checkUdevResult (result : Int) (format : String) : Prog Fault System (Option Error) :=
  if result ≠ 0 then inHeap (errorCreateUdev result format)
  else pure none

/-- The variables of a function that makes an enumeration. -/
structure ListVars where
  newList : Option UdevEnumerate := none
  list : Option UdevEnumerate := none

/-- `udevw_create_child_list` and `udevw_create_usb_list`, which differ in what they match by. -/
def udevwCreateList (matchFailed : String) (os : EnumerateAnswers) :
    Prog Fault System (Option Error × Option UdevEnumerate) :=
  construct [
      into (fun _ => udevEnumerateNew os) fun l x => { l with newList := x },
      checking fun _ => checkUdevResult os.addMatch matchFailed,
      checking fun _ => checkUdevResult os.scanDevices "Failed to scan devices.",
      fun l => pure (none, { list := l.newList, newList := none })]
    (fun l => udevEnumerateUnref l.newList) (·.list) ({} : ListVars)

def udevwCreateChildList (udev : Option Udev) (parent : Option UdevDevice)
    (os : EnumerateAnswers) : Prog Fault System (Option Error × Option UdevEnumerate) := do
  check .assertion udev.isSome
  check .assertion parent.isSome
  udevwCreateList "Failed to match by parent device." os

def udevwCreateUsbList (udev : Option Udev) (os : EnumerateAnswers) :
    Prog Fault System (Option Error × Option UdevEnumerate) := do
  check .assertion udev.isSome
  udevwCreateList "Failed to add a subsystem match." os

def udevwGetDeviceFromSyspath (context : Option Udev) (syspath : Option String)
    (lookup : Option UdevInfo) : Prog Fault System (Option Error × Option UdevDevice) := do
  check .assertion context.isSome
  let syspath ← expect .assertion syspath
  match lookup with
  | some info => do
    let ref ← acquire .udevDevice
    pure (none, some ⟨ref, info⟩)
  | none => do
    let error ← inHeap (errorCreate s!"Failed to get udev device from syspath: {syspath}.")
    pure (error, none)

def udevwGetDeviceType (dev : UdevDevice) : Prog Fault System (Option Error × String) :=
  match dev.info.devtype with
  | some devtype => pure (none, devtype)
  | none => do
    let error ← inHeap (errorCreate "Failed to get device type.")
    pure (error, "")

/-- `udevw_get_sysattr_uint8` and `udevw_get_sysattr_uint16`, which differ in the type that the number
is converted to. -/
def udevwGetSysattr {α : Type} (convert : Int → α) (dev : UdevDevice) (name : String) :
    Prog Fault System (Option Error × α) :=
  match dev.info.sysattr name with
  | none => do
    let error ← inHeap (errorCreate s!"Device does not have sysattr {name}.")
    pure (error, convert 0)
  | some str =>
    match Scan.hex 4 str.toList with
    | some (value, _) => pure (none, convert value)
    | none => do
      let error ← inHeap (errorCreate s!"Failed to parse sysattr {name}.")
      pure (error, convert 0)

def udevwGetSysattrUint8 (dev : UdevDevice) (name : String) :
    Prog Fault System (Option Error × UInt8) := udevwGetSysattr Scan.toUInt8 dev name

def udevwGetSysattrUint16 (dev : UdevDevice) (name : String) :
    Prog Fault System (Option Error × UInt16) := udevwGetSysattr Scan.toUInt16 dev name

def udevwGetSysattrIfExistsCopy (dev : UdevDevice) (name : String) :
    Prog Fault System (Option Error × Option (Box String)) :=
  match dev.info.sysattr name with
  | none => pure (none, none)
  | some str => stringCopy (some str)

/-- The syspath of the parent USB device. -/
def udevwGetParentUsbDevice (dev : UdevDevice) : Prog Fault System (Option Error × String) :=
  match dev.info.usbParent with
  | some parent => pure (none, parent)
  | none => do
    let error ← inHeap (errorCreate "Failed to get parent USB device.")
    pure (error, "")

def udevwCheckIfDeviceIsSpecificInterface (dev : UdevDevice) (deviceSyspath : String)
    (interfaceNumber : UInt8) : Prog Fault System (Option Error × Bool) := do
  match ← udevwGetDeviceType dev with
  | (some error, _) => pure (some error, false)
  | (none, devtype) =>
  if devtype ≠ "usb_interface" then pure (none, false)
  else
  match ← udevwGetSysattrUint8 dev "bInterfaceNumber" with
  | (some error, _) => pure (some error, false)
  | (none, actualInterfaceNumber) =>
  if actualInterfaceNumber ≠ interfaceNumber then pure (none, false)
  else
  match ← udevwGetParentUsbDevice dev with
  | (some error, _) => pure (some error, false)
  | (none, parentSyspath) =>
  if parentSyspath ≠ deviceSyspath then pure (none, false)
  else pure (none, true)

/-- The loop of `udevw_get_interface` over the entries of the enumeration. -/
def findInterface (udev : Option Udev) (deviceSyspath : String) (interfaceNumber : UInt8) :
    List UdevEntry → Prog Fault System (Option Error × Option UdevDevice)
  | [] => pure (none, none)
  | entry :: entries => do
    match ← udevwGetDeviceFromSyspath udev entry.name entry.lookup with
    -- one device that cannot be opened ends the whole search
    | (some error, _) => pure (some error, none)
    | (none, dev) =>
      let dev' ← expect .assertion dev
      match ← udevwCheckIfDeviceIsSpecificInterface dev' deviceSyspath interfaceNumber with
      | (some error, _) => do
        udevDeviceUnref dev
        pure (some error, none)
      | (none, true) => pure (none, dev)
      | (none, false) => do
        udevDeviceUnref dev
        findInterface udev deviceSyspath interfaceNumber entries

/-- The variables of `udevw_get_interface` and `udevw_get_tty`. -/
structure SearchVars where
  list : Option UdevEnumerate := none
  foundDevice : Option UdevDevice := none
  device : Option UdevDevice := none

/-- The entries of an enumeration. -/
def SearchVars.entries (l : SearchVars) : List UdevEntry := l.list.elim [] (·.entries)

def udevwGetInterface (udev : Option Udev) (deviceSyspath : Option String)
    (interfaceNumber : UInt8) (os : EnumerateAnswers) :
    Prog Fault System (Option Error × Option UdevDevice) := do
  check .assertion udev.isSome
  let deviceSyspath ← expect .assertion deviceSyspath
  construct [
      into (fun _ => udevwCreateUsbList udev os) fun l x => { l with list := x },
      into (fun l => findInterface udev deviceSyspath interfaceNumber l.entries)
        fun l x => { l with foundDevice := x },
      checking fun l =>
        notReadyUnless l.foundDevice.isSome s!"Could not find interface {interfaceNumber}.",
      fun l => pure (none, { l with device := l.foundDevice })]
    (fun l => udevEnumerateUnref l.list) (·.device) ({} : SearchVars)

/-- The loop of `udevw_get_tty` over the entries of the enumeration. -/
def findTty (udev : Option Udev) :
    List UdevEntry → Prog Fault System (Option Error × Option UdevDevice)
  | [] => pure (none, none)
  | entry :: entries => do
    match ← udevwGetDeviceFromSyspath udev entry.name entry.lookup with
    | (some error, _) => pure (some error, none)
    | (none, dev) =>
      let dev' ← expect .assertion dev
      if dev'.info.subsystem = some "tty" then pure (none, dev)
      else do
        udevDeviceUnref dev
        findTty udev entries

def udevwGetTty (udev : Option Udev) (parent : Option UdevDevice) (os : EnumerateAnswers) :
    Prog Fault System (Option Error × Option UdevDevice) := do
  check .assertion udev.isSome
  check .assertion parent.isSome
  construct [
      into (fun _ => udevwCreateChildList udev parent os) fun l x => { l with list := x },
      into (fun l => findTty udev l.entries) fun l x => { l with foundDevice := x },
      checking fun l => notReadyUnless l.foundDevice.isSome "Could not find tty device.",
      fun l => pure (none, { l with device := l.foundDevice })]
    (fun l => udevEnumerateUnref l.list) (·.device) ({} : SearchVars)

def udevwGetSyspathCopy (device : Option UdevDevice) :
    Prog Fault System (Option Error × Option (Box String)) := do
  let device ← expect .assertion device
  stringCopy device.info.syspath

def udevwGetDevnode (device : UdevDevice) : Prog Fault System (Option Error × Option String) :=
  match device.info.devnode with
  | some devnode => pure (none, some devnode)
  | none => do
    let error ← inHeap (errorCreate "No device node exists.")
    pure (error, none)

def udevwGetDevnodeCopy (device : Option UdevDevice) :
    Prog Fault System (Option Error × Option (Box String)) := do
  let device ← expect .assertion device
  match ← udevwGetDevnode device with
  | (some error, _) => pure (some error, none)
  | (none, tmp) => stringCopy tmp

/-- The variables of `udevw_get_devnode_copy_from_syspath`. -/
structure DevnodeVars where
  context : Option Udev := none
  device : Option UdevDevice := none
  devnode : Option (Box String) := none

def udevwGetDevnodeCopyFromSyspath (syspath : Option String) (contextCreated : Bool)
    (lookup : Option UdevInfo) : Prog Fault System (Option Error × Option (Box String)) := do
  let syspath ← expect .assertion syspath
  construct [
      into (fun _ => udevwCreateContext contextCreated) fun l x => { l with context := x },
      into (fun l => udevwGetDeviceFromSyspath l.context syspath lookup)
        fun l x => { l with device := x },
      into (fun l => udevwGetDevnodeCopy l.device) fun l x => { l with devnode := x }]
    (fun l => do
      udevDeviceUnref l.device
      udevUnref l.context) (·.devnode) ({} : DevnodeVars)

end Libusbp.Linux
