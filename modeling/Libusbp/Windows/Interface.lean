import Libusbp.Lib.Scan
import Libusbp.Search
import Libusbp.Windows.SetupApi

/-!
# Finding an interface on Windows

`interface_windows.c`. The node of an interface is a device in a device information list, which is
handed out together with it. For a composite device the search goes through three lists.
-/

namespace Libusbp.Windows

open Prog Host

/-- What Windows answers while an interface is looked up. -/
structure InterfaceAnswers where
  /-- `SetupDiGetClassDevs` for devices with the interface of a USB device -/
  usbDevices : Except UInt32 DevInfoList
  /-- `CM_Locate_DevNode` -/
  locateDevNode : Except UInt32 UInt32
  /-- `SetupDiGetClassDevs` for what the USB enumerator lists -/
  usbEnumerator : Except UInt32 DevInfoList
  comPorts : Except UInt32 DevInfoList
  modems : Except UInt32 DevInfoList

/-- What `get_interface` hands out: a device, and the list that it is in. -/
structure InterfaceNode where
  list : DevInfoSet
  info : DevInfo

instance : Owned RefKind InterfaceNode := ⟨fun node => owned node.list⟩

instance : Content InterfaceNode (DevInfoList × DevInfo) := ⟨fun node => (node.list.contents, node.info)⟩

/-- The number of devices in a list. -/
def deviceCount (list : Option DevInfoSet) : Nat := list.elim 0 (·.contents.devices.length)

/-- `SetupDiEnumDeviceInfo` as a function calls it. A run that is `strict` stops before the enumeration of
a list that is none; otherwise the enumeration fails. -/
def enumDeviceInfo (strict : Bool) (list : Option DevInfoSet) (i : Nat) :
    Prog Fault System (Except UInt32 DevInfo) := do
  check .assertion (!strict || list.isSome)
  pure (setupDiEnumDeviceInfo list i)

/-- A round of the loop of `get_interface_non_composite`. -/
def nonCompositeRound (strict : Bool) (formatMessage : UInt32 → String) (deviceInstanceId : String)
    (newList : Option DevInfoSet) (i : Nat) :
    Prog Fault System (Nat ⊕ (Option Error × Option DevInfo)) := do
  match ← enumDeviceInfo strict newList i with
  | .error errorCode => do
    let error ← inHeap do
      if errorCode = errorNoMoreItems then errorCreate "Failed to find device node."
      else errorCreateWinapi formatMessage errorCode "Failed to enumerate device info."
    pure (.inr (error, none))
  | .ok info =>
    match info.instanceId with
    | .error errorCode => do
      let error ← inHeap
        (errorCreateWinapi formatMessage errorCode "Failed to get device instance ID.")
      pure (.inr (error, none))
    -- the comparison is exact, as `strcmp` makes it
    | .ok id => pure (if id = deviceInstanceId then .inr (none, some info) else .inl (i + 1))

/-- The result of opening the list is not checked: the check compares the output pointer. -/
def getInterfaceNonComposite (strict : Bool) (formatMessage : UInt32 → String)
    (deviceInstanceId : String) (os : InterfaceAnswers) :
    Prog Fault System (Option Error × Option InterfaceNode) := do
  let newList := (← setupDiGetClassDevs os.usbDevices).toOption
  let (error, info) ← loopWith .endless
    (nonCompositeRound strict formatMessage deviceInstanceId newList) (deviceCount newList + 1) 0
  let node := do pure (⟨← newList, ← info⟩ : InterfaceNode)
  setupDiDestroyDeviceInfoList (if node.isSome then none else newList)
  let error ← addContext error "Failed to find non-composite device node."
  pure (error, node)

/-- The conversion of `USB\VID_%*4x&PID_%*4x&MI_%2x\`. -/
def scanUsbInterface (id : List Char) : Option UInt32 := do
  let s ← Scan.literal "USB\\VID_".toList id
  let (_, s) ← Scan.hex 4 s
  let s ← Scan.literal "&PID_".toList s
  let (_, s) ← Scan.hex 4 s
  let s ← Scan.literal "&MI_".toList s
  let (number, _) ← Scan.hex 2 s
  pure (Scan.toUInt32 number)

/-- The conversion of `FTDIBUS\%*[^\]\%x`. -/
def scanFtdiInterface (id : List Char) : Option UInt32 := do
  let s ← Scan.literal "FTDIBUS\\".toList id
  let s ← Scan.runWithout '\\' s
  let s ← Scan.literal ['\\'] s
  let (number, _) ← Scan.hex s.length s
  pure (Scan.toUInt32 number)

/-- The interface number in a device instance ID. -/
def actualInterfaceNumber (deviceId : String) : Option UInt32 :=
  match scanUsbInterface deviceId.toList with
  | some number => some number
  | none => scanFtdiInterface deviceId.toList

/-- The lists that `get_interface_composite` goes through. -/
def InterfaceAnswers.lists (os : InterfaceAnswers) : List (Except UInt32 DevInfoList) :=
  [os.usbEnumerator, os.comPorts, os.modems]

/-- The variables of `get_interface_composite`. -/
structure CompositeVars where
  listIndex : Nat := 0
  newList : Option DevInfoSet := none
  i : Nat := 0

/-- The first part of a round, which opens the next list if none is open, or ends the search. -/
def openNext (formatMessage : UInt32 → String) (interfaceNumber : UInt8) (os : InterfaceAnswers)
    (l : CompositeVars) : Prog Fault System (CompositeVars ⊕ Option Error) :=
  match l.newList with
  | some _ => pure (.inl l)
  | none =>
    match os.lists[l.listIndex]? with
    | none => do
      -- the interface may only be missing for now
      let error ← inHeap do
        let error ← errorCreate s!"Could not find interface {interfaceNumber}."
        errorAddCode error ErrorCode.notReady
      pure (.inr error)
    | some answer => do
      match ← setupDiGetClassDevs answer with
      | .error errorCode => do
        let error ← inHeap (errorCreateWinapi formatMessage errorCode
          s!"Failed to list devices to find an interface ({l.listIndex}).")
        pure (.inr error)
      | .ok list => pure (.inl { l with newList := some list, i := 0 })

/-- The second part of a round, which looks at the device at the index. -/
def lookAtDevice (formatMessage : UInt32 → String) (devInst : UInt32) (interfaceNumber : UInt8)
    (l : CompositeVars) : Prog Fault System (CompositeVars ⊕ (Option Error × Option InterfaceNode)) := do
  let newList ← expect .nullPointer l.newList
  match setupDiEnumDeviceInfo newList l.i with
  | .error errorCode =>
    if errorCode = errorNoMoreItems then do
      setupDiDestroyDeviceInfoList newList
      pure (.inl { l with newList := none, listIndex := l.listIndex + 1 })
    else do
      let error ← inHeap (errorCreateWinapi formatMessage errorCode
        "Failed to get device info to find an interface.")
      setupDiDestroyDeviceInfoList newList
      pure (.inr (error, none))
  | .ok info =>
    match info.parent with
    | .error cr => do
      setupDiDestroyDeviceInfoList newList
      let error ← inHeap (errorCreateCr cr "Failed to get parent of an interface.")
      pure (.inr (error, none))
    | .ok parentDevInst =>
      if parentDevInst ≠ devInst then pure (.inl { l with i := l.i + 1 })
      else match info.deviceId with
        | .error cr => do
          let error ← inHeap
            (errorCreateCr cr "Failed to get device instance ID while finding an interface.")
          setupDiDestroyDeviceInfoList newList
          pure (.inr (error, none))
        | .ok deviceId =>
          if actualInterfaceNumber deviceId ≠ some interfaceNumber.toUInt32 then
            pure (.inl { l with i := l.i + 1 })
          else pure (.inr (none, some ⟨newList, info⟩))

/-- A round of the loop of `get_interface_composite`. -/
def compositeRound (formatMessage : UInt32 → String) (devInst : UInt32) (interfaceNumber : UInt8)
    (os : InterfaceAnswers) (l : CompositeVars) :
    Prog Fault System (CompositeVars ⊕ (Option Error × Option InterfaceNode)) := do
  match ← openNext formatMessage interfaceNumber os l with
  | .inr error => pure (.inr (error, none))
  | .inl l => lookAtDevice formatMessage devInst interfaceNumber l

/-- A round for each device, one for the end of each list and one for the end of the search. -/
def InterfaceAnswers.rounds (os : InterfaceAnswers) : Nat :=
  (os.lists.map fun answer => answer.toOption.elim 0 (·.devices.length) + 1).sum + 1

def getInterfaceComposite (formatMessage : UInt32 → String) (interfaceNumber : UInt8)
    (os : InterfaceAnswers) : Prog Fault System (Option Error × Option InterfaceNode) :=
  match os.locateDevNode with
  | .error cr => do
    let error ← inHeap (errorCreateCr cr "Failed to get device node in order to find an interface.")
    pure (error, none)
  | .ok devInst =>
    loopWith .endless (compositeRound formatMessage devInst interfaceNumber os) os.rounds {}

def getInterface (formatMessage : UInt32 → String) (deviceInstanceId : Option String)
    (interfaceNumber : UInt8) (composite : Bool) (os : InterfaceAnswers) :
    Prog Fault System (Option Error × Option InterfaceNode) := do
  let deviceInstanceId ← expect .assertion deviceInstanceId
  if composite then getInterfaceComposite formatMessage interfaceNumber os
  else getInterfaceNonComposite false formatMessage deviceInstanceId os

/-- What Windows answers while the filename of a device node is looked up. -/
structure FilenameAnswers where
  devices : Except UInt32 DevInfoList
  /-- the error code of `SetupDiEnumDeviceInterfaces`, if it fails -/
  interfaceData : Option UInt32
  /-- the error code of the call that asks for the size of the details, if it fails -/
  sizeError : Option UInt32
  size : UInt32
  /-- the device path in the details -/
  devicePath : Except UInt32 String

/-- A round of the loop of `get_filename_from_devinst_and_guid`, which yields the error, or nothing if
the device was found. -/
def filenameRound (formatMessage : UInt32 → String) (devinst : UInt32) (list : DevInfoSet) (i : Nat) :
    Prog Fault System (Nat ⊕ Option Error) :=
  match setupDiEnumDeviceInfo list i with
  | .error errorCode =>
    if errorCode = errorNoMoreItems then do
      setupDiDestroyDeviceInfoList list
      let error ← inHeap do
        let error ← errorCreate "Could not find matching device in order to get its filename."
        errorAddCode error ErrorCode.notReady
      pure (.inr error)
    else do
      -- here the last error is read before the list is destroyed
      let error ← inHeap (errorCreateWinapi formatMessage errorCode
        "Failed to enumerate list item to find matching device.")
      setupDiDestroyDeviceInfoList list
      pure (.inr error)
  | .ok info => pure (if info.devInst = devinst then .inr none else .inl (i + 1))

/-- The end of `get_filename_from_devinst_and_guid`. A denied request for the details returns at once. -/
def detailFilename (formatMessage : UInt32 → String) (os : FilenameAnswers) (list : DevInfoSet) :
    Prog Fault System (Option Error × Option (Box String)) := do
  match ← new os.size.toNat () with
  | none => pure (some errorNoMemory, none)
  | some detail =>
    match os.devicePath with
    | .error errorCode => do
      let error ← inHeap
        (errorCreateWinapi formatMessage errorCode "Failed to get the device interface details.")
      free (some detail)
      setupDiDestroyDeviceInfoList list
      pure (error, none)
    | .ok devicePath => do
      -- the rest is freed whether or not the copy could be made
      let newString ← new (devicePath.utf8ByteSize + 1) devicePath
      free (some detail)
      setupDiDestroyDeviceInfoList list
      match newString with
      | none => pure (some errorNoMemory, none)
      | some newString => pure (none, some newString)

/-- The part of `get_filename_from_devinst_and_guid` behind the loop. -/
def deviceFilename (formatMessage : UInt32 → String) (os : FilenameAnswers) (list : DevInfoSet) :
    Prog Fault System (Option Error × Option (Box String)) :=
  match os.interfaceData with
  | some errorCode => do
    let error ← inHeap
      (errorCreateWinapi formatMessage errorCode "Failed to get device interface data.")
    setupDiDestroyDeviceInfoList list
    pure (error, none)
  | none =>
    match os.sizeError with
    | some errorCode =>
      if errorCode ≠ errorInsufficientBuffer then do
        let error ← inHeap (errorCreateWinapi formatMessage errorCode
          "Failed to get the size of the device interface details.")
        setupDiDestroyDeviceInfoList list
        pure (error, none)
      else detailFilename formatMessage os list
    | none => detailFilename formatMessage os list

def getFilenameFromDevinstAndGuid (formatMessage : UInt32 → String) (devinst : UInt32)
    (os : FilenameAnswers) : Prog Fault System (Option Error × Option (Box String)) := do
  match ← setupDiGetClassDevs os.devices with
  | .error errorCode => do
    let error ← inHeap (errorCreateWinapi formatMessage errorCode
      "Failed to create a list of devices to find a device filename.")
    pure (error, none)
  | .ok list =>
    match ← loopWith .endless (filenameRound formatMessage devinst list)
      (deviceCount list + 1) 0 with
    | some error => pure (some error, none)
    | none => deviceFilename formatMessage os list

end Libusbp.Windows
