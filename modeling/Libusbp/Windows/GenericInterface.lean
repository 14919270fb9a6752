import Libusbp.Windows.Device
import Libusbp.Windows.Interface
import Libusbp.Windows.Registry

/-!
# Generic interfaces on Windows

`generic_interface_windows.c`. A generic interface owns the strings with its device instance ID and its
filename.
-/

namespace Libusbp.Windows

open Prog Host

/-- `GUID` -/
abbrev Guid : Type := BitVec 128

/-- `struct libusbp_generic_interface` -/
structure GenericInterface where
  interfaceNumber : UInt8
  deviceInstanceId : Option (Box String) := none
  filename : Option (Box String) := none

def sizeofGenericInterface : Nat := 24

/-- What a generic interface says to its getters. -/
@[ext] structure GenericInterfaceView where
  interfaceNumber : UInt8
  deviceInstanceId : Option String
  filename : Option String
deriving DecidableEq, Repr

instance : Owned RefKind GenericInterface :=
  ⟨fun gi => owned gi.deviceInstanceId + owned gi.filename⟩

instance : Content GenericInterface GenericInterfaceView :=
  ⟨fun gi => ⟨gi.interfaceNumber, text gi.deviceInstanceId, text gi.filename⟩⟩

/-- What Windows answers about the registry key of a device with its device interface GUIDs. -/
structure GuidAnswers where
  /-- the error code of `SetupDiOpenDevRegKey`, if it fails -/
  keyError : Option UInt32
  /-- the query without a buffer, which yields the size -/
  size : Except UInt32 UInt32
  /-- what is stored when the query with a buffer is made -/
  stored : Except UInt32 RegistryValue
  /-- `IIDFromString`, with an `HRESULT` code if it fails -/
  iidFromString : List UInt16 → Except UInt32 Guid

/-- What Windows answers to one `libusbp_generic_interface_create`. -/
structure GenericInterfaceAnswers where
  interface : InterfaceAnswers
  /-- `SetupDiGetDeviceRegistryProperty` for the service, with the data type -/
  service : DevInfo → Except UInt32 (UInt32 × String)
  /-- whether `CompareString` says that two strings are equal up to case -/
  compareString : String → String → Bool
  guids : DevInfo → GuidAnswers
  filename : Guid → FilenameAnswers

/-- A device without a driver has no driver name, without an error. -/
def getDriverName (formatMessage : UInt32 → String) (service : Except UInt32 (UInt32 × String)) :
    Prog Fault System (Option Error × Option (Box String)) :=
  match service with
  | .error errorCode =>
    if errorCode = errorInvalidData then pure (none, none)
    else do
      let error ← inHeap (errorCreateWinapi formatMessage errorCode "Failed to get the service name.")
      pure (error, none)
  | .ok (dataType, service) =>
    if dataType ≠ regSz then do
      let error ← inHeap (errorCreate s!"Service name is the wrong data type: {dataType.toInt32}.")
      pure (error, none)
    else stringCopy service

/-- What `check_driver_installation` writes to its outputs. -/
structure DriverCheck where
  goodDriverInstalled : Bool := false
  badDriverInstalled : Bool := false
  driverName : Option (Box String) := none

def checkDriverInstallation (formatMessage : UInt32 → String) (compareString : String → String → Bool)
    (service : Except UInt32 (UInt32 × String)) : Prog Fault System (Option Error × DriverCheck) := do
  match ← getDriverName formatMessage service with
  | (some e, driverName) => pure (some e, { driverName })
  | (none, none) => pure (none, {})
  | (none, some driverName) =>
    if compareString driverName.val "winusb" then
      pure (none, { goodDriverInstalled := true, driverName })
    else pure (none, { badDriverInstalled := true, driverName })

/-- The part of `get_first_device_interface_guid` behind the first query. A denied request for the
buffer returns at once. -/
def firstGuid (formatMessage : UInt32 → String) (os : GuidAnswers) (key : RegistryKey)
    (size : UInt32) : Prog Fault System (Option Error × Guid) := do
  match ← new size.toNat () with
  -- the key stays open on this way out
  | none => pure (some errorNoMemory, 0)
  | some guids => do
    regCloseKey key
    match regQueryValueEx os.stored size.toNat with
    | .error regResult => do
      free (some guids)
      let error ← inHeap
        (errorCreateWinapi formatMessage regResult "Failed to get DeviceInterfaceGUIDs key.")
      pure (error, 0)
    | .ok value =>
      if value.dataType ≠ regMultiSz then do
        free (some guids)
        let error ← inHeap (errorCreate
          ("Expected DeviceInterfaceGUIDs key to be a REG_MULTI_SZ (0x" ++
            formatHex 0 regMultiSz.toNat ++ "), got 0x" ++ formatHex 0 value.dataType.toNat ++ "."))
        pure (error, 0)
      else do
        let string ← wideString value.bytes
        free (some guids)
        match os.iidFromString string with
        | .error hr => do
          let error ← inHeap (errorCreateHr hr "Failed to parse device interface GUID.")
          pure (error, 0)
        | .ok guid => pure (none, guid)

def getFirstDeviceInterfaceGuid (formatMessage : UInt32 → String) (os : GuidAnswers) :
    Prog Fault System (Option Error × Guid) := do
  match ← setupDiOpenDevRegKey os.keyError with
  | .error errorCode => do
    let error ← inHeap (errorCreateWinapi formatMessage errorCode
      "Failed to get device registry key in order to find its device interface GUIDs.")
    pure (error, 0)
  | .ok key =>
    match os.size with
    | .error regResult => do
      regCloseKey key
      let error ← inHeap do
        if regResult = errorFileNotFound then errorCreate "DeviceInterfaceGUIDs key does not exist."
        else errorCreateWinapi formatMessage regResult "Failed to get DeviceInterfaceGUIDs key size."
      pure (error, 0)
    | .ok size => firstGuid formatMessage os key size

/-- The variables of `generic_interface_initialize`, with the object that it writes to. -/
structure GenericInterfaceVars where
  gi : GenericInterface
  usbDeviceId : Option (Box String) := none
  node : Option InterfaceNode := none
  driverName : Option (Box String) := none
  guid : Guid := 0

/-- The step that checks the driver situation. -/
def driverStep (formatMessage : UInt32 → String) (os : GenericInterfaceAnswers)
    (l : GenericInterfaceVars) : Prog Fault System (Option Error × GenericInterfaceVars) := do
  let node ← expect .assertion l.node
  let (error, driver) ←
    checkDriverInstallation formatMessage os.compareString (os.service node.info)
  let l := { l with driverName := driver.driverName }
  if error.isSome then pure (error, l)
  else if driver.badDriverInstalled then do
    let driverName ← expect .nullPointer (text driver.driverName)
    let error ← inHeap (errorCreate s!"Device is attached to an incorrect driver: {driverName}.")
    pure (error, l)
  else do
    let error ← notReadyUnless driver.goodDriverInstalled "Device is not using any driver."
    pure (error, l)

/-- The steps of `generic_interface_initialize`. -/
def initializeSteps (formatMessage : UInt32 → String) (device : Box Device)
    (interfaceNumber : UInt8) (composite : Bool) (os : GenericInterfaceAnswers) :
    List (GenericInterfaceVars → Prog Fault System (Option Error × GenericInterfaceVars)) := [
  into (fun _ => deviceGetOsId device true) fun l x => { l with usbDeviceId := x },
  into (fun l => getInterface formatMessage (text l.usbDeviceId) interfaceNumber composite
    os.interface) fun l x => { l with node := x },
  into (fun l => do
    let node ← expect .assertion l.node
    createIdString formatMessage node.info.instanceId)
    fun l x => { l with gi := { l.gi with deviceInstanceId := x } },
  driverStep formatMessage os,
  into (fun l => do
    let node ← expect .assertion l.node
    getFirstDeviceInterfaceGuid formatMessage (os.guids node.info)) fun l x => { l with guid := x },
  into (fun l => do
    let node ← expect .assertion l.node
    getFilenameFromDevinstAndGuid formatMessage node.info.devInst (os.filename l.guid))
    fun l x => { l with gi := { l.gi with filename := x } }]

def GenericInterfaceVars.cleanUp (l : GenericInterfaceVars) : Prog Fault System Unit := do
  setupDiDestroyDeviceInfoList (l.node.map (·.list))
  stringFree l.driverName
  stringFree l.usbDeviceId

def genericInterfaceInitialize (formatMessage : UInt32 → String) (device : Box Device)
    (interfaceNumber : UInt8) (composite : Bool) (os : GenericInterfaceAnswers) :
    Prog Fault System (Option Error × GenericInterface) := do
  let (error, l) ← stages (initializeSteps formatMessage device interfaceNumber composite os)
    { gi := { interfaceNumber } }
  l.cleanUp
  let error ← addContext error "Failed to initialize generic interface."
  pure (error, l.gi)

def genericInterfaceFree (gi : Option (Box GenericInterface)) : Prog Fault System Unit :=
  match gi with
  | none => pure ()
  | some gi => do
    free gi.val.deviceInstanceId
    free gi.val.filename
    free (some gi)

def genericInterfaceCreate (formatMessage : UInt32 → String) (device : Option (Box Device))
    (interfaceNumber : UInt8) (composite : Bool) (gi : Bool) (os : GenericInterfaceAnswers) :
    Prog Fault System (Option Error × Option (Box GenericInterface)) :=
  if gi = false then do
    let error ← inHeap (errorCreate "Generic interface output pointer is null.")
    pure (error, none)
  else match device with
    | none => do
      let error ← inHeap (errorCreate "Device is null.")
      pure (error, none)
    | some device => do
      match ← new sizeofGenericInterface () with
      | none => pure (some errorNoMemory, none)
      | some newGi => do
        let (error, gi) ←
          genericInterfaceInitialize formatMessage device interfaceNumber composite os
        -- the struct was filled in as far as the steps came
        let newGi : Box GenericInterface := ⟨newGi.addr, gi⟩
        if error.isSome then do
          genericInterfaceFree newGi
          pure (error, none)
        else pure (none, some newGi)

/-- `strdup` -/
def strdup (string : String) : Prog Fault System (Option (Box String)) :=
  new (string.utf8ByteSize + 1) string

/-- The function asks for everything that it needs before it looks at an answer. -/
def genericInterfaceCopy (source : Option (Box GenericInterface)) (dest : Bool) :
    Prog Fault System (Option Error × Option (Box GenericInterface)) :=
  if dest = false then do
    let error ← inHeap (errorCreate "Generic interface output pointer is null.")
    pure (error, none)
  else match source with
    | none => pure (none, none)
    | some source => do
      let deviceInstanceId ← expect .assertion (text source.val.deviceInstanceId)
      let sourceFilename ← expect .assertion (text source.val.filename)
      let newGi ← newZeroed sizeofGenericInterface ()
      let id ← strdup deviceInstanceId
      let filename ← strdup sourceFilename
      match newGi with
      | some newGi =>
        if id.isSome ∧ filename.isSome then
          pure (none, some ⟨newGi.addr,
            { interfaceNumber := source.val.interfaceNumber, deviceInstanceId := id, filename }⟩)
        else do
          free (some newGi)
          free id
          free filename
          pure (some errorNoMemory, none)
      | none => do
        free id
        free filename
        pure (some errorNoMemory, none)

def genericInterfaceGetOsId :
    Option (Box GenericInterface) → Bool → Prog Fault System (Option Error × Option (Box String)) :=
  getString "String output pointer is null." "Generic interface is null." fun gi =>
    stringCopy (text gi.deviceInstanceId)

def genericInterfaceGetOsFilename :
    Option (Box GenericInterface) → Bool → Prog Fault System (Option Error × Option (Box String)) :=
  getString "String output pointer is null." "Generic interface is null." fun gi =>
    stringCopy (text gi.filename)

/-- What the variables hold besides the new object. -/
def GenericInterfaceVars.others (l : GenericInterfaceVars) : Holdings RefKind :=
  owned (l.node.map (·.list)) + (owned l.driverName + owned l.usbDeviceId)

lemma GenericInterfaceVars.cleanUp_givesBack (l : GenericInterfaceVars) :
    GivesBack l.cleanUp l.others :=
  .seq setupDiDestroyDeviceInfoList_givesBack (.seq stringFree_givesBack stringFree_givesBack)

end Libusbp.Windows
