import Libusbp.Linux.Device
import Libusbp.Linux.Usbfd

/-!
# Generic interfaces on Linux

`generic_interface_linux.c`. A generic interface owns a copy of its device and the strings with its
syspath and its filename.
-/

namespace Libusbp.Linux

open Prog Host

/-- `struct libusbp_generic_interface` -/
structure GenericInterface where
  device : Option (Box Device)
  interfaceNumber : UInt8
  syspath : Option (Box String)
  filename : Option (Box String)

def sizeofGenericInterface : Nat := 32

/-- What a generic interface says to its getters. -/
@[ext] structure GenericInterfaceView where
  device : Option DeviceView
  interfaceNumber : UInt8
  syspath : Option String
  filename : Option String
deriving DecidableEq, Repr

instance : Owned RefKind GenericInterface :=
  ⟨fun gi => owned gi.device + owned gi.syspath + owned gi.filename⟩

instance : Content GenericInterface GenericInterfaceView :=
  ⟨fun gi => ⟨gi.device.map content, gi.interfaceNumber, text gi.syspath, text gi.filename⟩⟩

/-- What the operating system answers to one `libusbp_generic_interface_create`. -/
structure GenericInterfaceAnswers where
  contextCreated : Bool
  usbList : EnumerateAnswers
  devnodeContextCreated : Bool
  devnodeLookup : Option UdevInfo
  access : Option Int
  strerror : Int → Option String

def checkDriverInstallation (device : Option UdevDevice) : Prog Fault System (Option Error) := do
  let device ← expect .assertion device
  match device.info.driver with
  | none => pure none
  | some driverName =>
    if driverName ≠ "usbfs" ∧ driverName ≠ "cp210x" then
      inHeap (errorCreate s!"Device is attached to an incorrect driver: {driverName}.")
    else pure none

/-- The variables of `libusbp_generic_interface_create`. -/
structure GenericInterfaceVars where
  newGi : Option (Box Unit) := none
  newDevice : Option (Box Device) := none
  newDeviceSyspath : Option (Box String) := none
  newUdev : Option Udev := none
  newDev : Option UdevDevice := none
  newInterfaceSyspath : Option (Box String) := none
  newFilename : Option (Box String) := none
  gi : Option (Box GenericInterface) := none

/-- The assignments that assemble the new generic interface. -/
def GenericInterfaceVars.assemble (interfaceNumber : UInt8) (l : GenericInterfaceVars) :
    Prog Fault System (Option Error × GenericInterfaceVars) := do
  let newGi ← expect .nullPointer l.newGi
  pure (none, { l with
    gi := some ⟨newGi.addr,
      { interfaceNumber
        device := l.newDevice
        syspath := l.newInterfaceSyspath
        filename := l.newFilename }⟩
    newDevice := none
    newInterfaceSyspath := none
    newFilename := none
    newGi := none })

/-- The steps of `libusbp_generic_interface_create`. -/
def genericInterfaceSteps (device : Box Device) (interfaceNumber : UInt8)
    (os : GenericInterfaceAnswers) :
    List (GenericInterfaceVars → Prog Fault System (Option Error × GenericInterfaceVars)) := [
  into (fun _ => allocate sizeofGenericInterface ()) fun l x => { l with newGi := x },
  into (fun _ => deviceCopy device true) fun l x => { l with newDevice := x },
  into (fun l => deviceGetOsId l.newDevice true) fun l x => { l with newDeviceSyspath := x },
  into (fun _ => udevwCreateContext os.contextCreated) fun l x => { l with newUdev := x },
  into (fun l => udevwGetInterface l.newUdev (text l.newDeviceSyspath) interfaceNumber os.usbList)
    fun l x => { l with newDev := x },
  checking fun l => checkDriverInstallation l.newDev,
  into (fun l => udevwGetSyspathCopy l.newDev) fun l x => { l with newInterfaceSyspath := x },
  into (fun l => udevwGetDevnodeCopyFromSyspath (text l.newDeviceSyspath)
    os.devnodeContextCreated os.devnodeLookup) fun l x => { l with newFilename := x },
  checking fun l => usbfdCheckExistence os.strerror (text l.newFilename) os.access,
  GenericInterfaceVars.assemble interfaceNumber]

def GenericInterfaceVars.cleanUp (l : GenericInterfaceVars) : Prog Fault System Unit := do
  stringFree l.newFilename
  stringFree l.newInterfaceSyspath
  stringFree l.newDeviceSyspath
  deviceFree l.newDevice
  free l.newGi
  udevDeviceUnref l.newDev
  udevUnref l.newUdev

def genericInterfaceCreate (device : Option (Box Device)) (interfaceNumber : UInt8)
    (_composite : Bool) (gi : Bool) (os : GenericInterfaceAnswers) :
    Prog Fault System (Option Error × Option (Box GenericInterface)) :=
  if gi = false then do
    let error ← inHeap (errorCreate "Generic interface output pointer is null.")
    pure (error, none)
  else match device with
    | none => do
      let error ← inHeap (errorCreate "Device is null.")
      pure (error, none)
    | some device => do
      let (error, l) ← stages (genericInterfaceSteps device interfaceNumber os) {}
      let error ← addContext error "Failed to initialize generic interface."
      l.cleanUp
      pure (error, l.gi)

def genericInterfaceFree (gi : Option (Box GenericInterface)) : Prog Fault System Unit :=
  match gi with
  | none => pure ()
  | some gi => do
    deviceFree gi.val.device
    stringFree gi.val.syspath
    stringFree gi.val.filename
    free (some gi)

/-- The variables of `libusbp_generic_interface_copy`. -/
structure GenericInterfaceCopyVars where
  newGi : Option (Box Unit) := none
  newDevice : Option (Box Device) := none
  newSyspath : Option (Box String) := none
  newFilename : Option (Box String) := none
  dest : Option (Box GenericInterface) := none

/-- The assignments that assemble the copy, which starts as a `memcpy` of the source. -/
def GenericInterfaceCopyVars.assemble (source : GenericInterface) (l : GenericInterfaceCopyVars) :
    Prog Fault System (Option Error × GenericInterfaceCopyVars) := do
  let newGi ← expect .nullPointer l.newGi
  pure (none, {
    dest := some ⟨newGi.addr,
      { source with
        device := l.newDevice
        syspath := l.newSyspath
        filename := l.newFilename }⟩
    newFilename := none
    newSyspath := none
    newDevice := none
    newGi := none })

/-- The steps of `libusbp_generic_interface_copy`. -/
def genericInterfaceCopySteps (source : GenericInterface) :
    List (GenericInterfaceCopyVars → Prog Fault System (Option Error × GenericInterfaceCopyVars)) := [
  into (fun _ => allocate sizeofGenericInterface ()) fun l x => { l with newGi := x },
  into (fun _ => deviceCopy source.device true) fun l x => { l with newDevice := x },
  into (fun _ => stringCopy (text source.syspath)) fun l x => { l with newSyspath := x },
  into (fun _ => stringCopy (text source.filename)) fun l x => { l with newFilename := x },
  GenericInterfaceCopyVars.assemble source]

/-- The function returns a null pointer for the error, whatever happened in its steps. -/
def genericInterfaceCopy (source : Option (Box GenericInterface)) (dest : Bool) :
    Prog Fault System (Option Error × Option (Box GenericInterface)) :=
  if dest = false then do
    let error ← inHeap (errorCreate "Generic interface output pointer is null.")
    pure (error, none)
  else match source with
    | none => pure (none, none)
    | some source => do
      let (_, l) ← stages (genericInterfaceCopySteps source.val) {}
      stringFree l.newFilename
      stringFree l.newSyspath
      deviceFree l.newDevice
      free l.newGi
      pure (none, l.dest)

def genericInterfaceGetOsId :
    Option (Box GenericInterface) → Bool → Prog Fault System (Option Error × Option (Box String)) :=
  getString "String output pointer is null." "Generic interface is null." fun gi => do
    check .assertion gi.syspath.isSome
    stringCopy (text gi.syspath)

def genericInterfaceGetOsFilename :
    Option (Box GenericInterface) → Bool → Prog Fault System (Option Error × Option (Box String)) :=
  getString "String output pointer is null." "Generic interface is null." fun gi => do
    check .assertion gi.filename.isSome
    stringCopy (text gi.filename)

def genericInterfaceGetDeviceCopy (gi : Box GenericInterface) :
    Prog Fault System (Option Error × Option (Box Device)) :=
  deviceCopy gi.val.device true

def UdevInfo.driverOutcome (info : UdevInfo) : Except ErrorValue Unit :=
  match info.driver with
  | none => .ok ()
  | some driverName => failIf (driverName ≠ "usbfs" ∧ driverName ≠ "cp210x")
      (.ofText s!"Device is attached to an incorrect driver: {driverName}.")

/-- What the steps of `libusbp_generic_interface_create` come to for a device with a syspath. -/
def genericInterfaceStepsOutcome (device : DeviceView) (syspath : String) (interfaceNumber : UInt8)
    (os : GenericInterfaceAnswers) : Except ErrorValue GenericInterfaceView := do
  contextOutcome os.contextCreated
  let info ← interfaceOutcome syspath interfaceNumber os.usbList
  info.driverOutcome
  let filename ← devnodeOutcome syspath os.devnodeContextCreated os.devnodeLookup
  existenceOutcome os.strerror filename os.access
  pure ⟨device, interfaceNumber, info.syspath, filename⟩

/-- The outcome of `libusbp_generic_interface_create`. -/
def genericInterfaceOutcome (device : DeviceView) (syspath : String) (interfaceNumber : UInt8)
    (os : GenericInterfaceAnswers) : Except ErrorValue GenericInterfaceView :=
  withContext (genericInterfaceStepsOutcome device syspath interfaceNumber os)
    "Failed to initialize generic interface."

/-- What the variables hold besides the new generic interface. -/
def GenericInterfaceVars.others (l : GenericInterfaceVars) : Holdings RefKind :=
  owned l.newFilename + (owned l.newInterfaceSyspath + (owned l.newDeviceSyspath +
    (owned l.newDevice + (owned l.newGi + (owned l.newDev + owned l.newUdev)))))

variable {m : Holdings RefKind} {d : Nat} {s : System}

lemma GenericInterfaceVars.cleanUp_givesBack (l : GenericInterfaceVars) :
    GivesBack l.cleanUp l.others :=
  .seq stringFree_givesBack (.seq stringFree_givesBack (.seq stringFree_givesBack
    (.seq deviceFree_givesBack (.seq .free (.seq udevDeviceUnref_givesBack udevUnref_givesBack)))))

lemma checkDriverInstallation_checked (own : Holding m d s) (device : UdevDevice) :
    wp (checkDriverInstallation (some device)) (Checked m d device.info.driverOutcome) s := by
  unfold checkDriverInstallation UdevInfo.driverOutcome
  rw [wp_bind, wp_expect]
  refine ⟨device, rfl, ?_⟩
  cases device.info.driver with
  | none => exact wp_pure.mpr ⟨rfl, own⟩
  | some driverName =>
    dsimp only [failIf]
    apply wp_ite
    · intro wrong
      apply own.wp_create
      intro e s₁ r
      exact r.mono fun _ hv => by rw [hv, if_pos wrong]
    · intro fine
      rw [wp_pure, if_neg fine]
      exact ⟨rfl, own⟩

/-- What the steps come to once the interface is found. -/
def UdevInfo.giOutcome (info : UdevInfo) (device : DeviceView) (syspath : String)
    (interfaceNumber : UInt8) (os : GenericInterfaceAnswers) : Except ErrorValue GenericInterfaceView := do
  info.driverOutcome
  let filename ← devnodeOutcome syspath os.devnodeContextCreated os.devnodeLookup
  existenceOutcome os.strerror filename os.access
  pure ⟨device, interfaceNumber, info.syspath, filename⟩

/-- The steps that check the found interface and assemble the new generic interface. -/
lemma genericInterfaceChecks_staged {l : GenericInterfaceVars} (own : Holding (m + l.others) d s)
    {newGi : Box Unit} (there : l.newGi = some newGi) {newDevice : Box Device}
    (copied : l.newDevice = some newDevice) {newDev : UdevDevice} (found : l.newDev = some newDev)
    {syspath : String} (path : text l.newDeviceSyspath = some syspath)
    (newSyspath : l.newInterfaceSyspath = none) (newFilename : l.newFilename = none)
    (out : l.gi = none) (device : Box Device) (interfaceNumber : UInt8)
    (os : GenericInterfaceAnswers) :
    wp (stages ((genericInterfaceSteps device interfaceNumber os).drop 5) l)
      (Staged (·.gi) GenericInterfaceVars.others m d
        ((newDev.info.giOutcome (content newDevice) syspath interfaceNumber os).map some)) s := by
  unfold UdevInfo.giOutcome
  apply Checked.stage
  · rw [found]
    exact checkDriverInstallation_checked own newDev
  · intro e s₁ r
    refine ⟨out, r.mono fun v hv => ?_⟩
    rw [hv]
    rfl
  intro s₁ fine own₁
  apply Ends.stageSome
  · rw [found]
    exact udevwGetSyspathCopy_ends own₁ newDev
  · intro e s₂ r
    refine ⟨out, (r.of_eq ?_).of_ok⟩
    simp only [GenericInterfaceVars.others, newSyspath]
  intro newInterfaceSyspath s₂ gotSyspath own₂
  apply Ends.stageSome
  · rw [path]
    exact udevwGetDevnodeCopyFromSyspath_ends own₂ syspath _ _
  · intro e s₃ r
    refine ⟨out, (r.of_eq ?_).mono fun v hv => ?_⟩
    · simp only [GenericInterfaceVars.others, newSyspath, newFilename, owned_some, owned_none]
      abel
    · rw [fine]
      show Except.map some (devnodeOutcome syspath _ _ >>= _) = _
      rw [hv]
      rfl
  intro newFilename' s₃ got own₃
  have others : m + l.others + owned newInterfaceSyspath + owned newFilename' =
      m + GenericInterfaceVars.others { l with
        newInterfaceSyspath := some newInterfaceSyspath, newFilename := some newFilename' } := by
    simp only [GenericInterfaceVars.others, newSyspath, newFilename, owned_some, owned_none]
    abel
  apply Checked.stage
  · exact usbfdCheckExistence_checked own₃ os.strerror newFilename'.val os.access
  · intro e s₄ r
    refine ⟨out, (r.of_eq others).mono fun v hv => ?_⟩
    rw [fine, got]
    show Except.map some (existenceOutcome os.strerror newFilename'.val os.access >>= _) = _
    rw [hv]
    rfl
  intro s₄ exists_ own₄
  apply wp_stages_cons
  simp only [GenericInterfaceVars.assemble, wp_bind, wp_expect]
  -- the variables that moved into the new generic interface are null afterwards
  refine ⟨newGi, there, ?_⟩
  simp only [wp_pure, wp_stages_nil]
  refine ⟨?_, own₄.of_eq ?_⟩
  · rw [fine, got]
    show Except.map some (existenceOutcome os.strerror newFilename'.val os.access >>= _) = _
    rw [exists_, show newDev.info.syspath = newInterfaceSyspath.val from Except.ok.inj gotSyspath,
      copied]
    rfl
  · rw [others]
    show _ = m + (({.heap newGi.addr}, 0) + (owned l.newDevice +
      owned (some newInterfaceSyspath) + owned (some newFilename'))) + _
    simp only [GenericInterfaceVars.others, there, owned_some, owned_none, owned_box, owned_unit]
    abel

/-- The steps end as they should, and their variables hold nothing but what is cleaned up. -/
lemma genericInterfaceSteps_staged (own : Holding m d s) {device : Box Device} {syspath : String}
    (built : text device.val.syspath = some syspath) (interfaceNumber : UInt8)
    (os : GenericInterfaceAnswers) :
    wp (stages (genericInterfaceSteps device interfaceNumber os) {})
      (Staged (·.gi) GenericInterfaceVars.others m d
        ((genericInterfaceStepsOutcome (content device) syspath interfaceNumber os).map some)) s := by
  unfold genericInterfaceSteps genericInterfaceStepsOutcome
  apply Ends.stageSome
  · exact allocate_ends own (by decide) rfl
  · intro e s₁ r
    exact ⟨rfl, (r.of_eq (by simp [GenericInterfaceVars.others])).of_ok⟩
  intro newGi s₁ _ own₁
  have copy : wp (deviceCopy (some device) true)
      (Ends (m + owned newGi) d (Except.map some (.ok (content device)))) s₁ := by
    refine deviceCopy_ends own₁ ?_
    rintro _ ⟨⟩
    show text device.val.syspath ≠ none
    rw [built]
    exact Option.some_ne_none _
  apply Ends.stageSome
  · exact copy
  · intro e s₂ r
    refine ⟨rfl, (r.of_eq ?_).of_ok⟩
    simp only [GenericInterfaceVars.others, owned_some, owned_none]
    abel
  intro newDevice s₂ copied own₂
  have same : content newDevice = content device := (Except.ok.inj copied).symm
  have built' : text newDevice.val.syspath = some syspath :=
    (congrArg DeviceView.syspath same).trans built
  apply Ends.stageSome
  · exact deviceGetOsId_ends own₂ built'
  · intro e s₃ r
    refine ⟨rfl, (r.of_eq ?_).of_ok⟩
    simp only [GenericInterfaceVars.others, owned_some, owned_none]
    abel
  intro newDeviceSyspath s₃ copied own₃
  have path : text (some newDeviceSyspath) = some syspath :=
    congrArg some (Except.ok.inj copied).symm
  apply Ends.stageSome
  · exact udevwCreateContext_ends own₃ os.contextCreated
  · intro e s₄ r
    refine ⟨rfl, (r.of_eq ?_).mono fun v hv => ?_⟩
    · simp only [GenericInterfaceVars.others, owned_some, owned_none]
      abel
    · rw [hv]
      rfl
  intro newUdev s₄ created own₄
  apply Ends.stageSome
  · rw [path]
    exact udevwGetInterface_ends own₄ newUdev syspath interfaceNumber os.usbList
  · intro e s₅ r
    refine ⟨rfl, (r.of_eq ?_).mono fun v hv => ?_⟩
    · simp only [GenericInterfaceVars.others, owned_some, owned_none]
      abel
    · rw [created, hv]
      rfl
  intro newDev s₅ found own₅
  rw [created, found, ← same]
  refine genericInterfaceChecks_staged (own₅.of_eq ?_) rfl rfl rfl path rfl rfl rfl device
    interfaceNumber os
  simp only [GenericInterfaceVars.others, owned_some, owned_none]
  abel

/-- `libusbp_generic_interface_create` gives what was found, or an error and nothing else. -/
lemma genericInterfaceCreate_ends (own : Holding m d s) {device : Box Device} {syspath : String}
    (built : text device.val.syspath = some syspath) (interfaceNumber : UInt8) (composite : Bool)
    (os : GenericInterfaceAnswers) :
    wp (genericInterfaceCreate (some device) interfaceNumber composite true os)
      (Ends m d ((genericInterfaceOutcome (content device) syspath interfaceNumber os).map some)) s :=
  Staged.withContext GenericInterfaceVars.cleanUp_givesBack
    (genericInterfaceSteps_staged own built interfaceNumber os)

lemma genericInterfaceFree_givesBack {gi : Option (Box GenericInterface)} :
    GivesBack (genericInterfaceFree gi) (owned gi) := by
  cases gi with
  | none => exact .nothing
  | some gi =>
    have fields : GivesBack (genericInterfaceFree (some gi)) (owned gi.val.device +
        (owned gi.val.syspath + (owned gi.val.filename +
          (({.heap gi.addr}, 0) : Holdings RefKind)))) :=
      .seq deviceFree_givesBack (.seq stringFree_givesBack (.seq stringFree_givesBack .freeBlock))
    apply fields.of_eq
    simp only [owned_some, owned_box]
    show _ = _ + (owned gi.val.device + owned gi.val.syspath + owned gi.val.filename)
    abel

/-- A generic interface that was built has a device with a syspath, a syspath and a filename. -/
def GenericInterfaceView.Built (v : GenericInterfaceView) : Prop :=
  (∃ dev, v.device = some dev ∧ dev.Built) ∧ v.syspath ≠ none ∧ v.filename ≠ none

/-- What the variables of a copy hold besides the copy. -/
def GenericInterfaceCopyVars.others (l : GenericInterfaceCopyVars) : Holdings RefKind :=
  owned l.newFilename + (owned l.newSyspath + (owned l.newDevice + owned l.newGi))

lemma genericInterfaceCopySteps_staged (own : Holding m d s) {source : GenericInterface}
    (built : (content source).Built) :
    wp (stages (genericInterfaceCopySteps source) {})
      (Staged (·.dest) GenericInterfaceCopyVars.others m d (Except.map some (.ok (content source)))) s := by
  obtain ⟨⟨dev, hdev, devBuilt⟩, hsyspath, hfilename⟩ := built
  obtain ⟨syspath, hsyspath⟩ := Option.ne_none_iff_exists'.mp hsyspath
  obtain ⟨filename, hfilename⟩ := Option.ne_none_iff_exists'.mp hfilename
  have hsyspath : text source.syspath = some syspath := hsyspath
  have hfilename : text source.filename = some filename := hfilename
  have hdev : source.device.map content = some dev := hdev
  unfold genericInterfaceCopySteps
  apply Ends.stageSome
  · exact allocate_ends own (by decide) rfl
  · intro e s₁ r
    exact ⟨rfl, (r.of_eq (by simp [GenericInterfaceCopyVars.others])).of_ok⟩
  intro newGi s₁ _ own₁
  apply Ends.stage
  · refine deviceCopy_ends own₁ ?_
    rintro src eq
    rw [eq] at hdev
    cases hdev
    exact devBuilt
  · intro e s₂ r
    refine ⟨rfl, (r.of_eq ?_).of_ok⟩
    simp only [GenericInterfaceCopyVars.others, owned_some, owned_none]
    abel
  intro newDevice s₂ gotDevice own₂
  apply Ends.stageSome
  · rw [hsyspath]
    exact stringCopy_ends own₂ syspath
  · intro e s₃ r
    refine ⟨rfl, (r.of_eq ?_).of_ok⟩
    simp only [GenericInterfaceCopyVars.others, owned_some, owned_none]
    abel
  intro newSyspath s₃ gotSyspath own₃
  apply Ends.stageSome
  · rw [hfilename]
    exact stringCopy_ends own₃ filename
  · intro e s₄ r
    refine ⟨rfl, (r.of_eq ?_).of_ok⟩
    simp only [GenericInterfaceCopyVars.others, owned_some, owned_none]
    abel
  intro newFilename s₄ gotFilename own₄
  apply wp_stages_cons
  simp only [GenericInterfaceCopyVars.assemble, wp_bind, wp_expect]
  refine ⟨newGi, rfl, ?_⟩
  simp only [wp_pure, wp_stages_nil]
  refine ⟨?_, own₄.of_eq ?_⟩
  · have content_source : content source = ⟨source.device.map content, source.interfaceNumber,
      text source.syspath, text source.filename⟩ := rfl
    rw [content_source, Except.ok.inj gotDevice, hsyspath, hfilename, Except.ok.inj gotSyspath,
      Except.ok.inj gotFilename]
    rfl
  · show _ = m + (({.heap newGi.addr}, 0) + (owned newDevice + owned (some newSyspath) +
      owned (some newFilename))) + _
    rw [owned_box (b := newGi)]
    simp only [GenericInterfaceCopyVars.others, owned_unit, owned_some, owned_none]
    abel

end Libusbp.Linux
