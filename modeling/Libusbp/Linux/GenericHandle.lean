import Libusbp.Linux.GenericInterface

/-!
# Opening a generic handle on Linux

The functions of `generic_handle_linux.c` that open and close a handle. A handle owns a copy of its
device and an open descriptor of the device node.
-/

namespace Libusbp.Linux

open Prog Host

/-- `struct libusbp_generic_handle` without its timeouts. -/
structure GenericHandle where
  device : Option (Box Device)
  fd : Option FileDescriptor

def sizeofGenericHandle : Nat := 144

instance : Owned RefKind GenericHandle := ⟨fun handle => owned handle.device + owned handle.fd⟩

instance : Content GenericHandle (Option DeviceView) := ⟨fun handle => handle.device.map content⟩

/-- What the operating system answers to one `libusbp_generic_handle_open`. -/
structure HandleAnswers where
  opened : Option Int
  lseek : Option Int
  read : ReadAnswer
  strerror : Int → Option String

/-- The variables of `generic_handle_setup`. -/
structure HandleSetupVars where
  newHandle : Option (Box Unit) := none
  newDevice : Option (Box Device) := none
  newFilename : Option (Box String) := none
  newFd : Option FileDescriptor := none
  handle : Option (Box GenericHandle) := none

/-- The allocation of the handle. The test behind it looks at the output pointer, which is not null,
and not at the new handle. -/
def allocateHandle : Prog Fault System (Option Error × Option (Box Unit)) := do
  let newHandle ← newZeroed sizeofGenericHandle ()
  pure (none, newHandle)

/-- The assignments that assemble the handle. -/
def HandleSetupVars.assemble (l : HandleSetupVars) :
    Prog Fault System (Option Error × HandleSetupVars) := do
  let newHandle ← expect .nullPointer l.newHandle
  pure (none, { l with
    handle := some ⟨newHandle.addr, { device := l.newDevice, fd := l.newFd }⟩
    newFd := none
    newDevice := none
    newHandle := none })

/-- The steps of `generic_handle_setup` after the allocation of the handle. -/
def handleSetupSteps (gi : Box GenericInterface) (os : HandleAnswers) :
    List (HandleSetupVars → Prog Fault System (Option Error × HandleSetupVars)) := [
  into (fun _ => genericInterfaceGetDeviceCopy gi) fun l x => { l with newDevice := x },
  into (fun _ => genericInterfaceGetOsFilename gi true) fun l x => { l with newFilename := x },
  into (fun l => usbfdOpen os.strerror (text l.newFilename) os.opened)
    fun l x => { l with newFd := x },
  HandleSetupVars.assemble]

def HandleSetupVars.cleanUp (l : HandleSetupVars) : Prog Fault System Unit := do
  fileClose l.newFd
  stringFree l.newFilename
  deviceFree l.newDevice
  free l.newHandle

def genericHandleSetup (gi : Box GenericInterface) (os : HandleAnswers) :
    Prog Fault System (Option Error × Option (Box GenericHandle)) :=
  construct (into (fun _ => allocateHandle) (fun l x => { l with newHandle := x }) ::
      handleSetupSteps gi os)
    HandleSetupVars.cleanUp (·.handle) {}

/-- The variables of `check_device_descriptor`. -/
structure DescriptorVars where
  desc : DeviceDescriptor := default
  vendorId : UInt16 := 0
  productId : UInt16 := 0
  revision : UInt16 := 0

/-- A number of the descriptor against the same number of the device. -/
def checkMatch (what : String) (actual expected : UInt16) : Prog Fault System (Option Error) :=
  if actual ≠ expected then
    inHeap (errorCreate (what ++ " mismatch: 0x" ++ formatHex 4 actual.toNat ++ " != 0x" ++
      formatHex 4 expected.toNat ++ "."))
  else pure none

/-- The steps of `check_device_descriptor`. -/
def descriptorSteps (device : Option (Box Device)) (os : HandleAnswers) :
    List (DescriptorVars → Prog Fault System (Option Error × DescriptorVars)) := [
  into (fun _ => usbfdGetDeviceDescriptor os.strerror os.lseek os.read)
    fun l x => { l with desc := x },
  into (fun _ => deviceGetVendorId device true) fun l x => { l with vendorId := x },
  checking fun l => checkMatch "Vendor ID" l.desc.idVendor l.vendorId,
  into (fun _ => deviceGetProductId device true) fun l x => { l with productId := x },
  checking fun l => checkMatch "Product ID" l.desc.idProduct l.productId,
  into (fun _ => deviceGetRevision device true) fun l x => { l with revision := x },
  checking fun l => checkMatch "Device revision" l.desc.bcdDevice l.revision]

def checkDeviceDescriptor (handle : Option (Box GenericHandle)) (os : HandleAnswers) :
    Prog Fault System (Option Error) := do
  let handle ← expect .assertion handle
  let (error, _) ← stages (descriptorSteps handle.val.device os) {}
  pure error

def genericHandleClose (handle : Option (Box GenericHandle)) : Prog Fault System Unit :=
  match handle with
  | none => pure ()
  | some handle => do
    fileClose handle.val.fd
    deviceFree handle.val.device
    free (some handle)

/-- The variables of `libusbp_generic_handle_open`. -/
structure HandleVars where
  newHandle : Option (Box GenericHandle) := none
  handle : Option (Box GenericHandle) := none

def genericHandleOpen (gi : Option (Box GenericInterface)) (handle : Bool) (os : HandleAnswers) :
    Prog Fault System (Option Error × Option (Box GenericHandle)) :=
  if handle = false then do
    let error ← inHeap (errorCreate "Generic handle output pointer is null.")
    pure (error, none)
  else match gi with
    | none => do
      let error ← inHeap (errorCreate "Generic interface is null.")
      pure (error, none)
    | some gi =>
      construct [
          into (fun _ => genericHandleSetup gi os) fun l x => { l with newHandle := x },
          checking fun l => checkDeviceDescriptor l.newHandle os,
          fun l => pure (none, { handle := l.newHandle, newHandle := none })]
        (fun l => genericHandleClose l.newHandle) (·.handle) ({} : HandleVars)

/-- What a number of the descriptor against the same number of the device comes to. -/
def matchOutcome (what : String) (actual expected : UInt16) : Except ErrorValue Unit :=
  failIf (actual ≠ expected) (.ofText (what ++ " mismatch: 0x" ++ formatHex 4 actual.toNat ++
    " != 0x" ++ formatHex 4 expected.toNat ++ "."))

/-- What a descriptor against a device comes to. -/
def DeviceDescriptor.outcome (desc : DeviceDescriptor) (device : DeviceView) :
    Except ErrorValue Unit := do
  matchOutcome "Vendor ID" desc.idVendor device.vendorId
  matchOutcome "Product ID" desc.idProduct device.productId
  matchOutcome "Device revision" desc.bcdDevice device.revision

/-- The outcome of `check_device_descriptor` for a handle of the given device. -/
def checkOutcome (device : DeviceView) (os : HandleAnswers) : Except ErrorValue Unit := do
  let desc ← descriptorOutcome os.strerror os.lseek os.read
  desc.outcome device

/-- What the steps of `generic_handle_setup` after the allocation come to. -/
def setupOutcome (device : DeviceView) (filename : String) (os : HandleAnswers) :
    Except ErrorValue (Option DeviceView) := do
  openOutcome os.strerror filename os.opened
  pure (some device)

/-- The outcome of `libusbp_generic_handle_open` when the handle can be allocated. -/
def openHandleOutcome (device : DeviceView) (filename : String) (os : HandleAnswers) :
    Except ErrorValue (Option DeviceView) := do
  let handle ← setupOutcome device filename os
  checkOutcome device os
  pure handle

/-- The number of requests for memory of `generic_handle_setup` after the allocation of the handle. -/
def GenericInterface.setupRequests (gi : GenericInterface) : Nat :=
  gi.device.elim 0 (·.val.copyRequests) + 1

/-- The handle is there, or something that follows will fail. -/
def SetupFine (gi : GenericInterface) (os : HandleAnswers) (newHandle : Option (Box Unit))
    (h : Heap) : Prop :=
  newHandle ≠ none ∨ ¬h.Grants gi.setupRequests ∨ os.opened ≠ none

/-- What the variables of `generic_handle_setup` hold besides the handle. -/
def HandleSetupVars.others (l : HandleSetupVars) : Holdings RefKind :=
  owned l.newFd + (owned l.newFilename + (owned l.newDevice + owned l.newHandle))

variable {m : Holdings RefKind} {d : Nat} {s : System}

lemma HandleSetupVars.cleanUp_givesBack (l : HandleSetupVars) : GivesBack l.cleanUp l.others :=
  .seq fileClose_givesBack (.seq stringFree_givesBack (.seq deviceFree_givesBack .free))

lemma genericHandleClose_givesBack {handle : Option (Box GenericHandle)} :
    GivesBack (genericHandleClose handle) (owned handle) := by
  cases handle with
  | none => exact .nothing
  | some handle =>
    have fields : GivesBack (genericHandleClose (some handle)) (owned handle.val.fd +
        (owned handle.val.device + (({.heap handle.addr}, 0) : Holdings RefKind))) :=
      .seq fileClose_givesBack (.seq deviceFree_givesBack .freeBlock)
    apply fields.of_eq
    simp only [owned_some, owned_box]
    show _ = _ + (owned handle.val.device + owned handle.val.fd)
    abel

lemma getFilename_eq {gi : Box GenericInterface} {filename : String}
    (built : text gi.val.filename = some filename) :
    genericInterfaceGetOsFilename (some gi) true = stringCopy (some filename) := by
  cases hf : gi.val.filename with
  | none =>
    rw [hf] at built
    cases built
  | some b =>
    rw [← built]
    simp only [genericInterfaceGetOsFilename, getString, hf]
    rfl

/-- The steps after the allocation of the handle end as they should, unless they get to a handle that
is not there. -/
lemma handleSetupSteps_staged {gi : Box GenericInterface} {dev : DeviceView} {filename : String}
    (hdev : gi.val.device.map content = some dev) (devBuilt : dev.Built)
    (hfilename : text gi.val.filename = some filename) {os : HandleAnswers}
    {newHandle : Option (Box Unit)} (own : Holding (m + owned newHandle) d s)
    (fine : SetupFine gi.val os newHandle s.heap) :
    wp (stages (handleSetupSteps gi os) { newHandle })
      (Staged (·.handle) HandleSetupVars.others m d ((setupOutcome dev filename os).map some)) s := by
  obtain ⟨device, hdevice, hview⟩ := Option.map_eq_some_iff.mp hdev
  have copyDevice : genericInterfaceGetDeviceCopy gi = deviceCopy (some device) true := by
    rw [genericInterfaceGetDeviceCopy, hdevice]
  have copies : gi.val.setupRequests = device.val.copyRequests + 1 := by
    rw [GenericInterface.setupRequests, hdevice]
    rfl
  unfold handleSetupSteps setupOutcome
  apply Ends.stageRun
  · rw [copyDevice]
    refine deviceCopy_ends own ?_
    rintro _ ⟨⟩
    rw [hview]
    exact devBuilt
  · intro e s₁ r
    refine ⟨rfl, (r.of_eq ?_).of_ok⟩
    simp only [HandleSetupVars.others, owned_none]
    abel
  intro newDevice s₁ run₁ copied own₁
  apply Ends.stageRun
  · rw [getFilename_eq hfilename]
    exact stringCopy_ends own₁ filename
  · intro e s₂ r
    refine ⟨rfl, (r.of_eq ?_).of_ok⟩
    simp only [HandleSetupVars.others, owned_none]
    abel
  intro newFilename s₂ run₂ named own₂
  have path : text newFilename = some filename := (Except.ok.inj named).symm
  apply Ends.stageSome
  · rw [path]
    exact usbfdOpen_ends own₂ os.strerror filename os.opened
  · intro e s₃ r
    refine ⟨rfl, (r.of_eq ?_).mono fun v hv => ?_⟩
    · simp only [HandleSetupVars.others, owned_none]
      abel
    · rw [hv]
      rfl
  intro newFd s₃ opened own₃
  dsimp only
  cases newHandle with
  | none =>
    -- all requests were granted and the file was opened, which is what `fine` excludes
    exfalso
    rw [copyDevice] at run₁
    rw [getFilename_eq hfilename] at run₂
    obtain ⟨grants₁, after₁⟩ := deviceCopy_requests.ok run₁
    obtain ⟨grants₂, _⟩ := stringCopy_requests.ok run₂
    rcases fine with no | denied | failed
    · exact no rfl
    · rw [copies] at denied
      exact denied (after₁.grants_add.mpr ⟨grants₁, grants₂⟩)
    · obtain ⟨errno, herrno⟩ := Option.ne_none_iff_exists'.mp failed
      rw [herrno] at opened
      cases opened
  | some newHandle =>
    apply wp_stages_cons
    simp only [HandleSetupVars.assemble, wp_bind, wp_expect]
    refine ⟨newHandle, rfl, ?_⟩
    simp only [wp_pure, wp_stages_nil]
    refine ⟨?_, own₃.of_eq ?_⟩
    · have content_device : some dev = newDevice.map content := by
        rw [← hview]
        exact Except.ok.inj copied
      rw [opened]
      show _ = Except.ok (some (newDevice.map content))
      rw [← content_device]
      rfl
    · show _ = m + (({.heap newHandle.addr}, 0) + (owned newDevice + owned (some newFd))) + _
      rw [owned_some, owned_box (b := newHandle)]
      simp only [HandleSetupVars.others, owned_unit, owned_some, owned_none]
      abel

lemma checkMatch_checked (own : Holding m d s) (what : String) (actual expected : UInt16) :
    wp (checkMatch what actual expected) (Checked m d (matchOutcome what actual expected)) s := by
  unfold checkMatch matchOutcome failIf
  apply wp_ite
  · intro other
    rw [if_pos other]
    apply own.wp_create
    intro e s₁ r
    exact r.mono (by rintro _ rfl; rfl)
  · intro same
    rw [if_neg same, wp_pure]
    exact ⟨rfl, own⟩

lemma getNumber_gets {α : Type} (own : Holding m d s) (outputNull objectNull : String)
    (number : α → UInt16) (object : Box α) :
    wp (getNumber outputNull objectNull number (some object) true)
      (Gets m d (.ok (number object.val))) s := wp_pure.mpr ⟨rfl, own⟩

lemma checkDeviceDescriptor_checked (own : Holding m d s) {handle : Box GenericHandle}
    {device : Box Device} (hdevice : handle.val.device = some device) (os : HandleAnswers) :
    wp (checkDeviceDescriptor (some handle) os) (Checked m d (checkOutcome (content device) os)) s := by
  have steps : wp (stages (descriptorSteps (some device) os) {}) (fun r =>
      Checked m d (checkOutcome (content device) os) r.1) s := by
    unfold descriptorSteps checkOutcome
    apply Gets.stage
    · exact usbfdGetDeviceDescriptor_gets own _ _ _
    · intro e x s₁ r
      exact r.mono fun v hv => by rw [hv]; rfl
    intro desc s₁ got own₁
    rw [got]
    show wp _ (fun r : Option Error × DescriptorVars =>
      Checked m d (desc.outcome (content device)) r.1) s₁
    unfold DeviceDescriptor.outcome
    apply Gets.stage
    · exact getNumber_gets own₁ _ _ _ device
    · exact fun e x s₂ r => r.of_ok
    rintro _ s₂ ⟨⟩ own₂
    apply Checked.stage
    · exact checkMatch_checked own₂ _ _ _
    · intro e s₃ r
      exact r.mono fun v hv => error_bind hv
    intro s₃ vendor own₃
    apply Gets.stage
    · exact getNumber_gets own₃ _ _ _ device
    · exact fun e x s₄ r => r.of_ok
    rintro _ s₄ ⟨⟩ own₄
    apply Checked.stage
    · exact checkMatch_checked own₄ _ _ _
    · intro e s₅ r
      exact r.mono fun v hv => (ok_bind vendor).trans (error_bind hv)
    intro s₅ product own₅
    apply Gets.stage
    · exact getNumber_gets own₅ _ _ _ device
    · exact fun e x s₆ r => r.of_ok
    rintro _ s₆ ⟨⟩ own₆
    apply Checked.stage
    · exact checkMatch_checked own₆ _ _ _
    · intro e s₇ r
      exact r.mono fun v hv => (ok_bind vendor).trans ((ok_bind product).trans hv)
    intro s₇ revision own₇
    rw [wp_stages_nil]
    exact ⟨(ok_bind vendor).trans ((ok_bind product).trans revision), own₇⟩
  simp only [checkDeviceDescriptor, wp_bind, wp_expect]
  refine ⟨handle, rfl, ?_⟩
  rw [hdevice]
  simpa only [wp_pure] using steps

/-- The condition under which `libusbp_generic_handle_open` does not write through a null pointer: the
handle can be allocated, or else a later request for memory is denied or the file cannot be opened. -/
def OpensSafely (gi : GenericInterface) (os : HandleAnswers) (h : Heap) : Prop :=
  h.grant h.next = true ∨ (∃ i < gi.setupRequests, h.grant (h.next + 1 + i) = false) ∨
    os.opened ≠ none

/-- The next request decides about the handle. -/
lemma allocateHandle_spec (own : Holding m d s) :
    ∃ newHandle s₁, allocateHandle s = .ok ((none, newHandle), s₁) ∧
      Holding (m + owned newHandle) s₁.denials s₁ ∧ s.heap.After 1 s₁.heap ∧
      newHandle.isSome = s.heap.grant s.heap.next := by
  have owns : wp allocateHandle (fun r s₁ => r.1 = none ∧ s₁.Owns (m + owned r.2)) s := by
    simp only [allocateHandle, wp_bind, wp_pure]
    apply own.owns.wp_newZeroed (by decide) rfl
    · exact fun b s₁ _ own₁ _ => ⟨trivial, own₁⟩
    · exact fun s₁ own₁ _ => ⟨trivial, own₁.of_eq (add_zero m).symm⟩
  obtain ⟨⟨_, newHandle⟩, s₁, run, rfl, own₁⟩ := owns
  refine ⟨newHandle, s₁, run, ⟨own₁, rfl⟩, ?_⟩
  obtain ⟨b, s₂, made, run⟩ := bind_ok run
  cases run
  exact newZeroed_answered (by decide) made

lemma setupFine_iff {gi : GenericInterface} {os : HandleAnswers} {newHandle : Option (Box Unit)}
    {h h₁ : Heap} (after : h.After 1 h₁) (there : newHandle.isSome = h.grant h.next) :
    SetupFine gi os newHandle h₁ ↔ OpensSafely gi os h := by
  unfold SetupFine OpensSafely
  rw [← there, Option.isSome_iff_ne_none]
  simp only [Heap.Grants, after.grant, after.next, not_forall, Bool.not_eq_true, exists_prop]

/-- `generic_handle_setup` ends as it should if it does not write through a null pointer. -/
lemma genericHandleSetup_ends (own : Holding m d s) {gi : Box GenericInterface} {dev : DeviceView}
    {filename : String} (hdev : gi.val.device.map content = some dev) (devBuilt : dev.Built)
    (hfilename : text gi.val.filename = some filename) {os : HandleAnswers}
    (safe : OpensSafely gi.val os s.heap) :
    ∃ d', wp (genericHandleSetup gi os) (Ends m d' ((setupOutcome dev filename os).map some)) s := by
  obtain ⟨newHandle, s₁, run, own₁, after, there⟩ := allocateHandle_spec own
  refine ⟨s₁.denials, Staged.construct _ HandleSetupVars.cleanUp_givesBack ?_⟩
  apply wp_stages_into
  exact ⟨_, s₁, run, handleSetupSteps_staged hdev devBuilt hfilename own₁
    ((setupFine_iff after there).mpr safe)⟩

/-- The steps after the allocation get to a handle that is not there. -/
lemma handleSetupSteps_faults {gi : Box GenericInterface} {device : Box Device}
    (hdevice : gi.val.device = some device) {filename : String}
    (hfilename : text gi.val.filename = some filename) {os : HandleAnswers}
    (granted : s.heap.Grants gi.val.setupRequests) (opened : os.opened = none)
    (r : Option Error × HandleSetupVars) (s' : System) :
    stages (handleSetupSteps gi os) { newHandle := none } s ≠ .ok (r, s') := by
  have copies : gi.val.setupRequests = device.val.copyRequests + 1 := by
    rw [GenericInterface.setupRequests, hdevice]
    rfl
  intro run
  obtain ⟨e, x, -, run₁⟩ | ⟨newDevice, s₁, run₁, run⟩ := stages_into_ok run
  · rw [genericInterfaceGetDeviceCopy, hdevice] at run₁
    exact (deviceCopy_requests.error run₁).2 fun i lt => granted i (by omega)
  rw [genericInterfaceGetDeviceCopy, hdevice] at run₁
  obtain ⟨_, after⟩ := deviceCopy_requests.ok run₁
  rw [copies, after.grants_add] at granted
  obtain ⟨e, x, -, run₂⟩ | ⟨newFilename, s₂, run₂, run⟩ := stages_into_ok run
  · rw [getFilename_eq hfilename] at run₂
    exact (stringCopy_requests.error run₂).2 granted.2
  obtain ⟨e, x, -, run₃⟩ | ⟨newFd, s₃, run₃, run⟩ := stages_into_ok run
  · obtain ⟨_, _, _, run₃⟩ := bind_ok run₃
    rw [opened] at run₃
    cases run₃
  -- the assignment to the fields of the handle
  obtain ⟨e, l, -, run₄⟩ | ⟨l, s₄, run₄, -⟩ := stages_ok run
  · cases run₄
  · cases run₄

/-- Then the setup does not come back. -/
lemma genericHandleSetup_faults (own : Holding m d s) {gi : Box GenericInterface}
    {device : Box Device} (hdevice : gi.val.device = some device) {filename : String}
    (hfilename : text gi.val.filename = some filename) {os : HandleAnswers}
    (bad : ¬OpensSafely gi.val os s.heap) (r : Option Error × Option (Box GenericHandle))
    (s' : System) : genericHandleSetup gi os s ≠ .ok (r, s') := by
  intro run
  obtain ⟨newHandle, s₁, run₁, _, after, there⟩ := allocateHandle_spec own
  have bad : ¬SetupFine gi.val os newHandle s₁.heap := (setupFine_iff after there).not.mpr bad
  simp only [SetupFine, not_or, not_not] at bad
  obtain ⟨rfl, granted, opened⟩ := bad
  obtain ⟨r', t, run, _⟩ := bind_ok run
  obtain ⟨e, x, -, run₂⟩ | ⟨x, s₂, run₂, run⟩ := stages_into_ok run
  · rw [run₁] at run₂
    cases run₂
  · rw [run₁] at run₂
    cases run₂
    exact handleSetupSteps_faults hdevice hfilename granted opened r' t run

/-- `libusbp_generic_handle_open` ends as it should if it does not write through a null pointer. -/
lemma genericHandleOpen_ends (own : Holding m d s) {gi : Box GenericInterface} {dev : DeviceView}
    {filename : String} (hdev : gi.val.device.map content = some dev) (devBuilt : dev.Built)
    (hfilename : text gi.val.filename = some filename) {os : HandleAnswers}
    (safe : OpensSafely gi.val os s.heap) :
    ∃ d', wp (genericHandleOpen (some gi) true os)
      (Ends m d' ((openHandleOutcome dev filename os).map some)) s := by
  obtain ⟨d', setup⟩ := genericHandleSetup_ends own hdev devBuilt hfilename safe
  refine ⟨d', Staged.construct (fun l : HandleVars => owned l.newHandle)
    (fun _ => genericHandleClose_givesBack) ?_⟩
  unfold openHandleOutcome
  apply Ends.stageSome
  · exact setup
  · intro e s₁ r
    refine ⟨rfl, (r.of_eq (add_zero m).symm).mono fun v hv => ?_⟩
    rw [hv]
    rfl
  intro newHandle s₁ made own₁
  have hview : newHandle.val.device.map content = some dev := by
    unfold setupOutcome at made
    cases opened : openOutcome os.strerror filename os.opened with
    | error v =>
      rw [opened] at made
      cases made
    | ok u =>
      rw [opened] at made
      exact (Except.ok.inj made).symm
  obtain ⟨device, hdevice, rfl⟩ := Option.map_eq_some_iff.mp hview
  rw [made]
  apply Checked.stage
  · exact checkDeviceDescriptor_checked own₁ hdevice os
  · intro e s₂ r
    refine ⟨rfl, r.mono fun v hv => ?_⟩
    exact congrArg (Except.map some) (error_bind hv)
  intro s₂ checked own₂
  apply wp_stages_cons
  simp only [wp_pure, wp_stages_nil]
  refine ⟨?_, own₂.of_eq (by simp)⟩
  exact congrArg (Except.map some) (ok_bind checked)

/-- `libusbp_generic_handle_open` never dereferences a null pointer, returns a handle or an error, and
releases everything else exactly once, exactly if it can allocate the handle or fails later on. -/
theorem genericHandleOpen_releases_iff (own : s.Owns m) {gi : Box GenericInterface}
    (built : (content gi).Built) (os : HandleAnswers) :
    wp (genericHandleOpen (some gi) true os) (Releases m) s ↔ OpensSafely gi.val os s.heap := by
  have held : Holding m s.denials s := ⟨own, rfl⟩
  obtain ⟨⟨dev, hdev, devBuilt⟩, _, hfilename⟩ := built
  obtain ⟨filename, hfilename⟩ := Option.ne_none_iff_exists'.mp hfilename
  obtain ⟨device, hdevice, rfl⟩ := Option.map_eq_some_iff.mp hdev
  constructor
  · intro h
    by_contra bad
    obtain ⟨r, s', run, _⟩ := h
    obtain ⟨r', t, run, _⟩ := bind_ok run
    obtain ⟨e, x, -, run⟩ | ⟨x, s₁, run, _⟩ := stages_into_ok run
    · exact genericHandleSetup_faults held hdevice hfilename bad _ _ run
    · exact genericHandleSetup_faults held hdevice hfilename bad _ _ run
  · intro safe
    obtain ⟨d', ends⟩ := genericHandleOpen_ends held hdev devBuilt hfilename safe
    exact wp_mono ends fun _ _ h => h.releases

/-- The request for the copy of the device is denied. -/
theorem genericHandleOpen_releases_iff_example :
    let device : Box Device := ⟨8, ⟨some ⟨9, "/sys/devices/usb1/1-2"⟩, none, 0x1209, 0x1ffb, 0x0100⟩⟩
    let gi : Box GenericInterface := ⟨5, ⟨some device, 2,
      some ⟨6, "/sys/devices/usb1/1-2/1-2:1.2"⟩, some ⟨7, "/dev/bus/usb/001/002"⟩⟩⟩
    let os : HandleAnswers := ⟨none, none, .ok (18, ⟨0x1ffb, 0x1209, 0x0100⟩), fun _ => none⟩
    let s : System := ⟨⟨fun n => n != 1, 0, []⟩, 0, []⟩
    wp (genericHandleOpen (some gi) true os) (Releases 0) s ↔ OpensSafely gi.val os s.heap := by
  intro device gi os s
  have devBuilt : (content device).Built := Option.some_ne_none _
  have built : (content gi).Built :=
    ⟨⟨_, rfl, devBuilt⟩, Option.some_ne_none _, Option.some_ne_none _⟩
  exact genericHandleOpen_releases_iff (.empty _) built os

/-- The request for the handle is denied, and nothing else goes wrong. -/
theorem genericHandleOpen_nullPointer :
    let device : Box Device := ⟨8, ⟨some ⟨9, "/sys/devices/usb1/1-2"⟩, none, 0x1209, 0x1ffb, 0x0100⟩⟩
    let gi : Box GenericInterface := ⟨5, ⟨some device, 2,
      some ⟨6, "/sys/devices/usb1/1-2/1-2:1.2"⟩, some ⟨7, "/dev/bus/usb/001/002"⟩⟩⟩
    let os : HandleAnswers := ⟨none, none, .ok (18, ⟨0x1ffb, 0x1209, 0x0100⟩), fun _ => none⟩
    let s : System := ⟨⟨fun n => n != 0, 0, []⟩, 0, []⟩
    genericHandleOpen (some gi) true os s = .error .nullPointer ∧
      ¬wp (genericHandleOpen (some gi) true os) (Releases 0) s := by
  refine ⟨rfl, ?_⟩
  rintro ⟨r, s', run, _⟩
  cases run

end Libusbp.Linux
