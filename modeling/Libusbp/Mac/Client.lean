import Libusbp.ClientHoldings
import Libusbp.Mac.Copying
import Libusbp.Mac.GenericHandle
import Libusbp.Mac.Listing

/-!
# Clients on macOS

The functions of the macOS library keep what a client relies on under the conditions in `Admits`: a list
of devices loses a device if an append is denied memory, the ID of an interface that IOKit answers has to
be one of its own, and a serial port may have no name.
-/

namespace Libusbp.Mac

open Prog Host

instance : Owned (RefKind ⊕ ClientKind) Device := ⟨fun dev => owned dev.serialNumber⟩

instance : Owned (RefKind ⊕ ClientKind) GenericInterface := ⟨fun _ => 0⟩

instance : Owned (RefKind ⊕ ClientKind) SerialPort := ⟨fun port => owned port.portName⟩

instance : Widened RefKind ClientKind Device := ⟨fun dev => owned_widen dev.serialNumber⟩

instance : Widened RefKind ClientKind GenericInterface := ⟨fun _ => rfl⟩

instance : Widened RefKind ClientKind SerialPort := ⟨fun port => owned_widen port.portName⟩

/-- The answers of IOKit. -/
abbrev answers : Answers where
  Listing := ListingAnswers
  GenericInterface := GenericInterfaceAnswers
  SerialPort := SerialPortAnswers
  GenericHandle := HandleAnswers
  Timeout := Unit
  Control := ControlAnswer
  Pipe := PipeAnswer

/-- The tables of a handle as its transfers read them. -/
def pipeHandle (handle : Box OpenHandle × Timeouts) : PipeHandle where
  inTimeout := handle.2.inTimeout
  outTimeout := handle.2.outTimeout
  inPipeIndex := fun i => (handle.1.val.tables.inPipeIndex i).toUInt32
  outPipeIndex := fun i => (handle.1.val.tables.outPipeIndex i).toUInt32

section

variable (machErrorString : UInt32 → String)

def transfer (handle : Option (Box OpenHandle × Timeouts)) :
    TransferCall answers → Prog Fault HandleSystem (Option Error × Option UInt32)
  | .control setup data transferred controlRequestTO => among (sent (·.completionTimeout)
    (controlTransfer machErrorString controlRequestTO (handle.map pipeHandle) setup data transferred))
  | .read pipeId data size transferred readPipeTO => among (sent (·.completionTimeout)
    (readPipe machErrorString readPipeTO (handle.map pipeHandle) pipeId data size transferred))
  | .write pipeId data size transferred writePipeTO => among (sent (·.completionTimeout)
    (writePipe machErrorString writePipeTO (handle.map pipeHandle) pipeId data size transferred))

/-- The functions of `libusbp.h` on macOS. -/
def api : Api (RefKind ⊕ ClientKind) Device GenericInterface SerialPort OpenHandle answers where
  listConnectedDevices os deviceList deviceCount :=
    among (listConnectedDevices machErrorString deviceList deviceCount os)
  findDeviceWithVidPid os vendorId productId output :=
    among (findDeviceWithVidPid deviceFunctions (listConnectedDevices machErrorString true true os)
      vendorId productId output)
  deviceFree device := among (deviceFree device)
  deviceCopy source dest := among (deviceCopy source dest)
  deviceGetVendorId device output := among (deviceGetVendorId device output)
  deviceGetProductId device output := among (deviceGetProductId device output)
  deviceGetRevision device output := among (deviceGetRevision device output)
  deviceGetSerialNumber device output := among (deviceGetSerialNumber device output)
  deviceGetOsId device output := among (deviceGetOsId device output)
  genericInterfaceCreate os device interfaceNumber composite output :=
    among (genericInterfaceCreate machErrorString device interfaceNumber composite output os)
  genericInterfaceFree gi := among (genericInterfaceFree gi)
  genericInterfaceCopy source dest := among (genericInterfaceCopy source dest)
  genericInterfaceGetOsId gi output := among (genericInterfaceGetOsId gi output)
  genericInterfaceGetOsFilename gi output := among (genericInterfaceGetOsFilename gi output)
  serialPortCreate os device interfaceNumber composite output :=
    among (serialPortCreate machErrorString device interfaceNumber composite output os)
  serialPortFree port := among (serialPortFree port)
  serialPortCopy source dest := among (serialPortCopy source dest)
  serialPortGetName port output := among (serialPortGetName port output)
  genericHandleOpen os gi output := genericHandleOpen machErrorString gi output os
  genericHandleClose := genericHandleClose
  setTimeout _ handle pipeId timeout :=
    among (genericHandleSetTimeout (handle.map (·.2)) pipeId timeout)
  transfer := transfer machErrorString

/-- The functions take every object. -/
def validity : Validity Device GenericInterface SerialPort where
  device _ := True
  genericInterface _ := True
  serialPort _ := True

abbrev LibraryClient : Type :=
  ClientState (RefKind ⊕ ClientKind) Device GenericInterface SerialPort OpenHandle

/-- The ID of an interface is not 0 and not the ID of its device. -/
def OwnId (device : Box Device) (interfaceNumber : UInt8) (os : GenericInterfaceAnswers) : Prop :=
  ∀ id, interfaceIdOutcome machErrorString device.val.id interfaceNumber os = .ok id →
    id ≠ 0 ∧ id ≠ device.val.id

instance decidableOwnId (device : Box Device) (interfaceNumber : UInt8)
    (os : GenericInterfaceAnswers) : Decidable (OwnId machErrorString device interfaceNumber os) :=
  match eq : interfaceIdOutcome machErrorString device.val.id interfaceNumber os with
  | .error _ => .isTrue fun _ ok => by cases eq.symm.trans ok
  | .ok id => decidable_of_iff (id ≠ 0 ∧ id ≠ device.val.id)
    ⟨fun own _ ok => by cases eq.symm.trans ok; exact own, fun own => own id eq⟩

/-- The calls under conditions are those that list devices, create an interface of a composite device,
or copy the name of a serial port. -/
def Admits (call : ClientCall answers) (c : LibraryClient) : Prop :=
  match call with
  | .listConnectedDevices deviceList deviceCount os =>
    listingAppendsGranted machErrorString deviceList deviceCount os c.host.inner = true
  | .make (.findDeviceWithVidPid _ _ true os) =>
    listingAppendsGranted machErrorString true true os c.host.inner = true
  | .make (.genericInterfaceCreate device interfaceNumber true true os) =>
    ∀ dev ∈ c.arg Obj.device? device, OwnId machErrorString dev interfaceNumber os
  | .make (.serialPortCopy port true) =>
    ∀ source ∈ c.arg Obj.serialPort? port, c.host.heap.Grants 1 → source.val.portName ≠ none
  | .make (.serialPortGetName port true) =>
    ∀ source ∈ c.arg Obj.serialPort? port, source.val.portName ≠ none
  | _ => True

instance decidableAdmits :
    (call : ClientCall answers) → (c : LibraryClient) → Decidable (Admits machErrorString call c)
  | .listConnectedDevices deviceList deviceCount os, c => inferInstanceAs (Decidable
    (listingAppendsGranted machErrorString deviceList deviceCount os c.host.inner = true))
  | .make (.findDeviceWithVidPid _ _ true os), c => inferInstanceAs (Decidable
    (listingAppendsGranted machErrorString true true os c.host.inner = true))
  | .make (.genericInterfaceCreate device interfaceNumber true true os), c =>
    inferInstanceAs (Decidable
      (∀ dev ∈ c.arg Obj.device? device, OwnId machErrorString dev interfaceNumber os))
  | .make (.serialPortCopy port true), c => inferInstanceAs (Decidable
    (∀ source ∈ c.arg Obj.serialPort? port, c.host.heap.Grants 1 → source.val.portName ≠ none))
  | .make (.serialPortGetName port true), c => inferInstanceAs (Decidable
    (∀ source ∈ c.arg Obj.serialPort? port, source.val.portName ≠ none))
  | .make (.findDeviceWithVidPid _ _ false _), _ => .isTrue trivial
  | .make (.genericInterfaceCreate _ _ false _ _), _ => .isTrue trivial
  | .make (.genericInterfaceCreate _ _ true false _), _ => .isTrue trivial
  | .make (.serialPortCopy _ false), _ => .isTrue trivial
  | .make (.serialPortGetName _ false), _ => .isTrue trivial
  | .make (.errorCopy _), _ => .isTrue trivial
  | .make (.deviceCopy _ _), _ => .isTrue trivial
  | .make (.deviceGetSerialNumber _ _), _ => .isTrue trivial
  | .make (.deviceGetOsId _ _), _ => .isTrue trivial
  | .make (.genericInterfaceCopy _ _), _ => .isTrue trivial
  | .make (.genericInterfaceGetOsId _ _), _ => .isTrue trivial
  | .make (.genericInterfaceGetOsFilename _ _), _ => .isTrue trivial
  | .make (.serialPortCreate _ _ _ _ _), _ => .isTrue trivial
  | .ask _, _ => .isTrue trivial
  | .genericHandleOpen _ _ _, _ => .isTrue trivial
  | .setTimeout _ _ _ _, _ => .isTrue trivial
  | .transfer _ _, _ => .isTrue trivial
  | .genericHandleClose _, _ => .isTrue trivial
  | .dispose _, _ => .isTrue trivial
  | .disposeNull _, _ => .isTrue trivial

variable {machErrorString} {m : Holdings RefKind} {s : System}

lemma listConnectedDevices_listsOnly (own : s.Owns m) {deviceList deviceCount : Bool}
    {os : ListingAnswers}
    (granted : listingAppendsGranted machErrorString deviceList deviceCount os s = true) :
    wp (listConnectedDevices machErrorString deviceList deviceCount os)
      (ListsOnly (fun _ => True) m deviceCount) s := by
  apply wp_mono (listConnectedDevices_listsBut own machErrorString deviceList deviceCount os)
  intro r s' lists
  rw [granted] at lists
  exact lists.listsOnly

lemma findDevice_endsWith (own : s.Owns m) (vendorId productId : UInt16) {output : Bool}
    {os : ListingAnswers} (granted : output = true →
      listingAppendsGranted machErrorString true true os s = true) :
    wp (findDeviceWithVidPid deviceFunctions (listConnectedDevices machErrorString true true os)
      vendorId productId output) (EndsWith (fun _ => True) m) s := by
  cases output with
  | false => exact raise_endsWith own _
  | true =>
    exact findDeviceWithVidPid_endsWith deviceFunctions_reads own
      (listConnectedDevices_listsOnly own (granted rfl)) vendorId productId true

lemma deviceCopy_endsWith (own : s.Owns m) (source : Option (Box Device)) (output : Bool) :
    wp (deviceCopy source output) (EndsWith (fun _ => True) m) s := by
  cases output with
  | false => exact raise_endsWith own _
  | true =>
    cases source with
    | none => exact nothing_endsWith own
    | some src =>
      exact wp_mono (deviceCopy_ends ⟨own, rfl⟩ src) fun _ _ ends => ends.endsWith fun _ _ => trivial

lemma deviceGetSerialNumber_endsWith (own : s.Owns m) (device : Option (Box Device))
    (output : Bool) : wp (deviceGetSerialNumber device output) (EndsWith (fun _ => True) m) s := by
  apply getString_endsWith own
  intro dev _
  cases dev.val.serialNumber with
  | none => exact noSerialNumber_endsWith own _
  | some serialNumber => exact stringCopy_endsWith own (Option.some_ne_none _)

lemma deviceGetOsId_endsWith (own : s.Owns m) (device : Option (Box Device)) (output : Bool) :
    wp (deviceGetOsId device output) (EndsWith (fun _ => True) m) s :=
  getString_endsWith own fun _ _ => stringCopy_endsWith own (Option.some_ne_none _)

lemma genericInterfaceCreate_endsWith (own : s.Owns m) (device : Option (Box Device))
    (interfaceNumber : UInt8) {composite output : Bool} {os : GenericInterfaceAnswers}
    (distinct : composite = true → output = true →
      ∀ dev, device = some dev → OwnId machErrorString dev interfaceNumber os) :
    wp (genericInterfaceCreate machErrorString device interfaceNumber composite output os)
      (EndsWith (fun _ => True) m) s := by
  cases output with
  | false => exact raise_endsWith own _
  | true =>
    cases device with
    | none => exact raise_endsWith own _
    | some dev =>
      cases composite with
      | true =>
        apply wp_mono (genericInterfaceCreate_ends ⟨own, rfl⟩ machErrorString dev interfaceNumber true
          os (distinct rfl rfl dev rfl))
        exact fun _ _ ends => ends.endsWith fun _ _ => trivial
      | false =>
        -- the registry is not asked, whatever it would answer
        have unasked : genericInterfaceCreate machErrorString (some dev) interfaceNumber false true os =
          genericInterfaceCreate machErrorString (some dev) interfaceNumber false true
            ⟨⟨false, none⟩, .error 0⟩ := rfl
        rw [unasked]
        apply wp_mono (genericInterfaceCreate_ends ⟨own, rfl⟩ machErrorString dev interfaceNumber false
          _ (by rintro id ⟨⟩))
        exact fun _ _ ends => ends.endsWith fun _ _ => trivial

lemma genericInterfaceCopy_endsWith (own : s.Owns m) (source : Option (Box GenericInterface))
    (output : Bool) : wp (genericInterfaceCopy source output) (EndsWith (fun _ => True) m) s := by
  cases output with
  | false => exact raise_endsWith own _
  | true =>
    cases source with
    | none => exact nothing_endsWith own
    | some src =>
      apply wp_mono (genericInterfaceCopy_ends ⟨own, rfl⟩ src)
      exact fun _ _ ends => ends.endsWith fun _ _ => trivial

lemma genericInterfaceGetOsId_endsWith (own : s.Owns m) (gi : Option (Box GenericInterface))
    (output : Bool) : wp (genericInterfaceGetOsId gi output) (EndsWith (fun _ => True) m) s :=
  getString_endsWith own fun _ _ => stringCopy_endsWith own (Option.some_ne_none _)

lemma serialPortCreate_endsWith (own : s.Owns m) (device : Option (Box Device))
    (interfaceNumber : UInt8) (composite output : Bool) (os : SerialPortAnswers) :
    wp (serialPortCreate machErrorString device interfaceNumber composite output os)
      (EndsWith (fun _ => True) m) s := by
  cases output with
  | false => exact raise_endsWith own _
  | true =>
    cases device with
    | none => exact raise_endsWith own _
    | some dev =>
      apply wp_mono
        (serialPortCreate_ends ⟨own, rfl⟩ machErrorString dev interfaceNumber composite os)
      exact fun _ _ ends => ends.endsWith fun _ _ => trivial

lemma controlTransfer_leavesError (own : s.Owns m) (machErrorString : UInt32 → String)
    (controlRequestTO : ControlAnswer) (handle : Option PipeHandle) (setup : SetupPacket)
    (data transferred : Bool) :
    wp (controlTransfer machErrorString controlRequestTO handle setup data transferred)
      (LeavesError m) s := by
  cases handle with
  | none => exact refuse_leavesError own _ transferred
  | some handle =>
    unfold controlTransfer
    dsimp only
    apply wp_ite
    · intro _
      simp only [wp_bind, wp_pure]
      apply wp_createMachError ⟨own, rfl⟩
      exact fun e s' raised => raised.replies _
    · exact fun _ => wp_pure.mpr (.quiet own _)

lemma serialPortCopy_endsWith (own : s.Owns m) {source : Option (Box SerialPort)} {output : Bool}
    (named : output = true → ∀ src, source = some src → s.heap.Grants 1 → src.val.portName ≠ none) :
    wp (serialPortCopy source output) (EndsWith (fun _ => True) m) s := by
  cases output with
  | false => exact raise_endsWith own _
  | true =>
    cases source with
    | none => exact nothing_endsWith own
    | some src =>
      by_cases granted : s.heap.Grants 1
      · obtain ⟨portName, there⟩ := Option.ne_none_iff_exists'.mp (named rfl src rfl granted)
        have said : text src.val.portName = some portName.val := congrArg (Option.map Box.val) there
        apply wp_mono (serialPortCopy_ends ⟨own, rfl⟩ said)
        exact fun _ _ ends => ends.endsWith fun _ _ => trivial
      · apply wp_mono (serialPortCopy_denied ⟨own, rfl⟩ granted src)
        exact fun _ _ ends => ends.endsWith fun _ _ => trivial

lemma serialPortGetName_endsWith (own : s.Owns m) {port : Option (Box SerialPort)} {output : Bool}
    (named : output = true → ∀ p, port = some p → p.val.portName ≠ none) :
    wp (serialPortGetName port output) (EndsWith (fun _ => True) m) s := by
  cases output with
  | false => exact raise_endsWith own _
  | true =>
    apply getString_endsWith own
    intro p there
    apply stringCopy_endsWith own
    exact fun unnamed => named rfl p there (Option.map_eq_none_iff.mp unnamed)

end

variable {machErrorString : UInt32 → String} {m : Holdings (RefKind ⊕ ClientKind)} {s : HandleSystem}

lemma make_endsWith {c : LibraryClient} (own : c.host.Owns m) {call : MakeCall answers}
    (admitted : Admits machErrorString (.make call) c)
    (valid : ∀ obj ∈ c.held, validity.Valid obj) :
    wp ((api machErrorString).make c call) (EndsWith validity.Valid m) c.host := by
  have inner := own.inner
  cases call with
  | errorCopy error =>
    exact errorCopy_endsWith own fun e passed => ClientState.arg_error valid passed
  | findDeviceWithVidPid vendorId productId output os =>
    refine wp_giving (EndsWith.among own (findDevice_endsWith inner _ _ fun outputs => ?_)) fun _ => id
    cases outputs
    exact admitted
  | deviceCopy i output =>
    exact wp_giving (EndsWith.among own (deviceCopy_endsWith inner _ _)) fun _ => id
  | deviceGetSerialNumber i output =>
    exact wp_giving (EndsWith.among own (deviceGetSerialNumber_endsWith inner _ _)) fun _ => id
  | deviceGetOsId i output =>
    exact wp_giving (EndsWith.among own (deviceGetOsId_endsWith inner _ _)) fun _ => id
  | genericInterfaceCreate i interfaceNumber composite output os =>
    refine wp_giving (EndsWith.among own (genericInterfaceCreate_endsWith inner _ _
      fun isComposite outputs => ?_)) fun _ => id
    cases isComposite
    cases outputs
    exact admitted
  | genericInterfaceCopy i output =>
    exact wp_giving (EndsWith.among own (genericInterfaceCopy_endsWith inner _ _)) fun _ => id
  | genericInterfaceGetOsId i output =>
    exact wp_giving (EndsWith.among own (genericInterfaceGetOsId_endsWith inner _ _)) fun _ => id
  | genericInterfaceGetOsFilename i output =>
    exact wp_giving (EndsWith.among own (genericInterfaceGetOsId_endsWith inner _ _)) fun _ => id
  | serialPortCreate i interfaceNumber composite output os =>
    exact wp_giving (EndsWith.among own (serialPortCreate_endsWith inner _ _ _ _ _)) fun _ => id
  | serialPortCopy i output =>
    refine wp_giving (EndsWith.among own (serialPortCopy_endsWith inner fun outputs => ?_)) fun _ => id
    cases outputs
    exact admitted
  | serialPortGetName i output =>
    refine wp_giving (EndsWith.among own (serialPortGetName_endsWith inner fun outputs => ?_))
      fun _ => id
    cases outputs
    exact admitted

lemma transfer_replies (own : s.Owns m) (handle : Option (Box OpenHandle × Timeouts))
    (call : TransferCall answers) : wp (transfer machErrorString handle call) (Replies m) s := by
  have inner : Holding (Holdings.inner m) s.denials s.inner := ⟨own.inner, rfl⟩
  cases call with
  | control setup data transferred os =>
    exact Replies.among own
      (wp_sent (controlTransfer_leavesError own.inner machErrorString os _ setup data transferred))
  | read pipeId data size transferred os =>
    refine Replies.among own (wp_sent ?_)
    cases handle with
    | none => exact refuse_leavesError own.inner _ transferred
    | some handle =>
      apply wp_mono ((readPipe_validates pipeId size data transferred).mac machErrorString os _ _ _ _
        inner)
      exact fun _ _ validated => validated.leavesError
  | write pipeId data size transferred os =>
    refine Replies.among own (wp_sent ?_)
    cases handle with
    | none => exact refuse_leavesError own.inner _ transferred
    | some handle =>
      apply wp_mono ((writePipe_validates pipeId size data transferred).mac machErrorString os _ _ _ _
        inner)
      exact fun _ _ validated => validated.leavesError

/-- The functions keep what a client relies on. -/
lemma api_keeps : (api machErrorString).Keeps validity (Admits machErrorString) where
  make m c call admitted valid own := make_endsWith own admitted valid
  ask m c call own := by
    cases call with
    | deviceGetVendorId i output => exact Replies.among own (getNumber_replies own.inner _ output)
    | deviceGetProductId i output => exact Replies.among own (getNumber_replies own.inner _ output)
    | deviceGetRevision i output => exact Replies.among own (getNumber_replies own.inner _ output)
  listConnectedDevices m c deviceList deviceCount os admitted own :=
    ListsOnly.among own (listConnectedDevices_listsOnly own.inner admitted)
  genericHandleOpen m c gi output os _ _ own := by
    apply wp_mono (genericHandleOpen_ends ⟨own, rfl⟩ _ output os)
    exact fun _ _ ends => ends.endsWith fun _ _ => trivial
  genericHandleClose handle := genericHandleClose_givesBack
  setTimeout m s handle pipeId timeout os own :=
    Replies.among own (setTimeout_replies own.inner _ pipeId timeout)
  transfer m s handle call own := transfer_replies own handle call
  deviceFree device := .amongOwned deviceFree_givesBack
  genericInterfaceFree gi := .amongOwned genericInterfaceFree_givesBack
  serialPortFree port := .amongOwned serialPortFree_givesBack

/-- They set and use the timeouts of a handle. -/
lemma api_times : (api machErrorString).Times where
  setTimeout handle timeouts pipeId timeout os := (setTimeout_yields timeouts pipeId timeout).zoom
  transfer handle timeouts call := by
    cases call with
    | control setup data transferred os =>
      exact (sent_uses (controlTransfer_passes machErrorString timeouts _ _ data os setup)).zoom
    | read pipeId data size transferred os =>
      exact (sent_uses (readPipe_passes machErrorString timeouts _ _ pipeId data size os)).zoom
    | write pipeId data size transferred os =>
      exact (sent_uses (writePipe_passes machErrorString timeouts _ _ pipeId data size os)).zoom

/-- Whatever a client calls, in whatever order, and whatever requests for memory are denied, as long as
its calls meet their conditions: no call fails an assertion or dereferences a null pointer, and at any
time the program holds what the objects and the handles in the hands of the client own, each of which
can be given back once. -/
theorem libraryClient_balanced (grant : Nat → Bool) {calls : List (ClientCall answers)}
    (admitted : Machine.Along (api machErrorString).step (Admits machErrorString) calls
      (.start grant)) :
    wp (Machine.run (api machErrorString).step calls)
      (fun _ => Balanced (api machErrorString) validity) (.start grant) :=
  wp_mono (api_keeps.run grant admitted) fun _ _ k => k.balanced api_keeps

/-- A composite device on which an interface and a serial port are opened. -/
def session : List (ClientCall answers) :=
  let device : RegistryEntry := {
    conformsTo := fun _ => false
    property := fun name =>
      if name = kUSBVendorID then some (.number 0x1ffb true)
      else if name = kUSBProductID then some (.number 0xa0 true)
      else if name = kUSBDeviceReleaseNumber then some (.number 0x100 true) else none
    entryId := .ok 77 }
  let interface : RegistryEntry := {
    conformsTo := fun name => name = kIOUSBInterfaceClassName ∨ name = kIOUSBHostInterfaceClassName
    property := fun name => if name = "bInterfaceNumber" then some (.number 0 true) else none
    entryId := .ok 78 }
  let port : RegistryEntry := {
    conformsTo := fun name => name = kIOSerialBSDServiceValue
    property := fun name =>
      if name = kIOCalloutDeviceKey then some (.string (some "/dev/cu.usb")) else none
    entryId := .ok 79 }
  [.listConnectedDevices true true ⟨true, .ok [device]⟩,
    .make (.genericInterfaceCreate (some 1) 0 true true ⟨⟨true, some device⟩, .ok [interface]⟩),
    .make (.serialPortCreate (some 2) 0 true true ⟨⟨true, some device⟩, .ok [interface, port]⟩),
    .make (.serialPortGetName (some 0) true),
    .genericHandleOpen (some 2) true ⟨⟨true, some interface⟩, ⟨true, some device⟩,
      ⟨⟨0, 0⟩, .ok 1, 0, 0⟩, .ok [interface], ⟨0, 0⟩, 0,
      ⟨.ok 1, fun _ => .ok ⟨kUSBIn, 2, 2, 64, 0⟩⟩, .ok 9⟩,
    .dispose 2,
    .setTimeout (some 0) 0x82 100 (),
    .transfer (some 0) (.read 0x82 true 64 true fun _ => (kernSuccess, 64))]

lemma session_admitted : Machine.Along (api fun _ => "").step (Admits fun _ => "") session
    (.start fun _ => true) := by
  decide +kernel

/-- The name, the port, the list, the device and the handle are left in the hands of the client. -/
theorem libraryClient_balanced_example :
    wp (Machine.run (api fun _ => "").step session) (fun _ => Balanced (api fun _ => "") validity)
      (.start fun _ => true) :=
  libraryClient_balanced _ session_admitted

end Libusbp.Mac
