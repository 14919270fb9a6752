import Libusbp.ClientHoldings
import Libusbp.Windows.Constructors
import Libusbp.Windows.GenericHandle
import Libusbp.Windows.Listing
import Libusbp.Windows.SerialPort

/-!
# Clients on Windows

The functions of the Windows library keep what a client relies on under the conditions in `Admits`: a list
of devices loses a device if an append is denied memory, a list or a key stays open if a buffer is denied,
and the strings that are read from the registry have to end.
-/

namespace Libusbp.Windows

open Prog Host

instance : Owned (RefKind ⊕ HandleKind) Device := ⟨fun dev => owned dev.deviceInstanceId⟩

instance : Owned (RefKind ⊕ HandleKind) GenericInterface :=
  ⟨fun gi => owned gi.deviceInstanceId + owned gi.filename⟩

instance : Owned (RefKind ⊕ HandleKind) SerialPort :=
  ⟨fun port => owned port.deviceInstanceId + owned port.portName⟩

instance : Widened RefKind HandleKind Device := ⟨fun dev => owned_widen dev.deviceInstanceId⟩

instance : Widened RefKind HandleKind GenericInterface := ⟨fun gi => by
  show owned gi.deviceInstanceId + owned gi.filename = _
  rw [owned_widen gi.deviceInstanceId, owned_widen gi.filename]
  exact (Holdings.widen_add _ _).symm⟩

instance : Widened RefKind HandleKind SerialPort := ⟨fun port => by
  show owned port.deviceInstanceId + owned port.portName = _
  rw [owned_widen port.deviceInstanceId, owned_widen port.portName]
  exact (Holdings.widen_add _ _).symm⟩

/-- The answers of Windows. A serial port may take two attempts. -/
abbrev answers : Answers where
  Listing := Except UInt32 DevInfoList
  GenericInterface := GenericInterfaceAnswers
  SerialPort := SerialPortAnswers × SerialPortAnswers
  GenericHandle := HandleAnswers
  Timeout := PipePolicy → Option UInt32
  Control := ControlAnswer
  Pipe := WinUsbAnswer

/-- The handle that is passed to WinUSB, which is there in every handle that was opened. -/
def pipeHandle (handle : Box GenericHandle × Timeouts) : PipeHandle :=
  ⟨handle.1.val.winusbHandle.elim 0 (·.ref)⟩

/-- A transfer whose timeout is up to WinUSB. -/
def untimed {ρ : Type} (x : Prog Fault System (PipeReply ρ)) :
    Prog Fault System (Option Error × Option UInt32) := do
  let reply ← x
  pure (reply.error, none)

section

variable (formatMessage : UInt32 → String)

def transfer (handle : Option (Box GenericHandle × Timeouts)) :
    TransferCall answers → Prog Fault HandleSystem (Option Error × Option UInt32)
  | .control setup data transferred winUsb => among (untimed
    (controlTransfer formatMessage winUsb (handle.map pipeHandle) setup data transferred))
  | .read pipeId data size transferred winUsb => among (untimed
    (readPipe formatMessage winUsb (handle.map pipeHandle) pipeId data size transferred))
  | .write pipeId data size transferred winUsb => among (untimed
    (writePipe formatMessage winUsb (handle.map pipeHandle) pipeId data size transferred))

/-- The functions of `libusbp.h` on Windows. -/
def api : Api (RefKind ⊕ HandleKind) Device GenericInterface SerialPort GenericHandle answers where
  listConnectedDevices usbDevices deviceList deviceCount :=
    among (listConnectedDevices formatMessage deviceList deviceCount usbDevices)
  findDeviceWithVidPid usbDevices vendorId productId output :=
    among (findDeviceWithVidPid deviceFunctions (listConnectedDevices formatMessage true true usbDevices)
      vendorId productId output)
  deviceFree device := among (deviceFree device)
  deviceCopy source dest := among (deviceCopy source dest)
  deviceGetVendorId device output := among (deviceGetVendorId device output)
  deviceGetProductId device output := among (deviceGetProductId device output)
  deviceGetRevision device output := among (deviceGetRevision device output)
  deviceGetSerialNumber device output := among (deviceGetSerialNumber device output)
  deviceGetOsId device output := among (deviceGetOsId device output)
  genericInterfaceCreate os device interfaceNumber composite output :=
    among (genericInterfaceCreate formatMessage device interfaceNumber composite output os)
  genericInterfaceFree gi := among (genericInterfaceFree gi)
  genericInterfaceCopy source dest := among (genericInterfaceCopy source dest)
  genericInterfaceGetOsId gi output := among (genericInterfaceGetOsId gi output)
  genericInterfaceGetOsFilename gi output := among (genericInterfaceGetOsFilename gi output)
  serialPortCreate os device interfaceNumber composite output :=
    among (serialPortCreate formatMessage device interfaceNumber composite output os.1 os.2)
  serialPortFree port := among (serialPortFree port)
  serialPortCopy source dest := among (serialPortCopy source dest)
  serialPortGetName port output := among (serialPortGetName port output)
  genericHandleOpen os gi output := genericHandleOpen formatMessage gi output os
  genericHandleClose := genericHandleClose
  setTimeout setPipePolicy handle pipeId timeout := do
    let (error, _) ← among
      (genericHandleSetTimeout formatMessage setPipePolicy (handle.map pipeHandle) pipeId timeout)
    pure (error, none)
  transfer := transfer formatMessage

/-- The objects that were built by the functions of the library. -/
def validity : Validity Device GenericInterface SerialPort where
  device dev := (content dev).Built
  genericInterface gi := (content gi).Built
  serialPort port := (content port).Built

abbrev Client : Type :=
  ClientState (RefKind ⊕ HandleKind) Device GenericInterface SerialPort GenericHandle

/-- The port names end that the attempts to create a serial port read. -/
def namesEnd (device : Option (Box Device)) (interfaceNumber : UInt8) (composite : Bool)
    (os : SerialPortAnswers × SerialPortAnswers) : Prop :=
  ∀ dev ∈ device, ∀ id ∈ text dev.val.deviceInstanceId,
    os.1.nameEnds formatMessage id interfaceNumber composite = true ∧
    (composite = false → os.2.nameEnds formatMessage id 0 true = true)

instance decidableNamesEnd (device : Option (Box Device)) (interfaceNumber : UInt8) (composite : Bool)
    (os : SerialPortAnswers × SerialPortAnswers) :
    Decidable (namesEnd formatMessage device interfaceNumber composite os) :=
  inferInstanceAs (Decidable (∀ dev ∈ device, ∀ id ∈ text dev.val.deviceInstanceId, _))

/-- The calls under conditions are those that list devices, or create a generic interface or a serial
port. -/
def Admits (call : ClientCall answers) (c : Client) : Prop :=
  match call with
  | .listConnectedDevices deviceList deviceCount usbDevices =>
    listingAppendsGranted formatMessage deviceList deviceCount usbDevices c.host.inner = true
  | .make (.findDeviceWithVidPid _ _ true usbDevices) =>
    listingAppendsGranted formatMessage true true usbDevices c.host.inner = true
  | .make (.genericInterfaceCreate device interfaceNumber composite output os) =>
    createCloses formatMessage (c.arg Obj.device? device) interfaceNumber composite output os
      c.host.inner = true
  | .make (.serialPortCreate device interfaceNumber composite true os) =>
    namesEnd formatMessage (c.arg Obj.device? device) interfaceNumber composite os
  | _ => True

instance decidableAdmits :
    (call : ClientCall answers) → (c : Client) → Decidable (Admits formatMessage call c)
  | .listConnectedDevices deviceList deviceCount usbDevices, c => inferInstanceAs (Decidable
    (listingAppendsGranted formatMessage deviceList deviceCount usbDevices c.host.inner = true))
  | .make (.findDeviceWithVidPid _ _ true usbDevices), c => inferInstanceAs (Decidable
    (listingAppendsGranted formatMessage true true usbDevices c.host.inner = true))
  | .make (.genericInterfaceCreate device interfaceNumber composite output os), c =>
    inferInstanceAs (Decidable (createCloses formatMessage (c.arg Obj.device? device) interfaceNumber
      composite output os c.host.inner = true))
  | .make (.serialPortCreate device interfaceNumber composite true os), c =>
    inferInstanceAs (Decidable
      (namesEnd formatMessage (c.arg Obj.device? device) interfaceNumber composite os))
  | .make (.findDeviceWithVidPid _ _ false _), _ => .isTrue trivial
  | .make (.serialPortCreate _ _ _ false _), _ => .isTrue trivial
  | .make (.errorCopy _), _ => .isTrue trivial
  | .make (.deviceCopy _ _), _ => .isTrue trivial
  | .make (.deviceGetSerialNumber _ _), _ => .isTrue trivial
  | .make (.deviceGetOsId _ _), _ => .isTrue trivial
  | .make (.genericInterfaceCopy _ _), _ => .isTrue trivial
  | .make (.genericInterfaceGetOsId _ _), _ => .isTrue trivial
  | .make (.genericInterfaceGetOsFilename _ _), _ => .isTrue trivial
  | .make (.serialPortCopy _ _), _ => .isTrue trivial
  | .make (.serialPortGetName _ _), _ => .isTrue trivial
  | .ask _, _ => .isTrue trivial
  | .genericHandleOpen _ _ _, _ => .isTrue trivial
  | .setTimeout _ _ _ _, _ => .isTrue trivial
  | .transfer _ _, _ => .isTrue trivial
  | .genericHandleClose _, _ => .isTrue trivial
  | .dispose _, _ => .isTrue trivial
  | .disposeNull _, _ => .isTrue trivial

variable {formatMessage} {m : Holdings RefKind} {s : System}

lemma listConnectedDevices_listsOnly (own : s.Owns m) {deviceList deviceCount : Bool}
    {usbDevices : Except UInt32 DevInfoList}
    (granted : listingAppendsGranted formatMessage deviceList deviceCount usbDevices s = true) :
    wp (listConnectedDevices formatMessage deviceList deviceCount usbDevices)
      (ListsOnly (fun dev => (content dev).Built) m deviceCount) s := by
  apply wp_mono (listConnectedDevices_listsBut own formatMessage deviceList deviceCount usbDevices)
  intro r s' lists
  rw [granted] at lists
  exact lists.listsOnly

lemma findDevice_endsWith (own : s.Owns m) (vendorId productId : UInt16) {output : Bool}
    {usbDevices : Except UInt32 DevInfoList} (granted : output = true →
      listingAppendsGranted formatMessage true true usbDevices s = true) :
    wp (findDeviceWithVidPid deviceFunctions (listConnectedDevices formatMessage true true usbDevices)
      vendorId productId output) (EndsWith (fun dev => (content dev).Built) m) s := by
  cases output with
  | false => exact raise_endsWith own _
  | true =>
    exact findDeviceWithVidPid_endsWith deviceFunctions_reads own
      (listConnectedDevices_listsOnly own (granted rfl)) vendorId productId true

lemma deviceCopy_endsWith {source : Option (Box Device)} (own : s.Owns m)
    (built : ∀ src, source = some src → (content src).Built) (output : Bool) :
    wp (deviceCopy source output) (EndsWith (fun dev => (content dev).Built) m) s := by
  cases output with
  | false => exact raise_endsWith own _
  | true =>
    cases source with
    | none => exact nothing_endsWith own
    | some src =>
      apply wp_mono (deviceCopy_ends ⟨own, rfl⟩ (built src rfl))
      refine fun r s' ends => ends.endsWith fun dev copied => ?_
      have same : content src = content dev := Option.some.inj (Except.ok.inj copied)
      exact same ▸ built src rfl

lemma deviceGetSerialNumber_endsWith {device : Option (Box Device)} (own : s.Owns m)
    (built : ∀ dev, device = some dev → (content dev).Built) (output : Bool) :
    wp (deviceGetSerialNumber device output) (EndsWith (fun _ => True) m) s := by
  apply getString_endsWith own
  intro dev there
  obtain ⟨id, said⟩ := Option.ne_none_iff_exists'.mp (built dev there)
  have said : text dev.val.deviceInstanceId = some id := said
  simp only [said, expect, pure_bind]
  apply wp_ite
  · intro _
    simp only [wp_bind, wp_pure]
    apply Holding.wp_create ⟨own, rfl⟩
    intro e s₁ raised
    apply EndsWith.wp_addContext
    exact ⟨rfl, raised.sound, raised.owns⟩
  · intro _
    simp only [wp_bind, wp_pure]
    apply wp_mono (stringCopy_endsWith own (Option.some_ne_none (serialNumberOf id)))
    exact fun r s₁ ended => EndsWith.wp_addContext ended _

lemma deviceGetOsId_endsWith {device : Option (Box Device)} (own : s.Owns m)
    (built : ∀ dev, device = some dev → (content dev).Built) (output : Bool) :
    wp (deviceGetOsId device output) (EndsWith (fun _ => True) m) s :=
  getString_endsWith own fun dev there => stringCopy_endsWith own (built dev there)

lemma genericInterfaceCreate_endsWith {device : Option (Box Device)} (own : s.Owns m)
    (built : ∀ dev, device = some dev → (content dev).Built) {interfaceNumber : UInt8}
    {composite output : Bool} {os : GenericInterfaceAnswers}
    (closes : createCloses formatMessage device interfaceNumber composite output os s = true) :
    wp (genericInterfaceCreate formatMessage device interfaceNumber composite output os)
      (EndsWith (fun gi => (content gi).Built) m) s := by
  cases output with
  | false => exact raise_endsWith own _
  | true =>
    refine EndsWith.of_run (P := fun _ => True) ?_ fun gi s' run => genericInterfaceCreate_built run
    cases device with
    | none => exact raise_endsWith own _
    | some dev =>
      obtain ⟨id, said⟩ := Option.ne_none_iff_exists'.mp (built dev rfl)
      apply wp_mono (genericInterfaceCreate_ended own said closes)
      rintro r s' ⟨d, ended⟩
      exact ended.endsWith

lemma genericInterfaceCopy_endsWith {source : Option (Box GenericInterface)} (own : s.Owns m)
    (built : ∀ src, source = some src → (content src).Built) (output : Bool) :
    wp (genericInterfaceCopy source output) (EndsWith (fun gi => (content gi).Built) m) s := by
  cases output with
  | false => exact raise_endsWith own _
  | true =>
    cases source with
    | none => exact nothing_endsWith own
    | some src =>
      apply wp_mono (genericInterfaceCopy_ends ⟨own, rfl⟩ (built src rfl))
      refine fun r s' ends => ends.endsWith fun gi copied => ?_
      have same : content src = content gi := Option.some.inj (Except.ok.inj copied)
      exact same ▸ built src rfl

lemma genericInterfaceGetOsId_endsWith {gi : Option (Box GenericInterface)} (own : s.Owns m)
    (built : ∀ g, gi = some g → (content g).Built) (output : Bool) :
    wp (genericInterfaceGetOsId gi output) (EndsWith (fun _ => True) m) s :=
  getString_endsWith own fun g there => stringCopy_endsWith own (built g there).deviceInstanceId

lemma genericInterfaceGetOsFilename_endsWith {gi : Option (Box GenericInterface)} (own : s.Owns m)
    (built : ∀ g, gi = some g → (content g).Built) (output : Bool) :
    wp (genericInterfaceGetOsFilename gi output) (EndsWith (fun _ => True) m) s :=
  getString_endsWith own fun g there => stringCopy_endsWith own (built g there).filename

lemma serialPortCreate_endsWith {device : Option (Box Device)} (own : s.Owns m)
    (built : ∀ dev, device = some dev → (content dev).Built) {interfaceNumber : UInt8}
    {composite output : Bool} {os : SerialPortAnswers × SerialPortAnswers}
    (ends : output = true → namesEnd formatMessage device interfaceNumber composite os) :
    wp (serialPortCreate formatMessage device interfaceNumber composite output os.1 os.2)
      (EndsWith (fun port => (content port).Built) m) s := by
  cases output with
  | false => exact raise_endsWith own _
  | true =>
    cases device with
    | none => exact raise_endsWith own _
    | some dev =>
      obtain ⟨id, said⟩ := Option.ne_none_iff_exists'.mp (built dev rfl)
      obtain ⟨first, second⟩ := ends rfl dev rfl id said
      apply wp_mono (serialPortCreate_ended ⟨own, rfl⟩ said first second)
      rintro r s' ⟨d, ended⟩
      exact ended.endsWith

lemma serialPortCopy_endsWith {source : Option (Box SerialPort)} (own : s.Owns m)
    (built : ∀ src, source = some src → (content src).Built) (output : Bool) :
    wp (serialPortCopy source output) (EndsWith (fun port => (content port).Built) m) s := by
  cases output with
  | false => exact raise_endsWith own _
  | true =>
    cases source with
    | none => exact nothing_endsWith own
    | some src =>
      apply wp_mono (serialPortCopy_ends ⟨own, rfl⟩ (built src rfl))
      refine fun r s' ends => ends.endsWith fun port copied => ?_
      have same : content src = content port := Option.some.inj (Except.ok.inj copied)
      exact same ▸ built src rfl

lemma serialPortGetName_endsWith {port : Option (Box SerialPort)} (own : s.Owns m)
    (built : ∀ p, port = some p → (content p).Built) (output : Bool) :
    wp (serialPortGetName port output) (EndsWith (fun _ => True) m) s :=
  getString_endsWith own fun p there => stringCopy_endsWith own (built p there).portName

lemma genericHandleSetTimeout_replies (own : s.Owns m) (setPipePolicy : PipePolicy → Option UInt32)
    (handle : Option PipeHandle) (pipeId : UInt8) (timeout : UInt32) :
    wp (genericHandleSetTimeout formatMessage setPipePolicy handle pipeId timeout) (Replies m) s := by
  cases handle with
  | none => exact raise_replies own _ _
  | some gh =>
    simp only [genericHandleSetTimeout]
    cases setPipePolicy ⟨gh.winusbHandle, pipeId, timeout⟩ with
    | none => exact wp_pure.mpr (.quiet own _)
    | some errorCode =>
      simp only [wp_bind, wp_pure]
      apply wp_createWinapiError ⟨own, rfl⟩
      exact fun e s' raised => raised.replies _

/-- A transfer leaves its error, and no timeout. -/
lemma wp_untimed {ρ : Type} {x : Prog Fault System (PipeReply ρ)} (leaves : wp x (LeavesError m) s) :
    wp (untimed x) (Replies m) s := by
  simp only [untimed, wp_bind, wp_pure]
  exact wp_mono leaves fun _ _ left => ⟨left.sound, left.owns⟩

lemma controlTransfer_leavesError (own : s.Owns m) (winUsb : ControlAnswer) (handle : Option PipeHandle)
    (setup : SetupPacket) (data transferred : Bool) :
    wp (controlTransfer formatMessage winUsb handle setup data transferred) (LeavesError m) s := by
  cases handle with
  | none => exact refuse_leavesError own _ transferred
  | some gh =>
    apply wp_ite
    · exact fun _ => refuse_leavesError own _ transferred
    · intro _
      cases (winUsb ⟨gh.winusbHandle, setup, data⟩).1 with
      | none => exact wp_pure.mpr (.quiet own _)
      | some errorCode =>
        simp only [wp_bind, wp_pure]
        apply wp_createWinapiError ⟨own, rfl⟩
        exact fun e s' raised => raised.replies _

end

variable {formatMessage : UInt32 → String} {m : Holdings (RefKind ⊕ HandleKind)} {s : HandleSystem}

lemma make_endsWith {c : Client} (own : c.host.Owns m) {call : MakeCall answers}
    (admitted : Admits formatMessage (.make call) c)
    (valid : ∀ obj ∈ c.held, validity.Valid obj) :
    wp ((api formatMessage).make c call) (EndsWith validity.Valid m) c.host := by
  have inner := own.inner
  have device {i : Option Nat} (dev : Box Device) (passed : c.arg Obj.device? i = some dev) :=
    ClientState.arg_device valid passed
  have interface {i : Option Nat} (gi : Box GenericInterface)
      (passed : c.arg Obj.genericInterface? i = some gi) :=
    ClientState.arg_genericInterface valid passed
  have port {i : Option Nat} (port : Box SerialPort)
      (passed : c.arg Obj.serialPort? i = some port) := ClientState.arg_serialPort valid passed
  cases call with
  | errorCopy error =>
    exact errorCopy_endsWith own fun e passed => ClientState.arg_error valid passed
  | findDeviceWithVidPid vendorId productId output usbDevices =>
    refine wp_giving (EndsWith.among own (findDevice_endsWith inner _ _ fun outputs => ?_)) fun _ => id
    cases outputs
    exact admitted
  | deviceCopy i output =>
    exact wp_giving (EndsWith.among own (deviceCopy_endsWith inner device _)) fun _ => id
  | deviceGetSerialNumber i output =>
    exact wp_giving (EndsWith.among own (deviceGetSerialNumber_endsWith inner device _)) fun _ => id
  | deviceGetOsId i output =>
    exact wp_giving (EndsWith.among own (deviceGetOsId_endsWith inner device _)) fun _ => id
  | genericInterfaceCreate i interfaceNumber composite output os =>
    exact wp_giving (EndsWith.among own (genericInterfaceCreate_endsWith inner device admitted))
      fun _ => id
  | genericInterfaceCopy i output =>
    exact wp_giving (EndsWith.among own (genericInterfaceCopy_endsWith inner interface _)) fun _ => id
  | genericInterfaceGetOsId i output =>
    exact wp_giving (EndsWith.among own (genericInterfaceGetOsId_endsWith inner interface _))
      fun _ => id
  | genericInterfaceGetOsFilename i output =>
    exact wp_giving (EndsWith.among own (genericInterfaceGetOsFilename_endsWith inner interface _))
      fun _ => id
  | serialPortCreate i interfaceNumber composite output os =>
    refine wp_giving (EndsWith.among own (serialPortCreate_endsWith inner device
      fun outputs => ?_)) fun _ => id
    cases outputs
    exact admitted
  | serialPortCopy i output =>
    exact wp_giving (EndsWith.among own (serialPortCopy_endsWith inner port _)) fun _ => id
  | serialPortGetName i output =>
    exact wp_giving (EndsWith.among own (serialPortGetName_endsWith inner port _)) fun _ => id

lemma transfer_replies (own : s.Owns m) (handle : Option (Box GenericHandle × Timeouts))
    (call : TransferCall answers) : wp (transfer formatMessage handle call) (Replies m) s := by
  have inner : Holding (Holdings.inner m) s.denials s.inner := ⟨own.inner, rfl⟩
  cases call with
  | control setup data transferred winUsb =>
    exact Replies.among own
      (wp_untimed (controlTransfer_leavesError own.inner winUsb _ setup data transferred))
  | read pipeId data size transferred winUsb =>
    refine Replies.among own (wp_untimed ?_)
    cases handle with
    | none => exact refuse_leavesError own.inner _ transferred
    | some handle =>
      apply wp_mono ((readPipe_validates pipeId size data transferred).windows formatMessage winUsb
        (pipeHandle handle) _ _ _ inner)
      exact fun _ _ validated => validated.leavesError
  | write pipeId data size transferred winUsb =>
    refine Replies.among own (wp_untimed ?_)
    cases handle with
    | none => exact refuse_leavesError own.inner _ transferred
    | some handle =>
      apply wp_mono ((writePipe_validates pipeId size data transferred).windows formatMessage winUsb
        (pipeHandle handle) _ _ _ inner)
      exact fun _ _ validated => validated.leavesError

/-- The functions keep what a client relies on. -/
lemma api_keeps : (api formatMessage).Keeps validity (Admits formatMessage) where
  make m c call admitted valid own := make_endsWith own admitted valid
  ask m c call own := by
    cases call with
    | deviceGetVendorId i output => exact Replies.among own (getNumber_replies own.inner _ output)
    | deviceGetProductId i output => exact Replies.among own (getNumber_replies own.inner _ output)
    | deviceGetRevision i output => exact Replies.among own (getNumber_replies own.inner _ output)
  listConnectedDevices m c deviceList deviceCount usbDevices admitted own :=
    ListsOnly.among own (listConnectedDevices_listsOnly own.inner admitted)
  genericHandleOpen m c gi output os _ valid own := by
    apply wp_mono (genericHandleOpen_ends ⟨own, rfl⟩
      (fun g passed => ClientState.arg_genericInterface valid passed) output os)
    exact fun _ _ ends => ends.endsWith fun _ _ => trivial
  genericHandleClose handle := genericHandleClose_givesBack
  setTimeout m s handle pipeId timeout setPipePolicy own := by
    simp only [api, wp_bind, wp_pure]
    apply wp_mono (Replies.among own
      (genericHandleSetTimeout_replies own.inner setPipePolicy (handle.map pipeHandle) pipeId timeout))
    exact fun r s' replied => ⟨replied.sound, replied.owns⟩
  transfer m s handle call own := transfer_replies own handle call
  deviceFree device := .amongOwned deviceFree_givesBack
  genericInterfaceFree gi := .amongOwned genericInterfaceFree_givesBack
  serialPortFree port := .amongOwned serialPortFree_givesBack

/-- Whatever a client calls, in whatever order, and whatever requests for memory are denied, as long as
its calls meet their conditions: no call fails an assertion, dereferences a null pointer or reads behind
a buffer, and at any time the program holds what the objects and the handles in the hands of the client
own, each of which can be given back once. -/
theorem apiClient_balanced (grant : Nat → Bool) {calls : List (ClientCall answers)}
    (admitted : Machine.Along (api formatMessage).step (Admits formatMessage) calls (.start grant)) :
    wp (Machine.run (api formatMessage).step calls)
      (fun _ => Balanced (api formatMessage) validity) (.start grant) :=
  wp_mono (api_keeps.run grant admitted) fun _ _ k => k.balanced api_keeps

/-- A composite device on which an interface and a serial port are opened. -/
def session : List (ClientCall answers) :=
  let ids := "USB\\VID_1FFB&PID_00A0&REV_0100".toList.map fun c => UInt8.ofNat c.toNat
  let node (devInst : UInt32) (id : String) : DevInfo := {
    devInst
    instanceId := .ok id
    hardwareIds := ⟨some errorInsufficientBuffer, 32, .ok (regMultiSz, fun i => ids.getD i 0)⟩
    parent := .ok 7
    deviceId := .ok id }
  let list (devices : List DevInfo) (few : devices.length < 2 ^ 32) : Except UInt32 DevInfoList :=
    .ok ⟨devices, errorNoMoreItems, few⟩
  let device := list [node 7 "USB\\VID_1FFB&PID_00A0\\04000000"] (by decide)
  let interfaces := list [node 8 "USB\\VID_1FFB&PID_00A0&MI_00\\6&2A5C"] (by decide)
  let ports := list [node 9 "USB\\VID_1FFB&PID_00A0&MI_01\\6&2A5C"] (by decide)
  let answers : InterfaceAnswers := ⟨device, .ok 7, interfaces, ports, list [] (by decide)⟩
  let port : SerialPortAnswers := ⟨answers, fun _ => none,
    fun _ => .ok ⟨regSz, [67, 79, 77, 51, 0]⟩⟩
  [.listConnectedDevices true true device,
    .make (.deviceGetSerialNumber (some 1) true),
    .make (.genericInterfaceCreate (some 2) 0 true true ⟨answers, fun _ => .ok (regSz, "WinUSB"),
      fun s t => s.toLower = t, fun _ => ⟨none, .ok 80, .ok ⟨regMultiSz, [123, 0, 0, 0, 0, 0]⟩,
      fun _ => .ok 5⟩, fun _ => ⟨interfaces, none, some errorInsufficientBuffer, 60,
      .ok "\\\\?\\usb#vid_1ffb"⟩⟩),
    .make (.serialPortCreate (some 3) 1 true true (port, port)),
    .make (.serialPortGetName (some 0) true),
    .genericHandleOpen (some 2) true ⟨fun _ => none, none⟩,
    .dispose 2,
    .setTimeout (some 0) 0x82 100 fun _ => none,
    .transfer (some 0) (.read 0x82 true 64 true fun _ => (some errorGenFailure, 0))]

lemma session_admitted : Machine.Along (api fun _ => "").step (Admits fun _ => "") session
    (.start fun _ => true) := by
  decide +kernel

/-- The error of the transfer, the name, the port, the serial number, the list, the device and the handle
are left in the hands of the client. -/
theorem apiClient_balanced_example :
    wp (Machine.run (api fun _ => "").step session) (fun _ => Balanced (api fun _ => "") validity)
      (.start fun _ => true) :=
  apiClient_balanced _ session_admitted

end Libusbp.Windows
