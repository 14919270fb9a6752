import Libusbp.ClientHoldings
import Libusbp.Linux.Constructors
import Libusbp.Linux.Copying
import Libusbp.Linux.GenericHandle

/-!
# Clients on Linux

Every function of the Linux library keeps what a client relies on, with one exception: a generic handle
is only opened safely under the condition `OpensSafely`.
-/

namespace Libusbp.Linux

open Prog Host

/-- The answers of libudev and of the kernel. -/
abbrev answers : Answers where
  Listing := Bool × EnumerateAnswers
  GenericInterface := GenericInterfaceAnswers
  SerialPort := SerialPortAnswers
  GenericHandle := HandleAnswers
  Timeout := Unit
  Control := (Int → Option String) × ControlAnswer
  Pipe := (Int → Option String) × BulkAnswer

/-- The tables of a handle as its transfers read them. -/
def pipeHandle (timeouts : Timeouts) : PipeHandle := ⟨timeouts.inTimeout, timeouts.outTimeout⟩

def transfer (handle : Option (Box GenericHandle × Timeouts)) :
    TransferCall answers → Prog Fault System (Option Error × Option UInt32)
  | .control setup data transferred os => sent (·.timeout)
    (controlTransfer os.1 os.2 (handle.map (pipeHandle ·.2)) setup data transferred)
  | .read pipeId data size transferred os => sent (·.timeout)
    (readPipe os.1 os.2 (handle.map (pipeHandle ·.2)) pipeId data size transferred)
  | .write pipeId data size transferred os => sent (·.timeout)
    (writePipe os.1 os.2 (handle.map (pipeHandle ·.2)) pipeId data size transferred)

/-- The functions of `libusbp.h` on Linux. -/
def api : Api RefKind Device GenericInterface SerialPort GenericHandle answers where
  listConnectedDevices os deviceList deviceCount :=
    listConnectedDevices deviceList deviceCount os.1 os.2
  findDeviceWithVidPid os :=
    findDeviceWithVidPid deviceFunctions (listConnectedDevices true true os.1 os.2)
  deviceFree := deviceFree
  deviceCopy := deviceCopy
  deviceGetVendorId := deviceGetVendorId
  deviceGetProductId := deviceGetProductId
  deviceGetRevision := deviceGetRevision
  deviceGetSerialNumber := deviceGetSerialNumber
  deviceGetOsId := deviceGetOsId
  genericInterfaceCreate os device interfaceNumber composite output :=
    genericInterfaceCreate device interfaceNumber composite output os
  genericInterfaceFree := genericInterfaceFree
  genericInterfaceCopy := genericInterfaceCopy
  genericInterfaceGetOsId := genericInterfaceGetOsId
  genericInterfaceGetOsFilename := genericInterfaceGetOsFilename
  serialPortCreate os device interfaceNumber composite output :=
    serialPortCreate device interfaceNumber composite output os
  serialPortFree := serialPortFree
  serialPortCopy := serialPortCopy
  serialPortGetName := serialPortGetName
  genericHandleOpen os gi output := genericHandleOpen gi output os
  genericHandleClose := genericHandleClose
  setTimeout _ handle := genericHandleSetTimeout (handle.map (·.2))
  transfer := transfer

/-- The objects that were built by the functions of the library. -/
def validity : Validity Device GenericInterface SerialPort where
  device dev := (content dev).Built
  genericInterface gi := (content gi).Built
  serialPort port := (content port).Built

abbrev Client : Type := ClientState RefKind Device GenericInterface SerialPort GenericHandle

/-- Every call is admitted but one that opens a handle through a null pointer. -/
def Admits (call : ClientCall answers) (c : Client) : Prop :=
  match call with
  | .genericHandleOpen gi true os =>
    ∀ interface ∈ c.arg Obj.genericInterface? gi, OpensSafely interface.val os c.host.heap
  | _ => True

instance decidableOpensSafely (gi : GenericInterface) (os : HandleAnswers) (h : Heap) :
    Decidable (OpensSafely gi os h) :=
  inferInstanceAs (Decidable (h.grant h.next = true ∨
    (∃ i < gi.setupRequests, h.grant (h.next + 1 + i) = false) ∨ os.opened ≠ none))

instance decidableAdmits : (call : ClientCall answers) → (c : Client) → Decidable (Admits call c)
  | .genericHandleOpen gi true os, c => inferInstanceAs (Decidable
    (∀ interface ∈ c.arg Obj.genericInterface? gi, OpensSafely interface.val os c.host.heap))
  | .genericHandleOpen _ false _, _ => .isTrue trivial
  | .make _, _ => .isTrue trivial
  | .ask _, _ => .isTrue trivial
  | .listConnectedDevices _ _ _, _ => .isTrue trivial
  | .setTimeout _ _ _ _, _ => .isTrue trivial
  | .transfer _ _, _ => .isTrue trivial
  | .genericHandleClose _, _ => .isTrue trivial
  | .dispose _, _ => .isTrue trivial
  | .disposeNull _, _ => .isTrue trivial

variable {m : Holdings RefKind} {s : System}

lemma text_of_ne {string : Option (Box String)} (there : text string ≠ none) :
    ∃ t, text string = some t := Option.ne_none_iff_exists'.mp there

lemma deviceCopy_endsWith {source : Option (Box Device)} (own : s.Owns m)
    (built : ∀ src, source = some src → (content src).Built) (output : Bool) :
    wp (deviceCopy source output) (EndsWith (fun dev => (content dev).Built) m) s := by
  cases output with
  | false => exact raise_endsWith own _
  | true =>
    apply wp_mono (deviceCopy_ends ⟨own, rfl⟩ built)
    refine fun r s' ends => ends.endsWith fun dev copied => ?_
    obtain ⟨src, there, same⟩ := Option.map_eq_some_iff.mp (Except.ok.inj copied)
    exact same ▸ built src there

lemma deviceGetSerialNumber_endsWith (own : s.Owns m) (device : Option (Box Device))
    (output : Bool) : wp (deviceGetSerialNumber device output) (EndsWith (fun _ => True) m) s := by
  apply getString_endsWith own
  intro dev _
  cases dev.val.serialNumber with
  | none => exact noSerialNumber_endsWith own _
  | some serialNumber => exact stringCopy_endsWith own (Option.some_ne_none _)

lemma deviceGetOsId_endsWith {device : Option (Box Device)} (own : s.Owns m)
    (built : ∀ dev, device = some dev → (content dev).Built) (output : Bool) :
    wp (deviceGetOsId device output) (EndsWith (fun _ => True) m) s :=
  getString_endsWith own fun dev there => stringCopy_endsWith own (built dev there)

lemma genericInterfaceCreate_endsWith {device : Option (Box Device)} (own : s.Owns m)
    (built : ∀ dev, device = some dev → (content dev).Built) (interfaceNumber : UInt8)
    (composite output : Bool) (os : GenericInterfaceAnswers) :
    wp (genericInterfaceCreate device interfaceNumber composite output os)
      (EndsWith (fun gi => (content gi).Built) m) s := by
  cases output with
  | false => exact raise_endsWith own _
  | true =>
    refine EndsWith.of_run (P := fun _ => True) ?_ fun gi s' run => genericInterfaceCreate_built run
    cases device with
    | none => exact raise_endsWith own _
    | some dev =>
      obtain ⟨syspath, there⟩ := text_of_ne (built dev rfl)
      apply wp_mono (genericInterfaceCreate_ends ⟨own, rfl⟩ there interfaceNumber composite os)
      exact fun r s' ends => ends.endsWith fun _ _ => trivial

lemma genericInterfaceCopy_endsWith {source : Option (Box GenericInterface)} (own : s.Owns m)
    (built : ∀ src, source = some src → (content src).Built) (output : Bool) :
    wp (genericInterfaceCopy source output) (EndsWith (fun gi => (content gi).Built) m) s := by
  cases output with
  | false => exact raise_endsWith own _
  | true =>
    cases source with
    | none => exact nothing_endsWith own
    | some src =>
      apply wp_mono (genericInterfaceCopy_returns ⟨own, rfl⟩ (built src rfl))
      rintro ⟨_ | e, _ | copy⟩ s' returns
      · exact ⟨by rintro _ ⟨⟩, returns.2.of_eq (add_zero m).symm⟩
      · refine ⟨?_, returns.2.2.owns⟩
        rintro _ ⟨⟩
        exact returns.2.1 ▸ built src rfl
      · exact returns.elim
      · exact returns.elim

lemma genericInterfaceGetOsId_endsWith {gi : Option (Box GenericInterface)} (own : s.Owns m)
    (built : ∀ g, gi = some g → (content g).Built) (output : Bool) :
    wp (genericInterfaceGetOsId gi output) (EndsWith (fun _ => True) m) s := by
  apply getString_endsWith own
  intro g there
  obtain ⟨t, said⟩ := text_of_ne (built g there).2.1
  simp only [wp_bind, wp_check]
  exact ⟨isSome_of_text said, stringCopy_endsWith own (built g there).2.1⟩

lemma genericInterfaceGetOsFilename_endsWith {gi : Option (Box GenericInterface)} (own : s.Owns m)
    (built : ∀ g, gi = some g → (content g).Built) (output : Bool) :
    wp (genericInterfaceGetOsFilename gi output) (EndsWith (fun _ => True) m) s := by
  apply getString_endsWith own
  intro g there
  obtain ⟨t, said⟩ := text_of_ne (built g there).2.2
  simp only [wp_bind, wp_check]
  exact ⟨isSome_of_text said, stringCopy_endsWith own (built g there).2.2⟩

lemma serialPortCreate_endsWith {device : Option (Box Device)} (own : s.Owns m)
    (built : ∀ dev, device = some dev → (content dev).Built) (interfaceNumber : UInt8)
    (composite output : Bool) (os : SerialPortAnswers) :
    wp (serialPortCreate device interfaceNumber composite output os)
      (EndsWith (fun port => (content port).Built) m) s := by
  cases output with
  | false => exact raise_endsWith own _
  | true =>
    refine EndsWith.of_run (P := fun _ => True) ?_ fun port s' run => serialPortCreate_built run
    cases device with
    | none => exact raise_endsWith own _
    | some dev =>
      obtain ⟨syspath, there⟩ := text_of_ne (built dev rfl)
      apply wp_mono (serialPortCreate_ends ⟨own, rfl⟩ there interfaceNumber composite os)
      exact fun r s' ends => ends.endsWith fun _ _ => trivial

lemma serialPortCopy_endsWith {source : Option (Box SerialPort)} (own : s.Owns m)
    (built : ∀ src, source = some src → (content src).Built) (output : Bool) :
    wp (serialPortCopy source output) (EndsWith (fun port => (content port).Built) m) s := by
  cases output with
  | false => exact raise_endsWith own _
  | true =>
    cases source with
    | none => exact nothing_endsWith own
    | some src =>
      apply wp_mono (serialPortCopy_ends ⟨own, rfl⟩ (built src rfl))
      refine fun r s' ends => ends.endsWith fun port copied => ?_
      have same : content src = content port := Option.some.inj (Except.ok.inj copied)
      exact same ▸ built src rfl

lemma serialPortGetName_endsWith {port : Option (Box SerialPort)} (own : s.Owns m)
    (built : ∀ p, port = some p → (content p).Built) (output : Bool) :
    wp (serialPortGetName port output) (EndsWith (fun _ => True) m) s :=
  getString_endsWith own fun p there => stringCopy_endsWith own (built p there).portName

/-- A handle is opened, or an error tells why not, under the condition of the function. -/
lemma genericHandleOpen_endsWith {gi : Option (Box GenericInterface)} (own : s.Owns m)
    (built : ∀ g, gi = some g → (content g).Built) {output : Bool} {os : HandleAnswers}
    (safe : output = true → ∀ g, gi = some g → OpensSafely g.val os s.heap) :
    wp (genericHandleOpen gi output os) (EndsWith (fun _ => True) m) s := by
  cases output with
  | false => exact raise_endsWith own _
  | true =>
    cases gi with
    | none => exact raise_endsWith own _
    | some g =>
      obtain ⟨⟨dev, hdev, devBuilt⟩, _, there⟩ := built g rfl
      obtain ⟨filename, hfilename⟩ := text_of_ne there
      obtain ⟨d, ends⟩ :=
        genericHandleOpen_ends ⟨own, rfl⟩ hdev devBuilt hfilename (safe rfl g rfl)
      exact wp_mono ends fun r s' ended => ended.endsWith fun _ _ => trivial

lemma make_endsWith {c : Client} (valid : ∀ obj ∈ c.held, validity.Valid obj)
    (own : c.host.Owns m) (call : MakeCall answers) :
    wp (api.make c call) (EndsWith validity.Valid m) c.host := by
  have device {i : Option Nat} (dev : Box Device) (passed : c.arg Obj.device? i = some dev) :=
    ClientState.arg_device valid passed
  have interface {i : Option Nat} (gi : Box GenericInterface)
      (passed : c.arg Obj.genericInterface? i = some gi) :=
    ClientState.arg_genericInterface valid passed
  have port {i : Option Nat} (port : Box SerialPort)
      (passed : c.arg Obj.serialPort? i = some port) := ClientState.arg_serialPort valid passed
  cases call with
  | errorCopy error =>
    exact errorCopy_endsWith own fun e passed => ClientState.arg_error valid passed
  | findDeviceWithVidPid vendorId productId output os =>
    refine wp_giving (findDeviceWithVidPid_endsWith deviceFunctions_reads own ?_ _ _ _) fun _ => id
    exact listConnectedDevices_listsOnly own true true os.1 os.2
  | deviceCopy i output => exact wp_giving (deviceCopy_endsWith own device output) fun _ => id
  | deviceGetSerialNumber i output =>
    exact wp_giving (deviceGetSerialNumber_endsWith own _ output) fun _ => id
  | deviceGetOsId i output => exact wp_giving (deviceGetOsId_endsWith own device output) fun _ => id
  | genericInterfaceCreate i interfaceNumber composite output os =>
    exact wp_giving (genericInterfaceCreate_endsWith own device _ composite _ os) fun _ => id
  | genericInterfaceCopy i output =>
    exact wp_giving (genericInterfaceCopy_endsWith own interface output) fun _ => id
  | genericInterfaceGetOsId i output =>
    exact wp_giving (genericInterfaceGetOsId_endsWith own interface output) fun _ => id
  | genericInterfaceGetOsFilename i output =>
    exact wp_giving (genericInterfaceGetOsFilename_endsWith own interface output) fun _ => id
  | serialPortCreate i interfaceNumber composite output os =>
    exact wp_giving (serialPortCreate_endsWith own device _ composite _ os) fun _ => id
  | serialPortCopy i output =>
    exact wp_giving (serialPortCopy_endsWith own port output) fun _ => id
  | serialPortGetName i output =>
    exact wp_giving (serialPortGetName_endsWith own port output) fun _ => id

lemma controlTransfer_leavesError (own : s.Owns m) (strerror : Int → Option String)
    (ioctl : ControlAnswer) (handle : Option PipeHandle) (setup : SetupPacket)
    (data transferred : Bool) :
    wp (controlTransfer strerror ioctl handle setup data transferred) (LeavesError m) s := by
  cases handle with
  | none => exact refuse_leavesError own _ transferred
  | some handle =>
    unfold controlTransfer usbfdControlTransfer
    dsimp only
    cases ioctl ⟨setup, handle.outTimeout ⟨0, by decide⟩, data⟩ with
    | error errno =>
      simp only [wp_bind, wp_pure]
      apply Holding.wp_createErrno ⟨own, rfl⟩
      exact fun e s' raised => raised.replies _
    | ok result => exact wp_pure.mpr (.quiet own _)

lemma transfer_replies (own : s.Owns m) (handle : Option (Box GenericHandle × Timeouts))
    (call : TransferCall answers) : wp (transfer handle call) (Replies m) s := by
  have holding : Holding m s.denials s := ⟨own, rfl⟩
  cases call with
  | control setup data transferred os =>
    exact wp_sent (controlTransfer_leavesError own os.1 os.2 _ setup data transferred)
  | read pipeId data size transferred os =>
    cases handle with
    | none => exact wp_sent (refuse_leavesError own _ transferred)
    | some handle =>
      apply wp_sent
      apply wp_mono ((readPipe_validates pipeId size data transferred).linux os.1 os.2 _ _ _ _ holding)
      exact fun _ _ validated => validated.leavesError
  | write pipeId data size transferred os =>
    cases handle with
    | none => exact wp_sent (refuse_leavesError own _ transferred)
    | some handle =>
      apply wp_sent
      apply wp_mono ((writePipe_validates pipeId size data transferred).linux os.1 os.2 _ _ _ _ holding)
      exact fun _ _ validated => validated.leavesError

/-- The functions keep what a client relies on. -/
lemma api_keeps : api.Keeps validity Admits where
  make m c call _ valid own := make_endsWith valid own call
  ask m c call own := by
    cases call with
    | deviceGetVendorId i output => exact getNumber_replies own _ output
    | deviceGetProductId i output => exact getNumber_replies own _ output
    | deviceGetRevision i output => exact getNumber_replies own _ output
  listConnectedDevices m c deviceList deviceCount os _ own :=
    listConnectedDevices_listsOnly own deviceList deviceCount os.1 os.2
  genericHandleOpen m c gi output os admitted valid own := by
    have built g (passed : c.arg Obj.genericInterface? gi = some g) :=
      ClientState.arg_genericInterface valid passed
    refine genericHandleOpen_endsWith own built fun outputs => ?_
    cases outputs
    exact admitted
  genericHandleClose handle := genericHandleClose_givesBack
  setTimeout m s handle pipeId timeout os own := setTimeout_replies own _ pipeId timeout
  transfer m s handle call own := transfer_replies own handle call
  deviceFree device := deviceFree_givesBack
  genericInterfaceFree gi := genericInterfaceFree_givesBack
  serialPortFree port := serialPortFree_givesBack

/-- They set and use the timeouts of a handle. -/
lemma api_times : api.Times where
  setTimeout handle timeouts pipeId timeout os := setTimeout_yields timeouts pipeId timeout
  transfer handle timeouts call := by
    cases call with
    | control setup data transferred os =>
      exact sent_uses (controlTransfer_passes os.1 timeouts data os.2 setup)
    | read pipeId data size transferred os =>
      exact sent_uses (readPipe_passes os.1 os.2 timeouts pipeId data size)
    | write pipeId data size transferred os =>
      exact sent_uses (writePipe_passes os.1 os.2 timeouts pipeId data size)

/-- Whatever a client calls, in whatever order, and whatever requests for memory are denied: no call
fails an assertion or dereferences a null pointer, and at any time the program holds what the objects
and the handles in the hands of the client own, each of which can be given back once. -/
theorem client_balanced (grant : Nat → Bool) {calls : List (ClientCall answers)}
    (admitted : Machine.Along api.step Admits calls (.start grant)) :
    wp (Machine.run api.step calls) (fun _ => Balanced api validity) (.start grant) :=
  wp_mono (api_keeps.run grant admitted) fun _ _ k => k.balanced api_keeps

/-- A device on which an interface is opened. -/
def session : List (ClientCall answers) :=
  let device : UdevInfo := {
    syspath := "/usb1"
    devtype := some "usb_device"
    sysattr := fun name =>
      if name = "idVendor" then some "1ffb" else if name = "idProduct" then some "00a0"
      else if name = "bcdDevice" then some "0100" else none
    usbParent := none
    driver := none
    devnode := some "/dev/usb1"
    subsystem := some "usb"
    property := fun _ => none
    isInitialized := true }
  let interface : UdevInfo := { device with
    syspath := "/usb1:0"
    devtype := some "usb_interface"
    sysattr := fun name => if name = "bInterfaceNumber" then some "00" else none
    usbParent := some "/usb1" }
  let entries : List UdevEntry := [⟨"/usb1", some device⟩, ⟨"/usb1:0", some interface⟩]
  [.listConnectedDevices true true (true, ⟨true, 0, 0, entries⟩),
    .make (.genericInterfaceCreate (some 1) 0 false true
      ⟨true, ⟨true, 0, 0, entries⟩, true, some device, none, fun _ => none⟩),
    .genericHandleOpen (some 0) true ⟨none, none, .ok (18, ⟨0x1ffb, 0x00a0, 0x0100⟩), fun _ => none⟩,
    .dispose 0,
    .setTimeout (some 0) 0x82 100 (),
    .transfer (some 0) (.read 0x82 true 64 true (fun _ => none, fun _ => .ok 64))]

lemma session_admitted : Machine.Along api.step Admits session (.start fun _ => true) := by
  decide +kernel

/-- The list, the device and the handle are left in the hands of the client. -/
theorem client_balanced_example :
    wp (Machine.run api.step session) (fun _ => Balanced api validity) (.start fun _ => true) :=
  client_balanced _ session_admitted

end Libusbp.Linux
