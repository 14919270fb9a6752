import Libusbp.Linux.GenericInterface
import Libusbp.Mac.GenericInterface
import Libusbp.Windows.GenericInterface
import Libusbp.Windows.NodeSearch

/-!
# An interface that is not there yet

Right after a device was plugged in, the records of its interfaces may still be missing. `Lacks` says on
each platform that nothing but the record is missing: all calls of the lookup succeed and none of the
records they list is the interface. Then the error that a caller gets has the code
`LIBUSBP_ERROR_NOT_READY`, except for a device on Windows that is not composite.
-/

namespace Libusbp

open Prog Host

variable {κ α β : Type} [DecidableEq κ] [Owned κ α] [Content α β]

/-- The call returned an error. If no request for memory was denied, the error has the code
`LIBUSBP_ERROR_NOT_READY` exactly if `c` holds. -/
def NotReadyExactly (c : Prop) (s : Host κ) (r : Option Error × Option α) (s' : Host κ) : Prop :=
  ∃ e, r.1 = some e ∧
    (s'.denials = s.denials → (errorHasCode (some e) ErrorCode.notReady = true ↔ c))

/-- The codes of the error are those of the outcome. -/
lemma Ends.notReadyExactly {m : Holdings κ} {s s' : Host κ} {v : ErrorValue} {c : Prop}
    {r : Option Error × Option α}
    (h : Ends m s.denials (.error v : Except ErrorValue (Option β)) r s')
    (codes : (ErrorCode.notReady : UInt32) ∈ v.codes ↔ c) : NotReadyExactly c s r s' := by
  obtain ⟨_ | e, x⟩ := r
  · exact absurd h.1 (by rintro ⟨⟩)
  · refine ⟨e, rfl, fun granted => ?_⟩
    rw [errorHasCode_iff]
    rcases h.2.value with ⟨_, said⟩ | ⟨denied, _⟩
    · rw [← Except.error.inj said]
      exact codes
    · exact absurd granted.symm (Nat.ne_of_lt denied)

/-- A search that found nothing says so. -/
lemma notReady_mem (text : String) : (ErrorCode.notReady : UInt32) ∈ (notReadyError text).codes :=
  List.mem_append_right _ (List.mem_singleton.mpr rfl)

namespace Linux

/-- The device is the given interface of the given USB device. -/
structure UdevInfo.IsInterface (deviceSyspath : String) (interfaceNumber : UInt8)
    (info : UdevInfo) : Prop where
  devtype : info.devtype = some "usb_interface"
  number : info.getSysattr Scan.toUInt8 "bInterfaceNumber" = .ok interfaceNumber
  parent : info.usbParent = some deviceSyspath

/-- The device says what it is asked: its type, as an interface also its number, and its parent if the
number is the given one. -/
def UdevInfo.Answers (interfaceNumber : UInt8) (info : UdevInfo) : Prop :=
  ∃ devtype, info.devtype = some devtype ∧ (devtype = "usb_interface" →
    ∃ number, info.getSysattr Scan.toUInt8 "bInterfaceNumber" = .ok number ∧
      (number = interfaceNumber → info.usbParent ≠ none))

/-- All calls of the lookup succeed, and no entry is the interface. -/
structure GenericInterfaceAnswers.Lacks (os : GenericInterfaceAnswers) (deviceSyspath : String)
    (interfaceNumber : UInt8) : Prop where
  context : os.contextCreated = true
  created : os.usbList.created = true
  addMatch : os.usbList.addMatch = 0
  scanDevices : os.usbList.scanDevices = 0
  entries : ∀ entry ∈ os.usbList.entries, ∃ info, entry.lookup = some info ∧
    info.Answers interfaceNumber ∧ ¬info.IsInterface deviceSyspath interfaceNumber

variable {deviceSyspath : String} {interfaceNumber : UInt8} {os : GenericInterfaceAnswers}

/-- A device that answers and is not the interface is passed over. -/
lemma isSpecificInterface_false {info : UdevInfo} (answers : info.Answers interfaceNumber)
    (other : ¬info.IsInterface deviceSyspath interfaceNumber) :
    info.isSpecificInterface deviceSyspath interfaceNumber = .ok false := by
  obtain ⟨devtype, hdevtype, number⟩ := answers
  rw [UdevInfo.isSpecificInterface, ok_bind (getDevtype_ok.mpr hdevtype)]
  by_cases isInterface : devtype = "usb_interface"
  · obtain ⟨number, hnumber, parent⟩ := number isInterface
    rw [if_neg (not_not.mpr isInterface), ok_bind hnumber]
    by_cases same : number = interfaceNumber
    · obtain ⟨parent, hparent⟩ := Option.ne_none_iff_exists'.mp (parent same)
      have foreign : parent ≠ deviceSyspath := by
        rintro rfl
        exact other ⟨isInterface ▸ hdevtype, same ▸ hnumber, hparent⟩
      rw [if_neg (not_not.mpr same), ok_bind (getUsbParent_ok.mpr hparent), if_pos foreign]
      rfl
    · rw [if_pos same]
      rfl
  · rw [if_pos isInterface]
    rfl

lemma GenericInterfaceAnswers.Lacks.interfaceOutcome (lacks : os.Lacks deviceSyspath interfaceNumber) :
    interfaceOutcome deviceSyspath interfaceNumber os.usbList =
      .error (notReadyError s!"Could not find interface {interfaceNumber}.") := by
  have listed : os.usbList.outcome "Failed to add a subsystem match." = .ok os.usbList.entries := by
    simp only [EnumerateAnswers.outcome, EnumerateAnswers.newOutcome, lacks.created, lacks.addMatch,
      lacks.scanDevices]
    rfl
  have passed : firstVerdict (UdevEntry.interfaceVerdict deviceSyspath interfaceNumber)
      os.usbList.entries = .ok none := by
    apply firstVerdict_none
    intro entry mem
    obtain ⟨info, lookup, answers, other⟩ := lacks.entries entry mem
    rw [UdevEntry.interfaceVerdict, ok_bind (lookupOutcome_ok.mpr lookup),
      ok_bind (isSpecificInterface_false answers other)]
    rfl
  rw [Linux.interfaceOutcome, ok_bind listed, ok_bind passed]
  rfl

lemma GenericInterfaceAnswers.Lacks.outcome (lacks : os.Lacks deviceSyspath interfaceNumber)
    (device : DeviceView) :
    genericInterfaceOutcome device deviceSyspath interfaceNumber os =
      .error ((notReadyError s!"Could not find interface {interfaceNumber}.").addText
        "Failed to initialize generic interface.") := by
  apply withContext_error
  have context : contextOutcome os.contextCreated = .ok () := by
    rw [lacks.context]
    rfl
  rw [genericInterfaceStepsOutcome, ok_bind context, error_bind lacks.interfaceOutcome]

variable {m : Holdings RefKind} {d : Nat} {s : System}

lemma udevwGetInterface_lacks (own : Holding m d s) (udev : Udev)
    (lacks : os.Lacks deviceSyspath interfaceNumber) :
    wp (udevwGetInterface (some udev) (some deviceSyspath) interfaceNumber os.usbList)
      (Ends m d (.error (notReadyError s!"Could not find interface {interfaceNumber}."))) s := by
  have ends := udevwGetInterface_ends own udev deviceSyspath interfaceNumber os.usbList
  rwa [lacks.interfaceOutcome] at ends

lemma genericInterfaceCreate_lacks (own : Holding m d s) {device : Box Device}
    (built : text device.val.syspath = some deviceSyspath) (composite : Bool)
    (lacks : os.Lacks deviceSyspath interfaceNumber) :
    wp (genericInterfaceCreate (some device) interfaceNumber composite true os)
      (Ends m d (.error ((notReadyError s!"Could not find interface {interfaceNumber}.").addText
        "Failed to initialize generic interface."))) s := by
  have ends := genericInterfaceCreate_ends own built interfaceNumber composite os
  rwa [lacks.outcome] at ends

end Linux

namespace Windows

/-- The list was enumerated to its end, and every device says its ID, which is another one. -/
structure DevInfoList.Lacks (list : DevInfoList) (deviceInstanceId : String) : Prop where
  last : list.last = errorNoMoreItems
  devices : ∀ info ∈ list.devices, ∃ id, info.instanceId = .ok id ∧ id ≠ deviceInstanceId

/-- All calls of the lookup succeed, and no device in its lists is the interface. -/
def InterfaceAnswers.Lacks (os : InterfaceAnswers) (deviceInstanceId : String)
    (interfaceNumber : UInt8) : Bool → Prop
  | true => ∃ devInst, os.locateDevNode = .ok devInst ∧ os.Calm devInst interfaceNumber ∧
    ∀ entry ∈ os.entries, entry.2.isInterface devInst interfaceNumber = false
  | false => ∃ list, os.usbDevices = .ok list ∧ list.Lacks deviceInstanceId

/-- The error of `get_interface` then. Only the search for a composite device has a code for it. -/
def missingNode (interfaceNumber : UInt8) : Bool → ErrorValue
  | true => notReadyError s!"Could not find interface {interfaceNumber}."
  | false => (ErrorValue.ofText "Failed to find device node.").addText
    "Failed to find non-composite device node."

lemma notReady_mem_missingNode (interfaceNumber : UInt8) (composite : Bool) :
    (ErrorCode.notReady : UInt32) ∈ (missingNode interfaceNumber composite).codes ↔
      composite = true := by
  cases composite with
  | true => exact iff_of_true (notReady_mem _) rfl
  | false => exact ⟨fun mem => absurd mem List.not_mem_nil, Bool.noConfusion⟩

variable {m : Holdings RefKind} {d : Nat} {s : System} {formatMessage : UInt32 → String}
  {deviceInstanceId : String} {interfaceNumber : UInt8} {composite : Bool}

lemma InterfaceAnswers.Lacks.nodeOutcome {os : InterfaceAnswers}
    (lacks : os.Lacks deviceInstanceId interfaceNumber composite) :
    nodeOutcome formatMessage deviceInstanceId interfaceNumber composite os =
      .error (missingNode interfaceNumber composite) := by
  cases composite with
  | true =>
    obtain ⟨devInst, located, calm, others⟩ := lacks
    have passed : os.entries.find? (fun entry => entry.2.isInterface devInst interfaceNumber) =
        none := by
      rw [List.find?_eq_none]
      exact fun entry mem => by rw [others entry mem]; exact Bool.false_ne_true
    rw [Windows.nodeOutcome, if_pos rfl, compositeOutcome_calm located calm, passed]
    rfl
  | false =>
    obtain ⟨list, opened, last, others⟩ := lacks
    have passed : firstVerdict (DevInfo.verdict formatMessage deviceInstanceId) list.devices =
        .ok none := by
      apply firstVerdict_none
      intro info mem
      obtain ⟨id, said, differs⟩ := others info mem
      rw [DevInfo.verdict, said]
      exact congrArg Except.ok (if_neg differs)
    rw [Windows.nodeOutcome, if_neg Bool.false_ne_true, nonCompositeOutcome, opened]
    simp only [deviceSearch, ok_bind passed, last, endOfList, if_pos]
    rfl

lemma getInterface_lacks (own : Holding m d s) {os : InterfaceAnswers}
    (lacks : os.Lacks deviceInstanceId interfaceNumber composite) :
    wp (getInterface formatMessage (some deviceInstanceId) interfaceNumber composite os)
      (Ends m d (.error (missingNode interfaceNumber composite))) s := by
  rw [← Except.map_error, ← lacks.nodeOutcome]
  exact getInterface_ends own interfaceNumber composite os

/-- Without a node, the steps of `generic_interface_initialize` end with the error of the lookup. -/
lemma initializeSteps_lacks (own : Holding m d s) {device : Box Device}
    (built : text device.val.deviceInstanceId = some deviceInstanceId)
    {os : GenericInterfaceAnswers}
    (lacks : os.interface.Lacks deviceInstanceId interfaceNumber composite) :
    wp (stages (initializeSteps formatMessage device interfaceNumber composite os)
        { gi := { interfaceNumber } })
      (fun r s' => ∃ e l, r = (some e, l) ∧ l.gi = { interfaceNumber } ∧
        Raised (m + l.others) d (· = missingNode interfaceNumber composite) e s') s := by
  apply Ends.stageSome
  · exact deviceGetOsId_ends own built
  · intro e s₁ r
    exact ⟨e, _, rfl, rfl, (r.of_eq (add_zero m).symm).of_ok⟩
  intro usbDeviceId s₁ copied own₁
  have path : text (some usbDeviceId) = some deviceInstanceId :=
    congrArg some (Except.ok.inj copied).symm
  apply Ends.stage
  · rw [path]
    exact getInterface_lacks own₁ lacks
  · intro e s₂ r
    refine ⟨e, _, rfl, rfl, (r.of_eq ?_).mono fun u hu => (Except.error.inj hu).symm⟩
    show m + owned usbDeviceId = m + (0 + (0 + owned usbDeviceId))
    abel
  · rintro node s₂ ⟨⟩

/-- Without a node, `libusbp_generic_interface_create` returns the error of the lookup. -/
lemma genericInterfaceCreate_lacks (own : Holding m d s) {device : Box Device}
    (built : text device.val.deviceInstanceId = some deviceInstanceId)
    {os : GenericInterfaceAnswers}
    (lacks : os.interface.Lacks deviceInstanceId interfaceNumber composite) :
    wp (genericInterfaceCreate formatMessage (some device) interfaceNumber composite true os)
      (Ends m d (.error ((missingNode interfaceNumber composite).addText
        "Failed to initialize generic interface."))) s := by
  simp only [genericInterfaceCreate, Bool.true_eq_false, if_false, wp_bind]
  apply own.owns.wp_new (by decide) rfl
  · intro newGi s₁ _ own₁ hd₁
    have own₁ : Holding (m + owned newGi) d s₁ := ⟨own₁, hd₁.trans own.denials⟩
    simp only [genericInterfaceInitialize, wp_bind, wp_pure]
    apply wp_mono (initializeSteps_lacks own₁ built lacks)
    rintro _ s₂ ⟨e, l, rfl, blank, raised⟩
    rw [blank]
    apply l.cleanUp_givesBack.wp_raised raised
    intro s₃ raised
    simp only [addContext, Option.isSome_some, if_true]
    apply raised.wp_add
    intro e' s₄ raised
    have freed : GivesBack (genericInterfaceFree (some ⟨newGi.addr, { interfaceNumber }⟩))
        (owned newGi) :=
      (GivesBack.seq .nothing (.seq .nothing .freeBlock)).of_eq (by rw [owned_box]; simp)
    simp only [Option.isSome_some, if_true, wp_bind, wp_pure]
    apply freed.wp_raised raised
    intro s₅ raised
    refine ⟨rfl, raised.mono ?_⟩
    rintro _ ⟨u, rfl, rfl⟩
    rfl
  · intro s₁ own₁ hd₁
    exact wp_pure.mpr ⟨rfl, .denied own₁ (by rw [hd₁, own.denials])⟩

end Windows

namespace Mac

/-- All calls of the lookup succeed, and no child that is an interface has the number. -/
structure GenericInterfaceAnswers.Lacks (os : GenericInterfaceAnswers) (interfaceNumber : UInt8) :
    Prop where
  dictCreated : os.device.dictCreated = true
  service : os.device.service ≠ none
  children : ∃ entries, os.children = .ok entries ∧
    ∀ entry ∈ entries, entry.conformsTo kIOUSBInterfaceClassName = true →
      ∃ number, entry.int32 "bInterfaceNumber" = .ok number ∧ number.toInt ≠ interfaceNumber.toNat

variable {machErrorString : UInt32 → String} {interfaceNumber : UInt8} {os : GenericInterfaceAnswers}

lemma GenericInterfaceAnswers.Lacks.interfaceOutcome (lacks : os.Lacks interfaceNumber) :
    usbInterfaceOutcome machErrorString interfaceNumber os.children =
      .error (notReadyError s!"Could not find interface {interfaceNumber}.") := by
  obtain ⟨entries, children, others⟩ := lacks.children
  have passed : firstVerdict (RegistryEntry.usbInterfaceVerdict interfaceNumber) entries =
      .ok none := by
    apply firstVerdict_none
    intro entry mem
    cases conforms : entry.conformsTo kIOUSBInterfaceClassName with
    | false => exact if_pos conforms
    | true =>
      obtain ⟨number, said, differs⟩ := others entry mem conforms
      rw [RegistryEntry.usbInterfaceVerdict, if_neg (Bool.not_eq_false _ ▸ conforms), ok_bind said]
      exact if_neg differs
  rw [usbInterfaceOutcome, children]
  show firstVerdict _ entries >>= _ = _
  rw [ok_bind passed]
  rfl

lemma GenericInterfaceAnswers.Lacks.idOutcome (lacks : os.Lacks interfaceNumber) (deviceId : UInt64) :
    interfaceIdOutcome machErrorString deviceId interfaceNumber os =
      .error (notReadyError s!"Could not find interface {interfaceNumber}.") := by
  obtain ⟨service, found⟩ := Option.ne_none_iff_exists'.mp lacks.service
  have looked : os.device.outcome deviceId = .ok service := by
    simp only [ServiceAnswers.outcome, lacks.dictCreated, found, Bool.true_eq_false, if_false]
  rw [interfaceIdOutcome, ok_bind looked, error_bind lacks.interfaceOutcome]

variable {m : Holdings RefKind} {d : Nat} {s : System}

lemma serviceGetUsbInterface_lacks (own : Holding m d s) (lacks : os.Lacks interfaceNumber) :
    wp (serviceGetUsbInterface machErrorString interfaceNumber os.children)
      (Ends m d (.error (notReadyError s!"Could not find interface {interfaceNumber}."))) s := by
  have ends := serviceGetUsbInterface_ends own machErrorString interfaceNumber os.children
  rwa [lacks.interfaceOutcome] at ends

lemma genericInterfaceCreate_lacks (own : Holding m d s) (device : Box Device)
    (lacks : os.Lacks interfaceNumber) :
    wp (genericInterfaceCreate machErrorString (some device) interfaceNumber true true os)
      (Ends m d (.error (notReadyError s!"Could not find interface {interfaceNumber}."))) s := by
  have ends := genericInterfaceCreate_ends own machErrorString device interfaceNumber true os
    (by rw [lacks.idOutcome]; rintro id ⟨⟩)
  rwa [genericInterfaceOutcome, if_pos rfl, lacks.idOutcome] at ends

end Mac

/-- Where all calls succeed and only the record of the interface is missing, the lookup returns an error,
and so does `libusbp_generic_interface_create`. Both errors have the code `LIBUSBP_ERROR_NOT_READY` on
Linux, for a composite device on macOS (for any other nothing is looked up), and on Windows exactly if
the device is composite. -/
theorem genericInterfaceCreate_notReady (interfaceNumber : UInt8) (composite : Bool) :
    (∀ (m : Holdings Linux.RefKind) (s : Linux.System) (udev : Linux.Udev)
      (device : Box Linux.Device) (syspath : String) (os : Linux.GenericInterfaceAnswers),
      s.Owns m → text device.val.syspath = some syspath → os.Lacks syspath interfaceNumber →
      wp (Linux.udevwGetInterface (some udev) (some syspath) interfaceNumber os.usbList)
          (NotReadyExactly True s) s ∧
        wp (Linux.genericInterfaceCreate (some device) interfaceNumber composite true os)
          (NotReadyExactly True s) s) ∧
    (∀ (m : Holdings Windows.RefKind) (s : Windows.System) (formatMessage : UInt32 → String)
      (device : Box Windows.Device) (id : String) (os : Windows.GenericInterfaceAnswers),
      s.Owns m → text device.val.deviceInstanceId = some id →
      os.interface.Lacks id interfaceNumber composite →
      wp (Windows.getInterface formatMessage (some id) interfaceNumber composite os.interface)
          (NotReadyExactly (composite = true) s) s ∧
        wp (Windows.genericInterfaceCreate formatMessage (some device) interfaceNumber composite true
          os) (NotReadyExactly (composite = true) s) s) ∧
    ∀ (m : Holdings Mac.RefKind) (s : Mac.System) (machErrorString : UInt32 → String)
      (device : Box Mac.Device) (os : Mac.GenericInterfaceAnswers),
      s.Owns m → os.Lacks interfaceNumber →
      wp (Mac.serviceGetUsbInterface machErrorString interfaceNumber os.children)
          (NotReadyExactly True s) s ∧
        wp (Mac.genericInterfaceCreate machErrorString (some device) interfaceNumber true true os)
          (NotReadyExactly True s) s := by
  have code := iff_of_true (notReady_mem s!"Could not find interface {interfaceNumber}.") trivial
  refine ⟨?_, ?_, ?_⟩
  · intro m s udev device syspath os own built lacks
    have own : Holding m s.denials s := ⟨own, rfl⟩
    exact ⟨wp_mono (Linux.udevwGetInterface_lacks own udev lacks)
        fun _ _ ends => ends.notReadyExactly code,
      wp_mono (Linux.genericInterfaceCreate_lacks own built composite lacks)
        fun _ _ ends => ends.notReadyExactly code⟩
  · intro m s formatMessage device id os own built lacks
    have own : Holding m s.denials s := ⟨own, rfl⟩
    have code := Windows.notReady_mem_missingNode interfaceNumber composite
    exact ⟨wp_mono (Windows.getInterface_lacks own lacks) fun _ _ ends => ends.notReadyExactly code,
      wp_mono (Windows.genericInterfaceCreate_lacks own built lacks)
        fun _ _ ends => ends.notReadyExactly code⟩
  · intro m s machErrorString device os own lacks
    have own : Holding m s.denials s := ⟨own, rfl⟩
    exact ⟨wp_mono (Mac.serviceGetUsbInterface_lacks own lacks)
        fun _ _ ends => ends.notReadyExactly code,
      wp_mono (Mac.genericInterfaceCreate_lacks own device lacks)
        fun _ _ ends => ends.notReadyExactly code⟩

/-- Interface 2 is missing, and only interface 0 is there. -/
theorem genericInterfaceCreate_notReady_example :
    let interface : Linux.UdevInfo :=
      { syspath := "/sys/devices/usb1/1-2/1-2:1.0"
        devtype := some "usb_interface"
        sysattr := fun _ => some "00"
        usbParent := some "/sys/devices/usb1/1-2"
        driver := none
        devnode := none
        subsystem := some "usb"
        property := fun _ => none
        isInitialized := true }
    let linux : Linux.GenericInterfaceAnswers :=
      ⟨true, ⟨true, 0, 0, [⟨interface.syspath, some interface⟩]⟩, true, none, none, fun _ => none⟩
    let linuxDevice : Box Linux.Device :=
      ⟨8, ⟨some ⟨9, "/sys/devices/usb1/1-2"⟩, none, 0, 0, 0⟩⟩
    let s : Linux.System := ⟨⟨fun _ => true, 0, []⟩, 0, []⟩
    let node : Windows.DevInfo :=
      { devInst := 1
        instanceId := .ok ""
        hardwareIds := ⟨none, 0, .error Windows.errorInvalidData⟩
        parent := .ok 7
        deviceId := .ok "USB\\VID_1FFB&PID_2300&MI_00\\6&2A5C" }
    let list : Windows.DevInfoList := ⟨[node], Windows.errorNoMoreItems, by decide⟩
    let windows : Windows.GenericInterfaceAnswers :=
      ⟨⟨.ok list, .ok 7, .ok list, .ok list, .ok list⟩, fun _ => .error 5, fun _ _ => false,
        fun _ => ⟨none, .error 5, .error 5, fun _ => .ok 0⟩,
        fun _ => ⟨.ok list, none, none, 0, .ok ""⟩⟩
    let windowsDevice : Box Windows.Device := ⟨8, { deviceInstanceId := some ⟨9, "USB\\VID_1FFB"⟩ }⟩
    let t : Windows.System := ⟨⟨fun _ => true, 0, []⟩, 0, []⟩
    let entry : Mac.RegistryEntry :=
      { conformsTo := fun _ => true
        property := fun _ => some (.number 0 true)
        entryId := .ok 5 }
    let mac : Mac.GenericInterfaceAnswers := ⟨⟨true, some entry⟩, .ok [entry]⟩
    let u : Mac.System := ⟨⟨fun _ => true, 0, []⟩, 0, []⟩
    wp (Linux.genericInterfaceCreate (some linuxDevice) 2 true true linux)
        (NotReadyExactly True s) s ∧
      wp (Windows.genericInterfaceCreate (fun _ => "") (some windowsDevice) 2 true true windows)
        (NotReadyExactly (true = true) t) t ∧
      wp (Mac.genericInterfaceCreate (fun _ => "") (some ⟨8, { id := 4 }⟩) 2 true true mac)
        (NotReadyExactly True u) u := by
  intro interface linux linuxDevice s node list windows windowsDevice t entry mac u
  obtain ⟨onLinux, onWindows, onMac⟩ := genericInterfaceCreate_notReady 2 true
  have zero : interface.getSysattr Scan.toUInt8 "bInterfaceNumber" = .ok 0 := rfl
  have linuxLacks : linux.Lacks "/sys/devices/usb1/1-2" 2 := by
    refine ⟨rfl, rfl, rfl, rfl, fun entry mem => ?_⟩
    obtain rfl := List.mem_singleton.mp mem
    refine ⟨interface, rfl, ⟨_, rfl, fun _ => ⟨0, zero, by decide⟩⟩, fun isInterface => ?_⟩
    have number := isInterface.number
    rw [zero] at number
    exact absurd (Except.ok.inj number) (by decide)
  have windowsLacks : windows.interface.Lacks "USB\\VID_1FFB" 2 true :=
    ⟨7, rfl, by decide +kernel, by decide +kernel⟩
  have macLacks : mac.Lacks 2 := by
    refine ⟨rfl, Option.some_ne_none _, [entry], rfl, fun entry mem _ => ?_⟩
    obtain rfl := List.mem_singleton.mp mem
    exact ⟨0, rfl, by decide⟩
  exact ⟨(onLinux 0 s ⟨0⟩ linuxDevice _ linux (.empty _) rfl linuxLacks).2,
    (onWindows 0 t _ windowsDevice _ windows (.empty _) rfl windowsLacks).2,
    (onMac 0 u _ _ mac (.empty _) macLacks).2⟩

/-- On Windows, with no device present at all, the lookup for a device that is not composite returns an
error without the code, and so does `libusbp_generic_interface_create`. -/
theorem genericInterfaceCreate_silent :
    let list : Windows.DevInfoList := ⟨[], Windows.errorNoMoreItems, by decide⟩
    let interface : Windows.InterfaceAnswers := ⟨.ok list, .error 13, .ok list, .ok list, .ok list⟩
    let os : Windows.GenericInterfaceAnswers :=
      ⟨interface, fun _ => .error 5, fun _ _ => false,
        fun _ => ⟨none, .error 5, .error 5, fun _ => .ok 0⟩,
        fun _ => ⟨.ok list, none, none, 0, .ok ""⟩⟩
    let device : Box Windows.Device := ⟨8, { deviceInstanceId := some ⟨9, "USB\\VID_1FFB"⟩ }⟩
    let s : Windows.System := ⟨⟨fun _ => true, 0, []⟩, 0, []⟩
    interface.Lacks "USB\\VID_1FFB" 0 false ∧
      ¬wp (Windows.getInterface (fun _ => "") (some "USB\\VID_1FFB") 0 false interface)
        (NotReadyExactly True s) s ∧
      ¬wp (Windows.genericInterfaceCreate (fun _ => "") (some device) 0 false true os)
        (NotReadyExactly True s) s := by
  intro list interface os device s
  have lookup : wp (Windows.getInterface (fun _ => "") (some "USB\\VID_1FFB") 0 false interface)
      (fun r s' => s'.denials = s.denials ∧ errorHasCode r.1 ErrorCode.notReady = false) s :=
    ⟨_, _, rfl, rfl, rfl⟩
  have create : wp (Windows.genericInterfaceCreate (fun _ => "") (some device) 0 false true os)
      (fun r s' => s'.denials = s.denials ∧ errorHasCode r.1 ErrorCode.notReady = false) s :=
    ⟨_, _, rfl, rfl, rfl⟩
  refine ⟨⟨list, rfl, rfl, by rintro _ ⟨⟩⟩, fun claimed => ?_, fun claimed => ?_⟩
  · obtain ⟨r, s', _, ⟨e, he, has⟩, granted, without⟩ := claimed.and lookup
    rw [he, (has granted).mpr trivial] at without
    cases without
  · obtain ⟨r, s', _, ⟨e, he, has⟩, granted, without⟩ := claimed.and create
    rw [he, (has granted).mpr trivial] at without
    cases without

end Libusbp
