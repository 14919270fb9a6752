import Libusbp.Mac.Device

/-!
# Serial ports on macOS

`serial_port_mac.c`. The loop of `libusbp_serial_port_create` goes through everything below a device
in the registry and keeps track of the interface that it is in. A serial port below the data interface
of an ACM function belongs to the control interface of the function.
-/

namespace Libusbp.Mac

open Prog Host

/-- `struct libusbp_serial_port` -/
structure SerialPort where
  portName : Option (Box String) := none

def sizeofSerialPort : Nat := 8

/-- What a serial port says to its getters. -/
@[ext] structure SerialPortView where
  portName : Option String
deriving DecidableEq, Repr

instance : Owned RefKind SerialPort := ⟨fun port => owned port.portName⟩

instance : Content SerialPort SerialPortView := ⟨fun port => ⟨text port.portName⟩⟩

/-- What the registry answers to one `libusbp_serial_port_create`. -/
structure SerialPortAnswers where
  device : ServiceAnswers
  /-- `IORegistryEntryCreateIterator`, with what the recursive iterator yields -/
  traversal : Except UInt32 (List RegistryEntry)

/-- The variables of the loop. -/
structure SearchState where
  currentInterface : Int32 := -1
  lastAcmControlInterfaceWithNoPort : Int32 := -1
  lastAcmDataInterface : Int32 := -1
deriving DecidableEq, Repr

/-- The interface of a serial port that the loop comes to. -/
def SearchState.fixedInterface (l : SearchState) : Int32 :=
  if l.lastAcmDataInterface = l.currentInterface ∧ 0 ≤ l.lastAcmControlInterfaceWithNoPort then
    l.lastAcmControlInterfaceWithNoPort
  else l.currentInterface

/-- The loop of `libusbp_serial_port_create` over what the iterator yields. -/
def findSerialService (interfaceNumber : UInt8) :
    SearchState → List RegistryEntry → Prog Fault System (Option Error × Option Service)
  | _, [] => pure (none, none)
  | l, entry :: entries => do
    let ref ← acquire .ioObject
    let service : Service := ⟨ref, entry⟩
    if service.entry.conformsTo kIOUSBHostInterfaceClassName then do
      let (error, currentInterface) ← getInt32 service.entry "bInterfaceNumber"
      releaseService service
      if error.isSome then pure (error, none)
      else findSerialService interfaceNumber { l with currentInterface := currentInterface } entries
    else if service.entry.conformsTo "AppleUSBACMControl" then do
      releaseService service
      findSerialService interfaceNumber
        { l with lastAcmControlInterfaceWithNoPort := l.currentInterface } entries
    else if service.entry.conformsTo "AppleUSBACMData" then do
      releaseService service
      findSerialService interfaceNumber
        { l with lastAcmDataInterface := l.currentInterface } entries
    else if service.entry.conformsTo kIOSerialBSDServiceValue then
      if l.fixedInterface.toInt = interfaceNumber.toNat then pure (none, some service)
      else do
        releaseService service
        findSerialService interfaceNumber
          { l with lastAcmControlInterfaceWithNoPort := -1 } entries
    else do
      releaseService service
      findSerialService interfaceNumber l entries

/-- The variables of `libusbp_serial_port_create` and `libusbp_serial_port_copy`. -/
structure SerialPortVars where
  newPort : Option (Box SerialPort) := none
  deviceService : Option Service := none
  iterator : Option Iterator := none
  serialService : Option Service := none
  port : Option (Box SerialPort) := none

/-- Write to the field of the object that a pointer points to. -/
def putPortName (port : Option (Box SerialPort)) (x : Option (Box String)) :
    Option (Box SerialPort) :=
  port.map fun port => ⟨port.addr, { port.val with portName := x }⟩

def serialPortFree (port : Option (Box SerialPort)) : Prog Fault System Unit :=
  match port with
  | none => pure ()
  | some port => do
    stringFree port.val.portName
    free (some port)

/-- The steps of `libusbp_serial_port_create`. -/
def serialPortSteps (machErrorString : UInt32 → String) (device : Box Device)
    (interfaceNumber : UInt8) (os : SerialPortAnswers) :
    List (SerialPortVars → Prog Fault System (Option Error × SerialPortVars)) :=
  [into (fun _ => allocateZeroed sizeofSerialPort {}) fun l x => { l with newPort := x },
    into (fun _ => serviceGetFromId device.val.id os.device) fun l x => { l with deviceService := x },
    into (fun _ => createIterator machErrorString "Failed to get recursive iterator." os.traversal)
      fun l x => { l with iterator := x },
    into (fun l => findSerialService interfaceNumber {} (l.iterator.elim [] (·.entries)))
      fun l x => { l with serialService := x },
    checking fun l => notReadyUnless l.serialService.isSome
      "Could not find entry with class IOSerialBSDClient.",
    into (fun l => do
      let serialService ← expect .assertion l.serialService
      let _ ← expect .nullPointer l.newPort
      getString serialService.entry kIOCalloutDeviceKey)
      fun l x => { l with newPort := putPortName l.newPort x },
    fun l => pure (none, { l with port := l.newPort, newPort := none })]

def SerialPortVars.cleanUp (l : SerialPortVars) : Prog Fault System Unit := do
  releaseService l.serialService
  releaseIterator l.iterator
  releaseService l.deviceService
  serialPortFree l.newPort

def serialPortCreate (machErrorString : UInt32 → String) (device : Option (Box Device))
    (interfaceNumber : UInt8) (_composite : Bool) (port : Bool) (os : SerialPortAnswers) :
    Prog Fault System (Option Error × Option (Box SerialPort)) :=
  if port = false then do
    let error ← inHeap (errorCreate "Serial port output pointer is null.")
    pure (error, none)
  else match device with
    | none => do
      let error ← inHeap (errorCreate "Device is null.")
      pure (error, none)
    | some device =>
      construct (serialPortSteps machErrorString device interfaceNumber os) SerialPortVars.cleanUp
        (·.port) {}

/-- The steps of `libusbp_serial_port_copy`. -/
def serialPortCopySteps (source : SerialPort) :
    List (SerialPortVars → Prog Fault System (Option Error × SerialPortVars)) :=
  [into (fun _ => allocateZeroed sizeofSerialPort {}) fun l x => { l with newPort := x },
    into (fun l => do
      let _ ← expect .nullPointer l.newPort
      stringCopy (text source.portName)) fun l x => { l with newPort := putPortName l.newPort x },
    fun l => pure (none, { l with port := l.newPort, newPort := none })]

def serialPortCopy (source : Option (Box SerialPort)) (dest : Bool) :
    Prog Fault System (Option Error × Option (Box SerialPort)) :=
  if dest = false then do
    let error ← inHeap (errorCreate "Serial port output pointer is null.")
    pure (error, none)
  else match source with
    | none => pure (none, none)
    | some source =>
      construct (serialPortCopySteps source.val) (fun l => serialPortFree l.newPort) (·.port) {}

def serialPortGetName :
    Option (Box SerialPort) → Bool → Prog Fault System (Option Error × Option (Box String)) :=
  Libusbp.getString "String output pointer is null." "Serial port is null." fun port =>
    stringCopy (text port.portName)

/-- What the loop takes a service for. -/
inductive Mark where
  | interface (number : Except ErrorValue Int32)
  | acmControl
  | acmData
  | port (entry : RegistryEntry)

/-- The mark of a service. One that conforms to none of the four classes has none. -/
def RegistryEntry.mark? (entry : RegistryEntry) : Option Mark :=
  if entry.conformsTo kIOUSBHostInterfaceClassName then
    some (.interface (entry.int32 "bInterfaceNumber"))
  else if entry.conformsTo "AppleUSBACMControl" then some .acmControl
  else if entry.conformsTo "AppleUSBACMData" then some .acmData
  else if entry.conformsTo kIOSerialBSDServiceValue then some (.port entry)
  else none

/-- What the loop finds behind the given marks. -/
def searchMarks (interfaceNumber : UInt8) :
    SearchState → List Mark → Except ErrorValue (Option RegistryEntry)
  | _, [] => .ok none
  | l, .interface number :: marks => do
    let currentInterface ← number
    searchMarks interfaceNumber { l with currentInterface := currentInterface } marks
  | l, .acmControl :: marks =>
    searchMarks interfaceNumber { l with lastAcmControlInterfaceWithNoPort := l.currentInterface } marks
  | l, .acmData :: marks =>
    searchMarks interfaceNumber { l with lastAcmDataInterface := l.currentInterface } marks
  | l, .port entry :: marks =>
    if l.fixedInterface.toInt = interfaceNumber.toNat then .ok (some entry)
    else searchMarks interfaceNumber { l with lastAcmControlInterfaceWithNoPort := -1 } marks

/-- What comes of the service that the loop selected, if there is one. -/
def selectedOutcome (selected : Option RegistryEntry) : Except ErrorValue SerialPortView := do
  let port ← orNotReady "Could not find entry with class IOSerialBSDClient." selected
  let portName ← port.string kIOCalloutDeviceKey
  pure ⟨portName⟩

/-- The outcome of `libusbp_serial_port_create` for the device with the given ID. -/
def serialPortOutcome (machErrorString : UInt32 → String) (id : UInt64) (interfaceNumber : UInt8)
    (os : SerialPortAnswers) : Except ErrorValue SerialPortView := do
  let _ ← os.device.outcome id
  let entries ← machOutcome machErrorString "Failed to get recursive iterator." os.traversal
  let selected ← searchMarks interfaceNumber {} (entries.filterMap RegistryEntry.mark?)
  selectedOutcome selected

variable {m : Holdings RefKind} {d : Nat} {s : System}

lemma serialPortFree_givesBack {port : Option (Box SerialPort)} :
    GivesBack (serialPortFree port) (owned port) := by
  cases port with
  | none => exact .nothing
  | some port =>
    have parts : GivesBack (do stringFree port.val.portName; free (some port))
        (owned port.val.portName + (({.heap port.addr}, 0) : Holdings RefKind)) :=
      .seq stringFree_givesBack .freeBlock
    exact parts.of_eq (add_comm _ _)

/-- What the variables hold besides the port that is passed to the caller. -/
def SerialPortVars.others (l : SerialPortVars) : Holdings RefKind :=
  owned l.serialService + (owned l.iterator + (owned l.deviceService + owned l.newPort))

lemma SerialPortVars.cleanUp_givesBack (l : SerialPortVars) : GivesBack l.cleanUp l.others :=
  .seq releaseService_givesBack (.seq releaseIterator_givesBack
    (.seq releaseService_givesBack serialPortFree_givesBack))

/-- The search keeps no reference but that of the service it selects. -/
lemma findSerialService_ends (own : Holding m d s) (interfaceNumber : UInt8) (l : SearchState)
    (entries : List RegistryEntry) :
    wp (findSerialService interfaceNumber l entries)
      (Ends m d (searchMarks interfaceNumber l (entries.filterMap RegistryEntry.mark?))) s := by
  induction entries generalizing l s with
  | nil => exact wp_pure.mpr ⟨rfl, own.of_eq (add_zero m).symm⟩
  | cons entry entries ih =>
    rw [findSerialService, wp_bind]
    apply own.owns.wp_acquire
    intro ref s₁ own₁ hd₁
    have own₁ : Holding (m + owned (some (⟨ref, entry⟩ : Service))) d s₁ :=
      ⟨own₁, hd₁.trans own.denials⟩
    -- a service that is not selected is released, and the search goes on
    have next : ∀ l', wp (do
        releaseService (some ⟨ref, entry⟩)
        findSerialService interfaceNumber l' entries)
        (Ends m d (searchMarks interfaceNumber l' (entries.filterMap RegistryEntry.mark?))) s₁ := by
      intro l'
      rw [wp_bind]
      exact releaseService_givesBack.wp own₁ fun s₂ own₂ => ih own₂ l'
    apply wp_ite
    · intro host
      have mark : entry.mark? = some (.interface (entry.int32 "bInterfaceNumber")) := if_pos host
      rw [List.filterMap_cons_some mark, searchMarks, wp_bind]
      apply wp_mono (getInt32_gets own₁ entry "bInterfaceNumber")
      rintro ⟨_ | e, currentInterface⟩ s₂ got
      · obtain ⟨number, own₂⟩ := got
        rw [wp_bind, ok_bind number]
        exact releaseService_givesBack.wp own₂ fun s₃ own₃ => ih own₃ _
      · have r : Raised (m + owned (some (⟨ref, entry⟩ : Service))) d
            (fun v => entry.int32 "bInterfaceNumber" = .error v) e s₂ := got
        rw [wp_bind]
        apply releaseService_givesBack.wp_raised r
        exact fun s₃ r' => wp_pure.mpr ⟨rfl, r'.mono fun v hv => error_bind hv⟩
    intro notHost
    apply wp_ite
    · intro control
      have mark : entry.mark? = some .acmControl := (if_neg notHost).trans (if_pos control)
      rw [List.filterMap_cons_some mark]
      exact next _
    intro notControl
    apply wp_ite
    · intro data
      have mark : entry.mark? = some .acmData :=
        (if_neg notHost).trans ((if_neg notControl).trans (if_pos data))
      rw [List.filterMap_cons_some mark]
      exact next _
    intro notData
    apply wp_ite
    · intro serial
      have mark : entry.mark? = some (.port entry) :=
        (if_neg notHost).trans ((if_neg notControl).trans ((if_neg notData).trans (if_pos serial)))
      rw [List.filterMap_cons_some mark, searchMarks]
      apply wp_ite
      · intro wanted
        rw [if_pos wanted]
        exact wp_pure.mpr ⟨rfl, own₁⟩
      · intro other
        rw [if_neg other]
        exact next _
    · intro notSerial
      have mark : entry.mark? = none :=
        (if_neg notHost).trans ((if_neg notControl).trans ((if_neg notData).trans (if_neg notSerial)))
      rw [List.filterMap_cons_none mark]
      exact next l

/-- A port that says what a blank one says is blank. -/
lemma port_blank {port : SerialPort} (same : content ({} : SerialPort) = content port) :
    port = {} := by
  obtain ⟨portName⟩ := port
  cases portName with
  | none => rfl
  | some name => cases same

/-- The steps behind the loop, which see that a service was selected and read its name. -/
lemma serialPortSelected_staged {l : SerialPortVars} (own : Holding (m + l.others) d s) {a : Addr}
    (there : l.newPort = some ⟨a, {}⟩) (out : l.port = none) (machErrorString : UInt32 → String)
    (device : Box Device) (interfaceNumber : UInt8) (os : SerialPortAnswers) :
    wp (stages ((serialPortSteps machErrorString device interfaceNumber os).drop 4) l)
      (Staged (·.port) SerialPortVars.others m d
        ((selectedOutcome (l.serialService.map content)).map some)) s := by
  obtain ⟨_, deviceService, iterator, selected, _⟩ := l
  obtain rfl := there
  obtain rfl := out
  cases selected with
  | none =>
    apply Checked.stage
    · exact notReadyUnless_checked own _
    · intro e s₁ r
      refine ⟨rfl, r.mono ?_⟩
      rintro _ ⟨⟩
      rfl
    · rintro _ ⟨⟩
  | some serialService =>
    apply wp_stages_checking
    simp only [notReadyUnless, Option.isSome_some, if_true, wp_pure]
    apply Ends.stage
    · simp only [expect, pure_bind]
      exact getString_ends own serialService.entry kIOCalloutDeviceKey
    · intro e s₁ r
      refine ⟨rfl, r.mono fun v hv => ?_⟩
      show Except.map some (serialService.entry.string kIOCalloutDeviceKey >>= _) = _
      rw [error_bind hv]
      rfl
    intro portName s₁ named own₁
    apply wp_stages_cons
    refine wp_pure.mpr (wp_stages_nil.mpr ⟨?_, own₁.of_eq ?_⟩)
    · show Except.map some (serialService.entry.string kIOCalloutDeviceKey >>= _) = _
      rw [ok_bind named]
      rfl
    · -- the port was blank, and now it has the name
      have blank : (owned (⟨a, {}⟩ : Box SerialPort) : Holdings RefKind) = ({.heap a}, 0) := add_zero _
      show m + (owned serialService + (owned iterator + (owned deviceService +
        owned (⟨a, {}⟩ : Box SerialPort)))) + owned portName = m + (({.heap a}, 0) + owned portName) +
          (owned serialService + (owned iterator + (owned deviceService + 0)))
      rw [blank]
      abel

/-- `libusbp_serial_port_create` gives the selected port, or an error and nothing else. -/
lemma serialPortCreate_ends (own : Holding m d s) (machErrorString : UInt32 → String)
    (device : Box Device) (interfaceNumber : UInt8) (composite : Bool) (os : SerialPortAnswers) :
    wp (serialPortCreate machErrorString (some device) interfaceNumber composite true os)
      (Ends m d ((serialPortOutcome machErrorString device.val.id interfaceNumber os).map some))
      s := by
  apply Staged.construct SerialPortVars.others SerialPortVars.cleanUp_givesBack
  unfold serialPortOutcome serialPortSteps
  apply Ends.stageSome
  · exact allocateZeroed_ends own (by decide) rfl
  · intro e s₁ r
    exact ⟨rfl, (r.of_eq (by simp [SerialPortVars.others])).of_ok⟩
  intro newPort s₁ blank own₁
  obtain ⟨a, port⟩ := newPort
  obtain rfl := port_blank (Except.ok.inj blank)
  apply Ends.stageSome
  · exact serviceGetFromId_ends own₁ device.val.id os.device
  · intro e s₂ r
    refine ⟨rfl, (r.of_eq ?_).mono fun v hv => ?_⟩
    · simp only [SerialPortVars.others, owned_none]
      abel
    · rw [error_bind hv]
      rfl
  intro deviceService s₂ looked own₂
  apply Ends.stageSome
  · exact createIterator_ends own₂ machErrorString _ os.traversal
  · intro e s₃ r
    refine ⟨rfl, (r.of_eq ?_).mono fun v hv => ?_⟩
    · simp only [SerialPortVars.others, owned_some, owned_none]
      abel
    · rw [ok_bind looked, error_bind hv]
      rfl
  intro iterator s₃ made own₃
  rw [ok_bind looked, ok_bind made]
  have finds : wp (findSerialService interfaceNumber {} iterator.entries)
      (Ends (m + owned (⟨a, {}⟩ : Box SerialPort) + owned deviceService + owned iterator) d
        (searchMarks interfaceNumber {} ((content iterator).filterMap RegistryEntry.mark?))) s₃ :=
    findSerialService_ends own₃ interfaceNumber {} iterator.entries
  apply Ends.stage
  · exact finds
  · intro e s₄ r
    refine ⟨rfl, (r.of_eq ?_).mono fun v hv => ?_⟩
    · simp only [SerialPortVars.others, owned_some, owned_none]
      abel
    · rw [error_bind hv]
      rfl
  intro selected s₄ searched own₄
  rw [ok_bind searched]
  refine serialPortSelected_staged (own₄.of_eq ?_) rfl rfl machErrorString device interfaceNumber os
  simp only [SerialPortVars.others, owned_some]
  abel

/-- `libusbp_serial_port_copy` of a port with a name gives a port that says the same, or an error and
nothing else. -/
lemma serialPortCopy_ends (own : Holding m d s) {source : Box SerialPort} {portName : String}
    (named : (content source).portName = some portName) :
    wp (serialPortCopy (some source) true) (Ends m d (Except.map some (.ok (content source)))) s := by
  have named : text source.val.portName = some portName := named
  apply Staged.construct (fun l : SerialPortVars => owned l.newPort)
    fun _ => serialPortFree_givesBack
  apply Ends.stageSome
  · exact allocateZeroed_ends own (by decide) rfl
  · intro e s₁ r
    exact ⟨rfl, (r.of_eq (add_zero m).symm).of_ok⟩
  rintro ⟨a, port⟩ s₁ zeroed own₁
  obtain rfl := port_blank (Except.ok.inj zeroed)
  apply Ends.stageSome
  · simp only [expect, pure_bind, named]
    exact stringCopy_ends own₁ portName
  · intro e s₂ r
    exact ⟨rfl, r.of_ok⟩
  intro newPortName s₂ copied own₂
  apply wp_stages_cons
  refine wp_pure.mpr (wp_stages_nil.mpr ⟨?_, own₂.of_eq ?_⟩)
  · have said : content source = ⟨some portName⟩ := SerialPortView.ext named
    rw [said, Except.ok.inj copied]
    rfl
  · have blank : (owned (⟨a, {}⟩ : Box SerialPort) : Holdings RefKind) = ({.heap a}, 0) := add_zero _
    show m + owned (⟨a, {}⟩ : Box SerialPort) + owned newPortName =
      m + (({.heap a}, 0) + owned newPortName) + 0
    rw [blank]
    abel

/-- A copy without an error says what its source says, which has a name. -/
lemma serialPortCopy_same {source port : Box SerialPort} {s s' : System}
    (run : serialPortCopy (some source) true s = .ok ((none, some port), s')) :
    content port = content source ∧ (content source).portName ≠ none := by
  rw [serialPortCopy, if_neg Bool.noConfusion] at run
  obtain ⟨l, t, rest, there⟩ := construct_none run
  obtain ⟨x, s₁, made, rest⟩ := stages_into_none rest
  obtain ⟨newPort, rfl, _⟩ := allocateZeroed_none made
  obtain ⟨x, s₂, copied, rest⟩ := stages_into_none rest
  obtain ⟨portName, rfl, named⟩ := stringCopy_none copied
  rw [stages_assign rest] at there
  cases there
  refine ⟨SerialPortView.ext named.symm, ?_⟩
  exact (show (content source).portName = _ from named).trans_ne (Option.some_ne_none _)

end Libusbp.Mac
