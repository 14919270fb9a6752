import Libusbp.Mac.SerialPort

/-!
# Which serial port is selected

Below a device the registry lists one function of the device after the other, in blocks. The variables
of the loop are not reset between two blocks, but what is left in them does not matter: a block says
again what its serial port depends on, and a number of a data interface does not come back.
-/

namespace Libusbp.Mac

open Prog Host

/-- The interfaces and drivers of one function of a device. -/
inductive SerialBlock where
  | acm (control data : Int32) (port : RegistryEntry)
  | acmWithoutPort (control data : Int32)
  | acmControl (control : Int32)
  | bare (i : Int32)
  | serial (i : Int32) (port : RegistryEntry)

namespace SerialBlock

/-- The marks of the services of a block, in the order of the traversal. -/
def marks : SerialBlock → List Mark
  | acm control data port =>
    [.interface (.ok control), .acmControl, .interface (.ok data), .acmData, .port port]
  | acmWithoutPort control data =>
    [.interface (.ok control), .acmControl, .interface (.ok data), .acmData]
  | acmControl control => [.interface (.ok control), .acmControl]
  | bare i => [.interface (.ok i)]
  | serial i port => [.interface (.ok i), .port port]

/-- The interface numbers of a block. -/
def numbers : SerialBlock → List Int32
  | acm control data _ | acmWithoutPort control data => [control, data]
  | acmControl i | bare i | serial i _ => [i]

/-- The serial port of the block that is selected by an interface number: of the control interface of an
ACM function, or of the interface of another port. -/
def portOf (interfaceNumber : UInt8) : SerialBlock → Option RegistryEntry
  | acm i _ port | serial i port => if i.toInt = interfaceNumber.toNat then some port else none
  | acmWithoutPort _ _ | acmControl _ | bare _ => none

end SerialBlock

variable {m : Holdings RefKind} {s : System} {interfaceNumber : UInt8}

/-- A serial port in the interface `i`, if it is not the one whose data driver came last. -/
lemma searchMarks_port {l : SearchState} {i : Int32} {port : RegistryEntry} {marks : List Mark}
    (fixed : l.fixedInterface = i) :
    searchMarks interfaceNumber l (.port port :: marks) =
      if i.toInt = interfaceNumber.toNat then .ok (some port)
      else searchMarks interfaceNumber { l with lastAcmControlInterfaceWithNoPort := -1 } marks := by
  rw [searchMarks, fixed]

/-- The search selects the port of the first block that is selected, whatever is left in the variables
from the blocks ahead of it, if the last data interface is none of its own. -/
lemma searchMarks_blocks {blocks : List SerialBlock} {l : SearchState}
    (nonneg : ∀ i ∈ blocks.flatMap (·.numbers), 0 ≤ i)
    (distinct : (blocks.flatMap (·.numbers)).Nodup)
    (past : l.lastAcmDataInterface ∉ blocks.flatMap (·.numbers)) :
    searchMarks interfaceNumber l (blocks.flatMap (·.marks)) =
      .ok (blocks.findSome? (·.portOf interfaceNumber)) := by
  induction blocks generalizing l with
  | nil => rfl
  | cons block blocks ih =>
    simp only [List.flatMap_cons, List.mem_append] at nonneg distinct past
    obtain ⟨own, others, apart⟩ := List.nodup_append.mp distinct
    have nonneg' : ∀ i ∈ blocks.flatMap (·.numbers), 0 ≤ i := fun i mem => nonneg i (.inr mem)
    have past' : l.lastAcmDataInterface ∉ blocks.flatMap (·.numbers) := fun mem => past (.inr mem)
    have gone : ∀ i ∈ block.numbers, i ∉ blocks.flatMap (·.numbers) :=
      fun i mem mem' => apart i mem i mem' rfl
    rw [List.flatMap_cons, List.findSome?_cons]
    cases block with
    | acm control data port =>
      -- the drivers of the block itself say that the port is that of the control interface
      have low : 0 ≤ control := nonneg control (.inl List.mem_cons_self)
      have reached : searchMarks interfaceNumber l
          ((SerialBlock.acm control data port).marks ++ blocks.flatMap (·.marks)) =
          searchMarks interfaceNumber ⟨data, control, data⟩
            (.port port :: blocks.flatMap (·.marks)) := rfl
      have fixed : (⟨data, control, data⟩ : SearchState).fixedInterface = control :=
        if_pos ⟨rfl, low⟩
      rw [reached, searchMarks_port fixed, SerialBlock.portOf]
      by_cases wanted : control.toInt = interfaceNumber.toNat
      · rw [if_pos wanted, if_pos wanted]
      · rw [if_neg wanted, if_neg wanted]
        exact ih nonneg' others (gone data (by simp [SerialBlock.numbers]))
    | acmWithoutPort control data =>
      exact ih nonneg' others (gone data (by simp [SerialBlock.numbers]))
    | acmControl control => exact ih nonneg' others past'
    | bare i => exact ih nonneg' others past'
    | serial i port =>
      -- the last data interface is another one
      have reached : searchMarks interfaceNumber l
          ((SerialBlock.serial i port).marks ++ blocks.flatMap (·.marks)) =
          searchMarks interfaceNumber { l with currentInterface := i }
            (.port port :: blocks.flatMap (·.marks)) := rfl
      have apart : l.lastAcmDataInterface ≠ i := by
        rintro rfl
        exact past (.inl List.mem_cons_self)
      have fixed : { l with currentInterface := i }.fixedInterface = i :=
        if_neg fun both => apart both.1
      rw [reached, searchMarks_port fixed, SerialBlock.portOf]
      by_cases wanted : i.toInt = interfaceNumber.toNat
      · rw [if_pos wanted, if_pos wanted]
      · rw [if_neg wanted, if_neg wanted]
        exact ih nonneg' others past'

/-- For a traversal that consists of any blocks, with services that have no mark anywhere in between
and with distinct interface numbers that are not negative, `libusbp_serial_port_create` selects the
serial port of the ACM function with the given control interface, or of the other port with the given
interface, and fails with the code `LIBUSBP_ERROR_NOT_READY` if there is no such block. -/
theorem serialPortCreate_selects (own : s.Owns m) (machErrorString : UInt32 → String)
    (device : Box Device) (interfaceNumber : UInt8) (composite : Bool) {os : SerialPortAnswers}
    {service : RegistryEntry} {entries : List RegistryEntry} {blocks : List SerialBlock}
    (found : os.device.outcome device.val.id = .ok service) (traversed : os.traversal = .ok entries)
    (shape : entries.filterMap RegistryEntry.mark? = blocks.flatMap (·.marks))
    (nonneg : ∀ i ∈ blocks.flatMap (·.numbers), 0 ≤ i)
    (distinct : (blocks.flatMap (·.numbers)).Nodup) :
    wp (serialPortCreate machErrorString (some device) interfaceNumber composite true os)
      (Ends m s.denials
        ((selectedOutcome (blocks.findSome? (·.portOf interfaceNumber))).map some)) s := by
  have start : ({} : SearchState).lastAcmDataInterface ∉ blocks.flatMap (·.numbers) :=
    fun mem => absurd (nonneg _ mem) (by decide)
  have outcome : serialPortOutcome machErrorString device.val.id interfaceNumber os =
      selectedOutcome (blocks.findSome? (·.portOf interfaceNumber)) := by
    have iterated : machOutcome machErrorString "Failed to get recursive iterator." os.traversal =
        .ok entries := by
      rw [traversed]
      rfl
    rw [serialPortOutcome, ok_bind found, ok_bind iterated, shape,
      ok_bind (searchMarks_blocks nonneg distinct start)]
  rw [← outcome]
  exact serialPortCreate_ends ⟨own, rfl⟩ machErrorString device interfaceNumber composite os

/-- The data interface 3 of an ACM function has no port of its own; its port is that of interface 2. -/
theorem serialPortCreate_selects_example :
    let entry (name : String) (i : Int32) : RegistryEntry :=
      { conformsTo := (· == name)
        property := fun key =>
          if key = "bInterfaceNumber" then some (.number i true)
          else if key = kIOCalloutDeviceKey then some (.string (some "/dev/cu.usbmodem1")) else none
        entryId := .ok 1 }
    let entries := [entry "IOUSBHostInterface" 0, entry "AppleUSBACMControl" 0, entry "IOService" 0,
      entry "IOUSBHostInterface" 2, entry "AppleUSBACMControl" 0, entry "IOUSBHostInterface" 3,
      entry "AppleUSBACMData" 0, entry "IOSerialBSDClient" 0]
    let os : SerialPortAnswers := ⟨⟨true, some (entry "IOUSBHostDevice" 0)⟩, .ok entries⟩
    let s : System := ⟨⟨fun _ => true, 0, []⟩, 0, []⟩
    wp (serialPortCreate (fun _ => "") (some ⟨0, {}⟩) 2 true true os)
        (Ends 0 0 (.ok (some ⟨some "/dev/cu.usbmodem1"⟩))) s ∧
      wp (serialPortCreate (fun _ => "") (some ⟨0, {}⟩) 3 true true os)
        (Ends (α := Box SerialPort) 0 0
          (.error (notReadyError "Could not find entry with class IOSerialBSDClient."))) s := by
  intro entry entries os s
  let blocks : List SerialBlock := [.acmControl 0, .acm 2 3 (entry "IOSerialBSDClient" 0)]
  have shape : entries.filterMap RegistryEntry.mark? = blocks.flatMap (·.marks) := rfl
  have numbers : blocks.flatMap (·.numbers) = [0, 2, 3] := rfl
  have nonneg : ∀ i ∈ blocks.flatMap (·.numbers), 0 ≤ i := by
    rw [numbers]
    simp
  have distinct : (blocks.flatMap (·.numbers)).Nodup := by
    rw [numbers]
    decide
  exact ⟨serialPortCreate_selects (m := 0) (.empty _) (fun _ => "") ⟨0, {}⟩ 2 true rfl rfl shape
      nonneg distinct,
    serialPortCreate_selects (m := 0) (.empty _) (fun _ => "") ⟨0, {}⟩ 3 true rfl rfl shape
      nonneg distinct⟩

end Libusbp.Mac
