import Libusbp.Linux.SerialPort
import Libusbp.Mac.SerialPort
import Libusbp.Windows.RegistryStrings
import Mathlib.Logic.Relation

/-!
# Every serial port has a name

The getter of the name of a serial port and the function that copies one pass the strings of the port
to `string_copy`, which asserts that they are not null. So the strings must be there in every object
that the functions of the API can hand out.
-/

namespace Libusbp

open Prog Host

variable {κ α : Type}

/-- One object was made from another one by a function that copies objects, in any number of rounds. -/
def Copies (copy : Option α → Bool → Prog Fault (Host κ) (Option Error × Option α)) : α → α → Prop :=
  Relation.ReflTransGen fun source dest => ∃ s s', copy (some source) true s = .ok ((none, some dest), s')

/-- The copies of the copies say what the object says if every copy does. -/
lemma Copies.content_eq {β : Type} [Content α β]
    {copy : Option α → Bool → Prog Fault (Host κ) (Option Error × Option α)} {source dest : α}
    (copies : Copies copy source dest)
    (same : ∀ a b s s', copy (some a) true s = .ok ((none, some b), s') → content b = content a) :
    content dest = content source := by
  induction copies with
  | refl => rfl
  | tail _ copied ih =>
    obtain ⟨s, s', run⟩ := copied
    exact (same _ _ s s' run).trans ih

variable [DecidableEq κ]

/-- The two functions return for the object in every state, so no assertion in them fails. -/
structure Returns {β : Type}
    (getName : Option α → Bool → Prog Fault (Host κ) (Option Error × Option β))
    (copy : Option α → Bool → Prog Fault (Host κ) (Option Error × Option α)) (object : α) : Prop where
  getName : ∀ m s, s.Owns m → wp (getName (some object) true) (fun _ _ => True) s
  copy : ∀ m s, s.Owns m → wp (copy (some object) true) (fun _ _ => True) s

/-- The assertion of `string_copy` holds for a string that is there. -/
lemma stringCopy_returns {m : Holdings κ} {s : Host κ} (own : s.Owns m) {string : Option String}
    (there : string ≠ none) : wp (stringCopy string) (fun _ _ => True) s := by
  obtain ⟨string, rfl⟩ := Option.ne_none_iff_exists'.mp there
  exact wp_mono (stringCopy_ends ⟨own, rfl⟩ string) fun _ _ _ => trivial

lemma Linux.SerialPortView.Built.returns {port : Box Linux.SerialPort} (built : (content port).Built) :
    Returns Linux.serialPortGetName Linux.serialPortCopy port where
  getName _ _ own := stringCopy_returns own built.portName
  copy _ _ own := wp_mono (Linux.serialPortCopy_ends ⟨own, rfl⟩ built) fun _ _ _ => trivial

lemma Windows.SerialPortView.Built.returns {port : Box Windows.SerialPort}
    (built : (content port).Built) :
    Returns Windows.serialPortGetName Windows.serialPortCopy port where
  getName _ _ own := stringCopy_returns own built.portName
  copy _ _ own := wp_mono (Windows.serialPortCopy_ends ⟨own, rfl⟩ built) fun _ _ _ => trivial

namespace Mac

lemma SerialPortView.returns {port : Box SerialPort} (named : (content port).portName ≠ none) :
    Returns serialPortGetName serialPortCopy port where
  getName _ _ own := stringCopy_returns own named
  copy _ _ own := by
    obtain ⟨portName, named⟩ := Option.ne_none_iff_exists'.mp named
    exact wp_mono (serialPortCopy_ends ⟨own, rfl⟩ named) fun _ _ _ => trivial

/-- The serial port that the search below the device selects, if there is one, has the property with
its name. -/
def SerialPortAnswers.NamesPort (os : SerialPortAnswers) (interfaceNumber : UInt8) : Prop :=
  ∀ entries selected, os.traversal = .ok entries →
    searchMarks interfaceNumber {} (entries.filterMap RegistryEntry.mark?) = .ok (some selected) →
    selected.property kIOCalloutDeviceKey ≠ none

/-- A property that is read without an error is null exactly if it is missing. -/
lemma string_ok {entry : RegistryEntry} {name : String} {value : Option String}
    (read : entry.string name = .ok value) : value = none ↔ entry.property name = none := by
  unfold RegistryEntry.string at read
  split at read
  case h_1 missing =>
    cases read
    exact iff_of_true rfl missing
  case h_2 there =>
    cases read
    exact iff_of_false (Option.some_ne_none _) (there ▸ Option.some_ne_none _)
  all_goals cases read

/-- A port that was created has the name that its service has, which may be none. -/
lemma serialPortCreate_names {m : Holdings RefKind} {machErrorString : UInt32 → String}
    {device : Option (Box Device)} {interfaceNumber : UInt8} {composite : Bool}
    {os : SerialPortAnswers} {port : Box SerialPort} {s s' : System} (own : s.Owns m)
    (run : serialPortCreate machErrorString device interfaceNumber composite true os s =
      .ok ((none, some port), s')) :
    (content port).portName ≠ none ↔ os.NamesPort interfaceNumber := by
  cases device with
  | none =>
    obtain ⟨error, t, _, rest⟩ := bind_ok run
    cases rest
  | some device =>
    have ended := (wp_mono (serialPortCreate_ends ⟨own, rfl⟩ machErrorString device interfaceNumber
      composite os) fun _ _ => Ends.ended).elim run
    obtain ⟨_, ⟨⟩, outcome, _⟩ := ended
    obtain ⟨service, _, outcome⟩ := of_bind_ok outcome
    obtain ⟨entries, iterated, outcome⟩ := of_bind_ok outcome
    obtain ⟨found, searched, outcome⟩ := of_bind_ok outcome
    obtain ⟨selected, there, outcome⟩ := of_bind_ok outcome
    obtain ⟨portName, read, said⟩ := of_bind_ok outcome
    obtain rfl : found = some selected := by
      cases found with
      | none => cases there
      | some entry =>
        cases there
        rfl
    have name : portName = (content port).portName :=
      congrArg SerialPortView.portName (Except.ok.inj said)
    have traversed : os.traversal = .ok entries := by
      cases answer : os.traversal with
      | error result =>
        rw [answer] at iterated
        cases iterated
      | ok entries' =>
        rw [answer] at iterated
        cases iterated
        rfl
    rw [← name, Ne, string_ok read]
    constructor
    · intro has entries' selected' traversed' searched'
      rw [traversed] at traversed'
      cases traversed'
      rw [searched] at searched'
      cases searched'
      exact has
    · exact fun names => names entries selected traversed searched

end Mac

/-- A serial port that `libusbp_serial_port_create` or `libusbp_serial_port_copy` handed out has its
strings, and its name can be asked for and copied, whatever udev or the registry of Windows contains.
On macOS exactly a service without the property `IOCalloutDevice` makes a port without a name. -/
theorem serialPorts_named_iff (interfaceNumber : UInt8) (composite : Bool) :
    (∀ (device : Option (Box Linux.Device)) (os : Linux.SerialPortAnswers) (s s' : Linux.System)
        (port port' : Box Linux.SerialPort),
      Linux.serialPortCreate device interfaceNumber composite true os s = .ok ((none, some port), s') →
      Copies Linux.serialPortCopy port port' →
      (content port').Built ∧ Returns Linux.serialPortGetName Linux.serialPortCopy port') ∧
    (∀ (formatMessage : UInt32 → String) (device : Option (Box Windows.Device))
        (os retry : Windows.SerialPortAnswers) (s s' : Windows.System)
        (port port' : Box Windows.SerialPort),
      Windows.serialPortCreate formatMessage device interfaceNumber composite true os retry s =
        .ok ((none, some port), s') →
      Copies Windows.serialPortCopy port port' →
      (content port').Built ∧ Returns Windows.serialPortGetName Windows.serialPortCopy port') ∧
    (∀ (machErrorString : UInt32 → String) (device : Option (Box Mac.Device))
        (os : Mac.SerialPortAnswers) (m : Holdings Mac.RefKind) (s s' : Mac.System)
        (port : Box Mac.SerialPort), s.Owns m →
      Mac.serialPortCreate machErrorString device interfaceNumber composite true os s =
        .ok ((none, some port), s') →
      ((∀ port', Copies Mac.serialPortCopy port port' → (content port').portName ≠ none ∧
          Returns Mac.serialPortGetName Mac.serialPortCopy port') ↔
        os.NamesPort interfaceNumber)) := by
  refine ⟨?_, ?_, ?_⟩
  · intro device os s s' port port' run copies
    have built : (content port').Built := by
      rw [copies.content_eq fun _ _ _ _ copied => (Linux.serialPortCopy_same copied).1]
      exact Linux.serialPortCreate_built run
    exact ⟨built, built.returns⟩
  · intro formatMessage device os retry s s' port port' run copies
    have built : (content port').Built := by
      rw [copies.content_eq fun _ _ _ _ copied => (Windows.serialPortCopy_same copied).1]
      exact Windows.serialPortCreate_built run
    exact ⟨built, built.returns⟩
  · intro machErrorString device os m s s' port own run
    rw [← Mac.serialPortCreate_names own run]
    constructor
    · exact fun all => (all port .refl).1
    · intro named port' copies
      rw [← copies.content_eq fun _ _ _ _ copied => (Mac.serialPortCopy_same copied).1] at named
      exact ⟨named, Mac.SerialPortView.returns named⟩

/-- A USB device, with an interface and a terminal below it. -/
def portEntry (syspath devtype subsystem : String) (usbParent : Option String) : Linux.UdevInfo where
  syspath := syspath
  devtype := some devtype
  sysattr := fun name => if name = "bInterfaceNumber" then some "00" else none
  usbParent := usbParent
  driver := none
  devnode := none
  subsystem := some subsystem
  property := fun name => if name = "DEVNAME" then some "/dev/ttyACM0" else none
  isInitialized := true

omit [DecidableEq κ] in
/-- An object was created, and copied. -/
lemma copied_of_returns (create : Prog Fault (Host κ) (Option Error × Option α))
    (copy : Option α → Bool → Prog Fault (Host κ) (Option Error × Option α)) (s : Host κ)
    (made : returns (do
      let r ← create
      let r' ← copy r.2 true
      pure (r, r')) s (fun r => r.1.1.isNone && r.1.2.isSome && (r.2.1.isNone && r.2.2.isSome)) = true) :
    ∃ source dest s₁ s₂, create s = .ok ((none, some source), s₁) ∧
      copy (some source) true s₁ = .ok ((none, some dest), s₂) := by
  obtain ⟨r, s₂, run, test⟩ := ok_of_returns made
  obtain ⟨⟨error, source⟩, s₁, created, run⟩ := bind_ok run
  obtain ⟨⟨error', dest⟩, _, copied, last⟩ := bind_ok run
  cases last
  simp only [Bool.and_eq_true, Option.isNone_iff_eq_none] at test
  obtain ⟨⟨rfl, there⟩, rfl, there'⟩ := test
  obtain ⟨source, rfl⟩ := Option.isSome_iff_exists.mp there
  obtain ⟨dest, rfl⟩ := Option.isSome_iff_exists.mp there'
  exact ⟨source, dest, s₁, s₂, created, copied⟩

/-- On Linux and on Windows a port is created, and its copy has a name. -/
theorem serialPorts_named_iff_example :
    let interface := portEntry "/usb1:0" "usb_interface" "usb" (some "/usb1")
    let tty := portEntry "/usb1:0/tty" "tty" "tty" none
    let device : Box Linux.Device := ⟨100, ⟨some ⟨101, "/usb1"⟩, none, 0x2300, 0x1ffb, 0x0100⟩⟩
    let os : Linux.SerialPortAnswers :=
      ⟨true, ⟨true, 0, 0, [⟨"/usb1:0", some interface⟩]⟩, ⟨true, 0, 0, [⟨"/usb1:0/tty", some tty⟩]⟩⟩
    let answers := Windows.namedAnswers ⟨Windows.regSz, [67, 79, 77, 51, 0]⟩
    (∃ port port' s₁ s₂, Linux.serialPortCreate (some device) 0 false true os
        ⟨⟨fun _ => true, 0, []⟩, 0, []⟩ = .ok ((none, some port), s₁) ∧
      Linux.serialPortCopy (some port) true s₁ = .ok ((none, some port'), s₂) ∧
      Returns Linux.serialPortGetName Linux.serialPortCopy port') ∧
    ∃ port port' s₁ s₂, Windows.serialPortCreate (fun _ => "") (some Windows.namedDevice) 0 false true
        answers answers ⟨⟨fun _ => true, 0, []⟩, 0, []⟩ = .ok ((none, some port), s₁) ∧
      Windows.serialPortCopy (some port) true s₁ = .ok ((none, some port'), s₂) ∧
      Returns Windows.serialPortGetName Windows.serialPortCopy port' := by
  intro interface tty device os answers
  constructor
  · obtain ⟨port, port', s₁, s₂, created, copied⟩ := copied_of_returns
      (Linux.serialPortCreate (some device) 0 false true os) Linux.serialPortCopy
      ⟨⟨fun _ => true, 0, []⟩, 0, []⟩ (by decide +kernel)
    exact ⟨port, port', s₁, s₂, created, copied, ((serialPorts_named_iff 0 false).1 _ os _ s₁ port port'
      created (.single ⟨s₁, s₂, copied⟩)).2⟩
  · obtain ⟨port, port', s₁, s₂, created, copied⟩ := copied_of_returns
      (Windows.serialPortCreate (fun _ => "") (some Windows.namedDevice) 0 false true answers answers)
      Windows.serialPortCopy ⟨⟨fun _ => true, 0, []⟩, 0, []⟩ (by decide +kernel)
    exact ⟨port, port', s₁, s₂, created, copied, ((serialPorts_named_iff 0 false).2.1 _ _ answers answers
      _ s₁ port port' created (.single ⟨s₁, s₂, copied⟩)).2⟩

/-- A serial port without the property is created all the same, and asking for its name or copying it
is a failed assertion. -/
theorem serialPorts_unnamed :
    let entry (name : String) (i : Int32) : Mac.RegistryEntry :=
      { conformsTo := (· == name)
        property := fun key => if key = "bInterfaceNumber" then some (.number i true) else none
        entryId := .ok 1 }
    let os : Mac.SerialPortAnswers := ⟨⟨true, some (entry "IOUSBHostDevice" 0)⟩,
      .ok [entry "IOUSBHostInterface" 2, entry "IOSerialBSDClient" 0]⟩
    ∃ port s', Mac.serialPortCreate (fun _ => "") (some ⟨0, {}⟩) 2 true true os
        ⟨⟨fun _ => true, 0, []⟩, 0, []⟩ = .ok ((none, some port), s') ∧
      (content port).portName = none ∧
      Mac.serialPortGetName (some port) true s' = .error .assertion ∧
      Mac.serialPortCopy (some port) true s' = .error .assertion :=
  ⟨_, _, rfl, rfl, rfl, rfl⟩

end Libusbp
