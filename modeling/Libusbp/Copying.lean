import Libusbp.Linux.Copying
import Libusbp.Mac.Copying
import Libusbp.Windows.Copying

/-!
# Copies of the objects of the API

Nine functions copy an object. Two of them do not always keep the contract: on Linux the copy of a
generic interface is silently missing if a request for memory is denied, and on macOS a serial port
without a name cannot be copied.
-/

namespace Libusbp

open Prog Host

/-- An object that its constructor handed out is copied with an error or completely, wherever requests
for memory are denied. On Linux that is so for a generic interface exactly if all requests of the call
are granted, and on macOS for a serial port exactly if it has a name, or the first request is denied. -/
theorem copies_keepExactly (formatMessage machErrorString : UInt32 → String) :
    (KeepsExactly Linux.deviceCopy Linux.DeviceAlike
        (fun a => ∃ dev, HandsOut (Linux.deviceCreate dev) a) (fun _ _ => True) ∧
      KeepsExactly Linux.genericInterfaceCopy Linux.GenericInterfaceAlike
        (fun a => ∃ device interfaceNumber composite os, HandsOut
          (Linux.genericInterfaceCreate device interfaceNumber composite true os) a)
        (fun s a => s.heap.Grants a.val.copyRequests) ∧
      KeepsExactly Linux.serialPortCopy Linux.SerialPortAlike
        (fun a => ∃ device interfaceNumber composite os, HandsOut
          (Linux.serialPortCreate device interfaceNumber composite true os) a)
        (fun _ _ => True)) ∧
    (KeepsExactly Windows.deviceCopy Windows.DeviceAlike
        (fun a => ∃ info, HandsOut (Windows.createDevice formatMessage info) a)
        (fun _ _ => True) ∧
      KeepsExactly Windows.genericInterfaceCopy Windows.GenericInterfaceAlike
        (fun a => ∃ device interfaceNumber composite os, HandsOut
          (Windows.genericInterfaceCreate formatMessage device interfaceNumber composite true os) a)
        (fun _ _ => True) ∧
      KeepsExactly Windows.serialPortCopy Windows.SerialPortAlike
        (fun a => ∃ device interfaceNumber composite os retry, HandsOut
          (Windows.serialPortCreate formatMessage device interfaceNumber composite true os retry) a)
        (fun _ _ => True)) ∧
    (KeepsExactly Mac.deviceCopy Mac.DeviceAlike
        (fun a => ∃ entry, HandsOut (Mac.createDevice machErrorString entry) a)
        (fun _ _ => True) ∧
      KeepsExactly Mac.genericInterfaceCopy Mac.GenericInterfaceAlike
        (fun a => ∃ device interfaceNumber composite os, HandsOut
          (Mac.genericInterfaceCreate machErrorString device interfaceNumber composite true os) a)
        (fun _ _ => True) ∧
      KeepsExactly Mac.serialPortCopy Mac.SerialPortAlike
        (fun a => ∃ device interfaceNumber composite os, HandsOut
          (Mac.serialPortCreate machErrorString device interfaceNumber composite true os) a)
        (fun s a => s.heap.Grants 1 → a.val.portName ≠ none)) :=
  ⟨⟨Linux.deviceCopy_keeps, Linux.genericInterfaceCopy_keeps, Linux.serialPortCopy_keeps⟩,
    ⟨Windows.deviceCopy_keeps, Windows.genericInterfaceCopy_keeps, Windows.serialPortCopy_keeps⟩,
    ⟨Mac.deviceCopy_keeps, Mac.genericInterfaceCopy_keeps, Mac.serialPortCopy_keeps⟩⟩

namespace Linux

/-- A composite device as udev shows it. -/
def sampleDevice : UdevInfo where
  syspath := "/sys/devices/usb1/1-2"
  devtype := some "usb_device"
  sysattr _ := some "1ffb"
  usbParent := none
  driver := some "usb"
  devnode := some "/dev/bus/usb/001/004"
  subsystem := some "usb"
  property _ := none
  isInitialized := true

/-- Its first interface. -/
def sampleInterface : UdevInfo where
  syspath := "/sys/devices/usb1/1-2/1-2:1.0"
  devtype := some "usb_interface"
  sysattr _ := some "00"
  usbParent := some "/sys/devices/usb1/1-2"
  driver := none
  devnode := none
  subsystem := some "usb"
  property _ := none
  isInitialized := true

/-- What the operating system answers when the interface is looked up. -/
def sampleAnswers : GenericInterfaceAnswers where
  contextCreated := true
  usbList := ⟨true, 0, 0, [⟨sampleInterface.syspath, some sampleInterface⟩]⟩
  devnodeContextCreated := true
  devnodeLookup := some sampleDevice
  access := none
  strerror _ := none

/-- Create the device and then the generic interface, and see whether there is memory for a copy. -/
def sampleRun : Prog Fault System (Option (Box GenericInterface) × Bool) := do
  let (_, device) ← deviceCreate ⟨0, sampleDevice⟩
  let (_, gi) ← genericInterfaceCreate device 0 true true sampleAnswers
  let s ← get
  pure (gi, gi.elim false fun gi => decide (s.heap.Grants gi.val.copyRequests))

/-- A generic interface that was made from nothing. -/
lemma sampleRun_handsOut (grant : Nat → Bool) (granted : Bool)
    (ran : (match sampleRun ⟨⟨grant, 0, []⟩, 0, []⟩ with
      | .ok ((some _, granted'), _) => granted' == granted
      | _ => false) = true) :
    ∃ device gi, ∃ s : System, HandsOut (genericInterfaceCreate (some device) 0 true true sampleAnswers) gi ∧
      s.Owns (owned device + owned gi) ∧ decide (s.heap.Grants gi.val.copyRequests) = granted := by
  cases run : sampleRun ⟨⟨grant, 0, []⟩, 0, []⟩ with
  | error f =>
    rw [run] at ran
    cases ran
  | ok r =>
    obtain ⟨⟨x, granted'⟩, s⟩ := r
    rw [run] at ran
    obtain ⟨⟨error, device⟩, s₁, created, run⟩ := bind_ok run
    obtain ⟨⟨error', y⟩, s₂, created', run⟩ := bind_ok run
    cases run
    cases x with
    | none => cases ran
    | some gi =>
      have ended := (deviceCreate_ends ⟨.empty grant, rfl⟩ ⟨0, sampleDevice⟩).elim created
      obtain ⟨device, ⟨⟩, _, own⟩ | ⟨e, ⟨⟩, _⟩ := ended.elim
      · have built := deviceCreate_built ⟨_, _, _, .empty grant, created⟩
        obtain ⟨syspath, there⟩ := Option.ne_none_iff_exists'.mp built
        have own : Holding (owned device) _ s₁ := own.of_eq (zero_add _)
        have ended := (genericInterfaceCreate_ends own there 0 true sampleAnswers).elim created'
        obtain ⟨gi, ⟨⟩, _, own'⟩ | ⟨e, ⟨⟩, _⟩ := ended.elim
        exact ⟨device, gi, s, ⟨_, _, _, own.owns, created'⟩, own'.owns, by simpa using ran⟩
      · obtain ⟨_, _, _, created'⟩ := bind_ok created'
        cases created'

end Linux

/-- The memory for the copies of a generic interface and of a serial port without a name is there. The
one is copied completely, and the other one not at all. -/
theorem copies_keepExactly_example :
    let entry (name : String) (i : Int32) : Mac.RegistryEntry :=
      { conformsTo := (· == name)
        property := fun key => if key = "bInterfaceNumber" then some (.number i true) else none
        entryId := .ok 1 }
    let os : Mac.SerialPortAnswers := ⟨⟨true, some (entry "IOUSBHostDevice" 0)⟩,
      .ok [entry "IOUSBHostInterface" 2, entry "IOSerialBSDClient" 0]⟩
    (∃ device gi, ∃ s : Linux.System,
      HandsOut (Linux.genericInterfaceCreate (some device) 0 true true Linux.sampleAnswers) gi ∧
      s.Owns (owned device + owned gi) ∧ wp (Linux.genericInterfaceCopy (some gi) true)
        (CopyContract Linux.GenericInterfaceAlike (some gi) (owned device) s) s) ∧
    ∃ port, ∃ s : Mac.System,
      HandsOut (Mac.serialPortCreate (fun _ => "") (some ⟨0, {}⟩) 2 true true os) port ∧
      s.Owns (owned port) ∧ ¬wp (Mac.serialPortCopy (some port) true)
        (CopyContract Mac.SerialPortAlike (some port) 0 s) s := by
  intro entry os
  obtain ⟨⟨_, gis, _⟩, _, _, _, ports⟩ := copies_keepExactly (fun _ => "") (fun _ => "")
  constructor
  · obtain ⟨device, gi, s, made, own, granted⟩ :=
      Linux.sampleRun_handsOut (fun _ => true) true (by decide +kernel)
    refine ⟨device, gi, s, made, own, (gis (owned device) s (some gi) own ?_).mpr ?_⟩
    · rintro _ ⟨⟩
      exact ⟨_, _, _, _, made⟩
    · rintro _ ⟨⟩
      exact of_decide_eq_true granted
  · obtain ⟨port, s, run, unnamed, granted⟩ : ∃ port, ∃ s : Mac.System,
        Mac.serialPortCreate (fun _ => "") (some ⟨0, {}⟩) 2 true true os
          ⟨⟨fun _ => true, 0, []⟩, 0, []⟩ = .ok ((none, some port), s) ∧
        port.val.portName = none ∧ s.heap.Grants 1 := ⟨_, _, rfl, rfl, fun _ _ => rfl⟩
    have made : HandsOut (Mac.serialPortCreate (fun _ => "") (some ⟨0, {}⟩) 2 true true os) port :=
      ⟨_, _, _, .empty _, run⟩
    have ended := (Mac.serialPortCreate_ends ⟨.empty _, rfl⟩ _ ⟨0, {}⟩ 2 true os).elim run
    obtain ⟨port, ⟨⟩, _, own⟩ | ⟨e, ⟨⟩, _⟩ := ended.elim
    refine ⟨port, s, made, own.owns.of_eq (zero_add _), fun kept => ?_⟩
    have named := (ports 0 s (some port) own.owns ?_).mp kept port rfl granted
    · exact named unnamed
    · rintro _ ⟨⟩
      exact ⟨_, _, _, _, made⟩

/-- With the request for the copy denied, there is neither a copy of the generic interface nor an
error. -/
theorem genericInterfaceCopy_silent :
    ∃ device gi, ∃ s : Linux.System,
      HandsOut (Linux.genericInterfaceCreate (some device) 0 true true Linux.sampleAnswers) gi ∧
      s.Owns (owned device + owned gi) ∧
      wp (Linux.genericInterfaceCopy (some gi) true) (fun r _ => r = (none, none)) s ∧
      ¬wp (Linux.genericInterfaceCopy (some gi) true)
        (CopyContract Linux.GenericInterfaceAlike (some gi) (owned device) s) s := by
  obtain ⟨device, gi, s, made, own, denied⟩ :=
    Linux.sampleRun_handsOut (fun n => n < 10) false (by decide +kernel)
  have denied := of_decide_eq_false denied
  have silent : wp (Linux.genericInterfaceCopy (some gi) true) (fun r _ => r = (none, none)) s := by
    obtain ⟨_, _, _, _, run⟩ := made
    apply wp_mono (Linux.genericInterfaceCopy_returns ⟨own, rfl⟩ (Linux.genericInterfaceCreate_built run))
    rintro ⟨_ | e, _ | copy⟩ s' returned
    · rfl
    · exact absurd returned.1 denied
    · exact returned.elim
    · exact returned.elim
  refine ⟨device, gi, s, made, own, silent, fun kept => ?_⟩
  obtain ⟨_, s', _, contract, rfl⟩ := kept.and silent
  exact contract.complete.mp rfl

end Libusbp
