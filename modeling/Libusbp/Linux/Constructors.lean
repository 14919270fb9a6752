import Libusbp.Linux.GenericInterface
import Libusbp.Linux.SerialPort

/-!
# The constructors on Linux release everything

`libusbp_generic_interface_create` and `libusbp_serial_port_create` take heap blocks, a udev context,
enumerations and devices on their way. Whatever fails, what they took is given back exactly once,
unless it belongs to the object or the error that they return.
-/

namespace Libusbp.Linux

open Prog Host

variable {m : Holdings RefKind} {s : System} {α : Type}

/-- The checks that come first in a constructor release everything if the rest of it does. -/
lemma checks_release (own : s.Owns m) [Owned RefKind α] {nullOutput nullDevice : String}
    {output : Bool} {device : Option (Box Device)}
    {construct : Box Device → Prog Fault System (Option Error × Option α)}
    (rest : ∀ dev, device = some dev → wp (construct dev) (Releases m) s) :
    wp (if output = false then do
        let error ← inHeap (errorCreate nullOutput)
        pure (error, none)
      else match device with
        | none => do
          let error ← inHeap (errorCreate nullDevice)
          pure (error, none)
        | some dev => construct dev) (Releases m) s := by
  apply wp_ite
  · intro _
    exact raise_releases own _
  intro _
  cases device with
  | none => exact raise_releases own _
  | some dev => exact rest dev rfl

lemma genericInterfaceCreate_releases (own : s.Owns m) {device : Option (Box Device)}
    (built : ∀ dev, device = some dev → (content dev).Built) (interfaceNumber : UInt8)
    (composite gi : Bool) (os : GenericInterfaceAnswers) :
    wp (genericInterfaceCreate device interfaceNumber composite gi os) (Releases m) s := by
  apply checks_release own
  intro dev there
  obtain ⟨syspath, hsyspath⟩ := Option.ne_none_iff_exists'.mp (built dev there)
  apply wp_mono (Staged.withContext GenericInterfaceVars.cleanUp_givesBack
    (genericInterfaceSteps_staged ⟨own, rfl⟩ hsyspath interfaceNumber os))
  exact fun _ _ h => h.releases

lemma serialPortCreate_releases (own : s.Owns m) {device : Option (Box Device)}
    (built : ∀ dev, device = some dev → (content dev).Built) (interfaceNumber : UInt8)
    (composite port : Bool) (os : SerialPortAnswers) :
    wp (serialPortCreate device interfaceNumber composite port os) (Releases m) s := by
  apply checks_release own
  intro dev there
  obtain ⟨syspath, hsyspath⟩ := Option.ne_none_iff_exists'.mp (built dev there)
  apply wp_mono (Staged.construct _ SerialPortVars.cleanUp_givesBack
    (serialPortSteps_staged ⟨own, rfl⟩ hsyspath interfaceNumber os))
  exact fun _ _ h => h.releases

/-- Whatever the operating system answers and whatever requests for memory are denied, the
constructors return an object, or an error and no object, and have given back exactly once everything
that they took and do not return. -/
theorem constructors_release (own : s.Owns m) {device : Option (Box Device)}
    (built : ∀ dev, device = some dev → (content dev).Built) (interfaceNumber : UInt8)
    (composite output : Bool) (giAnswers : GenericInterfaceAnswers)
    (portAnswers : SerialPortAnswers) :
    wp (genericInterfaceCreate device interfaceNumber composite output giAnswers) (Releases m) s ∧
      wp (serialPortCreate device interfaceNumber composite output portAnswers) (Releases m) s :=
  ⟨genericInterfaceCreate_releases own built interfaceNumber composite output giAnswers,
    serialPortCreate_releases own built interfaceNumber composite output portAnswers⟩

/-- The request for the third block is denied, with no interface in sight. -/
theorem constructors_release_example :
    let dev : Box Device := ⟨8, ⟨some ⟨9, "/sys/devices/usb1/1-2"⟩, none, 0x1209, 0x1ffb, 0x0100⟩⟩
    let usbList : EnumerateAnswers := ⟨true, 0, 0, [⟨"/sys/devices/usb1", none⟩]⟩
    let s : System := ⟨⟨fun n => n != 2, 0, []⟩, 0, []⟩
    wp (genericInterfaceCreate (some dev) 2 true true
        ⟨true, usbList, true, none, none, fun _ => none⟩) (Releases 0) s ∧
      wp (serialPortCreate (some dev) 2 true true ⟨true, usbList, usbList⟩) (Releases 0) s :=
  constructors_release (.empty _) (by rintro _ ⟨⟩; exact Option.some_ne_none _) 2 true true
    ⟨true, _, true, none, none, fun _ => none⟩ ⟨true, _, _⟩

end Libusbp.Linux
