import Libusbp.CopyContract
import Libusbp.Mac.GenericInterface
import Libusbp.Mac.SerialPort

/-!
# Copies on macOS

A serial port whose entry in the registry has no name for it is handed out without one. The string of
its name cannot be copied then.
-/

namespace Libusbp.Mac

open Prog Host

/-- The devices are the same to every function that asks one. -/
structure DeviceAlike (a b : Box Device) : Prop where
  content : content a = content b
  vendorId : AnswersAlike deviceGetVendorId a b
  productId : AnswersAlike deviceGetProductId a b
  revision : AnswersAlike deviceGetRevision a b
  serialNumber : AnswersAlike deviceGetSerialNumber a b
  osId : AnswersAlike deviceGetOsId a b

/-- The generic interfaces are the same to every function that asks one. -/
structure GenericInterfaceAlike (a b : Box GenericInterface) : Prop where
  content : content a = content b
  osId : AnswersAlike genericInterfaceGetOsId a b
  osFilename : AnswersAlike genericInterfaceGetOsFilename a b
  deviceId : genericInterfaceGetDeviceId (some a) = genericInterfaceGetDeviceId (some b)
  interfaceNumber :
    genericInterfaceGetInterfaceNumber (some a) = genericInterfaceGetInterfaceNumber (some b)
  interfaceId : genericInterfaceGetInterfaceId (some a) = genericInterfaceGetInterfaceId (some b)

/-- The serial ports are the same to every function that asks one. -/
structure SerialPortAlike (a b : Box SerialPort) : Prop where
  content : content a = content b
  name : AnswersAlike serialPortGetName a b

variable {m : Holdings RefKind} {d : Nat} {s : System} {machErrorString : UInt32 → String}

lemma deviceAlike {a b : Box Device} (same : content a = content b) : DeviceAlike a b where
  content := same
  vendorId := getNumber_alike (congrArg DeviceView.vendorId same)
  productId := getNumber_alike (congrArg DeviceView.productId same)
  revision := getNumber_alike (congrArg DeviceView.revision same)
  serialNumber := by
    have texts : text a.val.serialNumber = text b.val.serialNumber :=
      congrArg DeviceView.serialNumber same
    apply getString_alike
    cases ha : a.val.serialNumber with
    | none =>
      cases hb : b.val.serialNumber with
      | none => rfl
      | some y =>
        rw [ha, hb] at texts
        cases texts
    | some x =>
      cases hb : b.val.serialNumber with
      | none =>
        rw [ha, hb] at texts
        cases texts
      | some y =>
        rw [ha, hb] at texts
        exact congrArg stringCopy texts
  osId := getString_alike (by rw [show a.val.id = b.val.id from congrArg DeviceView.id same])

lemma genericInterfaceAlike {a b : Box GenericInterface} (same : content a = content b) :
    GenericInterfaceAlike a b := by
  have same : a.val = b.val := same
  have osId : AnswersAlike genericInterfaceGetOsId a b := getString_alike (by rw [same])
  exact {
    content := same
    osId := osId
    osFilename := osId
    deviceId := by simp only [genericInterfaceGetDeviceId, expect, pure_bind, same]
    interfaceNumber := by simp only [genericInterfaceGetInterfaceNumber, expect, pure_bind, same]
    interfaceId := by simp only [genericInterfaceGetInterfaceId, expect, pure_bind, same] }

lemma serialPortAlike {a b : Box SerialPort} (same : content a = content b) :
    SerialPortAlike a b where
  content := same
  name := getString_alike (congrArg stringCopy (congrArg SerialPortView.portName same))

/-- `libusbp_device_copy` gives a device that says the same, or an error and nothing else. -/
lemma deviceCopy_ends (own : Holding m d s) (source : Box Device) :
    wp (deviceCopy (some source) true) (Ends m d (Except.map some (.ok (content source)))) s := by
  apply Staged.construct (fun l : DeviceVars => owned l.newDevice) fun _ => deviceFree_givesBack
  apply Ends.stageSome
  · exact allocateZeroed_ends own (by decide) rfl
  · intro e s₁ r
    exact ⟨rfl, (r.of_eq (add_zero m).symm).of_ok⟩
  rintro ⟨a, device⟩ s₁ zeroed own₁
  obtain rfl := eq_blank (Except.ok.inj zeroed)
  apply wp_stages_cons
  simp only [expect, pure_bind, wp_pure]
  apply Ends.stage (o := .ok (text source.val.serialNumber))
  · simp only [expect, pure_bind]
    cases source.val.serialNumber with
    | none => exact wp_pure.mpr ⟨rfl, own₁.of_eq (add_zero _).symm⟩
    | some serialNumber => exact stringCopy_ends own₁ serialNumber.val
  · intro e s₂ r
    exact ⟨rfl, r.of_ok⟩
  intro newSerialNumber s₂ copied own₂
  apply wp_stages_cons
  refine wp_pure.mpr (wp_stages_nil.mpr ⟨?_, own₂.of_eq ?_⟩)
  · have said : text source.val.serialNumber = text newSerialNumber := Except.ok.inj copied
    exact congrArg (fun x => Except.ok (some { content source with serialNumber := x })) said
  · exact (add_assoc _ _ _).trans (add_zero _).symm

/-- `libusbp_generic_interface_copy` gives an object with the same numbers, or an error and nothing
else. -/
lemma genericInterfaceCopy_ends (own : Holding m d s) (source : Box GenericInterface) :
    wp (genericInterfaceCopy (some source) true)
      (Ends m d (Except.map some (.ok (content source)))) s := by
  apply Staged.construct (fun l : GenericInterfaceVars => owned l.newGi)
    fun _ => genericInterfaceFree_givesBack
  apply Ends.stageSome
  · exact allocateZeroed_ends own (by decide) rfl
  · intro e s₁ r
    exact ⟨rfl, (r.of_eq (add_zero m).symm).of_ok⟩
  rintro newGi s₁ zeroed own₁
  apply wp_stages_cons
  simp only [assigning, expect, pure_bind, wp_pure]
  apply wp_stages_cons
  exact wp_pure.mpr (wp_stages_nil.mpr ⟨rfl, own₁.of_eq (add_zero _).symm⟩)

/-- The name of a port without one cannot be copied. -/
lemma serialPortCopy_faults {source : Box SerialPort} (unnamed : source.val.portName = none)
    (granted : s.heap.Grants 1) {Q : Option Error × Option (Box SerialPort) → System → Prop} :
    ¬wp (serialPortCopy (some source) true) Q s := by
  rintro ⟨⟨error, x⟩, s', run, _⟩
  obtain ⟨⟨error', l⟩, t, rest, _⟩ := bind_ok run
  rcases stages_into_ok rest with ⟨e, x, _, made⟩ | ⟨x, t', _, rest⟩
  · exact ((allocateZeroed_requests (by decide)).error made).2 granted
  have fault {e : Option Error} {x : Option (Box String)} {l : SerialPortVars} {t t' : System} :
      (do
        let _ ← expect .nullPointer l.newPort
        stringCopy (text source.val.portName) : Prog Fault System _) t ≠ .ok ((e, x), t') := by
    intro copied
    obtain ⟨_, _, _, copied⟩ := bind_ok copied
    rw [unnamed] at copied
    cases copied
  rcases stages_into_ok rest with ⟨e, x, _, copied⟩ | ⟨x, t'', copied, _⟩
  · exact fault copied
  · exact fault copied

/-- If the request for the object is denied, nothing is asked about the name. -/
lemma serialPortCopy_denied (own : Holding m d s) (denied : ¬s.heap.Grants 1) (source : Box SerialPort) :
    wp (serialPortCopy (some source) true) (Ends m d (Except.map some (.ok (content source)))) s := by
  apply Staged.construct (fun l : SerialPortVars => owned l.newPort)
    fun _ => serialPortFree_givesBack
  apply Ends.stageRun
  · exact allocateZeroed_ends own (by decide) rfl
  · intro e s₁ r
    exact ⟨rfl, (r.of_eq (add_zero m).symm).of_ok⟩
  · intro x s₁ made
    exact absurd ((allocateZeroed_requests (by decide)).ok made).1 denied

/-- Devices are copied as they should. -/
lemma deviceCopy_keeps : KeepsExactly deviceCopy DeviceAlike
    (fun a => ∃ entry, HandsOut (createDevice machErrorString entry) a) fun _ _ => True := by
  apply keepsExactly_of_ends rfl
  · exact fun m d s a own _ => deviceCopy_ends own a
  · exact fun a b => deviceAlike

/-- Generic interfaces are copied as they should. -/
lemma genericInterfaceCopy_keeps : KeepsExactly genericInterfaceCopy GenericInterfaceAlike
    (fun a => ∃ device interfaceNumber composite os, HandsOut
      (genericInterfaceCreate machErrorString device interfaceNumber composite true os) a)
    fun _ _ => True := by
  apply keepsExactly_of_ends rfl
  · exact fun m d s a own _ => genericInterfaceCopy_ends own a
  · exact fun a b => genericInterfaceAlike

/-- Serial ports are copied as they should exactly if they have a name, or the request for the object
is denied. -/
lemma serialPortCopy_keeps : KeepsExactly serialPortCopy SerialPortAlike
    (fun a => ∃ device interfaceNumber composite os,
      HandsOut (serialPortCreate machErrorString device interfaceNumber composite true os) a)
    fun s a => s.heap.Grants 1 → a.val.portName ≠ none := by
  apply keepsExactly_of rfl
  intro m s a own _
  constructor
  · intro kept granted unnamed
    exact serialPortCopy_faults unnamed granted kept
  · intro named
    have copied : wp (serialPortCopy (some a) true)
        (Ends (m + owned a) s.denials (Except.map some (.ok (content a)))) s := by
      by_cases granted : s.heap.Grants 1
      · obtain ⟨portName, there⟩ := Option.ne_none_iff_exists'.mp (named granted)
        have said : text a.val.portName = some portName.val := congrArg (Option.map Box.val) there
        exact serialPortCopy_ends ⟨own, rfl⟩ said
      · exact serialPortCopy_denied ⟨own, rfl⟩ granted a
    apply wp_mono copied
    exact fun r s' h => h.copyContract fun _ => serialPortAlike

end Libusbp.Mac
