import Libusbp.FindDevice

/-!
# What the system enumerates

The lists of `libusbp_list_connected_devices`, and the devices that `libusbp_find_device_with_vid_pid`
finds in them, in terms of what the system enumerates: of the entries that tell a device, none is left
out, doubled or moved while the requests for memory are granted, and a denied request leaves out
devices and nothing else.
-/

namespace Libusbp

open Prog Host

/-- On every platform `libusbp_list_connected_devices` lists the devices of the entries that tell one,
in the order of the enumeration. -/
theorem listings_enumerate (deviceCount : Bool) :
    (∀ (m : Holdings Linux.RefKind) (s : Linux.System) contextCreated os, s.Owns m →
      wp (Linux.listConnectedDevices true deviceCount contextCreated os)
        (Enumerates (Linux.listingOutcome contextCreated os) m deviceCount true s.denials) s) ∧
    (∀ (m : Holdings Windows.RefKind) (s : Windows.System) formatMessage usbDevices, s.Owns m →
      wp (Windows.listConnectedDevices formatMessage true deviceCount usbDevices)
        (Enumerates (Windows.listingOutcome formatMessage usbDevices) m deviceCount
          (Windows.listingAppendsGranted formatMessage true deviceCount usbDevices s) s.denials) s) ∧
    (∀ (m : Holdings Mac.RefKind) (s : Mac.System) machErrorString os, s.Owns m →
      wp (Mac.listConnectedDevices machErrorString true deviceCount os)
        (Enumerates (Mac.listingOutcome machErrorString os) m deviceCount
          (Mac.listingAppendsGranted machErrorString true deviceCount os s) s.denials) s) := by
  refine ⟨?_, ?_, ?_⟩
  · intro m s contextCreated os own
    exact Linux.listConnectedDevices_enumerates own deviceCount contextCreated os
  · intro m s formatMessage usbDevices own
    exact Windows.listConnectedDevices_enumerates own formatMessage deviceCount usbDevices
  · intro m s machErrorString os own
    exact Mac.listConnectedDevices_enumerates own machErrorString deviceCount os

/-- The services on macOS are one that lets nobody read its vendor ID and two of the same product. -/
def threeServices : Mac.ListingAnswers :=
  let device (revision : Int32) (id : UInt64) : Mac.RegistryEntry := {
    conformsTo := fun _ => false
    property := fun name =>
      if name = Mac.kUSBVendorID then some (.number 0x1ffb true)
      else if name = Mac.kUSBProductID then some (.number 0x2300 true)
      else if name = Mac.kUSBDeviceReleaseNumber then some (.number revision true) else none
    entryId := .ok id }
  ⟨true, .ok [⟨fun _ => false, fun _ => none, .ok 70⟩, device 0x100 71, device 0x101 72]⟩

/-- The devices of the last two services are listed. -/
theorem listings_enumerate_example :
    let s : Mac.System := ⟨⟨fun _ => true, 0, []⟩, 0, []⟩
    wp (Mac.listConnectedDevices (fun _ => "") true true threeServices)
      (Enumerates (.ok [⟨71, 0x2300, 0x1ffb, 0x100, none⟩, ⟨72, 0x2300, 0x1ffb, 0x101, none⟩])
        0 true true 0) s := by
  intro s
  have granted : Mac.listingAppendsGranted (fun _ => "") true true threeServices s = true := by
    decide +kernel
  have enumerates := (listings_enumerate true).2.2 0 s (fun _ => "") threeServices (.empty _)
  rw [granted] at enumerates
  exact enumerates

section

variable {κ D β : Type} [DecidableEq κ] [Owned κ D] [Content D β]

/-- What a call that looks for a device among the enumerated ones `o` comes to: the first one that
matches, or one that matches if a request was denied; or the error of the enumeration, or that of a
denied request. -/
def FindsAmong (o : Except ErrorValue (List β)) (isMatch : β → Bool) (d : Nat)
    (r : Option Error × Option (Box D)) (s : Host κ) : Prop :=
  match r with
  | (none, device) => ∃ views, o = .ok views ∧
      (∀ dev, device = some dev → content dev ∈ views ∧ isMatch (content dev) = true) ∧
      (s.denials = d → device.map content = views.find? isMatch)
  | (some e, device) => device = none ∧
      (o = .error e.value ∨ d < s.denials ∧ (ErrorCode.memory : UInt32) ∈ e.value.codes)

variable {api : DeviceFunctions κ D} {vendorOf productOf : D → UInt16} {m : Holdings κ} {s : Host κ}
  {o : Except ErrorValue (List β)} {isMatch : β → Bool} {vendorId productId : UInt16}

/-- With a listing of the enumerated devices, the call finds the first of them that matches. -/
lemma findDeviceWithVidPid_among (reads : api.Reads vendorOf productOf) {granted : Bool}
    {listConnectedDevices : Prog Fault (Host κ) (Option Error × ListOutputs D)}
    (enumerates : wp listConnectedDevices (Enumerates o m true granted s.denials) s)
    (told : ∀ dev : Box D, hasIds vendorOf productOf vendorId productId dev = isMatch (content dev)) :
    wp (findDeviceWithVidPid api listConnectedDevices vendorId productId true)
      (FindsAmong o isMatch s.denials) s := by
  have passes : wp listConnectedDevices
      (fun r s' => KeepsBut m true granted r s' ∧ Passed true r) s :=
    wp_mono enumerates fun r s' h => h.listsBut.passes
  apply wp_mono (findDeviceWithVidPid_run reads passes vendorId productId)
  rintro ⟨_ | e, device⟩ s' ⟨found, outputs', s₁', run', same⟩
  · obtain ⟨outputs, s₁, a, devices, run, list, first, _⟩ := found
    cases run'.symm.trans run
    obtain ⟨_, views, l, devices', ok, holds, passed, _, listed⟩ := enumerates.elim run
    -- the list in the hand of the call is the one that was enumerated
    have equal : devices = devices' := by
      obtain ⟨a', slots⟩ := holds.slots
      rw [passed] at list
      exact deviceArray_inj (list.symm.trans slots)
    subst equal
    refine ⟨views, ok, ?_, fun granted => ?_⟩
    · rintro dev rfl
      have mem := List.mem_of_find?_eq_some first.symm
      exact ⟨listed.sublist.subset (List.mem_map_of_mem mem),
        (told dev).symm.trans (List.find?_some first.symm)⟩
    · have matching : hasIds vendorOf productOf vendorId productId = isMatch ∘ content := funext told
      rw [← listed.all (same.symm.trans granted), List.find?_map, first, matching]
  · obtain ⟨rfl, outputs, run⟩ := found
    obtain ⟨_, lost, d, _, later, raised⟩ := enumerates.elim run
    refine ⟨rfl, ?_⟩
    rcases raised.value with ⟨_, said⟩ | ⟨lt, mem⟩
    · exact .inl said
    · exact .inr ⟨Nat.lt_of_le_of_lt later lt, mem⟩

end

/-- On every platform `libusbp_find_device_with_vid_pid` finds the first device of the enumeration with
the given IDs. -/
theorem findDeviceWithVidPid_enumerates (vendorId productId : UInt16) :
    (∀ (m : Holdings Linux.RefKind) (s : Linux.System) contextCreated os, s.Owns m →
      wp (findDeviceWithVidPid Linux.deviceFunctions
          (Linux.listConnectedDevices true true contextCreated os) vendorId productId true)
        (FindsAmong (Linux.listingOutcome contextCreated os)
          (fun view => view.vendorId = vendorId ∧ view.productId = productId) s.denials) s) ∧
    (∀ (m : Holdings Windows.RefKind) (s : Windows.System) formatMessage usbDevices, s.Owns m →
      wp (findDeviceWithVidPid Windows.deviceFunctions
          (Windows.listConnectedDevices formatMessage true true usbDevices) vendorId productId true)
        (FindsAmong (Windows.listingOutcome formatMessage usbDevices)
          (fun view => view.vendorId = vendorId ∧ view.productId = productId) s.denials) s) ∧
    (∀ (m : Holdings Mac.RefKind) (s : Mac.System) machErrorString os, s.Owns m →
      wp (findDeviceWithVidPid Mac.deviceFunctions
          (Mac.listConnectedDevices machErrorString true true os) vendorId productId true)
        (FindsAmong (Mac.listingOutcome machErrorString os)
          (fun view => view.vendorId = vendorId ∧ view.productId = productId) s.denials) s) := by
  refine ⟨?_, ?_, ?_⟩
  · intro m s contextCreated os own
    exact findDeviceWithVidPid_among Linux.deviceFunctions_reads
      (Linux.listConnectedDevices_enumerates own true contextCreated os) fun _ => rfl
  · intro m s formatMessage usbDevices own
    exact findDeviceWithVidPid_among Windows.deviceFunctions_reads
      (Windows.listConnectedDevices_enumerates own formatMessage true usbDevices) fun _ => rfl
  · intro m s machErrorString os own
    exact findDeviceWithVidPid_among Mac.deviceFunctions_reads
      (Mac.listConnectedDevices_enumerates own machErrorString true os) fun _ => rfl

/-- The first of two devices of the same product is found. -/
theorem findDeviceWithVidPid_enumerates_example :
    let s : Mac.System := ⟨⟨fun _ => true, 0, []⟩, 0, []⟩
    ∃ device s', findDeviceWithVidPid Mac.deviceFunctions
        (Mac.listConnectedDevices (fun _ => "") true true threeServices) 0x1ffb 0x2300 true s =
          .ok ((none, some device), s') ∧
      content device = (⟨71, 0x2300, 0x1ffb, 0x100, none⟩ : Mac.DeviceView) ∧
      FindsAmong (Mac.listingOutcome (fun _ => "") threeServices)
        (fun view => view.vendorId = 0x1ffb ∧ view.productId = 0x2300) 0 (none, some device) s' := by
  intro s
  have found : returns (findDeviceWithVidPid Mac.deviceFunctions
      (Mac.listConnectedDevices (fun _ => "") true true threeServices) 0x1ffb 0x2300 true) s
        (fun r => r.1.isNone && decide (r.2.map content =
          some (⟨71, 0x2300, 0x1ffb, 0x100, none⟩ : Mac.DeviceView))) = true := by
    decide +kernel
  obtain ⟨⟨error, device⟩, s', run, test⟩ := ok_of_returns found
  rw [Bool.and_eq_true, Option.isNone_iff_eq_none, decide_eq_true_iff] at test
  obtain ⟨rfl, device, rfl, said⟩ := test.imp_right Option.map_eq_some_iff.mp
  exact ⟨device, s', run, said, ((findDeviceWithVidPid_enumerates 0x1ffb 0x2300).2.2 0 s (fun _ => "")
    threeServices (.empty _)).elim run⟩

end Libusbp
