import Libusbp.DeviceList
import Libusbp.Lib.First
import Libusbp.Windows.Device

/-!
# Listing devices on Windows

`list_windows.c`. The loop frees the error of a device that cannot be made and goes on. It ends where
the device information list ends, where enumerating it fails or where a device cannot be appended.
-/

namespace Libusbp.Windows

open Prog Host

/-- `try_create_device` -/
def tryCreateDevice (formatMessage : UInt32 → String) (info : DevInfo) :
    Prog Fault System (Option (Box Device)) := do
  let (error, device) ← createDevice formatMessage info
  if error.isSome then do
    check .assertion device.isNone
    inHeap (errorFree error)
  pure device

/-- A round of the loop of `libusbp_list_connected_devices`, for the device at the index. -/
def listRound (formatMessage : UInt32 → String) (info : DevInfo) (list : NewList Device) :
    Prog Fault System (Option Error × NewList Device) := do
  let device ← tryCreateDevice formatMessage info
  appendIfMade list device

/-- The end of the loop, with the error code behind the last device. -/
def listEnd (formatMessage : UInt32 → String) (last : UInt32) : Prog Fault System (Option Error) :=
  if last = errorNoMoreItems then pure none
  else inHeap
    (errorCreateWinapi formatMessage last "Failed to test for the end of the USB device list.")

/-- The variables of `libusbp_list_connected_devices`. -/
structure ListingVars where
  handle : Option DevInfoSet := none
  list : NewList Device := {}
  outputs : ListOutputs Device

/-- The steps that open the device information list and make the empty list. -/
def listingStart (formatMessage : UInt32 → String) (usbDevices : Except UInt32 DevInfoList) :
    List (ListingVars → Prog Fault System (Option Error × ListingVars)) :=
  [fun l => do
      match ← setupDiGetClassDevs usbDevices with
      | .error errorCode => do
        let error ← inHeap
          (errorCreateWinapi formatMessage errorCode "Failed to list all USB devices.")
        pure (error, l)
      | .ok handle => pure (none, { l with handle := some handle }),
    into (fun _ => deviceListCreate) fun l x => { l with list := { l.list with newList := x } }]

/-- The steps that fill the list and pass it to the caller. -/
def listingRest (formatMessage : UInt32 → String) (deviceCount : Bool) :
    List (ListingVars → Prog Fault System (Option Error × ListingVars)) :=
  [fun l => do
      let handle ← expect .nullPointer l.handle
      let (error, list) ← fillList (listRound formatMessage)
        (listEnd formatMessage handle.contents.last) handle.contents.devices l.list
      pure (error, { l with list := list }),
    fun l => pure (none, { l with
      list := { l.list with newList := none }
      outputs := l.outputs.pass l.list deviceCount })]

def ListingVars.cleanUp (l : ListingVars) : Prog Fault System Unit := do
  setupDiDestroyDeviceInfoList l.handle
  freeDevicesAndList deviceFree l.list.newList

def listConnectedDevices (formatMessage : UInt32 → String) (deviceList deviceCount : Bool)
    (usbDevices : Except UInt32 DevInfoList) :
    Prog Fault System (Option Error × ListOutputs Device) :=
  if deviceList = false then do
    let error ← inHeap (errorCreate "Device list output pointer is null.")
    pure (error, .start deviceCount)
  else
    construct (listingStart formatMessage usbDevices ++ listingRest formatMessage deviceCount)
      ListingVars.cleanUp (·.outputs) { outputs := .start deviceCount }

/-- Whether the requests for memory of the appends will be granted, if the loop is reached. -/
def listingAppendsGranted (formatMessage : UInt32 → String) (deviceList deviceCount : Bool)
    (usbDevices : Except UInt32 DevInfoList) (s : System) : Bool :=
  if deviceList = false then true
  else match stages (listingStart formatMessage usbDevices) { outputs := .start deviceCount } s with
    | .ok ((none, { handle := some handle, list := list, .. }), s₀) =>
      appendsGranted (tryCreateDevice formatMessage) (listRound formatMessage)
        handle.contents.devices list s₀
    | _ => true

variable {m : Holdings RefKind} {d : Nat} {s : System}

lemma tryCreateDevice_tries (own : Holding m d s) (formatMessage : UInt32 → String) (info : DevInfo) :
    wp (tryCreateDevice formatMessage info) (fun device s' =>
      s'.Owns (m + owned device) ∧ Tried info.device? d device s') s :=
  Makes.wp_attempt (createDevice_makes own formatMessage info)

/-- A round loses its device exactly if the append is denied. -/
lemma listRound_appends {list : NewList Device} {devices : List (Box Device)} (h : list.Holds devices)
    (own : s.Owns (m + owned list.newList)) (formatMessage : UInt32 → String) (info : DevInfo) :
    wp (listRound formatMessage info list) (Appends info.device? m
      (appendGranted (tryCreateDevice formatMessage info) s) devices s.denials) s := by
  simp only [listRound, wp_bind]
  apply wp_mono (tryCreateDevice_tries ⟨own, rfl⟩ formatMessage info).run
  rintro device s₁ ⟨⟨own₁, tried⟩, run⟩
  rw [appendGranted, run]
  exact appendIfMade_appends h own₁ tried

/-- The outcome of the end of the loop. -/
def listEndOutcome (formatMessage : UInt32 → String) (last : UInt32) : Except ErrorValue Unit :=
  failIf (last ≠ errorNoMoreItems)
    (winapiError formatMessage last "Failed to test for the end of the USB device list.")

lemma listEnd_checks (formatMessage : UInt32 → String) (last : UInt32) (m : Holdings RefKind) (d : Nat)
    (s : System) (own : Holding m d s) :
    wp (listEnd formatMessage last) (Checked m d (listEndOutcome formatMessage last)) s := by
  apply wp_ite
  · intro noMore
    exact wp_pure.mpr ⟨if_neg (not_not.mpr noMore), own⟩
  · intro other
    apply wp_createWinapiError own
    intro e s' r
    refine r.mono fun v hv => ?_
    rw [hv]
    exact if_pos other

/-- What `libusbp_list_connected_devices` lists: the devices of the entries that tell one, in order. -/
def listingOutcome (formatMessage : UInt32 → String) (usbDevices : Except UInt32 DevInfoList) :
    Except ErrorValue (List DeviceView) := do
  let list ← usbDevices.mapError (winapiError formatMessage · "Failed to list all USB devices.")
  listEndOutcome formatMessage list.last
  pure (list.devices.filterMap DevInfo.device?)

lemma listingOutcome_built {formatMessage : UInt32 → String} {usbDevices : Except UInt32 DevInfoList}
    {views : List DeviceView} (ok : listingOutcome formatMessage usbDevices = .ok views) :
    ∀ view ∈ views, view.Built := by
  obtain ⟨list, _, ok⟩ := of_bind_ok ok
  obtain ⟨_, _, ok⟩ := of_bind_ok ok
  obtain rfl := Except.ok.inj ok
  intro view mem
  obtain ⟨info, _, there⟩ := List.mem_filterMap.mp mem
  exact DevInfo.device?_built there

/-- What the variables hold besides the outputs. -/
def ListingVars.others (l : ListingVars) : Holdings RefKind := owned l.handle + owned l.list.newList

lemma ListingVars.cleanUp_givesBack {l : ListingVars}
    (list : l.list.newList = none ∨ ∃ devices, l.list.Holds devices) :
    GivesBack l.cleanUp l.others := by
  have freed : GivesBack (freeDevicesAndList deviceFree l.list.newList) (owned l.list.newList) :=
    freeDevicesAndList?_givesBack list fun _ => deviceFree_givesBack
  exact .seq setupDiDestroyDeviceInfoList_givesBack freed

/-- The steps ahead of the loop opened a list and made an empty one, or failed without a list. -/
def Started (formatMessage : UInt32 → String) (usbDevices : Except UInt32 DevInfoList)
    (m : Holdings RefKind) (d : Nat) (outputs : ListOutputs Device) (r : Option Error × ListingVars)
    (s : System) : Prop :=
  r.2.outputs = outputs ∧
    match r with
    | (none, l) => (∃ handle, l.handle = some handle ∧ usbDevices = .ok handle.contents) ∧
      l.list.Holds [] ∧ Holding (m + l.others) d s
    | (some e, l) => l.list.newList = none ∧
      Raised (m + l.others) d (fun v => listingOutcome formatMessage usbDevices = .error v) e s

lemma listingStart_started (own : Holding m d s) (formatMessage : UInt32 → String)
    (usbDevices : Except UInt32 DevInfoList) (outputs : ListOutputs Device) :
    wp (stages (listingStart formatMessage usbDevices) { outputs := outputs })
      (Started formatMessage usbDevices m d outputs) s := by
  apply wp_stages_cons
  simp only [wp_bind]
  apply wp_setupDiGetClassDevs own
  · intro handle s₁ contents own₁
    rw [wp_pure]
    refine wp_stages_into ?_
    apply wp_deviceListCreate own₁
    · intro list s₂ holds _ own₂
      exact wp_stages_nil.mpr ⟨rfl, ⟨handle, rfl, contents⟩, holds, own₂.of_eq (add_assoc _ _ _)⟩
    · intro s₂ _ own₂ hd
      refine ⟨rfl, rfl, .denied (own₂.of_eq ?_) hd⟩
      simp [ListingVars.others]
  · intro errorCode failed
    simp only [wp_bind, wp_pure]
    apply wp_createWinapiError own
    refine fun e s₁ r => ⟨rfl, rfl, (r.of_eq (add_zero m).symm).mono fun v hv => ?_⟩
    rw [hv, failed]
    rfl

/-- `libusbp_list_connected_devices` lists the devices of the device information list. -/
lemma listConnectedDevices_enumerates (own : s.Owns m) (formatMessage : UInt32 → String)
    (deviceCount : Bool) (usbDevices : Except UInt32 DevInfoList) :
    wp (listConnectedDevices formatMessage true deviceCount usbDevices)
      (Enumerates (listingOutcome formatMessage usbDevices) m deviceCount
        (listingAppendsGranted formatMessage true deviceCount usbDevices s) s.denials) s := by
  simp only [listConnectedDevices, listingAppendsGranted, Bool.true_eq_false, if_false, construct,
    wp_bind, wp_pure]
  apply wp_stages_append
  apply wp_mono (listingStart_started ⟨own, rfl⟩ formatMessage usbDevices _).run
  rintro ⟨_ | e, handle, list, outputs⟩ s₁ ⟨⟨start, started⟩, run⟩
  · obtain ⟨⟨handle, rfl, contents⟩, holds, own₁⟩ := started
    have own₁' : s₁.Owns (m + owned handle + owned list.newList) :=
      own₁.owns.of_eq (add_assoc _ _ _).symm
    have outcome : listingOutcome formatMessage usbDevices =
        (listEndOutcome formatMessage handle.contents.last).map
          fun _ => handle.contents.devices.filterMap DevInfo.device? := by
      have opened : usbDevices.mapError (winapiError formatMessage · "Failed to list all USB devices.") =
          .ok handle.contents := by
        rw [contents]
        rfl
      rw [listingOutcome, ok_bind opened]
      cases listEndOutcome formatMessage handle.contents.last <;> rfl
    rw [run, outcome, ← own₁.denials]
    apply wp_stages_cons
    simp only [expect, pure_bind, wp_bind]
    apply wp_mono (wp_fillList
      (fun info l devices s h own => listRound_appends h own formatMessage info)
      (listEnd_checks formatMessage handle.contents.last) handle.contents.devices holds own₁' .nil)
    rintro ⟨_ | e, list₁⟩ s₂ fills
    · obtain ⟨ends, granted, devices, holds₁, own₂, listed⟩ := fills
      refine wp_pure.mpr (wp_stages_cons (wp_pure.mpr (wp_stages_nil.mpr ?_)))
      have own₂' : Holding (m + owned list₁.newList + (owned handle + 0)) s₂.denials s₂ :=
        ⟨own₂.of_eq (by abel), rfl⟩
      apply (ListingVars.cleanUp_givesBack (.inl rfl)).wp own₂'
      intro s₃ own₃
      refine ⟨granted, _, list₁, devices, ?_, holds₁, congrArg (·.pass list₁ deviceCount) start,
        own₃.owns, listed.settle own₃.denials⟩
      rw [ends]
      rfl
    · obtain ⟨devices, lost, d', holds₁, granted, later, raised⟩ := fills
      refine wp_pure.mpr ?_
      have raised : Raised (m + owned lost + (owned handle + owned list₁.newList)) d' _ e s₂ :=
        raised.of_eq (by abel)
      apply (ListingVars.cleanUp_givesBack (.inr ⟨devices, holds₁⟩)).wp_raised raised
      refine fun s₃ r₃ => ⟨start, lost, d', granted, later, r₃.mono fun v hv => ?_⟩
      rw [hv]
      rfl
  · obtain ⟨null, r⟩ := started
    rw [run]
    apply (ListingVars.cleanUp_givesBack (.inl null)).wp_raised r
    refine fun s₂ r₂ => ⟨start, none, _, rfl, Nat.le_refl _, r₂.of_eq ?_⟩
    rw [owned_none, add_zero]

/-- The call keeps every device but the one whose append is denied, and passes a list of devices with a
device instance ID to the caller, with its count. -/
lemma listConnectedDevices_listsBut (own : s.Owns m) (formatMessage : UInt32 → String)
    (deviceList deviceCount : Bool) (usbDevices : Except UInt32 DevInfoList) :
    wp (listConnectedDevices formatMessage deviceList deviceCount usbDevices)
      (ListsBut (fun dev => (content dev).Built) m deviceCount
        (listingAppendsGranted formatMessage deviceList deviceCount usbDevices s)) s := by
  cases deviceList with
  | false =>
    simp only [listConnectedDevices, listingAppendsGranted, if_true, wp_bind, wp_pure]
    apply Holding.wp_create ⟨own, rfl⟩
    exact fun e s₁ r => .none ⟨rfl, _, r.any⟩
  | true =>
    apply wp_mono (listConnectedDevices_enumerates own formatMessage deviceCount usbDevices)
    refine fun r s' enumerates => enumerates.listsBut.mono ?_
    rintro dev ⟨views, ok, mem⟩
    exact listingOutcome_built ok _ mem

lemma listConnectedDevices_passes (own : s.Owns m) (formatMessage : UInt32 → String)
    (deviceList deviceCount : Bool) (usbDevices : Except UInt32 DevInfoList) :
    wp (listConnectedDevices formatMessage deviceList deviceCount usbDevices)
      (fun r s' => KeepsBut m deviceCount
        (listingAppendsGranted formatMessage deviceList deviceCount usbDevices s) r s' ∧
        Passed deviceCount r) s := by
  apply wp_mono (listConnectedDevices_listsBut own formatMessage deviceList deviceCount usbDevices)
  exact fun r s' lists => lists.passes

end Libusbp.Windows
