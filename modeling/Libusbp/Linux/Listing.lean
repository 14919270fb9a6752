import Libusbp.DeviceList
import Libusbp.Linux.Device

/-!
# Listing devices on Linux

`list_linux.c`. The loop over the entries of the enumeration frees the error of an entry that fails
and goes on, so that each entry decides for itself whether its device is listed.
-/

namespace Libusbp.Linux

open Prog Host

def addUdevDeviceToList (dev : Option UdevDevice) (l : NewList Device) :
    Prog Fault System (Option Error × NewList Device) := do
  let dev ← expect .assertion dev
  match ← deviceCreate dev with
  | (some error, _) => pure (some error, l)
  | (none, newDevice) =>
    match ← deviceListAppend l newDevice with
    | (some error, l) => do
      deviceFree newDevice
      pure (some error, l)
    | (none, l) => pure (none, l)

/-- The variables of `add_udev_device_to_list_if_needed`. -/
structure AddVars where
  dev : Option UdevDevice := none
  devtype : String := ""
  skip : Bool := false
  list : NewList Device

/-- The steps of `add_udev_device_to_list_if_needed`. -/
def addSteps (udev : Option Udev) (syspath : String) (lookup : Option UdevInfo) :
    List (AddVars → Prog Fault System (Option Error × AddVars)) :=
  [into (fun _ => udevwGetDeviceFromSyspath udev syspath lookup) fun l x => { l with dev := x },
    into (fun l => do
      let dev ← expect .assertion l.dev
      udevwGetDeviceType dev) fun l x => { l with devtype := x },
    -- interfaces are skipped, and devices that udev has not initialized yet
    fun l => pure (none, { l with skip := l.devtype ≠ "usb_device" }),
    fun l => do
      let dev ← expect .nullPointer l.dev
      pure (none, { l with skip := l.skip || !dev.info.isInitialized }),
    into (fun l => if l.skip then pure (none, l.list) else addUdevDeviceToList l.dev l.list)
      fun l x => { l with list := x }]

def addUdevDeviceToListIfNeeded (udev : Option Udev) (syspath : String) (lookup : Option UdevInfo)
    (list : NewList Device) : Prog Fault System (Option Error × NewList Device) := do
  check .assertion udev.isSome
  construct (addSteps udev syspath lookup) (fun l => udevDeviceUnref l.dev) (·.list) { list := list }

/-- A round of the loop of `libusbp_list_connected_devices`, which frees its error. -/
def addEntry (udev : Option Udev) (entry : UdevEntry) (list : NewList Device) :
    Prog Fault System (NewList Device) := do
  let (error, list) ← addUdevDeviceToListIfNeeded udev entry.name entry.lookup list
  if error.isSome then inHeap (errorFree error)
  pure list

/-- The loop of `libusbp_list_connected_devices` over the entries of the enumeration. -/
def addEntries (udev : Option Udev) : List UdevEntry → NewList Device →
    Prog Fault System (NewList Device)
  | [], list => pure list
  | entry :: entries, list => do
    let list ← addEntry udev entry list
    addEntries udev entries list

/-- The variables of `libusbp_list_connected_devices`. -/
structure ListingVars where
  udev : Option Udev := none
  enumerate : Option UdevEnumerate := none
  list : NewList Device := {}
  outputs : ListOutputs Device

/-- The entries of the enumeration. -/
def ListingVars.entries (l : ListingVars) : List UdevEntry := l.enumerate.elim [] (·.entries)

/-- The steps that make the context, the enumeration and the empty list. -/
def listingStart (contextCreated : Bool) (os : EnumerateAnswers) :
    List (ListingVars → Prog Fault System (Option Error × ListingVars)) :=
  [into (fun _ => udevwCreateContext contextCreated) fun l x => { l with udev := x },
    into (fun l => udevwCreateUsbList l.udev os) fun l x => { l with enumerate := x },
    into (fun _ => deviceListCreate) fun l x => { l with list := { l.list with newList := x } }]

/-- The steps that fill the list and pass it to the caller. -/
def listingRest (deviceCount : Bool) :
    List (ListingVars → Prog Fault System (Option Error × ListingVars)) :=
  [fun l => do
      let list ← addEntries l.udev l.entries l.list
      pure (none, { l with list := list }),
    fun l => pure (none, { l with
      list := { l.list with newList := none }
      outputs := l.outputs.pass l.list deviceCount })]

def ListingVars.cleanUp (l : ListingVars) : Prog Fault System Unit := do
  udevEnumerateUnref l.enumerate
  udevUnref l.udev
  freeDevicesAndList deviceFree l.list.newList

def listConnectedDevices (deviceList deviceCount contextCreated : Bool) (os : EnumerateAnswers) :
    Prog Fault System (Option Error × ListOutputs Device) :=
  if deviceList = false then do
    let error ← inHeap (errorCreate "Device list output pointer is null.")
    pure (error, .start deviceCount)
  else
    construct (listingStart contextCreated os ++ listingRest deviceCount) ListingVars.cleanUp
      (·.outputs) { outputs := .start deviceCount }

/-- What the checks make of an entry: the device to list, or nothing, or an error. -/
def UdevEntry.listed (entry : UdevEntry) : Except ErrorValue (Option DeviceView) := do
  let info ← lookupOutcome entry.name entry.lookup
  let devtype ← info.getDevtype
  if devtype ≠ "usb_device" ∨ info.isInitialized = false then pure none
  else info.deviceOutcome.map some

/-- An attempt to add to a list ended as `o` says: with the device at the end of the list, with the
same list, or with the same list and an error. -/
def Adds (m : Holdings RefKind) (d : Nat) (list : NewList Device) (devices : List (Box Device))
    (o : Except ErrorValue (Option DeviceView)) (r : Option Error × NewList Device) (s : System) :
    Prop :=
  match r with
  | (none, list') => ∃ new : Option (Box Device), o = .ok (new.map content) ∧
    list'.Holds (devices ++ new.toList) ∧ Holding (m + owned list'.newList) d s
  | (some e, list') => list' = list ∧ Raised (m + owned list.newList) d (fun v => o = .error v) e s

variable {m : Holdings RefKind} {d : Nat} {s : System} {list : NewList Device}
  {devices : List (Box Device)}

lemma addUdevDeviceToList_adds (h : list.Holds devices) (own : Holding (m + owned list.newList) d s)
    (dev : UdevDevice) :
    wp (addUdevDeviceToList dev list)
      (Adds m d list devices (dev.info.deviceOutcome.map some)) s := by
  simp only [addUdevDeviceToList, expect, pure_bind, wp_bind]
  apply wp_mono (deviceCreate_ends own dev)
  intro r s₁ made
  obtain ⟨newDevice, rfl, ho, own₁⟩ | ⟨e, rfl, raised⟩ := made.elim
  · simp only [wp_bind]
    apply wp_deviceListAppend h own₁
    · intro list' s₂ _ h' own₂
      rw [wp_pure]
      exact ⟨some newDevice, by rw [ho]; rfl, h', own₂⟩
    · intro s₂ _ own₂ hd
      have r : Raised (m + owned list.newList + owned newDevice) d
          (fun v => dev.info.deviceOutcome.map some = .error v) errorNoMemory s₂ :=
        .denied own₂ hd
      simp only [wp_bind, wp_pure]
      apply deviceFree_givesBack.wp_raised r
      exact fun s₃ r' => ⟨rfl, r'⟩
  · rw [wp_pure]
    refine ⟨rfl, raised.mono fun v hv => ?_⟩
    rw [hv]
    rfl

/-- The device that was looked up is given back after the attempt. -/
lemma Adds.wp_unref {o : Except ErrorValue (Option DeviceView)} {error : Option Error}
    {list' : NewList Device} {dev : Option UdevDevice}
    (h : Adds (m + owned dev) d list devices o (error, list') s)
    {Q : Unit → System → Prop} (post : ∀ s', Adds m d list devices o (error, list') s' → Q () s') :
    wp (udevDeviceUnref dev) Q s := by
  cases error with
  | none =>
    obtain ⟨new, ho, holds, own⟩ := h
    have own' : Holding (m + owned list'.newList + owned dev) d s := own.of_eq (by abel)
    exact udevDeviceUnref_givesBack.wp own' fun s' own'' => post s' ⟨new, ho, holds, own''⟩
  | some e =>
    obtain ⟨same, raised⟩ := h
    have raised' : Raised (m + owned list.newList + owned dev) d (fun v => o = .error v) e s :=
      raised.of_eq (by abel)
    exact udevDeviceUnref_givesBack.wp_raised raised' fun s' r' => post s' ⟨same, r'⟩

lemma addSteps_adds (h : list.Holds devices) (own : Holding (m + owned list.newList) d s)
    (udev : Udev) (entry : UdevEntry) :
    wp (stages (addSteps (some udev) entry.name entry.lookup) { list := list })
      (fun r s' => Adds (m + owned r.2.dev) d list devices entry.listed (r.1, r.2.list) s') s := by
  apply Ends.stageSome
  · exact udevwGetDeviceFromSyspath_ends own udev entry.name entry.lookup
  · intro e s₁ r
    refine ⟨rfl, (r.of_eq (by simp)).mono fun v hv => ?_⟩
    rw [UdevEntry.listed, error_bind hv]
  intro dev s₁ found own₁
  apply Gets.stage
  · simp only [expect, pure_bind]
    exact udevwGetDeviceType_gets own₁ dev
  · intro e devtype s₂ r
    refine ⟨rfl, (r.of_eq (by simp only [owned_some]; abel)).mono fun v hv => ?_⟩
    rw [UdevEntry.listed, ok_bind found]
    exact error_bind hv
  intro devtype s₂ typed own₂
  have listed : entry.listed = if devtype ≠ "usb_device" ∨ dev.info.isInitialized = false
      then .ok none else dev.info.deviceOutcome.map some := by
    rw [UdevEntry.listed, ok_bind found]
    exact ok_bind typed
  have own₂' : Holding (m + owned dev + owned list.newList) d s₂ := own₂.of_eq (by abel)
  rw [listed]
  apply wp_stages_cons
  rw [wp_pure]
  apply wp_stages_cons
  simp only [expect, pure_bind, wp_pure]
  apply wp_stages_into
  apply wp_ite
  · intro skip
    have skip : devtype ≠ "usb_device" ∨ dev.info.isInitialized = false := by simpa using skip
    rw [if_pos skip, wp_pure]
    refine wp_stages_nil.mpr ⟨none, rfl, ?_, own₂'⟩
    rwa [Option.toList_none, List.append_nil]
  · intro needed
    have needed : ¬(devtype ≠ "usb_device" ∨ dev.info.isInitialized = false) := by simpa using needed
    rw [if_neg needed]
    apply wp_mono (addUdevDeviceToList_adds h own₂' dev)
    rintro ⟨_ | e, list'⟩ s₃ added
    · exact wp_stages_nil.mpr added
    · exact added

lemma addUdevDeviceToListIfNeeded_adds (h : list.Holds devices)
    (own : Holding (m + owned list.newList) d s) (udev : Udev) (entry : UdevEntry) :
    wp (addUdevDeviceToListIfNeeded (some udev) entry.name entry.lookup list)
      (Adds m d list devices entry.listed) s := by
  simp only [addUdevDeviceToListIfNeeded, construct, wp_bind, wp_check, wp_pure]
  refine ⟨rfl, ?_⟩
  apply wp_mono (addSteps_adds h own udev entry)
  rintro ⟨error, l⟩ s₁ added
  exact added.wp_unref fun s₂ added' => added'

/-- The device that the checks make of an entry, if there is one. -/
def UdevEntry.device? (entry : UdevEntry) : Option DeviceView :=
  match entry.listed with
  | .ok device => device
  | .error _ => none

/-- A round lists the device of its entry, unless there is none or a request for memory is denied. -/
lemma addEntry_lists (h : list.Holds devices) (own : Holding (m + owned list.newList) d s)
    (udev : Udev) (entry : UdevEntry) :
    wp (addEntry (some udev) entry list) (fun list' s' => ∃ new : Option (Box Device),
      list'.Holds (devices ++ new.toList) ∧ Tried entry.device? s.denials new s' ∧
      Holding (m + owned list'.newList) s'.denials s') s := by
  rw [own.denials]
  simp only [addEntry, wp_bind]
  apply wp_mono (addUdevDeviceToListIfNeeded_adds h own udev entry)
  rintro ⟨_ | e, list'⟩ s₁ added
  · obtain ⟨new, ho, holds, own₁⟩ := added
    simp only [Option.isSome_none, Bool.false_eq_true, if_false, wp_pure]
    refine ⟨new, holds, .inl ⟨own₁.denials, ?_⟩, own₁.owns, rfl⟩
    rw [UdevEntry.device?, ho]
  · obtain ⟨rfl, r⟩ := added
    simp only [Option.isSome_some, if_true, wp_bind, wp_pure]
    apply r.wp_free
    intro s₂ own₂
    refine ⟨none, by rwa [Option.toList_none, List.append_nil], ?_, own₂.owns, rfl⟩
    -- an error without a denied request is the one that the entry leads to
    rw [Tried, own₂.denials]
    rcases r.value with ⟨same, listed⟩ | ⟨lt, _⟩
    · refine .inl ⟨same, ?_⟩
      rw [UdevEntry.device?, listed]
      rfl
    · exact .inr ⟨lt, rfl⟩

/-- For each entry, whether every request for memory was granted in its round. -/
def granted (udev : Option Udev) : List UdevEntry → NewList Device → System → List Bool
  | [], _, _ => []
  | entry :: entries, list, s =>
    match addEntry udev entry list s with
    | .ok (list', s') => (s'.denials == s.denials) :: granted udev entries list' s'
    | .error _ => []

/-- The devices of the entries that pass all the checks with every request granted, in order. -/
def passed (entries : List UdevEntry) (granted : List Bool) : List DeviceView :=
  (entries.zip granted).filterMap fun e => if e.2 then e.1.device? else none

/-- The loop lists the devices of the entries that pass, behind those that are in the list. -/
lemma addEntries_lists (h : list.Holds devices) (own : Holding (m + owned list.newList) d s)
    {views : List DeviceView} {d₀ : Nat} (listed : Listed views d₀ devices s) (udev : Udev)
    (entries : List UdevEntry) :
    wp (addEntries (some udev) entries list) (fun list' s' => ∃ new : List (Box Device),
      list'.Holds (devices ++ new) ∧
      new.map content = passed entries (granted (some udev) entries list s) ∧
      Listed (views ++ entries.filterMap UdevEntry.device?) d₀ (devices ++ new) s' ∧
      Holding (m + owned list'.newList) s'.denials s') s := by
  induction entries generalizing list devices views d s with
  | nil =>
    rw [addEntries, wp_pure]
    refine ⟨[], by rwa [List.append_nil], rfl, ?_, own.owns, rfl⟩
    rwa [List.append_nil, List.filterMap_nil, List.append_nil]
  | cons entry entries ih =>
    rw [addEntries, wp_bind]
    apply wp_mono (addEntry_lists h own udev entry).run
    rintro list₁ s₁ ⟨⟨new, holds, tried, own₁⟩, run⟩
    apply wp_mono (ih holds own₁ (listed.append tried))
    rintro list₂ s₂ ⟨others, holds', views', listed', own₂⟩
    rw [List.append_assoc] at holds'
    rw [List.append_assoc, List.append_assoc, ← filterMap_cons_toList] at listed'
    refine ⟨new.toList ++ others, holds', ?_, listed', own₂⟩
    have added : (new.toList.map content : List DeviceView) =
        (if s₁.denials == s.denials then entry.device? else none).toList := by
      rw [← Option.toList_map, tried.eq_ite]
      simp only [beq_iff_eq]
    rw [List.map_append, views', added, granted, run]
    simp only [passed, List.zip_cons_cons, List.filterMap_cons]
    cases (if s₁.denials == s.denials then entry.device? else none) with
    | none => rfl
    | some device => rfl

lemma addEntries_append {udev : Option Udev} {entries entries' : List UdevEntry} :
    addEntries udev (entries ++ entries') list = (do
      let list ← addEntries udev entries list
      addEntries udev entries' list) := by
  induction entries generalizing list with
  | nil => rw [List.nil_append, addEntries, pure_bind]
  | cons entry entries ih =>
    rw [List.cons_append, addEntries, addEntries, bind_assoc]
    simp only [ih]

/-- The devices that the loop has listed after `n` entries. -/
def ListsSoFar (udev : Option Udev) (entries : List UdevEntry) (list : NewList Device) (s : System)
    (devices : List (Box Device)) (n : Nat) : Prop :=
  ∃ list' s' listed, addEntries udev (entries.take n) list s = .ok (list', s') ∧
    list'.Holds listed ∧ listed <+: devices ∧
    listed.map content = passed (entries.take n) (granted udev (entries.take n) list s)

/-- What the loop has listed is at the front of what it lists in the end. -/
lemma listsSoFar (h : list.Holds []) (own : Holding (m + owned list.newList) d s) (udev : Udev)
    {entries : List UdevEntry} {list' : NewList Device} {s' : System}
    (run : addEntries (some udev) entries list s = .ok (list', s')) (holds : list'.Holds devices)
    (n : Nat) : ListsSoFar (some udev) entries list s devices n := by
  obtain ⟨list₁, s₁, run₁, listed, holds₁, views, told, own₁⟩ :=
    addEntries_lists h own .nil udev (entries.take n)
  obtain ⟨list₂, s₂, run₂, new, holds₂, _⟩ := addEntries_lists holds₁ own₁ told udev (entries.drop n)
  have whole := bind_eq_ok run₁ run₂
  rw [← addEntries_append, List.take_append_drop, run] at whole
  cases whole
  refine ⟨list₁, s₁, listed, run₁, holds₁, ?_, views⟩
  rw [holds.unique holds₂, List.nil_append]
  exact List.prefix_append listed new

/-- What the variables hold besides the outputs. -/
def ListingVars.others (l : ListingVars) : Holdings RefKind :=
  owned l.enumerate + (owned l.udev + owned l.list.newList)

/-- What `libusbp_list_connected_devices` lists: the devices of the entries that tell one, in order. -/
def listingOutcome (contextCreated : Bool) (os : EnumerateAnswers) :
    Except ErrorValue (List DeviceView) := do
  contextOutcome contextCreated
  let entries ← os.outcome "Failed to add a subsystem match."
  pure (entries.filterMap UdevEntry.device?)

/-- The steps ahead of the loop made everything that it needs, or failed without a list. -/
def Started (m : Holdings RefKind) (d : Nat) (contextCreated : Bool) (os : EnumerateAnswers)
    (outputs : ListOutputs Device) (r : Option Error × ListingVars) (s : System) : Prop :=
  r.2.outputs = outputs ∧
    match r with
    | (none, l) => (∃ udev, l.udev = some udev) ∧ l.entries = os.entries ∧
      listingOutcome contextCreated os = .ok (os.entries.filterMap UdevEntry.device?) ∧
      l.list.Holds [] ∧ Holding (m + l.others) d s
    | (some e, l) => l.list.newList = none ∧
      Raised (m + l.others) d (fun v => listingOutcome contextCreated os = .error v) e s

lemma listingStart_started (own : Holding m d s) (contextCreated : Bool) (os : EnumerateAnswers)
    (outputs : ListOutputs Device) :
    wp (stages (listingStart contextCreated os) { outputs := outputs })
      (Started m d contextCreated os outputs) s := by
  apply Ends.stageSome
  · exact udevwCreateContext_ends own contextCreated
  · intro e s₁ r
    refine ⟨rfl, rfl, (r.of_eq (by simp [ListingVars.others])).mono fun v hv => ?_⟩
    exact error_bind hv
  intro udev s₁ created own₁
  apply Ends.stageSome
  · exact udevwCreateUsbList_ends own₁ udev os
  · intro e s₂ r
    refine ⟨rfl, rfl, (r.of_eq (by simp [ListingVars.others])).mono fun v hv => ?_⟩
    rw [listingOutcome, ok_bind created]
    exact error_bind hv
  intro enumerate s₂ listed own₂
  have entries : os.entries = enumerate.entries := EnumerateAnswers.outcome_ok listed
  have outcome : listingOutcome contextCreated os =
      .ok (os.entries.filterMap UdevEntry.device?) := by
    rw [listingOutcome, ok_bind created, ok_bind listed, entries]
    rfl
  apply wp_stages_into
  apply wp_deviceListCreate own₂
  · intro list s₃ holds _ own₃
    refine wp_stages_nil.mpr ⟨rfl, ⟨udev, rfl⟩, entries.symm, outcome, holds, own₃.of_eq ?_⟩
    simp only [ListingVars.others, owned_some]
    abel
  · intro s₃ _ own₃ hd
    have own₃' : s₃.Owns (m + (owned enumerate + (owned udev + 0))) := own₃.of_eq (by abel)
    exact ⟨rfl, rfl, .denied own₃' hd⟩

/-- The loop lists the devices and passes them to the caller. -/
lemma listingRest_passes {l : ListingVars} (udev : Udev) (hudev : l.udev = some udev)
    (h : l.list.Holds []) (own : Holding (m + l.others) d s) (deviceCount : Bool) :
    wp (stages (listingRest deviceCount) l) (fun r s' => ∃ devices list, r = (none, { l with
        list := { list with newList := none }
        outputs := l.outputs.pass list deviceCount }) ∧
      (∃ s₁, addEntries l.udev l.entries l.list s = .ok (list, s₁)) ∧ list.Holds devices ∧
      devices.map content = passed l.entries (granted l.udev l.entries l.list s) ∧
      Listed (l.entries.filterMap UdevEntry.device?) s.denials devices s' ∧
      Holding (m + owned list.newList + (owned l.enumerate + (owned l.udev + 0))) s'.denials s') s := by
  have own' : Holding (m + (owned l.enumerate + owned l.udev) + owned l.list.newList) d s :=
    own.of_eq (by simp only [ListingVars.others]; abel)
  apply wp_stages_cons
  simp only [wp_bind, wp_pure]
  rw [hudev] at own' ⊢
  apply wp_mono (addEntries_lists h own' .nil udev l.entries).run
  rintro list s₁ ⟨⟨devices, holds, views, listed, own₁⟩, run⟩
  apply wp_stages_cons
  rw [wp_pure]
  exact wp_stages_nil.mpr
    ⟨devices, list, rfl, ⟨s₁, run⟩, holds, views, listed, own₁.of_eq (by abel)⟩

lemma ListingVars.cleanUp_givesBack {l : ListingVars}
    (list : l.list.newList = none ∨ ∃ devices, l.list.Holds devices) :
    GivesBack l.cleanUp l.others := by
  have freed : GivesBack (freeDevicesAndList deviceFree l.list.newList) (owned l.list.newList) :=
    freeDevicesAndList?_givesBack list fun _ => deviceFree_givesBack
  exact .seq udevEnumerateUnref_givesBack (.seq udevUnref_givesBack freed)

/-- The device of an entry has a syspath. -/
lemma UdevEntry.device?_built {entry : UdevEntry} {view : DeviceView}
    (there : entry.device? = some view) : view.Built := by
  unfold UdevEntry.device? at there
  split at there
  case h_1 device listing =>
    subst there
    obtain ⟨info, _, listing⟩ := of_bind_ok listing
    obtain ⟨devtype, _, listing⟩ := of_bind_ok listing
    split at listing
    · cases listing
    · cases outcome : info.deviceOutcome with
      | error v =>
        rw [outcome] at listing
        cases listing
      | ok view' =>
        rw [outcome] at listing
        cases listing
        exact info.deviceOutcome_built outcome
  case h_2 => cases there

lemma listingOutcome_built {contextCreated : Bool} {os : EnumerateAnswers} {views : List DeviceView}
    (ok : listingOutcome contextCreated os = .ok views) : ∀ view ∈ views, view.Built := by
  obtain ⟨_, _, ok⟩ := of_bind_ok ok
  obtain ⟨entries, _, ok⟩ := of_bind_ok ok
  obtain rfl := Except.ok.inj ok
  intro view mem
  obtain ⟨entry, _, there⟩ := List.mem_filterMap.mp mem
  exact entry.device?_built there

/-- `libusbp_list_connected_devices` lists the devices of the enumeration. -/
lemma listConnectedDevices_enumerates (own : s.Owns m) (deviceCount contextCreated : Bool)
    (os : EnumerateAnswers) :
    wp (listConnectedDevices true deviceCount contextCreated os)
      (Enumerates (listingOutcome contextCreated os) m deviceCount true s.denials) s := by
  simp only [listConnectedDevices, Bool.true_eq_false, if_false, construct, wp_bind, wp_pure]
  apply wp_stages_append
  apply wp_mono (listingStart_started ⟨own, rfl⟩ contextCreated os _)
  rintro ⟨_ | e, l⟩ s₁ ⟨outputs, started⟩
  · obtain ⟨⟨udev, hudev⟩, entries, outcome, holds, own₁⟩ := started
    rw [← own₁.denials]
    apply wp_mono (listingRest_passes udev hudev holds own₁ deviceCount)
    rintro _ s₂ ⟨devices, list, rfl, _, holds', views, listed, own₂⟩
    apply (ListingVars.cleanUp_givesBack (.inl rfl)).wp own₂
    intro s₃ own₃
    rw [entries] at listed
    exact ⟨rfl, _, list, devices, outcome, holds', congrArg (·.pass list deviceCount) outputs,
      own₃.owns, listed.settle own₃.denials⟩
  · obtain ⟨null, r⟩ := started
    apply (ListingVars.cleanUp_givesBack (.inl null)).wp_raised r
    refine fun s₂ r₂ => ⟨outputs, none, _, rfl, Nat.le_refl _, r₂.of_eq ?_⟩
    rw [owned_none, add_zero]

/-- The call returns a list of devices with a syspath and its count, or an error and nothing else. -/
lemma listConnectedDevices_listsOnly (own : s.Owns m)
    (deviceList deviceCount contextCreated : Bool) (os : EnumerateAnswers) :
    wp (listConnectedDevices deviceList deviceCount contextCreated os)
      (ListsOnly (fun dev => (content dev).Built) m deviceCount) s := by
  cases deviceList with
  | false =>
    simp only [listConnectedDevices, if_true, wp_bind, wp_pure]
    apply Holding.wp_create ⟨own, rfl⟩
    exact fun e s' r => ⟨rfl, _, r.any⟩
  | true =>
    apply wp_mono (listConnectedDevices_enumerates own deviceCount contextCreated os)
    refine fun r s' enumerates => (enumerates.listsBut.mono ?_).listsOnly
    rintro dev ⟨views, ok, mem⟩
    exact listingOutcome_built ok _ mem

lemma listConnectedDevices_passes (own : s.Owns m) (deviceList deviceCount contextCreated : Bool)
    (os : EnumerateAnswers) :
    wp (listConnectedDevices deviceList deviceCount contextCreated os)
      (fun r s' => KeepsDevices m deviceCount r s' ∧ Passed deviceCount r) s := by
  apply wp_mono (listConnectedDevices_listsOnly own deviceList deviceCount contextCreated os)
  exact fun r s' lists => lists.passes

/-- `libusbp_list_connected_devices` lists exactly the devices of the entries that pass all the checks,
in the order of the enumeration, when the context, the enumeration and the empty list could be made.
After any number of entries, the list holds the devices of those that passed so far and ends with a
null pointer at its count, and the devices in it stay in it. -/
theorem listConnectedDevices_lists (own : s.Owns m) {deviceCount contextCreated : Bool}
    {os : EnumerateAnswers} {l : ListingVars} {s₀ : System}
    (start : stages (listingStart contextCreated os) { outputs := .start deviceCount } s =
      .ok ((none, l), s₀)) :
    wp (listConnectedDevices true deviceCount contextCreated os) (fun r _ => r.1 = none ∧
      ∃ devices, NewList.Holds ⟨r.2.deviceList, devices.length⟩ devices ∧
        r.2.deviceCount = (if deviceCount then [0, devices.length] else []) ∧
        devices.map content = passed os.entries (granted l.udev os.entries l.list s₀) ∧
        ∀ n, ListsSoFar l.udev os.entries l.list s₀ devices n) s := by
  obtain ⟨outputs, ⟨udev, hudev⟩, entries, _, holds, own₀⟩ :=
    (listingStart_started ⟨own, rfl⟩ contextCreated os _).elim start
  have started : wp (stages (listingStart contextCreated os) { outputs := .start deviceCount })
      (fun r t => r = (none, l) ∧ t = s₀) s := ⟨_, _, start, rfl, rfl⟩
  have own₀' : Holding (m + (owned l.enumerate + owned l.udev) + owned l.list.newList) s.denials s₀ :=
    own₀.of_eq (by simp only [ListingVars.others]; abel)
  simp only [listConnectedDevices, Bool.true_eq_false, if_false, construct, wp_bind, wp_pure]
  apply wp_stages_append
  apply wp_mono started
  rintro _ _ ⟨rfl, rfl⟩
  apply wp_mono (listingRest_passes udev hudev holds own₀ deviceCount)
  rintro _ s₂ ⟨devices, list, rfl, ⟨s₁, run⟩, holds', views, _, own₂⟩
  apply (ListingVars.cleanUp_givesBack (.inl rfl)).wp own₂
  intro s₃ _
  rw [entries] at run views
  refine ⟨rfl, devices, ⟨holds'.slots, rfl⟩, ?_, views, fun n => ?_⟩
  · have outputs : l.outputs = .start deviceCount := outputs
    have count : list.count = devices.length := holds'.count
    show (l.outputs.pass list deviceCount).deviceCount = _
    rw [outputs]
    cases deviceCount with
    | false => rfl
    | true => rw [← count]; rfl
  · rw [hudev] at run own₀' ⊢
    exact listsSoFar holds own₀' udev run holds' n

/-- A device that is gone, and one that is listed. -/
theorem listConnectedDevices_lists_example :
    let info : UdevInfo := {
      syspath := "/sys/devices/usb1/1-2"
      devtype := some "usb_device"
      sysattr := fun name =>
        if name = "idVendor" then some "1209" else if name = "idProduct" then some "1ffb"
        else if name = "bcdDevice" then some "0100" else none
      usbParent := none
      driver := none
      devnode := none
      subsystem := some "usb"
      property := fun _ => none
      isInitialized := true }
    let os : EnumerateAnswers :=
      ⟨true, 0, 0, [⟨"/sys/devices/usb1/1-3", none⟩, ⟨info.syspath, some info⟩]⟩
    let s : System := ⟨⟨fun _ => true, 0, []⟩, 0, []⟩
    wp (listConnectedDevices true true true os) (fun r _ => r.1 = none ∧
      ∃ devices, NewList.Holds ⟨r.2.deviceList, devices.length⟩ devices ∧
        r.2.deviceCount = [0, devices.length] ∧
        devices.map content = [⟨some "/sys/devices/usb1/1-2", none, 0x1ffb, 0x1209, 0x0100⟩]) s := by
  intro info os s
  apply wp_mono (listConnectedDevices_lists (m := 0) (.empty _) rfl)
  rintro r s' ⟨ok, devices, holds, count, views, _⟩
  exact ⟨ok, devices, holds, count, views.trans (by decide +kernel)⟩

end Libusbp.Linux
