import Libusbp.DeviceList
import Libusbp.Mac.Device

/-!
# Listing devices on macOS

`list_mac.c`. The loop frees the error of a device that cannot be made and goes on. It ends where the
iterator ends or where a device cannot be appended.
-/

namespace Libusbp.Mac

open Prog Host

/-- `try_create_device` -/
def tryCreateDevice (machErrorString : UInt32 → String) (entry : RegistryEntry) :
    Prog Fault System (Option (Box Device)) := do
  let (error, device) ← createDevice machErrorString entry
  if error.isSome then do
    check .assertion device.isNone
    inHeap (errorFree error)
  pure device

/-- A round of the loop of `libusbp_list_connected_devices`, for what the iterator yields. -/
def listRound (machErrorString : UInt32 → String) (entry : RegistryEntry) (list : NewList Device) :
    Prog Fault System (Option Error × NewList Device) := do
  let ref ← acquire .ioObject
  let service : Service := ⟨ref, entry⟩
  let device ← tryCreateDevice machErrorString service.entry
  let (error, list) ← appendIfMade list device
  releaseService (some service)
  pure (error, list)

/-- The variables of `libusbp_list_connected_devices`. -/
structure ListingVars where
  dict : Option Nat := none
  iterator : Option Iterator := none
  list : NewList Device := {}
  outputs : ListOutputs Device

/-- What the registry answers to one `libusbp_list_connected_devices`. -/
structure ListingAnswers where
  dictCreated : Bool
  services : Except UInt32 (List RegistryEntry)

/-- The steps that make the iterator and the empty list. `IOServiceGetMatchingServices` consumes its
dictionary. -/
def listingStart (machErrorString : UInt32 → String) (os : ListingAnswers) :
    List (ListingVars → Prog Fault System (Option Error × ListingVars)) :=
  [fun l =>
      if os.dictCreated = false then do
        let error ← inHeap (errorCreate "IOServiceMatching returned null.")
        pure (error, l)
      else do
        let ref ← acquire .cfType
        pure (none, { l with dict := some ref }),
    into (fun l => do
      let dict ← expect .nullPointer l.dict
      Host.release .cfType dict
      createIterator machErrorString "Failed to get matching services." os.services)
      fun l x => { l with dict := none, iterator := x },
    into (fun _ => deviceListCreate) fun l x => { l with list := { l.list with newList := x } }]

/-- The steps that fill the list and pass it to the caller. -/
def listingRest (machErrorString : UInt32 → String) (deviceCount : Bool) :
    List (ListingVars → Prog Fault System (Option Error × ListingVars)) :=
  [fun l => do
      let iterator ← expect .nullPointer l.iterator
      let (error, list) ← fillList (listRound machErrorString) (pure none) iterator.entries l.list
      pure (error, { l with list := list }),
    fun l => pure (none, { l with
      list := { l.list with newList := none }
      outputs := l.outputs.pass l.list deviceCount })]

def ListingVars.cleanUp (l : ListingVars) : Prog Fault System Unit := do
  check .assertion l.dict.isNone
  releaseIterator l.iterator
  freeDevicesAndList deviceFree l.list.newList

def listConnectedDevices (machErrorString : UInt32 → String) (deviceList deviceCount : Bool)
    (os : ListingAnswers) : Prog Fault System (Option Error × ListOutputs Device) :=
  if deviceList = false then do
    let error ← inHeap (errorCreate "Device list output pointer is null.")
    pure (error, .start deviceCount)
  else
    construct (listingStart machErrorString os ++ listingRest machErrorString deviceCount)
      ListingVars.cleanUp (·.outputs) { outputs := .start deviceCount }

/-- The part of a round up to the device. -/
def attempt (machErrorString : UInt32 → String) (entry : RegistryEntry) :
    Prog Fault System (Option (Box Device)) := do
  let _ ← acquire .ioObject
  tryCreateDevice machErrorString entry

/-- Whether the requests for memory of the appends will be granted, if the loop is reached. -/
def listingAppendsGranted (machErrorString : UInt32 → String) (deviceList deviceCount : Bool)
    (os : ListingAnswers) (s : System) : Bool :=
  if deviceList = false then true
  else match stages (listingStart machErrorString os) { outputs := .start deviceCount } s with
    | .ok ((none, { iterator := some iterator, list := list, .. }), s₀) =>
      appendsGranted (attempt machErrorString) (listRound machErrorString) iterator.entries list s₀
    | _ => true

variable {m : Holdings RefKind} {d : Nat} {s : System}

/-- The device that an entry of the registry tells, if there is one. -/
def RegistryEntry.device? (machErrorString : UInt32 → String) (entry : RegistryEntry) :
    Option DeviceView := (entry.deviceOutcome machErrorString).toOption

lemma tryCreateDevice_tries (own : Holding m d s) (machErrorString : UInt32 → String)
    (entry : RegistryEntry) :
    wp (tryCreateDevice machErrorString entry) (fun device s' =>
      s'.Owns (m + owned device) ∧ Tried (entry.device? machErrorString) d device s') s := by
  apply Makes.wp_attempt
  exact wp_mono (createDevice_ends own machErrorString entry) fun _ _ ends => ends.makes

/-- A round loses its device exactly if the append is denied. -/
lemma listRound_appends {list : NewList Device} {devices : List (Box Device)} (h : list.Holds devices)
    (own : s.Owns (m + owned list.newList)) (machErrorString : UInt32 → String)
    (entry : RegistryEntry) :
    wp (listRound machErrorString entry list) (Appends (entry.device? machErrorString) m
      (appendGranted (attempt machErrorString entry) s) devices s.denials) s := by
  simp only [listRound, wp_bind]
  have acquired : wp (acquire .ioObject : Prog Fault System Nat) (fun ref s' => s'.denials = s.denials ∧
      s'.Owns (m + owned list.newList + owned (⟨ref, entry⟩ : Service))) s :=
    own.wp_acquire fun ref s' own' hd => ⟨hd, own'⟩
  apply wp_mono acquired.run
  rintro ref s₁ ⟨⟨hd, own₁⟩, took⟩
  apply wp_mono (tryCreateDevice_tries ⟨own₁, hd⟩ machErrorString entry).run
  rintro device s₂ ⟨⟨own₂, tried⟩, run⟩
  have attempted : attempt machErrorString entry s = .ok (device, s₂) := bind_eq_ok took run
  have own₂ : s₂.Owns (m + owned (⟨ref, entry⟩ : Service) + owned list.newList + owned device) :=
    own₂.of_eq (by abel)
  rw [appendGranted, attempted]
  apply wp_mono (appendIfMade_appends h own₂ tried)
  rintro ⟨error, list'⟩ s₃ appends
  have gives : GivesBack (releaseService (some ⟨ref, entry⟩)) (owned (⟨ref, entry⟩ : Service)) :=
    releaseService_givesBack
  apply appends.wp_givesBack gives
  exact fun s₄ appends' => wp_pure.mpr appends'

/-- What `libusbp_list_connected_devices` lists: the devices of the services that tell one, in order. -/
def listingOutcome (machErrorString : UInt32 → String) (os : ListingAnswers) :
    Except ErrorValue (List DeviceView) := do
  failIf (os.dictCreated = false) (.ofText "IOServiceMatching returned null.")
  let entries ← machOutcome machErrorString "Failed to get matching services." os.services
  pure (entries.filterMap (RegistryEntry.device? machErrorString))

/-- What the variables hold besides the outputs. -/
def ListingVars.others (l : ListingVars) : Holdings RefKind :=
  owned l.iterator + owned l.list.newList

lemma ListingVars.cleanUp_givesBack {l : ListingVars} (consumed : l.dict = none)
    (list : l.list.newList = none ∨ ∃ devices, l.list.Holds devices) :
    GivesBack l.cleanUp l.others := by
  have freed : GivesBack (freeDevicesAndList deviceFree l.list.newList) (owned l.list.newList) :=
    freeDevicesAndList?_givesBack list fun _ => deviceFree_givesBack
  have both : GivesBack (do releaseIterator l.iterator; freeDevicesAndList deviceFree l.list.newList)
      l.others := .seq releaseIterator_givesBack freed
  intro m d s own
  simp only [ListingVars.cleanUp, wp_bind, wp_check, consumed, Option.isNone_none, true_and]
  have := both m d s own
  rwa [wp_bind] at this

/-- The steps ahead of the loop made an iterator and an empty list, or failed without a list. -/
def Started (machErrorString : UInt32 → String) (os : ListingAnswers) (m : Holdings RefKind) (d : Nat)
    (outputs : ListOutputs Device) (r : Option Error × ListingVars) (s : System) : Prop :=
  r.2.outputs = outputs ∧ r.2.dict = none ∧
    match r with
    | (none, l) => (∃ iterator, l.iterator = some iterator ∧ listingOutcome machErrorString os =
        .ok (iterator.entries.filterMap (RegistryEntry.device? machErrorString))) ∧
      l.list.Holds [] ∧ Holding (m + l.others) d s
    | (some e, l) => l.list.newList = none ∧
      Raised (m + l.others) d (fun v => listingOutcome machErrorString os = .error v) e s

lemma listingStart_started (own : Holding m d s) (machErrorString : UInt32 → String)
    (os : ListingAnswers) (outputs : ListOutputs Device) :
    wp (stages (listingStart machErrorString os) { outputs := outputs })
      (Started machErrorString os m d outputs) s := by
  apply wp_stages_cons
  apply wp_ite
  · intro failed
    simp only [wp_bind, wp_pure]
    apply own.wp_create
    refine fun e s₁ r => ⟨rfl, rfl, rfl, (r.of_eq (add_zero m).symm).mono fun v hv => ?_⟩
    rw [listingOutcome, hv]
    exact error_bind (if_pos failed)
  intro created
  have outcome : listingOutcome machErrorString os =
      (machOutcome machErrorString "Failed to get matching services." os.services).map
        (·.filterMap (RegistryEntry.device? machErrorString)) := by
    rw [listingOutcome, failIf, if_neg created]
    rfl
  simp only [wp_bind, wp_pure]
  apply own.owns.wp_acquire
  intro dict s₁ own₁ hd₁
  apply Ends.stageSome
  · simp only [expect, pure_bind, wp_bind]
    apply own₁.wp_release
    intro s₂ own₂ hd₂
    exact createIterator_ends ⟨own₂, hd₂.trans (hd₁.trans own.denials)⟩ machErrorString _ os.services
  · intro e s₂ r
    refine ⟨rfl, rfl, rfl, (r.of_eq (add_zero m).symm).mono fun v hv => ?_⟩
    rw [outcome, hv]
    rfl
  intro iterator s₂ found own₂
  refine wp_stages_into ?_
  apply wp_deviceListCreate own₂
  · intro list s₃ holds _ own₃
    refine wp_stages_nil.mpr ⟨rfl, rfl, ⟨iterator, rfl, ?_⟩, holds, own₃.of_eq (add_assoc _ _ _)⟩
    rw [outcome, found]
    rfl
  · intro s₃ _ own₃ hd
    refine ⟨rfl, rfl, rfl, .denied (own₃.of_eq ?_) hd⟩
    simp [ListingVars.others]

/-- `libusbp_list_connected_devices` lists the devices of the matching services. -/
lemma listConnectedDevices_enumerates (own : s.Owns m) (machErrorString : UInt32 → String)
    (deviceCount : Bool) (os : ListingAnswers) :
    wp (listConnectedDevices machErrorString true deviceCount os)
      (Enumerates (listingOutcome machErrorString os) m deviceCount
        (listingAppendsGranted machErrorString true deviceCount os s) s.denials) s := by
  simp only [listConnectedDevices, listingAppendsGranted, Bool.true_eq_false, if_false, construct,
    wp_bind, wp_pure]
  apply wp_stages_append
  apply wp_mono (listingStart_started ⟨own, rfl⟩ machErrorString os _).run
  rintro ⟨_ | e, dict, iterator, list, outputs⟩ s₁ ⟨⟨start, consumed, started⟩, run⟩
  · obtain ⟨⟨iterator, rfl, outcome⟩, holds, own₁⟩ := started
    have own₁' : s₁.Owns (m + owned iterator + owned list.newList) :=
      own₁.owns.of_eq (add_assoc _ _ _).symm
    rw [run, outcome, ← own₁.denials]
    apply wp_stages_cons
    simp only [expect, pure_bind, wp_bind]
    have ends : ∀ (m : Holdings RefKind) d s, Holding m d s →
        wp (pure none : Prog Fault System _) (Checked m d (.ok ())) s :=
      fun m d s own => wp_pure.mpr ⟨rfl, own⟩
    apply wp_mono (wp_fillList
      (fun entry l devices s h own => listRound_appends h own machErrorString entry)
      ends iterator.entries holds own₁' .nil)
    rintro ⟨_ | e, list₁⟩ s₂ fills
    · obtain ⟨_, granted, devices, holds₁, own₂, listed⟩ := fills
      refine wp_pure.mpr (wp_stages_cons (wp_pure.mpr (wp_stages_nil.mpr ?_)))
      have own₂' : Holding (m + owned list₁.newList + (owned iterator + 0)) s₂.denials s₂ :=
        ⟨own₂.of_eq (by abel), rfl⟩
      refine (ListingVars.cleanUp_givesBack (l := ⟨dict, some iterator, { list₁ with newList := none },
        outputs.pass list₁ deviceCount⟩) consumed (.inl rfl)).wp own₂' ?_
      intro s₃ own₃
      exact ⟨granted, _, list₁, devices, rfl, holds₁, congrArg (·.pass list₁ deviceCount) start,
        own₃.owns, listed.settle own₃.denials⟩
    · obtain ⟨devices, lost, d', holds₁, granted, later, raised⟩ := fills
      refine wp_pure.mpr ?_
      have raised : Raised (m + owned lost + (owned iterator + owned list₁.newList)) d' _ e s₂ :=
        raised.of_eq (by abel)
      refine (ListingVars.cleanUp_givesBack (l := ⟨dict, some iterator, list₁, outputs⟩) consumed
        (.inr ⟨devices, holds₁⟩)).wp_raised raised ?_
      exact fun s₃ r₃ => ⟨start, lost, d', granted, later, r₃.of_ok⟩
  · obtain ⟨null, r⟩ := started
    rw [run]
    apply (ListingVars.cleanUp_givesBack consumed (.inl null)).wp_raised r
    refine fun s₂ r₂ => ⟨start, none, _, rfl, Nat.le_refl _, r₂.of_eq ?_⟩
    rw [owned_none, add_zero]

/-- The call keeps every device but the one whose append is denied, and passes a list with its count to
the caller. -/
lemma listConnectedDevices_listsBut (own : s.Owns m) (machErrorString : UInt32 → String)
    (deviceList deviceCount : Bool) (os : ListingAnswers) :
    wp (listConnectedDevices machErrorString deviceList deviceCount os)
      (ListsBut (fun _ => True) m deviceCount
        (listingAppendsGranted machErrorString deviceList deviceCount os s)) s := by
  cases deviceList with
  | false =>
    simp only [listConnectedDevices, listingAppendsGranted, if_true, wp_bind, wp_pure]
    apply Holding.wp_create ⟨own, rfl⟩
    exact fun e s₁ r => .none ⟨rfl, _, r.any⟩
  | true =>
    apply wp_mono (listConnectedDevices_enumerates own machErrorString deviceCount os)
    exact fun r s' enumerates => enumerates.listsBut.mono fun _ _ => trivial

lemma listConnectedDevices_passes (own : s.Owns m) (machErrorString : UInt32 → String)
    (deviceList deviceCount : Bool) (os : ListingAnswers) :
    wp (listConnectedDevices machErrorString deviceList deviceCount os)
      (fun r s' => KeepsBut m deviceCount
        (listingAppendsGranted machErrorString deviceList deviceCount os s) r s' ∧
        Passed deviceCount r) s := by
  apply wp_mono (listConnectedDevices_listsBut own machErrorString deviceList deviceCount os)
  exact fun r s' lists => lists.passes

end Libusbp.Mac
