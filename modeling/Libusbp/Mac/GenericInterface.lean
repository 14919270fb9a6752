import Libusbp.Mac.Device

/-!
# Generic interfaces on macOS

`generic_interface_mac.c`. A generic interface consists of plain numbers. Only for a composite device the
entry of the interface is looked up when the object is created; otherwise the device may not have been
configured yet, and the lookup is left to whoever opens a handle.
-/

namespace Libusbp.Mac

open Prog Host

/-- `struct libusbp_generic_interface` -/
structure GenericInterface where
  deviceId : UInt64 := 0
  interfaceNumber : UInt8 := 0
  hasInterfaceId : Bool := false
  interfaceId : UInt64 := 0
deriving DecidableEq, Repr

def sizeofGenericInterface : Nat := 24

instance : Owned RefKind GenericInterface := ⟨fun _ => 0⟩

instance : Content GenericInterface GenericInterface := ⟨id⟩

/-- What the registry answers to one `libusbp_generic_interface_create`. -/
structure GenericInterfaceAnswers where
  device : ServiceAnswers
  /-- `IORegistryEntryGetChildIterator`, with what the iterator yields -/
  children : Except UInt32 (List RegistryEntry)

def genericInterfaceAllocate : Prog Fault System (Option Error × Option (Box GenericInterface)) :=
  allocateZeroed sizeofGenericInterface {}

/-- The variables of `libusbp_generic_interface_create` and `libusbp_generic_interface_copy`. -/
structure GenericInterfaceVars where
  newGi : Option (Box GenericInterface) := none
  deviceService : Option Service := none
  interfaceService : Option Service := none
  gi : Option (Box GenericInterface) := none

def genericInterfaceFree (gi : Option (Box GenericInterface)) : Prog Fault System Unit := free gi

/-- A step that only assigns to the new object. -/
def assigning (assign : GenericInterface → GenericInterface) (l : GenericInterfaceVars) :
    Prog Fault System (Option Error × GenericInterfaceVars) := do
  let newGi ← expect .nullPointer l.newGi
  pure (none, { l with newGi := some ⟨newGi.addr, assign newGi.val⟩ })

/-- The steps that find the interface of a composite device. -/
def findInterfaceSteps (machErrorString : UInt32 → String) (interfaceNumber : UInt8)
    (os : GenericInterfaceAnswers) :
    List (GenericInterfaceVars → Prog Fault System (Option Error × GenericInterfaceVars)) := [
  into (fun l => do
    let newGi ← expect .nullPointer l.newGi
    serviceGetFromId newGi.val.deviceId os.device) fun l x => { l with deviceService := x },
  into (fun l => do
    let _ ← expect .assertion l.deviceService
    serviceGetUsbInterface machErrorString interfaceNumber os.children)
    fun l x => { l with interfaceService := x },
  into (fun l => do
    let interfaceService ← expect .assertion l.interfaceService
    getId machErrorString interfaceService.entry) fun l x =>
      { l with newGi := l.newGi.map fun gi => ⟨gi.addr, { gi.val with interfaceId := x }⟩ },
  fun l => do
    let newGi ← expect .nullPointer l.newGi
    check .assertion (newGi.val.interfaceId ≠ 0)
    check .assertion (newGi.val.interfaceId ≠ newGi.val.deviceId)
    assigning (fun gi => { gi with hasInterfaceId := true }) l]

/-- The steps of `libusbp_generic_interface_create`. -/
def genericInterfaceSteps (machErrorString : UInt32 → String) (device : Box Device)
    (interfaceNumber : UInt8) (composite : Bool) (os : GenericInterfaceAnswers) :
    List (GenericInterfaceVars → Prog Fault System (Option Error × GenericInterfaceVars)) :=
  [into (fun _ => genericInterfaceAllocate) fun l x => { l with newGi := x },
    assigning fun gi => { gi with deviceId := device.val.id },
    assigning fun gi => { gi with interfaceNumber }] ++
  (if composite then findInterfaceSteps machErrorString interfaceNumber os else []) ++
  [fun l => pure (none, { l with gi := l.newGi, newGi := none })]

def GenericInterfaceVars.cleanUp (l : GenericInterfaceVars) : Prog Fault System Unit := do
  releaseService l.deviceService
  releaseService l.interfaceService
  genericInterfaceFree l.newGi

def genericInterfaceCreate (machErrorString : UInt32 → String) (device : Option (Box Device))
    (interfaceNumber : UInt8) (composite : Bool) (gi : Bool) (os : GenericInterfaceAnswers) :
    Prog Fault System (Option Error × Option (Box GenericInterface)) :=
  if gi = false then do
    let error ← inHeap (errorCreate "Generic interface output pointer is null.")
    pure (error, none)
  else match device with
    | none => do
      let error ← inHeap (errorCreate "Device is null.")
      pure (error, none)
    | some device =>
      construct (genericInterfaceSteps machErrorString device interfaceNumber composite os)
        GenericInterfaceVars.cleanUp (·.gi) {}

def genericInterfaceCopy (source : Option (Box GenericInterface)) (dest : Bool) :
    Prog Fault System (Option Error × Option (Box GenericInterface)) :=
  if dest = false then do
    let error ← inHeap (errorCreate "Generic interface output pointer is null.")
    pure (error, none)
  else match source with
    | none => pure (none, none)
    | some source =>
      construct [
          into (fun _ => genericInterfaceAllocate) fun l x => { l with newGi := x },
          assigning fun _ => source.val,
          fun l => pure (none, { l with gi := l.newGi, newGi := none })]
        (fun l => genericInterfaceFree l.newGi) (·.gi) ({} : GenericInterfaceVars)

def genericInterfaceGetDeviceId (gi : Option (Box GenericInterface)) : Prog Fault System UInt64 := do
  let gi ← expect .assertion gi
  pure gi.val.deviceId

def genericInterfaceGetInterfaceNumber (gi : Option (Box GenericInterface)) :
    Prog Fault System UInt8 := do
  let gi ← expect .assertion gi
  pure gi.val.interfaceNumber

/-- Whether there is an ID of the interface, and the ID or zero. -/
def genericInterfaceGetInterfaceId (gi : Option (Box GenericInterface)) :
    Prog Fault System (Bool × UInt64) := do
  let gi ← expect .assertion gi
  pure (if gi.val.hasInterfaceId then (true, gi.val.interfaceId) else (false, 0))

def genericInterfaceGetOsId :
    Option (Box GenericInterface) → Bool → Prog Fault System (Option Error × Option (Box String)) :=
  Libusbp.getString "String output pointer is null." "Generic interface is null." fun gi =>
    iokitIdToString (if gi.hasInterfaceId then gi.interfaceId else gi.deviceId)

def genericInterfaceGetOsFilename :
    Option (Box GenericInterface) → Bool → Prog Fault System (Option Error × Option (Box String)) :=
  genericInterfaceGetOsId

/-- What `libusbp_generic_interface_create` reads from the registry for a composite device. -/
def interfaceIdOutcome (machErrorString : UInt32 → String) (deviceId : UInt64)
    (interfaceNumber : UInt8) (os : GenericInterfaceAnswers) : Except ErrorValue UInt64 := do
  let _ ← os.device.outcome deviceId
  let entry ← usbInterfaceOutcome machErrorString interfaceNumber os.children
  entry.id machErrorString

/-- The outcome of `libusbp_generic_interface_create`. -/
def genericInterfaceOutcome (machErrorString : UInt32 → String) (deviceId : UInt64)
    (interfaceNumber : UInt8) (composite : Bool) (os : GenericInterfaceAnswers) :
    Except ErrorValue GenericInterface :=
  if composite then
    (interfaceIdOutcome machErrorString deviceId interfaceNumber os).map
      fun interfaceId => ⟨deviceId, interfaceNumber, true, interfaceId⟩
  else .ok { deviceId, interfaceNumber }

/-- What the variables hold besides the object that is handed out. -/
def GenericInterfaceVars.others (l : GenericInterfaceVars) : Holdings RefKind :=
  owned l.deviceService + (owned l.interfaceService + owned l.newGi)

variable {m : Holdings RefKind} {d : Nat} {s : System}

lemma genericInterfaceFree_givesBack {gi : Option (Box GenericInterface)} :
    GivesBack (genericInterfaceFree gi) (owned gi) := .free

lemma GenericInterfaceVars.cleanUp_givesBack (l : GenericInterfaceVars) :
    GivesBack l.cleanUp l.others :=
  .seq releaseService_givesBack (.seq releaseService_givesBack genericInterfaceFree_givesBack)

/-- An object that says what a blank one says is blank. -/
lemma gi_blank {gi : GenericInterface} (same : content ({} : GenericInterface) = content gi) :
    gi = {} := same.symm

/-- The steps that find the interface, and what comes behind them. -/
lemma findInterfaceSteps_staged {newGi : Box GenericInterface} (own : Holding (m + owned newGi) d s)
    (machErrorString : UInt32 → String) (os : GenericInterfaceAnswers)
    (distinct : ∀ id, interfaceIdOutcome machErrorString newGi.val.deviceId newGi.val.interfaceNumber
      os = .ok id → id ≠ 0 ∧ id ≠ newGi.val.deviceId) :
    wp (stages (findInterfaceSteps machErrorString newGi.val.interfaceNumber os ++
        [fun l => pure (none, { l with gi := l.newGi, newGi := none })]) { newGi })
      (Staged (·.gi) GenericInterfaceVars.others m d
        (((interfaceIdOutcome machErrorString newGi.val.deviceId newGi.val.interfaceNumber os).map
          fun interfaceId => (⟨newGi.val.deviceId, newGi.val.interfaceNumber, true, interfaceId⟩ :
            GenericInterface)).map some)) s := by
  unfold interfaceIdOutcome at distinct ⊢
  simp only [findInterfaceSteps, List.cons_append, List.nil_append]
  apply Ends.stageSome
  · simp only [expect, pure_bind]
    exact serviceGetFromId_ends own newGi.val.deviceId os.device
  · intro e s₁ r
    refine ⟨rfl, (r.of_eq ?_).mono fun v hv => ?_⟩
    · simp only [GenericInterfaceVars.others, owned_some, owned_none]
      abel
    · rw [error_bind hv]
      rfl
  intro deviceService s₁ looked own₁
  rw [ok_bind looked] at distinct ⊢
  apply Ends.stageSome
  · simp only [expect, pure_bind]
    exact serviceGetUsbInterface_ends own₁ machErrorString _ os.children
  · intro e s₂ r
    refine ⟨rfl, (r.of_eq ?_).mono fun v hv => ?_⟩
    · simp only [GenericInterfaceVars.others, owned_some, owned_none]
      abel
    · rw [error_bind hv]
      rfl
  intro interfaceService s₂ found own₂
  rw [ok_bind found] at distinct ⊢
  have others : m + owned newGi + owned deviceService + owned interfaceService =
      m + GenericInterfaceVars.others { newGi, deviceService, interfaceService } := by
    simp only [GenericInterfaceVars.others, owned_some]
    abel
  apply Gets.stage
  · simp only [expect, pure_bind]
    exact getId_gets own₂ machErrorString interfaceService.entry
  · intro e x s₃ r
    refine ⟨rfl, (r.of_eq others).mono fun v hv => ?_⟩
    show Except.map some (Except.map _ (interfaceService.entry.id machErrorString)) = _
    rw [hv]
    rfl
  intro interfaceId s₃ got own₃
  obtain ⟨nonzero, differs⟩ := distinct interfaceId got
  apply wp_stages_cons
  simp only [assigning, wp_bind, wp_expect, wp_check, wp_pure]
  -- the assertions of the source about the ID of the interface
  refine ⟨_, rfl, by simpa using nonzero, by simpa using differs, _, rfl, ?_⟩
  apply wp_stages_cons
  refine wp_pure.mpr (wp_stages_nil.mpr ⟨?_, own₃.of_eq ?_⟩)
  · show Except.map some (Except.map _ (interfaceService.entry.id machErrorString)) = _
    rw [got]
    rfl
  · show m + owned newGi + owned deviceService + owned interfaceService =
      m + owned newGi + (owned deviceService + (owned interfaceService + 0))
    abel

/-- `libusbp_generic_interface_create` gives the numbers it was asked for, with the ID of the interface
if the device is composite, or an error and nothing else. -/
lemma genericInterfaceCreate_ends (own : Holding m d s) (machErrorString : UInt32 → String)
    (device : Box Device) (interfaceNumber : UInt8) (composite : Bool) (os : GenericInterfaceAnswers)
    (distinct : ∀ id, interfaceIdOutcome machErrorString device.val.id interfaceNumber os = .ok id →
      id ≠ 0 ∧ id ≠ device.val.id) :
    wp (genericInterfaceCreate machErrorString (some device) interfaceNumber composite true os)
      (Ends m d ((genericInterfaceOutcome machErrorString device.val.id interfaceNumber composite
        os).map some)) s := by
  apply Staged.construct GenericInterfaceVars.others GenericInterfaceVars.cleanUp_givesBack
  unfold genericInterfaceSteps genericInterfaceOutcome
  apply Ends.stageSome
  · exact allocateZeroed_ends own (by decide) rfl
  · intro e s₁ r
    exact ⟨rfl, (r.of_eq (by simp [GenericInterfaceVars.others])).of_ok⟩
  rintro ⟨a, gi⟩ s₁ zeroed own₁
  obtain rfl := gi_blank (Except.ok.inj zeroed)
  apply wp_stages_cons
  simp only [assigning, wp_bind, wp_expect, wp_pure]
  refine ⟨_, rfl, ?_⟩
  apply wp_stages_cons
  simp only [assigning, wp_bind, wp_expect, wp_pure]
  refine ⟨_, rfl, ?_⟩
  cases composite with
  | true =>
    let newGi : Box GenericInterface := ⟨a, { deviceId := device.val.id, interfaceNumber }⟩
    have own₁ : Holding (m + owned newGi) d s₁ := own₁
    exact findInterfaceSteps_staged own₁ machErrorString os distinct
  | false =>
    apply wp_stages_cons
    exact wp_pure.mpr (wp_stages_nil.mpr ⟨rfl, own₁.of_eq (add_zero _).symm⟩)

end Libusbp.Mac
