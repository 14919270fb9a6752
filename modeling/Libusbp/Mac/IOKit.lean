import Libusbp.Mac.Error
import Libusbp.Search
import Libusbp.Strings

/-!
# IOKit

`iokit_mac.c`. What the I/O registry contains is a parameter: what a service looks up, what an iterator
yields, what an entry says about itself. A service, an iterator and an object of Core Foundation are
counted references, which the caller gives back.
-/

namespace Libusbp.Mac

open Prog Host

/-- The kinds of references that a program on macOS holds. -/
inductive RefKind where
  | ioObject
  | cfType
deriving DecidableEq, Repr

abbrev System : Type := Host RefKind

/-- The value of a property, with what Core Foundation converts it to. -/
inductive CfValue where
  /-- `CFNumberGetValue` yields a number, and whether it is exact. -/
  | number (value : Int32) (exact : Bool)
  /-- `CFStringGetCString` yields a string, if it fits in 256 bytes of ASCII. -/
  | string (value : Option String)
  | other
deriving DecidableEq, Repr

/-- What an entry of the registry says about itself. -/
structure RegistryEntry where
  /-- `IOObjectConformsTo` -/
  conformsTo : String → Bool
  /-- `IORegistryEntryCreateCFProperty` -/
  property : String → Option CfValue
  /-- `IORegistryEntryGetRegistryEntryID` -/
  entryId : Except UInt32 UInt64

/-- `io_service_t`, where `MACH_PORT_NULL` is no service. -/
structure Service where
  ref : Nat
  entry : RegistryEntry

/-- `io_iterator_t`, with the entries that it yields. -/
structure Iterator where
  ref : Nat
  entries : List RegistryEntry

/-- What the registry answers when a service is looked up by its ID. -/
structure ServiceAnswers where
  dictCreated : Bool
  service : Option RegistryEntry

instance : Owned RefKind Service := ⟨fun service => (0, {(.ioObject, service.ref)})⟩

instance : Content Service RegistryEntry := ⟨(·.entry)⟩

instance : Owned RefKind Iterator := ⟨fun iterator => (0, {(.ioObject, iterator.ref)})⟩

instance : Content Iterator (List RegistryEntry) := ⟨(·.entries)⟩

def kUSBVendorID : String := "idVendor"
def kUSBProductID : String := "idProduct"
def kUSBDeviceReleaseNumber : String := "bcdDevice"
def kUSBSerialNumberString : String := "USB Serial Number"
def kIOCalloutDeviceKey : String := "IOCalloutDevice"
def kIOUSBInterfaceClassName : String := "IOUSBInterface"
def kIOUSBHostInterfaceClassName : String := "IOUSBHostInterface"
def kIOSerialBSDServiceValue : String := "IOSerialBSDClient"

def iokitIdToString (id : UInt64) : Prog Fault System (Option Error × Option (Box String)) :=
  stringCopy (formatHex 0 id.toNat)

def releaseService (service : Option Service) : Prog Fault System Unit :=
  release? .ioObject (service.map (·.ref))

def releaseIterator (iterator : Option Iterator) : Prog Fault System Unit :=
  release? .ioObject (iterator.map (·.ref))

/-- A call that yields an iterator, or an error code, which leads to an error. -/
def createIterator (machErrorString : UInt32 → String) (text : String)
    (answer : Except UInt32 (List RegistryEntry)) :
    Prog Fault System (Option Error × Option Iterator) :=
  match answer with
  | .error result => do
    let error ← inHeap (errorCreateMach machErrorString result text)
    pure (error, none)
  | .ok entries => do
    let ref ← acquire .ioObject
    pure (none, some ⟨ref, entries⟩)

/-- `IOServiceGetMatchingService` consumes its dictionary. -/
def ioServiceGetMatchingService (dict : Nat) (answer : Option RegistryEntry) :
    Prog Fault System (Option Service) := do
  Host.release .cfType dict
  match answer with
  | none => pure none
  | some entry => do
    let ref ← acquire .ioObject
    pure (some ⟨ref, entry⟩)

def serviceGetFromId (id : UInt64) (os : ServiceAnswers) :
    Prog Fault System (Option Error × Option Service) :=
  if os.dictCreated = false then do
    let error ← inHeap (errorCreate "Failed to create a dictionary matching the ID.")
    pure (error, none)
  else do
    let dict ← acquire .cfType
    match ← ioServiceGetMatchingService dict os.service with
    | none => do
      let error ← inHeap
        (errorCreate ("Failed to find service with ID 0x" ++ formatHex 0 id.toNat ++ "."))
      pure (error, none)
    | some service => pure (none, some service)

/-- What is done with the value of a property, which is released in the end. -/
def withProperty {α : Type} (x : Prog Fault System α) : Prog Fault System α := do
  let ref ← acquire .cfType
  let r ← x
  Host.release .cfType ref
  pure r

def getInt32 (entry : RegistryEntry) (name : String) : Prog Fault System (Option Error × Int32) :=
  match entry.property name with
  | none => do
    let error ← inHeap (errorCreate "Failed to get int32 property from IORegistryEntry.")
    pure (error, 0)
  | some cfValue => withProperty do
    match cfValue with
    | .number value true => pure (none, value)
    | .number value false => do
      let error ← inHeap (errorCreate "Failed to convert property to C integer.")
      pure (error, value)
    | .string _ | .other => do
      let error ← inHeap (errorCreate "Property is not a number.")
      pure (error, 0)

/-- The number keeps its low 16 bits. -/
def getUint16 (entry : RegistryEntry) (name : String) : Prog Fault System (Option Error × UInt16) := do
  let (error, tmp) ← getInt32 entry name
  if error.isSome then pure (error, 0)
  else pure (none, tmp.toUInt32.toUInt16)

def getId (machErrorString : UInt32 → String) (entry : RegistryEntry) :
    Prog Fault System (Option Error × UInt64) :=
  match entry.entryId with
  | .error result => do
    let error ← inHeap
      (errorCreateMach machErrorString result "Failed to get registry entry ID.")
    pure (error, 0)
  | .ok id => pure (none, id)

/-- A string that the entry does not have is a null pointer, without an error. -/
def getString (entry : RegistryEntry) (name : String) :
    Prog Fault System (Option Error × Option (Box String)) :=
  match entry.property name with
  | none => pure (none, none)
  | some cfValue => withProperty do
    match cfValue with
    | .string (some buffer) => stringCopy (some buffer)
    | .string none => do
      let error ← inHeap (errorCreate "Failed to convert property to C string.")
      pure (error, none)
    | .number _ _ | .other => do
      let error ← inHeap (errorCreate "Property is not a string.")
      pure (error, none)

/-- The loop of `service_get_usb_interface` over what the iterator yields. -/
def findUsbInterface (interfaceNumber : UInt8) :
    List RegistryEntry → Prog Fault System (Option Error × Option Service)
  | [] => pure (none, none)
  | entry :: entries => do
    let ref ← acquire .ioObject
    let candidate : Service := ⟨ref, entry⟩
    if candidate.entry.conformsTo kIOUSBInterfaceClassName = false then do
      releaseService (some candidate)
      findUsbInterface interfaceNumber entries
    else do
      let (error, actualNum) ← getInt32 candidate.entry "bInterfaceNumber"
      if error.isNone ∧ actualNum.toInt = interfaceNumber.toNat then pure (none, some candidate)
      else do
        releaseService (some candidate)
        -- an interface without a number ends the search
        if error.isSome then pure (error, none)
        else findUsbInterface interfaceNumber entries

/-- The variables of `service_get_usb_interface`. -/
structure InterfaceVars where
  iterator : Option Iterator := none
  interfaceService : Option Service := none

def serviceGetUsbInterface (machErrorString : UInt32 → String) (interfaceNumber : UInt8)
    (children : Except UInt32 (List RegistryEntry)) :
    Prog Fault System (Option Error × Option Service) :=
  construct [
      into (fun _ => createIterator machErrorString "Failed to get child iterator." children)
        fun l x => { l with iterator := x },
      into (fun l => findUsbInterface interfaceNumber (l.iterator.elim [] (·.entries)))
        fun l x => { l with interfaceService := x },
      checking fun l =>
        notReadyUnless l.interfaceService.isSome s!"Could not find interface {interfaceNumber}."]
    (fun l => releaseIterator l.iterator) (·.interfaceService) ({} : InterfaceVars)

/-- The value of an error that `error_create_mach` makes. -/
def machError (machErrorString : UInt32 → String) (errorCode : UInt32) (format : String) :
    ErrorValue :=
  chainValue (.ofText ("Error code 0x" ++ formatHex 0 errorCode.toNat ++ "."))
    (machSteps machErrorString errorCode format)

/-- What a call that yields something or an error code comes to. -/
def machOutcome {β : Type} (machErrorString : UInt32 → String) (text : String)
    (answer : Except UInt32 β) : Except ErrorValue β :=
  answer.mapError fun errorCode => machError machErrorString errorCode text

/-- The outcome of `service_get_from_id`. -/
def ServiceAnswers.outcome (os : ServiceAnswers) (id : UInt64) : Except ErrorValue RegistryEntry :=
  if os.dictCreated = false then
    .error (.ofText "Failed to create a dictionary matching the ID.")
  else match os.service with
    | none => .error (.ofText ("Failed to find service with ID 0x" ++ formatHex 0 id.toNat ++ "."))
    | some entry => .ok entry

namespace RegistryEntry

/-- The outcome of `get_int32`. -/
def int32 (entry : RegistryEntry) (name : String) : Except ErrorValue Int32 :=
  match entry.property name with
  | none => .error (.ofText "Failed to get int32 property from IORegistryEntry.")
  | some (.number value true) => .ok value
  | some (.number _ false) => .error (.ofText "Failed to convert property to C integer.")
  | some (.string _) | some .other => .error (.ofText "Property is not a number.")

/-- The outcome of `get_uint16`. -/
def uint16 (entry : RegistryEntry) (name : String) : Except ErrorValue UInt16 :=
  (entry.int32 name).map fun value => value.toUInt32.toUInt16

/-- The outcome of `get_id`. -/
def id (machErrorString : UInt32 → String) (entry : RegistryEntry) : Except ErrorValue UInt64 :=
  machOutcome machErrorString "Failed to get registry entry ID." entry.entryId

/-- The outcome of `get_string`. -/
def string (entry : RegistryEntry) (name : String) : Except ErrorValue (Option String) :=
  match entry.property name with
  | none => .ok none
  | some (.string (some value)) => .ok (some value)
  | some (.string none) => .error (.ofText "Failed to convert property to C string.")
  | some (.number _ _) | some .other => .error (.ofText "Property is not a string.")

/-- What the loop of `service_get_usb_interface` makes of one entry. -/
def usbInterfaceVerdict (interfaceNumber : UInt8) (entry : RegistryEntry) :
    Except ErrorValue (Option RegistryEntry) :=
  if entry.conformsTo kIOUSBInterfaceClassName = false then .ok none
  else do
    let actualNum ← entry.int32 "bInterfaceNumber"
    if actualNum.toInt = interfaceNumber.toNat then pure (some entry) else pure none

end RegistryEntry

/-- The outcome of `service_get_usb_interface`. -/
def usbInterfaceOutcome (machErrorString : UInt32 → String) (interfaceNumber : UInt8)
    (children : Except UInt32 (List RegistryEntry)) : Except ErrorValue RegistryEntry := do
  let entries ← machOutcome machErrorString "Failed to get child iterator." children
  let found ← firstVerdict (RegistryEntry.usbInterfaceVerdict interfaceNumber) entries
  orNotReady s!"Could not find interface {interfaceNumber}." found

variable {m : Holdings RefKind} {d : Nat} {s : System}

/-- A new error for the error code of a call that failed. -/
lemma wp_createMachError {κ : Type} [DecidableEq κ] {m : Holdings κ} {s : Host κ}
    (own : Holding m d s) (machErrorString : UInt32 → String) (errorCode : UInt32) (format : String)
    {Q : Option Error → Host κ → Prop}
    (post : ∀ e s', Raised m d (· = machError machErrorString errorCode format) e s' →
      Q (some e) s') :
    wp (inHeap (errorCreateMach machErrorString errorCode format)) Q s := by
  rw [errorCreateMach_eq]
  exact own.wp_createChain _ (machSteps_additions ..) (by decide) post

lemma releaseService_givesBack {service : Option Service} :
    GivesBack (releaseService service) (owned service) := by
  apply GivesBack.release?.of_eq
  cases service <;> rfl

lemma releaseIterator_givesBack {iterator : Option Iterator} :
    GivesBack (releaseIterator iterator) (owned iterator) := by
  apply GivesBack.release?.of_eq
  cases iterator <;> rfl

lemma createIterator_ends (own : Holding m d s) (machErrorString : UInt32 → String) (text : String)
    (answer : Except UInt32 (List RegistryEntry)) :
    wp (createIterator machErrorString text answer)
      (Ends m d ((machOutcome machErrorString text answer).map some)) s := by
  cases answer with
  | error result =>
    simp only [createIterator, wp_bind, wp_pure]
    apply wp_createMachError own
    exact fun e s₁ r => ⟨rfl, r.mono fun _ hv => by rw [hv]; rfl⟩
  | ok entries => exact own.acquire_ends (fun _ => rfl) fun _ => rfl

lemma serviceGetFromId_ends (own : Holding m d s) (id : UInt64) (os : ServiceAnswers) :
    wp (serviceGetFromId id os) (Ends m d ((os.outcome id).map some)) s := by
  unfold serviceGetFromId ServiceAnswers.outcome
  apply wp_ite
  · intro failed
    rw [if_pos failed]
    exact own.raise_ends _
  intro created
  rw [if_neg created]
  simp only [wp_bind]
  apply own.owns.wp_acquire
  intro dict s₁ own₁ hd₁
  -- the dictionary is consumed whether there is a service or not
  simp only [ioServiceGetMatchingService, wp_bind]
  apply own₁.wp_release
  intro s₂ own₂ hd₂
  have own₂ : Holding m d s₂ := ⟨own₂, (hd₂.trans hd₁).trans own.denials⟩
  cases os.service with
  | none =>
    rw [wp_pure]
    exact own₂.raise_ends _
  | some entry =>
    simp only [wp_bind, wp_pure]
    apply own₂.owns.wp_acquire
    exact fun ref s₃ own₃ hd₃ => ⟨rfl, own₃, hd₃.trans own₂.denials⟩

lemma wp_withProperty_gets {α : Type} {o : Except ErrorValue α}
    {x : Prog Fault System (Option Error × α)} (own : Holding m d s)
    (h : ∀ m s, Holding m d s → wp x (Gets m d o) s) : wp (withProperty x) (Gets m d o) s := by
  simp only [withProperty, wp_bind, wp_pure]
  apply own.owns.wp_acquire
  intro ref s₁ own₁ hd₁
  apply wp_mono (h _ s₁ ⟨own₁, hd₁.trans own.denials⟩)
  rintro ⟨_ | e, value⟩ s₂ got
  · obtain ⟨ho, own₂⟩ := got
    apply own₂.owns.wp_release
    exact fun s₃ own₃ hd₃ => ⟨ho, own₃, hd₃.trans own₂.denials⟩
  · exact GivesBack.wp_raised (GivesBack.release? (r := some ref)) got fun s₃ r => r

lemma wp_withProperty_ends {α β : Type} [Owned RefKind α] [Content α β]
    {o : Except ErrorValue (Option β)} {x : Prog Fault System (Option Error × Option α)}
    (own : Holding m d s) (h : ∀ m s, Holding m d s → wp x (Ends m d o) s) :
    wp (withProperty x) (Ends m d o) s := by
  simp only [withProperty, wp_bind, wp_pure]
  apply own.owns.wp_acquire
  intro ref s₁ own₁ hd₁
  apply wp_mono (h _ s₁ ⟨own₁, hd₁.trans own.denials⟩)
  rintro ⟨_ | e, value⟩ s₂ ended
  · obtain ⟨ho, own₂⟩ := ended
    apply (own₂.owns.of_eq (add_right_comm _ _ _)).wp_release
    exact fun s₃ own₃ hd₃ => ⟨ho, own₃, hd₃.trans own₂.denials⟩
  · obtain ⟨rfl, r⟩ := ended
    exact GivesBack.wp_raised (GivesBack.release? (r := some ref)) r fun s₃ r => ⟨rfl, r⟩

lemma getInt32_gets (own : Holding m d s) (entry : RegistryEntry) (name : String) :
    wp (getInt32 entry name) (Gets m d (entry.int32 name)) s := by
  unfold getInt32 RegistryEntry.int32
  cases entry.property name with
  | none => exact own.raise_gets _ _
  | some cfValue =>
    apply wp_withProperty_gets own
    intro m s own
    cases cfValue with
    | number value isExact =>
      cases isExact with
      | true => exact wp_pure.mpr ⟨rfl, own⟩
      | false => exact own.raise_gets _ _
    | string value => exact own.raise_gets _ _
    | other => exact own.raise_gets _ _

lemma getUint16_gets (own : Holding m d s) (entry : RegistryEntry) (name : String) :
    wp (getUint16 entry name) (Gets m d (entry.uint16 name)) s := by
  simp only [getUint16, wp_bind]
  apply wp_mono (getInt32_gets own entry name)
  rintro ⟨_ | e, tmp⟩ s₁ got
  · obtain ⟨ho, own₁⟩ := got
    refine wp_pure.mpr ⟨?_, own₁⟩
    rw [RegistryEntry.uint16, ho]
    rfl
  · refine wp_pure.mpr (got.mono fun v hv => ?_)
    rw [RegistryEntry.uint16, hv]
    rfl

lemma getId_gets (own : Holding m d s) (machErrorString : UInt32 → String) (entry : RegistryEntry) :
    wp (getId machErrorString entry) (Gets m d (entry.id machErrorString)) s := by
  unfold getId RegistryEntry.id
  cases entry.entryId with
  | error result =>
    simp only [wp_bind, wp_pure]
    apply wp_createMachError own
    exact fun e s₁ r => r.mono fun _ hv => by rw [hv]; rfl
  | ok id => exact wp_pure.mpr ⟨rfl, own⟩

lemma getString_ends (own : Holding m d s) (entry : RegistryEntry) (name : String) :
    wp (getString entry name) (Ends m d (entry.string name)) s := by
  unfold getString RegistryEntry.string
  cases entry.property name with
  | none => exact wp_pure.mpr ⟨rfl, own.of_eq (add_zero m).symm⟩
  | some cfValue =>
    apply wp_withProperty_ends own
    intro m s own
    cases cfValue with
    | number value isExact => exact own.raise_ends _
    | string value =>
      cases value with
      | none => exact own.raise_ends _
      | some buffer => exact stringCopy_ends own buffer
    | other => exact own.raise_ends _

/-- The search keeps no reference but that of the service it finds. -/
lemma findUsbInterface_ends (own : Holding m d s) (interfaceNumber : UInt8)
    (entries : List RegistryEntry) :
    wp (findUsbInterface interfaceNumber entries)
      (Ends m d (firstVerdict (RegistryEntry.usbInterfaceVerdict interfaceNumber) entries)) s := by
  induction entries generalizing s with
  | nil => exact wp_pure.mpr ⟨rfl, own.of_eq (add_zero m).symm⟩
  | cons entry entries ih =>
    simp only [findUsbInterface, wp_bind]
    apply own.owns.wp_acquire
    intro ref s₁ own₁ hd₁
    have own₁ : Holding (m + owned (some (⟨ref, entry⟩ : Service))) d s₁ :=
      ⟨own₁, hd₁.trans own.denials⟩
    apply wp_ite
    · intro other
      have verdict : entry.usbInterfaceVerdict interfaceNumber = .ok none := if_pos other
      rw [wp_bind, firstVerdict_pass verdict]
      exact releaseService_givesBack.wp own₁ fun s₂ own₂ => ih own₂
    intro conforms
    have verdict : entry.usbInterfaceVerdict interfaceNumber = (do
        let actualNum ← entry.int32 "bInterfaceNumber"
        if actualNum.toInt = interfaceNumber.toNat then pure (some entry) else pure none) :=
      if_neg conforms
    rw [wp_bind]
    apply wp_mono (getInt32_gets own₁ entry "bInterfaceNumber")
    rintro ⟨_ | e, actualNum⟩ s₂ got
    · obtain ⟨number, own₂⟩ := got
      rw [ok_bind number] at verdict
      apply wp_ite
      · rintro ⟨_, same⟩
        rw [if_pos same] at verdict
        rw [firstVerdict_stop (by rw [verdict]; rintro ⟨⟩), verdict]
        exact wp_pure.mpr ⟨rfl, own₂⟩
      · intro differs
        have differs : actualNum.toInt ≠ interfaceNumber.toNat := by simpa using differs
        rw [if_neg differs] at verdict
        rw [wp_bind, firstVerdict_pass verdict]
        exact releaseService_givesBack.wp own₂ fun s₃ own₃ => ih own₃
    · have r : Raised (m + owned (some (⟨ref, entry⟩ : Service))) d
          (fun v => entry.int32 "bInterfaceNumber" = .error v) e s₂ := got
      simp only [Option.isNone_some, Bool.false_eq_true, false_and, if_false, wp_bind]
      apply releaseService_givesBack.wp_raised r
      intro s₃ r'
      refine wp_pure.mpr ⟨rfl, r'.mono fun v hv => ?_⟩
      rw [error_bind hv] at verdict
      rw [firstVerdict_stop (by rw [verdict]; rintro ⟨⟩), verdict]

/-- `service_get_usb_interface` gives the service of the interface, or an error and nothing else. -/
lemma serviceGetUsbInterface_ends (own : Holding m d s) (machErrorString : UInt32 → String)
    (interfaceNumber : UInt8) (children : Except UInt32 (List RegistryEntry)) :
    wp (serviceGetUsbInterface machErrorString interfaceNumber children)
      (Ends m d ((usbInterfaceOutcome machErrorString interfaceNumber children).map some)) s := by
  apply Staged.construct (fun l : InterfaceVars => owned l.iterator) fun _ => releaseIterator_givesBack
  unfold usbInterfaceOutcome
  apply Ends.stageSome
  · exact createIterator_ends own machErrorString _ children
  · intro e s₁ r
    exact ⟨rfl, (r.of_eq (add_zero m).symm).mono fun v hv => by rw [error_bind hv]; rfl⟩
  intro iterator s₁ made own₁
  rw [ok_bind made]
  have finds : wp (findUsbInterface interfaceNumber iterator.entries) (Ends (m + owned iterator) d
      (firstVerdict (RegistryEntry.usbInterfaceVerdict interfaceNumber) (content iterator))) s₁ :=
    findUsbInterface_ends own₁ interfaceNumber iterator.entries
  apply Ends.stage
  · exact finds
  · intro e s₂ r
    exact ⟨rfl, r.mono fun v hv => by rw [error_bind hv]; rfl⟩
  intro found s₂ searched own₂
  rw [ok_bind searched]
  cases found with
  | none =>
    apply Checked.stage
    · exact notReadyUnless_checked own₂ _
    · intro e s₃ r
      exact ⟨rfl, (r.of_eq (add_zero _)).mono (by rintro _ ⟨⟩; rfl)⟩
    · rintro _ ⟨⟩
  | some service =>
    apply wp_stages_checking
    simp only [notReadyUnless, Option.isSome_some, if_true, wp_pure]
    exact wp_stages_nil.mpr ⟨rfl, own₂.of_eq (add_right_comm _ _ _)⟩

end Libusbp.Mac
