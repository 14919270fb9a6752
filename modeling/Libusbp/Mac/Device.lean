import Libusbp.Mac.IOKit
import Libusbp.Objects
import Libusbp.Requests

/-!
# Devices on macOS

`device_mac.c`. A device owns the string with its serial number, if there is one.
-/

namespace Libusbp.Mac

open Prog Host

/-- `struct libusbp_device` -/
structure Device where
  id : UInt64 := 0
  productId : UInt16 := 0
  vendorId : UInt16 := 0
  revision : UInt16 := 0
  serialNumber : Option (Box String) := none

def sizeofDevice : Nat := 24

/-- What a device says to its getters. -/
@[ext] structure DeviceView where
  id : UInt64
  productId : UInt16
  vendorId : UInt16
  revision : UInt16
  serialNumber : Option String
deriving DecidableEq, Repr

instance : Owned RefKind Device := ⟨fun dev => owned dev.serialNumber⟩

instance : Content Device DeviceView :=
  ⟨fun dev => ⟨dev.id, dev.productId, dev.vendorId, dev.revision, text dev.serialNumber⟩⟩

def deviceAllocate : Prog Fault System (Option Error × Option (Box Device)) :=
  allocateZeroed sizeofDevice {}

/-- The variables of `create_device` and `libusbp_device_copy`. -/
structure DeviceVars where
  newDevice : Option (Box Device) := none
  device : Option (Box Device) := none

/-- The step `error = f(…, &new_device->x)`, where `fill` writes the output to the field `x`. -/
def fillingDevice {α : Type} (f : Prog Fault System (Option Error × α)) (fill : Device → α → Device) :
    DeviceVars → Prog Fault System (Option Error × DeviceVars) :=
  into (fun l => do
    let _ ← expect .nullPointer l.newDevice
    f) fun l x => { l with newDevice := l.newDevice.map fun dev => ⟨dev.addr, fill dev.val x⟩ }

def deviceFree (device : Option (Box Device)) : Prog Fault System Unit :=
  match device with
  | none => pure ()
  | some dev => do
    stringFree dev.val.serialNumber
    free (some dev)

def createDevice (machErrorString : UInt32 → String) (entry : RegistryEntry) :
    Prog Fault System (Option Error × Option (Box Device)) :=
  construct [
      into (fun _ => deviceAllocate) fun l x => { l with newDevice := x },
      fillingDevice (getUint16 entry kUSBVendorID) fun dev x => { dev with vendorId := x },
      fillingDevice (getUint16 entry kUSBProductID) fun dev x => { dev with productId := x },
      fillingDevice (getUint16 entry kUSBDeviceReleaseNumber) fun dev x => { dev with revision := x },
      fillingDevice (getString entry kUSBSerialNumberString) fun dev x => { dev with serialNumber := x },
      fillingDevice (getId machErrorString entry) fun dev x => { dev with id := x },
      fun l => pure (none, { l with device := l.newDevice, newDevice := none })]
    (fun l => deviceFree l.newDevice) (·.device) ({} : DeviceVars)

/-- The steps of `libusbp_device_copy`, which starts with a `memcpy` of the source. -/
def deviceCopySteps (source : Device) :
    List (DeviceVars → Prog Fault System (Option Error × DeviceVars)) :=
  [into (fun _ => deviceAllocate) fun l x => { l with newDevice := x },
    fun l => do
      let newDevice ← expect .nullPointer l.newDevice
      pure (none, { l with
        newDevice := some ⟨newDevice.addr, { source with serialNumber := none }⟩ }),
    fillingDevice
      (if source.serialNumber.isNone then pure (none, none) else stringCopy (text source.serialNumber))
      fun dev x => { dev with serialNumber := x },
    fun l => pure (none, { l with device := l.newDevice, newDevice := none })]

def deviceCopy (source : Option (Box Device)) (dest : Bool) :
    Prog Fault System (Option Error × Option (Box Device)) :=
  if dest = false then do
    let error ← inHeap (errorCreate "Device output pointer is null.")
    pure (error, none)
  else match source with
    | none => pure (none, none)
    | some source =>
      construct (deviceCopySteps source.val) (fun l => deviceFree l.newDevice) (·.device) {}

def deviceGetVendorId : Option (Box Device) → Bool → Prog Fault System (Option Error × UInt16) :=
  getNumber "Vendor ID output pointer is null." "Device is null." (·.vendorId)

def deviceGetProductId : Option (Box Device) → Bool → Prog Fault System (Option Error × UInt16) :=
  getNumber "Product ID output pointer is null." "Device is null." (·.productId)

def deviceGetRevision : Option (Box Device) → Bool → Prog Fault System (Option Error × UInt16) :=
  getNumber "Device revision output pointer is null." "Device is null." (·.revision)

def deviceGetSerialNumber :
    Option (Box Device) → Bool → Prog Fault System (Option Error × Option (Box String)) :=
  Libusbp.getString "Serial number output pointer is null." "Device is null." fun dev =>
    match dev.serialNumber with
    | none => do
      let error ← inHeap do
        let error ← errorCreate "Device does not have a serial number."
        errorAddCode error ErrorCode.noSerialNumber
      pure (error, none)
    | some serialNumber => stringCopy serialNumber.val

def deviceGetOsId :
    Option (Box Device) → Bool → Prog Fault System (Option Error × Option (Box String)) :=
  Libusbp.getString "Device OS ID output pointer is null." "Device is null." fun dev =>
    iokitIdToString dev.id

/-- What `create_device` reads from the registry. -/
def RegistryEntry.deviceOutcome (machErrorString : UInt32 → String) (entry : RegistryEntry) :
    Except ErrorValue DeviceView := do
  let vendorId ← entry.uint16 kUSBVendorID
  let productId ← entry.uint16 kUSBProductID
  let revision ← entry.uint16 kUSBDeviceReleaseNumber
  let serialNumber ← entry.string kUSBSerialNumberString
  let id ← entry.id machErrorString
  pure ⟨id, productId, vendorId, revision, serialNumber⟩

variable {m : Holdings RefKind} {d : Nat} {s : System}

lemma deviceFree_givesBack {device : Option (Box Device)} :
    GivesBack (deviceFree device) (owned device) := by
  cases device with
  | none => exact .nothing
  | some dev =>
    have parts : GivesBack (do stringFree dev.val.serialNumber; free (some dev))
        (owned dev.val.serialNumber + (({.heap dev.addr}, 0) : Holdings RefKind)) :=
      .seq stringFree_givesBack .freeBlock
    exact parts.of_eq (add_comm _ _)

/-- A device that says what a blank one says is blank. -/
lemma eq_blank {dev : Device} (same : content ({} : Device) = content dev) : dev = {} := by
  obtain ⟨id, productId, vendorId, revision, serialNumber⟩ := dev
  cases serialNumber with
  | none =>
    cases same
    rfl
  | some string => cases same

/-- `create_device` gives a device that says what the registry says, or an error. -/
lemma createDevice_ends (own : Holding m d s) (machErrorString : UInt32 → String)
    (entry : RegistryEntry) :
    wp (createDevice machErrorString entry)
      (Ends m d ((entry.deviceOutcome machErrorString).map some)) s := by
  apply Staged.construct (fun l : DeviceVars => owned l.newDevice) fun _ => deviceFree_givesBack
  unfold RegistryEntry.deviceOutcome
  apply Ends.stageSome
  · exact allocateZeroed_ends own (by decide) rfl
  · intro e s₁ r
    exact ⟨rfl, (r.of_eq (by simp)).of_ok⟩
  intro newDevice s₁ blank own₁
  obtain ⟨a, device⟩ := newDevice
  obtain rfl := eq_blank (Except.ok.inj blank)
  apply Gets.stage
  · exact getUint16_gets own₁ entry kUSBVendorID
  · intro e x s₂ r
    exact ⟨rfl, r.mono fun v hv => by rw [hv]; rfl⟩
  intro vendorId s₂ gotVendor own₂
  apply Gets.stage
  · exact getUint16_gets own₂ entry kUSBProductID
  · intro e x s₃ r
    exact ⟨rfl, r.mono fun v hv => by rw [gotVendor, hv]; rfl⟩
  intro productId s₃ gotProduct own₃
  apply Gets.stage
  · exact getUint16_gets own₃ entry kUSBDeviceReleaseNumber
  · intro e x s₄ r
    exact ⟨rfl, r.mono fun v hv => by rw [gotVendor, gotProduct, hv]; rfl⟩
  intro revision s₄ gotRevision own₄
  apply Ends.stage
  · exact getString_ends own₄ entry kUSBSerialNumberString
  · intro e s₅ r
    refine ⟨rfl, r.mono fun v hv => ?_⟩
    rw [gotVendor, gotProduct, gotRevision, hv]
    rfl
  intro serialNumber s₅ gotSerial own₅
  have own₅ : Holding (m + owned (⟨a, { serialNumber := serialNumber }⟩ : Box Device)) d s₅ :=
    own₅.of_eq (add_assoc _ _ _)
  apply Gets.stage
  · exact getId_gets own₅ machErrorString entry
  · intro e x s₆ r
    refine ⟨rfl, r.mono fun v hv => ?_⟩
    rw [gotVendor, gotProduct, gotRevision, gotSerial, hv]
    rfl
  intro id s₆ gotId own₆
  apply wp_stages_cons
  refine wp_pure.mpr (wp_stages_nil.mpr ⟨?_, own₆.of_eq (add_zero _).symm⟩)
  rw [gotVendor, gotProduct, gotRevision, gotSerial, gotId]
  rfl

end Libusbp.Mac
