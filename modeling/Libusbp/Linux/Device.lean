import Libusbp.Linux.UdevSpec
import Libusbp.Objects
import Libusbp.Requests

/-!
# Devices on Linux

`device_linux.c`. A device owns the string with its syspath and, if there is one, the string with its
serial number.
-/

namespace Libusbp.Linux

open Prog Host

/-- `struct libusbp_device` -/
structure Device where
  syspath : Option (Box String)
  serialNumber : Option (Box String)
  productId : UInt16
  vendorId : UInt16
  revision : UInt16

def sizeofDevice : Nat := 24

/-- What a device says to its getters. -/
@[ext] structure DeviceView where
  syspath : Option String
  serialNumber : Option String
  productId : UInt16
  vendorId : UInt16
  revision : UInt16
deriving DecidableEq, Repr

instance : Owned RefKind Device := ⟨fun dev => owned dev.syspath + owned dev.serialNumber⟩

instance : Content Device DeviceView :=
  ⟨fun dev => ⟨text dev.syspath, text dev.serialNumber, dev.productId, dev.vendorId, dev.revision⟩⟩

instance : Content Unit Unit := ⟨id⟩

/-- The variables of `device_create`. -/
structure DeviceVars where
  newDevice : Option (Box Unit) := none
  newSyspath : Option (Box String) := none
  vendorId : UInt16 := 0
  productId : UInt16 := 0
  revision : UInt16 := 0
  newSerialNumber : Option (Box String) := none
  device : Option (Box Device) := none

/-- The assignments that populate the new device. -/
def DeviceVars.populate (l : DeviceVars) : Prog Fault System (Option Error × DeviceVars) := do
  let newDevice ← expect .nullPointer l.newDevice
  pure (none, { l with
    device := some ⟨newDevice.addr,
      { syspath := l.newSyspath
        serialNumber := l.newSerialNumber
        vendorId := l.vendorId
        productId := l.productId
        revision := l.revision }⟩
    newSyspath := none
    newSerialNumber := none
    newDevice := none })

def deviceCreate (dev : UdevDevice) : Prog Fault System (Option Error × Option (Box Device)) :=
  construct [
      into (fun _ => allocate sizeofDevice ()) fun l x => { l with newDevice := x },
      into (fun _ => udevwGetSyspathCopy dev) fun l x => { l with newSyspath := x },
      into (fun _ => udevwGetSysattrUint16 dev "idVendor") fun l x => { l with vendorId := x },
      into (fun _ => udevwGetSysattrUint16 dev "idProduct") fun l x => { l with productId := x },
      into (fun _ => udevwGetSysattrUint16 dev "bcdDevice") fun l x => { l with revision := x },
      into (fun _ => udevwGetSysattrIfExistsCopy dev "serial")
        fun l x => { l with newSerialNumber := x },
      DeviceVars.populate]
    (fun l => do
      free l.newSerialNumber
      free l.newSyspath
      free l.newDevice) (·.device) {}

def deviceFree (device : Option (Box Device)) : Prog Fault System Unit :=
  match device with
  | none => pure ()
  | some dev => do
    free dev.val.serialNumber
    free dev.val.syspath
    free (some dev)

/-- The variables of `libusbp_device_copy`. -/
structure DeviceCopyVars where
  newDevice : Option (Box Unit) := none
  newSyspath : Option (Box String) := none
  newSerialNumber : Option (Box String) := none
  dest : Option (Box Device) := none

/-- The assignments that assemble the copy, which starts as a `memcpy` of the source. -/
def DeviceCopyVars.assemble (source : Device) (l : DeviceCopyVars) :
    Prog Fault System (Option Error × DeviceCopyVars) := do
  let newDevice ← expect .nullPointer l.newDevice
  pure (none, {
    dest := some ⟨newDevice.addr,
      { source with
        syspath := l.newSyspath
        serialNumber := l.newSerialNumber }⟩
    newDevice := none
    newSyspath := none
    newSerialNumber := none })

def deviceCopy (source : Option (Box Device)) (dest : Bool) :
    Prog Fault System (Option Error × Option (Box Device)) :=
  if dest = false then do
    let error ← inHeap (errorCreate "Device output pointer is null.")
    pure (error, none)
  else match source with
    | none => pure (none, none)
    | some source =>
      construct [
          into (fun _ => allocate sizeofDevice ()) fun l x => { l with newDevice := x },
          into (fun _ => stringCopy (text source.val.syspath)) fun l x => { l with newSyspath := x },
          into (fun _ =>
            if source.val.serialNumber.isNone then pure (none, none)
            else stringCopy (text source.val.serialNumber))
            fun l x => { l with newSerialNumber := x },
          DeviceCopyVars.assemble source.val]
        (fun l => do
          free l.newDevice
          free l.newSyspath
          free l.newSerialNumber) (·.dest) {}

def deviceGetVendorId : Option (Box Device) → Bool → Prog Fault System (Option Error × UInt16) :=
  getNumber "Vendor ID output pointer is null." "Device is null." (·.vendorId)

def deviceGetProductId : Option (Box Device) → Bool → Prog Fault System (Option Error × UInt16) :=
  getNumber "Product ID output pointer is null." "Device is null." (·.productId)

def deviceGetRevision : Option (Box Device) → Bool → Prog Fault System (Option Error × UInt16) :=
  getNumber "Device revision output pointer is null." "Device is null." (·.revision)

def deviceGetSerialNumber :
    Option (Box Device) → Bool → Prog Fault System (Option Error × Option (Box String)) :=
  getString "Serial number output pointer is null." "Device is null." fun dev =>
    match dev.serialNumber with
    | none => do
      let error ← inHeap do
        let error ← errorCreate "Device does not have a serial number."
        errorAddCode error ErrorCode.noSerialNumber
      pure (error, none)
    | some serialNumber => stringCopy serialNumber.val

def deviceGetOsId :
    Option (Box Device) → Bool → Prog Fault System (Option Error × Option (Box String)) :=
  getString "Device OS ID output pointer is null." "Device is null." fun dev =>
    stringCopy (text dev.syspath)

/-- What `device_create` reads from libudev. -/
def UdevInfo.deviceOutcome (info : UdevInfo) : Except ErrorValue DeviceView := do
  let vendorId ← info.getSysattr Scan.toUInt16 "idVendor"
  let productId ← info.getSysattr Scan.toUInt16 "idProduct"
  let revision ← info.getSysattr Scan.toUInt16 "bcdDevice"
  pure ⟨info.syspath, info.sysattr "serial", productId, vendorId, revision⟩

variable {m : Holdings RefKind} {d : Nat} {s : System}

lemma deviceFree_givesBack {device : Option (Box Device)} :
    GivesBack (deviceFree device) (owned device) := by
  cases device with
  | none => exact .nothing
  | some dev =>
    have strings : GivesBack (do free dev.val.serialNumber; free dev.val.syspath; free (some dev))
        (owned dev.val.serialNumber + (owned dev.val.syspath + (({.heap dev.addr}, 0) : Holdings RefKind))) :=
      .seq .free (.seq .free .freeBlock)
    apply strings.of_eq
    simp only [owned_some, owned_box]
    show _ = _ + (owned dev.val.syspath + owned dev.val.serialNumber)
    abel

/-- `device_create` gives a device that says what libudev says, or an error. -/
lemma deviceCreate_ends (own : Holding m d s) (dev : UdevDevice) :
    wp (deviceCreate dev) (Ends m d (dev.info.deviceOutcome.map some)) s := by
  apply Staged.construct (fun l : DeviceVars =>
      owned l.newSerialNumber + (owned l.newSyspath + owned l.newDevice))
    fun _ => .seq .free (.seq .free .free)
  unfold UdevInfo.deviceOutcome
  apply Ends.stageSome
  · exact allocate_ends own (by decide) rfl
  · intro e s₁ r
    exact ⟨rfl, (r.of_eq (by simp)).of_ok⟩
  intro newDevice s₁ _ own₁
  apply Ends.stageSome
  · exact udevwGetSyspathCopy_ends own₁ dev
  · intro e s₂ r
    exact ⟨rfl, (r.of_eq (by simp)).of_ok⟩
  intro newSyspath s₂ copied own₂
  have others : m + owned newDevice + owned newSyspath =
      m + (0 + (owned newSyspath + owned newDevice)) := by abel
  apply Gets.stage
  · exact udevwGetSysattr_gets own₂ Scan.toUInt16 dev "idVendor"
  · intro e x s₃ r
    refine ⟨rfl, (r.of_eq others).mono fun v hv => ?_⟩
    rw [hv]
    rfl
  intro vendorId s₃ gotVendor own₃
  apply Gets.stage
  · exact udevwGetSysattr_gets own₃ Scan.toUInt16 dev "idProduct"
  · intro e x s₄ r
    refine ⟨rfl, (r.of_eq others).mono fun v hv => ?_⟩
    rw [gotVendor, hv]
    rfl
  intro productId s₄ gotProduct own₄
  apply Gets.stage
  · exact udevwGetSysattr_gets own₄ Scan.toUInt16 dev "bcdDevice"
  · intro e x s₅ r
    refine ⟨rfl, (r.of_eq others).mono fun v hv => ?_⟩
    rw [gotVendor, gotProduct, hv]
    rfl
  intro revision s₅ gotRevision own₅
  apply Ends.stage
  · exact udevwGetSysattrIfExistsCopy_ends own₅ dev "serial"
  · intro e s₆ r
    exact ⟨rfl, (r.of_eq others).of_ok⟩
  intro newSerialNumber s₆ gotSerial own₆
  apply wp_stages_cons
  simp only [DeviceVars.populate, wp_bind, wp_expect]
  refine ⟨newDevice, rfl, ?_⟩
  simp only [wp_pure, wp_stages_nil]
  refine ⟨?_, own₆.of_eq ?_⟩
  · have syspath : dev.info.syspath = newSyspath.val := Except.ok.inj copied
    have serial : dev.info.sysattr "serial" = text newSerialNumber := Except.ok.inj gotSerial
    rw [gotVendor, gotProduct, gotRevision, syspath, serial]
    rfl
  · show _ = m + (({.heap newDevice.addr}, 0) + (owned (some newSyspath) + owned newSerialNumber)) +
      (0 + (0 + 0))
    rw [owned_box]
    simp only [owned_unit, owned_some]
    abel

/-- A device that was built has a syspath. -/
def DeviceView.Built (v : DeviceView) : Prop := v.syspath ≠ none

lemma UdevInfo.deviceOutcome_built {info : UdevInfo} {v : DeviceView}
    (h : info.deviceOutcome = .ok v) : v.Built := by
  obtain ⟨vendorId, -, h⟩ := of_bind_ok h
  obtain ⟨productId, -, h⟩ := of_bind_ok h
  obtain ⟨revision, -, h⟩ := of_bind_ok h
  cases h
  exact Option.some_ne_none _

/-- `libusbp_device_copy` gives a device that says the same, or an error and nothing else. -/
lemma deviceCopy_ends (own : Holding m d s) {source : Option (Box Device)}
    (built : ∀ src, source = some src → (content src).Built) :
    wp (deviceCopy source true) (Ends m d (.ok (source.map content))) s := by
  cases source with
  | none => exact wp_pure.mpr ⟨rfl, own.of_eq (add_zero m).symm⟩
  | some source =>
    obtain ⟨syspath, hsyspath⟩ := Option.ne_none_iff_exists'.mp (built source rfl)
    have hsyspath : text source.val.syspath = some syspath := hsyspath
    apply Staged.construct (fun l : DeviceCopyVars =>
        owned l.newDevice + (owned l.newSyspath + owned l.newSerialNumber))
      fun _ => .seq .free (.seq .free .free)
    apply Ends.stageSome
    · exact allocate_ends own (by decide) rfl
    · intro e s₁ r
      exact ⟨rfl, (r.of_eq (by simp)).of_ok⟩
    intro newDevice s₁ _ own₁
    apply Ends.stageSome
    · rw [hsyspath]
      exact stringCopy_ends own₁ syspath
    · intro e s₂ r
      exact ⟨rfl, (r.of_eq (by simp)).of_ok⟩
    intro newSyspath s₂ copied own₂
    -- the serial number may be null, which `string_copy` does not take
    have serial : wp (if source.val.serialNumber.isNone then pure (none, none)
        else stringCopy (text source.val.serialNumber))
        (Ends (m + owned newDevice + owned newSyspath) d (.ok (text source.val.serialNumber))) s₂ := by
      cases source.val.serialNumber with
      | none => exact wp_pure.mpr ⟨rfl, own₂.of_eq (add_zero _).symm⟩
      | some serialNumber => exact stringCopy_ends own₂ serialNumber.val
    apply Ends.stage
    · exact serial
    · intro e s₃ r
      exact ⟨rfl, (r.of_eq (by simp only [owned_some, owned_none]; abel)).of_ok⟩
    intro newSerialNumber s₃ gotSerial own₃
    apply wp_stages_cons
    simp only [DeviceCopyVars.assemble, wp_bind, wp_expect]
    refine ⟨newDevice, rfl, ?_⟩
    simp only [wp_pure, wp_stages_nil]
    refine ⟨?_, own₃.of_eq ?_⟩
    · have same : text source.val.serialNumber = text newSerialNumber := Except.ok.inj gotSerial
      have path : text source.val.syspath = some newSyspath.val := by
        rw [hsyspath, Except.ok.inj copied]
        rfl
      have content_source : content source = ⟨text source.val.syspath, text source.val.serialNumber,
        source.val.productId, source.val.vendorId, source.val.revision⟩ := rfl
      rw [Option.map_some, content_source, same, path]
      rfl
    · show _ = m + (({.heap newDevice.addr}, 0) +
        (owned (some newSyspath) + owned newSerialNumber)) + (0 + (0 + 0))
      rw [owned_box]
      simp only [owned_unit, owned_some]
      abel

/-- The number of requests for memory of `libusbp_device_copy`. -/
def Device.copyRequests (dev : Device) : Nat := if dev.serialNumber.isNone then 2 else 3

lemma deviceCopy_requests {source : Box Device} :
    Requests source.val.copyRequests (deviceCopy (some source) true) := by
  have steps : source.val.copyRequests =
      1 + (1 + ((if source.val.serialNumber.isNone then 0 else 1) + (0 + 0))) := by
    unfold Device.copyRequests
    split <;> rfl
  rw [steps]
  refine Requests.construct (fun l => .seq .free (.seq .free .free)) ?_
  refine Requests.stagesInto (fun _ => allocate_requests) (fun _ => ?_) _
  refine Requests.stagesInto (fun _ => stringCopy_requests) (fun _ => ?_) _
  refine Requests.stagesInto (fun _ => ?_) (fun _ => ?_) _
  · cases source.val.serialNumber with
    | none => exact Requests.done
    | some serialNumber => exact stringCopy_requests
  · exact Requests.stages (fun _ => .expect fun _ _ => .done) (fun _ => .done) _

lemma deviceGetOsId_ends (own : Holding m d s) {device : Box Device} {syspath : String}
    (built : text device.val.syspath = some syspath) :
    wp (deviceGetOsId (some device) true) (Ends m d (Except.map some (.ok syspath))) s := by
  have copies : deviceGetOsId (some device) true = stringCopy (text device.val.syspath) := rfl
  rw [copies, built]
  exact stringCopy_ends own syspath

/-- Devices that say the same are the same to every getter. -/
lemma deviceGetters_congr {dev dev' : Box Device} (same : content dev = content dev') (output : Bool) :
    (deviceGetVendorId (some dev) output = deviceGetVendorId (some dev') output) ∧
    (deviceGetProductId (some dev) output = deviceGetProductId (some dev') output) ∧
    (deviceGetRevision (some dev) output = deviceGetRevision (some dev') output) ∧
    (deviceGetSerialNumber (some dev) output = deviceGetSerialNumber (some dev') output) ∧
    (deviceGetOsId (some dev) output = deviceGetOsId (some dev') output) := by
  have vendorId : dev.val.vendorId = dev'.val.vendorId := congrArg DeviceView.vendorId same
  have productId : dev.val.productId = dev'.val.productId := congrArg DeviceView.productId same
  have revision : dev.val.revision = dev'.val.revision := congrArg DeviceView.revision same
  have serial : text dev.val.serialNumber = text dev'.val.serialNumber :=
    congrArg DeviceView.serialNumber same
  have syspath : text dev.val.syspath = text dev'.val.syspath := congrArg DeviceView.syspath same
  refine ⟨?_, ?_, ?_, ?_, ?_⟩
  · simp only [deviceGetVendorId, getNumber, vendorId]
  · simp only [deviceGetProductId, getNumber, productId]
  · simp only [deviceGetRevision, getNumber, revision]
  · simp only [deviceGetSerialNumber, getString]
    cases hd : dev.val.serialNumber with
    | none =>
      cases hd' : dev'.val.serialNumber with
      | none => rfl
      | some t => simp [hd, hd', text] at serial
    | some t =>
      cases hd' : dev'.val.serialNumber with
      | none => simp [hd, hd', text] at serial
      | some t' =>
        simp only [hd, hd', text, Option.map_some, Option.some.injEq] at serial
        simp only [serial]
  · simp only [deviceGetOsId, getString, syspath]

end Libusbp.Linux
