import Libusbp.Windows.Device

/-!
# Hardware IDs

What `device_get_hardware_ids` and `device_take_info_from_hardware_ids` make of the hardware IDs of a
device, in whatever case its driver has written them.
-/

namespace Libusbp.Windows

open Prog Host

/-- The characters of a string of the hardware IDs, in capitals. -/
def capitals (id : List UInt8) : List Char := id.map fun c => Char.ofNat (capitalize c).toNat

/-- `USB\VID_hhhh&PID_hhhh&REV_hhhh` -/
def hardwareIdOf (vendorId productId revision : UInt16) : List Char :=
  "USB\\VID_".toList ++ (Scan.hexWord vendorId ++ ("&PID_".toList ++ (Scan.hexWord productId ++
    ("&REV_".toList ++ Scan.hexWord revision))))

/-- The answers about two devices differ in nothing but the case of letters. -/
structure HardwareIdAnswers.SameLetters (os os' : HardwareIdAnswers) : Prop where
  sizeError : os.sizeError = os'.sizeError
  size : os.size = os'.size
  dataType : os.ids.map (·.1) = os'.ids.map (·.1)
  bytes : os.bytes.map capitalize = os'.bytes.map capitalize

/-- The hardware IDs pass the checks: the two calls succeed, and the buffer is a `REG_MULTI_SZ` that ends
with two zero bytes. -/
structure HardwareIdAnswers.Passes (os : HardwareIdAnswers) : Prop where
  sized : ∀ errorCode, os.sizeError = some errorCode → errorCode = errorInsufficientBuffer
  multiStrings : ∃ bytes, os.ids = .ok (regMultiSz, bytes)
  ends : ∃ ys, os.bytes = ys ++ [0, 0]

/-- What a device gets from hardware IDs: the numbers of the first USB ID, if it has all three, and an
error with no numbers left if no string has three. -/
structure Identified (bytes : List UInt8) (device : Device) (r : Option Error × Device) : Prop where
  first : ∀ before id after vendorId productId revision,
    multiStrings bytes = before ++ id :: after →
    hardwareIdOf vendorId productId revision <+: capitals id →
    (∀ earlier ∈ before, ¬"USB\\VID_".toList <+: capitals earlier) →
    r = (none, { device with vendorId := vendorId, productId := productId, revision := revision })
  noNumbers : (∀ id ∈ multiStrings bytes, scanHardwareId (id.map capitalize) = none) →
    r.1 ≠ none ∧ r.2 = { device with vendorId := 0, productId := 0, revision := 0 }

/-- The device that is made for an entry of a list, if the device instance ID can be read: one with the
numbers of the first USB ID, and none if the hardware IDs do not pass or no string has three numbers. -/
structure DevInfo.Identifies (info : DevInfo) : Prop where
  first : info.hardwareIds.Passes → ∀ before id after vendorId productId revision,
    multiStrings info.hardwareIds.bytes = before ++ id :: after →
    hardwareIdOf vendorId productId revision <+: capitals id →
    (∀ earlier ∈ before, ¬"USB\\VID_".toList <+: capitals earlier) →
    info.device? = info.instanceId.toOption.map fun instanceId =>
      ⟨some instanceId, productId, vendorId, revision⟩
  noNumbers : (∀ id ∈ multiStrings info.hardwareIds.bytes,
    scanHardwareId (id.map capitalize) = none) → info.device? = none
  refused : ¬info.hardwareIds.Passes → info.device? = none

variable {m : Holdings RefKind} {d : Nat} {s : System}

lemma capitalize_eq_zero {c : UInt8} : capitalize c = 0 ↔ c = 0 := by
  unfold capitalize
  split
  case isTrue letter =>
    have : c.toNat ≤ 122 := UInt8.le_iff_toNat_le.mp letter.2
    have : 97 ≤ c.toNat := UInt8.le_iff_toNat_le.mp letter.1
    constructor
    · intro zero
      have : (c - 32).toNat = 0 := by rw [zero]; rfl
      rw [UInt8.toNat_sub_of_le c 32 (UInt8.le_iff_toNat_le.mpr (by simp; omega))] at this
      simp only [UInt8.reduceToNat] at this
      omega
    · rintro rfl
      simp at *
  case isFalse => exact Iff.rfl

/-- Capital letters leave the strings apart. -/
lemma multiStrings_capitalize (bytes : List UInt8) :
    multiStrings (bytes.map capitalize) = (multiStrings bytes).map (List.map capitalize) := by
  have apart : (bytes.map capitalize).splitOn 0 = (bytes.splitOn 0).map (List.map capitalize) := by
    induction bytes with
    | nil => rfl
    | cons c bytes ih =>
      rw [List.map_cons, List.splitOn_cons_eq_if_modifyHead, List.splitOn_cons_eq_if_modifyHead, ih]
      by_cases zero : c = 0
      · rw [if_pos (by simpa using capitalize_eq_zero.mpr zero), if_pos (by simpa using zero)]
        rfl
      · rw [if_neg (by simpa using mt capitalize_eq_zero.mp zero), if_neg (by simpa using zero)]
        cases bytes.splitOn 0 with
        | nil => rfl
        | cons string strings => rfl
  rw [multiStrings, multiStrings, apart, List.takeWhile_map]
  congr 2
  funext string
  simp

/-- The characters that `sscanf` reads. -/
lemma chars_capitalize (id : List UInt8) :
    (id.map capitalize).map (fun c => Char.ofNat c.toNat) = capitals id := by
  rw [List.map_map]
  rfl

/-- A USB ID is read as its three numbers, whatever follows them. -/
lemma scanHardwareId_of_prefix {id : List UInt8} {vendorId productId revision : UInt16}
    (form : hardwareIdOf vendorId productId revision <+: capitals id) :
    scanHardwareId (id.map capitalize) = some (vendorId, productId, revision) := by
  obtain ⟨rest, eq⟩ := form
  delta hardwareIdOf at eq
  simp only [List.append_assoc] at eq
  rw [scanHardwareId, chars_capitalize, ← eq, Scan.literal_append]
  simp only [Option.bind_eq_bind, Option.bind_some]
  rw [Scan.hex_hexWord]
  simp only [Option.bind_some]
  rw [Scan.literal_append]
  simp only [Option.bind_some]
  rw [Scan.hex_hexWord]
  simp only [Option.bind_some]
  rw [Scan.literal_append]
  simp only [Option.bind_some]
  rw [Scan.hex_hexWord]
  simp only [Option.bind_some, Scan.toUInt16_toNat, Option.pure_def]

/-- Only a string that begins like a USB ID has numbers. -/
lemma prefix_of_scanHardwareId {id : List UInt8} {numbers : UInt16 × UInt16 × UInt16}
    (scan : scanHardwareId (id.map capitalize) = some numbers) :
    "USB\\VID_".toList <+: capitals id := by
  rw [scanHardwareId, chars_capitalize] at scan
  obtain ⟨rest, literal, _⟩ := Option.bind_eq_some_iff.mp scan
  rw [Scan.literal_matches literal]
  exact List.prefix_append _ _

/-- The numbers that the walk over the capitals comes to. -/
lemma hardwareIdNumbers_capitalize (bytes : List UInt8) :
    hardwareIdNumbers (bytes.map capitalize) =
      (multiStrings bytes).findSome? fun id => scanHardwareId (id.map capitalize) := by
  rw [hardwareIdNumbers, multiStrings_capitalize, List.findSome?_map]
  rfl

/-- The first USB ID has the numbers of all the strings, if no string in front of it begins like one. -/
lemma hardwareIdNumbers_first {bytes id : List UInt8} {before after : List (List UInt8)}
    {vendorId productId revision : UInt16} (strings : multiStrings bytes = before ++ id :: after)
    (form : hardwareIdOf vendorId productId revision <+: capitals id)
    (earlier : ∀ earlier ∈ before, ¬"USB\\VID_".toList <+: capitals earlier) :
    hardwareIdNumbers (bytes.map capitalize) = some (vendorId, productId, revision) := by
  have skipped : before.findSome? (fun id => scanHardwareId (id.map capitalize)) = none := by
    rw [List.findSome?_eq_none_iff]
    intro id' mem
    by_contra found
    obtain ⟨numbers, scan⟩ := Option.ne_none_iff_exists'.mp found
    exact earlier id' mem (prefix_of_scanHardwareId scan)
  rw [hardwareIdNumbers_capitalize, strings, List.findSome?_append, skipped, Option.none_or,
    List.findSome?_cons, scanHardwareId_of_prefix form]

lemma hardwareIdNumbers_none {bytes : List UInt8}
    (none : ∀ id ∈ multiStrings bytes, scanHardwareId (id.map capitalize) = none) :
    hardwareIdNumbers (bytes.map capitalize) = .none := by
  rw [hardwareIdNumbers_capitalize, List.findSome?_eq_none_iff.mpr none]

/-- The numbers that a device gets are those of the first USB ID. -/
lemma Numbered.identified {bytes : List UInt8} {device : Device} {r : Option Error × Device}
    (h : Numbered m d device (hardwareIdNumbers (bytes.map capitalize)) r s) :
    Identified bytes device r where
  first before id after vendorId productId revision strings form earlier := by
    rw [hardwareIdNumbers_first strings form earlier] at h
    exact h.1
  noNumbers none := by
    rw [hardwareIdNumbers_none none] at h
    obtain ⟨e, rfl, _⟩ := h
    exact ⟨Option.some_ne_none e, rfl⟩

/-- The hardware IDs that are handed out are those that pass, in capitals. -/
lemma HardwareIdAnswers.capitalIds_iff {os : HardwareIdAnswers} {ids : List UInt8} :
    os.capitalIds = some ids ↔ os.Passes ∧ ids = os.bytes.map capitalize := by
  have sized : os.sized = true ↔
      ∀ errorCode, os.sizeError = some errorCode → errorCode = errorInsufficientBuffer := by
    simp [HardwareIdAnswers.sized, Option.all_eq_true]
  constructor
  · intro there
    obtain ⟨capital, ends⟩ := capitalIds_some there
    refine ⟨?_, capital⟩
    unfold HardwareIdAnswers.capitalIds at there
    split at there
    · cases there
    next dataType bytes read =>
      split at there
      case isTrue all => exact ⟨sized.mp all.1, ⟨bytes, by rw [read, all.2.1]⟩, ends⟩
      case isFalse => cases there
  · rintro ⟨passes, rfl⟩
    obtain ⟨bytes, read⟩ := passes.multiStrings
    unfold HardwareIdAnswers.capitalIds
    rw [read]
    exact if_pos ⟨sized.mpr passes.sized, rfl, terminated_iff.mpr passes.ends⟩

lemma DevInfo.identifies (info : DevInfo) : info.Identifies := by
  -- what is made of hardware IDs that pass is made of their numbers
  have made (passes : info.hardwareIds.Passes) : info.device? = info.instanceId.toOption.bind fun id =>
      (hardwareIdNumbers (info.hardwareIds.bytes.map capitalize)).map
        fun numbers => ⟨some id, numbers.2.1, numbers.1, numbers.2.2⟩ := by
    rw [DevInfo.device?, HardwareIdAnswers.capitalIds_iff.mpr ⟨passes, rfl⟩]
    rfl
  have refused (no : ¬info.hardwareIds.Passes) : info.device? = none := by
    have missing : info.hardwareIds.capitalIds = none := by
      by_contra there
      obtain ⟨ids, there⟩ := Option.ne_none_iff_exists'.mp there
      exact no (HardwareIdAnswers.capitalIds_iff.mp there).1
    rw [DevInfo.device?, missing]
    cases info.instanceId.toOption with
    | none => rfl
    | some id => rfl
  refine ⟨?_, ?_, refused⟩
  · intro passes before id after vendorId productId revision strings form earlier
    rw [made passes, hardwareIdNumbers_first strings form earlier]
    cases info.instanceId.toOption with
    | none => rfl
    | some id => rfl
  · intro none
    by_cases passes : info.hardwareIds.Passes
    · rw [made passes, hardwareIdNumbers_none none]
      cases info.instanceId.toOption with
      | none => rfl
      | some id => rfl
    · exact refused passes

/-- Capital letters leave the end of the buffer as it is. -/
lemma terminated_capitalize (bytes : List UInt8) :
    terminated (bytes.map capitalize) = terminated bytes := by
  have last : (bytes.map capitalize).drop (bytes.length - 2) = [0, 0] ↔
      bytes.drop (bytes.length - 2) = [0, 0] := by
    rw [← List.map_drop]
    constructor
    · intro eq
      obtain ⟨a, l, split, za, eq⟩ := List.map_eq_cons_iff.mp eq
      obtain ⟨b, l', rfl, zb, eq⟩ := List.map_eq_cons_iff.mp eq
      rw [split, capitalize_eq_zero.mp za, capitalize_eq_zero.mp zb, List.map_eq_nil_iff.mp eq]
    · intro eq
      rw [eq]
      rfl
  simp only [terminated, List.length_map, last]

/-- The case of letters makes no difference to `device_get_hardware_ids`. -/
lemma deviceGetHardwareIds_sameLetters (formatMessage : UInt32 → String) {os os' : HardwareIdAnswers}
    (same : os.SameLetters os') :
    deviceGetHardwareIds formatMessage os = deviceGetHardwareIds formatMessage os' := by
  obtain ⟨sizeError, size, ids⟩ := os
  obtain ⟨sizeError', size', ids'⟩ := os'
  obtain ⟨rfl, rfl, dataType, bytes⟩ := same
  match ids, ids', dataType with
    | .error errorCode, .error _, rfl => rfl
    | .ok (dataType, bytes₀), .ok (_, bytes₁), rfl =>
      simp only [HardwareIdAnswers.bytes] at bytes
      have ends := (terminated_capitalize _).symm.trans
        ((congrArg terminated bytes).trans (terminated_capitalize _))
      have freed (a : Addr) (buffer : Buffer) : (free (some ⟨a, buffer⟩) : Prog Fault System Unit) =
          free (some (⟨a, ⟨(List.range size.toNat).map bytes₁⟩⟩ : Box Buffer)) := rfl
      simp only [deviceGetHardwareIds, construct, stages, into, checking, fillIds, bind_assoc,
        pure_bind]
      -- every step does the same with the two buffers, and the last one hands out their capitals
      refine bind_congr fun error => ?_
      cases error with
      | some e => simp only [pure_bind]
      | none =>
        simp only [bind_assoc]
        refine bind_congr fun r => ?_
        obtain ⟨_ | e, _ | newIds⟩ := r
        · simp only [expect, throw_bind]
        · simp only [expect, pure_bind, bind_assoc]
          refine bind_congr fun error => ?_
          cases error with
          | some e => simp only [pure_bind, freed]
          | none =>
            simp only [pure_bind, bind_assoc, ends]
            refine bind_congr fun error => ?_
            cases error with
            | some e => simp only [pure_bind, freed]
            | none => simp only [pure_bind, bytes]
        · simp only [pure_bind]
        · simp only [pure_bind]

/-- Hardware IDs identify a device whatever the case of their letters is. Those that pass the checks are
handed out in capitals; the first USB ID with all three numbers gives them to the device, if no other
string that begins like one is in front of it, and without such a string there is an error and no number
is left. `create_device` makes that device, or none at all with an error. -/
theorem hardwareIds_identify (own : Holding m d s) (formatMessage : UInt32 → String) (info : DevInfo) :
    wp (deviceGetHardwareIds formatMessage info.hardwareIds) (fun r s' =>
      Makes info.hardwareIds.capitalIds m d r s' ∧ ∀ ids, r = (none, some ids) → ∀ device,
        wp (deviceTakeInfoFromHardwareIds device ids.val.bytes)
          (fun r' _ => Identified info.hardwareIds.bytes device r') s') s ∧
      (∀ ids, info.hardwareIds.capitalIds = some ids ↔
        info.hardwareIds.Passes ∧ ids = info.hardwareIds.bytes.map capitalize) ∧
      wp (createDevice formatMessage info) (Makes info.device? m d) s ∧ info.Identifies ∧
      ∀ os', info.hardwareIds.SameLetters os' →
        createDevice formatMessage { info with hardwareIds := os' } = createDevice formatMessage info := by
  refine ⟨?_, fun ids => HardwareIdAnswers.capitalIds_iff, createDevice_makes own formatMessage info,
    info.identifies, ?_⟩
  · apply wp_mono (deviceGetHardwareIds_makes own formatMessage info.hardwareIds)
    rintro r s' makes
    refine ⟨makes, ?_⟩
    rintro ids rfl device
    obtain ⟨_, ⟨⟩, there, own'⟩ := makes
    obtain ⟨bytes, ys, ends⟩ := HardwareIdAnswers.capitalIds_some there
    change ids.val.bytes = info.hardwareIds.bytes.map capitalize at bytes
    have capital : ids.val.bytes = ys.map capitalize ++ [0, 0] := by
      rw [bytes, ends, capitalize_terminated]
    rw [capital]
    apply wp_mono (deviceTakeInfo_numbered own' device _)
    intro r s'' numbered
    rw [← capital, bytes] at numbered
    exact numbered.identified
  · intro os' same
    simp only [createDevice, createDeviceSteps, deviceGetHardwareIds_sameLetters formatMessage same]

/-- The bytes of a text. -/
def asciiBytes (text : String) : List UInt8 := text.toList.map fun c => UInt8.ofNat c.toNat

/-- A device whose second hardware ID has all three numbers, in small letters. -/
theorem hardwareIds_identify_example :
    let bytes := asciiBytes "ROOT\x00usb\\vid_1ffb&pid_2300&rev_0101&more\x00\x00"
    let info : DevInfo :=
      { devInst := 1
        instanceId := .ok "A"
        hardwareIds := ⟨some errorInsufficientBuffer, 42, .ok (regMultiSz, fun i => bytes.getD i 0)⟩
        parent := .ok 2
        deviceId := .ok "" }
    wp (createDevice (fun _ => "") info) (fun r _ => ∃ device, r = (none, some device) ∧
      content device.val = (⟨some "A", 0x2300, 0x1ffb, 0x0101⟩ : DeviceView))
      ⟨⟨fun _ => true, 0, []⟩, 0, []⟩ := by
  intro bytes info
  have own : Holding 0 0 (⟨⟨fun _ => true, 0, []⟩, 0, []⟩ : System) := ⟨.empty _, rfl⟩
  obtain ⟨_, capitals, makes, identifies, _⟩ := hardwareIds_identify own (fun _ => "") info
  have passes : info.hardwareIds.Passes :=
    ⟨fun _ same => (Option.some.inj same).symm, ⟨_, rfl⟩, terminated_iff.mp (by decide +kernel)⟩
  have told := identifies.first passes [asciiBytes "ROOT"]
    (asciiBytes "usb\\vid_1ffb&pid_2300&rev_0101&more") [] 0x1ffb 0x2300 0x0101 (by decide +kernel)
    (by decide +kernel) (by decide +kernel)
  obtain ⟨⟨error, device⟩, s', run, made⟩ := makes
  have noError : error = none := by
    have quiet : returns (createDevice (fun _ => "") info) ⟨⟨fun _ => true, 0, []⟩, 0, []⟩
        (·.1.isNone) = true := by decide +kernel
    obtain ⟨_, _, run', missing⟩ := ok_of_returns quiet
    cases run.symm.trans run'
    exact Option.isNone_iff_eq_none.mp missing
  subst noError
  obtain ⟨device, rfl, there, _⟩ := made
  exact ⟨_, s', run, device, rfl, Option.some.inj (there.symm.trans told)⟩

end Libusbp.Windows
