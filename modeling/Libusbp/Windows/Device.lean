import Libusbp.Lib.Scan
import Libusbp.Objects
import Libusbp.Requests
import Libusbp.Windows.SetupApi

/-!
# Devices on Windows

`device_windows.c`. A device owns the string with its device instance ID. The hardware IDs of a device
are the bytes of a `REG_MULTI_SZ`, and reading beyond them is a fault.
-/

namespace Libusbp.Windows

open Prog Host

/-- `struct libusbp_device` -/
structure Device where
  deviceInstanceId : Option (Box String) := none
  productId : UInt16 := 0
  vendorId : UInt16 := 0
  revision : UInt16 := 0

def sizeofDevice : Nat := 16

def regSz : UInt32 := 1
def regMultiSz : UInt32 := 7

/-- What a device says to its getters. -/
@[ext] structure DeviceView where
  deviceInstanceId : Option String
  productId : UInt16
  vendorId : UInt16
  revision : UInt16
deriving DecidableEq, Repr

/-- A buffer of bytes. -/
structure Buffer where
  bytes : List UInt8
deriving DecidableEq, Repr

instance : Owned RefKind Device := ⟨fun dev => owned dev.deviceInstanceId⟩

instance : Owned RefKind Buffer := ⟨fun _ => 0⟩

instance : Content Buffer (List UInt8) := ⟨(·.bytes)⟩

instance : Content Device DeviceView :=
  ⟨fun dev => ⟨text dev.deviceInstanceId, dev.productId, dev.vendorId, dev.revision⟩⟩

def deviceAllocate : Prog Fault System (Option Error × Option (Box Device)) :=
  allocateZeroed sizeofDevice {}

/-- The variables of `device_get_hardware_ids`. -/
structure HardwareIdVars where
  newIds : Option (Box Buffer) := none
  dataType : UInt32 := 0
  ids : Option (Box Buffer) := none

/-- A capital letter for a small one. -/
def capitalize (c : UInt8) : UInt8 := if 97 ≤ c ∧ c ≤ 122 then c - 32 else c

/-- The second call of `SetupDiGetDeviceRegistryProperty`, which fills the buffer. -/
def fillIds (formatMessage : UInt32 → String) (os : HardwareIdAnswers) (l : HardwareIdVars) :
    Prog Fault System (Option Error × HardwareIdVars) := do
  let newIds ← expect .nullPointer l.newIds
  match os.ids with
  | .error errorCode => do
    let error ← inHeap (errorCreateWinapi formatMessage errorCode "Failed to get hardware IDs.")
    pure (error, l)
  | .ok (dataType, bytes) =>
    pure (none, { l with
      dataType := dataType
      newIds := some ⟨newIds.addr, ⟨(List.range os.size.toNat).map bytes⟩⟩ })

/-- Whether the bytes end with two zero bytes. -/
def terminated (bytes : List UInt8) : Bool := 2 ≤ bytes.length ∧ bytes.drop (bytes.length - 2) = [0, 0]

def deviceGetHardwareIds (formatMessage : UInt32 → String) (os : HardwareIdAnswers) :
    Prog Fault System (Option Error × Option (Box Buffer)) :=
  construct [
      checking fun _ =>
        match os.sizeError with
        | some errorCode =>
          if errorCode ≠ errorInsufficientBuffer then
            inHeap (errorCreateWinapi formatMessage errorCode "Failed to get size of hardware IDs.")
          else pure none
        | none => pure none,
      into (fun _ => allocate os.size.toNat ⟨[]⟩) fun l x => { l with newIds := x },
      fillIds formatMessage os,
      checking fun l =>
        if l.dataType ≠ regMultiSz then
          inHeap (errorCreate s!"Hardware IDs are wrong data type: {l.dataType.toInt32}.")
        else pure none,
      checking fun l => do
        let newIds ← expect .nullPointer l.newIds
        if terminated newIds.val.bytes = false then
          inHeap (errorCreate "Hardware IDs are empty or not terminated correctly.")
        else pure none,
      fun l => do
        let newIds ← expect .nullPointer l.newIds
        pure (none, { l with
          newIds := none
          -- the letters are capitalised in place
          ids := some ⟨newIds.addr, ⟨newIds.val.bytes.map capitalize⟩⟩ })]
    (fun l => free l.newIds) (·.ids) ({} : HardwareIdVars)

/-- The conversions of `USB\VID_%4hx&PID_%4hx&REV_%4hx`, if there are three. -/
def scanHardwareId (id : List UInt8) : Option (UInt16 × UInt16 × UInt16) := do
  let s ← Scan.literal "USB\\VID_".toList (id.map fun c => Char.ofNat c.toNat)
  let (vendorId, s) ← Scan.hex 4 s
  let s ← Scan.literal "&PID_".toList s
  let (productId, s) ← Scan.hex 4 s
  let s ← Scan.literal "&REV_".toList s
  let (revision, _) ← Scan.hex 4 s
  pure (Scan.toUInt16 vendorId, Scan.toUInt16 productId, Scan.toUInt16 revision)

/-- A round of the loop of `device_take_info_from_hardware_ids`, with `ids` from the pointer on, or the
error behind the loop. -/
def takeInfoRound (device : Device) (ids : List UInt8) :
    Prog Fault System (List UInt8 ⊕ (Option Error × Device)) := do
  let first ← expect .outOfBounds ids.head?
  if first = 0 then do
    let error ← inHeap (errorCreate "Device has no hardware ID with the correct format.")
    pure (.inr (error, device))
  else do
    -- `sscanf` and `strlen` read up to the end of the string
    check .outOfBounds (ids.contains 0)
    match scanHardwareId (ids.takeWhile (· != 0)) with
    | some (vendorId, productId, revision) =>
      pure (.inr (none, { device with
        vendorId := vendorId
        productId := productId
        revision := revision }))
    | none => pure (.inl (ids.dropWhile (· != 0)).tail)

def deviceTakeInfoFromHardwareIds (device : Device) (ids : List UInt8) :
    Prog Fault System (Option Error × Device) :=
  loopWith .endless (takeInfoRound { device with vendorId := 0, productId := 0, revision := 0 })
    (ids.length + 1) ids

def deviceFree (device : Option (Box Device)) : Prog Fault System Unit :=
  match device with
  | none => pure ()
  | some dev => do
    free dev.val.deviceInstanceId
    free (some dev)

/-- The variables of `create_device`. -/
structure DeviceVars where
  newDevice : Option (Box Device) := none
  newIds : Option (Box Buffer) := none
  device : Option (Box Device) := none

def createDeviceSteps (formatMessage : UInt32 → String) (info : DevInfo) :
    List (DeviceVars → Prog Fault System (Option Error × DeviceVars)) :=
  [into (fun _ => deviceAllocate) fun l x => { l with newDevice := x },
    fun l => do
      let newDevice ← expect .nullPointer l.newDevice
      let (error, id) ← createIdString formatMessage info.instanceId
      pure (error, { l with
        newDevice := some ⟨newDevice.addr, { newDevice.val with deviceInstanceId := id }⟩ }),
    into (fun _ => deviceGetHardwareIds formatMessage info.hardwareIds) fun l x => { l with newIds := x },
    fun l => do
      let newDevice ← expect .assertion l.newDevice
      let newIds ← expect .assertion l.newIds
      let (error, device) ← deviceTakeInfoFromHardwareIds newDevice.val newIds.val.bytes
      pure (error, { l with newDevice := some ⟨newDevice.addr, device⟩ }),
    fun l => pure (none, { l with device := l.newDevice, newDevice := none })]

def DeviceVars.cleanUp (l : DeviceVars) : Prog Fault System Unit := do
  free l.newIds
  deviceFree l.newDevice

def createDevice (formatMessage : UInt32 → String) (info : DevInfo) :
    Prog Fault System (Option Error × Option (Box Device)) :=
  construct (createDeviceSteps formatMessage info) DeviceVars.cleanUp (·.device) {}

def deviceCopySteps (source : Device) :
    List (DeviceVars → Prog Fault System (Option Error × DeviceVars)) :=
  [into (fun _ => deviceAllocate) fun l x => { l with newDevice := x },
    fun l => do
      let newDevice ← expect .nullPointer l.newDevice
      let id ← expect .assertion (text source.deviceInstanceId)
      let (error, newId) ← allocate (id.utf8ByteSize + 1) id
      pure (error, { l with
        newDevice := some ⟨newDevice.addr, { newDevice.val with deviceInstanceId := newId }⟩ }),
    fun l => do
      let newDevice ← expect .nullPointer l.newDevice
      pure (none, { l with
        newDevice := some ⟨newDevice.addr, { newDevice.val with
          vendorId := source.vendorId
          productId := source.productId
          revision := source.revision }⟩ }),
    fun l => pure (none, { l with device := l.newDevice, newDevice := none })]

def deviceCopy (source : Option (Box Device)) (dest : Bool) :
    Prog Fault System (Option Error × Option (Box Device)) :=
  if dest = false then do
    let error ← inHeap (errorCreate "Device output pointer is null.")
    pure (error, none)
  else match source with
    | none => pure (none, none)
    | some source =>
      construct (deviceCopySteps source.val) (fun l => deviceFree l.newDevice) (·.device) {}

def deviceGetVendorId : Option (Box Device) → Bool → Prog Fault System (Option Error × UInt16) :=
  getNumber "Vendor ID output pointer is null." "Device is null." (·.vendorId)

def deviceGetProductId : Option (Box Device) → Bool → Prog Fault System (Option Error × UInt16) :=
  getNumber "Product ID output pointer is null." "Device is null." (·.productId)

def deviceGetRevision : Option (Box Device) → Bool → Prog Fault System (Option Error × UInt16) :=
  getNumber "Device revision output pointer is null." "Device is null." (·.revision)

/-- The part of a device instance ID behind `USB\VID_xxxx&PID_xxxx\`. -/
def serialNumberOf (id : String) : String := String.ofList (id.toList.drop 22)

def deviceGetSerialNumber :
    Option (Box Device) → Bool → Prog Fault System (Option Error × Option (Box String)) :=
  getString "Serial number output pointer is null." "Device is null." fun dev => do
    let id ← expect .nullPointer (text dev.deviceInstanceId)
    let (error, serialNumber) ←
      if id.length < 22 then do
        let error ← inHeap (errorCreate "Device instance ID is too short.")
        pure (error, none)
      else stringCopy (some (serialNumberOf id))
    let error ← addContext error "Failed to get serial number."
    pure (error, serialNumber)

def deviceGetOsId :
    Option (Box Device) → Bool → Prog Fault System (Option Error × Option (Box String)) :=
  getString "Device OS ID output pointer is null." "Device is null." fun dev =>
    stringCopy (text dev.deviceInstanceId)

variable {m : Holdings RefKind} {d : Nat} {s : System}

lemma deviceFree_givesBack {device : Option (Box Device)} :
    GivesBack (deviceFree device) (owned device) := by
  cases device with
  | none => exact .nothing
  | some dev =>
    have parts : GivesBack (do free dev.val.deviceInstanceId; free (some dev))
        (owned dev.val.deviceInstanceId + (({.heap dev.addr}, 0) : Holdings RefKind)) :=
      .seq .free .freeBlock
    exact parts.of_eq (add_comm _ _)

/-- What is left of the hardware IDs from the pointer on: the last byte, or some that end with two
zero bytes. -/
def Walkable (ids : List UInt8) : Prop := ids = [0] ∨ ∃ ys, ids = ys ++ [0, 0]

/-- Behind a string that is not empty, the walk goes on. -/
lemma walkable_next (ys : List UInt8) :
    Walkable ((ys ++ [0, 0]).dropWhile (· != 0)).tail ∧
      ((ys ++ [0, 0]).dropWhile (· != 0)).tail.length < (ys ++ [0, 0]).length := by
  induction ys with
  | nil => exact ⟨.inl rfl, by decide⟩
  | cons y ys ih =>
    rw [List.cons_append, List.dropWhile_cons]
    split
    case isTrue => exact ⟨ih.1, Nat.lt_succ_of_lt ih.2⟩
    case isFalse => exact ⟨.inr ⟨ys, rfl⟩, Nat.lt_succ_self _⟩

/-- The strings of a `REG_MULTI_SZ`, which ends with an empty one. -/
def multiStrings (bytes : List UInt8) : List (List UInt8) :=
  (bytes.splitOn 0).takeWhile fun string => !string.isEmpty

/-- The numbers of the first of the hardware IDs that has three. -/
def hardwareIdNumbers (ids : List UInt8) : Option (UInt16 × UInt16 × UInt16) :=
  (multiStrings ids).findSome? scanHardwareId

lemma multiStrings_zero (ids : List UInt8) : multiStrings (0 :: ids) = [] := by
  have first : (0 :: ids).splitOn 0 = [] :: ids.splitOn 0 :=
    List.splitOn_append_cons_self_of_not_mem List.not_mem_nil ids
  rw [multiStrings, first]
  rfl

/-- The strings are the first one and those behind its zero byte. -/
lemma multiStrings_cons {string : List UInt8} (ne : string ≠ []) (bare : 0 ∉ string)
    (ids : List UInt8) : multiStrings (string ++ 0 :: ids) = string :: multiStrings ids := by
  have more : (!string.isEmpty) = true := by simpa using ne
  rw [multiStrings, List.splitOn_append_cons_self_of_not_mem bare, List.takeWhile_cons, if_pos more]
  rfl

/-- The first string decides, if it has three numbers. -/
lemma hardwareIdNumbers_cons {string : List UInt8} (ne : string ≠ []) (bare : 0 ∉ string)
    (ids : List UInt8) :
    hardwareIdNumbers (string ++ 0 :: ids) = (scanHardwareId string).or (hardwareIdNumbers ids) := by
  rw [hardwareIdNumbers, multiStrings_cons ne bare, List.findSome?_cons]
  cases scanHardwareId string with
  | none => rfl
  | some numbers => rfl

/-- Up to a zero byte there is a string without one. -/
lemma split_at_zero {ids : List UInt8} (ends : 0 ∈ ids) :
    0 ∉ ids.takeWhile (· != 0) ∧
      ids = ids.takeWhile (· != 0) ++ 0 :: (ids.dropWhile (· != 0)).tail := by
  induction ids with
  | nil => cases ends
  | cons id ids ih =>
    rw [List.takeWhile_cons, List.dropWhile_cons]
    split
    case isTrue ne =>
      have ne : id ≠ 0 := by simpa using ne
      obtain ⟨bare, eq⟩ := ih ((List.mem_cons.mp ends).resolve_left ne.symm)
      refine ⟨?_, congrArg (id :: ·) eq⟩
      rw [List.mem_cons, not_or]
      exact ⟨ne.symm, bare⟩
    case isFalse eq =>
      have eq : id = 0 := by simpa using eq
      rw [eq]
      exact ⟨List.not_mem_nil, rfl⟩

/-- The device got the numbers, or zeros with an error, and nothing else of it changed. -/
def Numbered (m : Holdings RefKind) (d : Nat) (device : Device)
    (numbers : Option (UInt16 × UInt16 × UInt16)) (r : Option Error × Device) (s : System) : Prop :=
  match numbers with
  | some (vendorId, productId, revision) =>
    r = (none, { device with
      vendorId := vendorId
      productId := productId
      revision := revision }) ∧ Holding m d s
  | none => ∃ e, r = (some e, { device with vendorId := 0, productId := 0, revision := 0 }) ∧
    Raised m d (· = .ofText "Device has no hardware ID with the correct format.") e s

/-- The walk ends at an empty string with an error. -/
lemma takeInfoRound_empty (own : Holding m d s) (device : Device) (ids : List UInt8)
    {Q : List UInt8 ⊕ (Option Error × Device) → System → Prop}
    (post : ∀ e s', Raised m d
      (· = .ofText "Device has no hardware ID with the correct format.") e s' →
      Q (.inr (some e, device)) s') :
    wp (takeInfoRound device (0 :: ids)) Q s := by
  simp only [takeInfoRound, List.head?_cons, expect, pure_bind, if_true, wp_bind, wp_pure]
  apply own.wp_create
  exact post

/-- What a round of the walk came to: a shorter walk to the same numbers, or the numbers. -/
def Walked (m : Holdings RefKind) (d : Nat) (device : Device) (ids : List UInt8)
    (r : List UInt8 ⊕ (Option Error × Device)) (s : System) : Prop :=
  match r with
  | .inl ids' => Walkable ids' ∧ ids'.length < ids.length ∧
    hardwareIdNumbers ids' = hardwareIdNumbers ids ∧ Holding m d s
  | .inr r => Numbered m d device (hardwareIdNumbers ids) r s

/-- A round at an empty string. -/
lemma takeInfoRound_stops (own : Holding m d s) (device : Device) (ids : List UInt8) :
    wp (takeInfoRound { device with vendorId := 0, productId := 0, revision := 0 } (0 :: ids))
      (Walked m d device (0 :: ids)) s := by
  apply takeInfoRound_empty own
  intro e s' r
  rw [Walked, hardwareIdNumbers, multiStrings_zero]
  exact ⟨e, rfl, r⟩

lemma takeInfoRound_walked (own : Holding m d s) (device : Device) {ids : List UInt8}
    (walk : Walkable ids) :
    wp (takeInfoRound { device with vendorId := 0, productId := 0, revision := 0 } ids)
      (Walked m d device ids) s := by
  obtain rfl | ⟨ys, rfl⟩ := walk
  · exact takeInfoRound_stops own device []
  cases ys with
  | nil => exact takeInfoRound_stops own device [0]
  | cons y ys =>
    by_cases zero : y = 0
    · rw [zero]
      exact takeInfoRound_stops own device (ys ++ [0, 0])
    · have ends : ((y :: ys) ++ [0, 0]).contains 0 = true := by simp
      have head : ((y :: ys) ++ [0, 0]).head? = some y := rfl
      have ne : ((y :: ys) ++ [0, 0]).takeWhile (· != 0) ≠ [] := by
        rw [List.cons_append, List.takeWhile_cons_of_pos (by simpa using zero)]
        exact List.cons_ne_nil _ _
      obtain ⟨bare, split⟩ := split_at_zero (List.contains_iff_mem.mp ends)
      have numbers := hardwareIdNumbers_cons ne bare
        (((y :: ys) ++ [0, 0]).dropWhile (· != 0)).tail
      rw [← split] at numbers
      simp only [takeInfoRound, head, expect, pure_bind, if_neg zero, wp_bind, wp_check, ends]
      refine ⟨trivial, ?_⟩
      cases scan : scanHardwareId (((y :: ys) ++ [0, 0]).takeWhile (· != 0)) with
      | some found =>
        rw [scan] at numbers
        rw [wp_pure, Walked, numbers]
        exact ⟨rfl, own⟩
      | none =>
        rw [scan] at numbers
        obtain ⟨walk, lt⟩ := walkable_next (y :: ys)
        exact wp_pure.mpr ⟨walk, lt, numbers.symm, own⟩

/-- The walk over hardware IDs that end with two zero bytes stays inside of them, and ends with the
numbers of the first one that has three. -/
lemma deviceTakeInfo_numbered (own : Holding m d s) (device : Device) (ys : List UInt8) :
    wp (deviceTakeInfoFromHardwareIds device (ys ++ [0, 0]))
      (Numbered m d device (hardwareIdNumbers (ys ++ [0, 0]))) s := by
  -- the strings that are left have the numbers that all the strings have
  apply wp_loopWith (fun ids s => Walkable ids ∧
      hardwareIdNumbers ids = hardwareIdNumbers (ys ++ [0, 0]) ∧ Holding m d s) List.length
  · rintro ids s ⟨walk, same, own⟩
    apply wp_mono (takeInfoRound_walked own device walk)
    rintro (ids' | r) s' walked
    · obtain ⟨walk', lt, same', own'⟩ := walked
      exact ⟨⟨walk', same'.trans same, own'⟩, lt⟩
    · rw [← same]
      exact walked
  · exact Nat.lt_succ_self _
  · exact ⟨.inr ⟨ys, rfl⟩, rfl, own⟩

lemma terminated_iff {bytes : List UInt8} : terminated bytes = true ↔ ∃ ys, bytes = ys ++ [0, 0] := by
  unfold terminated
  rw [decide_eq_true_iff]
  constructor
  · rintro ⟨_, last⟩
    exact ⟨bytes.take (bytes.length - 2), by rw [← last, List.take_append_drop]⟩
  · rintro ⟨ys, rfl⟩
    simp

/-- Capital letters leave the zero bytes where they are. -/
lemma capitalize_terminated (ys : List UInt8) :
    (ys ++ [0, 0]).map capitalize = ys.map capitalize ++ [0, 0] := by
  rw [List.map_append]
  rfl

/-- The bytes that are in the buffer after the second call. -/
def HardwareIdAnswers.bytes (os : HardwareIdAnswers) : List UInt8 :=
  match os.ids with
  | .error _ => []
  | .ok (_, bytes) => (List.range os.size.toNat).map bytes

/-- The first call of `SetupDiGetDeviceRegistryProperty` answers the size. -/
def HardwareIdAnswers.sized (os : HardwareIdAnswers) : Bool :=
  os.sizeError.all (· == errorInsufficientBuffer)

/-- The hardware IDs that are handed out: those of the device in capitals, if they end with two zero
bytes. -/
def HardwareIdAnswers.capitalIds (os : HardwareIdAnswers) : Option (List UInt8) :=
  match os.ids with
  | .error _ => none
  | .ok (dataType, _) =>
    if os.sized ∧ dataType = regMultiSz ∧ terminated os.bytes
    then some (os.bytes.map capitalize) else none

lemma HardwareIdAnswers.capitalIds_unsized {os : HardwareIdAnswers} (no : os.sized = false) :
    os.capitalIds = none := by
  unfold HardwareIdAnswers.capitalIds
  split
  · rfl
  · exact if_neg fun all => absurd all.1 (by simp [no])

/-- An empty buffer does not end with two zero bytes. -/
lemma HardwareIdAnswers.capitalIds_empty {os : HardwareIdAnswers} (zero : os.size.toNat = 0) :
    os.capitalIds = none := by
  unfold HardwareIdAnswers.capitalIds
  split
  · rfl
  next bytes read =>
    have empty : os.bytes = [] := by
      rw [HardwareIdAnswers.bytes, read, zero]
      rfl
    exact if_neg fun all => absurd all.2.2 (by simp [empty, terminated])

lemma HardwareIdAnswers.capitalIds_some {os : HardwareIdAnswers} {ids : List UInt8}
    (there : os.capitalIds = some ids) :
    ids = os.bytes.map capitalize ∧ ∃ ys, os.bytes = ys ++ [0, 0] := by
  unfold HardwareIdAnswers.capitalIds at there
  split at there
  · cases there
  · split at there
    case isTrue all => exact ⟨(Option.some.inj there).symm, terminated_iff.mp all.2.2⟩
    case isFalse => cases there

lemma deviceGetHardwareIds_makes (own : Holding m d s) (formatMessage : UInt32 → String)
    (os : HardwareIdAnswers) :
    wp (deviceGetHardwareIds formatMessage os) (Makes os.capitalIds m d) s := by
  apply MakesSteps.construct (fun l : HardwareIdVars => owned l.newIds) fun _ => .free
  apply wp_stages_checking
  refine wp_mono (P := fun r s' => r = none ∧ os.sized = true ∧ Holding m d s' ∨
    ∃ e, r = some e ∧ Raised m d (fun _ => os.sized = false) e s') ?_ ?_
  · unfold HardwareIdAnswers.sized
    cases os.sizeError with
    | none => exact wp_pure.mpr (.inl ⟨rfl, rfl, own⟩)
    | some errorCode =>
      apply wp_ite
      · intro other
        apply wp_createWinapiError own
        exact fun e s₁ r => .inr ⟨e, rfl, r.mono fun _ _ => by simp [other]⟩
      · intro same
        exact wp_pure.mpr (.inl ⟨rfl, by simpa using same, own⟩)
  rintro _ s₁ (⟨rfl, size, own₁⟩ | ⟨e, rfl, h⟩)
  · apply wp_stages_into
    apply wp_allocate own₁ rfl
    · intro newIds s₂ _ own₂
      apply wp_stages_cons
      simp only [fillIds, expect, pure_bind]
      cases read : os.ids with
      | error errorCode =>
        simp only [wp_bind, wp_pure]
        apply wp_createWinapiError own₂
        exact fun e s₃ r => ⟨rfl, r.mono fun _ _ => by simp [HardwareIdAnswers.capitalIds, read]⟩
      | ok answer =>
        obtain ⟨dataType, bytes⟩ := answer
        have capital : os.capitalIds = if dataType = regMultiSz ∧ terminated os.bytes = true
            then some (os.bytes.map capitalize) else none := by
          simp [HardwareIdAnswers.capitalIds, read, size]
        have filled : os.bytes = (List.range os.size.toNat).map bytes := by
          rw [HardwareIdAnswers.bytes, read]
        rw [wp_pure, capital]
        apply wp_stages_checking
        apply wp_ite
        · intro other
          apply own₂.wp_create
          exact fun e s₃ r => ⟨rfl, r.mono fun _ _ => if_neg fun both => other both.1⟩
        intro multi
        refine wp_pure.mpr ?_
        apply wp_stages_checking
        simp only [pure_bind, ← filled]
        apply wp_ite
        · intro ends
          apply own₂.wp_create
          exact fun e s₃ r => ⟨rfl, r.mono fun _ _ => if_neg fun both => by simp [ends] at both⟩
        · intro ends
          refine wp_pure.mpr (wp_stages_cons (wp_pure.mpr (wp_stages_nil.mpr ?_)))
          refine ⟨_, rfl, ?_, own₂.of_eq (add_zero _).symm⟩
          exact if_pos ⟨not_not.mp multi, by simpa using ends⟩
    · intro e s₂ r
      refine ⟨rfl, (r.of_eq (add_zero m).symm).mono fun _ zero => ?_⟩
      exact HardwareIdAnswers.capitalIds_empty zero
  · refine ⟨rfl, (h.of_eq (add_zero m).symm).mono fun _ no => ?_⟩
    exact HardwareIdAnswers.capitalIds_unsized no

/-- A device that was built has a device instance ID. -/
def DeviceView.Built (v : DeviceView) : Prop := v.deviceInstanceId ≠ none

/-- The device that the answers tell, if there is one. -/
def DevInfo.device? (info : DevInfo) : Option DeviceView := do
  let id ← info.instanceId.toOption
  let ids ← info.hardwareIds.capitalIds
  (hardwareIdNumbers ids).map fun (vendorId, productId, revision) =>
    ⟨some id, productId, vendorId, revision⟩

lemma createDevice_makes (own : Holding m d s) (formatMessage : UInt32 → String) (info : DevInfo) :
    wp (createDevice formatMessage info) (Makes info.device? m d) s := by
  apply MakesSteps.construct (fun l : DeviceVars => owned l.newIds + owned l.newDevice)
    fun _ => .seq .free deviceFree_givesBack
  apply wp_stages_into
  refine wp_allocateZeroed own (by decide) rfl ?_ fun e s₁ r =>
    ⟨rfl, (r.of_eq (by simp)).mono fun _ no => no.elim⟩
  rintro ⟨a, _⟩ s₁ rfl own₁
  have block : m + owned (⟨a, {}⟩ : Box Device) = m + ({.heap a}, 0) := rfl
  rw [block] at own₁
  apply wp_stages_cons
  simp only [expect, pure_bind, wp_bind]
  apply wp_mono (createIdString_makes own₁ formatMessage info.instanceId)
  rintro ⟨_ | e, id⟩ s₂ made
  · obtain ⟨id, rfl, there, own₂⟩ := made
    have own₂ : Holding (m + owned (⟨a, { deviceInstanceId := some id }⟩ : Box Device)) d s₂ :=
      own₂.of_eq (add_assoc _ _ _)
    have told : info.device? = info.hardwareIds.capitalIds.bind fun ids =>
        (hardwareIdNumbers ids).map fun (vendorId, productId, revision) =>
          ⟨some id.val, productId, vendorId, revision⟩ := by
      rw [DevInfo.device?, there]
      rfl
    rw [told]
    refine wp_pure.mpr ?_
    apply Makes.stage
    · exact deviceGetHardwareIds_makes own₂ formatMessage info.hardwareIds
    · intro e s₃ r
      exact ⟨rfl, (r.of_eq (by simp)).mono fun _ none => by rw [none]; rfl⟩
    intro newIds s₃ ids own₃
    obtain ⟨capital, ys, ends⟩ := HardwareIdAnswers.capitalIds_some ids
    have bytes : newIds.val.bytes = ys.map capitalize ++ [0, 0] := by
      rw [← capitalize_terminated, ← ends]
      exact capital
    have found : info.hardwareIds.capitalIds = some (ys.map capitalize ++ [0, 0]) :=
      ids.trans (congrArg some bytes)
    rw [found, Option.bind_some]
    apply wp_stages_cons
    simp only [pure_bind, wp_bind, bytes]
    apply wp_mono (deviceTakeInfo_numbered own₃ _ _)
    have others (device : Device) (same : device.deviceInstanceId = some id) :
        m + owned (⟨a, { deviceInstanceId := some id }⟩ : Box Device) + owned newIds =
          m + (owned newIds + owned (⟨a, device⟩ : Box Device)) := by
      have kept : (owned (⟨a, device⟩ : Box Device) : Holdings RefKind) =
          owned (⟨a, { deviceInstanceId := some id }⟩ : Box Device) :=
        congrArg (fun id => (({.heap a}, 0) + owned id : Holdings RefKind)) same
      rw [kept]
      abel
    intro r s₄ numbered
    cases numbers : hardwareIdNumbers (ys.map capitalize ++ [0, 0]) with
    | none =>
      rw [numbers] at numbered
      obtain ⟨e, rfl, r⟩ := numbered
      exact wp_pure.mpr ⟨rfl, (r.of_eq (others ⟨some id, 0, 0, 0⟩ rfl)).mono fun _ _ => rfl⟩
    | some found =>
      obtain ⟨vendorId, productId, revision⟩ := found
      rw [numbers] at numbered
      obtain ⟨rfl, own₄⟩ := numbered
      refine wp_pure.mpr (wp_stages_cons (wp_pure.mpr (wp_stages_nil.mpr ⟨_, rfl, rfl, ?_⟩)))
      refine own₄.of_eq ((others ⟨some id, productId, vendorId, revision⟩ rfl).trans ?_)
      show _ = m + owned (⟨a, _⟩ : Box Device) + (owned newIds + 0)
      abel
  · obtain ⟨rfl, r⟩ := made
    rw [wp_pure]
    refine ⟨rfl, (r.of_eq ?_).mono fun _ none => ?_⟩
    · show _ = m + (0 + ({.heap a}, 0))
      rw [zero_add]
    · rw [DevInfo.device?, none]
      rfl

lemma DevInfo.device?_built {info : DevInfo} {view : DeviceView} (there : info.device? = some view) :
    view.Built := by
  obtain ⟨id, _, there⟩ := Option.bind_eq_some_iff.mp there
  obtain ⟨ids, _, there⟩ := Option.bind_eq_some_iff.mp there
  obtain ⟨numbers, _, rfl⟩ := Option.map_eq_some_iff.mp there
  exact Option.some_ne_none id

/-- `create_device` gives a device with a device instance ID, or an error. -/
lemma createDevice_ended (own : Holding m d s) (formatMessage : UInt32 → String) (info : DevInfo) :
    wp (createDevice formatMessage info) (Ended (fun dev => (content dev).Built) m d) s :=
  wp_mono (createDevice_makes own formatMessage info)
    fun _ _ makes => makes.ended.mono fun _ => DevInfo.device?_built

lemma deviceGetOsId_ends (own : Holding m d s) {device : Box Device} {id : String}
    (built : text device.val.deviceInstanceId = some id) :
    wp (deviceGetOsId (some device) true) (Ends m d (Except.map some (.ok id))) s := by
  simp only [deviceGetOsId, getString, built]
  exact stringCopy_ends own id

end Libusbp.Windows
