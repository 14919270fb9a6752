import Libusbp.Linux.Listing
import Libusbp.Mac.Listing
import Libusbp.Windows.Listing

/-!
# Finding a device by its IDs

`find_device.c`, which is compiled for every platform. The functions of `libusbp.h` that it calls are
parameters here. Its loop looks for the device and disposes of the list at the same time: a device of
the list is either passed to the caller or freed.
-/

namespace Libusbp

open Prog Host

variable {κ D : Type}

/-- The functions on devices that `find_device.c` calls. -/
structure DeviceFunctions (κ D : Type) where
  getVendorId : Option (Box D) → Bool → Prog Fault (Host κ) (Option Error × UInt16)
  getProductId : Option (Box D) → Bool → Prog Fault (Host κ) (Option Error × UInt16)
  deviceFree : Option (Box D) → Prog Fault (Host κ) Unit

/-- `check_device_vid_pid`, which yields its output `matches`. -/
def checkDeviceVidPid (api : DeviceFunctions κ D) (device : Option (Box D))
    (vendorId productId : UInt16) : Prog Fault (Host κ) (Option Error × Bool) := do
  let (error, deviceVid) ← api.getVendorId device true
  if error.isSome then pure (error, false)
  else if deviceVid ≠ vendorId then pure (none, false)
  else do
    let (error, devicePid) ← api.getProductId device true
    if error.isSome then pure (error, false)
    else if devicePid ≠ productId then pure (none, false)
    else pure (none, true)

/-- The pointer `list[i]`. -/
def loadSlot (deviceList : DeviceArray D) (i : Nat) : Prog Fault (Host κ) (Option (Box D)) := do
  let list ← expect .nullPointer deviceList
  match list.val[i]? with
  | some (.device dev) => pure (some dev)
  | some .null => pure none
  | some .unset | none => throw .outOfBounds

/-- A round of the loop of `libusbp_find_device_with_vid_pid`, with the value of `*device`. An error of
the check leaves the loop, and the candidate where it is. -/
def findRound (api : DeviceFunctions κ D) (newList : DeviceArray D) (vendorId productId : UInt16)
    (i : Nat) (device : Option (Box D)) : Prog Fault (Host κ) (Option Error × Option (Box D)) := do
  let candidate ← loadSlot newList i
  if device.isNone then do
    let (error, isMatch) ← checkDeviceVidPid api candidate vendorId productId
    if error.isSome then pure (error, device)
    else if isMatch then do
      -- the candidate is passed to the caller, and a null pointer is freed
      api.deviceFree none
      pure (none, candidate)
    else do
      api.deviceFree candidate
      pure (none, device)
  else do
    api.deviceFree candidate
    pure (none, device)

/-- The loop of `libusbp_find_device_with_vid_pid`, whose bound is the last value written to `size`. -/
def findLoop (api : DeviceFunctions κ D) (outputs : ListOutputs D) (vendorId productId : UInt16) :
    Prog Fault (Host κ) (Option Error × Option (Box D)) :=
  forUntil (findRound api outputs.deviceList vendorId productId) 0
    (outputs.deviceCount.getLastD 0) none

/-- `libusbp_find_device_with_vid_pid`. The argument `listConnectedDevices` is the call with both
outputs. -/
def findDeviceWithVidPid (api : DeviceFunctions κ D)
    (listConnectedDevices : Prog Fault (Host κ) (Option Error × ListOutputs D))
    (vendorId productId : UInt16) (device : Bool) :
    Prog Fault (Host κ) (Option Error × Option (Box D)) :=
  if device = false then do
    let error ← inHeap (errorCreate "Device output pointer is null.")
    pure (error, none)
  else do
    let (error, outputs) ← listConnectedDevices
    check .assertion (error.isSome || outputs.deviceList.isSome)
    let (error, device) ←
      if error.isSome then pure (error, none)
      else findLoop api outputs vendorId productId
    listFree outputs.deviceList
    pure (error, device)

def Linux.deviceFunctions : DeviceFunctions Linux.RefKind Linux.Device where
  getVendorId := Linux.deviceGetVendorId
  getProductId := Linux.deviceGetProductId
  deviceFree := Linux.deviceFree

def Windows.deviceFunctions : DeviceFunctions Windows.RefKind Windows.Device where
  getVendorId := Windows.deviceGetVendorId
  getProductId := Windows.deviceGetProductId
  deviceFree := Windows.deviceFree

def Mac.deviceFunctions : DeviceFunctions Mac.RefKind Mac.Device where
  getVendorId := Mac.deviceGetVendorId
  getProductId := Mac.deviceGetProductId
  deviceFree := Mac.deviceFree

/-- A slot in front of the null pointer holds its device. -/
lemma loadSlot_eq {devices : List (Box D)} {a : Addr} {i : Nat} {dev : Box D}
    (h : devices[i]? = some dev) :
    loadSlot (some ⟨a, devices.map Slot.device ++ [.null]⟩) i =
      (pure (some dev) : Prog Fault (Host κ) _) := by
  have lt : i < (devices.map Slot.device).length := by
    rw [List.length_map]
    exact (List.getElem?_eq_some_iff.mp h).1
  have slot : (devices.map Slot.device ++ [Slot.null])[i]? = some (.device dev) := by
    rw [List.getElem?_append_left lt, List.getElem?_map, h]
    rfl
  simp only [loadSlot, expect, pure_bind, slot]

variable [Owned κ D]

/-- The functions on devices read the IDs that are in the device, and free what a device owns. -/
structure DeviceFunctions.Reads [DecidableEq κ] (api : DeviceFunctions κ D)
    (vendorOf productOf : D → UInt16) : Prop where
  getVendorId : ∀ dev, api.getVendorId (some dev) true = pure (none, vendorOf dev.val)
  getProductId : ∀ dev, api.getProductId (some dev) true = pure (none, productOf dev.val)
  frees : ∀ dev, GivesBack (api.deviceFree dev) (owned dev)
  logs : ∀ dev, Logs (api.deviceFree dev)

/-- Whether a device has the given IDs. -/
def hasIds (vendorOf productOf : D → UInt16) (vendorId productId : UInt16) (dev : Box D) : Bool :=
  vendorOf dev.val = vendorId ∧ productOf dev.val = productId

variable [DecidableEq κ] {api : DeviceFunctions κ D} {vendorOf productOf : D → UInt16}
  {m : Holdings κ} {d : Nat} {s : Host κ}

lemma DeviceFunctions.Reads.wp_deviceFree (reads : api.Reads vendorOf productOf)
    {dev : Option (Box D)} (own : Holding (m + owned dev) d s) {Q : Unit → Host κ → Prop}
    (post : ∀ s', Holding m d s' → s.heap.calls <:+ s'.heap.calls → Q () s') :
    wp (api.deviceFree dev) Q s := by
  apply wp_mono (reads.frees dev m d s own).run
  exact fun _ s' ⟨own', run⟩ => post s' own' (reads.logs dev s () s' run)

/-- No error comes from the check of a device. -/
lemma checkDeviceVidPid_eq (reads : api.Reads vendorOf productOf) (dev : Box D)
    (vendorId productId : UInt16) : checkDeviceVidPid api (some dev) vendorId productId =
      pure (none, hasIds vendorOf productOf vendorId productId dev) := by
  simp only [checkDeviceVidPid, reads.getVendorId, reads.getProductId, pure_bind, hasIds]
  by_cases vid : vendorOf dev.val = vendorId
  · by_cases pid : productOf dev.val = productId
    · simp [vid, pid]
    · simp [vid, pid]
  · simp [vid]

/-- Behind `i` rounds the first device with the IDs, if there is one, is in the hand of the caller, and
the other devices so far are freed. -/
structure FoundSoFar (m : Holdings κ) (isMatch : Box D → Bool) (devices : List (Box D)) (i : Nat)
    (device : Option (Box D)) (s₁ s : Host κ) : Prop where
  first : device = (devices.take i).find? isMatch
  holding : Holding (m + owned device + owned (devices.drop i)) s₁.denials s
  logs : s₁.heap.calls <:+ s.heap.calls

/-- A round passes a candidate to the caller if it is the first one with the IDs, and frees any other. -/
lemma findRound_finds (reads : api.Reads vendorOf productOf) {devices : List (Box D)} {a : Addr}
    {i : Nat} (lt : i < devices.length) (vendorId productId : UInt16) {device : Option (Box D)}
    {s₁ : Host κ} (h : FoundSoFar m (hasIds vendorOf productOf vendorId productId) devices i device s₁ s) :
    wp (findRound api (some ⟨a, devices.map Slot.device ++ [.null]⟩) vendorId productId i device)
      (fun r s' => ∃ device', r = (none, device') ∧
        FoundSoFar m (hasIds vendorOf productOf vendorId productId) devices (i + 1) device' s₁ s') s := by
  have slot : devices[i]? = some devices[i] := List.getElem?_eq_getElem lt
  have next : devices.take (i + 1) = devices.take i ++ [devices[i]] := by
    rw [List.take_add_one, slot]
    rfl
  have own := h.holding
  rw [List.drop_eq_getElem_cons lt, owned_cons] at own
  simp only [findRound, loadSlot_eq slot, pure_bind, checkDeviceVidPid_eq reads]
  cases device with
  | some first =>
    have own : Holding (m + owned (some first) + owned (devices.drop (i + 1)) +
        owned (some devices[i])) s₁.denials s := own.of_eq (by rw [owned_some (a := devices[i])]; abel)
    simp only [Option.isNone_some, Bool.false_eq_true, if_false, wp_bind, wp_pure]
    apply reads.wp_deviceFree own
    intro s' own' logs
    refine ⟨_, rfl, ?_, own', h.logs.trans logs⟩
    rw [next, List.find?_append, ← h.first]
    rfl
  | none =>
    simp only [Option.isNone_none, if_true, Option.isSome_none, Bool.false_eq_true, if_false]
    cases ids : hasIds vendorOf productOf vendorId productId devices[i] with
    | true =>
      have own : Holding (m + owned (some devices[i]) + owned (devices.drop (i + 1)) +
          owned (none : Option (Box D))) s₁.denials s :=
        own.of_eq (by simp only [owned_some, owned_none]; abel)
      simp only [if_true, wp_bind, wp_pure]
      apply reads.wp_deviceFree own
      intro s' own' logs
      refine ⟨_, rfl, ?_, own', h.logs.trans logs⟩
      rw [next, List.find?_append, ← h.first, List.find?_cons, ids]
      rfl
    | false =>
      have own : Holding (m + owned (none : Option (Box D)) + owned (devices.drop (i + 1)) +
          owned (some devices[i])) s₁.denials s :=
        own.of_eq (by simp only [owned_some, owned_none]; abel)
      simp only [Bool.false_eq_true, if_false, wp_bind, wp_pure]
      apply reads.wp_deviceFree own
      intro s' own' logs
      refine ⟨_, rfl, ?_, own', h.logs.trans logs⟩
      rw [next, List.find?_append, ← h.first, List.find?_cons, ids]
      rfl

/-- The loop gives the caller the first device with the IDs, and frees the others. -/
lemma findLoop_finds (reads : api.Reads vendorOf productOf) {outputs : ListOutputs D}
    {devices : List (Box D)} {a : Addr}
    (list : outputs.deviceList = some ⟨a, devices.map Slot.device ++ [.null]⟩)
    (count : outputs.deviceCount.getLastD 0 = devices.length) (vendorId productId : UInt16)
    (own : s.Owns (m + owned devices)) :
    wp (findLoop api outputs vendorId productId) (fun r s' => ∃ device, r = (none, device) ∧
      device = devices.find? (hasIds vendorOf productOf vendorId productId) ∧
      Holding (m + owned device) s.denials s' ∧ s.heap.calls <:+ s'.heap.calls) s := by
  rw [findLoop, list, count]
  apply wp_forUntil fun i device s' =>
    FoundSoFar m (hasIds vendorOf productOf vendorId productId) devices i device s s'
  · intro i device s' _ lt h
    apply wp_mono (findRound_finds reads (Nat.lt_of_lt_of_eq lt (Nat.zero_add _)) vendorId productId h)
    rintro _ s'' ⟨device', rfl, h'⟩
    exact h'
  · intro device s' h
    have first := h.first
    have own' := h.holding
    rw [Nat.zero_add, List.take_length] at first
    rw [Nat.zero_add, List.drop_length, owned_nil, add_zero] at own'
    exact ⟨device, rfl, first, own', h.logs⟩
  · exact ⟨rfl, ⟨own.of_eq (by simp), rfl⟩, List.suffix_refl _⟩

omit [DecidableEq κ] in
/-- A device owns the block that it is in. -/
lemma mem_owned {devices : List (Box D)} {dev : Box D} (mem : dev ∈ devices) :
    .heap dev.addr ∈ (owned devices : Holdings κ).1 := by
  obtain ⟨others, eq, _⟩ := owned_pick (κ := κ) mem
  rw [eq]
  exact Multiset.mem_add.mpr (.inl (Multiset.mem_add.mpr (.inl (Multiset.mem_singleton_self _))))

/-- The list and its devices, but for the one in the hand of the caller, were freed exactly once. -/
structure DisposedOf (m : Holdings κ) (list : Addr) (devices : List (Box D)) (device : Option (Box D))
    (s : Host κ) : Prop where
  settled : s.Settled (m + owned device)
  list : s.heap.calls.count (.free (.heap list)) = 1
  others : ∀ dev ∈ devices, device ≠ some dev → s.heap.calls.count (.free (.heap dev.addr)) = 1
  passed : ∀ dev, device = some dev → s.heap.calls.count (.free (.heap dev.addr)) = 0

/-- What a call that looks for a device must come to: the first device of the list that matches, while
all others are disposed of; or the error of the listing, in the state that the listing left. -/
def FindsDevice (m : Holdings κ) (isMatch : Box D → Bool)
    (listConnectedDevices : Prog Fault (Host κ) (Option Error × ListOutputs D)) (s : Host κ)
    (r : Option Error × Option (Box D)) (s' : Host κ) : Prop :=
  match r with
  | (none, device) => ∃ outputs s₁ list devices,
      listConnectedDevices s = .ok ((none, outputs), s₁) ∧
      outputs.deviceList = some ⟨list, devices.map .device ++ [.null]⟩ ∧
      device = devices.find? isMatch ∧ DisposedOf m list devices device s'
  | (some e, device) => device = none ∧
      ∃ outputs, listConnectedDevices s = .ok ((some e, outputs), s')

lemma disposedOf {isMatch : Box D → Bool} {devices : List (Box D)} {a : Addr} {device : Option (Box D)}
    {s₁ s' : Host κ} (own₁ : s₁.Owns (m + (({.heap a}, 0) + owned devices)))
    (first : device = devices.find? isMatch) (own : s'.Owns (m + owned device))
    (logs : s₁.heap.calls <:+ s'.heap.calls) : DisposedOf m a devices device s' := by
  -- what was held behind the listing is what the caller gets and the rest
  have split : ∃ others : List (Box D),
      (owned devices : Holdings κ) = owned device + owned others ∧
      ∀ dev ∈ devices, device ≠ some dev → dev ∈ others := by
    cases device with
    | none => exact ⟨devices, (zero_add _).symm, fun _ mem _ => mem⟩
    | some dev =>
      obtain ⟨others, eq, rest⟩ := owned_pick (κ := κ) (List.mem_of_find?_eq_some first.symm)
      exact ⟨others, eq, fun dev' mem ne => rest dev' mem fun same => ne (same ▸ rfl)⟩
  obtain ⟨others, eq, rest⟩ := split
  have settled := own.settled
  refine ⟨settled, ?_, ?_, ?_⟩
  · have held : s₁.Owns (m + owned device + (({.heap a}, 0) + owned others)) :=
      own₁.of_eq (by rw [eq]; abel)
    apply held.count_free _ logs settled
    exact Multiset.mem_add.mpr (.inl (Multiset.mem_singleton_self _))
  · intro dev mem ne
    have held : s₁.Owns (m + owned device + (({.heap a}, 0) + owned others)) :=
      own₁.of_eq (by rw [eq]; abel)
    apply held.count_free _ logs settled
    exact Multiset.mem_add.mpr (.inr (mem_owned (rest dev mem ne)))
  · rintro dev rfl
    have held : .heap dev.addr ∈ (m + owned (some dev) : Holdings κ).1 :=
      Multiset.mem_add.mpr (.inr (Multiset.mem_add.mpr (.inl (Multiset.mem_singleton_self _))))
    rw [settled.freed _ (own.allocated held), if_pos held]

/-- With a listing that passes its list, the call finds the first device with the IDs. Once the devices
are listed, it requests no memory. -/
lemma findDeviceWithVidPid_run (reads : api.Reads vendorOf productOf) {granted : Bool}
    {listConnectedDevices : Prog Fault (Host κ) (Option Error × ListOutputs D)}
    (listed : wp listConnectedDevices (fun r s' => KeepsBut m true granted r s' ∧ Passed true r) s)
    (vendorId productId : UInt16) :
    wp (findDeviceWithVidPid api listConnectedDevices vendorId productId true)
      (fun r s' =>
        FindsDevice m (hasIds vendorOf productOf vendorId productId) listConnectedDevices s r s' ∧
        ∃ outputs s₁, listConnectedDevices s = .ok ((r.1, outputs), s₁) ∧ s'.denials = s₁.denials)
      s := by
  simp only [findDeviceWithVidPid, Bool.true_eq_false, if_false, wp_bind]
  apply wp_mono listed.run
  rintro ⟨_ | e, outputs⟩ s₁ ⟨⟨⟨lost, _, error, keeps⟩, passed⟩, run⟩
  · have kept : lost = none := by
      cases lost with
      | none => rfl
      | some dev => exact absurd (error rfl) Bool.false_ne_true
    obtain ⟨l, devices, holds, rfl⟩ := passed rfl
    obtain ⟨a, slots⟩ := holds.slots
    have list : ((ListOutputs.start true).pass l true).deviceList =
        some ⟨a, devices.map .device ++ [.null]⟩ := slots
    have count : ((ListOutputs.start true).pass l true).deviceCount.getLastD 0 = devices.length :=
      holds.count
    have own₁ := keeps.2.owns
    rw [kept, owned_none, add_zero, list, owned_array] at own₁
    have own₁' : s₁.Owns (m + ({.heap a}, 0) + owned devices) := own₁.of_eq (by abel)
    simp only [wp_check, Option.isSome_none, Bool.false_or, Bool.false_eq_true, if_false]
    refine ⟨by rw [list]; rfl, ?_⟩
    rw [wp_bind]
    apply wp_mono (findLoop_finds reads list count vendorId productId own₁')
    rintro _ s₂ ⟨device, rfl, first, own₂, logs₂⟩
    rw [list, wp_bind]
    have own₂ : Holding (m + owned device +
        ({.heap (⟨a, devices.map Slot.device ++ [Slot.null]⟩ : Box (List (Slot D))).addr}, 0)) _ s₂ :=
      own₂.of_eq (by abel)
    apply wp_mono (GivesBack.freeBlock _ _ _ own₂).run
    rintro ⟨⟩ s₃ ⟨own₃, run₃⟩
    have logs : s₁.heap.calls <:+ s₃.heap.calls := logs₂.trans (Logs.free s₂ () s₃ run₃)
    have disposed := disposedOf own₁ first own₃.owns logs
    exact wp_pure.mpr ⟨⟨_, s₁, a, devices, run, list, first, disposed⟩, _, s₁, run, own₃.denials⟩
  · have null : outputs.deviceList = none := by
      rw [show outputs = .start true from keeps.1]
      rfl
    simp only [wp_check, Option.isSome_some, Bool.true_or, if_true, null, true_and]
    exact wp_pure.mpr ⟨⟨rfl, outputs, run⟩, outputs, s₁, run, rfl⟩

lemma findDeviceWithVidPid_spec (reads : api.Reads vendorOf productOf) {granted : Bool}
    {listConnectedDevices : Prog Fault (Host κ) (Option Error × ListOutputs D)}
    (listed : wp listConnectedDevices (fun r s' => KeepsBut m true granted r s' ∧ Passed true r) s)
    (vendorId productId : UInt16) :
    wp (findDeviceWithVidPid api listConnectedDevices vendorId productId true)
      (FindsDevice m (hasIds vendorOf productOf vendorId productId) listConnectedDevices s) s := by
  apply wp_mono (findDeviceWithVidPid_run reads listed vendorId productId)
  exact fun r s' found => found.1

lemma Linux.deviceFunctions_reads : Linux.deviceFunctions.Reads (·.vendorId) (·.productId) where
  getVendorId _ := rfl
  getProductId _ := rfl
  frees _ := Linux.deviceFree_givesBack
  logs
    | none => .pure
    | some _ => .bind .free fun _ => .bind .free fun _ => .free

lemma Windows.deviceFunctions_reads :
    Windows.deviceFunctions.Reads (·.vendorId) (·.productId) where
  getVendorId _ := rfl
  getProductId _ := rfl
  frees _ := Windows.deviceFree_givesBack
  logs
    | none => .pure
    | some _ => .bind .free fun _ => .free

lemma Mac.deviceFunctions_reads : Mac.deviceFunctions.Reads (·.vendorId) (·.productId) where
  getVendorId _ := rfl
  getProductId _ := rfl
  frees _ := Mac.deviceFree_givesBack
  logs
    | none => .pure
    | some _ => .bind .free fun _ => .free

/-- On every platform `libusbp_find_device_with_vid_pid` gives the caller the first device of the list
with the given IDs, if there is one, and disposes of the list and of all other devices exactly once; its
only errors are those of the listing, and leave `*device` null. -/
theorem findDeviceWithVidPid_finds (vendorId productId : UInt16) :
    (∀ (m : Holdings Linux.RefKind) (s : Linux.System) contextCreated os, s.Owns m →
      wp (findDeviceWithVidPid Linux.deviceFunctions
          (Linux.listConnectedDevices true true contextCreated os) vendorId productId true)
        (FindsDevice m (hasIds (·.vendorId) (·.productId) vendorId productId)
          (Linux.listConnectedDevices true true contextCreated os) s) s) ∧
    (∀ (m : Holdings Windows.RefKind) (s : Windows.System) formatMessage usbDevices, s.Owns m →
      wp (findDeviceWithVidPid Windows.deviceFunctions
          (Windows.listConnectedDevices formatMessage true true usbDevices) vendorId productId true)
        (FindsDevice m (hasIds (·.vendorId) (·.productId) vendorId productId)
          (Windows.listConnectedDevices formatMessage true true usbDevices) s) s) ∧
    (∀ (m : Holdings Mac.RefKind) (s : Mac.System) machErrorString os, s.Owns m →
      wp (findDeviceWithVidPid Mac.deviceFunctions
          (Mac.listConnectedDevices machErrorString true true os) vendorId productId true)
        (FindsDevice m (hasIds (·.vendorId) (·.productId) vendorId productId)
          (Mac.listConnectedDevices machErrorString true true os) s) s) := by
  refine ⟨?_, ?_, ?_⟩
  · intro m s contextCreated os own
    apply findDeviceWithVidPid_spec Linux.deviceFunctions_reads
    apply wp_mono (Linux.listConnectedDevices_passes own true true contextCreated os)
    exact fun r s' listed => ⟨.none listed.1, listed.2⟩
  · intro m s formatMessage usbDevices own
    exact findDeviceWithVidPid_spec Windows.deviceFunctions_reads
      (Windows.listConnectedDevices_passes own formatMessage true true usbDevices) vendorId productId
  · intro m s machErrorString os own
    exact findDeviceWithVidPid_spec Mac.deviceFunctions_reads
      (Mac.listConnectedDevices_passes own machErrorString true true os) vendorId productId

/-- The second of three devices on Linux is found. -/
theorem findDeviceWithVidPid_finds_example :
    let info (name product : String) : Linux.UdevInfo := {
      syspath := name
      devtype := some "usb_device"
      sysattr := fun attr =>
        if attr = "idVendor" then some "1ffb" else if attr = "idProduct" then some product
        else if attr = "bcdDevice" then some "0100" else none
      usbParent := none
      driver := none
      devnode := none
      subsystem := some "usb"
      property := fun _ => none
      isInitialized := true }
    let os : Linux.EnumerateAnswers := ⟨true, 0, 0, [⟨"usb1", some (info "usb1" "00a0")⟩,
      ⟨"usb2", some (info "usb2" "00a1")⟩, ⟨"usb3", some (info "usb3" "00a1")⟩]⟩
    let s : Linux.System := ⟨⟨fun _ => true, 0, []⟩, 0, []⟩
    ∃ device s', findDeviceWithVidPid Linux.deviceFunctions
        (Linux.listConnectedDevices true true true os) 0x1ffb 0x00a1 true s =
          .ok ((none, some device), s') ∧
      content device = (⟨some "usb2", none, 0x00a1, 0x1ffb, 0x0100⟩ : Linux.DeviceView) ∧
      FindsDevice 0 (hasIds (·.vendorId) (·.productId) 0x1ffb 0x00a1)
        (Linux.listConnectedDevices true true true os) s (none, some device) s' := by
  intro info os s
  have found : returns (findDeviceWithVidPid Linux.deviceFunctions
      (Linux.listConnectedDevices true true true os) 0x1ffb 0x00a1 true) s (fun r => r.1.isNone &&
        decide (r.2.map content =
          some (⟨some "usb2", none, 0x00a1, 0x1ffb, 0x0100⟩ : Linux.DeviceView))) = true := by
    decide +kernel
  obtain ⟨⟨error, device⟩, s', run, test⟩ := ok_of_returns found
  rw [Bool.and_eq_true, Option.isNone_iff_eq_none, decide_eq_true_iff] at test
  obtain ⟨rfl, device, rfl, said⟩ := test.imp_right Option.map_eq_some_iff.mp
  exact ⟨device, s', run, said, ((findDeviceWithVidPid_finds 0x1ffb 0x00a1).1 0 s true os
    (.empty _)).elim run⟩

end Libusbp
