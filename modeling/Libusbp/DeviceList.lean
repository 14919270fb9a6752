import Libusbp.Objects
import Libusbp.Requests

/-!
# Lists of devices

`list.c`. A list is an array of pointers to devices that ends with a null pointer, at all times
(`NewList.Holds`). The devices of a platform and the function that frees one are parameters here.
-/

namespace Libusbp

open Prog Host

variable {κ D : Type}

/-- A slot of an array of pointers to devices. A slot of a new block is not set. -/
inductive Slot (D : Type) where
  | unset
  | null
  | device (dev : Box D)
deriving DecidableEq, Repr

/-- `libusbp_device **` -/
abbrev DeviceArray (D : Type) : Type := Option (Box (List (Slot D)))

/-- The variables of a list under construction: the array and the number of devices in it. -/
structure NewList (D : Type) where
  newList : DeviceArray D := none
  count : Nat := 0

/-- What `libusbp_list_connected_devices` writes: the list to `*device_list`, and to `*device_count`
these values, the first one first. -/
structure ListOutputs (D : Type) where
  deviceList : DeviceArray D := none
  deviceCount : List Nat

/-- `*device_count` is 0 by default. -/
def ListOutputs.start (deviceCount : Bool) : ListOutputs D where
  deviceCount := if deviceCount then [0] else []

/-- The list and the count are passed to the caller. -/
def ListOutputs.pass (outputs : ListOutputs D) (l : NewList D) (deviceCount : Bool) :
    ListOutputs D where
  deviceList := l.newList
  deviceCount := if deviceCount then outputs.deviceCount ++ [l.count] else outputs.deviceCount

instance [Owned κ D] : Owned κ (Slot D) where
  owned
    | .unset => 0
    | .null => 0
    | .device dev => owned dev

def deviceListCreate : Prog Fault (Host κ) (Option Error × DeviceArray D) :=
  allocate sizeofPointer [.null]

/-- The slots of an array after `realloc` to `n` slots, of which the added ones are not set. -/
def resized (deviceList : DeviceArray D) (n : Nat) : List (Slot D) :=
  (deviceList.elim [] (·.val) ++ List.replicate n Slot.unset).take n

/-- The assignment `list[i] = x`. -/
def storeSlot (list : List (Slot D)) (i : Nat) (x : Slot D) : Prog Fault (Host κ) (List (Slot D)) := do
  check .outOfBounds (i < list.length)
  pure (list.set i x)

def deviceListAppend (l : NewList D) (device : Option (Box D)) :
    Prog Fault (Host κ) (Option Error × NewList D) := do
  let device ← expect .assertion device
  let newCount := l.count + 1
  match ← realloc l.newList ((newCount + 1) * sizeofPointer) with
  | none => pure (some errorNoMemory, l)
  | some expandedList => do
    let slots ← storeSlot (resized l.newList (newCount + 1)) (newCount - 1) (.device device)
    let slots ← storeSlot slots newCount .null
    pure (none, ⟨some ⟨expandedList, slots⟩, newCount⟩)

/-- `if (device != NULL) { error = device_list_append(&new_list, &count, device); }` -/
def appendIfMade (l : NewList D) (device : Option (Box D)) :
    Prog Fault (Host κ) (Option Error × NewList D) :=
  if device.isSome then deviceListAppend l device else pure (none, l)

def listFree (deviceList : DeviceArray D) : Prog Fault (Host κ) Unit := free deviceList

/-- The loop of `free_devices_and_list` over the slots from `*device` on. -/
def freeDevices (deviceFree : Option (Box D) → Prog Fault (Host κ) Unit) :
    List (Slot D) → Prog Fault (Host κ) Unit
  | [] => throw .outOfBounds
  | .unset :: _ => throw .outOfBounds
  | .null :: _ => pure ()
  | .device dev :: slots => do
    deviceFree (some dev)
    freeDevices deviceFree slots

def freeDevicesAndList (deviceFree : Option (Box D) → Prog Fault (Host κ) Unit)
    (deviceList : DeviceArray D) : Prog Fault (Host κ) Unit :=
  match deviceList with
  | none => pure ()
  | some list => do
    freeDevices deviceFree list.val
    listFree (some list)

/-- A loop that fills a list from what an enumeration yields, up to the first error. Behind the last
item comes `finish`. -/
def fillList {ι : Type} (round : ι → NewList D → Prog Fault (Host κ) (Option Error × NewList D))
    (finish : Prog Fault (Host κ) (Option Error)) :
    List ι → NewList D → Prog Fault (Host κ) (Option Error × NewList D)
  | [], l => do
    let error ← finish
    pure (error, l)
  | i :: is, l => do
    let (error, l) ← round i l
    if error.isSome then pure (error, l)
    else fillList round finish is l

/-- The append in a round of a loop: whether the next request for memory will be granted, once the
attempt has made a device. -/
def appendGranted (attempt : Prog Fault (Host κ) (Option (Box D))) (s : Host κ) : Bool :=
  match attempt s with
  | .ok (device, s') => device.isNone || s'.heap.grant s'.heap.next
  | .error _ => true

/-- Whether the requests for memory of the appends of a loop will be granted. -/
def appendsGranted {ι : Type} (attempt : ι → Prog Fault (Host κ) (Option (Box D)))
    (round : ι → NewList D → Prog Fault (Host κ) (Option Error × NewList D)) :
    List ι → NewList D → Host κ → Bool
  | [], _, _ => true
  | i :: is, l, s =>
    appendGranted (attempt i) s &&
      match round i l s with
      | .ok ((none, l'), s') => appendsGranted attempt round is l' s'
      | _ => true

/-- What an enumeration tells starts with what its first item tells. -/
lemma filterMap_cons_toList {ι β : Type} {f : ι → Option β} {i : ι} {is : List ι} :
    (i :: is).filterMap f = (f i).toList ++ is.filterMap f := by
  rw [List.filterMap_cons]
  cases f i <;> rfl

/-- The list holds these devices, and is null-terminated at its count. -/
structure NewList.Holds (l : NewList D) (devices : List (Box D)) : Prop where
  slots : ∃ a, l.newList = some ⟨a, devices.map .device ++ [.null]⟩
  count : l.count = devices.length

/-- An array tells its devices. -/
lemma deviceArray_inj {devices devices' : List (Box D)} {a a' : Addr}
    (eq : (some ⟨a, devices.map Slot.device ++ [.null]⟩ : DeviceArray D) =
      some ⟨a', devices'.map Slot.device ++ [.null]⟩) : devices = devices' := by
  rw [Option.some.injEq, Box.mk.injEq] at eq
  have slots := List.append_cancel_right eq.2
  exact List.map_injective_iff.mpr (fun _ _ eq => Slot.device.inj eq) slots

/-- A list holds only these devices. -/
lemma NewList.Holds.unique {l : NewList D} {devices devices' : List (Box D)} (h : l.Holds devices)
    (h' : l.Holds devices') : devices = devices' := by
  obtain ⟨a, list⟩ := h.slots
  obtain ⟨a', list'⟩ := h'.slots
  exact deviceArray_inj (list.symm.trans list')

/-- A list with one more slot. -/
lemma resized_eq {devices : List (Box D)} {a : Addr} :
    resized (some ⟨a, devices.map Slot.device ++ [Slot.null]⟩) (devices.length + 1 + 1) =
      devices.map Slot.device ++ [Slot.null, Slot.unset] := by
  have length : (devices.map Slot.device).length = devices.length := List.length_map _
  have count : devices.length + 1 + 1 = (devices.map Slot.device).length + 2 := by rw [length]
  unfold resized
  rw [Option.elim_some, List.append_assoc, count, List.take_length_add_append,
    List.replicate_succ, List.singleton_append, List.take_succ_cons, List.take_succ_cons,
    List.take_zero]

/-- Storing a slot behind others. -/
lemma wp_storeSlot {front rest : List (Slot D)} {old x : Slot D} {s : Host κ}
    {Q : List (Slot D) → Host κ → Prop} (post : Q (front ++ x :: rest) s) :
    wp (storeSlot (front ++ old :: rest) front.length x : Prog Fault (Host κ) _) Q s := by
  simp only [storeSlot, wp_bind, wp_check, wp_pure, decide_eq_true_eq]
  refine ⟨by simp, ?_⟩
  rwa [List.set_append_right _ _ (Nat.le_refl _), Nat.sub_self, List.set_cons_zero]

variable [Owned κ D]

lemma owned_slots {devices : List (Box D)} :
    (owned (devices.map Slot.device ++ [.null]) : Holdings κ) = owned devices := by
  induction devices with
  | nil => exact add_zero _
  | cons dev devices ih =>
    rw [List.map_cons, List.cons_append, owned_cons, owned_cons, ih]
    rfl

/-- A list owns its array and its devices. -/
lemma owned_array {devices : List (Box D)} {a : Addr} :
    (owned (some ⟨a, devices.map Slot.device ++ [Slot.null]⟩ : DeviceArray D) : Holdings κ) =
      ({.heap a}, 0) + owned devices := by
  rw [owned_some, owned_box, owned_slots]

variable [DecidableEq κ] {m : Holdings κ} {d : Nat} {s : Host κ}

/-- A new list is empty. -/
lemma wp_deviceListCreate (own : Holding m d s) {Q : Option Error × DeviceArray D → Host κ → Prop}
    (created : ∀ list s', NewList.Holds ⟨list, 0⟩ [] → s.heap.grant s.heap.next = true →
      Holding (m + owned list) d s' → Q (none, list) s')
    (denied : ∀ s', s.heap.grant s.heap.next = false → s'.Owns m → s'.denials = d + 1 →
      Q (some errorNoMemory, none) s') :
    wp (deviceListCreate : Prog Fault (Host κ) _) Q s := by
  have bare : (owned ([.null] : List (Slot D)) : Holdings κ) = 0 := add_zero _
  have made : wp (new sizeofPointer ([.null] : List (Slot D)) : Prog Fault (Host κ) _)
      (fun b s' => b.elim (s'.Owns m ∧ s'.denials = d + 1)
        fun b => b.val = [.null] ∧ Holding (m + owned b) d s') s := by
    apply own.owns.wp_new (by decide) bare
    · exact fun b s' hb own' hd => ⟨hb, own', hd.trans own.denials⟩
    · exact fun s' own' hd => ⟨own', by rw [hd, own.denials]⟩
  simp only [deviceListCreate, allocate, wp_bind]
  apply wp_mono made.run
  rintro (_ | b) s' ⟨h, run⟩
  · obtain ⟨_, there⟩ := new_answered run
    rw [wp_pure]
    exact denied s' there.symm h.1 h.2
  · obtain ⟨_, there⟩ := new_answered run
    obtain ⟨addr, slots⟩ := b
    obtain ⟨rfl, own'⟩ := h
    rw [wp_pure]
    exact created _ s' ⟨⟨addr, rfl⟩, rfl⟩ there.symm own'

/-- An appended device is the last one of the list. The next request decides whether it is appended;
if it is denied, the list stays as it is. -/
lemma wp_deviceListAppend {l : NewList D} {devices : List (Box D)} {dev : Box D} (h : l.Holds devices)
    (own : Holding (m + owned l.newList + owned dev) d s)
    {Q : Option Error × NewList D → Host κ → Prop}
    (appended : ∀ l' s', s.heap.grant s.heap.next = true → l'.Holds (devices ++ [dev]) →
      Holding (m + owned l'.newList) d s' → Q (none, l') s')
    (denied : ∀ s', s.heap.grant s.heap.next = false →
      s'.Owns (m + owned l.newList + owned dev) → s'.denials = d + 1 →
      Q (some errorNoMemory, l) s') :
    wp (deviceListAppend l (some dev)) Q s := by
  obtain ⟨_, count⟩ := l
  obtain ⟨⟨a, rfl⟩, rfl⟩ := h
  have parts : m + owned (some ⟨a, devices.map Slot.device ++ [Slot.null]⟩ : DeviceArray D) +
      owned dev = m + owned devices + owned dev + ({.heap a}, 0) := by
    rw [owned_array]
    abel
  have size : (devices.length + 1 + 1) * sizeofPointer ≠ 0 :=
    Nat.mul_ne_zero (Nat.succ_ne_zero _) (by decide)
  simp only [deviceListAppend, expect, pure_bind, wp_bind]
  rw [parts] at own denied
  apply own.owns.wp_realloc (b := ⟨a, devices.map Slot.device ++ [Slot.null]⟩) size
  · intro a' s' granted own' hd
    simp only [wp_bind, resized_eq, Nat.add_sub_cancel]
    have length : (devices.map Slot.device).length = devices.length := List.length_map _
    have next : ((devices ++ [dev]).map Slot.device).length = devices.length + 1 := by simp
    rw [← length]
    apply wp_storeSlot
    rw [length, ← next]
    have last : devices.map Slot.device ++ [Slot.device dev, Slot.unset] =
        (devices ++ [dev]).map Slot.device ++ [Slot.unset] := by simp
    rw [last]
    apply wp_storeSlot
    rw [wp_pure]
    refine appended _ s' granted ⟨⟨a', rfl⟩, by simp⟩ ⟨own'.of_eq ?_, hd.trans own.denials⟩
    rw [owned_array, owned_append, owned_cons, owned_nil]
    abel
  · intro s' no own' hd
    rw [wp_pure]
    exact denied s' no own' (by rw [hd, own.denials])

/-- Freeing a list frees its devices and its array. -/
lemma freeDevicesAndList_givesBack {deviceFree : Option (Box D) → Prog Fault (Host κ) Unit}
    {l : NewList D} {devices : List (Box D)} (h : l.Holds devices)
    (frees : ∀ dev, GivesBack (deviceFree (some dev)) (owned dev)) :
    GivesBack (freeDevicesAndList deviceFree l.newList) (owned l.newList) := by
  obtain ⟨a, list⟩ := h.slots
  have each : GivesBack (freeDevices deviceFree (devices.map Slot.device ++ [Slot.null]))
      (owned devices) := by
    clear h list
    induction devices with
    | nil => exact .nothing
    | cons dev devices ih =>
      rw [owned_cons]
      exact .seq (frees dev) ih
  rw [list]
  apply (each.seq (.freeBlock (b := ⟨a, devices.map Slot.device ++ [Slot.null]⟩))).of_eq
  rw [owned_array]
  abel

/-- The same where there may be no list. -/
lemma freeDevicesAndList?_givesBack {deviceFree : Option (Box D) → Prog Fault (Host κ) Unit}
    {l : NewList D} (list : l.newList = none ∨ ∃ devices, l.Holds devices)
    (frees : ∀ dev, GivesBack (deviceFree (some dev)) (owned dev)) :
    GivesBack (freeDevicesAndList deviceFree l.newList) (owned l.newList) := by
  rcases list with none | ⟨devices, holds⟩
  · rw [none]
    exact .nothing
  · exact freeDevicesAndList_givesBack holds frees

/-- The devices of a list are different objects. -/
lemma NewList.Holds.nodup {l : NewList D} {devices : List (Box D)} (h : l.Holds devices)
    (own : s.Owns (m + owned l.newList)) : (devices.map (·.addr)).Nodup := by
  obtain ⟨a, list⟩ := h.slots
  rw [list, owned_array] at own
  have blocks : ((owned devices : Holdings κ).1).Nodup :=
    (Multiset.nodup_add.mp (Multiset.nodup_add.mp own.heap.nodup).2.1).2.1
  have below : ((devices.map (·.addr) : List Addr) : Multiset Addr).map Loc.heap ≤
      (owned devices : Holdings κ).1 := by
    clear own blocks h list
    induction devices with
    | nil => exact Multiset.zero_le _
    | cons dev devices ih =>
      have device : ({.heap dev.addr} : Multiset Loc) ≤ (owned dev : Holdings κ).1 :=
        Multiset.le_add_right _ _
      rw [owned_cons]
      exact add_le_add device ih
  exact Multiset.Nodup.of_map _ (Multiset.nodup_of_le below blocks)

/-- What a call that lists the devices must come to: every device that was made, like everything else
that the call acquired, is in the returned list or was given back, exactly once; with an error, nothing
is in a list, and nothing was written but the default of the count. -/
def KeepsDevices (m : Holdings κ) (deviceCount : Bool) (r : Option Error × ListOutputs D)
    (s : Host κ) : Prop :=
  match r with
  | (none, outputs) => (∃ devices, NewList.Holds ⟨outputs.deviceList, devices.length⟩ devices ∧
      (devices.map (·.addr)).Nodup) ∧ s.Settled (m + owned outputs.deviceList)
  | (some e, outputs) => outputs = .start deviceCount ∧ s.Settled (m + (e.blocks, 0))

/-- What the caller gets is a list that holds devices, and its count. -/
def Passed (deviceCount : Bool) (r : Option Error × ListOutputs D) : Prop :=
  r.1 = none → ∃ l devices, NewList.Holds l devices ∧
    r.2 = (ListOutputs.start deviceCount).pass l deviceCount

/-- A list that is passed to the caller, who owns it from then on. -/
lemma passes_list {deviceCount : Bool} {outputs : ListOutputs D} {l : NewList D}
    {devices : List (Box D)} (start : outputs = .start deviceCount) (h : l.Holds devices)
    (own : s.Owns (m + owned l.newList)) :
    KeepsDevices m deviceCount (none, outputs.pass l deviceCount) s ∧
      Passed deviceCount (none, outputs.pass l deviceCount) := by
  refine ⟨⟨⟨devices, ⟨h.slots, rfl⟩, h.nodup own⟩, own.settled⟩, fun _ => ⟨l, devices, h, ?_⟩⟩
  exact congrArg (·.pass l deviceCount) start

/-- An error that comes without a list. -/
lemma passes_error {deviceCount : Bool} {outputs : ListOutputs D} {d : Nat} {V : ErrorValue → Prop}
    {e : Error} (start : outputs = .start deviceCount) (r : Raised m d V e s) :
    KeepsDevices m deviceCount (some e, outputs) s ∧ Passed deviceCount (some e, outputs) :=
  ⟨⟨start, r.owns.settled⟩, nofun⟩

/-- What a call that lists the devices leaves: a list of devices that satisfy `P`, and its count, or an
error and nothing in a list. -/
def ListsOnly (P : Box D → Prop) (m : Holdings κ) (deviceCount : Bool)
    (r : Option Error × ListOutputs D) (s : Host κ) : Prop :=
  match r with
  | (none, outputs) => ∃ l devices, NewList.Holds l devices ∧ (∀ dev ∈ devices, P dev) ∧
      outputs = (ListOutputs.start deviceCount).pass l deviceCount ∧ s.Owns (m + owned l.newList)
  | (some e, outputs) => outputs = .start deviceCount ∧ ∃ d, Raised m d (fun _ => True) e s

lemma ListsOnly.passes {P : Box D → Prop} {deviceCount : Bool} {r : Option Error × ListOutputs D}
    (lists : ListsOnly P m deviceCount r s) : KeepsDevices m deviceCount r s ∧ Passed deviceCount r := by
  obtain ⟨_ | e, outputs⟩ := r
  · obtain ⟨l, devices, holds, _, rfl, own⟩ := lists
    exact passes_list rfl holds own
  · obtain ⟨start, d, raised⟩ := lists
    exact passes_error start raised

section Contents

variable {β : Type} [Content D β] {o : Option β} {views : List β} {devices : List (Box D)}

/-- What an attempt to make a device came to: the device, if there is one, or nothing because a request
was denied. -/
def Tried (o : Option β) (d : Nat) (device : Option (Box D)) (s : Host κ) : Prop :=
  s.denials = d ∧ device.map content = o ∨ d < s.denials ∧ device = none

omit [Owned κ D] [DecidableEq κ] in
lemma Tried.eq_ite {device : Option (Box D)} (tried : Tried o d device s) :
    device.map content = if s.denials = d then o else none := by
  rcases tried with ⟨same, there⟩ | ⟨lt, rfl⟩
  · rw [there, if_pos same]
  · exact (if_neg (Nat.ne_of_gt lt)).symm

/-- The list holds the devices `views`, in order, but for some that a request was denied for. -/
structure Listed (views : List β) (d : Nat) (devices : List (Box D)) (s : Host κ) : Prop where
  sublist : (devices.map content).Sublist views
  all : s.denials = d → devices.map content = views
  later : d ≤ s.denials

omit [Owned κ D] [DecidableEq κ] in
lemma Listed.nil : Listed (D := D) ([] : List β) s.denials [] s :=
  ⟨.slnil, fun _ => rfl, Nat.le_refl _⟩

omit [Owned κ D] [DecidableEq κ] in
lemma Listed.settle {s' : Host κ} (listed : Listed views d devices s) (same : s'.denials = s.denials) :
    Listed views d devices s' :=
  ⟨listed.sublist, fun granted => listed.all (same ▸ granted), same ▸ listed.later⟩

omit [Owned κ D] [DecidableEq κ] in
lemma Listed.append {s' : Host κ} {device : Option (Box D)} (listed : Listed views d devices s)
    (tried : Tried o s.denials device s') :
    Listed (views ++ o.toList) d (devices ++ device.toList) s' := by
  rcases tried with ⟨same, rfl⟩ | ⟨lt, rfl⟩
  · have new : (device.toList.map content : List β) = (device.map content).toList := by
      cases device <;> rfl
    refine ⟨?_, fun granted => ?_, same ▸ listed.later⟩
    · rw [List.map_append, new]
      exact listed.sublist.append (.refl _)
    · rw [List.map_append, new, listed.all (same ▸ granted)]
  · refine ⟨?_, fun granted => ?_, Nat.le_of_lt (Nat.lt_of_le_of_lt listed.later lt)⟩
    · rw [Option.toList_none, List.append_nil]
      exact listed.sublist.trans (List.sublist_append_left _ _)
    · exact absurd (granted ▸ lt) (Nat.not_lt_of_le listed.later)

/-- An attempt whose error is freed. -/
lemma Makes.wp_attempt {create : Prog Fault (Host κ) (Option Error × Option (Box D))}
    (makes : wp create (Makes o m d) s) :
    wp (do
      let (error, device) ← create
      if error.isSome then do
        check .assertion device.isNone
        inHeap (errorFree error)
      pure device) (fun device s' => s'.Owns (m + owned device) ∧ Tried o d device s') s := by
  simp only [wp_bind]
  apply wp_mono makes
  rintro ⟨_ | e, device⟩ s₁ made
  · obtain ⟨dev, rfl, there, own₁⟩ := made
    exact wp_pure.mpr ⟨own₁.owns, .inl ⟨own₁.denials, there.symm⟩⟩
  · obtain ⟨rfl, r⟩ := made
    simp only [Option.isSome_some, if_true, Option.isNone_none, wp_bind, wp_check, wp_pure, true_and]
    apply r.wp_free
    refine fun s₂ own₂ => ⟨own₂.owns.of_eq (add_zero m).symm, ?_⟩
    rw [Tried, own₂.denials]
    rcases r.value with ⟨same, none⟩ | ⟨lt, _⟩
    · exact .inl ⟨same, none.symm⟩
    · exact .inr ⟨lt, rfl⟩

/-- A round appended the device of its entry, if there is one, or it ended in the error of the append,
which lost the device. -/
def Appends (o : Option β) (m : Holdings κ) (granted : Bool) (devices : List (Box D)) (d : Nat)
    (r : Option Error × NewList D) (s : Host κ) : Prop :=
  match r with
  | (none, l) => granted = true ∧ ∃ device : Option (Box D), Tried o d device s ∧
      l.Holds (devices ++ device.toList) ∧ s.Owns (m + owned l.newList)
  | (some e, l) => granted = false ∧ ∃ lost : Box D, l.Holds devices ∧
      Raised (m + owned lost + owned l.newList) d (fun _ => False) e s

/-- A round that appends the device in hand, if there is one, which is lost if the append is denied. -/
lemma appendIfMade_appends {l : NewList D} {device : Option (Box D)} (h : l.Holds devices)
    (own : s.Owns (m + owned l.newList + owned device)) (tried : Tried o d device s) :
    wp (appendIfMade l device)
      (Appends o m (device.isNone || s.heap.grant s.heap.next) devices d) s := by
  cases device with
  | none => exact wp_pure.mpr ⟨rfl, none, tried, by simpa using h, own.of_eq (add_zero _)⟩
  | some dev =>
    obtain ⟨same, there⟩ := tried.resolve_right fun denied => Option.some_ne_none _ denied.2
    rw [Option.isNone_some, Bool.false_or]
    apply wp_deviceListAppend h ⟨own, same⟩
    · intro l' s' granted holds own'
      exact ⟨granted, some dev, .inl ⟨own'.denials, there⟩, holds, own'.owns⟩
    · intro s' denied own' hd
      refine ⟨denied, dev, h, .denied (own'.of_eq ?_) hd⟩
      abel

/-- What is given back behind a round does not change what it came to. -/
lemma Appends.wp_givesBack {granted : Bool} {r : Option Error × NewList D} {held : Holdings κ}
    {x : Prog Fault (Host κ) Unit} (h : Appends o (m + held) granted devices d r s)
    (gives : GivesBack x held) {Q : Unit → Host κ → Prop}
    (post : ∀ s', Appends o m granted devices d r s' → Q () s') : wp x Q s := by
  obtain ⟨_ | e, l⟩ := r
  · obtain ⟨hg, device, tried, holds, own⟩ := h
    have own : Holding (m + owned l.newList + held) s.denials s := ⟨own.of_eq (by abel), rfl⟩
    refine gives.wp own fun s' own' => post s' ⟨hg, device, ?_, holds, own'.owns⟩
    rwa [Tried, own'.denials]
  · obtain ⟨hg, lost, holds, raised⟩ := h
    have raised : Raised (m + owned lost + owned l.newList + held) d (fun _ => False) e s :=
      raised.of_eq (by abel)
    exact gives.wp_raised raised fun s' r' => post s' ⟨hg, lost, holds, r'⟩

/-- A loop filled a list with the devices `views`, or it ended in an error. A device is lost exactly if
its append was denied. -/
def Fills (ends : Except ErrorValue Unit) (views : List β) (m : Holdings κ) (granted : Bool) (d : Nat)
    (r : Option Error × NewList D) (s : Host κ) : Prop :=
  match r with
  | (none, l) => ends = .ok () ∧ granted = true ∧
      ∃ devices, l.Holds devices ∧ s.Owns (m + owned l.newList) ∧ Listed views d devices s
  | (some e, l) => ∃ (devices : List (Box D)) (lost : Option (Box D)) (d' : Nat), l.Holds devices ∧
      granted = lost.isNone ∧ d ≤ d' ∧
      Raised (m + owned lost + owned l.newList) d' (fun v => ends = .error v) e s

/-- The loop fills a list if each of its rounds appends to it. -/
lemma wp_fillList {ι : Type} {attempt : ι → Prog Fault (Host κ) (Option (Box D))}
    {round : ι → NewList D → Prog Fault (Host κ) (Option Error × NewList D)} {device? : ι → Option β}
    {finish : Prog Fault (Host κ) (Option Error)} {ends : Except ErrorValue Unit}
    (appends : ∀ i l devices s, l.Holds devices → s.Owns (m + owned l.newList) →
      wp (round i l) (Appends (device? i) m (appendGranted (attempt i) s) devices s.denials) s)
    (finishes : ∀ m d s, Holding m d s → wp finish (Checked m d ends) s)
    (is : List ι) {l : NewList D} (h : l.Holds devices) (own : s.Owns (m + owned l.newList))
    (listed : Listed views d devices s) :
    wp (fillList round finish is l)
      (Fills ends (views ++ is.filterMap device?) m (appendsGranted attempt round is l s) d) s := by
  induction is generalizing l devices views s with
  | nil =>
    simp only [fillList, wp_bind, wp_pure]
    apply wp_mono (finishes _ _ s ⟨own, rfl⟩)
    rintro (_ | e) s' finished
    · obtain ⟨ok, own'⟩ := finished
      refine ⟨ok, rfl, devices, h, own'.owns, ?_⟩
      rw [List.filterMap_nil, List.append_nil]
      exact listed.settle own'.denials
    · exact ⟨devices, none, _, h, rfl, listed.later, finished.of_eq (by simp)⟩
  | cons i is ih =>
    rw [fillList, wp_bind]
    apply wp_mono (appends i l devices s h own).run
    rintro ⟨_ | e, l'⟩ s' ⟨appended, run⟩
    · obtain ⟨granted, device, tried, holds, own'⟩ := appended
      have same : appendsGranted attempt round (i :: is) l s =
          appendsGranted attempt round is l' s' := by
        simp only [appendsGranted, granted, run, Bool.true_and]
      rw [same, filterMap_cons_toList, ← List.append_assoc]
      exact ih holds own' (listed.append tried)
    · obtain ⟨granted, lost, holds, raised⟩ := appended
      have same : appendsGranted attempt round (i :: is) l s = false := by
        simp only [appendsGranted, granted, Bool.false_and]
      rw [same]
      refine wp_pure.mpr ⟨devices, some lost, _, holds, rfl, listed.later, raised.mono ?_⟩
      exact fun _ no => no.elim

/-- What a call comes to that lists the devices `o`: a list of these devices, in order, but for some that
a request was denied for, with its count; or an error, nothing in a list, and a device that was lost
exactly if its append was denied. -/
def Enumerates (o : Except ErrorValue (List β)) (m : Holdings κ) (deviceCount granted : Bool) (d : Nat)
    (r : Option Error × ListOutputs D) (s : Host κ) : Prop :=
  match r with
  | (none, outputs) => granted = true ∧ ∃ views l devices, o = .ok views ∧ NewList.Holds l devices ∧
      outputs = (ListOutputs.start deviceCount).pass l deviceCount ∧ s.Owns (m + owned l.newList) ∧
      Listed views d devices s
  | (some e, outputs) => outputs = .start deviceCount ∧ ∃ (lost : Option (Box D)) (d' : Nat),
      granted = lost.isNone ∧ d ≤ d' ∧ Raised (m + owned lost) d' (fun v => o = .error v) e s

end Contents

/-- The call lost no device, or one that it neither listed nor gave back. -/
def KeepsBut (m : Holdings κ) (deviceCount granted : Bool) (r : Option Error × ListOutputs D)
    (s : Host κ) : Prop :=
  ∃ lost : Option (Box D), granted = lost.isNone ∧ (lost.isSome → r.1.isSome) ∧
    KeepsDevices (m + owned lost) deviceCount r s

lemma KeepsBut.none {deviceCount : Bool} {r : Option Error × ListOutputs D}
    (h : KeepsDevices m deviceCount r s) : KeepsBut m deviceCount true r s := by
  refine ⟨Option.none, rfl, fun lost => absurd lost Bool.false_ne_true, ?_⟩
  rwa [owned_none, add_zero]

/-- No device is lost exactly if the appends are granted. -/
lemma KeepsBut.iff {deviceCount granted : Bool} {r : Option Error × ListOutputs D}
    (h : KeepsBut m deviceCount granted r s) : KeepsDevices m deviceCount r s ↔ granted = true := by
  obtain ⟨lost, rfl, error, keeps⟩ := h
  cases lost with
  | none => exact ⟨fun _ => rfl, fun _ => by rwa [owned_none, add_zero] at keeps⟩
  | some dev =>
    refine ⟨fun keeps' => ?_, fun no => absurd no Bool.false_ne_true⟩
    obtain ⟨_ | e, outputs⟩ := r
    · exact absurd (error rfl) Bool.false_ne_true
    · -- what is held with the lost device would be what is held without it
      have same := congrArg (fun x => Multiset.card x.1) (keeps.2.owns.unique keeps'.2.owns)
      simp only [owned_some, owned_box, Prod.fst_add, Multiset.card_add,
        Multiset.card_singleton] at same
      omega

/-- What a call leaves that lists the devices, but for a device that it neither listed nor gave back. -/
def ListsBut (P : Box D → Prop) (m : Holdings κ) (deviceCount granted : Bool)
    (r : Option Error × ListOutputs D) (s : Host κ) : Prop :=
  ∃ lost : Option (Box D), granted = lost.isNone ∧ (lost.isSome → r.1.isSome) ∧
    ListsOnly P (m + owned lost) deviceCount r s

namespace ListsBut

variable {P : Box D → Prop} {deviceCount granted : Bool} {r : Option Error × ListOutputs D}

lemma none (lists : ListsOnly P m deviceCount r s) : ListsBut P m deviceCount true r s := by
  refine ⟨Option.none, rfl, fun lost => absurd lost Bool.false_ne_true, ?_⟩
  rwa [owned_none, add_zero]

lemma mono {P' : Box D → Prop} (lists : ListsBut P m deviceCount granted r s)
    (imp : ∀ dev, P dev → P' dev) : ListsBut P' m deviceCount granted r s := by
  obtain ⟨lost, kept, error, lists⟩ := lists
  refine ⟨lost, kept, error, ?_⟩
  obtain ⟨_ | e, outputs⟩ := r
  · obtain ⟨l, devices, holds, all, passed⟩ := lists
    exact ⟨l, devices, holds, fun dev mem => imp dev (all dev mem), passed⟩
  · exact lists

/-- No device is lost if the appends are granted. -/
lemma listsOnly (lists : ListsBut P m deviceCount true r s) : ListsOnly P m deviceCount r s := by
  obtain ⟨lost, kept, _, lists⟩ := lists
  cases lost with
  | none => rwa [owned_none, add_zero] at lists
  | some dev => cases kept

lemma passes (lists : ListsBut P m deviceCount granted r s) :
    KeepsBut m deviceCount granted r s ∧ Passed deviceCount r := by
  obtain ⟨lost, kept, error, lists⟩ := lists
  exact ⟨⟨lost, kept, error, lists.passes.1⟩, lists.passes.2⟩

end ListsBut

/-- The devices in the list are among those of the enumeration. -/
lemma Enumerates.listsBut {β : Type} [Content D β] {o : Except ErrorValue (List β)}
    {deviceCount granted : Bool} {r : Option Error × ListOutputs D}
    (h : Enumerates o m deviceCount granted d r s) :
    ListsBut (fun dev => ∃ views, o = .ok views ∧ content dev ∈ views) m deviceCount granted r s := by
  obtain ⟨_ | e, outputs⟩ := r
  · obtain ⟨rfl, views, l, devices, ok, holds, passed, own, listed⟩ := h
    refine .none ⟨l, devices, holds, fun dev mem => ⟨views, ok, ?_⟩, passed, own⟩
    exact listed.sublist.subset (List.mem_map_of_mem mem)
  · obtain ⟨start, lost, d', kept, _, raised⟩ := h
    exact ⟨lost, kept, fun _ => rfl, start, d', raised.any⟩

end Libusbp
