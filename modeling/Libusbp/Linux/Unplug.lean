import Libusbp.Linux.UdevSpec

/-!
# Looking for an interface among other devices

`udevw_get_interface` looks every entry of the enumeration up before it knows to which device the
entry belongs, and gives up when that fails. What it comes to for a device therefore depends on the
entries of other devices: on the first of them that fails, if it comes ahead of the entry of the
device at which the search stops.
-/

namespace Libusbp.Linux

open Prog Host

/-- Two enumerations with the same entries for a device, those that `own` picks out. Any other entry
that can be looked up has another parent. -/
structure SameForDevice (deviceSyspath : String) (own : UdevEntry → Bool)
    (entries entries' : List UdevEntry) : Prop where
  same : entries.filter own = entries'.filter own
  foreign : ∀ e ∈ entries ++ entries', own e = false →
    ∀ info, e.lookup = some info → info.usbParent ≠ some deviceSyspath

/-- Two calls failed with the same text and codes, or found the same. -/
def SameOutcome (r r' : Option Error × Option UdevDevice) : Prop :=
  r.1.map (·.value) = r'.1.map (·.value) ∧ r.2.map content = r'.2.map content

/-- Other devices disturb the search in two enumerations alike: by the same failure or not at all,
or in one of them by the failure that the entries of the device have in store anyway. -/
def DisturbedAlike (deviceSyspath : String) (interfaceNumber : UInt8) (own : UdevEntry → Bool)
    (entries entries' : List UdevEntry) : Prop :=
  let verdict := UdevEntry.interfaceVerdict deviceSyspath interfaceNumber
  let failure := disturbance verdict own entries
  let failure' := disturbance verdict own entries'
  failure = failure' ∨ failure = none ∧ failure' = ownFailure verdict own entries ∨
    failure' = none ∧ failure = ownFailure verdict own entries

/-- An outcome whose errors have no codes. -/
def Codeless {α : Type} (o : Except ErrorValue α) : Prop := ∀ v, o = .error v → v.codes = []

namespace Codeless

variable {α β : Type}

lemma ok {a : α} : Codeless (.ok a) := by rintro _ ⟨⟩

lemma ofText {text : String} : Codeless (.error (.ofText text) : Except ErrorValue α) := by
  rintro _ ⟨⟩
  rfl

lemma bind {o : Except ErrorValue α} {f : α → Except ErrorValue β} (h : Codeless o)
    (hf : ∀ a, Codeless (f a)) : Codeless (o >>= f) := by
  intro v hv
  rcases of_bind_error hv with hv | ⟨a, -, hv⟩
  · exact h v hv
  · exact hf a v hv

lemma ite {c : Prop} [Decidable c] {o o' : Except ErrorValue α} (h : Codeless o)
    (h' : Codeless o') : Codeless (if c then o else o') := by
  split
  case isTrue => exact h
  case isFalse => exact h'

end Codeless

section

variable {deviceSyspath : String} {interfaceNumber : UInt8} {entry : UdevEntry} {info : UdevInfo}

lemma isSpecificInterface_codeless :
    Codeless (info.isSpecificInterface deviceSyspath interfaceNumber) := by
  unfold UdevInfo.isSpecificInterface UdevInfo.getDevtype UdevInfo.getUsbParent UdevInfo.getSysattr
  refine .bind ?_ fun devtype => .ite .ok (.bind ?_ fun number => .ite .ok (.bind ?_ fun parent =>
    .ite .ok .ok))
  · split
    · exact .ok
    · exact .ofText
  · split
    · exact .ofText
    · split
      · exact .ok
      · exact .ofText
  · split
    · exact .ok
    · exact .ofText

/-- An error about an entry has no code. -/
lemma interfaceVerdict_codeless : Codeless (entry.interfaceVerdict deviceSyspath interfaceNumber) := by
  refine .bind ?_ fun info => .bind isSpecificInterface_codeless fun correct => .ite .ok .ok
  unfold lookupOutcome
  split
  · exact .ok
  · exact .ofText

/-- What the search finds says that the device is its parent. -/
lemma interfaceVerdict_found
    (h : entry.interfaceVerdict deviceSyspath interfaceNumber = .ok (some info)) :
    entry.lookup = some info ∧ info.usbParent = some deviceSyspath := by
  obtain ⟨info', looked, h⟩ := of_bind_ok h
  obtain ⟨correct, checked, h⟩ := of_bind_ok h
  split at h
  case isFalse => cases h
  case isTrue yes =>
    cases h
    refine ⟨lookupOutcome_ok.mp looked, ?_⟩
    exact (isSpecificInterface_ok.mp (checked.trans (congrArg _ yes))).2.2

/-- What the search of the interface comes to, by what disturbs it. -/
lemma interfaceOutcome_disturbance {own : UdevEntry → Bool} {entries : List UdevEntry}
    (foreign : ∀ e ∈ entries, own e = false →
      ∀ info, e.lookup = some info → info.usbParent ≠ some deviceSyspath) :
    interfaceOutcome deviceSyspath interfaceNumber ⟨true, 0, 0, entries⟩ =
      (disturbance (UdevEntry.interfaceVerdict deviceSyspath interfaceNumber) own entries).elim
        (firstVerdict (UdevEntry.interfaceVerdict deviceSyspath interfaceNumber)
          (entries.filter own)) .error >>=
        orNotReady s!"Could not find interface {interfaceNumber}." := by
  rw [← firstVerdict_disturbance]
  · rfl
  · intro e mem other info found
    obtain ⟨looked, parent⟩ := interfaceVerdict_found found
    exact foreign e mem other info looked parent

lemma disturbance_codes {own : UdevEntry → Bool} {entries : List UdevEntry} {v : ErrorValue}
    (h : disturbance (UdevEntry.interfaceVerdict deviceSyspath interfaceNumber) own entries =
      some v) : v.codes = [] := by
  obtain ⟨e, -, failed⟩ := List.exists_of_findSome?_eq_some h
  split at failed
  · cases failed
  · unfold failureAt at failed
    split at failed
    · cases failed
    next error =>
      cases failed
      exact interfaceVerdict_codeless _ error

/-- The failure of another device is never the error of a search that finds nothing. -/
lemma orNotReady_eq_error {found : Except ErrorValue (Option UdevInfo)} {text : String}
    {v : ErrorValue} (codes : v.codes = []) :
    found >>= orNotReady text = .error v ↔ found = .error v := by
  constructor
  · intro h
    rcases of_bind_error h with h | ⟨_ | info, -, h⟩
    · exact h
    · cases h
      cases codes
    · cases h
  · exact error_bind

end

/-- Two searches come to the same exactly if they are disturbed alike. -/
lemma interfaceOutcome_eq_iff {deviceSyspath : String} {interfaceNumber : UInt8}
    {own : UdevEntry → Bool} {entries entries' : List UdevEntry}
    (same : SameForDevice deviceSyspath own entries entries') :
    interfaceOutcome deviceSyspath interfaceNumber ⟨true, 0, 0, entries⟩ =
        interfaceOutcome deviceSyspath interfaceNumber ⟨true, 0, 0, entries'⟩ ↔
      DisturbedAlike deviceSyspath interfaceNumber own entries entries' := by
  rw [interfaceOutcome_disturbance fun e mem => same.foreign e (List.mem_append_left _ mem),
    interfaceOutcome_disturbance fun e mem => same.foreign e (List.mem_append_right _ mem),
    ← same.same]
  unfold DisturbedAlike
  dsimp only
  -- a disturbed search comes to the error of the other device, any other to its own outcome
  cases h : disturbance (UdevEntry.interfaceVerdict deviceSyspath interfaceNumber) own entries with
  | none =>
    cases h' : disturbance (UdevEntry.interfaceVerdict deviceSyspath interfaceNumber) own entries' with
    | none => simp
    | some v' =>
      have codes := disturbance_codes h'
      simp only [Option.elim, error_bind rfl, orNotReady_eq_error codes, ← ownFailure_eq]
      simp [eq_comm]
  | some v =>
    have codes := disturbance_codes h
    cases h' : disturbance (UdevEntry.interfaceVerdict deviceSyspath interfaceNumber) own entries' with
    | none =>
      simp only [Option.elim, error_bind rfl]
      rw [eq_comm, orNotReady_eq_error codes, ← ownFailure_eq]
      simp [eq_comm]
    | some v' => simp [error_bind rfl]

/-- Calls without a denied request show their outcomes. -/
lemma sameOutcome_iff {m m' : Holdings RefKind} {o o' : Except ErrorValue UdevInfo} {d d' : Nat}
    {r r' : Option Error × Option UdevDevice} {s s' : System}
    (h : Ends m d (o.map some) r s) (h' : Ends m' d' (o'.map some) r' s')
    (granted : s.denials = d) (granted' : s'.denials = d') : SameOutcome r r' ↔ o = o' := by
  unfold SameOutcome
  obtain ⟨b, rfl, he, hx⟩ | ⟨v, rfl, he, hx⟩ := h.result granted
  · obtain ⟨b', rfl, he', hx'⟩ | ⟨v', rfl, he', hx'⟩ := h'.result granted'
    · simp [he, he', hx, hx']
    · simp [he, he']
  · obtain ⟨b', rfl, he', hx'⟩ | ⟨v', rfl, he', hx'⟩ := h'.result granted'
    · simp [he, he']
    · simp [he, he', hx, hx']

/-- `udevw_get_interface` returns from two enumerations with the same entries for a device, and gives
the same outcome exactly if it is disturbed alike by the entries of other devices. -/
theorem udevwGetInterface_undisturbed_iff {m m' : Holdings RefKind} {s s' : System} (held : s.Owns m)
    (held' : s'.Owns m') (udev udev' : Udev) {deviceSyspath : String} (interfaceNumber : UInt8)
    {own : UdevEntry → Bool} {entries entries' : List UdevEntry}
    (same : SameForDevice deviceSyspath own entries entries') :
    wp (udevwGetInterface (some udev) (some deviceSyspath) interfaceNumber ⟨true, 0, 0, entries⟩)
      (fun r t =>
        wp (udevwGetInterface (some udev') (some deviceSyspath) interfaceNumber
            ⟨true, 0, 0, entries'⟩)
          (fun r' t' => t.denials = s.denials → t'.denials = s'.denials →
            (SameOutcome r r' ↔ DisturbedAlike deviceSyspath interfaceNumber own entries entries'))
          s') s := by
  have ends := udevwGetInterface_ends ⟨held, rfl⟩ udev deviceSyspath interfaceNumber
    ⟨true, 0, 0, entries⟩
  have ends' := udevwGetInterface_ends ⟨held', rfl⟩ udev' deviceSyspath interfaceNumber
    ⟨true, 0, 0, entries'⟩
  apply wp_mono ends
  intro r t h
  apply wp_mono ends'
  intro r' t' h' granted granted'
  rw [← interfaceOutcome_eq_iff same]
  exact sameOutcome_iff h h' granted granted'

/-- One device alone, and behind one that is gone by the time it is looked up. -/
theorem udevwGetInterface_undisturbed_iff_example :
    let info : UdevInfo := {
      syspath := "/sys/devices/usb1/1-2/1-2:1.2"
      devtype := some "usb_interface"
      sysattr := fun name => if name = "bInterfaceNumber" then some "02" else none
      usbParent := some "/sys/devices/usb1/1-2"
      driver := none
      devnode := none
      subsystem := some "usb"
      property := fun _ => none
      isInitialized := true }
    let entry : UdevEntry := ⟨info.syspath, some info⟩
    let gone : UdevEntry := ⟨"/sys/devices/usb1/1-3", none⟩
    let s : System := ⟨⟨fun _ => true, 0, []⟩, 0, []⟩
    wp (udevwGetInterface (some ⟨0⟩) (some "/sys/devices/usb1/1-2") 2 ⟨true, 0, 0, [entry]⟩)
      (fun r t =>
        wp (udevwGetInterface (some ⟨0⟩) (some "/sys/devices/usb1/1-2") 2
            ⟨true, 0, 0, [gone, entry]⟩)
          (fun r' t' => t.denials = s.denials → t'.denials = s.denials →
            (SameOutcome r r' ↔ DisturbedAlike "/sys/devices/usb1/1-2" 2 (·.lookup.isSome)
              [entry] [gone, entry])) s) s := by
  intro info entry gone s
  have same : SameForDevice "/sys/devices/usb1/1-2" (·.lookup.isSome) [entry] [gone, entry] := by
    refine ⟨rfl, fun e _ other info found => ?_⟩
    rw [found] at other
    cases other
  exact udevwGetInterface_undisturbed_iff (.empty _) (.empty _) _ _ 2 same

/-- The search for an interface that is there fails because another device is gone. -/
theorem udevwGetInterface_disturbed :
    let info : UdevInfo := {
      syspath := "/sys/devices/usb1/1-2/1-2:1.2"
      devtype := some "usb_interface"
      sysattr := fun name => if name = "bInterfaceNumber" then some "02" else none
      usbParent := some "/sys/devices/usb1/1-2"
      driver := none
      devnode := none
      subsystem := some "usb"
      property := fun _ => none
      isInitialized := true }
    let entry : UdevEntry := ⟨info.syspath, some info⟩
    let gone : UdevEntry := ⟨"/sys/devices/usb1/1-3", none⟩
    let s : System := ⟨⟨fun _ => true, 0, []⟩, 0, []⟩
    SameForDevice "/sys/devices/usb1/1-2" (·.lookup.isSome) [entry] [gone, entry] ∧
      ∃ r t r' t',
        udevwGetInterface (some ⟨0⟩) (some "/sys/devices/usb1/1-2") 2 ⟨true, 0, 0, [entry]⟩ s =
          .ok (r, t) ∧
        udevwGetInterface (some ⟨0⟩) (some "/sys/devices/usb1/1-2") 2
          ⟨true, 0, 0, [gone, entry]⟩ s = .ok (r', t') ∧
        t.denials = 0 ∧ t'.denials = 0 ∧ ¬SameOutcome r r' := by
  intro info entry gone s
  refine ⟨⟨rfl, fun e _ other info found => ?_⟩, _, _, _, _, rfl, rfl, rfl, rfl, ?_⟩
  · rw [found] at other
    cases other
  · rintro ⟨errors, _⟩
    cases errors

end Libusbp.Linux
