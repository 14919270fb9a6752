import Libusbp.Windows.CompositeSearch

/-!
# The search for the node of an interface

What `get_interface` comes to, for a composite device and for any other. The node of a device that is
not composite is the device with the same device instance ID in one list.
-/

namespace Libusbp.Windows

open Prog Host

/-- What the loop of `get_interface_non_composite` makes of a device. -/
def DevInfo.verdict (formatMessage : UInt32 → String) (deviceInstanceId : String) (info : DevInfo) :
    Except ErrorValue (Option DevInfo) :=
  match info.instanceId with
  | .error errorCode =>
    .error (winapiError formatMessage errorCode "Failed to get device instance ID.")
  | .ok id => .ok (if id = deviceInstanceId then some info else none)

/-- The error at the end of the list. -/
def endOfList (formatMessage : UInt32 → String) (last : UInt32) : ErrorValue :=
  if last = errorNoMoreItems then .ofText "Failed to find device node."
  else winapiError formatMessage last "Failed to enumerate device info."

/-- What the loop of `get_interface_non_composite` comes to. -/
def deviceSearch (formatMessage : UInt32 → String) (deviceInstanceId : String)
    (devices : List DevInfo) (last : UInt32) : Except ErrorValue DevInfo := do
  match ← firstVerdict (DevInfo.verdict formatMessage deviceInstanceId) devices with
  | some info => .ok info
  | none => .error (endOfList formatMessage last)

/-- The outcome of `get_interface_non_composite`. -/
def nonCompositeOutcome (formatMessage : UInt32 → String) (deviceInstanceId : String)
    (os : InterfaceAnswers) : Except ErrorValue (DevInfoList × DevInfo) :=
  withContext
    (match os.usbDevices with
    | .error _ => .error (endOfList formatMessage errorInvalidHandle)
    | .ok list => (deviceSearch formatMessage deviceInstanceId list.devices list.last).map (list, ·))
    "Failed to find non-composite device node."

/-- The outcome of `get_interface`. -/
def nodeOutcome (formatMessage : UInt32 → String) (deviceInstanceId : String)
    (interfaceNumber : UInt8) (composite : Bool) (os : InterfaceAnswers) :
    Except ErrorValue (DevInfoList × DevInfo) :=
  if composite then compositeOutcome formatMessage interfaceNumber os
  else nonCompositeOutcome formatMessage deviceInstanceId os

/-- The devices that enumerating yields, and the error code behind them. -/
def enumerated (list : Option DevInfoSet) : List DevInfo × UInt32 :=
  list.elim ([], errorInvalidHandle) fun list => (list.contents.devices, list.contents.last)

variable {m : Holdings RefKind} {d : Nat} {s : System} {formatMessage : UInt32 → String}
  {deviceInstanceId : String} {strict : Bool} {newList : Option DevInfoSet}

lemma setupDiEnumDeviceInfo_eq (i : Nat) : setupDiEnumDeviceInfo newList i =
    (enumerated newList).1[i]?.elim (.error (enumerated newList).2) .ok := by
  cases newList with
  | none => rfl
  | some list => rfl

/-- Only a list that was opened yields devices. -/
lemma enumerated_some {i : Nat} (lt : i < (enumerated newList).1.length) :
    ∃ list, newList = some list := by
  cases newList with
  | none => exact absurd lt (Nat.not_lt_zero i)
  | some list => exact ⟨list, rfl⟩

/-- Behind a device that is passed over, the search goes on. -/
lemma deviceSearch_pass {info : DevInfo} {devices : List DevInfo} {last : UInt32}
    (h : info.verdict formatMessage deviceInstanceId = .ok none) :
    deviceSearch formatMessage deviceInstanceId (info :: devices) last =
      deviceSearch formatMessage deviceInstanceId devices last := by
  rw [deviceSearch, firstVerdict_pass h]
  rfl

/-- What the loop ended with, while the list is still open. -/
def Searched (m : Holdings RefKind) (d : Nat) (newList : Option DevInfoSet)
    (o : Except ErrorValue DevInfo) (r : Option Error × Option DevInfo) (s : System) : Prop :=
  match r with
  | (none, info) => ∃ list found, newList = some list ∧ info = some found ∧ o = .ok found ∧
    Holding (m + owned newList) d s
  | (some e, info) => info = none ∧ Raised (m + owned newList) d (fun v => o = .error v) e s

/-- A round looks at one device, and ends the search or passes it over. -/
lemma nonCompositeRound_searched (own : Holding (m + owned newList) d s)
    (allowed : (!strict || newList.isSome) = true) (i : Nat) :
    wp (nonCompositeRound strict formatMessage deviceInstanceId newList i) (fun r s' => match r with
      | .inl j => j = i + 1 ∧ i < (enumerated newList).1.length ∧
        deviceSearch formatMessage deviceInstanceId ((enumerated newList).1.drop (i + 1))
          (enumerated newList).2 =
        deviceSearch formatMessage deviceInstanceId ((enumerated newList).1.drop i)
          (enumerated newList).2 ∧ Holding (m + owned newList) d s'
      | .inr r => Searched m d newList (deviceSearch formatMessage deviceInstanceId
          ((enumerated newList).1.drop i) (enumerated newList).2) r s') s := by
  simp only [nonCompositeRound, enumDeviceInfo, wp_bind, wp_check, wp_pure]
  refine ⟨allowed, ?_⟩
  rw [setupDiEnumDeviceInfo_eq]
  cases h : (enumerated newList).1[i]? with
  | none =>
    rw [List.drop_eq_nil_of_le (List.getElem?_eq_none_iff.mp h)]
    simp only [Option.elim_none, wp_bind, wp_pure]
    -- the end of the list is an error here: the search ends at the device or fails
    by_cases last : (enumerated newList).2 = errorNoMoreItems
    · simp only [if_pos last]
      apply own.wp_create
      intro e s' r
      refine ⟨rfl, r.mono fun v hv => ?_⟩
      rw [hv, deviceSearch, endOfList, if_pos last]
      rfl
    · simp only [if_neg last]
      apply wp_createWinapiError own
      intro e s' r
      refine ⟨rfl, r.mono fun v hv => ?_⟩
      rw [hv, deviceSearch, endOfList, if_neg last]
      rfl
  | some info =>
    obtain ⟨lt, rfl⟩ := List.getElem?_eq_some_iff.mp h
    rw [List.drop_eq_getElem_cons lt]
    simp only [Option.elim_some]
    cases hi : ((enumerated newList).1[i]).instanceId with
    | error errorCode =>
      have verdict : ((enumerated newList).1[i]).verdict formatMessage deviceInstanceId =
          .error (winapiError formatMessage errorCode "Failed to get device instance ID.") := by
        rw [DevInfo.verdict, hi]
      simp only [wp_bind, wp_pure]
      apply wp_createWinapiError own
      intro e s' r
      refine ⟨rfl, r.mono fun v hv => ?_⟩
      rw [hv, deviceSearch, firstVerdict_stop (by rw [verdict]; rintro ⟨⟩), verdict]
      rfl
    | ok id =>
      simp only [wp_pure]
      by_cases same : id = deviceInstanceId
      · have verdict : ((enumerated newList).1[i]).verdict formatMessage deviceInstanceId =
            .ok (some (enumerated newList).1[i]) := by
          rw [DevInfo.verdict, hi]
          simp only [if_pos same]
        rw [if_pos same]
        obtain ⟨list, opened⟩ := enumerated_some lt
        refine ⟨list, _, opened, rfl, ?_, own⟩
        rw [deviceSearch, firstVerdict_stop (by rw [verdict]; rintro ⟨⟩), verdict]
        rfl
      · have verdict : ((enumerated newList).1[i]).verdict formatMessage deviceInstanceId =
            .ok none := by
          rw [DevInfo.verdict, hi]
          simp only [if_neg same]
        rw [if_neg same]
        exact ⟨rfl, lt, (deviceSearch_pass verdict).symm, own⟩

/-- The loop ends with what the search comes to. -/
lemma nonCompositeLoop_searched (own : Holding (m + owned newList) d s)
    (allowed : (!strict || newList.isSome) = true) :
    wp (loopWith .endless (nonCompositeRound strict formatMessage deviceInstanceId newList)
      (deviceCount newList + 1) 0)
      (Searched m d newList (deviceSearch formatMessage deviceInstanceId (enumerated newList).1
        (enumerated newList).2)) s := by
  have count : (enumerated newList).1.length = deviceCount newList := by
    cases newList with
    | none => rfl
    | some list => rfl
  apply wp_loopWith (fun i s => deviceSearch formatMessage deviceInstanceId
      ((enumerated newList).1.drop i) (enumerated newList).2 =
      deviceSearch formatMessage deviceInstanceId (enumerated newList).1 (enumerated newList).2 ∧
      Holding (m + owned newList) d s) fun i => (enumerated newList).1.length - i
  · intro i s₁ ⟨same, own₁⟩
    apply wp_mono (nonCompositeRound_searched own₁ allowed i)
    intro r s₂ round
    cases r with
    | inl j =>
      obtain ⟨rfl, lt, passed, own₂⟩ := round
      exact ⟨⟨passed.trans same, own₂⟩, by omega⟩
    | inr r =>
      rw [same] at round
      exact round
  · rw [count]
    omega
  · exact ⟨by rw [List.drop_zero], own⟩

/-- The list of the device is handed out, and with an error it is closed. -/
lemma Searched.ends {o : Except ErrorValue DevInfo} {o' : Except ErrorValue (DevInfoList × DevInfo)}
    {r : Option Error × Option DevInfo} (searched : Searched m d newList o r s)
    (found : ∀ list info, newList = some list → o = .ok info → o' = .ok (list.contents, info))
    (failed : ∀ v, o = .error v → o' = .error v) :
    wp (do
      let node := do pure (⟨← newList, ← r.2⟩ : InterfaceNode)
      setupDiDestroyDeviceInfoList (if node.isSome then none else newList)
      let error ← addContext r.1 "Failed to find non-composite device node."
      pure (error, node))
      (Ends m d ((withContext o' "Failed to find non-composite device node.").map some)) s := by
  obtain ⟨_ | e, info⟩ := r
  · obtain ⟨list, info, rfl, rfl, outcome, own⟩ := searched
    rw [found list info rfl outcome]
    simp only [wp_bind, wp_pure]
    exact wp_pure.mpr (wp_pure.mpr ⟨rfl, own⟩)
  · obtain ⟨rfl, raised⟩ := searched
    have null : (do pure (⟨← newList, ← (none : Option DevInfo)⟩ : InterfaceNode)) = none := by
      cases newList with
      | none => rfl
      | some list => rfl
    simp only [null, Option.isSome_none, Bool.false_eq_true, if_false, wp_bind, wp_pure]
    apply setupDiDestroyDeviceInfoList_givesBack.wp_raised raised
    intro s₁ raised
    simp only [addContext, Option.isSome_some, if_true]
    apply raised.wp_add
    intro e' s₂ raised
    refine ⟨rfl, raised.mono ?_⟩
    rintro _ ⟨v, hv, rfl⟩
    rw [failed v hv]
    rfl

/-- `get_interface_non_composite` ends with the list of the device, or with an error and nothing else. A
strict run does so if the list can be opened. -/
lemma getInterfaceNonComposite_ends (own : Holding m d s) {os : InterfaceAnswers}
    (allowed : strict = true → os.usbDevices.isOk = true) :
    wp (getInterfaceNonComposite strict formatMessage deviceInstanceId os)
      (Ends m d ((nonCompositeOutcome formatMessage deviceInstanceId os).map some)) s := by
  rw [getInterfaceNonComposite, wp_bind, nonCompositeOutcome]
  cases answer : os.usbDevices with
  | error errorCode =>
    have lax : strict = false := by
      cases strict with
      | false => rfl
      | true =>
        have opened := allowed rfl
        rw [answer] at opened
        cases opened
    have own : Holding (m + owned (none : Option DevInfoSet)) d s := own.of_eq (add_zero m).symm
    rw [setupDiGetClassDevs, wp_pure, wp_bind]
    apply wp_mono (nonCompositeLoop_searched own (by rw [lax]; rfl))
    intro r s₁ searched
    apply searched.ends
    · rintro list info ⟨⟩
    · rintro v ⟨⟩
      rfl
  | ok contents =>
    apply wp_setupDiGetClassDevs own
    · intro list s₁ eq own₁
      cases eq
      rw [wp_bind]
      have own₁ : Holding (m + owned (some list)) d s₁ := own₁
      apply wp_mono (nonCompositeLoop_searched own₁ (by rw [Bool.or_eq_true]; exact .inr rfl))
      intro r s₂ searched
      apply searched.ends
      · rintro _ info ⟨⟩ outcome
        exact congrArg (Except.map (Prod.mk list.contents)) outcome
      · intro v outcome
        exact congrArg (Except.map (Prod.mk list.contents)) outcome
    · rintro errorCode ⟨⟩

/-- `get_interface` ends with the list and the device of the node, or with an error and nothing else. -/
lemma getInterface_ends (own : Holding m d s) (interfaceNumber : UInt8) (composite : Bool)
    (os : InterfaceAnswers) :
    wp (getInterface formatMessage (some deviceInstanceId) interfaceNumber composite os)
      (Ends m d ((nodeOutcome formatMessage deviceInstanceId interfaceNumber composite os).map some))
      s := by
  simp only [getInterface, nodeOutcome, expect, pure_bind]
  cases composite with
  | true => exact wp_mono (getInterfaceComposite_comes own) fun r s' comes => comes.ends
  | false => exact getInterfaceNonComposite_ends own (by rintro ⟨⟩)

end Libusbp.Windows
