import Libusbp.Windows.Interface

/-!
# The search for an interface of a composite device

The loop of `get_interface_composite` opens three lists one after the other and restarts its index in
each of them. It comes to a search through one sequence of probes: the devices of the first list, its
end, the devices of the second list, and so on. Every round settles the next probe (`remaining`).
-/

namespace Libusbp.Windows

open Prog Host

/-- What a round of the search looks at. -/
inductive Probe where
  /-- a list that cannot be opened -/
  | unopened (listIndex : Nat) (errorCode : UInt32)
  | device (list : DevInfoList) (info : DevInfo)
  | listEnd (last : UInt32)

/-- The probes of the list with the given index. -/
def listProbes (listIndex : Nat) : Except UInt32 DevInfoList → List Probe
  | .error errorCode => [.unopened listIndex errorCode]
  | .ok list => list.devices.map (.device list) ++ [.listEnd list.last]

/-- The probes from the list with the given index on. -/
def InterfaceAnswers.probesFrom (os : InterfaceAnswers) (listIndex : Nat) : List Probe :=
  (os.lists.zipIdx.drop listIndex).flatMap fun answer => listProbes answer.2 answer.1

/-- What the search makes of a probe. -/
def Probe.verdict (formatMessage : UInt32 → String) (devInst : UInt32) (interfaceNumber : UInt8) :
    Probe → Except ErrorValue (Option (DevInfoList × DevInfo))
  | .unopened listIndex errorCode => .error (winapiError formatMessage errorCode
    s!"Failed to list devices to find an interface ({listIndex}).")
  | .listEnd last =>
    if last = errorNoMoreItems then .ok none
    else .error (winapiError formatMessage last "Failed to get device info to find an interface.")
  | .device list info =>
    match info.parent with
    | .error cr => .error (crError cr "Failed to get parent of an interface.")
    | .ok parentDevInst =>
      if parentDevInst ≠ devInst then .ok none
      else match info.deviceId with
        | .error cr =>
          .error (crError cr "Failed to get device instance ID while finding an interface.")
        | .ok deviceId =>
          if actualInterfaceNumber deviceId ≠ some interfaceNumber.toUInt32 then .ok none
          else .ok (some (list, info))

/-- What a search through the probes comes to. -/
def probesOutcome (formatMessage : UInt32 → String) (devInst : UInt32) (interfaceNumber : UInt8)
    (probes : List Probe) : Except ErrorValue (DevInfoList × DevInfo) := do
  let found ← firstVerdict (Probe.verdict formatMessage devInst interfaceNumber) probes
  orNotReady s!"Could not find interface {interfaceNumber}." found

/-- The outcome of `get_interface_composite`. -/
def compositeOutcome (formatMessage : UInt32 → String) (interfaceNumber : UInt8)
    (os : InterfaceAnswers) : Except ErrorValue (DevInfoList × DevInfo) :=
  match os.locateDevNode with
  | .error cr => .error (crError cr "Failed to get device node in order to find an interface.")
  | .ok devInst => probesOutcome formatMessage devInst interfaceNumber (os.probesFrom 0)

/-- The probes that are left, from the next round on. -/
def remaining (os : InterfaceAnswers) (l : CompositeVars) : List Probe :=
  match l.newList with
  | none => os.probesFrom l.listIndex
  | some list => (list.contents.devices.drop l.i).map (.device list.contents) ++
    .listEnd list.contents.last :: os.probesFrom (l.listIndex + 1)

variable {m : Holdings RefKind} {d : Nat} {s : System} {formatMessage : UInt32 → String}
  {devInst : UInt32} {interfaceNumber : UInt8} {os : InterfaceAnswers} {l : CompositeVars}

lemma remaining_open {listIndex i : Nat} {list : DevInfoSet} :
    remaining os ⟨listIndex, some list, i⟩ =
      (list.contents.devices.drop i).map (.device list.contents) ++
        .listEnd list.contents.last :: os.probesFrom (listIndex + 1) := rfl

lemma probesFrom_none (h : os.lists[l.listIndex]? = none) : os.probesFrom l.listIndex = [] := by
  have beyond : os.lists.zipIdx.length ≤ l.listIndex := by
    rw [List.length_zipIdx]
    exact List.getElem?_eq_none_iff.mp h
  rw [InterfaceAnswers.probesFrom, List.drop_eq_nil_of_le beyond, List.flatMap_nil]

lemma probesFrom_some {answer : Except UInt32 DevInfoList}
    (h : os.lists[l.listIndex]? = some answer) :
    os.probesFrom l.listIndex = listProbes l.listIndex answer ++ os.probesFrom (l.listIndex + 1) := by
  obtain ⟨lt, rfl⟩ := List.getElem?_eq_some_iff.mp h
  have lt' : l.listIndex < os.lists.zipIdx.length := by rwa [List.length_zipIdx]
  rw [InterfaceAnswers.probesFrom, List.drop_eq_getElem_cons lt', List.flatMap_cons,
    List.getElem_zipIdx, Nat.zero_add]
  rfl

/-- Behind a probe that is passed over, the search goes on. -/
lemma probesOutcome_pass {probe : Probe} {probes : List Probe}
    (h : probe.verdict formatMessage devInst interfaceNumber = .ok none) :
    probesOutcome formatMessage devInst interfaceNumber (probe :: probes) =
      probesOutcome formatMessage devInst interfaceNumber probes := by
  rw [probesOutcome, firstVerdict_pass h]
  rfl

/-- A probe that fails ends the search. -/
lemma probesOutcome_error {probe : Probe} {probes : List Probe} {v : ErrorValue}
    (h : probe.verdict formatMessage devInst interfaceNumber = .error v) :
    probesOutcome formatMessage devInst interfaceNumber (probe :: probes) = .error v := by
  rw [probesOutcome, firstVerdict_stop (by rw [h]; rintro ⟨⟩), error_bind h]

/-- A device that is found ends the search. -/
lemma probesOutcome_found {probe : Probe} {probes : List Probe} {found : DevInfoList × DevInfo}
    (h : probe.verdict formatMessage devInst interfaceNumber = .ok (some found)) :
    probesOutcome formatMessage devInst interfaceNumber (probe :: probes) = .ok found := by
  rw [probesOutcome, firstVerdict_stop (by rw [h]; rintro ⟨⟩), ok_bind h]
  rfl

/-- A list is open for the second part of the round, with the same probes left, or the search ended. -/
lemma openNext_opens (own : Holding (m + owned l.newList) d s) (devInst : UInt32) :
    wp (openNext formatMessage interfaceNumber os l) (fun r s' => match r with
      | .inl l' => l'.newList.isSome ∧ remaining os l' = remaining os l ∧
        Holding (m + owned l'.newList) d s'
      | .inr error => Comes m d (probesOutcome formatMessage devInst interfaceNumber (remaining os l))
        (error, (none : Option InterfaceNode)) s') s := by
  obtain ⟨listIndex, newList, i⟩ := l
  cases newList with
  | some list => exact wp_pure.mpr ⟨rfl, rfl, own⟩
  | none =>
    have own : Holding m d s := own.of_eq (add_zero m)
    simp only [openNext]
    cases h : os.lists[listIndex]? with
    | none =>
      have none_left : remaining os ⟨listIndex, none, i⟩ = [] :=
        probesFrom_none (l := ⟨listIndex, none, i⟩) h
      have error : wp (notReadyUnless false s!"Could not find interface {interfaceNumber}.")
          (Checked m d (.error (notReadyError s!"Could not find interface {interfaceNumber}."))) s :=
        notReadyUnless_checked own _
      simp only [notReadyUnless, Bool.false_eq_true, if_false] at error
      rw [wp_bind]
      apply wp_mono error
      rintro (_ | e) s₁ checked
      · exact absurd checked.1 (by rintro ⟨⟩)
      · rw [wp_pure, none_left]
        exact ⟨e, rfl, Raised.mono checked fun _ hv => (Except.error.inj hv).symm⟩
    | some answer =>
      have left : remaining os ⟨listIndex, none, i⟩ =
          listProbes listIndex answer ++ os.probesFrom (listIndex + 1) :=
        probesFrom_some (l := ⟨listIndex, none, i⟩) h
      rw [left]
      simp only [wp_bind]
      apply wp_setupDiGetClassDevs own
      · rintro list s₁ rfl own₁
        refine wp_pure.mpr ⟨rfl, ?_, own₁⟩
        rw [remaining_open, listProbes, List.append_assoc, List.singleton_append, List.drop_zero]
      · rintro errorCode rfl
        simp only [wp_bind, wp_pure]
        apply wp_createWinapiError own
        intro e s₁ r
        have outcome : probesOutcome formatMessage devInst interfaceNumber
            (listProbes listIndex (.error errorCode) ++ os.probesFrom (listIndex + 1)) = .error _ :=
          probesOutcome_error rfl
        rw [outcome]
        exact ⟨e, rfl, r⟩

/-- A round settled the first of these probes: fewer are left that come to the same, or the search
ended as they say. -/
def Settles (formatMessage : UInt32 → String) (devInst : UInt32) (interfaceNumber : UInt8)
    (os : InterfaceAnswers) (m : Holdings RefKind) (d : Nat) (probes : List Probe)
    (r : CompositeVars ⊕ (Option Error × Option InterfaceNode)) (s : System) : Prop :=
  match r with
  | .inl l => (remaining os l).length < probes.length ∧
    probesOutcome formatMessage devInst interfaceNumber (remaining os l) =
      probesOutcome formatMessage devInst interfaceNumber probes ∧ Holding (m + owned l.newList) d s
  | .inr r => Comes m d (probesOutcome formatMessage devInst interfaceNumber probes) r s

/-- A search that goes on behind a probe that is passed over. -/
lemma Settles.pass {probe : Probe} (verdict : probe.verdict formatMessage devInst interfaceNumber = .ok none)
    (own : Holding (m + owned l.newList) d s) :
    Settles formatMessage devInst interfaceNumber os m d (probe :: remaining os l) (.inl l) s :=
  ⟨Nat.lt_succ_self _, (probesOutcome_pass verdict).symm, own⟩

/-- A search that ends with the error of a probe. -/
lemma Settles.raise {probe : Probe} {probes : List Probe} {v : ErrorValue} {e : Error}
    (verdict : probe.verdict formatMessage devInst interfaceNumber = .error v)
    (r : Raised m d (· = v) e s) :
    Settles formatMessage devInst interfaceNumber os m d (probe :: probes) (.inr (some e, none)) s := by
  rw [Settles, probesOutcome_error verdict]
  exact ⟨e, rfl, r⟩

section Look

variable {listIndex i : Nat} {list : DevInfoSet}

/-- The round at the end of a list. -/
lemma lookAtDevice_listEnd (own : Holding (m + owned (some list)) d s) (os : InterfaceAnswers)
    (h : list.contents.devices[i]? = none) :
    wp (lookAtDevice formatMessage devInst interfaceNumber ⟨listIndex, some list, i⟩)
      (Settles formatMessage devInst interfaceNumber os m d
        (remaining os ⟨listIndex, some list, i⟩)) s := by
  simp only [lookAtDevice, expect, pure_bind, setupDiEnumDeviceInfo, h]
  have left : remaining os ⟨listIndex, some list, i⟩ =
      .listEnd list.contents.last :: os.probesFrom (listIndex + 1) := by
    rw [remaining_open, List.drop_eq_nil_of_le (List.getElem?_eq_none_iff.mp h)]
    rfl
  rw [left]
  apply wp_ite
  · intro last
    have verdict : (Probe.listEnd list.contents.last).verdict formatMessage devInst
        interfaceNumber = .ok none := if_pos last
    simp only [wp_bind, wp_pure]
    apply setupDiDestroyDeviceInfoList_givesBack.wp own
    intro s₁ own₁
    exact .pass (l := ⟨listIndex + 1, none, i⟩) verdict (own₁.of_eq (add_zero m).symm)
  · intro last
    have verdict : (Probe.listEnd list.contents.last).verdict formatMessage devInst
        interfaceNumber = .error _ := if_neg last
    simp only [wp_bind, wp_pure]
    apply wp_createWinapiError own
    intro e s₁ r
    apply setupDiDestroyDeviceInfoList_givesBack.wp_raised r
    exact fun s₂ r' => .raise verdict r'

/-- The round at a device. -/
lemma lookAtDevice_device (own : Holding (m + owned (some list)) d s) (os : InterfaceAnswers)
    {info : DevInfo} (h : list.contents.devices[i]? = some info) :
    wp (lookAtDevice formatMessage devInst interfaceNumber ⟨listIndex, some list, i⟩)
      (Settles formatMessage devInst interfaceNumber os m d
        (remaining os ⟨listIndex, some list, i⟩)) s := by
  simp only [lookAtDevice, expect, pure_bind, setupDiEnumDeviceInfo, h]
  have left : remaining os ⟨listIndex, some list, i⟩ =
      .device list.contents info :: remaining os ⟨listIndex, some list, i + 1⟩ := by
    obtain ⟨lt, rfl⟩ := List.getElem?_eq_some_iff.mp h
    rw [remaining_open, List.drop_eq_getElem_cons lt]
    rfl
  rw [left]
  -- the verdict follows the branches of the round
  simp only [Option.elim_some]
  cases hp : info.parent with
  | error cr =>
    have verdict : (Probe.device list.contents info).verdict formatMessage devInst
        interfaceNumber = .error (crError cr "Failed to get parent of an interface.") := by
      simp only [Probe.verdict, hp]
    simp only [wp_bind, wp_pure]
    apply setupDiDestroyDeviceInfoList_givesBack.wp own
    intro s₁ own₁
    apply wp_createCrError own₁
    exact fun e s₂ r => .raise verdict r
  | ok parentDevInst =>
    dsimp only
    apply wp_ite
    · intro other
      have verdict : (Probe.device list.contents info).verdict formatMessage devInst
          interfaceNumber = .ok none := by
        simp only [Probe.verdict, hp, if_pos other]
      exact wp_pure.mpr (.pass verdict own)
    intro child
    cases hd : info.deviceId with
    | error cr =>
      have verdict : (Probe.device list.contents info).verdict formatMessage devInst
          interfaceNumber =
            .error (crError cr "Failed to get device instance ID while finding an interface.") := by
        simp only [Probe.verdict, hp, if_neg child, hd]
      simp only [wp_bind, wp_pure]
      apply wp_createCrError own
      intro e s₁ r
      apply setupDiDestroyDeviceInfoList_givesBack.wp_raised r
      exact fun s₂ r' => .raise verdict r'
    | ok deviceId =>
      dsimp only
      apply wp_ite
      · intro other
        have verdict : (Probe.device list.contents info).verdict formatMessage devInst
            interfaceNumber = .ok none := by
          simp only [Probe.verdict, hp, if_neg child, hd, if_pos other]
        exact wp_pure.mpr (.pass verdict own)
      · intro same
        have verdict : (Probe.device list.contents info).verdict formatMessage devInst
            interfaceNumber = .ok (some (list.contents, info)) := by
          simp only [Probe.verdict, hp, if_neg child, hd, if_neg same]
        rw [wp_pure, Settles, probesOutcome_found verdict]
        exact ⟨_, rfl, rfl, own⟩

end Look

/-- The second part of a round settles the next probe. -/
lemma lookAtDevice_settles {list : DevInfoSet} (opened : l.newList = some list)
    (own : Holding (m + owned l.newList) d s) (os : InterfaceAnswers) :
    wp (lookAtDevice formatMessage devInst interfaceNumber l)
      (Settles formatMessage devInst interfaceNumber os m d (remaining os l)) s := by
  obtain ⟨listIndex, _, i⟩ := l
  obtain rfl := opened
  cases h : list.contents.devices[i]? with
  | none => exact lookAtDevice_listEnd own os h
  | some info => exact lookAtDevice_device own os h

/-- Each device has a round, and so has the end of each list and the end of the search. -/
lemma length_probes (os : InterfaceAnswers) : (os.probesFrom 0).length < os.rounds := by
  have each : ∀ (j : Nat) (answer : Except UInt32 DevInfoList), (listProbes j answer).length =
      answer.toOption.elim 0 (·.devices.length) + 1 := by
    intro j answer
    cases answer with
    | error errorCode => rfl
    | ok list => simp [listProbes, Except.toOption]
  simp [InterfaceAnswers.probesFrom, InterfaceAnswers.rounds, InterfaceAnswers.lists, each]

/-- `get_interface_composite` ends, with the list of the first match or with an error and nothing else. -/
lemma getInterfaceComposite_comes (own : Holding m d s) :
    wp (getInterfaceComposite formatMessage interfaceNumber os)
      (Comes m d (compositeOutcome formatMessage interfaceNumber os)) s := by
  unfold getInterfaceComposite compositeOutcome
  cases os.locateDevNode with
  | error cr =>
    simp only [wp_bind, wp_pure]
    apply wp_createCrError own
    exact fun e s₁ r => ⟨e, rfl, r⟩
  | ok devInst =>
    apply wp_loopWith (fun l s => probesOutcome formatMessage devInst interfaceNumber (remaining os l) =
      probesOutcome formatMessage devInst interfaceNumber (os.probesFrom 0) ∧
      Holding (m + owned l.newList) d s) fun l => (remaining os l).length
    · rintro l s₁ ⟨same, own₁⟩
      simp only [compositeRound, wp_bind]
      apply wp_mono (openNext_opens own₁ devInst)
      rintro (l₂ | error) s₂ opens
      · obtain ⟨opened, left, own₂⟩ := opens
        obtain ⟨list, opened⟩ := Option.isSome_iff_exists.mp opened
        apply wp_mono (lookAtDevice_settles opened own₂ os)
        rintro (l₃ | r) s₃ settles
        · obtain ⟨lt, same', own₃⟩ := settles
          rw [left] at lt same'
          exact ⟨⟨same'.trans same, own₃⟩, lt⟩
        · rw [left] at settles
          rwa [← same]
      · rw [wp_pure]
        rwa [← same]
    · exact length_probes os
    · exact ⟨rfl, own.of_eq (add_zero m).symm⟩

/-- A child of the device whose device instance ID yields the interface number. -/
def DevInfo.isInterface (devInst : UInt32) (interfaceNumber : UInt8) (info : DevInfo) : Bool :=
  match info.parent, info.deviceId with
  | .ok parentDevInst, .ok deviceId => parentDevInst = devInst ∧
    actualInterfaceNumber deviceId = some interfaceNumber.toUInt32
  | _, _ => false

/-- The entries of all lists in order, each with its list. -/
def InterfaceAnswers.entries (os : InterfaceAnswers) : List (DevInfoList × DevInfo) :=
  os.lists.flatMap fun answer => answer.toOption.elim [] fun list => list.devices.map (list, ·)

/-- Whether a call that is made for a probe fails. The device instance ID is read of children only. -/
def Probe.fails (devInst : UInt32) : Probe → Bool
  | .unopened _ _ => true
  | .listEnd last => last ≠ errorNoMoreItems
  | .device _ info =>
    match info.parent with
    | .error _ => true
    | .ok parentDevInst => parentDevInst = devInst ∧ info.deviceId.toOption.isNone

/-- Whether a probe is the interface. -/
def Probe.isMatch (devInst : UInt32) (interfaceNumber : UInt8) : Probe → Bool
  | .device _ info => info.isInterface devInst interfaceNumber
  | .unopened _ _ | .listEnd _ => false

/-- No call of the search fails, up to the match. -/
def InterfaceAnswers.Calm (os : InterfaceAnswers) (devInst : UInt32) (interfaceNumber : UInt8) : Prop :=
  ∀ probe ∈ (os.probesFrom 0).takeWhile fun probe => !probe.isMatch devInst interfaceNumber,
    probe.fails devInst = false

instance (os : InterfaceAnswers) (devInst : UInt32) (interfaceNumber : UInt8) :
    Decidable (os.Calm devInst interfaceNumber) := inferInstanceAs (Decidable (∀ _ ∈ _, _))

/-- What the search finds at a device is what it looks for. -/
lemma foundAt_device {list : DevInfoList} {info : DevInfo} :
    foundAt (Probe.verdict formatMessage devInst interfaceNumber) (.device list info) =
      if info.isInterface devInst interfaceNumber then some (list, info) else none := by
  cases hp : info.parent with
  | error cr => simp [foundAt, Probe.verdict, DevInfo.isInterface, hp]
  | ok parentDevInst =>
    by_cases child : parentDevInst = devInst
    · cases hd : info.deviceId with
      | error cr => simp [foundAt, Probe.verdict, DevInfo.isInterface, hp, hd, child]
      | ok deviceId =>
        by_cases same : actualInterfaceNumber deviceId = some interfaceNumber.toUInt32 <;>
          simp [foundAt, Probe.verdict, DevInfo.isInterface, hp, hd, child, same]
    · cases hd : info.deviceId <;> simp [foundAt, Probe.verdict, DevInfo.isInterface, hp, hd, child]

lemma foundAt_listEnd {last : UInt32} :
    foundAt (Probe.verdict formatMessage devInst interfaceNumber) (.listEnd last) = none := by
  by_cases end_ : last = errorNoMoreItems <;> simp [foundAt, Probe.verdict, end_]

lemma foundAt_isNone {probe : Probe} :
    (foundAt (Probe.verdict formatMessage devInst interfaceNumber) probe).isNone =
      !probe.isMatch devInst interfaceNumber := by
  cases probe with
  | unopened listIndex errorCode => rfl
  | listEnd last => rw [foundAt_listEnd]; rfl
  | device list info =>
    rw [foundAt_device, Probe.isMatch]
    cases info.isInterface devInst interfaceNumber <;> rfl

/-- A probe without a failing call does not fail. -/
lemma failureAt_none {probe : Probe} (calm : probe.fails devInst = false) :
    failureAt (Probe.verdict formatMessage devInst interfaceNumber) probe = none := by
  cases probe with
  | unopened listIndex errorCode => exact absurd calm (by simp [Probe.fails])
  | listEnd last =>
    have last : last = errorNoMoreItems := by simpa [Probe.fails] using calm
    simp [failureAt, Probe.verdict, last]
  | device list info =>
    cases hp : info.parent with
    | error cr => simp [Probe.fails, hp] at calm
    | ok parentDevInst =>
      by_cases child : parentDevInst = devInst
      · cases hd : info.deviceId with
        | error cr => simp [Probe.fails, hp, hd, child, Except.toOption] at calm
        | ok deviceId =>
          by_cases same : actualInterfaceNumber deviceId = some interfaceNumber.toUInt32 <;>
            simp [failureAt, Probe.verdict, hp, hd, child, same]
      · simp [failureAt, Probe.verdict, hp, child]

/-- The search finds the first match among the entries of all lists. -/
lemma probes_findSome (formatMessage : UInt32 → String) (os : InterfaceAnswers) :
    (os.probesFrom 0).findSome? (foundAt (Probe.verdict formatMessage devInst interfaceNumber)) =
      os.entries.find? fun entry => entry.2.isInterface devInst interfaceNumber := by
  have devices : ∀ (list : DevInfoList) (infos : List DevInfo),
      (infos.map (Probe.device list)).findSome?
          (foundAt (Probe.verdict formatMessage devInst interfaceNumber)) =
        (infos.map (list, ·)).find? fun entry => entry.2.isInterface devInst interfaceNumber := by
    intro list infos
    induction infos with
    | nil => rfl
    | cons info infos ih =>
      simp only [List.map_cons, List.findSome?_cons, List.find?_cons, foundAt_device, ih]
      cases info.isInterface devInst interfaceNumber <;> rfl
  have each : ∀ (j : Nat) (answer : Except UInt32 DevInfoList),
      (listProbes j answer).findSome?
          (foundAt (Probe.verdict formatMessage devInst interfaceNumber)) =
        (answer.toOption.elim [] fun list => list.devices.map (list, ·)).find?
          fun entry => entry.2.isInterface devInst interfaceNumber := by
    intro j answer
    cases answer with
    | error errorCode => rfl
    | ok list =>
      rw [listProbes, List.findSome?_append, devices, List.findSome?_singleton, foundAt_listEnd,
        Option.or_none]
      rfl
  simp only [InterfaceAnswers.probesFrom, InterfaceAnswers.entries, InterfaceAnswers.lists,
    List.zipIdx_cons, List.zipIdx_nil, List.drop_zero, List.flatMap_cons, List.flatMap_nil,
    List.findSome?_append, List.find?_append, each, List.findSome?_nil, List.find?_nil]

/-- If no call fails up to the match, the outcome is the first match, or that there is none. -/
lemma compositeOutcome_calm (located : os.locateDevNode = .ok devInst)
    (calm : os.Calm devInst interfaceNumber) :
    compositeOutcome formatMessage interfaceNumber os =
      orNotReady s!"Could not find interface {interfaceNumber}."
        (os.entries.find? fun entry => entry.2.isInterface devInst interfaceNumber) := by
  have found : firstVerdict (Probe.verdict formatMessage devInst interfaceNumber) (os.probesFrom 0) =
      .ok (os.entries.find? fun entry => entry.2.isInterface devInst interfaceNumber) := by
    rw [← probes_findSome formatMessage]
    apply firstVerdict_found
    intro probe mem
    simp only [foundAt_isNone] at mem
    exact failureAt_none (calm probe mem)
  simp only [compositeOutcome, located, probesOutcome, ok_bind found]

/-- `get_interface_composite` always ends. If no call fails up to the match, it returns the first entry
of the three lists that is the interface, in its list, or an error with the code
`LIBUSBP_ERROR_NOT_READY` (unless a request for the memory of the error is denied). Whatever calls fail,
every list that was opened and is not handed out was destroyed exactly once, and with an error none is
handed out. -/
theorem getInterfaceComposite_searches (own : s.Owns m) (formatMessage : UInt32 → String)
    (interfaceNumber : UInt8) (os : InterfaceAnswers) :
    wp (getInterfaceComposite formatMessage interfaceNumber os) (fun r s' => Releases m r s' ∧
      ∀ devInst, os.locateDevNode = .ok devInst → os.Calm devInst interfaceNumber →
        match os.entries.find? fun entry => entry.2.isInterface devInst interfaceNumber with
        | some entry => r.1 = none ∧ r.2.map content = some entry
        | none => ∃ e, r.1 = some e ∧
          ((ErrorCode.notReady : UInt32) ∈ e.value.codes ∨ s.denials < s'.denials)) s := by
  apply wp_mono (getInterfaceComposite_comes ⟨own, rfl⟩)
  intro r s' comes
  refine ⟨comes.ends.releases, fun devInst located calm => ?_⟩
  rw [compositeOutcome_calm located calm] at comes
  cases h : os.entries.find? fun entry => entry.2.isInterface devInst interfaceNumber with
  | some entry =>
    rw [h] at comes
    obtain ⟨node, rfl, same, _⟩ := comes
    exact ⟨rfl, congrArg some same⟩
  | none =>
    rw [h] at comes
    obtain ⟨e, rfl, raised⟩ := comes
    refine ⟨e, rfl, ?_⟩
    rcases raised.value with ⟨_, value⟩ | ⟨denied, _⟩
    · rw [value]
      exact .inl List.mem_concat_self
    · exact .inr denied

/-- The interface 2 of the device 7 is behind an interface of another device and the interface 0. -/
theorem getInterfaceComposite_searches_example :
    let node (parent : UInt32) (deviceId : String) : DevInfo :=
      { devInst := 1
        instanceId := .ok deviceId
        hardwareIds := ⟨none, 0, .error errorInvalidData⟩
        parent := .ok parent
        deviceId := .ok deviceId }
    let found := node 7 "USB\\VID_1FFB&PID_2300&MI_02\\6&2A5C"
    let list : DevInfoList := ⟨[node 8 "USB\\VID_1FFB&PID_2300&MI_02\\6&1111",
      node 7 "USB\\VID_1FFB&PID_2300&MI_00\\6&2A5C", found], errorNoMoreItems, by decide⟩
    let os : InterfaceAnswers := ⟨.ok list, .ok 7, .ok list, .error errorInvalidHandle, .ok list⟩
    let s : System := ⟨⟨fun _ => false, 0, []⟩, 0, []⟩
    wp (getInterfaceComposite (fun _ => "") 2 os)
      (fun r _ => r.1 = none ∧ r.2.map content = some (list, found)) s := by
  intro node found list os s
  apply wp_mono (getInterfaceComposite_searches (m := 0) (.empty _) (fun _ => "") 2 os)
  rintro r s' ⟨_, searches⟩
  have first : os.entries.find? (fun entry => entry.2.isInterface 7 2) = some (list, found) := rfl
  have searched := searches 7 rfl (by decide +kernel)
  rwa [first] at searched

end Libusbp.Windows
