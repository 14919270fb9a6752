import Libusbp.Windows.Copying
import Libusbp.Windows.HandleDiscipline

/-!
# Creating a generic interface on Windows

What the steps of `generic_interface_initialize` hold, and the condition under which they close the key
and the list that they open.
-/

namespace Libusbp.Windows

open Prog Host

/-- Whether `get_first_device_interface_guid` closes its key and reads a string that ends. -/
def GuidAnswers.closesKey (os : GuidAnswers) (h : Heap) : Bool :=
  os.bufferSize.all fun size => h.grant h.next &&
    match regQueryValueEx os.stored size.toNat with
    | .error _ => true
    | .ok value => value.dataType ≠ regMultiSz || (wideChars value.bytes).contains 0

/-- Whether `get_filename_from_devinst_and_guid` closes its list. -/
def FilenameAnswers.closesList (os : FilenameAnswers) (devinst : UInt32) (h : Heap) : Bool :=
  !os.asksForDetails devinst || h.grant h.next

section

variable (formatMessage : UInt32 → String) (device : Box Device) (interfaceNumber : UInt8)
  (composite : Bool) (os : GenericInterfaceAnswers)

/-- The steps of `generic_interface_initialize` up to the one that checks the driver. -/
def nodeSteps : List (GenericInterfaceVars → Prog Fault System (Option Error × GenericInterfaceVars)) :=
  (initializeSteps formatMessage device interfaceNumber composite os).take 4

/-- The steps behind them. -/
def filenameSteps :
    List (GenericInterfaceVars → Prog Fault System (Option Error × GenericInterfaceVars)) :=
  (initializeSteps formatMessage device interfaceNumber composite os).drop 4

/-- Whether the steps close what they open, in the state in which they begin. -/
def initializeCloses (s : System) : Bool :=
  match stages (nodeSteps formatMessage device interfaceNumber composite os)
    { gi := { interfaceNumber } } s with
  | .ok ((none, { node := some node, .. }), s₁) =>
    (os.guids node.info).closesKey s₁.heap &&
      match getFirstDeviceInterfaceGuid formatMessage (os.guids node.info) s₁ with
      | .ok ((none, guid), s₂) => (os.filename guid).closesList node.info.devInst s₂.heap
      | _ => true
  | _ => true

end

/-- Whether `libusbp_generic_interface_create` closes what it opens. -/
def createCloses (formatMessage : UInt32 → String) (device : Option (Box Device))
    (interfaceNumber : UInt8) (composite gi : Bool) (os : GenericInterfaceAnswers) (s : System) : Bool :=
  match gi, device, (new sizeofGenericInterface () : Prog Fault System _) s with
  | true, some device, .ok (some _, s₀) =>
    initializeCloses formatMessage device interfaceNumber composite os s₀
  | _, _, _ => true

variable {m : Holdings RefKind} {d : Nat} {s : System} {formatMessage : UInt32 → String}
  {device : Box Device} {interfaceNumber : UInt8} {composite : Bool} {os : GenericInterfaceAnswers}

lemma getFirstGuid_gaveBack (own : Holding m d s) {os : GuidAnswers}
    (closes : os.closesKey s.heap = true) :
    wp (getFirstDeviceInterfaceGuid formatMessage os) (GaveBack m d) s := by
  cases buffer : os.bufferSize with
  | none => exact getFirstGuid_early own buffer
  | some size =>
    obtain ⟨key, s₁, own₁, heap, same⟩ := getFirstGuid_opened own buffer
    rw [GuidAnswers.closesKey, buffer, Option.all_some, Bool.and_eq_true] at closes
    rw [same]
    apply firstGuid_gaveBack own₁ os
    · rw [heap]
      exact closes.1
    · intro value query multi
      have ends := closes.2
      rw [query] at ends
      simpa [multi] using ends

lemma getFilename_closes (own : Holding m d s) {devinst : UInt32} {os : FilenameAnswers}
    (closes : os.closesList devinst s.heap = true) :
    wp (getFilenameFromDevinstAndGuid formatMessage devinst os)
      (Ended (fun filename => os.devicePath = .ok filename.val) m d) s := by
  apply getFilename_ended own
  intro asks
  simpa [FilenameAnswers.closesList, asks] using closes

/-- A driver name is handed out, or none, or an error. -/
lemma getDriverName_holds (own : Holding m d s) (service : Except UInt32 (UInt32 × String)) :
    wp (getDriverName formatMessage service) (fun r s' => match r with
      | (none, driverName) => Holding (m + owned driverName) d s'
      | (some e, driverName) => driverName = none ∧ Raised m d (fun _ => True) e s') s := by
  cases service with
  | error errorCode =>
    simp only [getDriverName]
    apply wp_ite
    · exact fun _ => wp_pure.mpr (own.of_eq (add_zero m).symm)
    · intro _
      simp only [wp_bind, wp_pure]
      apply wp_createWinapiError own
      exact fun e s₁ r => ⟨rfl, r.any⟩
  | ok service =>
    obtain ⟨dataType, service⟩ := service
    simp only [getDriverName]
    apply wp_ite
    · intro _
      simp only [wp_bind, wp_pure]
      apply own.wp_create
      exact fun e s₁ r => ⟨rfl, r.any⟩
    · intro _
      apply wp_mono (stringCopy_ends own service)
      rintro ⟨_ | e, driverName⟩ s₁ copied
      · exact copied.2
      · exact ⟨copied.1, copied.2.any⟩

/-- The step that checks the driver keeps the driver name in its variable. -/
lemma driverStep_holds (own : Holding m d s) {l : GenericInterfaceVars} {node : InterfaceNode}
    (there : l.node = some node) :
    wp (driverStep formatMessage os l) (fun r s' => ∃ driverName, r.2 = { l with driverName } ∧
      match r.1 with
      | none => Holding (m + owned driverName) d s'
      | some e => Raised (m + owned driverName) d (fun _ => True) e s') s := by
  simp only [driverStep, there, checkDriverInstallation, expect, pure_bind, bind_assoc, wp_bind]
  apply wp_mono (getDriverName_holds own (os.service node.info))
  rintro ⟨_ | e, _ | driverName⟩ s₁ named
  · -- there is no driver, good or bad
    simp only [Option.isSome_none, Bool.false_eq_true, if_false, wp_bind, wp_pure]
    apply wp_mono (notReadyUnless_checked named "Device is not using any driver.")
    rintro (_ | e) s₂ checked
    · cases checked.1
    · exact ⟨none, rfl, checked.any⟩
  · cases good : os.compareString driverName.val "winusb" with
    | true =>
      simp only [good, if_true, pure_bind, Option.isSome_none, Bool.false_eq_true, if_false,
        notReadyUnless, wp_pure]
      exact ⟨some driverName, rfl, named⟩
    | false =>
      simp only [good, Bool.false_eq_true, if_false, pure_bind, Option.isSome_none, if_true, text,
        Option.map_some, wp_bind, wp_pure]
      apply Holding.wp_create named
      exact fun e s₂ r => ⟨some driverName, rfl, r.any⟩
  · simp only [Option.isSome_some, if_true, wp_pure]
    exact ⟨none, rfl, named.2.of_eq (add_zero m).symm⟩
  · cases named.1

/-- The steps so far hold what the variables own. -/
def Filled (m : Holdings RefKind) (r : Option Error × GenericInterfaceVars) (s : System) : Prop :=
  match r with
  | (none, l) => s.Owns (m + owned l.gi + l.others)
  | (some e, l) => ∃ d, Raised (m + owned l.gi + l.others) d (fun _ => True) e s

lemma nodeSteps_fill (own : Holding m d s) {id : String}
    (built : text device.val.deviceInstanceId = some id) :
    wp (stages (nodeSteps formatMessage device interfaceNumber composite os)
      { gi := { interfaceNumber } }) (fun r s' => Filled m r s' ∧
        (r.1 = none → r.2.node ≠ none ∧ r.2.gi.filename = none)) s := by
  have blank : (owned ({ interfaceNumber } : GenericInterface) : Holdings RefKind) = 0 := rfl
  apply Ends.stageSome
  · exact deviceGetOsId_ends own built
  · intro e s₁ r
    exact ⟨⟨d, r.any.of_eq (by simp [GenericInterfaceVars.others, blank])⟩, by rintro ⟨⟩⟩
  intro usbDeviceId s₁ copied own₁
  have path : text (some usbDeviceId) = some id := congrArg some (Except.ok.inj copied).symm
  apply Ends.stageSome
  · rw [path]
    exact getInterface_ends own₁ interfaceNumber composite os.interface
  · intro e s₂ r
    refine ⟨⟨d, r.any.of_eq ?_⟩, by rintro ⟨⟩⟩
    simp [GenericInterfaceVars.others, blank]
  intro node s₂ _ own₂
  apply Ended.stage
  · simp only [expect, pure_bind]
    exact createIdString_ended own₂ formatMessage node.info.instanceId
  · intro e s₃ r
    refine ⟨⟨d, r.of_eq ?_⟩, by rintro ⟨⟩⟩
    show _ = m + 0 + (owned node + (0 + owned usbDeviceId))
    abel
  intro id s₃ _ own₃
  apply wp_stages_cons
  apply wp_mono (driverStep_holds own₃ rfl)
  rintro ⟨_ | e, _⟩ s₄ ⟨driverName, rfl, held⟩
  · refine wp_stages_nil.mpr ⟨held.owns.of_eq ?_, fun _ => ⟨Option.some_ne_none _, rfl⟩⟩
    show _ = m + (owned id + 0) + (owned node + (owned driverName + owned usbDeviceId))
    abel
  · refine ⟨⟨d, held.of_eq ?_⟩, by rintro ⟨⟩⟩
    show _ = m + (owned id + 0) + (owned node + (owned driverName + owned usbDeviceId))
    abel

/-- What the steps put into the object and into the variables is what they hold. -/
lemma initializeSteps_fill (own : Holding m d s) {id : String}
    (built : text device.val.deviceInstanceId = some id)
    (closes : initializeCloses formatMessage device interfaceNumber composite os s = true) :
    wp (stages (initializeSteps formatMessage device interfaceNumber composite os)
      { gi := { interfaceNumber } }) (Filled m) s := by
  have split : initializeSteps formatMessage device interfaceNumber composite os =
      nodeSteps formatMessage device interfaceNumber composite os ++
        filenameSteps formatMessage device interfaceNumber composite os :=
    (List.take_append_drop 4 _).symm
  rw [split]
  apply wp_stages_append
  apply wp_mono (nodeSteps_fill own built).run
  rintro ⟨_ | e, l⟩ s₁ ⟨⟨filled, rest⟩, run⟩
  · obtain ⟨there, noFilename⟩ := rest rfl
    obtain ⟨node, there⟩ := Option.ne_none_iff_exists'.mp there
    obtain ⟨gi, usbDeviceId, _, driverName, guid⟩ := l
    obtain rfl := there
    obtain ⟨number, deviceInstanceId, _⟩ := gi
    obtain rfl := noFilename
    rw [initializeCloses, run] at closes
    simp only [Bool.and_eq_true] at closes
    have own₁ : Holding (m + owned deviceInstanceId + (owned node.list +
        (owned driverName + owned usbDeviceId))) s₁.denials s₁ :=
      ⟨filled.of_eq (congrArg (m + · + _) (add_zero _)), rfl⟩
    apply wp_stages_into
    simp only [expect, pure_bind]
    apply wp_mono (getFirstGuid_gaveBack own₁ closes.1).run
    rintro ⟨_ | e, guid⟩ s₂ ⟨got, run₁⟩
    · have closes := closes.2
      rw [run₁] at closes
      apply Ended.stage
      · simp only [pure_bind]
        exact getFilename_closes got closes
      · intro e s₃ r
        refine ⟨_, r.of_eq ?_⟩
        exact congrArg (m + · + _) (add_zero _).symm
      intro filename s₃ _ own₃
      refine wp_stages_nil.mpr (own₃.owns.of_eq ?_)
      show _ = m + (owned deviceInstanceId + owned filename) + (owned node.list + _)
      abel
    · exact ⟨_, Raised.of_eq got (congrArg (m + · + _) (add_zero _).symm)⟩
  · exact filled

/-- `generic_interface_initialize` leaves what it put into the object, and its error. -/
lemma genericInterfaceInitialize_fills (own : Holding m d s) {id : String}
    (built : text device.val.deviceInstanceId = some id)
    (closes : initializeCloses formatMessage device interfaceNumber composite os s = true) :
    wp (genericInterfaceInitialize formatMessage device interfaceNumber composite os)
      (fun r s' => match r with
        | (none, gi) => s'.Owns (m + owned gi)
        | (some e, gi) => ∃ d, Raised (m + owned gi) d (fun _ => True) e s') s := by
  simp only [genericInterfaceInitialize, wp_bind]
  apply wp_mono (initializeSteps_fill own built closes)
  rintro ⟨_ | e, l⟩ s₁ filled
  · have own₁ : Holding (m + owned l.gi + l.others) s₁.denials s₁ := ⟨filled, rfl⟩
    apply l.cleanUp_givesBack.wp own₁
    intro s₂ own₂
    simp only [addContext, Option.isSome_none, Bool.false_eq_true, if_false, wp_pure]
    exact own₂.owns
  · obtain ⟨d, raised⟩ := filled
    apply l.cleanUp_givesBack.wp_raised raised
    intro s₂ raised
    simp only [addContext, Option.isSome_some, if_true]
    apply raised.wp_add
    exact fun e' s₃ raised => wp_pure.mpr ⟨d, raised.any⟩

lemma genericInterfaceFree_givesBack {gi : Option (Box GenericInterface)} :
    GivesBack (genericInterfaceFree gi) (owned gi) := by
  cases gi with
  | none => exact .nothing
  | some gi =>
    have parts : GivesBack (genericInterfaceFree (some gi)) (owned gi.val.deviceInstanceId +
        (owned gi.val.filename + (({.heap gi.addr}, 0) : Holdings RefKind))) :=
      .seq .free (.seq .free .freeBlock)
    refine parts.of_eq ?_
    show _ = ({.heap gi.addr}, 0) + (owned gi.val.deviceInstanceId + owned gi.val.filename)
    abel

/-- `libusbp_generic_interface_create` gives an object, or an error and nothing else, if its steps close
what they open. -/
lemma genericInterfaceCreate_ended (own : s.Owns m) {id : String}
    (built : text device.val.deviceInstanceId = some id)
    (closes : createCloses formatMessage (some device) interfaceNumber composite true os s = true) :
    wp (genericInterfaceCreate formatMessage (some device) interfaceNumber composite true os)
      (fun r s' => ∃ d', Ended (fun _ => True) m d' r s') s := by
  have made : wp (new sizeofGenericInterface () : Prog Fault System _) (fun newGi s₁ =>
      s₁.Owns (m + owned newGi) ∧ (newGi = none → s₁.denials = s.denials + 1)) s := by
    apply own.wp_new (by decide) rfl
    · exact fun newGi s₁ _ own₁ _ => ⟨own₁, by rintro ⟨⟩⟩
    · exact fun s₁ own₁ hd => ⟨own₁.of_eq (add_zero m).symm, fun _ => hd⟩
  simp only [genericInterfaceCreate, Bool.true_eq_false, if_false, wp_bind]
  apply wp_mono made.run
  rintro (_ | newGi) s₁ ⟨⟨own₁, denied⟩, run⟩
  · exact wp_pure.mpr ⟨s.denials, rfl, .denied (own₁.of_eq (add_zero m)) (denied rfl)⟩
  · simp only [createCloses, run] at closes
    have filled (gi : GenericInterface) : m + owned newGi + owned gi =
        (m + owned (⟨newGi.addr, gi⟩ : Box GenericInterface) : Holdings RefKind) := by
      show m + (({.heap newGi.addr}, 0) + 0) + owned gi = m + (({.heap newGi.addr}, 0) + owned gi)
      abel
    rw [wp_bind]
    apply wp_mono (genericInterfaceInitialize_fills ⟨own₁, rfl⟩ built closes)
    rintro ⟨_ | e, gi⟩ s₂ fills
    · exact wp_pure.mpr ⟨_, _, rfl, trivial, fills.of_eq (filled gi), rfl⟩
    · obtain ⟨d, raised⟩ := fills
      simp only [Option.isSome_some, if_true, wp_bind, wp_pure]
      have raised : Raised (m + owned (some (⟨newGi.addr, gi⟩ : Box GenericInterface))) d _ e s₂ :=
        raised.of_eq (filled gi)
      apply genericInterfaceFree_givesBack.wp_raised raised
      exact fun s₃ raised => ⟨d, rfl, raised⟩

end Libusbp.Windows
