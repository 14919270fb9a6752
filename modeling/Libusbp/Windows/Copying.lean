import Libusbp.CopyContract
import Libusbp.Windows.GenericInterface
import Libusbp.Windows.SerialPort

/-!
# Copies on Windows

The three functions copy their objects in different ways: with the strings one after the other, or with
all requests for memory made in front.
-/

namespace Libusbp.Windows

open Prog Host

/-- The devices are the same to every function that asks one. -/
structure DeviceAlike (a b : Box Device) : Prop where
  content : content a = content b
  vendorId : AnswersAlike deviceGetVendorId a b
  productId : AnswersAlike deviceGetProductId a b
  revision : AnswersAlike deviceGetRevision a b
  serialNumber : AnswersAlike deviceGetSerialNumber a b
  osId : AnswersAlike deviceGetOsId a b

/-- The generic interfaces are the same to every function that asks one. -/
structure GenericInterfaceAlike (a b : Box GenericInterface) : Prop where
  content : content a = content b
  osId : AnswersAlike genericInterfaceGetOsId a b
  osFilename : AnswersAlike genericInterfaceGetOsFilename a b

/-- The serial ports are the same to every function that asks one. -/
structure SerialPortAlike (a b : Box SerialPort) : Prop where
  content : content a = content b
  name : AnswersAlike serialPortGetName a b

/-- A generic interface that was built has its two strings. -/
structure GenericInterfaceView.Built (v : GenericInterfaceView) : Prop where
  deviceInstanceId : v.deviceInstanceId ≠ none
  filename : v.filename ≠ none

variable {m : Holdings RefKind} {d : Nat} {s s' : System} {formatMessage : UInt32 → String}

lemma deviceAlike {a b : Box Device} (same : content a = content b) : DeviceAlike a b where
  content := same
  vendorId := getNumber_alike (congrArg DeviceView.vendorId same)
  productId := getNumber_alike (congrArg DeviceView.productId same)
  revision := getNumber_alike (congrArg DeviceView.revision same)
  serialNumber := getString_alike <| by
    rw [show text a.val.deviceInstanceId = text b.val.deviceInstanceId from
      congrArg DeviceView.deviceInstanceId same]
  osId := getString_alike (congrArg stringCopy (congrArg DeviceView.deviceInstanceId same))

lemma genericInterfaceAlike {a b : Box GenericInterface} (same : content a = content b) :
    GenericInterfaceAlike a b where
  content := same
  osId := getString_alike
    (congrArg stringCopy (congrArg GenericInterfaceView.deviceInstanceId same))
  osFilename := getString_alike (congrArg stringCopy (congrArg GenericInterfaceView.filename same))

lemma serialPortAlike {a b : Box SerialPort} (same : content a = content b) :
    SerialPortAlike a b where
  content := same
  name := getString_alike (congrArg stringCopy (congrArg SerialPortView.portName same))

/-- A device that was created has a device instance ID. -/
lemma createDevice_built {info : DevInfo} {device : Box Device}
    (created : HandsOut (createDevice formatMessage info) device) : (content device).Built := by
  obtain ⟨m, s, s', own, run⟩ := created
  obtain ⟨_, ⟨⟩, built, _⟩ := (createDevice_ended ⟨own, rfl⟩ formatMessage info).elim run
  exact built

/-- What a function returns has no error and an output, or an error. -/
def ErrorOr {α : Type} (r : Option Error × Option α) : Prop := r.1 = none → r.2 ≠ none

lemma detailFilename_yields (os : FilenameAnswers) (list : DevInfoSet) :
    Yields (detailFilename formatMessage os list) ErrorOr := by
  refine (Yields.any _).bind fun detail _ => ?_
  cases detail with
  | none => exact .pure (by rintro ⟨⟩)
  | some detail =>
    cases os.devicePath with
    | error errorCode =>
      refine (errorCreateWinapi_yields _ _ _).bind fun error made => ?_
      refine (Yields.any _).bind fun _ _ => (Yields.any _).bind fun _ _ => ?_
      exact .pure fun missing => absurd missing made
    | ok devicePath =>
      refine (Yields.any _).bind fun newString _ => ?_
      refine (Yields.any _).bind fun _ _ => (Yields.any _).bind fun _ _ => ?_
      cases newString with
      | none => exact .pure (by rintro ⟨⟩)
      | some newString => exact .pure fun _ => Option.some_ne_none _

lemma deviceFilename_yields (os : FilenameAnswers) (list : DevInfoSet) :
    Yields (deviceFilename formatMessage os list) ErrorOr := by
  have raised (errorCode : UInt32) (format : String) : Yields (do
      let error ← inHeap (errorCreateWinapi formatMessage errorCode format)
      setupDiDestroyDeviceInfoList list
      pure (error, (none : Option (Box String))) : Prog Fault System _) ErrorOr := by
    refine (errorCreateWinapi_yields _ _ _).bind fun error made => (Yields.any _).bind fun _ _ => ?_
    exact .pure fun missing => absurd missing made
  rw [deviceFilename]
  cases os.interfaceData with
  | some errorCode => exact raised errorCode _
  | none =>
    cases os.sizeError with
    | none => exact detailFilename_yields os list
    | some errorCode =>
      dsimp only
      split
      case isTrue => exact raised errorCode _
      case isFalse => exact detailFilename_yields os list

/-- Without an error there is a filename. -/
lemma getFilename_yields (devinst : UInt32) (os : FilenameAnswers) :
    Yields (getFilenameFromDevinstAndGuid formatMessage devinst os) ErrorOr := by
  refine (Yields.any _).bind fun opened _ => ?_
  cases opened with
  | error errorCode =>
    refine (errorCreateWinapi_yields _ _ _).bind fun error made => ?_
    exact .pure fun missing => absurd missing made
  | ok list =>
    refine (Yields.any _).bind fun error _ => ?_
    cases error with
    | some error => exact .pure (by rintro ⟨⟩)
    | none => exact deviceFilename_yields os list

/-- The step that checks the driver does not write to the object. -/
lemma driverStep_yields (os : GenericInterfaceAnswers) (l : GenericInterfaceVars) :
    Yields (driverStep formatMessage os l) fun r => r.2.gi = l.gi := by
  refine (Yields.any _).bind fun node _ => (Yields.any _).bind ?_
  rintro ⟨error, driver⟩ _
  dsimp only
  split
  case isTrue => exact .pure rfl
  case isFalse =>
    split
    case isTrue => exact (Yields.any _).bind fun _ _ => (Yields.any _).bind fun _ _ => .pure rfl
    case isFalse => exact (Yields.any _).bind fun _ _ => .pure rfl

/-- A generic interface that was initialized without an error has its two strings. -/
lemma genericInterfaceInitialize_built {device : Box Device} {interfaceNumber : UInt8}
    {composite : Bool} {os : GenericInterfaceAnswers} {gi : GenericInterface}
    (run : genericInterfaceInitialize formatMessage device interfaceNumber composite os s =
      .ok ((none, gi), s')) : (content gi).Built := by
  obtain ⟨⟨error, l⟩, t, rest, run⟩ := bind_ok run
  obtain ⟨_, t', _, run⟩ := bind_ok run
  obtain ⟨error', t'', context, run⟩ := bind_ok run
  cases run
  obtain rfl := addContext_none context
  obtain ⟨usbDeviceId, s₁, _, rest⟩ := stages_into_none rest
  obtain ⟨node, s₂, _, rest⟩ := stages_into_none rest
  obtain ⟨x, s₃, created, rest⟩ := stages_into_none rest
  obtain ⟨_, _, _, created⟩ := bind_ok created
  obtain ⟨id, rfl⟩ := createIdString_none created
  rcases stages_ok rest with ⟨e, l', ⟨⟩, _⟩ | ⟨l', s₄, checked, rest⟩
  have kept := driverStep_yields _ _ _ _ _ checked
  obtain ⟨guid, s₅, _, rest⟩ := stages_into_none rest
  obtain ⟨filename, s₆, found, rest⟩ := stages_into_none rest
  obtain ⟨_, _, _, found⟩ := bind_ok found
  cases rest
  obtain ⟨filename, rfl⟩ := Option.ne_none_iff_exists'.mp (getFilename_yields _ _ _ _ _ found rfl)
  refine ⟨?_, Option.some_ne_none _⟩
  show text l'.gi.deviceInstanceId ≠ none
  rw [show l'.gi.deviceInstanceId = some id from congrArg GenericInterface.deviceInstanceId kept]
  exact Option.some_ne_none _

/-- So has one that was created. -/
lemma genericInterfaceCreate_built {device : Option (Box Device)} {interfaceNumber : UInt8}
    {composite : Bool} {os : GenericInterfaceAnswers} {gi : Box GenericInterface}
    (run : genericInterfaceCreate formatMessage device interfaceNumber composite true os s =
      .ok ((none, some gi), s')) : (content gi).Built := by
  cases device with
  | none =>
    obtain ⟨error, t, _, rest⟩ := bind_ok run
    cases rest
  | some device =>
    rw [genericInterfaceCreate, if_neg Bool.noConfusion] at run
    obtain ⟨newGi, s₁, _, run⟩ := bind_ok run
    cases newGi with
    | none => cases run
    | some newGi =>
      obtain ⟨⟨error, initialized⟩, s₂, rest, run⟩ := bind_ok run
      cases error with
      | some e =>
        obtain ⟨_, t, _, run⟩ := bind_ok run
        cases run
      | none =>
        cases run
        exact genericInterfaceInitialize_built rest

/-- A device that says what a blank one says is blank. -/
lemma device_blank {dev : Device} (same : content ({} : Device) = content dev) : dev = {} := by
  obtain ⟨deviceInstanceId, productId, vendorId, revision⟩ := dev
  cases deviceInstanceId with
  | none =>
    cases same
    rfl
  | some id => cases same

/-- `libusbp_device_copy` gives a device that says the same, or an error and nothing else. -/
lemma deviceCopy_ends (own : Holding m d s) {source : Box Device} (built : (content source).Built) :
    wp (deviceCopy (some source) true) (Ends m d (Except.map some (.ok (content source)))) s := by
  obtain ⟨id, hid⟩ := Option.ne_none_iff_exists'.mp built
  have hid : text source.val.deviceInstanceId = some id := hid
  apply Staged.construct (fun l : DeviceVars => owned l.newDevice) fun _ => deviceFree_givesBack
  apply Ends.stageSome
  · exact allocateZeroed_ends own (by decide) rfl
  · intro e s₁ r
    exact ⟨rfl, (r.of_eq (add_zero m).symm).of_ok⟩
  rintro ⟨a, device⟩ s₁ zeroed own₁
  obtain rfl := device_blank (Except.ok.inj zeroed)
  apply wp_stages_cons
  simp only [hid, expect, pure_bind, wp_bind]
  apply wp_mono (allocate_ends own₁ (Nat.succ_ne_zero _) rfl)
  intro r s₂ ended
  obtain ⟨newId, rfl, said, own₂⟩ | ⟨e, rfl, raised⟩ := ended.elim
  · rw [wp_pure]
    apply wp_stages_cons
    simp only [pure_bind, wp_pure]
    apply wp_stages_cons
    refine wp_pure.mpr (wp_stages_nil.mpr ⟨?_, own₂.of_eq ?_⟩)
    · have same : content source =
          ⟨some id, source.val.productId, source.val.vendorId, source.val.revision⟩ :=
        DeviceView.ext hid rfl rfl rfl
      have said : id = newId.val := Except.ok.inj said
      rw [same, said]
      rfl
    · exact (add_assoc _ _ _).trans (add_zero _).symm
  · rw [wp_pure]
    exact ⟨rfl, raised.of_ok⟩

/-- A request for memory was granted, or it was denied and counted. -/
def Asked {α : Type} [Owned RefKind α] (m : Holdings RefKind) (d : Nat) (val : α)
    (b : Option (Box α)) (s : System) : Prop :=
  (∀ a, b = some a → a.val = val) ∧ Holding (m + owned b) (d + if b.isSome then 0 else 1) s

lemma newZeroed_asked {α : Type} [Owned RefKind α] (own : Holding m d s) {size : Nat} {val : α}
    (pos : size ≠ 0) (bare : (owned val : Holdings RefKind) = 0) :
    wp (newZeroed size val : Prog Fault System _) (Asked m d val) s := by
  apply own.owns.wp_newZeroed pos bare
  · intro b s' hb own' hd
    exact ⟨by rintro _ ⟨⟩; exact hb, own', hd.trans own.denials⟩
  · intro s' own' hd
    exact ⟨by rintro _ ⟨⟩, own'.of_eq (add_zero m).symm, hd.trans (congrArg (· + 1) own.denials)⟩

lemma strdup_asked (own : Holding m d s) (string : String) :
    wp (strdup string) (Asked m d string) s := by
  apply own.owns.wp_new (Nat.succ_ne_zero _) rfl
  · intro b s' hb own' hd
    exact ⟨by rintro _ ⟨⟩; exact hb, own', hd.trans own.denials⟩
  · intro s' own' hd
    exact ⟨by rintro _ ⟨⟩, own'.of_eq (add_zero m).symm, hd.trans (congrArg (· + 1) own.denials)⟩

/-- `libusbp_generic_interface_copy` gives an object that says the same, or an error and nothing
else. -/
lemma genericInterfaceCopy_ends (own : Holding m d s) {source : Box GenericInterface}
    (built : (content source).Built) :
    wp (genericInterfaceCopy (some source) true)
      (Ends m d (Except.map some (.ok (content source)))) s := by
  obtain ⟨id, hid⟩ := Option.ne_none_iff_exists'.mp built.deviceInstanceId
  obtain ⟨filename, hfilename⟩ := Option.ne_none_iff_exists'.mp built.filename
  have hid : text source.val.deviceInstanceId = some id := hid
  have hfilename : text source.val.filename = some filename := hfilename
  simp only [genericInterfaceCopy, Bool.true_eq_false, if_false, hid, hfilename, expect, pure_bind,
    wp_bind]
  apply wp_mono (newZeroed_asked own (by decide) rfl)
  rintro newGi s₁ ⟨_, own₁⟩
  apply wp_mono (strdup_asked own₁ id)
  rintro newId s₂ ⟨sameId, own₂⟩
  apply wp_mono (strdup_asked own₂ filename)
  rintro newFilename s₃ ⟨sameFilename, own₃⟩
  have own₃ : Holding (m + owned newFilename + owned newId + owned newGi) _ s₃ :=
    own₃.of_eq (by abel)
  -- unless all the requests were granted, what they yielded is freed
  have failed : ∀ s', s'.Owns m → d < s'.denials →
      Ends m d (Except.map some (.ok (content source)))
        (some errorNoMemory, (none : Option (Box GenericInterface))) s' :=
    fun s' own' denied => ⟨rfl, .noMemory own' denied⟩
  cases newGi with
  | none =>
    simp only [wp_bind, wp_pure]
    have own₃ : Holding (m + owned newFilename + owned newId) _ s₃ := own₃.of_eq (add_zero _)
    apply (GivesBack.free (b := newId)).wp own₃
    intro s₄ own₄
    apply (GivesBack.free (b := newFilename)).wp own₄
    intro s₅ own₅
    refine failed s₅ own₅.owns ?_
    rw [own₅.denials, Option.isSome_none, if_neg Bool.false_ne_true]
    omega
  | some newGi =>
    apply wp_ite
    · rintro ⟨there, there'⟩
      obtain ⟨newId, rfl⟩ := Option.isSome_iff_exists.mp there
      obtain ⟨newFilename, rfl⟩ := Option.isSome_iff_exists.mp there'
      refine wp_pure.mpr ⟨?_, own₃.of_eq ?_⟩
      · have same : content source = ⟨source.val.interfaceNumber, some id, some filename⟩ :=
          GenericInterfaceView.ext rfl hid hfilename
        rw [same, ← sameId newId rfl, ← sameFilename newFilename rfl]
        rfl
      · show m + owned newFilename + owned newId + (({.heap newGi.addr}, 0) + 0) =
          m + (({.heap newGi.addr}, 0) + (owned newId + owned newFilename))
        abel
    · intro missing
      simp only [wp_bind, wp_pure]
      apply (GivesBack.free (b := some newGi)).wp own₃
      intro s₄ own₄
      apply (GivesBack.free (b := newId)).wp own₄
      intro s₅ own₅
      apply (GivesBack.free (b := newFilename)).wp own₅
      intro s₆ own₆
      refine failed s₆ own₆.owns ?_
      rw [own₆.denials]
      rcases not_and_or.mp missing with null | null
      · rw [if_neg null]
        omega
      · rw [if_neg null]
        omega

/-- Devices are copied as they should. -/
lemma deviceCopy_keeps : KeepsExactly deviceCopy DeviceAlike
    (fun a => ∃ info, HandsOut (createDevice formatMessage info) a) fun _ _ => True := by
  apply keepsExactly_of_ends rfl
  · rintro m d s a own ⟨info, created⟩
    exact deviceCopy_ends own (createDevice_built created)
  · exact fun a b => deviceAlike

/-- Generic interfaces are copied as they should. -/
lemma genericInterfaceCopy_keeps : KeepsExactly genericInterfaceCopy GenericInterfaceAlike
    (fun a => ∃ device interfaceNumber composite os, HandsOut
      (genericInterfaceCreate formatMessage device interfaceNumber composite true os) a)
    fun _ _ => True := by
  apply keepsExactly_of_ends rfl
  · rintro m d s a own ⟨device, interfaceNumber, composite, os, _, _, _, _, created⟩
    exact genericInterfaceCopy_ends own (genericInterfaceCreate_built created)
  · exact fun a b => genericInterfaceAlike

/-- Serial ports are copied as they should. -/
lemma serialPortCopy_keeps : KeepsExactly serialPortCopy SerialPortAlike
    (fun a => ∃ device interfaceNumber composite os retry, HandsOut
      (serialPortCreate formatMessage device interfaceNumber composite true os retry) a)
    fun _ _ => True := by
  apply keepsExactly_of_ends rfl
  · rintro m d s a own ⟨device, interfaceNumber, composite, os, retry, _, _, _, _, created⟩
    exact serialPortCopy_ends own (serialPortCreate_built created)
  · exact fun a b => serialPortAlike

end Libusbp.Windows
