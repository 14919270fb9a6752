import Libusbp.Linux.Udev

/-!
# What the calls of libudev come to

Beside each function of `udev_linux.c` stands its outcome, which says for given answers of libudev
what the function finds or with which error it fails, and the proof that the function ends with this
outcome, whatever requests for memory are denied, and keeps no reference but the one it returns.
-/

namespace Libusbp.Linux

open Prog Host

/-- The value of an error from libudev. -/
def udevError (errorCode : Int) (format : String) : ErrorValue :=
  (ErrorValue.ofText s!"Error from libudev: {errorCode}.").addText format

def contextOutcome (created : Bool) : Except ErrorValue Unit :=
  failIf (created = false) (.ofText "Failed to create a udev context.")

def EnumerateAnswers.newOutcome (os : EnumerateAnswers) : Except ErrorValue (List UdevEntry) := do
  failIf (os.created = false) (.ofText "Failed to create a udev enumeration context.")
  pure os.entries

def EnumerateAnswers.outcome (matchFailed : String) (os : EnumerateAnswers) :
    Except ErrorValue (List UdevEntry) := do
  let entries ← os.newOutcome
  failIf (os.addMatch ≠ 0) (udevError os.addMatch matchFailed)
  failIf (os.scanDevices ≠ 0) (udevError os.scanDevices "Failed to scan devices.")
  pure entries

def lookupOutcome (syspath : String) (lookup : Option UdevInfo) : Except ErrorValue UdevInfo :=
  match lookup with
  | some info => .ok info
  | none => .error (.ofText s!"Failed to get udev device from syspath: {syspath}.")

namespace UdevInfo

def getDevtype (info : UdevInfo) : Except ErrorValue String :=
  match info.devtype with
  | some devtype => .ok devtype
  | none => .error (.ofText "Failed to get device type.")

def getSysattr {α : Type} (convert : Int → α) (info : UdevInfo) (name : String) :
    Except ErrorValue α :=
  match info.sysattr name with
  | none => .error (.ofText s!"Device does not have sysattr {name}.")
  | some str =>
    match Scan.hex 4 str.toList with
    | some (value, _) => .ok (convert value)
    | none => .error (.ofText s!"Failed to parse sysattr {name}.")

def getUsbParent (info : UdevInfo) : Except ErrorValue String :=
  match info.usbParent with
  | some parent => .ok parent
  | none => .error (.ofText "Failed to get parent USB device.")

/-- Whether a device is the given interface of the given USB device. -/
def isSpecificInterface (deviceSyspath : String) (interfaceNumber : UInt8) (info : UdevInfo) :
    Except ErrorValue Bool := do
  if (← info.getDevtype) ≠ "usb_interface" then pure false
  else if (← info.getSysattr Scan.toUInt8 "bInterfaceNumber") ≠ interfaceNumber then pure false
  else if (← info.getUsbParent) ≠ deviceSyspath then pure false
  else pure true

def getDevnode (info : UdevInfo) : Except ErrorValue String :=
  match info.devnode with
  | some devnode => .ok devnode
  | none => .error (.ofText "No device node exists.")

end UdevInfo

/-- What the loop of `udevw_get_interface` makes of one entry. -/
def UdevEntry.interfaceVerdict (deviceSyspath : String) (interfaceNumber : UInt8)
    (entry : UdevEntry) : Except ErrorValue (Option UdevInfo) := do
  let info ← lookupOutcome entry.name entry.lookup
  if ← info.isSpecificInterface deviceSyspath interfaceNumber then pure (some info)
  else pure none

/-- What the loop of `udevw_get_tty` makes of one entry. -/
def UdevEntry.ttyVerdict (entry : UdevEntry) : Except ErrorValue (Option UdevInfo) := do
  let info ← lookupOutcome entry.name entry.lookup
  if info.subsystem = some "tty" then pure (some info) else pure none

/-- The outcome of `udevw_get_interface`. -/
def interfaceOutcome (deviceSyspath : String) (interfaceNumber : UInt8) (os : EnumerateAnswers) :
    Except ErrorValue UdevInfo := do
  let entries ← os.outcome "Failed to add a subsystem match."
  let found ← firstVerdict (UdevEntry.interfaceVerdict deviceSyspath interfaceNumber) entries
  orNotReady s!"Could not find interface {interfaceNumber}." found

/-- The outcome of `udevw_get_tty`. -/
def ttyOutcome (os : EnumerateAnswers) : Except ErrorValue UdevInfo := do
  let entries ← os.outcome "Failed to match by parent device."
  let found ← firstVerdict UdevEntry.ttyVerdict entries
  orNotReady "Could not find tty device." found

/-- The outcome of `udevw_get_devnode_copy_from_syspath`. -/
def devnodeOutcome (syspath : String) (contextCreated : Bool) (lookup : Option UdevInfo) :
    Except ErrorValue String := do
  contextOutcome contextCreated
  let info ← lookupOutcome syspath lookup
  info.getDevnode

section

/-- An enumeration that succeeds yields its entries. -/
lemma EnumerateAnswers.outcome_ok {matchFailed : String} {os : EnumerateAnswers}
    {entries : List UdevEntry} (h : os.outcome matchFailed = .ok entries) : os.entries = entries := by
  obtain ⟨found, created, h⟩ := of_bind_ok h
  obtain ⟨_, -, h⟩ := of_bind_ok h
  obtain ⟨_, -, h⟩ := of_bind_ok h
  obtain ⟨_, -, created⟩ := of_bind_ok created
  cases created
  cases h
  rfl

variable {info : UdevInfo}

lemma lookupOutcome_ok {syspath : String} {lookup : Option UdevInfo} :
    lookupOutcome syspath lookup = .ok info ↔ lookup = some info := by
  cases lookup with
  | none => simp [lookupOutcome]
  | some info' => simp [lookupOutcome]

lemma getDevtype_ok {devtype : String} : info.getDevtype = .ok devtype ↔ info.devtype = some devtype := by
  unfold UdevInfo.getDevtype
  cases info.devtype with
  | none => simp
  | some devtype' => simp

lemma getUsbParent_ok {parent : String} :
    info.getUsbParent = .ok parent ↔ info.usbParent = some parent := by
  unfold UdevInfo.getUsbParent
  cases info.usbParent with
  | none => simp
  | some parent' => simp

/-- What it takes to be the given interface of the given device. -/
lemma isSpecificInterface_ok {deviceSyspath : String} {interfaceNumber : UInt8} :
    info.isSpecificInterface deviceSyspath interfaceNumber = .ok true ↔
      info.devtype = some "usb_interface" ∧
      info.getSysattr Scan.toUInt8 "bInterfaceNumber" = .ok interfaceNumber ∧
      info.usbParent = some deviceSyspath := by
  rw [← getDevtype_ok, ← getUsbParent_ok]
  unfold UdevInfo.isSpecificInterface
  constructor
  · intro h
    -- the three questions in the order in which the source asks them
    obtain ⟨devtype, hdevtype, h⟩ := of_bind_ok h
    split at h
    · cases h
    next isInterface =>
    obtain ⟨number, hnumber, h⟩ := of_bind_ok h
    split at h
    · cases h
    next equal =>
    obtain ⟨parent, hparent, h⟩ := of_bind_ok h
    split at h
    · cases h
    next own =>
    rw [hdevtype, hnumber, hparent, not_not.mp isInterface, not_not.mp equal, not_not.mp own]
    exact ⟨rfl, rfl, rfl⟩
  · rintro ⟨hdevtype, hnumber, hparent⟩
    rw [hdevtype, hnumber, hparent]
    simp [bind, Except.bind, pure, Except.pure]

end

variable {m : Holdings RefKind} {d : Nat} {s : System}

lemma udevUnref_givesBack {udev : Option Udev} : GivesBack (udevUnref udev) (owned udev) := by
  apply GivesBack.release?.of_eq
  cases udev <;> rfl

lemma udevDeviceUnref_givesBack {dev : Option UdevDevice} :
    GivesBack (udevDeviceUnref dev) (owned dev) := by
  apply GivesBack.release?.of_eq
  cases dev <;> rfl

lemma udevEnumerateUnref_givesBack {list : Option UdevEnumerate} :
    GivesBack (udevEnumerateUnref list) (owned list) := by
  apply GivesBack.release?.of_eq
  cases list <;> rfl

lemma udevwCreateContext_ends (own : Holding m d s) (created : Bool) :
    wp (udevwCreateContext created) (Ends m d ((contextOutcome created).map some)) s := by
  cases created with
  | true => exact own.acquire_ends (fun _ => rfl) fun _ => rfl
  | false => exact own.raise_ends _

lemma checkUdevResult_checked (own : Holding m d s) (result : Int) (format : String) :
    wp (checkUdevResult result format)
      (Checked m d (failIf (result ≠ 0) (udevError result format))) s := by
  unfold checkUdevResult failIf
  apply wp_ite
  · intro nz
    rw [errorCreateUdev, wp_inHeap_bind, if_pos nz]
    apply own.wp_create
    intro e s' r
    apply r.wp_add
    intro e' s'' r'
    apply r'.mono
    rintro _ ⟨_, rfl, rfl⟩
    rfl
  · intro zero
    rw [wp_pure, if_neg zero]
    exact ⟨rfl, own⟩

lemma udevEnumerateNew_ends (own : Holding m d s) (os : EnumerateAnswers) :
    wp (udevEnumerateNew os) (Ends m d (os.newOutcome.map some)) s := by
  unfold udevEnumerateNew EnumerateAnswers.newOutcome
  cases os.created with
  | true => exact own.acquire_ends (fun _ => rfl) fun _ => rfl
  | false => exact own.raise_ends _

lemma udevwCreateList_ends (own : Holding m d s) (matchFailed : String) (os : EnumerateAnswers) :
    wp (udevwCreateList matchFailed os) (Ends m d ((os.outcome matchFailed).map some)) s := by
  apply Staged.construct (fun l : ListVars => owned l.newList)
    fun _ => udevEnumerateUnref_givesBack
  unfold EnumerateAnswers.outcome
  apply Ends.stageSome
  · exact udevEnumerateNew_ends own os
  · intro e s₁ r
    refine ⟨rfl, (r.of_eq (add_zero m).symm).mono fun v hv => ?_⟩
    rw [hv]
    rfl
  intro list s₁ created own₁
  apply Checked.stage
  · exact checkUdevResult_checked own₁ _ _
  · intro e s₂ r
    refine ⟨rfl, r.mono fun v hv => ?_⟩
    rw [created, hv]
    rfl
  intro s₂ matched own₂
  apply Checked.stage
  · exact checkUdevResult_checked own₂ _ _
  · intro e s₃ r
    refine ⟨rfl, r.mono fun v hv => ?_⟩
    rw [created, matched, hv]
    rfl
  intro s₃ scanned own₃
  apply wp_stages_cons
  simp only [wp_pure, wp_stages_nil]
  refine ⟨?_, own₃.of_eq (by simp)⟩
  rw [created, matched, scanned]
  rfl

lemma udevwCreateUsbList_ends (own : Holding m d s) (udev : Udev) (os : EnumerateAnswers) :
    wp (udevwCreateUsbList (some udev) os)
      (Ends m d ((os.outcome "Failed to add a subsystem match.").map some)) s := by
  simp only [udevwCreateUsbList, wp_bind, wp_check]
  exact ⟨rfl, udevwCreateList_ends own _ os⟩

lemma udevwCreateChildList_ends (own : Holding m d s) (udev : Udev) (parent : UdevDevice)
    (os : EnumerateAnswers) :
    wp (udevwCreateChildList (some udev) (some parent) os)
      (Ends m d ((os.outcome "Failed to match by parent device.").map some)) s := by
  simp only [udevwCreateChildList, wp_bind, wp_check]
  exact ⟨rfl, rfl, udevwCreateList_ends own _ os⟩

lemma udevwGetDeviceFromSyspath_ends (own : Holding m d s) (udev : Udev) (syspath : String)
    (lookup : Option UdevInfo) :
    wp (udevwGetDeviceFromSyspath (some udev) (some syspath) lookup)
      (Ends m d ((lookupOutcome syspath lookup).map some)) s := by
  unfold udevwGetDeviceFromSyspath lookupOutcome
  rw [wp_bind, wp_check]
  refine ⟨rfl, ?_⟩
  rw [wp_bind, wp_expect]
  refine ⟨_, rfl, ?_⟩
  cases lookup with
  | some info => exact own.acquire_ends (fun _ => rfl) fun _ => rfl
  | none => exact own.raise_ends _

lemma udevwGetDeviceType_gets (own : Holding m d s) (dev : UdevDevice) :
    wp (udevwGetDeviceType dev) (Gets m d dev.info.getDevtype) s := by
  unfold udevwGetDeviceType UdevInfo.getDevtype
  cases dev.info.devtype with
  | some devtype => exact wp_pure.mpr ⟨rfl, own⟩
  | none => exact own.raise_gets _ _

lemma udevwGetSysattr_gets {α : Type} (own : Holding m d s) (convert : Int → α) (dev : UdevDevice)
    (name : String) :
    wp (udevwGetSysattr convert dev name) (Gets m d (dev.info.getSysattr convert name)) s := by
  unfold udevwGetSysattr UdevInfo.getSysattr
  cases dev.info.sysattr name with
  | none => exact own.raise_gets _ _
  | some str =>
    dsimp only
    cases Scan.hex 4 str.toList with
    | some number => exact wp_pure.mpr ⟨rfl, own⟩
    | none => exact own.raise_gets _ _

lemma udevwGetParentUsbDevice_gets (own : Holding m d s) (dev : UdevDevice) :
    wp (udevwGetParentUsbDevice dev) (Gets m d dev.info.getUsbParent) s := by
  unfold udevwGetParentUsbDevice UdevInfo.getUsbParent
  cases dev.info.usbParent with
  | some parent => exact wp_pure.mpr ⟨rfl, own⟩
  | none => exact own.raise_gets _ _

lemma udevwCheckIfDeviceIsSpecificInterface_gets (own : Holding m d s) (dev : UdevDevice)
    (deviceSyspath : String) (interfaceNumber : UInt8) :
    wp (udevwCheckIfDeviceIsSpecificInterface dev deviceSyspath interfaceNumber)
      (Gets m d (dev.info.isSpecificInterface deviceSyspath interfaceNumber)) s := by
  unfold udevwCheckIfDeviceIsSpecificInterface UdevInfo.isSpecificInterface
  rw [wp_bind]
  apply wp_mono (udevwGetDeviceType_gets own dev)
  rintro ⟨_ | e, devtype⟩ s₁ h
  · obtain ⟨getDevtype, own₁⟩ := h
    rw [getDevtype]
    apply wp_ite
    · intro other
      simp only [wp_pure]
      refine ⟨?_, own₁⟩
      exact if_pos other
    intro same
    rw [wp_bind]
    apply wp_mono (udevwGetSysattr_gets own₁ Scan.toUInt8 dev "bInterfaceNumber")
    rintro ⟨_ | e, number⟩ s₂ h
    · obtain ⟨getNumber, own₂⟩ := h
      rw [getNumber]
      apply wp_ite
      · intro other
        simp only [wp_pure]
        exact ⟨(if_neg same).trans (if_pos other), own₂⟩
      intro equal
      rw [wp_bind]
      apply wp_mono (udevwGetParentUsbDevice_gets own₂ dev)
      rintro ⟨_ | e, parent⟩ s₃ h
      · obtain ⟨getParent, own₃⟩ := h
        rw [getParent]
        apply wp_ite
        · intro foreign
          simp only [wp_pure]
          exact ⟨(if_neg same).trans ((if_neg equal).trans (if_pos foreign)), own₃⟩
        · intro own
          simp only [wp_pure]
          exact ⟨(if_neg same).trans ((if_neg equal).trans (if_neg own)), own₃⟩
      · simp only [wp_pure]
        refine h.mono fun v hv => ?_
        rw [hv]
        exact (if_neg same).trans (if_neg equal)
    · simp only [wp_pure]
      refine h.mono fun v hv => ?_
      rw [hv]
      exact if_neg same
  · simp only [wp_pure]
    refine h.mono fun v hv => ?_
    rw [hv]
    rfl

/-- The search keeps no reference but that of the device it finds. -/
lemma findInterface_ends (own : Holding m d s) (udev : Udev) (deviceSyspath : String)
    (interfaceNumber : UInt8) (entries : List UdevEntry) :
    wp (findInterface (some udev) deviceSyspath interfaceNumber entries)
      (Ends m d (firstVerdict (UdevEntry.interfaceVerdict deviceSyspath interfaceNumber) entries)) s := by
  induction entries generalizing s with
  | nil =>
    simp only [findInterface, wp_pure]
    exact ⟨rfl, own.of_eq (add_zero m).symm⟩
  | cons entry entries ih =>
    simp only [findInterface, wp_bind]
    apply wp_mono (udevwGetDeviceFromSyspath_ends own udev entry.name entry.lookup)
    intro r s₁ h
    obtain ⟨dev, rfl, found, own₁⟩ | ⟨e, rfl, raised⟩ := h.elim
    · have verdict : entry.interfaceVerdict deviceSyspath interfaceNumber =
          (do if ← dev.info.isSpecificInterface deviceSyspath interfaceNumber then pure (some dev.info)
              else pure none) := by
        rw [UdevEntry.interfaceVerdict, found]
        rfl
      simp only [wp_bind, wp_expect]
      refine ⟨dev, rfl, ?_⟩
      apply wp_mono (udevwCheckIfDeviceIsSpecificInterface_gets own₁ dev deviceSyspath
        interfaceNumber)
      rintro ⟨_ | e, correct⟩ s₂ h
      · obtain ⟨checked, own₂⟩ := h
        rw [checked] at verdict
        cases correct with
        | true =>
          simp only [wp_pure]
          refine ⟨?_, own₂⟩
          rw [firstVerdict_stop (by rw [verdict]; rintro ⟨⟩), verdict]
          rfl
        | false =>
          simp only [wp_bind]
          apply udevDeviceUnref_givesBack.wp own₂
          intro s₃ own₃
          -- a device that is not the one is released before the next entry
          rw [firstVerdict_pass (by rw [verdict]; rfl)]
          exact ih own₃
      · simp only [Gets] at h
        simp only [wp_bind, wp_pure]
        apply udevDeviceUnref_givesBack.wp_raised h
        intro s₃ raised
        refine ⟨rfl, raised.mono fun v hv => ?_⟩
        rw [hv] at verdict
        rw [firstVerdict_stop (by rw [verdict]; rintro ⟨⟩), verdict]
        rfl
    · simp only [wp_pure]
      refine ⟨rfl, raised.mono fun v hv => ?_⟩
      have verdict : entry.interfaceVerdict deviceSyspath interfaceNumber = .error v := by
        rw [UdevEntry.interfaceVerdict, hv]
        rfl
      rw [firstVerdict_stop (by rw [verdict]; rintro ⟨⟩), verdict]

/-- The search keeps no reference but that of the device it finds. -/
lemma findTty_ends (own : Holding m d s) (udev : Udev) (entries : List UdevEntry) :
    wp (findTty (some udev) entries)
      (Ends m d (firstVerdict UdevEntry.ttyVerdict entries)) s := by
  induction entries generalizing s with
  | nil =>
    simp only [findTty, wp_pure]
    exact ⟨rfl, own.of_eq (add_zero m).symm⟩
  | cons entry entries ih =>
    simp only [findTty, wp_bind]
    apply wp_mono (udevwGetDeviceFromSyspath_ends own udev entry.name entry.lookup)
    intro r s₁ h
    obtain ⟨dev, rfl, found, own₁⟩ | ⟨e, rfl, raised⟩ := h.elim
    · have verdict : entry.ttyVerdict =
          (if dev.info.subsystem = some "tty" then pure (some dev.info) else pure none) := by
        rw [UdevEntry.ttyVerdict, found]
        rfl
      simp only [wp_bind, wp_expect]
      refine ⟨dev, rfl, ?_⟩
      apply wp_ite
      · intro tty
        rw [if_pos tty] at verdict
        simp only [wp_pure]
        refine ⟨?_, own₁⟩
        rw [firstVerdict_stop (by rw [verdict]; rintro ⟨⟩), verdict]
        rfl
      · intro other
        rw [if_neg other] at verdict
        simp only [wp_bind]
        apply udevDeviceUnref_givesBack.wp own₁
        intro s₂ own₂
        -- a device that is not the one is released before the next entry
        rw [firstVerdict_pass (by rw [verdict]; rfl)]
        exact ih own₂
    · simp only [wp_pure]
      refine ⟨rfl, raised.mono fun v hv => ?_⟩
      have verdict : entry.ttyVerdict = .error v := by
        rw [UdevEntry.ttyVerdict, hv]
        rfl
      rw [firstVerdict_stop (by rw [verdict]; rintro ⟨⟩), verdict]

/-- The steps of a search: make the enumeration, look through it, and see that something was found. -/
lemma searchSteps {o : Except ErrorValue (List UdevEntry)} {text : String}
    {verdict : UdevEntry → Except ErrorValue (Option UdevInfo)}
    {create : Prog Fault System (Option Error × Option UdevEnumerate)}
    {find : List UdevEntry → Prog Fault System (Option Error × Option UdevDevice)}
    (created : wp create (Ends m d (o.map some)) s)
    (finds : ∀ entries m s, Holding m d s →
      wp (find entries) (Ends m d (firstVerdict verdict entries)) s) :
    wp (construct [
        into (fun _ => create) fun l x => { l with list := x },
        into (fun l => find l.entries) fun l x => { l with foundDevice := x },
        checking fun l => notReadyUnless l.foundDevice.isSome text,
        fun l => pure (none, { l with device := l.foundDevice })]
      (fun l => udevEnumerateUnref l.list) (·.device) ({} : SearchVars))
      (Ends m d ((do orNotReady text (← firstVerdict verdict (← o))).map some)) s := by
  apply Staged.construct (fun l : SearchVars => owned l.list)
    fun _ => udevEnumerateUnref_givesBack
  apply Ends.stageSome
  · exact created
  · intro e s₁ r
    refine ⟨rfl, (r.of_eq (add_zero m).symm).mono fun v hv => ?_⟩
    rw [hv]
    rfl
  intro list s₁ made own₁
  apply Ends.stage
  · exact finds _ _ _ own₁
  · intro e s₂ r
    refine ⟨rfl, r.mono fun v hv => ?_⟩
    rw [made]
    show Except.map some (firstVerdict verdict list.entries >>= orNotReady text) = .error v
    rw [show firstVerdict verdict list.entries = .error v from hv]
    rfl
  intro found s₂ searched own₂
  have outcome : (do orNotReady text (← firstVerdict verdict (← o))) =
      orNotReady text (found.map content) := by
    rw [made]
    show firstVerdict verdict list.entries >>= orNotReady text = _
    rw [show firstVerdict verdict list.entries = .ok (found.map content) from searched]
    rfl
  rw [outcome]
  -- an empty search is no error of the loop, the check behind it makes one
  cases found with
  | none =>
    apply Checked.stage
    · exact notReadyUnless_checked own₂ text
    · intro e s₃ r
      refine ⟨rfl, (r.of_eq (add_zero _)).mono fun v hv => ?_⟩
      cases hv
      rfl
    · rintro _ ⟨⟩
  | some dev =>
    apply wp_stages_checking
    simp only [notReadyUnless, Option.isSome_some, if_true, wp_pure]
    apply wp_stages_cons
    simp only [wp_pure, wp_stages_nil]
    exact ⟨rfl, own₂.of_eq (by simp only [owned_some]; abel)⟩

lemma udevwGetInterface_ends (own : Holding m d s) (udev : Udev) (deviceSyspath : String)
    (interfaceNumber : UInt8) (os : EnumerateAnswers) :
    wp (udevwGetInterface (some udev) (some deviceSyspath) interfaceNumber os)
      (Ends m d ((interfaceOutcome deviceSyspath interfaceNumber os).map some)) s := by
  simp only [udevwGetInterface, wp_bind, wp_check, wp_expect]
  refine ⟨rfl, _, rfl, ?_⟩
  exact searchSteps (udevwCreateUsbList_ends own udev os)
    fun entries m s own => findInterface_ends own udev deviceSyspath interfaceNumber entries

lemma udevwGetTty_ends (own : Holding m d s) (udev : Udev) (parent : UdevDevice)
    (os : EnumerateAnswers) :
    wp (udevwGetTty (some udev) (some parent) os) (Ends m d ((ttyOutcome os).map some)) s := by
  simp only [udevwGetTty, wp_bind, wp_check]
  refine ⟨rfl, rfl, ?_⟩
  exact searchSteps (udevwCreateChildList_ends own udev parent os)
    fun entries m s own => findTty_ends own udev entries

lemma udevwGetSyspathCopy_ends (own : Holding m d s) (dev : UdevDevice) :
    wp (udevwGetSyspathCopy (some dev)) (Ends m d (Except.map some (.ok dev.info.syspath))) s := by
  simp only [udevwGetSyspathCopy, wp_bind, wp_expect]
  exact ⟨dev, rfl, stringCopy_ends own _⟩

lemma udevwGetSysattrIfExistsCopy_ends (own : Holding m d s) (dev : UdevDevice) (name : String) :
    wp (udevwGetSysattrIfExistsCopy dev name) (Ends m d (.ok (dev.info.sysattr name))) s := by
  unfold udevwGetSysattrIfExistsCopy
  cases dev.info.sysattr name with
  | none => exact wp_pure.mpr ⟨rfl, own.of_eq (add_zero m).symm⟩
  | some str => exact stringCopy_ends own str

lemma udevwGetDevnodeCopy_ends (own : Holding m d s) (dev : UdevDevice) :
    wp (udevwGetDevnodeCopy (some dev)) (Ends m d (dev.info.getDevnode.map some)) s := by
  unfold udevwGetDevnodeCopy udevwGetDevnode UdevInfo.getDevnode
  rw [wp_bind, wp_expect]
  refine ⟨dev, rfl, ?_⟩
  rw [wp_bind]
  cases dev.info.devnode with
  | some devnode =>
    simp only [wp_pure]
    exact stringCopy_ends own devnode
  | none =>
    simp only [wp_bind, wp_pure]
    apply own.wp_create
    intro e s₁ r
    simp only [wp_pure]
    refine ⟨rfl, r.mono fun v hv => ?_⟩
    rw [hv]
    rfl

lemma udevwGetDevnodeCopyFromSyspath_ends (own : Holding m d s) (syspath : String)
    (contextCreated : Bool) (lookup : Option UdevInfo) :
    wp (udevwGetDevnodeCopyFromSyspath (some syspath) contextCreated lookup)
      (Ends m d ((devnodeOutcome syspath contextCreated lookup).map some)) s := by
  simp only [udevwGetDevnodeCopyFromSyspath, wp_bind, wp_expect]
  refine ⟨syspath, rfl, ?_⟩
  apply Staged.construct (fun l : DevnodeVars => owned l.device + owned l.context)
    fun _ => udevDeviceUnref_givesBack.seq udevUnref_givesBack
  unfold devnodeOutcome
  apply Ends.stageSome
  · exact udevwCreateContext_ends own contextCreated
  · intro e s₁ r
    refine ⟨rfl, (r.of_eq (by simp)).mono fun v hv => ?_⟩
    rw [hv]
    rfl
  intro context s₁ created own₁
  apply Ends.stageSome
  · exact udevwGetDeviceFromSyspath_ends own₁ context syspath lookup
  · intro e s₂ r
    refine ⟨rfl, (r.of_eq (by simp)).mono fun v hv => ?_⟩
    rw [created, hv]
    rfl
  intro device s₂ found own₂
  apply Ends.stageSome
  · exact udevwGetDevnodeCopy_ends own₂ device
  · intro e s₃ r
    refine ⟨rfl, (r.of_eq ?_).mono fun v hv => ?_⟩
    · simp only [owned_some]
      abel
    · rw [created, found]
      show Except.map some device.info.getDevnode = _
      rw [hv]
      rfl
  intro devnode s₃ got own₃
  rw [wp_stages_nil]
  refine ⟨?_, own₃.of_eq ?_⟩
  · rw [created, found]
    show Except.map some device.info.getDevnode = _
    rw [got]
    rfl
  · simp only [owned_some]
    abel

end Libusbp.Linux
