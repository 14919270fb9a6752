import Libusbp.Linux.UdevSpec
import Libusbp.Linux.Errno

/-!
# Device node files

The functions of `usbfd_linux.c` that open a device node and read from it. Whether a system call
fails, and with which error number, is a parameter.
-/

namespace Libusbp.Linux

open Prog Host

/-- A file descriptor other than -1. -/
structure FileDescriptor where
  ref : Nat

instance : Owned RefKind FileDescriptor := ⟨fun fd => (0, {(.file, fd.ref)})⟩

instance : Content FileDescriptor Unit := ⟨fun _ => ()⟩

/-- The fields of `struct usb_device_descriptor` that are used. -/
structure DeviceDescriptor where
  idVendor : UInt16
  idProduct : UInt16
  bcdDevice : UInt16
deriving Inhabited

def sizeofDeviceDescriptor : Int := 18

/-- The answer to a `read` of the device descriptor: an error number, or the number of bytes with
what they say. -/
abbrev ReadAnswer : Type := Except Int (Int × DeviceDescriptor)

def fileClose (fd : Option FileDescriptor) : Prog Fault System Unit :=
  release? .file (fd.map (·.ref))

/-- `access` gives an error number unless the file exists. -/
def usbfdCheckExistence (strerror : Int → Option String) (filename : Option String)
    (access : Option Int) : Prog Fault System (Option Error) := do
  let filename ← expect .nullPointer filename
  match access with
  | none => pure none
  | some errno =>
    if errno = enoent then
      inHeap do
        let error ← errorCreate s!"File does not exist: {filename}."
        errorAddCode error ErrorCode.notReady
    else inHeap (errorCreateErrno strerror errno s!"Failed to check file: {filename}.")

/-- `open` gives an error number unless it succeeds. -/
def usbfdOpen (strerror : Int → Option String) (filename : Option String) (opened : Option Int) :
    Prog Fault System (Option Error × Option FileDescriptor) := do
  let filename ← expect .assertion filename
  match opened with
  | none => do
    let ref ← acquire .file
    pure (none, some ⟨ref⟩)
  | some errno => do
    let error ← inHeap (errorCreateErrno strerror errno s!"Failed to open USB device {filename}.")
    pure (error, none)

/-- `lseek` gives an error number unless it succeeds. -/
def usbfdGetDeviceDescriptor (strerror : Int → Option String) (lseek : Option Int)
    (read : ReadAnswer) : Prog Fault System (Option Error × DeviceDescriptor) :=
  match lseek with
  | some errno => do
    let error ← inHeap
      (errorCreateErrno strerror errno "Failed to go to beginning of USB device file.")
    pure (error, default)
  | none =>
    match read with
    | .error errno => do
      let error ← inHeap (errorCreateErrno strerror errno "Failed to read device descriptor.")
      pure (error, default)
    | .ok (size, desc) =>
      -- what was read is in the output all the same
      if size ≠ sizeofDeviceDescriptor then do
        let error ← inHeap (errorCreate (s!"Failed to read device descriptor.  " ++
          s!"Expected {sizeofDeviceDescriptor}-byte device descriptor, read {size} bytes."))
        pure (error, desc)
      else pure (none, desc)

/-- The value of an error that `error_create_errno` makes. -/
def errnoError (strerror : Int → Option String) (errno : Int) (format : String) : ErrorValue :=
  chainValue (.ofText s!"Error code {errno}.") (errnoSteps strerror errno format)

def existenceOutcome (strerror : Int → Option String) (filename : String) (access : Option Int) :
    Except ErrorValue Unit :=
  match access with
  | none => .ok ()
  | some errno =>
    if errno = enoent then .error (notReadyError s!"File does not exist: {filename}.")
    else .error (errnoError strerror errno s!"Failed to check file: {filename}.")

def openOutcome (strerror : Int → Option String) (filename : String) (opened : Option Int) :
    Except ErrorValue Unit :=
  match opened with
  | none => .ok ()
  | some errno => .error (errnoError strerror errno s!"Failed to open USB device {filename}.")

def descriptorOutcome (strerror : Int → Option String) (lseek : Option Int) (read : ReadAnswer) :
    Except ErrorValue DeviceDescriptor :=
  match lseek with
  | some errno =>
    .error (errnoError strerror errno "Failed to go to beginning of USB device file.")
  | none =>
    match read with
    | .error errno => .error (errnoError strerror errno "Failed to read device descriptor.")
    | .ok (size, desc) =>
      if size ≠ sizeofDeviceDescriptor then
        .error (.ofText (s!"Failed to read device descriptor.  " ++
          s!"Expected {sizeofDeviceDescriptor}-byte device descriptor, read {size} bytes."))
      else .ok desc

variable {m : Holdings RefKind} {d : Nat} {s : System}

lemma fileClose_givesBack {fd : Option FileDescriptor} : GivesBack (fileClose fd) (owned fd) := by
  apply GivesBack.release?.of_eq
  cases fd <;> rfl

/-- A new error for an error number. -/
lemma Holding.wp_createErrno (own : Holding m d s) (strerror : Int → Option String) (errno : Int)
    (format : String) {Q : Option Error → System → Prop}
    (post : ∀ e s', Raised m d (· = errnoError strerror errno format) e s' → Q (some e) s') :
    wp (inHeap (errorCreateErrno strerror errno format)) Q s := by
  rw [errorCreateErrno_eq]
  exact own.wp_createChain _ (errnoSteps_additions ..) (by decide) post

lemma usbfdCheckExistence_checked (own : Holding m d s) (strerror : Int → Option String)
    (filename : String) (access : Option Int) :
    wp (usbfdCheckExistence strerror (some filename) access)
      (Checked m d (existenceOutcome strerror filename access)) s := by
  simp only [usbfdCheckExistence, wp_bind, wp_expect]
  refine ⟨filename, rfl, ?_⟩
  cases access with
  | none => exact wp_pure.mpr ⟨rfl, own⟩
  | some errno =>
    unfold existenceOutcome
    apply wp_ite
    · intro missing
      rw [wp_inHeap_bind]
      apply own.wp_create
      intro e s₁ r
      apply r.wp_addCode
      · rintro _ rfl
        show 0 < sizeMax / sizeofUInt32
        decide
      · intro e' s₂ r'
        apply r'.mono
        rintro _ ⟨_, rfl, rfl⟩
        exact if_pos missing
    · intro other
      apply Holding.wp_createErrno own
      intro e s₁ r
      apply r.mono
      rintro _ rfl
      exact if_neg other

lemma usbfdOpen_ends (own : Holding m d s) (strerror : Int → Option String) (filename : String)
    (opened : Option Int) :
    wp (usbfdOpen strerror (some filename) opened)
      (Ends m d ((openOutcome strerror filename opened).map some)) s := by
  unfold usbfdOpen
  rw [wp_bind, wp_expect]
  refine ⟨filename, rfl, ?_⟩
  cases opened with
  | none => exact own.acquire_ends (fun _ => rfl) fun _ => rfl
  | some errno =>
    simp only [wp_bind, wp_pure]
    apply Holding.wp_createErrno own
    intro e s₁ r
    exact ⟨rfl, r.mono (by rintro _ rfl; rfl)⟩

lemma usbfdGetDeviceDescriptor_gets (own : Holding m d s) (strerror : Int → Option String)
    (lseek : Option Int) (read : ReadAnswer) :
    wp (usbfdGetDeviceDescriptor strerror lseek read)
      (Gets m d (descriptorOutcome strerror lseek read)) s := by
  unfold usbfdGetDeviceDescriptor descriptorOutcome
  cases lseek with
  | some errno =>
    simp only [wp_bind, wp_pure]
    apply Holding.wp_createErrno own
    intro e s₁ r
    exact r.mono (by rintro _ rfl; rfl)
  | none =>
    cases read with
    | error errno =>
      simp only [wp_bind, wp_pure]
      apply Holding.wp_createErrno own
      intro e s₁ r
      exact r.mono (by rintro _ rfl; rfl)
    | ok answer =>
      obtain ⟨size, desc⟩ := answer
      dsimp only
      apply wp_ite
      · intro short
        rw [if_pos short]
        exact own.raise_gets _ _
      · intro whole
        rw [if_neg whole, wp_pure]
        exact ⟨rfl, own⟩

end Libusbp.Linux
