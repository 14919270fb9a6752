import Libusbp.Among
import Libusbp.Windows.Copying

/-!
# Opening a generic handle on Windows

The functions of `generic_handle_windows.c` that open and close a handle. A handle owns the handle of a
file and a handle of WinUSB, which is given back ahead of the file.
-/

namespace Libusbp.Windows

open Prog Host

/-- The kinds of handles that a generic handle holds. -/
inductive HandleKind where
  | file
  | winusb
deriving DecidableEq, Repr

/-- The state of a program on Windows that holds generic handles as well. -/
abbrev HandleSystem : Type := Host (RefKind ⊕ HandleKind)

/-- `HANDLE` of a file -/
structure FileHandle where
  ref : Nat

/-- `WINUSB_INTERFACE_HANDLE` -/
structure WinUsbHandle where
  ref : Nat

/-- `struct libusbp_generic_handle`, where `INVALID_HANDLE_VALUE` is no handle. -/
structure GenericHandle where
  fileHandle : Option FileHandle := none
  winusbHandle : Option WinUsbHandle := none

def sizeofGenericHandle : Nat := 16

instance : Owned (RefKind ⊕ HandleKind) FileHandle := ⟨fun handle => (0, {(.inr .file, handle.ref)})⟩

instance : Content FileHandle Unit := ⟨fun _ => ()⟩

instance : Owned (RefKind ⊕ HandleKind) WinUsbHandle :=
  ⟨fun handle => (0, {(.inr .winusb, handle.ref)})⟩

instance : Content WinUsbHandle Unit := ⟨fun _ => ()⟩

instance : Owned (RefKind ⊕ HandleKind) GenericHandle :=
  ⟨fun gh => owned gh.winusbHandle + owned gh.fileHandle⟩

/-- Which of the handles are valid, that of the file first. -/
instance : Content GenericHandle (Bool × Bool) :=
  ⟨fun gh => (gh.fileHandle.isSome, gh.winusbHandle.isSome)⟩

/-- What Windows answers to one `libusbp_generic_handle_open`, with the error codes of the calls that
fail. -/
structure HandleAnswers where
  createFile : String → Option UInt32
  winUsbInitialize : Option UInt32

/-- The variables of `libusbp_generic_handle_open`. -/
structure HandleVars where
  newGh : Option (Box GenericHandle) := none
  filename : Option (Box String) := none
  gh : Option (Box GenericHandle) := none

/-- A call of Windows that yields a handle of a kind, or fails with an error code. -/
def openHandle {α : Type} (formatMessage : UInt32 → String) (kind : HandleKind) (handle : Nat → α)
    (failed : Option UInt32) (format : String) : Prog Fault HandleSystem (Option Error × Option α) :=
  match failed with
  | some errorCode => do
    let error ← inHeap (errorCreateWinapi formatMessage errorCode format)
    pure (error, none)
  | none => do
    let ref ← acquire (.inr kind)
    pure (none, some (handle ref))

/-- Assign to the fields of the new handle. -/
def HandleVars.assign (l : HandleVars) (f : GenericHandle → GenericHandle) : HandleVars :=
  { l with newGh := l.newGh.map fun gh => ⟨gh.addr, f gh.val⟩ }

/-- The steps of `libusbp_generic_handle_open`. -/
def handleSteps (formatMessage : UInt32 → String) (gi : Box GenericInterface) (os : HandleAnswers) :
    List (HandleVars → Prog Fault HandleSystem (Option Error × HandleVars)) := [
  into (fun _ => allocate sizeofGenericHandle {}) fun l x => { l with newGh := x },
  into (fun _ => among (genericInterfaceGetOsFilename gi true)) fun l x => { l with filename := x },
  into (fun l => do
    let _ ← expect .nullPointer l.newGh
    let filename ← expect .nullPointer (text l.filename)
    openHandle formatMessage .file FileHandle.mk (os.createFile filename)
      "Failed to open generic handle.") fun l x => l.assign fun gh => { gh with fileHandle := x },
  into (fun l => do
    let newGh ← expect .nullPointer l.newGh
    -- the file was opened, so this is no invalid handle
    let _ ← expect .nullPointer newGh.val.fileHandle
    openHandle formatMessage .winusb WinUsbHandle.mk os.winUsbInitialize
      "Failed to initialize WinUSB.") fun l x => l.assign fun gh => { gh with winusbHandle := x },
  fun l => pure (none, { l with gh := l.newGh, newGh := none })]

def genericHandleClose (gh : Option (Box GenericHandle)) : Prog Fault HandleSystem Unit :=
  match gh with
  | none => pure ()
  | some gh => do
    release? (.inr .winusb) (gh.val.winusbHandle.map (·.ref))
    release? (.inr .file) (gh.val.fileHandle.map (·.ref))
    free (some gh)

def HandleVars.cleanUp (l : HandleVars) : Prog Fault HandleSystem Unit := do
  stringFree l.filename
  genericHandleClose l.newGh

def genericHandleOpen (formatMessage : UInt32 → String) (gi : Option (Box GenericInterface))
    (gh : Bool) (os : HandleAnswers) :
    Prog Fault HandleSystem (Option Error × Option (Box GenericHandle)) :=
  opening gi gh fun gi =>
    construct (handleSteps formatMessage gi os) HandleVars.cleanUp (·.gh) {}

/-- What a call that yields a handle comes to. -/
def handleOutcome (formatMessage : UInt32 → String) (failed : Option UInt32) (format : String) :
    Except ErrorValue Unit :=
  match failed with
  | some errorCode => .error (winapiError formatMessage errorCode format)
  | none => .ok ()

/-- The outcome of `libusbp_generic_handle_open` for an interface with the given filename. -/
def openOutcome (formatMessage : UInt32 → String) (filename : String) (os : HandleAnswers) :
    Except ErrorValue (Bool × Bool) := do
  handleOutcome formatMessage (os.createFile filename) "Failed to open generic handle."
  handleOutcome formatMessage os.winUsbInitialize "Failed to initialize WinUSB."
  pure (true, true)

/-- What the variables hold besides the handle that is handed out. -/
def HandleVars.others (l : HandleVars) : Holdings (RefKind ⊕ HandleKind) :=
  owned l.filename + owned l.newGh

variable {m : Holdings (RefKind ⊕ HandleKind)} {d : Nat} {s : HandleSystem}
  {formatMessage : UInt32 → String}

lemma genericHandleClose_givesBack {gh : Option (Box GenericHandle)} :
    GivesBack (genericHandleClose gh) (owned gh) := by
  cases gh with
  | none => exact .nothing
  | some gh =>
    have winusb : GivesBack (release? (.inr .winusb) (gh.val.winusbHandle.map (·.ref)))
        (owned gh.val.winusbHandle : Holdings (RefKind ⊕ HandleKind)) := by
      apply GivesBack.release?.of_eq
      cases gh.val.winusbHandle <;> rfl
    have file : GivesBack (release? (.inr .file) (gh.val.fileHandle.map (·.ref)))
        (owned gh.val.fileHandle : Holdings (RefKind ⊕ HandleKind)) := by
      apply GivesBack.release?.of_eq
      cases gh.val.fileHandle <;> rfl
    apply (winusb.seq (file.seq (.freeBlock (b := gh)))).of_eq
    rw [owned_some, owned_box]
    show _ = _ + (owned gh.val.winusbHandle + owned gh.val.fileHandle)
    abel

lemma owned_handle {addr : Addr} {gh : GenericHandle} :
    (owned (⟨addr, gh⟩ : Box GenericHandle) : Holdings (RefKind ⊕ HandleKind)) =
      ({.heap addr}, 0) + (owned gh.winusbHandle + owned gh.fileHandle) := rfl

lemma HandleVars.cleanUp_givesBack (l : HandleVars) : GivesBack l.cleanUp l.others :=
  .seq stringFree_givesBack genericHandleClose_givesBack

/-- The call yields a handle, or an error and no handle. -/
lemma openHandle_ends {α : Type} [Owned (RefKind ⊕ HandleKind) α] [Content α Unit]
    (own : Holding m d s) {kind : HandleKind} {handle : Nat → α}
    (owns : ∀ n, (owned (handle n) : Holdings (RefKind ⊕ HandleKind)) = (0, {(.inr kind, n)}))
    (failed : Option UInt32) (format : String) :
    wp (openHandle formatMessage kind handle failed format)
      (Ends m d ((handleOutcome formatMessage failed format).map some)) s := by
  cases failed with
  | some errorCode =>
    simp only [openHandle, wp_bind, wp_pure]
    apply wp_createWinapiError own
    exact fun e s₁ r => ⟨rfl, r.mono fun _ hv => by rw [hv]; rfl⟩
  | none => exact own.acquire_ends owns fun _ => rfl

/-- A handle without valid handles is the one that was allocated. -/
lemma handle_blank {gh : GenericHandle} (same : content ({} : GenericHandle) = content gh) :
    gh = {} := by
  obtain ⟨fileHandle, winusbHandle⟩ := gh
  obtain ⟨file, winusb⟩ := Prod.mk.inj same
  cases fileHandle with
  | some handle => cases file
  | none =>
    cases winusbHandle with
    | some handle => cases winusb
    | none => rfl

/-- The steps open both handles, or what was opened is left to the cleaning up. -/
lemma handleSteps_staged (own : Holding m d s) {gi : Box GenericInterface} {filename : String}
    (hfilename : text gi.val.filename = some filename) (os : HandleAnswers) :
    wp (stages (handleSteps formatMessage gi os) {}) (Staged (·.gh) HandleVars.others m d
      ((openOutcome formatMessage filename os).map some)) s := by
  unfold handleSteps openOutcome
  apply Ends.stageSome
  · exact allocate_ends own (by decide) rfl
  · intro e s₁ r
    exact ⟨rfl, (r.of_eq (by simp [HandleVars.others])).of_ok⟩
  intro newGh s₁ made own₁
  have blank : newGh.val = {} := handle_blank (Except.ok.inj made)
  obtain ⟨addr, val⟩ := newGh
  obtain rfl : val = {} := blank
  have copies : ∀ m s, Holding m d s → wp (genericInterfaceGetOsFilename (some gi) true)
      (Ends m d (Except.map some (.ok filename))) s := by
    intro m s own
    simp only [genericInterfaceGetOsFilename, getString, hfilename, Bool.true_eq_false, if_false]
    exact stringCopy_ends own filename
  apply Ends.stageSome
  · exact own₁.among_ends owned_string_widen copies
  · intro e s₂ r
    exact ⟨rfl, (r.of_eq (by simp [HandleVars.others])).of_ok⟩
  intro newFilename s₂ named own₂
  have path : text (some newFilename) = some filename := congrArg some (Except.ok.inj named).symm
  apply Ends.stageSome
  · simp only [wp_bind, wp_expect, path]
    exact ⟨_, rfl, _, rfl, openHandle_ends own₂ (fun _ => rfl) _ _⟩
  · intro e s₃ r
    refine ⟨rfl, (r.of_eq ?_).mono fun v hv => ?_⟩
    · simp only [HandleVars.others, HandleVars.assign, owned_some, Option.map_some]
      abel
    · rw [error_bind hv]
      rfl
  intro fileHandle s₃ opened own₃
  rw [ok_bind opened]
  apply Ends.stageSome
  · simp only [wp_bind, wp_expect]
    exact ⟨_, rfl, _, rfl, openHandle_ends own₃ (fun _ => rfl) _ _⟩
  · intro e s₄ r
    refine ⟨rfl, (r.of_eq ?_).mono fun v hv => ?_⟩
    · simp only [HandleVars.others, HandleVars.assign, owned_some, owned_none, Option.map_some,
        owned_handle]
      abel
    · rw [error_bind hv]
      rfl
  intro winusbHandle s₄ initialized own₄
  rw [ok_bind initialized]
  apply wp_stages_cons
  simp only [wp_pure, wp_stages_nil]
  refine ⟨rfl, own₄.of_eq ?_⟩
  simp only [HandleVars.others, HandleVars.assign, owned_some, owned_none, Option.map_some,
    owned_handle]
  abel

lemma genericHandleOpen_ends (own : Holding m d s) {gi : Option (Box GenericInterface)}
    (built : ∀ b, gi = some b → (content b).Built) (gh : Bool) (os : HandleAnswers) :
    wp (genericHandleOpen formatMessage gi gh os) (Ends m d ((openingOutcome gi gh fun gi =>
      openOutcome formatMessage ((text gi.val.filename).getD "") os).map some)) s := by
  apply own.opening_ends
  intro b there
  obtain ⟨filename, hfilename⟩ := Option.ne_none_iff_exists'.mp (built b there).filename
  have said : text b.val.filename = some filename := hfilename
  rw [said]
  exact Staged.construct _ HandleVars.cleanUp_givesBack (handleSteps_staged own said os)

/-- Whatever Windows answers and whatever requests for memory are denied, `libusbp_generic_handle_open`
returns a handle, or an error and no handle, as the answers say, and keeps nothing else. Closing the
handle gives back everything that opening it took. -/
theorem genericHandleOpen_opens (own : s.Owns m) {gi : Option (Box GenericInterface)}
    (built : ∀ b, gi = some b → (content b).Built) (gh : Bool) (os : HandleAnswers) :
    wp (genericHandleOpen formatMessage gi gh os) (Opens m s.denials
      (openingOutcome gi gh fun gi =>
        openOutcome formatMessage ((text gi.val.filename).getD "") os) genericHandleClose) s := by
  apply wp_mono (genericHandleOpen_ends ⟨own, rfl⟩ built gh os)
  exact fun _ _ h => h.opens fun _ => genericHandleClose_givesBack

/-- The file can be opened, but it does not belong to WinUSB. -/
theorem genericHandleOpen_opens_example :
    let gi : Box GenericInterface := ⟨5, ⟨2, some ⟨6, "USB\\VID_1FFB"⟩, some ⟨7, "\\\\?\\usb#vid_1ffb"⟩⟩⟩
    let os : HandleAnswers := ⟨fun _ => none, some errorGenFailure⟩
    let s : HandleSystem := ⟨⟨fun _ => true, 0, []⟩, 0, []⟩
    (content gi).Built ∧ wp (genericHandleOpen (fun _ => "") gi true os) (Opens 0 0
      (openingOutcome (some gi) true fun gi =>
        openOutcome (fun _ => "") ((text gi.val.filename).getD "") os) genericHandleClose) s := by
  intro gi os s
  have built : (content gi).Built := ⟨Option.some_ne_none _, Option.some_ne_none _⟩
  exact ⟨built, genericHandleOpen_opens (.empty _) (by rintro _ ⟨⟩; exact built) true os⟩

end Libusbp.Windows
