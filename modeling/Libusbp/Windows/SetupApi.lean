import Libusbp.Strings
import Libusbp.Windows.Error

/-!
# SetupAPI

Device information lists. A call of SetupAPI may fail at any time, so its answers are parameters: an
answer is an error code or what the call yields. A list and a registry key are references that the
caller gives back.
-/

namespace Libusbp.Windows

open Prog Host

/-- The kinds of references that a program on Windows holds. -/
inductive RefKind where
  | deviceInfoList
  | registryKey
deriving DecidableEq, Repr

abbrev System : Type := Host RefKind

def errorInvalidHandle : UInt32 := 6
def errorInvalidData : UInt32 := 13
def errorInsufficientBuffer : UInt32 := 122
def errorNoMoreItems : UInt32 := 259

/-- What `SetupDiGetDeviceRegistryProperty` answers about the hardware IDs: to the call that asks for
the size, an error code or none and the size; to the other call, the data type and the bytes that it
writes to the buffer. -/
structure HardwareIdAnswers where
  sizeError : Option UInt32
  size : UInt32
  ids : Except UInt32 (UInt32 × (Nat → UInt8))

/-- `SP_DEVINFO_DATA`, with the answers about the device that is in it. -/
structure DevInfo where
  devInst : UInt32
  /-- `SetupDiGetDeviceInstanceId` -/
  instanceId : Except UInt32 String
  hardwareIds : HardwareIdAnswers
  /-- `CM_Get_Parent` -/
  parent : Except UInt32 UInt32
  /-- `CM_Get_Device_ID` -/
  deviceId : Except UInt32 String

/-- What enumerating a list yields: devices, each addressed by a `DWORD`, and then an error code. -/
structure DevInfoList where
  devices : List DevInfo
  last : UInt32
  addressed : devices.length < 2 ^ 32

/-- `HDEVINFO`, where `INVALID_HANDLE_VALUE` is no list. -/
structure DevInfoSet where
  ref : Nat
  contents : DevInfoList

instance : Owned RefKind DevInfoSet := ⟨fun list => (0, {(.deviceInfoList, list.ref)})⟩

instance : Content DevInfoSet DevInfoList := ⟨(·.contents)⟩

/-- The list, or what `GetLastError` returns instead. -/
def setupDiGetClassDevs (answer : Except UInt32 DevInfoList) :
    Prog Fault System (Except UInt32 DevInfoSet) :=
  match answer with
  | .error errorCode => pure (.error errorCode)
  | .ok contents => do
    let ref ← acquire .deviceInfoList
    pure (.ok ⟨ref, contents⟩)

def setupDiDestroyDeviceInfoList (list : Option DevInfoSet) : Prog Fault System Unit :=
  release? .deviceInfoList (list.map (·.ref))

/-- `SetupDiEnumDeviceInfo`, which fails on a list that is none. -/
def setupDiEnumDeviceInfo (list : Option DevInfoSet) (i : Nat) : Except UInt32 DevInfo :=
  match list with
  | none => .error errorInvalidHandle
  | some list => list.contents.devices[i]?.elim (.error list.contents.last) .ok

def maxDeviceIdLen : Nat := 200

/-- `create_id_string`, with what `SetupDiGetDeviceInstanceId` answers. -/
def createIdString (formatMessage : UInt32 → String) (instanceId : Except UInt32 String) :
    Prog Fault System (Option Error × Option (Box String)) := do
  match ← new (maxDeviceIdLen + 1) () with
  | none => pure (some errorNoMemory, none)
  | some newId =>
    match instanceId with
    | .error errorCode => do
      free (some newId)
      let error ← inHeap
        (errorCreateWinapi formatMessage errorCode "Error getting device instance ID.")
      pure (error, none)
    | .ok id => pure (none, some ⟨newId.addr, id⟩)

/-- The value of an error that `error_create_winapi` makes. -/
def winapiError (formatMessage : UInt32 → String) (errorCode : UInt32) (format : String) :
    ErrorValue :=
  chainValue (.ofText ("Windows error code 0x" ++ formatHex 0 errorCode.toNat ++ "."))
    (winapiSteps formatMessage errorCode format)

/-- The value of an error that `error_create_cr` makes. -/
def crError (cr : UInt32) (format : String) : ErrorValue :=
  (ErrorValue.ofText ("CONFIGRET error code 0x" ++ formatHex 0 cr.toNat ++ ".")).addText format

variable {m : Holdings RefKind} {d : Nat} {s : System}

/-- A new error for the error code of a call that failed. -/
lemma wp_createWinapiError {κ : Type} [DecidableEq κ] {m : Holdings κ} {s : Host κ}
    (own : Holding m d s) (formatMessage : UInt32 → String) (errorCode : UInt32) (format : String)
    {Q : Option Error → Host κ → Prop}
    (post : ∀ e s', Raised m d (· = winapiError formatMessage errorCode format) e s' →
      Q (some e) s') :
    wp (inHeap (errorCreateWinapi formatMessage errorCode format)) Q s := by
  rw [errorCreateWinapi_eq]
  exact own.wp_createChain _ (winapiSteps_additions ..) (by decide) post

/-- A new error with one more text. -/
lemma wp_createWithText {κ : Type} [DecidableEq κ] {m : Holdings κ} {s : Host κ}
    (own : Holding m d s) (start format : String) {Q : Option Error → Host κ → Prop}
    (post : ∀ e s', Raised m d (· = (ErrorValue.ofText start).addText format) e s' → Q (some e) s') :
    wp (inHeap do
      let error ← errorCreate start
      errorAddV error format) Q s := by
  have chain : (do
      let error ← errorCreate start
      errorAddV error format : Prog Fault Heap _) = errorChain none [.create start, .addV format] := by
    simp only [errorChain, ErrorStep.exec, bind_pure]
  rw [chain]
  exact own.wp_createChain _ (.addV format) (by decide) post

/-- A new error for a `CONFIGRET` code. -/
lemma wp_createCrError (own : Holding m d s) (cr : UInt32) (format : String)
    {Q : Option Error → System → Prop}
    (post : ∀ e s', Raised m d (· = crError cr format) e s' → Q (some e) s') :
    wp (inHeap (errorCreateCr cr format)) Q s := wp_createWithText own _ _ post

/-- The value of an error that `error_create_hr` makes. -/
def hrError (hr : UInt32) (format : String) : ErrorValue :=
  (ErrorValue.ofText ("HRESULT error code 0x" ++ formatHex 0 hr.toNat ++ ".")).addText format

/-- A new error for an `HRESULT` code. -/
lemma wp_createHrError {κ : Type} [DecidableEq κ] {m : Holdings κ} {s : Host κ}
    (own : Holding m d s) (hr : UInt32) (format : String) {Q : Option Error → Host κ → Prop}
    (post : ∀ e s', Raised m d (· = hrError hr format) e s' → Q (some e) s') :
    wp (inHeap (errorCreateHr hr format)) Q s := wp_createWithText own _ _ post

lemma setupDiDestroyDeviceInfoList_givesBack {list : Option DevInfoSet} :
    GivesBack (setupDiDestroyDeviceInfoList list) (owned list) := by
  apply GivesBack.release?.of_eq
  cases list <;> rfl

/-- Opening a list yields a list to destroy, or an error code. -/
lemma wp_setupDiGetClassDevs (own : Holding m d s) {answer : Except UInt32 DevInfoList}
    {Q : Except UInt32 DevInfoSet → System → Prop}
    (opened : ∀ list s', answer = .ok list.contents → Holding (m + owned list) d s' → Q (.ok list) s')
    (failed : ∀ errorCode, answer = .error errorCode → Q (.error errorCode) s) :
    wp (setupDiGetClassDevs answer) Q s := by
  cases answer with
  | error errorCode => exact wp_pure.mpr (failed errorCode rfl)
  | ok contents =>
    simp only [setupDiGetClassDevs, wp_bind, wp_pure]
    apply own.owns.wp_acquire
    exact fun n s' own' hd => opened ⟨n, contents⟩ s' rfl ⟨own', hd.trans own.denials⟩

lemma createIdString_makes (own : Holding m d s) (formatMessage : UInt32 → String)
    (instanceId : Except UInt32 String) :
    wp (createIdString formatMessage instanceId) (Makes instanceId.toOption m d) s := by
  simp only [createIdString, wp_bind]
  apply own.owns.wp_new (by decide) rfl
  · intro newId s₁ _ own₁ hd₁
    have own₁ : Holding (m + owned newId) d s₁ := ⟨own₁, hd₁.trans own.denials⟩
    cases instanceId with
    | error errorCode =>
      simp only [wp_bind, wp_pure]
      apply GivesBack.freeBlock.wp own₁
      intro s₂ own₂
      apply wp_createWinapiError own₂
      exact fun e s₃ r => ⟨rfl, r.mono fun _ _ => rfl⟩
    | ok id =>
      rw [wp_pure]
      exact ⟨_, rfl, rfl, own₁⟩
  · intro s₁ own₁ hd₁
    rw [wp_pure]
    exact ⟨rfl, .denied own₁ (by rw [hd₁, own.denials])⟩

lemma createIdString_ended (own : Holding m d s) (formatMessage : UInt32 → String)
    (instanceId : Except UInt32 String) :
    wp (createIdString formatMessage instanceId)
      (Ended (fun id => instanceId = .ok id.val) m d) s := by
  apply wp_mono (createIdString_makes own formatMessage instanceId)
  refine fun _ _ makes => makes.ended.mono fun id there => ?_
  cases instanceId with
  | error errorCode => cases there
  | ok id' => exact congrArg Except.ok (Option.some.inj there)

/-- `error_create_winapi` always makes an error. -/
lemma errorCreateWinapi_yields (formatMessage : UInt32 → String) (errorCode : UInt32)
    (format : String) :
    Yields (inHeap (errorCreateWinapi formatMessage errorCode format) : Prog Fault System _)
      (· ≠ none) := yields_of_made (made_createWinapi formatMessage errorCode format)

/-- An ID that was created without an error is there. -/
lemma createIdString_none {formatMessage : UInt32 → String} {instanceId : Except UInt32 String}
    {x : Option (Box String)} {s s' : System}
    (run : createIdString formatMessage instanceId s = .ok ((none, x), s')) : ∃ b, x = some b := by
  obtain ⟨newId, s₁, _, run⟩ := bind_ok run
  cases newId with
  | none => cases run
  | some newId =>
    cases instanceId with
    | ok id =>
      cases run
      exact ⟨_, rfl⟩
    | error errorCode =>
      obtain ⟨_, s₂, _, run⟩ := bind_ok run
      obtain ⟨error, s₃, made, run⟩ := bind_ok run
      cases run
      exact absurd rfl (errorCreateWinapi_yields _ _ _ _ _ _ made)

end Libusbp.Windows
