import Libusbp.Windows.GenericInterface
import Libusbp.Windows.NodeSearch

/-!
# Lists and keys are closed

Which of the functions that open a device information list or a registry key close it on every exit,
and never use one that was not opened.
-/

namespace Libusbp.Windows

open Prog Host

variable {α : Type}

instance : Owned RefKind Guid := ⟨fun _ => 0⟩

/-- A function returned: besides `m`, what it handed out and its error, everything that it acquired was
given back exactly once. With an error nothing is handed out. -/
structure Disciplined [Owned RefKind α] (m : Holdings RefKind) (r : Option Error × α) (s : System) :
    Prop where
  settled : s.Settled (m + owned r.2 + (errorBlocks r.1, 0))
  nothing : r.1 ≠ none → (owned r.2 : Holdings RefKind) = 0

/-- Whether the two calls in front of the request for the memory of the details succeed. -/
def FilenameAnswers.reachesDetails (os : FilenameAnswers) : Bool :=
  os.interfaceData.isNone && os.sizeError.all (· == errorInsufficientBuffer)

/-- Whether `get_filename_from_devinst_and_guid` asks for the memory of the details. -/
def FilenameAnswers.asksForDetails (os : FilenameAnswers) (devinst : UInt32) : Bool :=
  (os.devices.toOption.any fun list => list.devices.any (·.devInst == devinst)) && os.reachesDetails

/-- The size of the buffer that `get_first_device_interface_guid` asks for, if it does. -/
def GuidAnswers.bufferSize (os : GuidAnswers) : Option UInt32 :=
  if os.keyError.isNone then os.size.toOption else none

/-- A value of the registry with several strings, the first of which ends within the bytes of the
value. -/
def RegistryValue.firstStringEnds (value : RegistryValue) : Prop :=
  value.dataType = regMultiSz → (wideChars value.bytes).contains 0 = true

variable {m : Holdings RefKind} {d : Nat} {s : System} {formatMessage : UInt32 → String}

lemma disciplined_of_ended [Owned RefKind α] {P : α → Prop} {r : Option Error × Option α}
    (ended : Ended P m d r s) : Disciplined m r s := by
  obtain ⟨_ | e, x⟩ := r
  · obtain ⟨a, rfl, _, own⟩ := ended
    exact ⟨(own.owns.of_eq (add_zero _).symm).settled, fun h => absurd rfl h⟩
  · obtain ⟨rfl, raised⟩ := ended
    refine ⟨(raised.owns.of_eq ?_).settled, fun _ => rfl⟩
    rw [owned_none, add_zero]
    rfl

/-- A function that returned for lack of memory and still holds a reference is not disciplined. -/
lemma not_disciplined [Owned RefKind α] {x : α} {ref : RefKind × Nat}
    (bare : (owned x : Holdings RefKind) = 0) (own : s.Owns (m + (0, {ref}))) :
    ¬Disciplined m (some errorNoMemory, x) s := by
  intro disciplined
  have same := own.unique disciplined.settled.owns
  rw [bare, show errorBlocks (some errorNoMemory) = 0 from errorNoMemory_blocks] at same
  have kept : ((0, {ref}) : Holdings RefKind) = 0 := by
    apply add_left_cancel (a := m)
    rw [same]
    exact add_zero _
  exact Multiset.singleton_ne_zero ref (congrArg Prod.snd kept)

/-- Opening a list makes no request for memory. -/
lemma setupDiGetClassDevs_heap {answer : Except UInt32 DevInfoList} {r : Except UInt32 DevInfoSet}
    {s' : System} (run : setupDiGetClassDevs answer s = .ok (r, s')) : s'.heap = s.heap := by
  cases answer with
  | error errorCode => cases run; rfl
  | ok contents => cases run; rfl

lemma setupDiOpenDevRegKey_heap {failure : Option UInt32} {r : Except UInt32 RegistryKey}
    {s' : System} (run : setupDiOpenDevRegKey failure s = .ok (r, s')) : s'.heap = s.heap := by
  cases failure with
  | some errorCode => cases run; rfl
  | none => cases run; rfl

/-- The loop finds the device and leaves everything as it is, or closes the list. -/
lemma filenameLoop_ends {list : DevInfoSet} (own : Holding (m + owned list) d s) (devinst : UInt32) :
    wp (loopWith .endless (filenameRound formatMessage devinst list) (deviceCount list + 1) 0)
      (fun r s' => match r with
        | none => list.contents.devices.any (·.devInst == devinst) = true ∧ s = s'
        | some e => list.contents.devices.any (·.devInst == devinst) = false ∧
          Raised m d (fun _ => True) e s') s := by
  -- the devices in front of the index are others
  apply wp_loopWith (fun i s' => (list.contents.devices.take i).any (·.devInst == devinst) = false ∧
    s = s') fun i => list.contents.devices.length - i
  · rintro i s₁ ⟨passed, rfl⟩
    simp only [filenameRound, setupDiEnumDeviceInfo]
    cases h : list.contents.devices[i]? with
    | none =>
      have all : list.contents.devices.any (·.devInst == devinst) = false := by
        rwa [List.take_of_length_le (List.getElem?_eq_none_iff.mp h)] at passed
      simp only [Option.elim_none]
      apply wp_ite
      · intro _
        rw [wp_bind]
        apply setupDiDestroyDeviceInfoList_givesBack.wp own
        intro s₂ own₂
        have error := notReadyUnless_checked own₂
          "Could not find matching device in order to get its filename."
        simp only [notReadyUnless, Bool.false_eq_true, if_false] at error
        simp only [wp_bind (x := inHeap _), wp_pure]
        apply wp_mono error
        rintro (_ | e) s₃ checked
        · exact absurd checked.1 (by rintro ⟨⟩)
        · exact ⟨all, Raised.any checked⟩
      · intro _
        simp only [wp_bind, wp_pure]
        apply wp_createWinapiError own
        intro e s₂ r
        apply setupDiDestroyDeviceInfoList_givesBack.wp_raised r
        exact fun s₃ r => ⟨all, r.any⟩
    | some info =>
      obtain ⟨lt, rfl⟩ := List.getElem?_eq_some_iff.mp h
      simp only [Option.elim_some]
      rw [wp_pure]
      by_cases same : (list.contents.devices[i]).devInst = devinst
      · rw [if_pos same]
        refine ⟨?_, rfl⟩
        rw [List.any_eq_true]
        exact ⟨_, List.getElem_mem lt, by rw [beq_iff_eq, same]⟩
      · rw [if_neg same]
        refine ⟨⟨?_, rfl⟩, by omega⟩
        rw [List.take_succ_eq_append_getElem lt, List.any_append, passed]
        simpa using same
  · exact Nat.lt_succ_of_le (Nat.sub_le _ _)
  · exact ⟨rfl, rfl⟩

/-- A list that is closed for an error. -/
lemma wp_closeWith {list : DevInfoSet} (own : Holding (m + owned list) d s) (errorCode : UInt32)
    (format : String) {P : Box String → Prop} :
    wp (do
      let error ← inHeap (errorCreateWinapi formatMessage errorCode format)
      setupDiDestroyDeviceInfoList list
      pure (error, (none : Option (Box String)))) (Ended P m d) s := by
  simp only [wp_bind, wp_pure]
  apply wp_createWinapiError own
  intro e s₁ r
  apply setupDiDestroyDeviceInfoList_givesBack.wp_raised r
  exact fun s₂ r => ⟨rfl, r.any⟩

/-- If the memory for the details is granted, the list is closed. -/
lemma detailFilename_ended {list : DevInfoSet} (own : Holding (m + owned list) d s)
    (os : FilenameAnswers) (granted : s.heap.grant s.heap.next = true) :
    wp (detailFilename formatMessage os list)
      (Ended (fun filename => os.devicePath = .ok filename.val) m d) s := by
  simp only [detailFilename, wp_bind]
  apply own.wp_new_granted granted rfl
  intro detail s₁ _ own₁
  cases path : os.devicePath with
  | error errorCode =>
    simp only [wp_bind, wp_pure]
    apply wp_createWinapiError own₁
    intro e s₂ r
    apply (GivesBack.free (b := some detail)).wp_raised r
    intro s₃ r
    apply setupDiDestroyDeviceInfoList_givesBack.wp_raised r
    exact fun s₄ r => ⟨rfl, r.any⟩
  | ok devicePath =>
    simp only [wp_bind]
    apply own₁.owns.wp_new (Nat.succ_ne_zero _) rfl
    · intro newString s₂ val own₂ hd₂
      have own₂ : Holding (m + owned newString + owned (some list) + owned (some detail)) d s₂ :=
        ⟨own₂.of_eq (by rw [owned_some, owned_some]; abel), hd₂.trans own₁.denials⟩
      apply (GivesBack.free (b := some detail)).wp own₂
      intro s₃ own₃
      apply setupDiDestroyDeviceInfoList_givesBack.wp own₃
      exact fun s₄ own₄ => wp_pure.mpr ⟨newString, rfl, congrArg Except.ok val.symm, own₄⟩
    · intro s₂ own₂ hd₂
      have lt : d < s₂.denials := by
        rw [hd₂, own₁.denials]
        exact Nat.lt_succ_self d
      have own₂ : Holding (m + owned (some list) + owned (some detail)) s₂.denials s₂ := ⟨own₂, rfl⟩
      apply (GivesBack.free (b := some detail)).wp own₂
      intro s₃ own₃
      apply setupDiDestroyDeviceInfoList_givesBack.wp own₃
      intro s₄ own₄
      exact wp_pure.mpr ⟨rfl, .noMemory own₄.owns (Nat.lt_of_lt_of_eq lt own₄.denials.symm)⟩

/-- If it is denied, the list stays open. -/
lemma detailFilename_keeps {list : DevInfoSet} (own : Holding (m + owned list) d s)
    (os : FilenameAnswers) (denied : s.heap.grant s.heap.next = false) :
    wp (detailFilename formatMessage os list)
      (fun r s' => r = (some errorNoMemory, none) ∧ s'.Owns (m + owned list)) s := by
  simp only [detailFilename, wp_bind]
  apply own.wp_new_denied denied rfl
  exact fun s₁ own₁ => wp_pure.mpr ⟨rfl, own₁⟩

lemma deviceFilename_detail {list : DevInfoSet} {os : FilenameAnswers}
    (reaches : os.reachesDetails = true) :
    deviceFilename formatMessage os list = detailFilename formatMessage os list := by
  unfold deviceFilename
  unfold FilenameAnswers.reachesDetails at reaches
  cases data : os.interfaceData with
  | some errorCode => simp [data] at reaches
  | none =>
    cases sizeError : os.sizeError with
    | none => rfl
    | some errorCode =>
      have insufficient : errorCode = errorInsufficientBuffer := by
        simpa [data, sizeError] using reaches
      simp only [insufficient, ne_eq, not_true_eq_false, if_false]

/-- Before the details, every exit closes the list. -/
lemma deviceFilename_early {list : DevInfoSet} (own : Holding (m + owned list) d s)
    {os : FilenameAnswers} (early : os.reachesDetails = false) :
    wp (deviceFilename formatMessage os list)
      (Ended (fun filename => os.devicePath = .ok filename.val) m d) s := by
  unfold deviceFilename
  unfold FilenameAnswers.reachesDetails at early
  cases data : os.interfaceData with
  | some errorCode => exact wp_closeWith own errorCode _
  | none =>
    cases sizeError : os.sizeError with
    | none => simp [data, sizeError] at early
    | some errorCode =>
      have other : errorCode ≠ errorInsufficientBuffer := by
        simpa [data, sizeError] using early
      simp only [if_pos other]
      exact wp_closeWith own errorCode _

/-- Opening the list leaves the list to destroy, if there is one. -/
lemma setupDiGetClassDevs_opens (own : Holding m d s) (devices : Except UInt32 DevInfoList) :
    wp (setupDiGetClassDevs devices) (fun r s₁ => match r with
      | .error _ => Holding m d s₁
      | .ok list => devices = .ok list.contents ∧ Holding (m + owned list) d s₁) s := by
  apply wp_setupDiGetClassDevs own
  · exact fun list s₁ answer own₁ => ⟨answer, own₁⟩
  · exact fun _ _ => own

/-- What `get_filename_from_devinst_and_guid` does if it does not ask for the details. -/
lemma getFilename_ended (own : Holding m d s) (devinst : UInt32) {os : FilenameAnswers}
    (granted : os.asksForDetails devinst = true → s.heap.grant s.heap.next = true) :
    wp (getFilenameFromDevinstAndGuid formatMessage devinst os)
      (Ended (fun filename => os.devicePath = .ok filename.val) m d) s := by
  rw [getFilenameFromDevinstAndGuid, wp_bind]
  apply wp_mono (setupDiGetClassDevs_opens own os.devices).run
  rintro (errorCode | list) s₁ ⟨opened, run⟩
  · simp only [wp_bind, wp_pure]
    apply wp_createWinapiError opened
    exact fun e s₂ r => ⟨rfl, r.any⟩
  · obtain ⟨answer, own₁⟩ := opened
    have heap := setupDiGetClassDevs_heap run
    rw [wp_bind]
    apply wp_mono (filenameLoop_ends own₁ devinst)
    rintro (_ | e) s₂ looped
    · obtain ⟨found, rfl⟩ := looped
      cases reaches : os.reachesDetails with
      | false => exact deviceFilename_early own₁ reaches
      | true =>
        rw [deviceFilename_detail reaches]
        apply detailFilename_ended own₁
        rw [heap]
        apply granted
        rw [FilenameAnswers.asksForDetails, reaches, Bool.and_true, answer]
        exact found
    · exact wp_pure.mpr ⟨rfl, looped.2⟩

/-- If the memory for the details is denied, the list stays open. -/
lemma getFilename_keeps (own : Holding m d s) (devinst : UInt32) {os : FilenameAnswers}
    (asks : os.asksForDetails devinst = true) (denied : s.heap.grant s.heap.next = false) :
    wp (getFilenameFromDevinstAndGuid formatMessage devinst os) (fun r s' =>
      r = (some errorNoMemory, none) ∧ ∃ list : DevInfoSet, s'.Owns (m + owned list)) s := by
  rw [FilenameAnswers.asksForDetails, Bool.and_eq_true] at asks
  obtain ⟨listed, reaches⟩ := asks
  cases answer : os.devices with
  | error errorCode =>
    rw [answer] at listed
    cases listed
  | ok contents =>
    rw [answer] at listed
    rw [getFilenameFromDevinstAndGuid, answer, wp_bind]
    apply wp_mono (setupDiGetClassDevs_opens own (.ok contents)).run
    rintro (errorCode | list) s₁ ⟨opened, run⟩
    · cases run
    obtain ⟨⟨⟩, own₁⟩ := opened
    rw [wp_bind]
    apply wp_mono (filenameLoop_ends own₁ devinst)
    rintro (_ | e) s₂ looped
    · obtain ⟨_, rfl⟩ := looped
      simp only [deviceFilename_detail reaches]
      rw [← setupDiGetClassDevs_heap run] at denied
      apply wp_mono (detailFilename_keeps own₁ os denied)
      exact fun r s₃ h => ⟨h.1, list, h.2⟩
    · have missing := looped.1
      rw [show list.contents.devices.any (·.devInst == devinst) = true from listed] at missing
      cases missing

lemma getFilename_undisciplined (own : Holding m d s) (devinst : UInt32) {os : FilenameAnswers}
    (asks : os.asksForDetails devinst = true) (denied : s.heap.grant s.heap.next = false) :
    wp (getFilenameFromDevinstAndGuid formatMessage devinst os) (fun r s' => ¬Disciplined m r s') s := by
  apply wp_mono (getFilename_keeps own devinst asks denied)
  rintro _ s' ⟨rfl, list, own'⟩
  exact not_disciplined rfl own'

/-- A function that hands out a plain value gave back everything else. -/
def GaveBack (m : Holdings RefKind) (d : Nat) (r : Option Error × α) (s : System) : Prop :=
  match r with
  | (none, _) => Holding m d s
  | (some e, _) => Raised m d (fun _ => True) e s

lemma GaveBack.disciplined {r : Option Error × Guid} (h : GaveBack m d r s) : Disciplined m r s := by
  obtain ⟨_ | e, guid⟩ := r
  · exact ⟨((h.owns.of_eq (add_zero m).symm).of_eq (add_zero _).symm).settled, fun _ => rfl⟩
  · refine ⟨(h.owns.of_eq ?_).settled, fun _ => rfl⟩
    show m + (e.blocks, 0) = m + 0 + (errorBlocks (some e), 0)
    rw [add_zero]
    rfl

/-- If the memory for the buffer is granted and the value is terminated, the key is closed. -/
lemma firstGuid_gaveBack {key : RegistryKey} (own : Holding (m + owned key) d s) (os : GuidAnswers)
    {size : UInt32} (granted : s.heap.grant s.heap.next = true)
    (ends : ∀ value, regQueryValueEx os.stored size.toNat = .ok value → value.firstStringEnds) :
    wp (firstGuid formatMessage os key size) (GaveBack m d) s := by
  simp only [firstGuid, wp_bind]
  apply own.wp_new_granted granted rfl
  intro guids s₁ _ own₁
  have own₁ : Holding (m + owned (some guids) + owned (some key)) d s₁ :=
    own₁.of_eq (by rw [owned_some, owned_some]; abel)
  rw [wp_bind]
  apply regCloseKey_givesBack.wp own₁
  intro s₂ own₂
  have freed := GivesBack.free (b := some guids) (κ := RefKind)
  cases query : regQueryValueEx os.stored size.toNat with
  | error regResult =>
    simp only [wp_bind, wp_pure]
    apply freed.wp own₂
    intro s₃ own₃
    apply wp_createWinapiError own₃
    exact fun e s₄ r => r.any
  | ok value =>
    dsimp only
    apply wp_ite
    · intro _
      simp only [wp_bind, wp_pure]
      apply freed.wp own₂
      intro s₃ own₃
      apply own₃.wp_create
      exact fun e s₄ r => r.any
    · intro multi
      simp only [wideString, wp_bind, wp_check, wp_pure]
      refine ⟨ends value query (not_ne_iff.mp multi), ?_⟩
      apply freed.wp own₂
      intro s₃ own₃
      cases os.iidFromString _ with
      | error hr =>
        simp only [wp_bind, wp_pure]
        apply wp_createHrError own₃
        exact fun e s₄ r => r.any
      | ok guid => exact wp_pure.mpr own₃

/-- If it is denied, the key stays open. -/
lemma firstGuid_keeps {key : RegistryKey} (own : Holding (m + owned key) d s) (os : GuidAnswers)
    {size : UInt32} (denied : s.heap.grant s.heap.next = false) :
    wp (firstGuid formatMessage os key size)
      (fun r s' => r = (some errorNoMemory, 0) ∧ s'.Owns (m + owned key)) s := by
  simp only [firstGuid, wp_bind]
  apply own.wp_new_denied denied rfl
  exact fun s₁ own₁ => wp_pure.mpr ⟨rfl, own₁⟩

/-- The function only goes on if the string ends within the value that was queried. -/
lemma firstGuid_ends {key : RegistryKey} (own : Holding (m + owned key) d s) {os : GuidAnswers}
    {size : UInt32} {value : RegistryValue} (granted : s.heap.grant s.heap.next = true)
    (query : regQueryValueEx os.stored size.toNat = .ok value)
    {Q : Option Error × Guid → System → Prop}
    (h : wp (firstGuid formatMessage os key size) Q s) : value.firstStringEnds := by
  intro multi
  have block : wp (new size.toNat () : Prog Fault System _) (fun b _ => ∃ a, b = some a) s := by
    apply own.wp_new_granted granted rfl
    exact fun b s₁ _ _ => ⟨b, rfl⟩
  simp only [firstGuid, wp_bind] at h
  obtain ⟨_, s₁, _, h, guids, rfl⟩ := h.and block
  simp only [wp_bind, query] at h
  obtain ⟨_, s₂, _, h⟩ := h
  rw [if_neg (not_ne_iff.mpr multi)] at h
  simp only [wideString, wp_bind, wp_check] at h
  exact h.1

/-- The key is open when the buffer is asked for, and no memory was asked for yet. -/
lemma getFirstGuid_opened (own : Holding m d s) {os : GuidAnswers} {size : UInt32}
    (buffer : os.bufferSize = some size) {Q : Option Error × Guid → System → Prop} :
    ∃ (key : RegistryKey) (s₁ : System), Holding (m + owned key) d s₁ ∧ s₁.heap = s.heap ∧
      (wp (getFirstDeviceInterfaceGuid formatMessage os) Q s ↔
        wp (firstGuid formatMessage os key size) Q s₁) := by
  obtain ⟨keyError, sizeAnswer, stored, iid⟩ := os
  cases keyError with
  | some errorCode => cases buffer
  | none =>
    cases sizeAnswer with
    | error regResult => cases buffer
    | ok _ =>
      cases buffer
      have opens : wp (setupDiOpenDevRegKey none) (fun r s₁ => ∃ key, r = .ok key ∧
          Holding (m + owned key) d s₁) s := by
        apply wp_setupDiOpenDevRegKey own
        · exact fun key s₁ _ own₁ => ⟨key, rfl, own₁⟩
        · rintro errorCode ⟨⟩
      obtain ⟨_, s₁, run, key, rfl, own₁⟩ := opens
      refine ⟨key, s₁, own₁, setupDiOpenDevRegKey_heap run, ?_⟩
      simp only [getFirstDeviceInterfaceGuid, wp_bind]
      constructor
      · rintro ⟨_, s₂, run₂, h⟩
        rw [run] at run₂
        cases run₂
        exact h
      · exact fun h => ⟨_, s₁, run, h⟩

/-- Without a request for the buffer every exit closes the key. -/
lemma getFirstGuid_early (own : Holding m d s) {os : GuidAnswers} (early : os.bufferSize = none) :
    wp (getFirstDeviceInterfaceGuid formatMessage os) (GaveBack m d) s := by
  rw [getFirstDeviceInterfaceGuid, wp_bind]
  apply wp_setupDiOpenDevRegKey own
  · intro key s₁ opened own₁
    cases size : os.size with
    | error regResult =>
      have own₁ : Holding (m + owned (some key)) d s₁ := own₁
      simp only [wp_bind, wp_pure]
      apply regCloseKey_givesBack.wp own₁
      intro s₂ own₂
      by_cases missing : regResult = errorFileNotFound
      · simp only [if_pos missing]
        apply own₂.wp_create
        exact fun e s₃ r => r.any
      · simp only [if_neg missing]
        apply wp_createWinapiError own₂
        exact fun e s₃ r => r.any
    | ok size' =>
      rw [GuidAnswers.bufferSize, opened, size] at early
      cases early
  · intro errorCode _
    simp only [wp_bind, wp_pure]
    apply wp_createWinapiError own
    exact fun e s₁ r => r.any

/-- If it is denied, the function returns, and the key stays open. -/
lemma getFirstGuid_undisciplined (own : Holding m d s) {os : GuidAnswers} {size : UInt32}
    (buffer : os.bufferSize = some size) (denied : s.heap.grant s.heap.next = false) :
    wp (getFirstDeviceInterfaceGuid formatMessage os) (fun r s' => ¬Disciplined m r s') s := by
  obtain ⟨key, s₁, own₁, heap, same⟩ := getFirstGuid_opened own buffer
  rw [same]
  rw [← heap] at denied
  apply wp_mono (firstGuid_keeps own₁ os denied)
  rintro _ s' ⟨rfl, own'⟩
  exact not_disciplined rfl own'

/-- If the memory for the buffer is granted and the value is terminated, the key is closed. -/
lemma getFirstGuid_disciplined (own : Holding m d s) {os : GuidAnswers}
    (granted : ∀ size, os.bufferSize = some size → s.heap.grant s.heap.next = true)
    (ends : ∀ size value, os.bufferSize = some size →
      regQueryValueEx os.stored size.toNat = .ok value → value.firstStringEnds) :
    wp (getFirstDeviceInterfaceGuid formatMessage os) (Disciplined m) s := by
  cases buffer : os.bufferSize with
  | none =>
    apply wp_mono (getFirstGuid_early own buffer)
    exact fun r s' h => h.disciplined
  | some size =>
    obtain ⟨key, s₁, own₁, heap, same⟩ := getFirstGuid_opened own buffer
    rw [same]
    apply wp_mono (firstGuid_gaveBack own₁ os (heap ▸ granted size buffer) (ends size · buffer))
    exact fun r s' h => h.disciplined

/-- A function that returns has not gone beyond the value that was queried. -/
lemma getFirstGuid_ends (own : Holding m d s) {os : GuidAnswers} {size : UInt32}
    {value : RegistryValue} (buffer : os.bufferSize = some size)
    (granted : s.heap.grant s.heap.next = true)
    (query : regQueryValueEx os.stored size.toNat = .ok value)
    (returns : wp (getFirstDeviceInterfaceGuid formatMessage os) (fun _ _ => True) s) :
    value.firstStringEnds := by
  obtain ⟨key, s₁, own₁, heap, same⟩ := getFirstGuid_opened own buffer
  rw [same] at returns
  exact firstGuid_ends own₁ (heap ▸ granted) query returns

/-- If the value is terminated, the function returns, whether its buffer is granted or not. -/
lemma getFirstGuid_returns (own : Holding m d s) {os : GuidAnswers}
    (ends : ∀ size value, os.bufferSize = some size →
      regQueryValueEx os.stored size.toNat = .ok value → value.firstStringEnds) :
    wp (getFirstDeviceInterfaceGuid formatMessage os) (fun _ _ => True) s := by
  by_cases granted : ∀ size, os.bufferSize = some size → s.heap.grant s.heap.next = true
  · exact wp_mono (getFirstGuid_disciplined own granted ends) fun _ _ _ => trivial
  · push Not at granted
    obtain ⟨size, buffer, denied⟩ := granted
    apply wp_mono (getFirstGuid_undisciplined own buffer (Bool.eq_false_iff.mpr denied))
    exact fun _ _ _ => trivial

/-- On a list that was opened a strict run is like any other. -/
lemma getInterfaceNonComposite_strict {deviceInstanceId : String} {os : InterfaceAnswers}
    (opened : os.usbDevices.isOk = true) :
    getInterfaceNonComposite true formatMessage deviceInstanceId os =
      getInterfaceNonComposite false formatMessage deviceInstanceId os := by
  cases answer : os.usbDevices with
  | error errorCode =>
    rw [answer] at opened
    cases opened
  | ok contents =>
    have rounds (list : DevInfoSet) :
        nonCompositeRound true formatMessage deviceInstanceId (some list) =
          nonCompositeRound false formatMessage deviceInstanceId (some list) := rfl
    simp only [getInterfaceNonComposite, answer, setupDiGetClassDevs, bind_assoc, pure_bind,
      Except.toOption, rounds]

/-- A list that could not be opened is enumerated. -/
lemma getInterfaceNonComposite_enumerates {deviceInstanceId : String} {os : InterfaceAnswers}
    (failed : os.usbDevices.isOk = false) :
    getInterfaceNonComposite true formatMessage deviceInstanceId os s = .error .assertion := by
  cases answer : os.usbDevices with
  | error errorCode =>
    rw [getInterfaceNonComposite, answer]
    rfl
  | ok contents =>
    rw [answer] at failed
    cases failed

/-- The three functions close every list and key exactly once and use none that was not opened, exactly
if: the list of `get_interface_non_composite` can be opened, since the result of opening it is not
checked; the memory for the details in `get_filename_from_devinst_and_guid` is granted, if it is asked
for; the buffer in `get_first_device_interface_guid` is granted, if it is asked for. The last one stops
only behind the end of a value whose first string does not end, which says nothing about its key. -/
theorem handles_disciplined_iff (own : s.Owns m) (formatMessage : UInt32 → String)
    (deviceInstanceId : String) (interface : InterfaceAnswers) (devinst : UInt32)
    (filename : FilenameAnswers) (guids : GuidAnswers) :
    (wp (getInterfaceNonComposite false formatMessage deviceInstanceId interface) (Disciplined m) s ∧
        getInterfaceNonComposite true formatMessage deviceInstanceId interface s =
          getInterfaceNonComposite false formatMessage deviceInstanceId interface s ↔
      interface.usbDevices.isOk = true) ∧
    (wp (getFilenameFromDevinstAndGuid formatMessage devinst filename) (Disciplined m) s ↔
      (filename.asksForDetails devinst = true → s.heap.grant s.heap.next = true)) ∧
    ((∀ r s', getFirstDeviceInterfaceGuid formatMessage guids s = .ok (r, s') → Disciplined m r s') ↔
      ∀ size, guids.bufferSize = some size → s.heap.grant s.heap.next = true) ∧
    (wp (getFirstDeviceInterfaceGuid formatMessage guids) (fun _ _ => True) s ∨
      ∃ size value, guids.bufferSize = some size ∧
        regQueryValueEx guids.stored size.toNat = .ok value ∧ ¬value.firstStringEnds) := by
  have own : Holding m s.denials s := ⟨own, rfl⟩
  refine ⟨⟨?_, ?_⟩, ⟨?_, ?_⟩, ⟨?_, ?_⟩, ?_⟩
  · rintro ⟨⟨r, s', run, _⟩, same⟩
    by_contra failed
    rw [getInterfaceNonComposite_enumerates (Bool.not_eq_true _ ▸ failed), run] at same
    cases same
  · intro opened
    refine ⟨?_, congrFun (getInterfaceNonComposite_strict opened) s⟩
    apply wp_mono (getInterfaceNonComposite_ends own (by rintro ⟨⟩))
    exact fun r s' ends => disciplined_of_ended ends.ended
  · intro disciplined asks
    cases answer : s.heap.grant s.heap.next with
    | true => rfl
    | false =>
      obtain ⟨_, s', _, d', undisciplined⟩ :=
        disciplined.and (getFilename_undisciplined own devinst asks answer)
      exact absurd d' undisciplined
  · intro granted
    apply wp_mono (getFilename_ended own devinst granted)
    exact fun r s' ended => disciplined_of_ended ended
  · intro disciplined size buffer
    cases answer : s.heap.grant s.heap.next with
    | true => rfl
    | false =>
      obtain ⟨_, s', run, undisciplined⟩ := getFirstGuid_undisciplined own buffer answer
      exact absurd (disciplined _ s' run) undisciplined
  · intro condition r s' run
    exact (getFirstGuid_disciplined own condition fun size value buffer query =>
      getFirstGuid_ends own buffer (condition size buffer) query ⟨r, s', run, trivial⟩).elim run
  · by_cases ends : ∀ size value, guids.bufferSize = some size →
        regQueryValueEx guids.stored size.toNat = .ok value → value.firstStringEnds
    · exact .inl (getFirstGuid_returns own ends)
    · push Not at ends
      exact .inr ends

/-- The list of USB devices can be opened and no details are asked for, but the buffer is denied. -/
theorem handles_disciplined_iff_example :
    let list : DevInfoList := ⟨[], errorNoMoreItems, by decide⟩
    let interface : InterfaceAnswers :=
      ⟨.ok list, .error 13, .ok list, .ok list, .error errorInvalidHandle⟩
    let guids : GuidAnswers := ⟨none, .ok 80, .error errorFileNotFound, fun _ => .ok 0⟩
    let s : System := ⟨⟨fun _ => false, 0, []⟩, 0, []⟩
    getInterfaceNonComposite true (fun _ => "") "" interface s =
        getInterfaceNonComposite false (fun _ => "") "" interface s ∧
      wp (getFilenameFromDevinstAndGuid (fun _ => "") 1 ⟨.ok list, none, none, 40, .ok ""⟩)
        (Disciplined 0) s ∧
      ¬∀ r s', getFirstDeviceInterfaceGuid (fun _ => "") guids s = .ok (r, s') →
        Disciplined 0 r s' := by
  intro list interface guids s
  obtain ⟨lists, filename, keys, _⟩ := handles_disciplined_iff (s := s) (.empty _) (fun _ => "") ""
    interface 1 ⟨.ok list, none, none, 40, .ok ""⟩ guids
  refine ⟨(lists.mpr rfl).2, filename.mpr (by rintro ⟨⟩), fun disciplined => ?_⟩
  exact absurd (keys.mp disciplined 80 rfl) Bool.false_ne_true

/-- Each of the three functions fails once: it enumerates a list that could not be opened, keeps a list
open, keeps a key open. -/
theorem handles_undisciplined :
    let node : DevInfo :=
      { devInst := 1
        instanceId := .ok ""
        hardwareIds := ⟨none, 0, .error errorInvalidData⟩
        parent := .ok 1
        deviceId := .ok "" }
    let list : DevInfoList := ⟨[node], errorNoMoreItems, by decide⟩
    let s : System := ⟨⟨fun _ => false, 0, []⟩, 0, []⟩
    getInterfaceNonComposite true (fun _ => "") ""
        ⟨.error errorInvalidHandle, .error 13, .ok list, .ok list, .ok list⟩ s = .error .assertion ∧
      wp (getFilenameFromDevinstAndGuid (fun _ => "") 1 ⟨.ok list, none, none, 40, .ok ""⟩)
        (fun r s' => ¬Disciplined 0 r s') s ∧
      wp (getFirstDeviceInterfaceGuid (fun _ => "")
        ⟨none, .ok 80, .error errorFileNotFound, fun _ => .ok 0⟩)
        (fun r s' => ¬Disciplined 0 r s') s := by
  intro node list s
  have own : Holding 0 0 s := ⟨.empty _, rfl⟩
  refine ⟨rfl, getFilename_undisciplined own 1 (by decide) rfl, ?_⟩
  have buffer : (⟨none, .ok 80, .error errorFileNotFound, fun _ => .ok 0⟩ :
      GuidAnswers).bufferSize = some 80 := rfl
  exact getFirstGuid_undisciplined own buffer rfl

end Libusbp.Windows
