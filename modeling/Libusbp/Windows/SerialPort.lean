import Libusbp.Windows.Device
import Libusbp.Windows.NodeSearch
import Libusbp.Windows.Registry

/-!
# Serial ports on Windows

`serial_port_windows.c`. A serial port owns the strings with its device instance ID and its port name,
which is a value of the registry. Its fields are null until they are written, because its block is made
by `calloc`.
-/

namespace Libusbp.Windows

open Prog Host

/-- `struct libusbp_serial_port` -/
structure SerialPort where
  deviceInstanceId : Option (Box String) := none
  portName : Option (Box String) := none

def sizeofSerialPort : Nat := 16

/-- What a serial port says to its getters. -/
@[ext] structure SerialPortView where
  deviceInstanceId : Option String
  portName : Option String
deriving DecidableEq, Repr

instance : Owned RefKind SerialPort := ⟨fun port => owned port.deviceInstanceId + owned port.portName⟩

instance : Content SerialPort SerialPortView :=
  ⟨fun port => ⟨text port.deviceInstanceId, text port.portName⟩⟩

/-- What Windows answers to one attempt of `libusbp_serial_port_create`. -/
structure SerialPortAnswers where
  interface : InterfaceAnswers
  /-- the error code of `SetupDiOpenDevRegKey`, if it fails -/
  keyError : DevInfo → Option UInt32
  /-- what is stored under the name `PortName` -/
  portName : DevInfo → Except UInt32 RegistryValue

/-- Write to a field of the object that a pointer points to. -/
def putDeviceInstanceId (port : Option (Box SerialPort)) (x : Option (Box String)) :
    Option (Box SerialPort) :=
  port.map fun port => ⟨port.addr, { port.val with deviceInstanceId := x }⟩

def putPortName (port : Option (Box SerialPort)) (x : Option (Box String)) :
    Option (Box SerialPort) :=
  port.map fun port => ⟨port.addr, { port.val with portName := x }⟩

/-- The size of the array on the stack for the port name. -/
def sizeofPortName : Nat := 128

/-- The step that gets the port name from the registry, with the bytes that the query returned. -/
def queryPortName (formatMessage : UInt32 → String) (stored : Except UInt32 RegistryValue) :
    Prog Fault System (Option Error × List UInt8) :=
  match regQueryValueEx stored sizeofPortName with
  | .error regResult => do
    let error ← inHeap do
      if regResult = errorFileNotFound then errorCreate "The PortName key was not found."
      else errorCreateWinapi formatMessage regResult "Failed to get PortName key."
    pure (error, [])
  | .ok value =>
    if value.dataType ≠ regSz then do
      let error ← inHeap (errorCreate ("Expected PortName key to be a REG_SZ (0x" ++
        formatHex 0 regSz.toNat ++ "), got 0x" ++ formatHex 0 value.dataType.toNat ++ "."))
      pure (error, [])
    else pure (none, value.bytes)

/-- The step that opens the registry key of the node. -/
def openKey (formatMessage : UInt32 → String) (failure : Option UInt32) :
    Prog Fault System (Option Error × Option RegistryKey) := do
  match ← setupDiOpenDevRegKey failure with
  | .error errorCode => do
    let error ← inHeap (errorCreateWinapi formatMessage errorCode
      "Failed to get device registry key in order to find its COM port name.")
    pure (error, none)
  | .ok key => pure (none, some key)

/-- The variables of `libusbp_serial_port_create`. -/
structure SerialPortVars where
  newSp : Option (Box SerialPort) := none
  usbDeviceId : Option (Box String) := none
  node : Option InterfaceNode := none
  keyDev : Option RegistryKey := none
  portName : List UInt8 := []
  port : Option (Box SerialPort) := none

def serialPortFree (port : Option (Box SerialPort)) : Prog Fault System Unit :=
  match port with
  | none => pure ()
  | some port => do
    stringFree port.val.deviceInstanceId
    stringFree port.val.portName
    free (some port)

/-- The steps of `libusbp_serial_port_create`. -/
def serialPortSteps (formatMessage : UInt32 → String) (device : Box Device) (interfaceNumber : UInt8)
    (composite : Bool) (os : SerialPortAnswers) :
    List (SerialPortVars → Prog Fault System (Option Error × SerialPortVars)) := [
  into (fun _ => allocateZeroed sizeofSerialPort {}) fun l x => { l with newSp := x },
  into (fun _ => deviceGetOsId device true) fun l x => { l with usbDeviceId := x },
  into (fun l => getInterface formatMessage (text l.usbDeviceId) interfaceNumber composite
    os.interface) fun l x => { l with node := x },
  into (fun l => do
    let node ← expect .assertion l.node
    let _ ← expect .nullPointer l.newSp
    createIdString formatMessage node.info.instanceId)
    fun l x => { l with newSp := putDeviceInstanceId l.newSp x },
  into (fun l => do
    let node ← expect .nullPointer l.node
    openKey formatMessage (os.keyError node.info)) fun l x => { l with keyDev := x },
  into (fun l => do
    let node ← expect .nullPointer l.node
    queryPortName formatMessage (os.portName node.info)) fun l x => { l with portName := x },
  into (fun l => do
    let _ ← expect .nullPointer l.newSp
    let portName ← cString l.portName
    stringCopy portName) fun l x => { l with newSp := putPortName l.newSp x },
  fun l => pure (none, { l with port := l.newSp, newSp := none })]

def SerialPortVars.cleanUp (l : SerialPortVars) : Prog Fault System Unit := do
  regCloseKey l.keyDev
  setupDiDestroyDeviceInfoList (l.node.map (·.list))
  stringFree l.usbDeviceId
  serialPortFree l.newSp

/-- One attempt, which is the function without the workaround at its end. -/
def serialPortAttempt (formatMessage : UInt32 → String) (device : Box Device)
    (interfaceNumber : UInt8) (composite : Bool) (os : SerialPortAnswers) :
    Prog Fault System (Option Error × Option (Box SerialPort)) :=
  construct (serialPortSteps formatMessage device interfaceNumber composite os)
    SerialPortVars.cleanUp (·.port) {}

/-- An attempt for a device that is not composite is followed by another one if it fails. The answers
to the other one are `retry`. -/
def serialPortCreate (formatMessage : UInt32 → String) (device : Option (Box Device))
    (interfaceNumber : UInt8) (composite : Bool) (port : Bool) (os retry : SerialPortAnswers) :
    Prog Fault System (Option Error × Option (Box SerialPort)) :=
  if port = false then do
    let error ← inHeap (errorCreate "Serial port output pointer is null.")
    pure (error, none)
  else match device with
    | none => do
      let error ← inHeap (errorCreate "Device is null.")
      pure (error, none)
    | some device => do
      let (error, port) ← serialPortAttempt formatMessage device interfaceNumber composite os
      if error.isSome ∧ composite = false then do
        -- the workaround for FTDI devices, which look composite on Windows
        let (error2, port) ← serialPortAttempt formatMessage device 0 true retry
        if error2.isSome then do
          inHeap (errorFree error2)
          pure (error, port)
        else do
          inHeap (errorFree error)
          pure (none, port)
      else pure (error, port)

/-- The variables of `libusbp_serial_port_copy`. -/
structure SerialPortCopyVars where
  newSp : Option (Box SerialPort) := none
  dest : Option (Box SerialPort) := none

/-- The steps of `libusbp_serial_port_copy`. -/
def serialPortCopySteps (source : SerialPort) :
    List (SerialPortCopyVars → Prog Fault System (Option Error × SerialPortCopyVars)) := [
  into (fun _ => allocateZeroed sizeofSerialPort {}) fun l x => { l with newSp := x },
  into (fun l => do
    let _ ← expect .nullPointer l.newSp
    stringCopy (text source.deviceInstanceId))
    fun l x => { l with newSp := putDeviceInstanceId l.newSp x },
  into (fun l => do
    let _ ← expect .nullPointer l.newSp
    stringCopy (text source.portName)) fun l x => { l with newSp := putPortName l.newSp x },
  fun l => pure (none, { dest := l.newSp, newSp := none })]

def serialPortCopy (source : Option (Box SerialPort)) (dest : Bool) :
    Prog Fault System (Option Error × Option (Box SerialPort)) :=
  if dest = false then do
    let error ← inHeap (errorCreate "Serial port output pointer is null.")
    pure (error, none)
  else match source with
    | none => pure (none, none)
    | some source => do
      check .assertion source.val.deviceInstanceId.isSome
      check .assertion source.val.portName.isSome
      construct (serialPortCopySteps source.val) (fun l => serialPortFree l.newSp) (·.dest) {}

def serialPortGetName :
    Option (Box SerialPort) → Bool → Prog Fault System (Option Error × Option (Box String)) :=
  getString "String output pointer is null." "Serial port is null." fun port =>
    stringCopy (text port.portName)

/-- What the variables hold besides the port that is passed to the caller. -/
def SerialPortVars.others (l : SerialPortVars) : Holdings RefKind :=
  owned l.keyDev + (owned (l.node.map (·.list)) + (owned l.usbDeviceId + owned l.newSp))

variable {m : Holdings RefKind} {d : Nat} {s : System}

lemma serialPortFree_givesBack {port : Option (Box SerialPort)} :
    GivesBack (serialPortFree port) (owned port) := by
  cases port with
  | none => exact .nothing
  | some port =>
    have fields : GivesBack (serialPortFree (some port)) (owned port.val.deviceInstanceId +
        (owned port.val.portName + (({.heap port.addr}, 0) : Holdings RefKind))) :=
      .seq stringFree_givesBack (.seq stringFree_givesBack .freeBlock)
    apply fields.of_eq
    simp only [owned_some, owned_box]
    show _ = _ + (owned port.val.deviceInstanceId + owned port.val.portName)
    abel

lemma SerialPortVars.cleanUp_givesBack (l : SerialPortVars) : GivesBack l.cleanUp l.others :=
  .seq regCloseKey_givesBack (.seq setupDiDestroyDeviceInfoList_givesBack
    (.seq stringFree_givesBack serialPortFree_givesBack))

lemma openKey_ended (own : Holding m d s) (formatMessage : UInt32 → String)
    (failure : Option UInt32) :
    wp (openKey formatMessage failure) (Ended (fun _ => failure = none) m d) s := by
  rw [openKey, wp_bind]
  apply wp_setupDiOpenDevRegKey own
  · exact fun key s₁ opened own₁ => wp_pure.mpr ⟨key, rfl, opened, own₁⟩
  · intro errorCode _
    simp only [wp_bind, wp_pure]
    apply wp_createWinapiError own
    exact fun e s₁ r => ⟨rfl, r.any⟩

/-- A query that succeeds returns the bytes of a `REG_SZ`. -/
lemma queryPortName_ended (own : Holding m d s) (formatMessage : UInt32 → String)
    (stored : Except UInt32 RegistryValue) :
    wp (queryPortName formatMessage stored) (fun r s' => match r with
      | (none, bytes) => regQueryValueEx stored sizeofPortName = .ok ⟨regSz, bytes⟩ ∧ Holding m d s'
      | (some e, _) => Raised m d (fun _ => True) e s') s := by
  unfold queryPortName
  cases regQueryValueEx stored sizeofPortName with
  | error regResult =>
    simp only [wp_bind, wp_pure]
    by_cases missing : regResult = errorFileNotFound
    · simp only [if_pos missing]
      apply own.wp_create
      exact fun e s₁ r => r.any
    · simp only [if_neg missing]
      apply wp_createWinapiError own
      exact fun e s₁ r => r.any
  | ok value =>
    dsimp only
    apply wp_ite
    · intro _
      simp only [wp_bind, wp_pure]
      apply own.wp_create
      exact fun e s₁ r => r.any
    · intro sz
      refine wp_pure.mpr ⟨?_, own⟩
      rw [← not_ne_iff.mp sz]

/-- A serial port that was built has its two strings. -/
structure SerialPortView.Built (v : SerialPortView) : Prop where
  deviceInstanceId : v.deviceInstanceId ≠ none
  portName : v.portName ≠ none

/-- Every port name that a query accepts ends within the bytes that it returned. -/
def SerialPortAnswers.Ends (os : SerialPortAnswers) : Prop :=
  ∀ info bytes, regQueryValueEx (os.portName info) sizeofPortName = .ok ⟨regSz, bytes⟩ →
    bytes.contains 0 = true

/-- The port name that an attempt reads, if it gets that far, ends within the bytes that the query
returned. -/
def SerialPortAnswers.nameEnds (formatMessage : UInt32 → String) (deviceInstanceId : String)
    (interfaceNumber : UInt8) (composite : Bool) (os : SerialPortAnswers) : Bool :=
  match nodeOutcome formatMessage deviceInstanceId interfaceNumber composite os.interface with
  | .error _ => true
  | .ok (_, info) =>
    match regQueryValueEx (os.portName info) sizeofPortName with
    | .error _ => true
    | .ok value => value.dataType ≠ regSz || value.bytes.contains 0

lemma SerialPortAnswers.nameEnds_elim {os : SerialPortAnswers} {formatMessage : UInt32 → String}
    {id : String} {interfaceNumber : UInt8} {composite : Bool}
    (ends : os.nameEnds formatMessage id interfaceNumber composite = true) {list : DevInfoList}
    {info : DevInfo} {bytes : List UInt8}
    (found : nodeOutcome formatMessage id interfaceNumber composite os.interface = .ok (list, info))
    (query : regQueryValueEx (os.portName info) sizeofPortName = .ok ⟨regSz, bytes⟩) :
    bytes.contains 0 = true := by
  rw [SerialPortAnswers.nameEnds, found] at ends
  simpa [query] using ends

/-- It does if every port name does. -/
lemma SerialPortAnswers.Ends.nameEnds {os : SerialPortAnswers} (ends : os.Ends)
    (formatMessage : UInt32 → String) (id : String) (interfaceNumber : UInt8) (composite : Bool) :
    os.nameEnds formatMessage id interfaceNumber composite = true := by
  unfold SerialPortAnswers.nameEnds
  split
  case h_1 => rfl
  case h_2 info _ =>
    split
    case h_1 => rfl
    case h_2 value query =>
      obtain ⟨dataType, bytes⟩ := value
      rw [Bool.or_eq_true, decide_eq_true_eq]
      by_cases sz : dataType = regSz
      · subst sz
        exact .inr (ends info bytes query)
      · exact .inl sz

/-- A port with its device instance ID and its port name written. -/
lemma owned_port {a : Addr} {id name : Option (Box String)} :
    (owned (⟨a, ⟨id, name⟩⟩ : Box SerialPort) : Holdings RefKind) =
      ({.heap a}, 0) + (owned id + owned name) := rfl

/-- An attempt gives a port with its two strings, or an error and nothing else. -/
lemma serialPortAttempt_ended (own : Holding m d s) {device : Box Device} {id : String}
    (built : text device.val.deviceInstanceId = some id) {formatMessage : UInt32 → String}
    {interfaceNumber : UInt8} {composite : Bool} {os : SerialPortAnswers}
    (ends : os.nameEnds formatMessage id interfaceNumber composite = true) :
    wp (serialPortAttempt formatMessage device interfaceNumber composite os)
      (Ended (fun port => (content port).Built) m d) s := by
  apply EndedSteps.construct SerialPortVars.others SerialPortVars.cleanUp_givesBack
  apply Ended.stage
  · exact allocateZeroed_ended own (by decide) rfl
  · intro e s₁ r
    exact ⟨rfl, r.of_eq (by simp [SerialPortVars.others])⟩
  rintro ⟨a, _⟩ s₁ rfl own₁
  apply Ends.stageSome
  · exact deviceGetOsId_ends own₁ built
  · intro e s₂ r
    refine ⟨rfl, r.any.of_eq ?_⟩
    simp only [SerialPortVars.others, owned_none, Option.map_none, owned_some]
    abel
  intro usbDeviceId s₂ copied own₂
  have path : text (some usbDeviceId) = some id := congrArg some (Except.ok.inj copied).symm
  apply Ends.stageSome
  · rw [path]
    exact getInterface_ends own₂ interfaceNumber composite os.interface
  · intro e s₃ r
    refine ⟨rfl, r.any.of_eq ?_⟩
    simp only [SerialPortVars.others, owned_none, Option.map_none, owned_some]
    abel
  intro node s₃ found own₃
  -- from here on the list of the node is held
  have held : m + owned (⟨a, {}⟩ : Box SerialPort) + owned usbDeviceId + owned node =
      m + SerialPortVars.others { newSp := some ⟨a, {}⟩, usbDeviceId, node } := by
    simp only [SerialPortVars.others, owned_none, Option.map_some, owned_some]
    show _ = m + (0 + (owned node + (owned usbDeviceId + owned (⟨a, {}⟩ : Box SerialPort))))
    abel
  apply Ended.stage
  · simp only [expect, pure_bind]
    exact createIdString_ended own₃ formatMessage node.info.instanceId
  · exact fun e s₄ r => ⟨rfl, r.of_eq held⟩
  intro deviceInstanceId s₄ _ own₄
  have held : m + owned (⟨a, {}⟩ : Box SerialPort) + owned usbDeviceId + owned node +
      owned deviceInstanceId = m + SerialPortVars.others
        { newSp := some ⟨a, { deviceInstanceId := some deviceInstanceId }⟩, usbDeviceId, node } := by
    simp only [SerialPortVars.others, owned_none, Option.map_some, owned_some, owned_port]
    show _ = m + (0 + (owned node + (owned usbDeviceId +
      (({.heap a}, 0) + (owned deviceInstanceId + 0)))))
    abel
  apply Ended.stage
  · simp only [expect, pure_bind]
    exact openKey_ended own₄ formatMessage _
  · exact fun e s₅ r => ⟨rfl, r.of_eq held⟩
  intro keyDev s₅ _ own₅
  have held : m + owned (⟨a, {}⟩ : Box SerialPort) + owned usbDeviceId + owned node +
      owned deviceInstanceId + owned keyDev = m + SerialPortVars.others
        { newSp := some ⟨a, { deviceInstanceId := some deviceInstanceId }⟩
          usbDeviceId, node, keyDev } := by
    rw [held]
    simp only [SerialPortVars.others, owned_none, owned_some]
    abel
  apply wp_stages_into
  simp only [expect, pure_bind]
  apply wp_mono (queryPortName_ended own₅ formatMessage (os.portName node.info))
  rintro ⟨_ | e, bytes⟩ s₆ queried
  · obtain ⟨query, own₆⟩ := queried
    apply Ends.stageSome
    · simp only [pure_bind, cString, wp_bind, wp_check, wp_pure, putDeviceInstanceId,
        Option.map_some]
      exact ⟨SerialPortAnswers.nameEnds_elim ends found query, stringCopy_ends own₆ _⟩
    · exact fun e s₇ r => ⟨rfl, r.any.of_eq held⟩
    intro portName s₇ _ own₇
    apply wp_stages_cons
    refine wp_pure.mpr (wp_stages_nil.mpr ⟨_, rfl, ⟨?_, ?_⟩, own₇.of_eq ?_⟩)
    · exact Option.some_ne_none _
    · exact Option.some_ne_none _
    · rw [held]
      simp only [SerialPortVars.others, owned_none, owned_some, Option.map_some, owned_port]
      abel
  · exact ⟨rfl, Raised.of_eq queried held⟩

/-- `libusbp_serial_port_create` gives a port with its two strings, or an error and nothing else, if the
port names that its attempts read end. -/
lemma serialPortCreate_ended (own : Holding m d s) {device : Box Device} {id : String}
    (built : text device.val.deviceInstanceId = some id) {formatMessage : UInt32 → String}
    {interfaceNumber : UInt8} {composite : Bool} {os retry : SerialPortAnswers}
    (ends : os.nameEnds formatMessage id interfaceNumber composite = true)
    (ends' : composite = false → retry.nameEnds formatMessage id 0 true = true) :
    wp (serialPortCreate formatMessage (some device) interfaceNumber composite true os retry)
      (fun r s' => ∃ d', Ended (fun port => (content port).Built) m d' r s') s := by
  simp only [serialPortCreate, Bool.true_eq_false, if_false, wp_bind]
  apply wp_mono (serialPortAttempt_ended own built ends)
  rintro ⟨_ | e, port⟩ s₁ ended
  · exact wp_pure.mpr ⟨d, ended⟩
  · obtain ⟨rfl, r⟩ := ended
    apply wp_ite
    · rintro ⟨_, nonComposite⟩
      have own₁ : Holding (m + (e.blocks, 0)) s₁.denials s₁ := ⟨r.owns, rfl⟩
      rw [wp_bind]
      apply wp_mono (serialPortAttempt_ended own₁ built (ends' nonComposite))
      rintro ⟨_ | e₂, port⟩ s₂ ended
      · obtain ⟨port, rfl, built, own₂⟩ := ended
        -- the error of the first attempt is not needed any more
        have first : Raised (m + owned port) s₂.denials (fun _ => True) e s₂ :=
          ⟨r.sound, own₂.owns.of_eq (add_right_comm _ _ _), .inl ⟨rfl, trivial⟩⟩
        simp only [Option.isSome_none, Bool.false_eq_true, if_false, wp_bind, wp_pure]
        apply first.wp_free
        exact fun s₃ own₃ => ⟨_, port, rfl, built, own₃⟩
      · obtain ⟨rfl, r₂⟩ := ended
        simp only [Option.isSome_some, if_true, wp_bind, wp_pure]
        apply r₂.wp_free
        exact fun s₃ own₃ => ⟨s₃.denials, rfl, r.sound, own₃.owns, .inl ⟨rfl, trivial⟩⟩
    · intro _
      exact wp_pure.mpr ⟨d, rfl, r⟩

/-- `libusbp_serial_port_create` returns, and a port that it hands out has its two strings. -/
lemma serialPortCreate_returns (own : Holding m d s) {device : Box Device} {id : String}
    (built : text device.val.deviceInstanceId = some id) (formatMessage : UInt32 → String)
    (interfaceNumber : UInt8) (composite : Bool) {os retry : SerialPortAnswers} (ends : os.Ends)
    (ends' : retry.Ends) :
    wp (serialPortCreate formatMessage (some device) interfaceNumber composite true os retry)
      (fun r _ => ∀ port, r = (none, some port) → (content port).Built) s := by
  apply wp_mono (serialPortCreate_ended own built (ends.nameEnds _ _ _ _)
    fun _ => ends'.nameEnds _ _ _ _)
  rintro _ s' ⟨d', ended⟩ port rfl
  obtain ⟨_, ⟨⟩, built, _⟩ := ended
  exact built

/-- Whatever the registry has to say, an attempt gives a port with its two strings. -/
lemma serialPortAttempt_built {formatMessage : UInt32 → String} {device : Box Device}
    {interfaceNumber : UInt8} {composite : Bool} {os : SerialPortAnswers} {port : Box SerialPort}
    {s s' : System}
    (run : serialPortAttempt formatMessage device interfaceNumber composite os s =
      .ok ((none, some port), s')) : (content port).Built := by
  obtain ⟨l, t, rest, there⟩ := construct_none run
  obtain ⟨x, s₁, made, rest⟩ := stages_into_none rest
  obtain ⟨newSp, rfl, _⟩ := allocateZeroed_none made
  obtain ⟨usbDeviceId, s₂, _, rest⟩ := stages_into_none rest
  obtain ⟨node, s₃, _, rest⟩ := stages_into_none rest
  obtain ⟨x, s₄, created, rest⟩ := stages_into_none rest
  obtain ⟨_, _, _, created⟩ := bind_ok created
  obtain ⟨_, _, _, created⟩ := bind_ok created
  obtain ⟨deviceInstanceId, rfl⟩ := createIdString_none created
  obtain ⟨keyDev, s₅, _, rest⟩ := stages_into_none rest
  obtain ⟨bytes, s₆, _, rest⟩ := stages_into_none rest
  obtain ⟨x, s₇, copied, rest⟩ := stages_into_none rest
  obtain ⟨_, _, _, copied⟩ := bind_ok copied
  obtain ⟨_, _, _, copied⟩ := bind_ok copied
  obtain ⟨portName, rfl, _⟩ := stringCopy_none copied
  rw [stages_assign rest] at there
  cases there
  exact ⟨Option.some_ne_none _, Option.some_ne_none _⟩

/-- The same holds of what the workaround gives. -/
lemma serialPortCreate_built {formatMessage : UInt32 → String} {device : Option (Box Device)}
    {interfaceNumber : UInt8} {composite : Bool} {os retry : SerialPortAnswers}
    {port : Box SerialPort} {s s' : System}
    (run : serialPortCreate formatMessage device interfaceNumber composite true os retry s =
      .ok ((none, some port), s')) : (content port).Built := by
  cases device with
  | none =>
    obtain ⟨error, t, _, rest⟩ := bind_ok run
    cases rest
  | some device =>
    rw [serialPortCreate, if_neg Bool.noConfusion] at run
    obtain ⟨⟨error, x⟩, s₁, first, run⟩ := bind_ok run
    cases error with
    | none =>
      cases run
      exact serialPortAttempt_built first
    | some e =>
      cases composite with
      | true => cases run
      | false =>
        obtain ⟨⟨error2, x⟩, s₂, second, run⟩ := bind_ok run
        cases error2 with
        | some e2 =>
          obtain ⟨_, s₃, _, run⟩ := bind_ok run
          cases run
        | none =>
          obtain ⟨_, s₃, _, run⟩ := bind_ok run
          cases run
          exact serialPortAttempt_built second

/-- A port that says what a blank one says is blank. -/
lemma port_blank {port : SerialPort} (same : content ({} : SerialPort) = content port) :
    port = {} := by
  obtain ⟨deviceInstanceId, portName⟩ := port
  cases deviceInstanceId with
  | some deviceInstanceId => cases same
  | none =>
    cases portName with
    | none => rfl
    | some portName => cases same

/-- `libusbp_serial_port_copy` gives a port that says the same, or an error and nothing else. -/
lemma serialPortCopy_ends (own : Holding m d s) {source : Box SerialPort}
    (built : (content source).Built) :
    wp (serialPortCopy (some source) true) (Ends m d (Except.map some (.ok (content source)))) s := by
  obtain ⟨deviceInstanceId, hd⟩ := Option.ne_none_iff_exists'.mp built.deviceInstanceId
  obtain ⟨portName, hp⟩ := Option.ne_none_iff_exists'.mp built.portName
  have hd : text source.val.deviceInstanceId = some deviceInstanceId := hd
  have hp : text source.val.portName = some portName := hp
  simp only [serialPortCopy, Bool.true_eq_false, if_false, wp_bind, wp_check]
  refine ⟨isSome_of_text hd, isSome_of_text hp, ?_⟩
  apply Staged.construct (fun l : SerialPortCopyVars => owned l.newSp)
    fun _ => serialPortFree_givesBack
  apply Ends.stageSome
  · exact allocateZeroed_ends own (by decide) rfl
  · intro e s₁ r
    exact ⟨rfl, (r.of_eq (add_zero m).symm).of_ok⟩
  rintro ⟨a, port⟩ s₁ zeroed own₁
  obtain rfl := port_blank (Except.ok.inj zeroed)
  apply Ends.stageSome
  · simp only [expect, pure_bind, hd]
    exact stringCopy_ends own₁ deviceInstanceId
  · intro e s₂ r
    exact ⟨rfl, r.of_ok⟩
  intro newId s₂ copied own₂
  have filled : m + owned (⟨a, {}⟩ : Box SerialPort) + owned newId =
      m + owned (⟨a, { deviceInstanceId := some newId }⟩ : Box SerialPort) := by
    simp only [owned_port, owned_some, owned_none]
    abel
  apply Ends.stageSome
  · simp only [putDeviceInstanceId, Option.map_some, expect, pure_bind, hp]
    exact stringCopy_ends own₂ portName
  · intro e s₃ r
    exact ⟨rfl, (r.of_eq filled).of_ok⟩
  intro newPortName s₃ copied' own₃
  apply wp_stages_cons
  refine wp_pure.mpr (wp_stages_nil.mpr ⟨?_, own₃.of_eq ?_⟩)
  · have said : content source = ⟨some deviceInstanceId, some portName⟩ := SerialPortView.ext hd hp
    rw [said, Except.ok.inj copied, Except.ok.inj copied']
    rfl
  · rw [filled]
    simp only [putDeviceInstanceId, putPortName, Option.map_some, owned_port, owned_some, owned_none]
    abel

/-- A copy without an error says what its source says, which has its two strings. -/
lemma serialPortCopy_same {source port : Box SerialPort} {s s' : System}
    (run : serialPortCopy (some source) true s = .ok ((none, some port), s')) :
    content port = content source ∧ (content source).Built := by
  rw [serialPortCopy, if_neg Bool.noConfusion] at run
  obtain ⟨_, t₁, _, run⟩ := bind_ok run
  obtain ⟨_, t₂, _, run⟩ := bind_ok run
  obtain ⟨l, t, rest, there⟩ := construct_none run
  obtain ⟨x, s₁, made, rest⟩ := stages_into_none rest
  obtain ⟨newSp, rfl, _⟩ := allocateZeroed_none made
  obtain ⟨x, s₂, copied, rest⟩ := stages_into_none rest
  obtain ⟨deviceInstanceId, rfl, hd⟩ := stringCopy_none copied
  obtain ⟨x, s₃, copied, rest⟩ := stages_into_none rest
  obtain ⟨portName, rfl, hp⟩ := stringCopy_none copied
  rw [stages_assign rest] at there
  cases there
  refine ⟨SerialPortView.ext hd.symm hp.symm, ?_, ?_⟩
  · exact (show (content source).deviceInstanceId = _ from hd).trans_ne (Option.some_ne_none _)
  · exact (show (content source).portName = _ from hp).trans_ne (Option.some_ne_none _)

end Libusbp.Windows
