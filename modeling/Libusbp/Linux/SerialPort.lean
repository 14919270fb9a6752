import Libusbp.Linux.Device

/-!
# Serial ports on Linux

`serial_port_linux.c`. A serial port owns the strings with the syspath of its tty device and with its
port name. Its fields are null until they are written, because its block is made by `calloc`.
-/

namespace Libusbp.Linux

open Prog Host

/-- `struct libusbp_serial_port` -/
structure SerialPort where
  syspath : Option (Box String) := none
  portName : Option (Box String) := none

def sizeofSerialPort : Nat := 16

/-- What a serial port says to its getters. -/
@[ext] structure SerialPortView where
  syspath : Option String
  portName : Option String
deriving DecidableEq, Repr

instance : Owned RefKind SerialPort := ⟨fun port => owned port.syspath + owned port.portName⟩

instance : Content SerialPort SerialPortView := ⟨fun port => ⟨text port.syspath, text port.portName⟩⟩

/-- What the operating system answers to one `libusbp_serial_port_create`. -/
structure SerialPortAnswers where
  contextCreated : Bool
  usbList : EnumerateAnswers
  ttyList : EnumerateAnswers

/-- Write to a field of the object that a pointer points to. -/
def putSyspath (port : Option (Box SerialPort)) (x : Option (Box String)) :
    Option (Box SerialPort) :=
  port.map fun port => { port with val := { port.val with syspath := x } }

def putPortName (port : Option (Box SerialPort)) (x : Option (Box String)) :
    Option (Box SerialPort) :=
  port.map fun port => { port with val := { port.val with portName := x } }

/-- The variables of `libusbp_serial_port_create`. -/
structure SerialPortVars where
  newPort : Option (Box SerialPort) := none
  newDeviceSyspath : Option (Box String) := none
  newUdev : Option Udev := none
  newInterfaceDev : Option UdevDevice := none
  newTtyDev : Option UdevDevice := none
  portName : Option String := none
  port : Option (Box SerialPort) := none

/-- The property `DEVNAME` of the tty device. -/
def getDevname (dev : Option UdevDevice) : Prog Fault System (Option Error × Option String) := do
  let dev ← expect .nullPointer dev
  match dev.info.property "DEVNAME" with
  | some portName => pure (none, some portName)
  | none => do
    let error ← inHeap (errorCreate "The DEVNAME property does not exist.")
    pure (error, none)

def serialPortFree (port : Option (Box SerialPort)) : Prog Fault System Unit :=
  match port with
  | none => pure ()
  | some port => do
    stringFree port.val.syspath
    stringFree port.val.portName
    free (some port)

/-- A step that calls a function with the address of a field of the new port. -/
def intoPort {ν : Type} (newPort : ν → Option (Box SerialPort))
    (f : ν → Prog Fault System (Option Error × Option (Box String)))
    (put : ν → Option (Box String) → ν) (l : ν) : Prog Fault System (Option Error × ν) := do
  check .nullPointer (newPort l).isSome
  into f put l

/-- The steps of `libusbp_serial_port_create`. -/
def serialPortSteps (device : Box Device) (interfaceNumber : UInt8) (os : SerialPortAnswers) :
    List (SerialPortVars → Prog Fault System (Option Error × SerialPortVars)) := [
  into (fun _ => allocateZeroed sizeofSerialPort {}) fun l x => { l with newPort := x },
  into (fun _ => deviceGetOsId device true) fun l x => { l with newDeviceSyspath := x },
  into (fun _ => udevwCreateContext os.contextCreated) fun l x => { l with newUdev := x },
  into (fun l => udevwGetInterface l.newUdev (text l.newDeviceSyspath) interfaceNumber os.usbList)
    fun l x => { l with newInterfaceDev := x },
  into (fun l => udevwGetTty l.newUdev l.newInterfaceDev os.ttyList)
    fun l x => { l with newTtyDev := x },
  intoPort (·.newPort) (fun l => udevwGetSyspathCopy l.newTtyDev)
    fun l x => { l with newPort := putSyspath l.newPort x },
  into (fun l => getDevname l.newTtyDev) fun l x => { l with portName := x },
  intoPort (·.newPort) (fun l => stringCopy l.portName)
    fun l x => { l with newPort := putPortName l.newPort x },
  fun l => pure (none, { l with port := l.newPort, newPort := none })]

def SerialPortVars.cleanUp (l : SerialPortVars) : Prog Fault System Unit := do
  udevDeviceUnref l.newTtyDev
  udevDeviceUnref l.newInterfaceDev
  udevUnref l.newUdev
  stringFree l.newDeviceSyspath
  serialPortFree l.newPort

def serialPortCreate (device : Option (Box Device)) (interfaceNumber : UInt8) (_composite : Bool)
    (port : Bool) (os : SerialPortAnswers) :
    Prog Fault System (Option Error × Option (Box SerialPort)) :=
  if port = false then do
    let error ← inHeap (errorCreate "Serial port output pointer is null.")
    pure (error, none)
  else match device with
    | none => do
      let error ← inHeap (errorCreate "Device is null.")
      pure (error, none)
    | some device =>
      construct (serialPortSteps device interfaceNumber os) SerialPortVars.cleanUp (·.port) {}

/-- The variables of `libusbp_serial_port_copy`. -/
structure SerialPortCopyVars where
  newPort : Option (Box SerialPort) := none
  dest : Option (Box SerialPort) := none

/-- The steps of `libusbp_serial_port_copy`. -/
def serialPortCopySteps (source : SerialPort) :
    List (SerialPortCopyVars → Prog Fault System (Option Error × SerialPortCopyVars)) := [
  into (fun _ => allocateZeroed sizeofSerialPort {}) fun l x => { l with newPort := x },
  intoPort (·.newPort) (fun _ => stringCopy (text source.syspath))
    fun l x => { l with newPort := putSyspath l.newPort x },
  intoPort (·.newPort) (fun _ => stringCopy (text source.portName))
    fun l x => { l with newPort := putPortName l.newPort x },
  fun l => pure (none, { dest := l.newPort, newPort := none })]

def serialPortCopy (source : Option (Box SerialPort)) (dest : Bool) :
    Prog Fault System (Option Error × Option (Box SerialPort)) :=
  if dest = false then do
    let error ← inHeap (errorCreate "Serial port output pointer is null.")
    pure (error, none)
  else match source with
    | none => pure (none, none)
    | some source =>
      construct (serialPortCopySteps source.val) (fun l => serialPortFree l.newPort) (·.dest) {}

def serialPortGetName :
    Option (Box SerialPort) → Bool → Prog Fault System (Option Error × Option (Box String)) :=
  getString "String output pointer is null." "Serial port is null." fun port =>
    stringCopy (text port.portName)

def UdevInfo.getDevname (info : UdevInfo) : Except ErrorValue String :=
  match info.property "DEVNAME" with
  | some portName => .ok portName
  | none => .error (.ofText "The DEVNAME property does not exist.")

/-- The outcome of `libusbp_serial_port_create` for a device with a syspath. -/
def serialPortOutcome (syspath : String) (interfaceNumber : UInt8) (os : SerialPortAnswers) :
    Except ErrorValue SerialPortView := do
  contextOutcome os.contextCreated
  let _ ← interfaceOutcome syspath interfaceNumber os.usbList
  let ttyInfo ← ttyOutcome os.ttyList
  let portName ← ttyInfo.getDevname
  pure ⟨ttyInfo.syspath, portName⟩

/-- What the variables hold besides the port that is passed to the caller. -/
def SerialPortVars.others (l : SerialPortVars) : Holdings RefKind :=
  owned l.newTtyDev + (owned l.newInterfaceDev + (owned l.newUdev +
    (owned l.newDeviceSyspath + owned l.newPort)))

variable {m : Holdings RefKind} {d : Nat} {s : System}

lemma getDevname_gets (own : Holding m d s) (dev : UdevDevice) :
    wp (getDevname (some dev)) (Gets m d (dev.info.getDevname.map some)) s := by
  unfold getDevname UdevInfo.getDevname
  rw [wp_bind, wp_expect]
  refine ⟨dev, rfl, ?_⟩
  cases dev.info.property "DEVNAME" with
  | some portName => exact wp_pure.mpr ⟨rfl, own⟩
  | none => exact own.raise_gets _ _

lemma serialPortFree_givesBack {port : Option (Box SerialPort)} :
    GivesBack (serialPortFree port) (owned port) := by
  cases port with
  | none => exact .nothing
  | some port =>
    have fields : GivesBack (serialPortFree (some port)) (owned port.val.syspath +
        (owned port.val.portName + (({.heap port.addr}, 0) : Holdings RefKind))) :=
      .seq stringFree_givesBack (.seq stringFree_givesBack .freeBlock)
    apply fields.of_eq
    simp only [owned_some, owned_box]
    show _ = _ + (owned port.val.syspath + owned port.val.portName)
    abel

lemma SerialPortVars.cleanUp_givesBack (l : SerialPortVars) : GivesBack l.cleanUp l.others :=
  .seq udevDeviceUnref_givesBack (.seq udevDeviceUnref_givesBack (.seq udevUnref_givesBack
    (.seq stringFree_givesBack serialPortFree_givesBack)))

/-- With a port to write to, the step is an ordinary one. -/
lemma wp_stages_intoPort {ν : Type} {newPort : ν → Option (Box SerialPort)}
    {f : ν → Prog Fault System (Option Error × Option (Box String))}
    {put : ν → Option (Box String) → ν} {fs : List (ν → Prog Fault System (Option Error × ν))}
    {l : ν} {port : Box SerialPort} {Q : Option Error × ν → System → Prop}
    (there : newPort l = some port) (h : wp (stages (into f put :: fs) l) Q s) :
    wp (stages (intoPort newPort f put :: fs) l) Q s := by
  have step : intoPort newPort f put l = into f put l := by
    rw [intoPort, there]
    rfl
  rwa [stages, step]

/-- The contents of a port, with the block that they are in. -/
lemma owned_port {port : Box SerialPort} : (owned port : Holdings RefKind) =
    ({.heap port.addr}, 0) + (owned port.val.syspath + owned port.val.portName) := rfl

/-- A port that says what a blank one says is blank. -/
lemma port_blank {port : SerialPort} (same : content ({} : SerialPort) = content port) :
    port = {} := by
  obtain ⟨syspath, portName⟩ := port
  cases syspath with
  | some syspath => cases same
  | none =>
    cases portName with
    | none => rfl
    | some portName => cases same

/-- A field that was null takes up what it is given. -/
lemma owned_putSyspath {port : Box SerialPort} (blank : port.val.syspath = none)
    (x : Option (Box String)) :
    (owned (putSyspath (some port) x) : Holdings RefKind) = owned port + owned x := by
  simp only [putSyspath, Option.map_some, owned_some, owned_port, blank, owned_none]
  abel

lemma owned_putPortName {port : Box SerialPort} (blank : port.val.portName = none)
    (x : Option (Box String)) :
    (owned (putPortName (some port) x) : Holdings RefKind) = owned port + owned x := by
  simp only [putPortName, Option.map_some, owned_some, owned_port, blank, owned_none]
  abel

/-- What is read from the tty device. -/
def UdevInfo.portOutcome (info : UdevInfo) : Except ErrorValue SerialPortView := do
  let portName ← info.getDevname
  pure ⟨info.syspath, portName⟩

/-- The steps that write the fields of the new port, once the tty device is found. -/
lemma serialPortFields_staged {l : SerialPortVars} (own : Holding (m + l.others) d s)
    {newPort : Box SerialPort} (fresh : newPort.val = {}) {newTtyDev : UdevDevice}
    (there : l.newPort = some newPort) (found : l.newTtyDev = some newTtyDev) (out : l.port = none)
    (device : Box Device) (interfaceNumber : UInt8) (os : SerialPortAnswers) :
    wp (stages ((serialPortSteps device interfaceNumber os).drop 5) l)
      (Staged (·.port) SerialPortVars.others m d (newTtyDev.info.portOutcome.map some)) s := by
  apply wp_stages_intoPort there
  apply Ends.stageSome
  · rw [found]
    exact udevwGetSyspathCopy_ends own newTtyDev
  · intro e s₁ r
    refine ⟨out, (r.of_eq ?_).of_ok⟩
    simp only [SerialPortVars.others, there, owned_putSyspath (congrArg SerialPort.syspath fresh),
      owned_some, owned_none, add_zero]
  intro newSyspath s₁ gotSyspath own₁
  have others : m + l.others + owned newSyspath = m + SerialPortVars.others
      { l with newPort := putSyspath l.newPort (some newSyspath) } := by
    simp only [SerialPortVars.others, there, owned_putSyspath (congrArg SerialPort.syspath fresh),
      owned_some]
    abel
  apply Gets.stage
  · rw [found]
    exact getDevname_gets own₁ newTtyDev
  · intro e x s₂ r
    refine ⟨out, (r.of_eq others).mono fun v hv => ?_⟩
    unfold UdevInfo.portOutcome
    -- a name that is there is no error
    cases got : newTtyDev.info.getDevname with
    | ok portName =>
      rw [got] at hv
      cases hv
    | error u =>
      rw [got] at hv
      cases hv
      rfl
  intro portName s₂ named own₂
  obtain ⟨portName, rfl, devname⟩ : ∃ name, portName = some name ∧
      newTtyDev.info.getDevname = .ok name := by
    cases got : newTtyDev.info.getDevname with
    | ok name =>
      rw [got] at named
      exact ⟨name, (Except.ok.inj named).symm, rfl⟩
    | error u =>
      rw [got] at named
      cases named
  rw [there] at others ⊢
  -- the second string goes into the port that has the first one
  have blank : (⟨newPort.addr, { newPort.val with syspath := some newSyspath }⟩ :
      Box SerialPort).val.portName = none := congrArg SerialPort.portName fresh
  apply wp_stages_intoPort
  · exact (rfl : _ = putSyspath (some newPort) (some newSyspath))
  apply Ends.stageSome
  · exact stringCopy_ends own₂ portName
  · intro e s₃ r
    refine ⟨out, (r.of_eq ?_).of_ok⟩
    rw [others]
    simp only [SerialPortVars.others, putSyspath, Option.map_some, owned_putPortName blank,
      owned_some, owned_none, add_zero]
  intro newPortName s₃ gotName own₃
  apply wp_stages_cons
  simp only [wp_pure, wp_stages_nil]
  refine ⟨?_, own₃.of_eq ?_⟩
  · have syspath_eq : newTtyDev.info.syspath = newSyspath.val := Except.ok.inj gotSyspath
    rw [UdevInfo.portOutcome, devname, syspath_eq, show portName = newPortName.val from
      Except.ok.inj gotName]
    rfl
  · rw [others]
    simp only [SerialPortVars.others, putSyspath, Option.map_some, owned_putPortName blank,
      owned_some, owned_none]
    abel

/-- The steps end as they should, and their variables hold nothing but what is cleaned up. -/
lemma serialPortSteps_staged (own : Holding m d s) {device : Box Device} {syspath : String}
    (built : text device.val.syspath = some syspath) (interfaceNumber : UInt8)
    (os : SerialPortAnswers) :
    wp (stages (serialPortSteps device interfaceNumber os) {})
      (Staged (·.port) SerialPortVars.others m d
        ((serialPortOutcome syspath interfaceNumber os).map some)) s := by
  unfold serialPortOutcome
  apply Ends.stageSome
  · exact allocateZeroed_ends own (by decide) rfl
  · intro e s₁ r
    exact ⟨rfl, (r.of_eq (by simp [SerialPortVars.others])).of_ok⟩
  intro newPort s₁ zeroed own₁
  have fresh : newPort.val = {} := port_blank (Except.ok.inj zeroed)
  apply Ends.stageSome
  · exact deviceGetOsId_ends own₁ built
  · intro e s₂ r
    refine ⟨rfl, (r.of_eq ?_).of_ok⟩
    simp only [SerialPortVars.others, owned_some, owned_none]
    abel
  intro newDeviceSyspath s₂ copied own₂
  have path : text (some newDeviceSyspath) = some syspath :=
    congrArg some (Except.ok.inj copied).symm
  apply Ends.stageSome
  · exact udevwCreateContext_ends own₂ os.contextCreated
  · intro e s₃ r
    refine ⟨rfl, (r.of_eq ?_).mono fun v hv => ?_⟩
    · simp only [SerialPortVars.others, owned_some, owned_none]
      abel
    · rw [hv]
      rfl
  intro newUdev s₃ created own₃
  dsimp only
  apply Ends.stageSome
  · rw [path]
    exact udevwGetInterface_ends own₃ newUdev syspath interfaceNumber os.usbList
  · intro e s₄ r
    refine ⟨rfl, (r.of_eq ?_).mono fun v hv => ?_⟩
    · simp only [SerialPortVars.others, owned_some, owned_none]
      abel
    · rw [created, hv]
      rfl
  intro newInterfaceDev s₄ found own₄
  dsimp only
  apply Ends.stageSome
  · exact udevwGetTty_ends own₄ newUdev newInterfaceDev os.ttyList
  · intro e s₅ r
    refine ⟨rfl, (r.of_eq ?_).mono fun v hv => ?_⟩
    · simp only [SerialPortVars.others, owned_some, owned_none]
      abel
    · rw [created, found, hv]
      rfl
  intro newTtyDev s₅ foundTty own₅
  rw [created, found, foundTty]
  refine serialPortFields_staged (own₅.of_eq ?_) fresh rfl rfl rfl device interfaceNumber os
  simp only [SerialPortVars.others, owned_some]
  abel

/-- `libusbp_serial_port_create` gives what was found, or an error and nothing else. -/
lemma serialPortCreate_ends (own : Holding m d s) {device : Box Device} {syspath : String}
    (built : text device.val.syspath = some syspath) (interfaceNumber : UInt8) (composite : Bool)
    (os : SerialPortAnswers) :
    wp (serialPortCreate (some device) interfaceNumber composite true os)
      (Ends m d ((serialPortOutcome syspath interfaceNumber os).map some)) s :=
  Staged.construct _ SerialPortVars.cleanUp_givesBack
    (serialPortSteps_staged own built interfaceNumber os)

/-- A serial port that was built has its two strings. -/
structure SerialPortView.Built (v : SerialPortView) : Prop where
  syspath : v.syspath ≠ none
  portName : v.portName ≠ none

/-- A step without an error had a port to write to. -/
lemma stages_intoPort_none {ν : Type} {newPort : ν → Option (Box SerialPort)}
    {f : ν → Prog Fault System (Option Error × Option (Box String))}
    {put : ν → Option (Box String) → ν} {fs : List (ν → Prog Fault System (Option Error × ν))}
    {l l' : ν} {s s'' : System}
    (h : stages (intoPort newPort f put :: fs) l s = .ok ((none, l'), s'')) :
    ∃ x s', f l s = .ok ((none, x), s') ∧ stages fs (put l x) s' = .ok ((none, l'), s'') := by
  cases there : newPort l with
  | none =>
    rcases stages_ok h with ⟨e, x, ⟨⟩, _⟩ | ⟨x, t, step, _⟩
    simp only [intoPort, there] at step
    cases step
  | some port =>
    have step : intoPort newPort f put l = into f put l := by
      rw [intoPort, there]
      rfl
    apply stages_into_none
    rwa [stages, step] at h

/-- Whatever udev has to say, a serial port that was created has its two strings. -/
lemma serialPortCreate_built {device : Option (Box Device)} {interfaceNumber : UInt8}
    {composite : Bool} {os : SerialPortAnswers} {port : Box SerialPort} {s s' : System}
    (run : serialPortCreate device interfaceNumber composite true os s =
      .ok ((none, some port), s')) : (content port).Built := by
  cases device with
  | none =>
    obtain ⟨error, t, _, rest⟩ := bind_ok run
    cases rest
  | some device =>
    obtain ⟨l, t, rest, there⟩ := construct_none run
    obtain ⟨x, s₁, made, rest⟩ := stages_into_none rest
    obtain ⟨newPort, rfl, _⟩ := allocateZeroed_none made
    obtain ⟨newDeviceSyspath, s₂, _, rest⟩ := stages_into_none rest
    obtain ⟨newUdev, s₃, _, rest⟩ := stages_into_none rest
    obtain ⟨newInterfaceDev, s₄, _, rest⟩ := stages_into_none rest
    obtain ⟨newTtyDev, s₅, _, rest⟩ := stages_into_none rest
    obtain ⟨x, s₆, copied, rest⟩ := stages_intoPort_none rest
    obtain ⟨_, _, _, copied⟩ := bind_ok copied
    obtain ⟨syspath, rfl, _⟩ := stringCopy_none copied
    obtain ⟨name, s₇, _, rest⟩ := stages_into_none rest
    obtain ⟨x, s₈, copied, rest⟩ := stages_intoPort_none rest
    obtain ⟨portName, rfl, _⟩ := stringCopy_none copied
    rw [stages_assign rest] at there
    cases there
    exact ⟨Option.some_ne_none _, Option.some_ne_none _⟩

/-- `libusbp_serial_port_copy` gives a port that says the same, or an error and nothing else. -/
lemma serialPortCopy_ends (own : Holding m d s) {source : Box SerialPort}
    (built : (content source).Built) :
    wp (serialPortCopy (some source) true) (Ends m d (Except.map some (.ok (content source)))) s := by
  obtain ⟨syspath, hs⟩ := Option.ne_none_iff_exists'.mp built.syspath
  obtain ⟨portName, hp⟩ := Option.ne_none_iff_exists'.mp built.portName
  apply Staged.construct (fun l : SerialPortCopyVars => owned l.newPort)
    fun _ => serialPortFree_givesBack
  apply Ends.stageSome
  · exact allocateZeroed_ends own (by decide) rfl
  · intro e s₁ r
    exact ⟨rfl, (r.of_eq (add_zero m).symm).of_ok⟩
  rintro ⟨a, port⟩ s₁ zeroed own₁
  obtain rfl := port_blank (Except.ok.inj zeroed)
  apply wp_stages_intoPort
  · exact (rfl : _ = some (⟨a, {}⟩ : Box SerialPort))
  apply Ends.stageSome
  · rw [show text source.val.syspath = some syspath from hs]
    exact stringCopy_ends own₁ syspath
  · intro e s₂ r
    exact ⟨rfl, r.of_ok⟩
  intro newSyspath s₂ copied own₂
  have filled : m + owned (⟨a, {}⟩ : Box SerialPort) + owned newSyspath =
      m + owned (⟨a, { syspath := some newSyspath }⟩ : Box SerialPort) := by
    simp only [owned_port, owned_some, owned_none]
    abel
  apply wp_stages_intoPort
  · exact (rfl : _ = some (⟨a, { syspath := some newSyspath }⟩ : Box SerialPort))
  apply Ends.stageSome
  · rw [show text source.val.portName = some portName from hp]
    exact stringCopy_ends own₂ portName
  · intro e s₃ r
    exact ⟨rfl, (r.of_eq filled).of_ok⟩
  intro newPortName s₃ copied' own₃
  apply wp_stages_cons
  refine wp_pure.mpr (wp_stages_nil.mpr ⟨?_, own₃.of_eq ?_⟩)
  · have said : content source = ⟨some syspath, some portName⟩ := SerialPortView.ext hs hp
    rw [said, Except.ok.inj copied, Except.ok.inj copied']
    rfl
  · rw [filled]
    simp only [putSyspath, putPortName, Option.map_some, owned_port, owned_some, owned_none]
    abel

/-- A copy without an error says what its source says, which has its two strings. -/
lemma serialPortCopy_same {source port : Box SerialPort} {s s' : System}
    (run : serialPortCopy (some source) true s = .ok ((none, some port), s')) :
    content port = content source ∧ (content source).Built := by
  rw [serialPortCopy, if_neg Bool.noConfusion] at run
  obtain ⟨l, t, rest, there⟩ := construct_none run
  obtain ⟨x, s₁, made, rest⟩ := stages_into_none rest
  obtain ⟨newPort, rfl, _⟩ := allocateZeroed_none made
  obtain ⟨x, s₂, copied, rest⟩ := stages_intoPort_none rest
  obtain ⟨syspath, rfl, hs⟩ := stringCopy_none copied
  obtain ⟨x, s₃, copied, rest⟩ := stages_intoPort_none rest
  obtain ⟨portName, rfl, hp⟩ := stringCopy_none copied
  rw [stages_assign rest] at there
  cases there
  refine ⟨SerialPortView.ext hs.symm hp.symm, ?_, ?_⟩
  · exact (show (content source).syspath = _ from hs).trans_ne (Option.some_ne_none _)
  · exact (show (content source).portName = _ from hp).trans_ne (Option.some_ne_none _)

end Libusbp.Linux
