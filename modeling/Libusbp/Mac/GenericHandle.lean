import Libusbp.Among
import Libusbp.Mac.GenericInterface
import Libusbp.Mac.PipeIndex

/-!
# Opening a generic handle on macOS

The functions of `generic_handle_mac.c` that open and close a handle, and `service_to_interface`. A
service is used through an object of its plug-in, which grants exclusive access to one user at a time. A
device that is not configured is configured before its interface is looked up, with exclusive access that
is given back at once.
-/

namespace Libusbp.Mac

open Prog Host

/-- The kinds of references that a generic handle holds. -/
inductive ClientKind where
  | plugIn
  | object
  | access
deriving DecidableEq, Repr

/-- The state of a program on macOS that holds generic handles as well. -/
abbrev HandleSystem : Type := Host (RefKind ⊕ ClientKind)

/-- What `service_to_interface` hands out: an object and the plug-in that made it. IOKit keeps track of
the exclusive access that was granted through the object. -/
structure Client where
  object : Nat
  plugIn : Nat
  access : Option Nat := none

instance : Owned (RefKind ⊕ ClientKind) Client := ⟨fun client =>
  client.access.elim 0 (fun n => (0, {(.inr .access, n)})) +
    ((0, {(.inr .object, client.object)}) + (0, {(.inr .plugIn, client.plugIn)}))⟩

/-- Whether there is exclusive access. -/
instance : Content Client Bool := ⟨fun client => client.access.isSome⟩

instance : Owned (RefKind ⊕ ClientKind) Service :=
  ⟨fun service => (0, {(.inl .ioObject, service.ref)})⟩

/-- `struct libusbp_generic_handle`, where `ioh` and `plug_in` are null together. -/
structure OpenHandle where
  client : Option Client := none
  asyncPort : UInt32 := 0
  tables : GenericHandle := .zeroed

def sizeofGenericHandle : Nat := 184

instance : Owned (RefKind ⊕ ClientKind) OpenHandle := ⟨fun handle => owned handle.client⟩

/-- What a handle says, without where it lives. -/
structure HandleView where
  client : Option Bool
  asyncPort : UInt32
  tables : GenericHandle

instance : Content OpenHandle HandleView :=
  ⟨fun handle => ⟨handle.client.map content, handle.asyncPort, handle.tables⟩⟩

/-- What IOKit answers to one `service_to_interface`, with the codes that the calls return. -/
structure PlugInAnswers where
  createPlugIn : UInt32
  queryInterface : UInt32

/-- What IOKit answers to one `set_configuration`. -/
structure ConfigurationAnswers where
  plugIn : PlugInAnswers
  getConfiguration : Except UInt32 UInt8
  deviceOpen : UInt32
  setConfiguration : UInt32

/-- What IOKit answers to one `libusbp_generic_handle_open`. -/
structure HandleAnswers where
  interface : ServiceAnswers
  device : ServiceAnswers
  configuration : ConfigurationAnswers
  children : Except UInt32 (List RegistryEntry)
  plugIn : PlugInAnswers
  interfaceOpen : UInt32
  pipes : InterfacePipes
  asyncPort : Except UInt32 UInt32

/-- An error for a code that is not `KERN_SUCCESS`. -/
def checkMach (machErrorString : UInt32 → String) (kr : UInt32) (format : String) :
    Prog Fault HandleSystem (Option Error) :=
  if kr ≠ kernSuccess then inHeap (errorCreateMach machErrorString kr format)
  else pure none

/-- An error for an `HRESULT` code that is not zero. -/
def checkHr (hr : UInt32) (format : String) : Prog Fault HandleSystem (Option Error) :=
  if hr ≠ 0 then inHeap (Windows.errorCreateHr hr format) else pure none

/-- A call that yields a reference of a kind, unless it fails. -/
def acquireUnless (kind : ClientKind) (failed : Prog Fault HandleSystem (Option Error)) :
    Prog Fault HandleSystem (Option Error × Option Nat) := do
  let error ← failed
  if error.isSome then pure (error, none)
  else do
    let ref ← acquire (.inr kind)
    pure (none, some ref)

/-- The variables of `service_to_interface`. -/
structure PlugInVars where
  newPlugIn : Option Nat := none
  object : Option Nat := none
  plugIn : Option Nat := none

/-- What the output pointers get. -/
def PlugInVars.client (l : PlugInVars) : Option Client := do
  let object ← l.object
  let plugIn ← l.plugIn
  pure { object, plugIn }

/-- The steps of `service_to_interface` for a caller that wants the plug-in as well. -/
def plugInSteps (machErrorString : UInt32 → String) (os : PlugInAnswers) :
    List (PlugInVars → Prog Fault HandleSystem (Option Error × PlugInVars)) := [
  into (fun _ => acquireUnless .plugIn
    (checkMach machErrorString os.createPlugIn "Failed to create plug-in interface."))
    fun l x => { l with newPlugIn := x },
  into (fun l => do
    let _ ← expect .nullPointer l.newPlugIn
    acquireUnless .object (checkHr os.queryInterface "Failed to query interface."))
    fun l x => { l with object := x },
  fun l => pure (none, { l with plugIn := l.newPlugIn, newPlugIn := none })]

def serviceToInterface (machErrorString : UInt32 → String) (service : Option Service)
    (os : PlugInAnswers) : Prog Fault HandleSystem (Option Error × Option Client) := do
  let _ ← expect .assertion service
  construct (plugInSteps machErrorString os) (fun l => release? (.inr .plugIn) l.newPlugIn)
    PlugInVars.client {}

/-- `USBDeviceOpen` and `USBInterfaceOpen` -/
def Client.open (machErrorString : UInt32 → String) (client : Client) (kr : UInt32)
    (format : String) : Prog Fault HandleSystem (Option Error × Client) := do
  let (error, access) ← acquireUnless .access (checkMach machErrorString kr format)
  pure (error, { client with access })

/-- `USBDeviceClose` or `USBInterfaceClose`, which do nothing without exclusive access, and `Release` of
the object and of the plug-in -/
def closeClient (client : Option Client) : Prog Fault HandleSystem Unit :=
  match client with
  | none => pure ()
  | some client => do
    release? (.inr .access) client.access
    Host.release (.inr .object) client.object
    Host.release (.inr .plugIn) client.plugIn

/-- The variables of `set_configuration`. -/
structure ConfigurationVars where
  devHandle : Option Client := none
  configNum : UInt8 := 0

/-- `config_num` after `GetConfiguration`: a device that does not tell is not configured. -/
def ConfigurationAnswers.configNum (os : ConfigurationAnswers) : UInt8 :=
  match os.getConfiguration with
  | .error _ => 0
  | .ok configNum => configNum

/-- The steps of `set_configuration`. -/
def configurationSteps (machErrorString : UInt32 → String) (service : Option Service)
    (os : ConfigurationAnswers) :
    List (ConfigurationVars → Prog Fault HandleSystem (Option Error × ConfigurationVars)) := [
  into (fun _ => serviceToInterface machErrorString service os.plugIn)
    fun l x => { l with devHandle := x },
  fun l => do
    let _ ← expect .nullPointer l.devHandle
    pure (none, { l with configNum := os.configNum }),
  fun l =>
    if l.configNum = 0 then do
      let devHandle ← expect .nullPointer l.devHandle
      let (error, devHandle) ←
        devHandle.open machErrorString os.deviceOpen "Failed to open handle to device."
      pure (error, { l with devHandle })
    else pure (none, l),
  checking fun l =>
    if l.configNum = 0 then
      checkMach machErrorString os.setConfiguration "Failed to set configuration to 1."
    else pure none]

def setConfiguration (machErrorString : UInt32 → String) (service : Option Service)
    (os : ConfigurationAnswers) : Prog Fault HandleSystem (Option Error) := do
  let _ ← expect .assertion service
  let (error, l) ← stages (configurationSteps machErrorString service os) {}
  closeClient l.devHandle
  pure error

/-- The variables of `set_configuration_and_get_service`. -/
structure ConfiguredVars where
  deviceService : Option Service := none
  service : Option Service := none

def setConfigurationAndGetService (machErrorString : UInt32 → String)
    (gi : Option (Box GenericInterface)) (os : HandleAnswers) :
    Prog Fault HandleSystem (Option Error × Option Service) := do
  let deviceId ← among (genericInterfaceGetDeviceId gi)
  let interfaceNumber ← among (genericInterfaceGetInterfaceNumber gi)
  construct [
      into (fun _ => among (serviceGetFromId deviceId os.device))
        fun l x => { l with deviceService := x },
      checking fun l => setConfiguration machErrorString l.deviceService os.configuration,
      into (fun l => do
        let _ ← expect .assertion l.deviceService
        among (serviceGetUsbInterface machErrorString interfaceNumber os.children))
        fun l x => { l with service := x }]
    (fun l => among (releaseService l.deviceService)) (·.service) ({} : ConfiguredVars)

/-- The service for the interface, by its ID if there is one. -/
def interfaceService (machErrorString : UInt32 → String) (gi : Box GenericInterface)
    (os : HandleAnswers) : Prog Fault HandleSystem (Option Error × Option Service) := do
  let (hasInterfaceId, interfaceId) ← among (genericInterfaceGetInterfaceId gi)
  if hasInterfaceId then among (serviceGetFromId interfaceId os.interface)
  else setConfigurationAndGetService machErrorString gi os

/-- `CreateInterfaceAsyncPort` -/
def createAsyncPort (machErrorString : UInt32 → String) (answer : Except UInt32 UInt32) :
    Prog Fault HandleSystem (Option Error × UInt32) :=
  match answer with
  | .error kr => do
    let error ← inHeap (errorCreateMach machErrorString kr "Failed to create asynchronous port.")
    pure (error, 0)
  | .ok port => pure (none, port)

/-- The variables of `libusbp_generic_handle_open`. -/
structure HandleVars where
  newHandle : Option (Box OpenHandle) := none
  service : Option Service := none
  handle : Option (Box OpenHandle) := none

/-- Assign to the fields of the new handle. -/
def HandleVars.assign (l : HandleVars) (f : OpenHandle → OpenHandle) : HandleVars :=
  { l with newHandle := l.newHandle.map fun handle => ⟨handle.addr, f handle.val⟩ }

/-- The steps of `libusbp_generic_handle_open`. -/
def handleSteps (machErrorString : UInt32 → String) (gi : Box GenericInterface) (os : HandleAnswers) :
    List (HandleVars → Prog Fault HandleSystem (Option Error × HandleVars)) := [
  into (fun _ => allocateZeroed sizeofGenericHandle {}) fun l x => { l with newHandle := x },
  into (fun _ => interfaceService machErrorString gi os) fun l x => { l with service := x },
  into (fun l => do
    let _ ← expect .nullPointer l.newHandle
    serviceToInterface machErrorString l.service os.plugIn) fun l x =>
      l.assign fun handle => { handle with client := x },
  fun l => do
    let newHandle ← expect .nullPointer l.newHandle
    let client ← expect .nullPointer newHandle.val.client
    let (error, client) ← client.open machErrorString os.interfaceOpen "Failed to open generic handle."
    pure (error, l.assign fun handle => { handle with client }),
  into (fun l => do
    let newHandle ← expect .nullPointer l.newHandle
    let _ ← expect .nullPointer newHandle.val.client
    among (processPipeProperties machErrorString os.pipes newHandle.val.tables)) fun l x =>
      l.assign fun handle => { handle with tables := x },
  into (fun l => do
    let newHandle ← expect .nullPointer l.newHandle
    let _ ← expect .nullPointer newHandle.val.client
    createAsyncPort machErrorString os.asyncPort) fun l x =>
      l.assign fun handle => { handle with asyncPort := x },
  fun l => pure (none, { l with handle := l.newHandle, newHandle := none })]

def genericHandleClose (handle : Option (Box OpenHandle)) : Prog Fault HandleSystem Unit :=
  match handle with
  | none => pure ()
  | some handle => do
    closeClient handle.val.client
    free (some handle)

def HandleVars.cleanUp (l : HandleVars) : Prog Fault HandleSystem Unit := do
  genericHandleClose l.newHandle
  among (releaseService l.service)

def genericHandleOpen (machErrorString : UInt32 → String) (gi : Option (Box GenericInterface))
    (handle : Bool) (os : HandleAnswers) :
    Prog Fault HandleSystem (Option Error × Option (Box OpenHandle)) :=
  opening gi handle fun gi =>
    construct (handleSteps machErrorString gi os) HandleVars.cleanUp (·.handle) {}

/-- What a code comes to that a call returned. -/
def machCheck (machErrorString : UInt32 → String) (kr : UInt32) (format : String) :
    Except ErrorValue Unit := failIf (kr ≠ kernSuccess) (machError machErrorString kr format)

/-- What an `HRESULT` code comes to. -/
def hrCheck (hr : UInt32) (format : String) : Except ErrorValue Unit :=
  failIf (hr ≠ 0) (Windows.hrError hr format)

/-- The outcome of `service_to_interface`, whose object has no exclusive access yet. -/
def PlugInAnswers.outcome (machErrorString : UInt32 → String) (os : PlugInAnswers) :
    Except ErrorValue Bool := do
  machCheck machErrorString os.createPlugIn "Failed to create plug-in interface."
  hrCheck os.queryInterface "Failed to query interface."
  pure false

/-- The outcome of `set_configuration`. -/
def ConfigurationAnswers.outcome (machErrorString : UInt32 → String) (os : ConfigurationAnswers) :
    Except ErrorValue Unit := do
  let _ ← os.plugIn.outcome machErrorString
  if os.configNum = 0 then do
    machCheck machErrorString os.deviceOpen "Failed to open handle to device."
    machCheck machErrorString os.setConfiguration "Failed to set configuration to 1."
  else pure ()

/-- The outcome of the lookup of the service for an interface. -/
def HandleAnswers.serviceOutcome (machErrorString : UInt32 → String) (gi : GenericInterface)
    (os : HandleAnswers) : Except ErrorValue RegistryEntry :=
  if gi.hasInterfaceId then os.interface.outcome gi.interfaceId
  else do
    let _ ← os.device.outcome gi.deviceId
    os.configuration.outcome machErrorString
    usbInterfaceOutcome machErrorString gi.interfaceNumber os.children

/-- What a round of the loop of `process_pipe_properties` comes to. -/
def InterfacePipes.round (machErrorString : UInt32 → String) (os : InterfacePipes)
    (tables : GenericHandle) (i : Nat) : Except ErrorValue GenericHandle := do
  let p ← machOutcome machErrorString s!"Failed to get pipe properties for pipe {i}."
    (os.pipeProperties (UInt8.ofNat i))
  pure (tables.enter p (UInt8.ofNat i))

/-- The outcome of `process_pipe_properties`. -/
def InterfacePipes.outcome (machErrorString : UInt32 → String) (os : InterfacePipes)
    (tables : GenericHandle) : Except ErrorValue GenericHandle := do
  let endpointCount ← machOutcome machErrorString "Failed to get number of endpoints." os.numEndpoints
  (List.range' 1 endpointCount.toNat).foldlM (os.round machErrorString) tables

/-- The outcome of `libusbp_generic_handle_open`. -/
def HandleAnswers.outcome (machErrorString : UInt32 → String) (gi : GenericInterface)
    (os : HandleAnswers) : Except ErrorValue HandleView := do
  let _ ← os.serviceOutcome machErrorString gi
  let _ ← os.plugIn.outcome machErrorString
  machCheck machErrorString os.interfaceOpen "Failed to open generic handle."
  let tables ← os.pipes.outcome machErrorString .zeroed
  let asyncPort ← machOutcome machErrorString "Failed to create asynchronous port." os.asyncPort
  pure ⟨some true, asyncPort, tables⟩

/-- What the variables hold besides the handle that is handed out. -/
def HandleVars.others (l : HandleVars) : Holdings (RefKind ⊕ ClientKind) :=
  owned l.newHandle + owned l.service

variable {m : Holdings (RefKind ⊕ ClientKind)} {d : Nat} {s : HandleSystem}
  {machErrorString : UInt32 → String}

lemma owned_client {client : Client} : (owned client : Holdings (RefKind ⊕ ClientKind)) =
    client.access.elim 0 (fun n => (0, {(.inr .access, n)})) +
      ((0, {(.inr .object, client.object)}) + (0, {(.inr .plugIn, client.plugIn)})) := rfl

lemma owned_handle {addr : Addr} {handle : OpenHandle} :
    (owned (⟨addr, handle⟩ : Box OpenHandle) : Holdings (RefKind ⊕ ClientKind)) =
      ({.heap addr}, 0) + owned handle.client := rfl

lemma closeClient_givesBack {client : Option Client} :
    GivesBack (closeClient client) (owned client) := by
  cases client with
  | none => exact .nothing
  | some client =>
    have object : GivesBack (Host.release (.inr .object) client.object)
        (0, {((.inr .object : RefKind ⊕ ClientKind), client.object)}) :=
      GivesBack.release? (r := some client.object)
    have plugIn : GivesBack (Host.release (.inr .plugIn) client.plugIn)
        (0, {((.inr .plugIn : RefKind ⊕ ClientKind), client.plugIn)}) :=
      GivesBack.release? (r := some client.plugIn)
    exact GivesBack.release?.seq (object.seq plugIn)

lemma genericHandleClose_givesBack {handle : Option (Box OpenHandle)} :
    GivesBack (genericHandleClose handle) (owned handle) := by
  cases handle with
  | none => exact .nothing
  | some handle =>
    apply (closeClient_givesBack.seq (.freeBlock (b := handle))).of_eq
    rw [owned_some, owned_box, add_comm]
    rfl

lemma releaseService_among {service : Option Service} : GivesBack (among (releaseService service))
    (owned service : Holdings (RefKind ⊕ ClientKind)) := by
  apply releaseService_givesBack.among.of_eq
  cases service <;> rfl

lemma HandleVars.cleanUp_givesBack (l : HandleVars) : GivesBack l.cleanUp l.others :=
  .seq genericHandleClose_givesBack releaseService_among

lemma checkMach_checked (own : Holding m d s) (kr : UInt32) (format : String) :
    wp (checkMach machErrorString kr format) (Checked m d (machCheck machErrorString kr format))
      s := by
  unfold checkMach machCheck failIf
  apply wp_ite
  · intro failed
    rw [if_pos failed]
    apply wp_createMachError own
    exact fun e s₁ r => r.mono fun _ hv => by rw [hv]
  · intro succeeded
    rw [if_neg succeeded, wp_pure]
    exact ⟨rfl, own⟩

lemma checkHr_checked (own : Holding m d s) (hr : UInt32) (format : String) :
    wp (checkHr hr format) (Checked m d (hrCheck hr format)) s := by
  unfold checkHr hrCheck failIf
  apply wp_ite
  · intro failed
    rw [if_pos failed]
    apply Windows.wp_createHrError own
    exact fun e s₁ r => r.mono fun _ hv => by rw [hv]
  · intro succeeded
    rw [if_neg succeeded, wp_pure]
    exact ⟨rfl, own⟩

lemma wp_acquireUnless {kind : ClientKind} {failed : Prog Fault HandleSystem (Option Error)}
    {o : Except ErrorValue Unit} {Q : Option Error × Option Nat → HandleSystem → Prop}
    (checked : wp failed (Checked m d o) s)
    (error : ∀ e s', Raised m d (fun v => o = .error v) e s' → Q (some e, none) s')
    (ok : ∀ n s', o = .ok () → Holding (m + (0, {(.inr kind, n)})) d s' → Q (none, some n) s') :
    wp (acquireUnless kind failed) Q s := by
  rw [acquireUnless, wp_bind]
  apply wp_mono checked
  rintro (_ | e) s₁ h
  · simp only [Option.isSome_none, Bool.false_eq_true, if_false, wp_bind, wp_pure]
    apply h.2.owns.wp_acquire
    exact fun n s₂ own₂ hd₂ => ok n s₂ h.1 ⟨own₂, hd₂.trans h.2.denials⟩
  · simp only [Option.isSome_some, if_true, wp_pure]
    exact error e s₁ h

/-- `service_to_interface` hands out an object and its plug-in, or an error and nothing else. -/
lemma serviceToInterface_ends (own : Holding m d s) (service : Service) (os : PlugInAnswers) :
    wp (serviceToInterface machErrorString (some service) os)
      (Ends m d ((os.outcome machErrorString).map some)) s := by
  simp only [serviceToInterface, wp_bind, wp_expect]
  refine ⟨_, rfl, Staged.construct (fun l : PlugInVars =>
    l.newPlugIn.elim 0 fun n => (0, {(.inr .plugIn, n)})) (fun _ => .release?) ?_⟩
  unfold plugInSteps PlugInAnswers.outcome
  apply wp_stages_into
  apply wp_acquireUnless (checkMach_checked own os.createPlugIn _)
  · intro e s₁ r
    refine ⟨rfl, (r.of_eq (add_zero m).symm).mono fun v hv => ?_⟩
    rw [error_bind hv]
    rfl
  intro plugIn s₁ created own₁
  rw [ok_bind created]
  apply wp_stages_into
  simp only [wp_bind, wp_expect]
  refine ⟨_, rfl, ?_⟩
  apply wp_acquireUnless (checkHr_checked own₁ os.queryInterface _)
  · intro e s₂ r
    refine ⟨rfl, r.mono fun v hv => ?_⟩
    rw [error_bind hv]
    rfl
  intro object s₂ queried own₂
  rw [ok_bind queried]
  apply wp_stages_cons
  simp only [wp_pure, wp_stages_nil]
  refine ⟨rfl, own₂.of_eq ?_⟩
  show _ = m + (0 + ((0, {(.inr .object, object)}) + (0, {(.inr .plugIn, plugIn)}))) + 0
  abel

/-- The object that was handed out has no exclusive access. -/
lemma outcome_closed {os : PlugInAnswers} {client : Client}
    (made : os.outcome machErrorString = .ok (content client)) : client.access = none := by
  unfold PlugInAnswers.outcome at made
  cases created : machCheck machErrorString os.createPlugIn "Failed to create plug-in interface." with
  | error v =>
    rw [error_bind created] at made
    cases made
  | ok u =>
    rw [ok_bind created] at made
    cases queried : hrCheck os.queryInterface "Failed to query interface." with
    | error v =>
      rw [error_bind queried] at made
      cases made
    | ok u =>
      rw [ok_bind queried] at made
      exact Option.isSome_eq_false_iff.mp (Except.ok.inj made).symm |> Option.isNone_iff_eq_none.mp

/-- Exclusive access is granted to a client that had none. -/
lemma wp_clientOpen {client : Client} (closed : client.access = none)
    (own : Holding (m + owned client) d s) (kr : UInt32) (format : String)
    {Q : Option Error × Client → HandleSystem → Prop}
    (error : ∀ e s', Raised (m + owned client) d
      (fun v => machCheck machErrorString kr format = .error v) e s' → Q (some e, client) s')
    (ok : ∀ client s', machCheck machErrorString kr format = .ok () → content client = true →
      Holding (m + owned client) d s' → Q (none, client) s') :
    wp (client.open machErrorString kr format) Q s := by
  obtain ⟨object, plugIn, access⟩ := client
  obtain rfl : access = none := closed
  simp only [Client.open, wp_bind, wp_pure]
  apply wp_acquireUnless (checkMach_checked own kr format)
  · exact fun e s₁ r => error e s₁ r
  · intro n s₁ succeeded own₁
    refine ok _ s₁ succeeded rfl (own₁.of_eq ?_)
    rw [owned_client, owned_client]
    simp only [Option.elim_none, Option.elim_some]
    abel

/-- `set_configuration` keeps nothing but its error. -/
lemma setConfiguration_checked (own : Holding m d s) (service : Service)
    (os : ConfigurationAnswers) :
    wp (setConfiguration machErrorString (some service) os)
      (Checked m d (os.outcome machErrorString)) s := by
  have steps : wp (stages (configurationSteps machErrorString (some service) os) {}) (fun r s' =>
      match r with
      | (none, l) => os.outcome machErrorString = .ok () ∧ Holding (m + owned l.devHandle) d s'
      | (some e, l) => Raised (m + owned l.devHandle) d
          (fun v => os.outcome machErrorString = .error v) e s') s := by
    unfold configurationSteps ConfigurationAnswers.outcome
    apply Ends.stageSome
    · exact serviceToInterface_ends own service os.plugIn
    · intro e s₁ r
      exact (r.of_eq (add_zero m).symm).mono fun v hv => error_bind hv
    intro devHandle s₁ made own₁
    have closed := outcome_closed made
    rw [ok_bind made]
    apply wp_stages_cons
    simp only [wp_bind, wp_expect, wp_pure]
    refine ⟨_, rfl, ?_⟩
    apply wp_stages_cons
    apply wp_ite
    · intro unconfigured
      rw [if_pos unconfigured]
      simp only [wp_bind, wp_expect, wp_pure]
      refine ⟨_, rfl, ?_⟩
      apply wp_clientOpen closed own₁
      · exact fun e s₂ r => r.mono fun v hv => error_bind hv
      intro opened s₂ granted _ own₂
      rw [ok_bind granted]
      apply Checked.stage
      · rw [if_pos unconfigured]
        exact checkMach_checked own₂ os.setConfiguration _
      · exact fun e s₃ r => r
      · exact fun s₃ configured own₃ => wp_stages_nil.mpr ⟨configured, own₃⟩
    · intro configured
      rw [if_neg configured, wp_pure]
      apply wp_stages_checking
      rw [if_neg configured, wp_pure]
      exact wp_stages_nil.mpr ⟨rfl, own₁⟩
  simp only [setConfiguration, wp_bind, wp_expect, wp_pure]
  refine ⟨_, rfl, ?_⟩
  apply wp_mono steps
  rintro ⟨_ | e, l⟩ s₁ h
  · exact closeClient_givesBack.wp h.2 fun s₂ own₂ => ⟨h.1, own₂⟩
  · exact closeClient_givesBack.wp_raised h fun s₂ r => r

/-- A lookup of a service, among the references of handles. -/
lemma Holding.service_ends {x : Prog Fault System (Option Error × Option Service)}
    {o : Except ErrorValue RegistryEntry} (own : Holding m d s)
    (h : ∀ m s, Holding m d s → wp x (Ends m d (o.map some)) s) :
    wp (among x) (Ends m d (o.map some)) s := own.among_ends (fun _ => rfl) h

/-- The device is left alone in the end, whether its interface is found or not. -/
lemma setConfigurationAndGetService_ends (own : Holding m d s) (gi : Box GenericInterface)
    (os : HandleAnswers) : wp (setConfigurationAndGetService machErrorString (some gi) os)
      (Ends m d ((do
        let _ ← os.device.outcome gi.val.deviceId
        os.configuration.outcome machErrorString
        usbInterfaceOutcome machErrorString gi.val.interfaceNumber os.children).map some)) s := by
  rw [setConfigurationAndGetService, wp_bind]
  apply own.wp_among_pure
  intro s own
  rw [wp_bind]
  apply own.wp_among_pure
  intro s own
  apply Staged.construct (fun l : ConfiguredVars => owned l.deviceService) fun _ =>
    releaseService_among
  apply Ends.stageSome
  · exact Holding.service_ends own fun m s own => serviceGetFromId_ends own _ _
  · intro e s₁ r
    exact ⟨rfl, (r.of_eq (add_zero m).symm).mono fun v hv => by rw [error_bind hv]; rfl⟩
  intro deviceService s₁ found own₁
  rw [ok_bind found]
  apply Checked.stage
  · exact setConfiguration_checked own₁ deviceService os.configuration
  · intro e s₂ r
    exact ⟨rfl, r.mono fun v hv => by rw [error_bind hv]; rfl⟩
  intro s₂ configured own₂
  rw [ok_bind configured]
  apply Ends.stageSome
  · simp only [wp_bind, wp_expect]
    exact ⟨_, rfl, Holding.service_ends own₂ fun m s own =>
      serviceGetUsbInterface_ends own machErrorString _ _⟩
  · intro e s₃ r
    exact ⟨rfl, r.mono fun v hv => by rw [hv]; rfl⟩
  intro service s₃ found own₃
  refine wp_stages_nil.mpr ⟨?_, own₃.of_eq (add_right_comm _ _ _)⟩
  rw [found]
  rfl

lemma interfaceService_ends (own : Holding m d s) (gi : Box GenericInterface) (os : HandleAnswers) :
    wp (interfaceService machErrorString gi os)
      (Ends m d ((os.serviceOutcome machErrorString gi.val).map some)) s := by
  rw [interfaceService, wp_bind]
  apply own.wp_among_pure
  intro s own
  unfold HandleAnswers.serviceOutcome
  cases gi.val.hasInterfaceId with
  | true => exact Holding.service_ends own fun m s own => serviceGetFromId_ends own _ _
  | false => exact setConfigurationAndGetService_ends own gi os

/-- A loop whose rounds get a value each comes to what the rounds come to. -/
lemma forUntil_gets {κ γ : Type} [DecidableEq κ] {m : Holdings κ} {d : Nat} {s : Host κ}
    {body : Nat → γ → Prog Fault (Host κ) (Option Error × γ)} {o : γ → Nat → Except ErrorValue γ}
    (round : ∀ i x s, Holding m d s → wp (body i x) (Gets m d (o x i)) s) (own : Holding m d s)
    (i k : Nat) (x : γ) :
    wp (forUntil body i k x) (Gets m d ((List.range' i k).foldlM o x)) s := by
  induction k generalizing i x s with
  | zero => exact wp_pure.mpr ⟨rfl, own⟩
  | succ k ih =>
    rw [forUntil, wp_bind, List.range'_succ, List.foldlM_cons]
    apply wp_mono (round i x s own)
    rintro ⟨_ | e, y⟩ s₁ got
    · rw [ok_bind got.1]
      exact ih got.2 (i + 1) y
    · exact wp_pure.mpr (Raised.mono got fun v hv => error_bind hv)

lemma processPipeProperties_gets {m : Holdings RefKind} {s : System} (own : Holding m d s)
    (os : InterfacePipes) (tables : GenericHandle) :
    wp (processPipeProperties machErrorString os tables)
      (Gets m d (os.outcome machErrorString tables)) s := by
  unfold processPipeProperties InterfacePipes.outcome
  cases os.numEndpoints with
  | error kr =>
    simp only [wp_bind, wp_pure]
    apply wp_createMachError own
    exact fun e s₁ r => r.mono fun v hv => by rw [hv]; rfl
  | ok count =>
    refine forUntil_gets ?_ own 1 count.toNat tables
    intro i tables s own
    unfold processPipe InterfacePipes.round
    cases os.pipeProperties (UInt8.ofNat i) with
    | error kr =>
      simp only [wp_bind, wp_pure]
      apply wp_createMachError own
      exact fun e s₁ r => r.mono fun v hv => by rw [hv]; rfl
    | ok p => exact wp_pure.mpr ⟨rfl, own⟩

/-- A handle that says what a zeroed handle says is one. -/
lemma handle_blank {handle : OpenHandle} (same : content ({} : OpenHandle) = content handle) :
    handle = {} := by
  obtain ⟨client, asyncPort, tables⟩ := handle
  obtain ⟨none, port, zeroed⟩ := HandleView.mk.inj same
  obtain rfl : 0 = asyncPort := port
  obtain rfl : GenericHandle.zeroed = tables := zeroed
  cases client with
  | some client => cases none
  | none => rfl

lemma createAsyncPort_gets (own : Holding m d s) (answer : Except UInt32 UInt32) :
    wp (createAsyncPort machErrorString answer) (Gets m d
      (machOutcome machErrorString "Failed to create asynchronous port." answer)) s := by
  cases answer with
  | error kr =>
    simp only [createAsyncPort, wp_bind, wp_pure]
    apply wp_createMachError own
    exact fun e s₁ r => r.mono fun v hv => by rw [hv]; rfl
  | ok port => exact wp_pure.mpr ⟨rfl, own⟩

/-- The steps fill in the handle, or what they took is left to the cleaning up. -/
lemma handleSteps_staged (own : Holding m d s) (gi : Box GenericInterface) (os : HandleAnswers) :
    wp (stages (handleSteps machErrorString gi os) {}) (Staged (·.handle) HandleVars.others m d
      ((os.outcome machErrorString gi.val).map some)) s := by
  unfold handleSteps HandleAnswers.outcome
  apply Ends.stageSome
  · exact allocateZeroed_ends own (by decide) rfl
  · intro e s₁ r
    exact ⟨rfl, (r.of_eq (by simp [HandleVars.others])).of_ok⟩
  intro newHandle s₁ made own₁
  have blank : newHandle.val = {} := handle_blank (Except.ok.inj made)
  obtain ⟨addr, val⟩ := newHandle
  obtain rfl : val = {} := blank
  apply Ends.stageSome
  · exact interfaceService_ends own₁ gi os
  · intro e s₂ r
    refine ⟨rfl, (r.of_eq ?_).mono fun v hv => ?_⟩
    · simp only [HandleVars.others, owned_none, owned_some]
      abel
    · rw [error_bind hv]
      rfl
  intro service s₂ found own₂
  rw [ok_bind found]
  apply Ends.stageSome
  · simp only [wp_bind, wp_expect]
    exact ⟨_, rfl, serviceToInterface_ends own₂ service os.plugIn⟩
  · intro e s₃ r
    refine ⟨rfl, (r.of_eq ?_).mono fun v hv => ?_⟩
    · simp only [HandleVars.others, HandleVars.assign, owned_some, Option.map_some]
      abel
    · rw [error_bind hv]
      rfl
  intro client s₃ created own₃
  rw [ok_bind created]
  have closed := outcome_closed created
  apply wp_stages_cons
  simp only [HandleVars.assign, Option.map_some, wp_bind, wp_expect, wp_pure]
  refine ⟨_, rfl, _, rfl, ?_⟩
  apply wp_clientOpen closed own₃
  · intro e s₄ r
    refine ⟨rfl, (r.of_eq ?_).mono fun v hv => ?_⟩
    · simp only [HandleVars.others, owned_some, owned_handle, owned_none]
      abel
    · rw [error_bind hv]
      rfl
  intro client s₄ granted exclusive own₄
  rw [ok_bind granted]
  apply Gets.stage
  · simp only [wp_bind, wp_expect]
    refine ⟨_, rfl, _, rfl, ?_⟩
    exact own₄.among_gets fun m s own => processPipeProperties_gets own os.pipes .zeroed
  · intro e tables s₅ r
    refine ⟨rfl, (r.of_eq ?_).mono fun v hv => ?_⟩
    · simp only [HandleVars.others, Option.map_some, owned_some, owned_handle,
        owned_none]
      abel
    · rw [error_bind hv]
      rfl
  intro tables s₅ filled own₅
  rw [ok_bind filled]
  apply Gets.stage
  · simp only [Option.map_some, wp_bind, wp_expect]
    exact ⟨_, rfl, _, rfl, createAsyncPort_gets own₅ os.asyncPort⟩
  · intro e port s₆ r
    refine ⟨rfl, (r.of_eq ?_).mono fun v hv => ?_⟩
    · simp only [HandleVars.others, Option.map_some, owned_some, owned_handle,
        owned_none]
      abel
    · rw [error_bind hv]
      rfl
  intro port s₆ made own₆
  rw [ok_bind made]
  apply wp_stages_cons
  simp only [Option.map_some, wp_pure, wp_stages_nil]
  refine ⟨?_, own₆.of_eq ?_⟩
  · show _ = Except.ok (some (⟨some (content client), port, tables⟩ : HandleView))
    rw [exclusive]
    rfl
  · simp only [HandleVars.others, owned_some, owned_handle, owned_none]
    abel

lemma genericHandleOpen_ends (own : Holding m d s) (gi : Option (Box GenericInterface))
    (handle : Bool) (os : HandleAnswers) :
    wp (genericHandleOpen machErrorString gi handle os)
      (Ends m d ((openingOutcome gi handle fun gi => os.outcome machErrorString gi.val).map some))
      s := by
  apply own.opening_ends
  intro gi _
  exact Staged.construct _ HandleVars.cleanUp_givesBack (handleSteps_staged own gi os)

/-- Whatever IOKit answers and whatever requests for memory are denied, `libusbp_generic_handle_open`
returns a handle, or an error and no handle, as the answers say, and keeps nothing else: no service, no
plug-in, no object and no exclusive access. Closing the handle gives back everything that opening it
took. -/
theorem genericHandleOpen_opensClient (own : s.Owns m) (gi : Option (Box GenericInterface))
    (handle : Bool) (os : HandleAnswers) :
    wp (genericHandleOpen machErrorString gi handle os) (Opens m s.denials
      (openingOutcome gi handle fun gi => os.outcome machErrorString gi.val) genericHandleClose)
      s := by
  apply wp_mono (genericHandleOpen_ends ⟨own, rfl⟩ gi handle os)
  exact fun _ _ h => h.opens fun _ => genericHandleClose_givesBack

/-- The device is not configured, and it cannot be configured either. -/
theorem genericHandleOpen_opensClient_example :
    let entry : RegistryEntry := ⟨fun _ => true, fun _ => none, .ok 77⟩
    let gi : Box GenericInterface := ⟨5, { deviceId := 77 }⟩
    let os : HandleAnswers :=
      ⟨⟨true, none⟩, ⟨true, some entry⟩, ⟨⟨0, 0⟩, .ok 0, 0, kIOUSBPipeStalled⟩, .ok [entry], ⟨0, 0⟩, 0,
        ⟨.ok 0, fun _ => .error 0⟩, .ok 9⟩
    let s : HandleSystem := ⟨⟨fun _ => true, 0, []⟩, 0, []⟩
    wp (genericHandleOpen (fun _ => "") (some gi) true os) (Opens 0 0
      (openingOutcome (some gi) true fun gi => os.outcome (fun _ => "") gi.val) genericHandleClose) s := by
  intro entry gi os s
  exact genericHandleOpen_opensClient (.empty _) (some gi) true os

end Libusbp.Mac
