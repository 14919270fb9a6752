import Libusbp.PipeChecks

/-!
# Timeouts and control transfers

On Linux and macOS a handle has two tables of timeouts, and every transfer looks its own one up. Windows
leaves that to WinUSB. Control transfers use the timeout of the OUT pipe 0, and unlike the functions of
other pipes they check few of their arguments or none.
-/

namespace Libusbp

open Prog Host

variable {κ H ρ : Type}

/-! ## Timeouts -/

/-- `in_timeout` and `out_timeout` of a handle -/
structure Timeouts where
  inTimeout : Fin 16 → UInt32
  outTimeout : Fin 16 → UInt32

/-- The tables as `calloc` yields them. -/
def Timeouts.zeroed : Timeouts := ⟨fun _ => 0, fun _ => 0⟩

/-- The entry for a pipe becomes `timeout`. -/
def Timeouts.assign (timeouts : Timeouts) (pipeId : UInt8) (timeout : UInt32) : Timeouts :=
  if pipeId &&& 0x80 ≠ 0 then
    { timeouts with
      inTimeout := Function.update timeouts.inTimeout (endpointNumber pipeId) timeout }
  else
    { timeouts with
      outTimeout := Function.update timeouts.outTimeout (endpointNumber pipeId) timeout }

/-- The entry for a pipe. -/
def Timeouts.of (timeouts : Timeouts) (pipeId : UInt8) : UInt32 :=
  if pipeId &&& 0x80 ≠ 0 then timeouts.inTimeout (endpointNumber pipeId)
  else timeouts.outTimeout (endpointNumber pipeId)

/-- `libusbp_generic_handle_set_timeout` where the handle has tables, with the tables behind the call -/
def setTimeout (handle : Option Timeouts) (pipeId : UInt8) (timeout : UInt32) :
    Prog Fault (Host κ) (Option Error × Option Timeouts) :=
  match handle with
  | none => do
    let error ← inHeap (errorCreate "Generic handle is null.")
    pure (error, none)
  | some timeouts => do
    let error ← inHeap (checkPipeId pipeId)
    pure (error, some (if error.isNone then timeouts.assign pipeId timeout else timeouts))

def Linux.genericHandleSetTimeout : Option Timeouts → UInt8 → UInt32 →
    Prog Fault Linux.System (Option Error × Option Timeouts) := setTimeout

def Mac.genericHandleSetTimeout : Option Timeouts → UInt8 → UInt32 →
    Prog Fault Mac.System (Option Error × Option Timeouts) := setTimeout

/-- What is passed to `WinUsb_SetPipePolicy` for the policy `PIPE_TRANSFER_TIMEOUT`. -/
structure Windows.PipePolicy where
  winusbHandle : Nat
  pipeId : UInt8
  timeout : UInt32

/-- The function also yields what was passed to WinUSB. -/
def Windows.genericHandleSetTimeout (formatMessage : UInt32 → String)
    (setPipePolicy : Windows.PipePolicy → Option UInt32) (gh : Option Windows.PipeHandle)
    (pipeId : UInt8) (timeout : UInt32) :
    Prog Fault Windows.System (Option Error × Option Windows.PipePolicy) :=
  match gh with
  | none => do
    let error ← inHeap (errorCreate "Generic handle is null.")
    pure (error, none)
  | some gh =>
    let policy : Windows.PipePolicy := ⟨gh.winusbHandle, pipeId, timeout⟩
    match setPipePolicy policy with
    | none => pure (none, some policy)
    | some errorCode => do
      let error ← inHeap (Windows.errorCreateWinapi formatMessage errorCode "Failed to set timeout.")
      pure (error, some policy)

/-! ## Control transfers -/

/-- `libusbp_setup_packet` -/
structure SetupPacket where
  bmRequestType : UInt8
  bRequest : UInt8
  wValue : UInt16
  wIndex : UInt16
  wLength : UInt16
deriving DecidableEq, Repr

/-- `struct usbdevfs_ctrltransfer`, where `data` is false for a null pointer -/
structure Linux.ControlTransfer where
  setup : SetupPacket
  timeout : UInt32
  data : Bool

/-- `ioctl` with `USBDEVFS_CONTROL`, which yields `errno` or the number of bytes. -/
abbrev Linux.ControlAnswer : Type := Linux.ControlTransfer → Except Int Nat

def Linux.usbfdControlTransfer (strerror : Int → Option String) (ioctl : Linux.ControlAnswer)
    (setup : SetupPacket) (timeout : UInt32) (data transferred : Bool) :
    Prog Fault Linux.System (PipeReply Linux.ControlTransfer) :=
  let transfer : Linux.ControlTransfer := ⟨setup, timeout, data⟩
  match ioctl transfer with
  | .error errno => do
    let error ← inHeap (Linux.errorCreateErrno strerror errno "Control transfer failed.")
    pure ⟨error, noneTransferred transferred, transfer⟩
  | .ok result => pure ⟨none, if transferred then some result else none, transfer⟩

def Linux.controlTransfer (strerror : Int → Option String) (ioctl : Linux.ControlAnswer)
    (handle : Option Linux.PipeHandle) (setup : SetupPacket) (data transferred : Bool) :
    Prog Fault Linux.System (PipeReply Linux.ControlTransfer) :=
  match handle with
  | none => refuse "Generic handle is null." transferred
  | some handle =>
    let timeout := handle.outTimeout ⟨0, by decide⟩
    Linux.usbfdControlTransfer strerror ioctl setup timeout data transferred

/-- What is passed to `WinUsb_ControlTransfer`. -/
structure Windows.ControlTransfer where
  winusbHandle : Nat
  setup : SetupPacket
  data : Bool

/-- The error code, if the call fails, and the number of bytes. -/
abbrev Windows.ControlAnswer : Type := Windows.ControlTransfer → Option UInt32 × UInt32

def Windows.controlTransfer (formatMessage : UInt32 → String) (winUsb : Windows.ControlAnswer)
    (gh : Option Windows.PipeHandle) (setup : SetupPacket) (data transferred : Bool) :
    Prog Fault Windows.System (PipeReply Windows.ControlTransfer) :=
  match gh with
  | none => refuse "Generic handle is null." transferred
  | some gh =>
    if setup.wLength ≠ 0 ∧ data = false then
      refuse "Control transfer buffer was null while wLength was non-zero." transferred
    else
      let transfer : Windows.ControlTransfer := ⟨gh.winusbHandle, setup, data⟩
      let (failed, winusbTransferred) := winUsb transfer
      match failed with
      | some errorCode => do
        let error ←
          inHeap (Windows.errorCreateWinapi formatMessage errorCode "Control transfer failed.")
        pure ⟨error, noneTransferred transferred, transfer⟩
      | none => pure ⟨none, if transferred then some winusbTransferred.toNat else none, transfer⟩

/-- `IOUSBDevRequestTO` -/
structure Mac.ControlTransfer where
  setup : SetupPacket
  completionTimeout : UInt32
  data : Bool

/-- The code that is returned, and `wLenDone`. -/
abbrev Mac.ControlAnswer : Type := Mac.ControlTransfer → UInt32 × UInt32

/-- The number of bytes is passed to the caller also if the request failed. -/
def Mac.controlTransfer (machErrorString : UInt32 → String) (controlRequestTO : Mac.ControlAnswer)
    (handle : Option Mac.PipeHandle) (setup : SetupPacket) (data transferred : Bool) :
    Prog Fault Mac.System (PipeReply Mac.ControlTransfer) :=
  match handle with
  | none => refuse "Generic handle is null." transferred
  | some handle =>
    let request : Mac.ControlTransfer := ⟨setup, handle.outTimeout ⟨0, by decide⟩, data⟩
    let (kr, wLenDone) := controlRequestTO request
    let count := if transferred then some wLenDone.toNat else none
    if kr ≠ Mac.kernSuccess then do
      let error ← inHeap (Mac.errorCreateMach machErrorString kr "Control transfer failed.")
      pure ⟨error, count, request⟩
    else pure ⟨none, count, request⟩

/-! ## The tables as one -/

/-- An accepted ID is its direction and its endpoint number. -/
lemma Accepted.eq {pipeId : UInt8} (accepted : Accepted pipeId) :
    pipeId.toNat = (if pipeId &&& 0x80 ≠ 0 then 128 else 0) + (endpointNumber pipeId).val := by
  have all : ∀ i : Fin 256, Accepted (UInt8.ofFin i) → (UInt8.ofFin i).toNat =
      (if UInt8.ofFin i &&& 0x80 ≠ 0 then 128 else 0) + (endpointNumber (UInt8.ofFin i)).val := by
    decide +kernel
  exact all pipeId.toFin accepted

/-- Accepted IDs of one direction differ in their endpoint numbers. -/
lemma Accepted.endpointNumber_inj {p q : UInt8} (hp : Accepted p) (hq : Accepted q)
    (direction : p &&& 0x80 ≠ 0 ↔ q &&& 0x80 ≠ 0) : endpointNumber q = endpointNumber p ↔ q = p := by
  constructor
  · intro number
    apply UInt8.toNat_inj.mp
    rw [hq.eq, hp.eq, number, if_congr direction rfl rfl]
  · rintro rfl
    rfl

/-- Assigning changes the timeout of one pipe. -/
lemma Timeouts.assign_of {timeouts : Timeouts} {p q : UInt8} {timeout : UInt32} (hp : Accepted p)
    (hq : Accepted q) : (timeouts.assign p timeout).of q = if q = p then timeout else timeouts.of q := by
  unfold Timeouts.assign Timeouts.of
  by_cases pIn : p &&& 0x80 ≠ 0
  · by_cases qIn : q &&& 0x80 ≠ 0
    · have same := hp.endpointNumber_inj hq (iff_of_true pIn qIn)
      rw [if_pos pIn, if_pos qIn, if_pos qIn]
      exact (Function.update_apply ..).trans (if_congr same rfl rfl)
    · have ne : q ≠ p := fun eq => qIn (eq ▸ pIn)
      rw [if_pos pIn, if_neg qIn, if_neg qIn, if_neg ne]
  · by_cases qIn : q &&& 0x80 ≠ 0
    · have ne : q ≠ p := fun eq => pIn (eq ▸ qIn)
      rw [if_neg pIn, if_pos qIn, if_pos qIn, if_neg ne]
    · have same := hp.endpointNumber_inj hq (iff_of_false pIn qIn)
      rw [if_neg pIn, if_neg qIn, if_neg qIn]
      exact (Function.update_apply ..).trans (if_congr same rfl rfl)

lemma Timeouts.of_in (timeouts : Timeouts) {pipeId : UInt8} (isIn : pipeId &&& 0x80 ≠ 0) :
    timeouts.of pipeId = timeouts.inTimeout (endpointNumber pipeId) := if_pos isIn

lemma Timeouts.of_out (timeouts : Timeouts) {pipeId : UInt8} (isOut : pipeId &&& 0x80 = 0) :
    timeouts.of pipeId = timeouts.outTimeout (endpointNumber pipeId) := if_neg (not_not.mpr isOut)

/-! ## The timeouts that are set -/

/-- The tables of a handle behind a call that sets the timeout of a pipe. -/
def SetsTable (timeouts : Timeouts) (pipeId : UInt8) (timeout : UInt32)
    (r : Option Error × Option Timeouts) : Prop :=
  ∀ t, r.2 = some t →
    if r.1.isNone then Accepted pipeId ∧ t = timeouts.assign pipeId timeout else t = timeouts

lemma setTimeout_yields (timeouts : Timeouts) (pipeId : UInt8) (timeout : UInt32) :
    Yields (setTimeout (some timeouts) pipeId timeout : Prog Fault (Host κ) _)
      (SetsTable timeouts pipeId timeout) := by
  refine (checkPipeId_yields pipeId).bind fun error passed => .pure ?_
  rintro _ ⟨⟩
  cases error with
  | none => exact ⟨passed rfl, rfl⟩
  | some e => rfl

/-! ## The timeouts that are used -/

/-- What is passed to the operating system is for an accepted ID, with the timeout of the tables. -/
def PassesTimeout (timeoutOf : ρ → UInt32) (timeouts : Timeouts) (pipeId : UInt8)
    (reply : PipeReply ρ) : Prop :=
  ∀ q, reply.request = some q → Accepted pipeId ∧ timeoutOf q = timeouts.of pipeId

variable {transferred : Bool}

/-- A call that reads looks up the table for IN pipes. -/
lemma pipeTransfer_reads {context : String} {check : Prog Fault (Host κ) (Option Error)}
    {transfer : H → Prog Fault (Host κ) (PipeReply ρ)} {handle : H} {timeoutOf : ρ → UInt32}
    {timeouts : Timeouts} {pipeId : UInt8}
    (checked : Yields check (· = none → pipeId &&& 0x80 ≠ 0 ∧ Accepted pipeId))
    (passes : Yields (transfer handle) fun reply => ∀ q, reply.request = some q →
      timeoutOf q = timeouts.inTimeout (endpointNumber pipeId)) :
    Yields (pipeTransfer context check transfer (some handle) transferred)
      (PassesTimeout timeoutOf timeouts pipeId) := by
  intro s reply s' run q there
  obtain ⟨⟨isIn, accepted⟩, entry⟩ := pipeTransfer_yields checked passes s reply s' run q there
  exact ⟨accepted, entry.trans (timeouts.of_in isIn).symm⟩

/-- A call that writes looks up the table for OUT pipes. -/
lemma pipeTransfer_writes {context : String} {check : Prog Fault (Host κ) (Option Error)}
    {transfer : H → Prog Fault (Host κ) (PipeReply ρ)} {handle : H} {timeoutOf : ρ → UInt32}
    {timeouts : Timeouts} {pipeId : UInt8}
    (checked : Yields check (· = none → pipeId &&& 0x80 = 0 ∧ Accepted pipeId))
    (passes : Yields (transfer handle) fun reply => ∀ q, reply.request = some q →
      timeoutOf q = timeouts.outTimeout (endpointNumber pipeId)) :
    Yields (pipeTransfer context check transfer (some handle) transferred)
      (PassesTimeout timeoutOf timeouts pipeId) := by
  intro s reply s' run q there
  obtain ⟨⟨isOut, accepted⟩, entry⟩ := pipeTransfer_yields checked passes s reply s' run q there
  exact ⟨accepted, entry.trans (timeouts.of_out isOut).symm⟩

/-- A control transfer has the timeout of the OUT pipe 0. -/
lemma control_passes {timeoutOf : ρ → UInt32} {timeouts : Timeouts}
    {x : Prog Fault (Host κ) (PipeReply ρ)}
    (passes : Yields x fun reply => ∀ q, reply.request = some q →
      timeoutOf q = timeouts.outTimeout ⟨0, by decide⟩) :
    Yields x (PassesTimeout timeoutOf timeouts 0) :=
  fun s reply s' run q there => ⟨by decide, passes s reply s' run q there⟩

namespace Linux

variable (strerror : Int → Option String) (ioctl : BulkAnswer) (timeouts : Timeouts) (pipeId : UInt8)
  (data : Bool) (size : UInt64)

lemma usbfdBulkOrInterruptTransfer_yields (timeout : UInt32) :
    Yields (usbfdBulkOrInterruptTransfer strerror ioctl pipeId timeout data size transferred)
      fun reply => ∀ q, reply.request = some q → q.timeout = timeout := by
  have refused (text : String) : Yields
      (refuse text transferred : Prog Fault System (PipeReply BulkTransfer))
      fun reply => ∀ q, reply.request = some q → q.timeout = timeout :=
    (Yields.any _).bind fun _ _ => .pure (by rintro _ ⟨⟩)
  unfold usbfdBulkOrInterruptTransfer
  split
  · exact refused _
  split
  · exact refused _
  split
  · exact refused _
  dsimp only
  split
  · refine (Yields.any _).bind fun _ _ => .pure ?_
    rintro _ ⟨⟩
    rfl
  · refine .pure ?_
    rintro _ ⟨⟩
    rfl

lemma readPipe_passes : Yields
    (readPipe strerror ioctl (some ⟨timeouts.inTimeout, timeouts.outTimeout⟩) pipeId data size
      transferred) (PassesTimeout (·.timeout) timeouts pipeId) :=
  pipeTransfer_reads (checkPipeIdIn_yields pipeId)
    (usbfdBulkOrInterruptTransfer_yields strerror ioctl pipeId data size _)

lemma writePipe_passes : Yields
    (writePipe strerror ioctl (some ⟨timeouts.inTimeout, timeouts.outTimeout⟩) pipeId data size
      transferred) (PassesTimeout (·.timeout) timeouts pipeId) :=
  pipeTransfer_writes (checkPipeIdOut_yields pipeId)
    (usbfdBulkOrInterruptTransfer_yields strerror ioctl pipeId data size _)

lemma controlTransfer_passes (ioctl : ControlAnswer) (setup : SetupPacket) : Yields
    (controlTransfer strerror ioctl (some ⟨timeouts.inTimeout, timeouts.outTimeout⟩) setup data
      transferred) (PassesTimeout (·.timeout) timeouts 0) := by
  apply control_passes
  unfold controlTransfer usbfdControlTransfer
  dsimp only
  split
  · refine (Yields.any _).bind fun _ _ => .pure ?_
    rintro _ ⟨⟩
    rfl
  · refine .pure ?_
    rintro _ ⟨⟩
    rfl

end Linux

namespace Mac

variable (machErrorString : UInt32 → String) (timeouts : Timeouts)
  (inPipeIndex outPipeIndex : Fin 16 → UInt32) (pipeId : UInt8) (buffer : Bool) (size : UInt64)

lemma readPipe_passes (readPipeTO : PipeAnswer) : Yields
    (readPipe machErrorString readPipeTO
      (some ⟨timeouts.inTimeout, timeouts.outTimeout, inPipeIndex, outPipeIndex⟩) pipeId buffer size
      transferred) (PassesTimeout (·.completionTimeout) timeouts pipeId) := by
  apply pipeTransfer_reads (firstError_yields (by simp) (checkPipeIdIn_yields pipeId))
  refine (Yields.any _).bind fun _ _ => .pure ?_
  rintro _ ⟨⟩
  rfl

lemma writePipe_passes (writePipeTO : PipeAnswer) : Yields
    (writePipe machErrorString writePipeTO
      (some ⟨timeouts.inTimeout, timeouts.outTimeout, inPipeIndex, outPipeIndex⟩) pipeId buffer size
      transferred) (PassesTimeout (·.completionTimeout) timeouts pipeId) := by
  apply pipeTransfer_writes (firstError_yields (by simp) (checkPipeIdOut_yields pipeId))
  refine (Yields.any _).bind fun _ _ => .pure ?_
  rintro _ ⟨⟩
  rfl

lemma controlTransfer_passes (controlRequestTO : ControlAnswer) (setup : SetupPacket) : Yields
    (controlTransfer machErrorString controlRequestTO
      (some ⟨timeouts.inTimeout, timeouts.outTimeout, inPipeIndex, outPipeIndex⟩) setup buffer
      transferred) (PassesTimeout (·.completionTimeout) timeouts 0) := by
  apply control_passes
  unfold controlTransfer
  dsimp only
  split
  · refine (Yields.any _).bind fun _ _ => .pure ?_
    rintro _ ⟨⟩
    rfl
  · refine .pure ?_
    rintro _ ⟨⟩
    rfl

end Mac

end Libusbp
