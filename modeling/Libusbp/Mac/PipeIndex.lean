import Libusbp.Lib.Numbering
import Libusbp.Mac.AsyncInTransfer
import Libusbp.PipeChecks

/-!
# The pipes of a generic handle on macOS

IOKit numbers the pipes of an interface from 1 on. `process_pipe_properties` fills two tables with these
numbers, one for each direction, and everything that uses a pipe looks its number up there.
-/

namespace Libusbp.Mac

open Prog Host

/-- The tables of `struct libusbp_generic_handle` -/
structure GenericHandle where
  outTimeout : Fin 16 → UInt32
  inTimeout : Fin 16 → UInt32
  outPipeIndex : Fin 16 → UInt8
  inPipeIndex : Fin 16 → UInt8

/-- The handle as `calloc` yields it. -/
def GenericHandle.zeroed : GenericHandle := ⟨fun _ => 0, fun _ => 0, fun _ => 0, fun _ => 0⟩

def kUSBOut : UInt8 := 0
def kUSBIn : UInt8 := 1

/-- What `GetPipeProperties` writes to its outputs. -/
structure PipeProperties where
  direction : UInt8
  endpointNumber : UInt8
  transferType : UInt8
  maxPacketSize : UInt16
  interval : UInt8

/-- What IOKit answers about the pipes of an interface, with the codes of the calls that fail. -/
structure InterfacePipes where
  numEndpoints : Except UInt32 UInt8
  pipeProperties : UInt8 → Except UInt32 PipeProperties

/-- The index of an endpoint number that was checked -/
def tableIndex (endpointNumber : UInt8) (le : endpointNumber ≤ maxEndpointNumber) : Fin 16 :=
  ⟨endpointNumber.toNat, Nat.lt_succ_of_le (UInt8.le_iff_toNat_le.mp le)⟩

/-- The entry for the endpoint of a pipe becomes `i`. -/
def GenericHandle.enter (handle : GenericHandle) (p : PipeProperties) (i : UInt8) : GenericHandle :=
  if le : p.endpointNumber ≤ maxEndpointNumber then
    let endpointNumber := tableIndex p.endpointNumber le
    if p.direction ≠ 0 then
      { handle with inPipeIndex := Function.update handle.inPipeIndex endpointNumber i }
    else { handle with outPipeIndex := Function.update handle.outPipeIndex endpointNumber i }
  else handle

/-- A round of the loop of `process_pipe_properties`, where `i` is a `uint32_t`. -/
def processPipe (machErrorString : UInt32 → String) (os : InterfacePipes) (i : Nat)
    (handle : GenericHandle) : Prog Fault System (Option Error × GenericHandle) :=
  match os.pipeProperties (UInt8.ofNat i) with
  | .error kr => do
    let error ← inHeap
      (errorCreateMach machErrorString kr s!"Failed to get pipe properties for pipe {i}.")
    pure (error, handle)
  | .ok p => pure (none, handle.enter p (UInt8.ofNat i))

def processPipeProperties (machErrorString : UInt32 → String) (os : InterfacePipes)
    (handle : GenericHandle) : Prog Fault System (Option Error × GenericHandle) :=
  match os.numEndpoints with
  | .error kr => do
    let error ← inHeap (errorCreateMach machErrorString kr "Failed to get number of endpoints.")
    pure (error, handle)
  | .ok endpointCount => forUntil (processPipe machErrorString os) 1 endpointCount.toNat handle

/-- The handle for the functions that read from pipes and write to them, with numbers of 32 bits. -/
def GenericHandle.pipeHandle (handle : GenericHandle) : PipeHandle where
  inTimeout := handle.inTimeout
  outTimeout := handle.outTimeout
  inPipeIndex n := (handle.inPipeIndex n).toUInt32
  outPipeIndex n := (handle.outPipeIndex n).toUInt32

/-- The tables that transfers are created with are those of the handle. -/
structure Kernel.Finds (kernel : Kernel) (handle : GenericHandle) : Prop where
  inPipeIndex : ∀ n : Fin 16, kernel.inPipeIndex (UInt8.ofNat n) = handle.inPipeIndex n
  outPipeIndex : ∀ n : Fin 16, kernel.outPipeIndex (UInt8.ofNat n) = handle.outPipeIndex n

/-- The pipe has the direction and the endpoint number that the ID encodes. -/
def InterfacePipes.Serves (os : InterfacePipes) (pipeId : UInt8) (i : Nat) : Prop :=
  ∃ p, os.pipeProperties (UInt8.ofNat i) = .ok p ∧
    p.direction = (if pipeId &&& 0x80 ≠ 0 then kUSBIn else kUSBOut) ∧
    p.endpointNumber = pipeId &&& ~~~0x80

/-- Every pipe has one of the two directions, and no two of them have the same direction and the same
endpoint number. -/
structure InterfacePipes.Distinct (os : InterfacePipes) (count : UInt8) : Prop where
  directions : ∀ i p, 1 ≤ i → i ≤ count.toNat → os.pipeProperties (UInt8.ofNat i) = .ok p →
    p.direction = kUSBOut ∨ p.direction = kUSBIn
  pairs : ∀ i j p q, 1 ≤ i → i ≤ count.toNat → 1 ≤ j → j ≤ count.toNat →
    os.pipeProperties (UInt8.ofNat i) = .ok p → os.pipeProperties (UInt8.ofNat j) = .ok q →
    p.direction = q.direction → p.endpointNumber = q.endpointNumber → i = j

/-- The index is that of the pipe for the ID, and 0 if there is none. -/
structure InterfacePipes.Indexes (os : InterfacePipes) (count pipeId : UInt8) (index : Nat) : Prop where
  eq : ∀ i, 1 ≤ i → i ≤ count.toNat → (index = i ↔ os.Serves pipeId i)
  zero : index = 0 ↔ ∀ i, 1 ≤ i → i ≤ count.toNat → ¬os.Serves pipeId i

/-- The place of a pipe in the tables, if it has one. -/
def InterfacePipes.place (os : InterfacePipes) (i : Nat) : Option (Bool × Fin 16) :=
  match os.pipeProperties (UInt8.ofNat i) with
  | .error _ => none
  | .ok p =>
    if le : p.endpointNumber ≤ maxEndpointNumber then
      some (p.direction ≠ 0, tableIndex p.endpointNumber le)
    else none

/-- The two tables as one. -/
def GenericHandle.pipeIndex (handle : GenericHandle) : Bool × Fin 16 → UInt8
  | (true, n) => handle.inPipeIndex n
  | (false, n) => handle.outPipeIndex n

/-- The place that an ID encodes. -/
def placeOf (pipeId : UInt8) : Bool × Fin 16 := (pipeId &&& 0x80 ≠ 0, endpointNumber pipeId)

variable {machErrorString : UInt32 → String} {os : InterfacePipes} {handle : GenericHandle}
  {m : Holdings RefKind} {d : Nat} {s : System}

/-- After `k` rounds, the tables are the numbering of the first `k` pipes turned around. -/
def GenericHandle.Filled (handle : GenericHandle) (os : InterfacePipes) (k : Nat) : Prop :=
  ∀ x, (handle.pipeIndex x).toNat = Numbering.invert os.place k x

lemma place_some {i : Nat} {p : PipeProperties} (answered : os.pipeProperties (UInt8.ofNat i) = .ok p)
    (le : p.endpointNumber ≤ maxEndpointNumber) :
    os.place i = some (decide (p.direction ≠ 0), tableIndex p.endpointNumber le) := by
  simp only [InterfacePipes.place, answered, dif_pos le]

lemma place_none {i : Nat} {p : PipeProperties} (answered : os.pipeProperties (UInt8.ofNat i) = .ok p)
    (large : ¬p.endpointNumber ≤ maxEndpointNumber) : os.place i = none := by
  simp only [InterfacePipes.place, answered, dif_neg large]

/-- An entry is made at the place of the pipe. -/
lemma enter_pipeIndex {p : PipeProperties} {i : UInt8} (le : p.endpointNumber ≤ maxEndpointNumber) :
    (handle.enter p i).pipeIndex = Function.update handle.pipeIndex
      (decide (p.direction ≠ 0), tableIndex p.endpointNumber le) i := by
  funext ⟨input, n⟩
  simp only [GenericHandle.enter, dif_pos le, Function.update_apply, Prod.mk.injEq]
  by_cases isIn : p.direction ≠ 0
  · rw [if_pos isIn, decide_eq_true isIn]
    cases input with
    | true => simp [GenericHandle.pipeIndex, Function.update_apply]
    | false => simp [GenericHandle.pipeIndex]
  · rw [if_neg isIn, decide_eq_false isIn]
    cases input with
    | true => simp [GenericHandle.pipeIndex]
    | false => simp [GenericHandle.pipeIndex, Function.update_apply]

/-- A pipe whose endpoint number is too large changes no entry. -/
lemma enter_large {p : PipeProperties} {i : UInt8} (large : ¬p.endpointNumber ≤ maxEndpointNumber) :
    handle.enter p i = handle := dif_neg large

/-- What a round enters. The number of a pipe fits in 8 bits. -/
lemma enter_filled {k : Nat} {p : PipeProperties} (filled : handle.Filled os k) (lt : k + 1 < 256)
    (answered : os.pipeProperties (UInt8.ofNat (k + 1)) = .ok p) :
    (handle.enter p (UInt8.ofNat (k + 1))).Filled os (k + 1) := by
  intro x
  by_cases le : p.endpointNumber ≤ maxEndpointNumber
  · rw [enter_pipeIndex le, Numbering.invert_some (place_some answered le), Function.update_apply,
      Function.update_apply]
    split
    case isTrue => exact UInt8.toNat_ofNat_of_lt' lt
    case isFalse => exact filled x
  · rw [enter_large le, Numbering.invert_none (place_none answered le)]
    exact filled x

/-- `error_create_mach` always makes an error. -/
lemma errorCreateMach_yields (errorCode : UInt32) (format : String) :
    Yields (inHeap (errorCreateMach machErrorString errorCode format) : Prog Fault System _)
      (· ≠ none) := yields_of_made (made_createMach machErrorString errorCode format)

/-- If `process_pipe_properties` succeeds, the tables of a handle that was zero are filled. -/
lemma processPipeProperties_fills {count : UInt8} (counted : os.numEndpoints = .ok count) :
    Yields (processPipeProperties machErrorString os .zeroed) fun r =>
      r.1 = none → r.2.Filled os count.toNat := by
  rw [processPipeProperties, counted]
  have rounds : Yields (forUntil (processPipe machErrorString os) 1 count.toNat .zeroed) fun r =>
      r.1 = none → r.2.Filled os (1 + count.toNat - 1) := by
    refine Yields.forUntil (fun j (handle : GenericHandle) => handle.Filled os (j - 1)) ?_ ?_
    · intro j handle pos lt filled
      obtain ⟨k, rfl⟩ := Nat.exists_eq_add_of_le' pos
      rw [processPipe]
      cases answered : os.pipeProperties (UInt8.ofNat (k + 1)) with
      | error kr =>
        refine (errorCreateMach_yields _ _).bind fun error made => ?_
        exact .pure fun missing => absurd missing made
      | ok p =>
        have small := count.toNat_lt
        exact .pure fun _ => enter_filled filled (by omega) answered
    · rintro ⟨input, n⟩
      cases input with
      | true => rfl
      | false => rfl
  rwa [Nat.add_sub_cancel_left] at rounds

/-- The bits of an ID that was accepted. -/
lemma accepted_bits {pipeId : UInt8} (small : ¬pipeId &&& ~~~0x80 > maxEndpointNumber) :
    pipeId &&& maxEndpointNumber = pipeId &&& ~~~0x80 := by
  have bits (n : Nat) : n &&& 15 = n % 16 := Nat.and_two_pow_sub_one_eq_mod n 4
  have bits' (n : Nat) : n &&& 127 = n % 128 := Nat.and_two_pow_sub_one_eq_mod n 7
  have le : pipeId.toNat &&& 127 ≤ 15 := UInt8.le_iff_toNat_le.mp (UInt8.not_lt.mp small)
  apply UInt8.toNat_inj.mp
  show pipeId.toNat &&& 15 = pipeId.toNat &&& 127
  rw [bits, bits'] at *
  omega

/-- What `check_pipe_id` accepts is accepted. -/
lemma accepted_of_check {pipeId : UInt8} (accepted : checkPipeId pipeId = pure none) :
    Accepted pipeId := by
  have passed := checkPipeId_yields pipeId (⟨⟨fun _ => true, 0, []⟩, 0, []⟩ : System)
  rw [accepted] at passed
  exact passed none _ rfl rfl

/-- A pipe with a place, and the place. -/
lemma place_eq_some {i : Nat} {x : Bool × Fin 16} : os.place i = some x ↔
    ∃ p, os.pipeProperties (UInt8.ofNat i) = .ok p ∧ ∃ le : p.endpointNumber ≤ maxEndpointNumber,
      (decide (p.direction ≠ 0), tableIndex p.endpointNumber le) = x := by
  constructor
  · intro has
    cases answered : os.pipeProperties (UInt8.ofNat i) with
    | error kr =>
      rw [InterfacePipes.place, answered] at has
      cases has
    | ok p =>
      by_cases le : p.endpointNumber ≤ maxEndpointNumber
      · rw [place_some answered le] at has
        exact ⟨p, rfl, le, Option.some.inj has⟩
      · rw [place_none answered le] at has
        cases has
  · rintro ⟨p, answered, le, rfl⟩
    exact place_some answered le

/-- The tables have an entry for each endpoint number. -/
lemma tableIndex_inj {a b : UInt8} {ha : a ≤ maxEndpointNumber} {hb : b ≤ maxEndpointNumber}
    (eq : tableIndex a ha = tableIndex b hb) : a = b := UInt8.toNat_inj.mp (Fin.mk.inj eq)

/-- The index that an ID encodes. -/
lemma endpointNumber_eq {pipeId : UInt8} (le : pipeId &&& maxEndpointNumber ≤ maxEndpointNumber) :
    endpointNumber pipeId = tableIndex (pipeId &&& maxEndpointNumber) le :=
  Fin.ext (Nat.mod_eq_of_lt (tableIndex _ le).isLt)

/-- The place of a pipe is the one that an ID encodes exactly if the pipe is the one for the ID. -/
lemma place_iff_serves {pipeId : UInt8} (accepted : checkPipeId pipeId = pure none) {i : Nat}
    (directions : ∀ p, os.pipeProperties (UInt8.ofNat i) = .ok p →
      p.direction = kUSBOut ∨ p.direction = kUSBIn) :
    os.place i = some (placeOf pipeId) ↔ os.Serves pipeId i := by
  have small := fun large => accepted_of_check accepted (.inl large)
  have bits := accepted_bits small
  have le : pipeId &&& maxEndpointNumber ≤ maxEndpointNumber := by
    rw [bits]
    exact UInt8.not_lt.mp small
  rw [place_eq_some]
  constructor
  · rintro ⟨p, answered, le', eq⟩
    obtain ⟨direction, number⟩ := Prod.mk.inj eq
    refine ⟨p, answered, ?_, (tableIndex_inj (number.trans (endpointNumber_eq le))).trans bits⟩
    -- the two directions of the interface are the two tables
    rcases directions p answered with out | isIn
    · rw [out] at direction ⊢
      rw [if_neg (of_decide_eq_false direction.symm)]
    · rw [isIn] at direction ⊢
      rw [if_pos (of_decide_eq_true direction.symm)]
  · rintro ⟨p, answered, direction, number⟩
    rw [← bits] at number
    refine ⟨p, answered, number ▸ le, ?_⟩
    rw [placeOf, endpointNumber_eq le]
    simp only [number, direction]
    by_cases isIn : pipeId &&& 0x80 ≠ 0
    · rw [if_pos isIn, decide_eq_true isIn]
      rfl
    · rw [if_neg isIn, decide_eq_false isIn]
      rfl

/-- No two pipes have the same place. -/
lemma InterfacePipes.Distinct.places {count : UInt8} (distinct : os.Distinct count) :
    Numbering.Distinct os.place count.toNat := by
  intro i j x pos le pos' le' has has'
  obtain ⟨p, answered, small, rfl⟩ := place_eq_some.mp has
  obtain ⟨q, answered', small', eq⟩ := place_eq_some.mp has'
  obtain ⟨direction, number⟩ := Prod.mk.inj eq
  apply distinct.pairs i j p q pos le pos' le' answered answered'
  · rcases distinct.directions i p pos le answered with out | isIn
    · rcases distinct.directions j q pos' le' answered' with out' | isIn'
      · rw [out, out']
      · rw [out, isIn'] at direction
        cases direction
    · rcases distinct.directions j q pos' le' answered' with out' | isIn'
      · rw [isIn, out'] at direction
        cases direction
      · rw [isIn, isIn']
  · exact (tableIndex_inj number).symm

/-- What the tables hold at the place that an ID encodes. -/
lemma GenericHandle.Filled.indexes {count pipeId : UInt8} (filled : handle.Filled os count.toNat)
    (distinct : os.Distinct count) (accepted : checkPipeId pipeId = pure none) :
    os.Indexes count pipeId (handle.pipeIndex (placeOf pipeId)).toNat where
  eq i pos le := by
    rw [filled, Numbering.invert_eq distinct.places pos le]
    exact place_iff_serves accepted (distinct.directions i · pos le)
  zero := by
    rw [filled, Numbering.invert_eq_zero]
    constructor
    · intro missing i pos le serves
      exact missing i pos le ((place_iff_serves accepted (distinct.directions i · pos le)).mpr serves)
    · intro missing i pos le has
      exact missing i pos le ((place_iff_serves accepted (distinct.directions i · pos le)).mp has)

/-- `generic_handle_get_pipe_index` looks up the place that the ID encodes. -/
lemma genericHandleGetPipeIndex_looksUp {h : Handle} {dev : Dev} (finds : dev.kernel.Finds handle)
    (pipeId : UInt8) : wp (genericHandleGetPipeIndex (some h) pipeId)
      (fun index dev' => index = handle.pipeIndex (placeOf pipeId) ∧ dev' = dev) dev := by
  have small : (pipeId &&& maxEndpointNumber).toNat < 16 := by
    show pipeId.toNat &&& 15 < 16
    exact Nat.lt_succ_of_le Nat.and_le_right
  have number : UInt8.ofNat (endpointNumber pipeId) = pipeId &&& maxEndpointNumber := by
    rw [endpointNumber, Fin.val_ofNat, Nat.mod_eq_of_lt small, UInt8.ofNat_toNat]
  simp only [genericHandleGetPipeIndex, wp_bind, wp_get]
  apply wp_ite
  · intro isIn
    rw [wp_pure, ← number, finds.inPipeIndex, placeOf, decide_eq_true isIn]
    exact ⟨rfl, rfl⟩
  · intro isOut
    rw [wp_pure, ← number, finds.outPipeIndex, placeOf, decide_eq_false isOut]
    exact ⟨rfl, rfl⟩

/-- What is passed to the operating system, if the call gets there, has the number `index`. -/
def PassesOn (index : UInt32) (reply : PipeReply PipeRequest) : Prop :=
  ∀ request, reply.request = some request → request.pipeIndex = index

/-- `libusbp_read_pipe` uses the number at the place that the ID encodes. -/
lemma readPipe_passesOn (readPipeTO : PipeAnswer) (pipeId : UInt8) (buffer : Bool) (size : UInt64)
    (transferred : Bool) :
    Yields (readPipe machErrorString readPipeTO (some handle.pipeHandle) pipeId buffer size transferred)
      (PassesOn (handle.pipeIndex (placeOf pipeId)).toUInt32) := by
  have yields : Yields
      (readPipe machErrorString readPipeTO (some handle.pipeHandle) pipeId buffer size transferred)
      fun reply => ∀ q, reply.request = some q → (pipeId &&& 0x80 ≠ 0 ∧ Accepted pipeId) ∧
        q.pipeIndex = handle.pipeHandle.inPipeIndex (endpointNumber pipeId) := by
    apply pipeTransfer_yields (firstError_yields (by simp) (checkPipeIdIn_yields pipeId))
    refine (Yields.any _).bind fun error _ => .pure ?_
    rintro _ ⟨⟩
    rfl
  intro s reply s' run q there
  obtain ⟨⟨isIn, _⟩, number⟩ := yields s reply s' run q there
  rw [number, placeOf, decide_eq_true isIn]
  rfl

/-- So does `libusbp_write_pipe`. -/
lemma writePipe_passesOn (writePipeTO : PipeAnswer) (pipeId : UInt8) (buffer : Bool) (size : UInt64)
    (transferred : Bool) :
    Yields (writePipe machErrorString writePipeTO (some handle.pipeHandle) pipeId buffer size
      transferred) (PassesOn (handle.pipeIndex (placeOf pipeId)).toUInt32) := by
  have yields : Yields
      (writePipe machErrorString writePipeTO (some handle.pipeHandle) pipeId buffer size transferred)
      fun reply => ∀ q, reply.request = some q → (pipeId &&& 0x80 = 0 ∧ Accepted pipeId) ∧
        q.pipeIndex = handle.pipeHandle.outPipeIndex (endpointNumber pipeId) := by
    apply pipeTransfer_yields (firstError_yields (by simp) (checkPipeIdOut_yields pipeId))
    refine (Yields.any _).bind fun error _ => .pure ?_
    rintro _ ⟨⟩
    rfl
  intro s reply s' run q there
  obtain ⟨⟨isOut, _⟩, number⟩ := yields s reply s' run q there
  rw [number, placeOf, decide_eq_false (not_not.mpr isOut)]
  rfl

/-- A call that reads gets to the operating system exactly if the ID is one of an IN pipe and the size and
the buffer are valid. -/
lemma readPipe_requests {pipeId : UInt8} (accepted : Accepted pipeId) (own : s.Owns m)
    (machErrorString : UInt32 → String) (readPipeTO : PipeAnswer) (h : PipeHandle) (buffer : Bool)
    (size : UInt64) (transferred : Bool) :
    wp (readPipe machErrorString readPipeTO (some h) pipeId buffer size transferred)
      (fun reply _ => reply.request.isSome = true ↔
        pipeId &&& 0x80 ≠ 0 ∧ size ≠ 0 ∧ size ≤ uintMax ∧ buffer = true) s := by
  have validates := readPipe_validates pipeId size buffer transferred
  apply wp_mono (validates.mac machErrorString readPipeTO h m s.denials s ⟨own, rfl⟩)
  intro reply s' validated
  rw [validated.requests, readRefusal, Option.map_eq_none_iff, Option.orElse_eq_none, readReason_eq_none,
    inReason, pipeIdReason_eq_none, decide_eq_false_iff_not, and_comm, and_iff_left accepted]

/-- So does one that writes with the ID of an OUT pipe. -/
lemma writePipe_requests {pipeId : UInt8} (accepted : Accepted pipeId) (own : s.Owns m)
    (machErrorString : UInt32 → String) (writePipeTO : PipeAnswer) (h : PipeHandle) (buffer : Bool)
    (size : UInt64) (transferred : Bool) :
    wp (writePipe machErrorString writePipeTO (some h) pipeId buffer size transferred)
      (fun reply _ => reply.request.isSome = true ↔
        pipeId &&& 0x80 = 0 ∧ size ≤ uintMax ∧ (buffer = true ∨ size = 0)) s := by
  have validates := writePipe_validates pipeId size buffer transferred
  apply wp_mono (validates.mac machErrorString writePipeTO h m s.denials s ⟨own, rfl⟩)
  intro reply s' validated
  rw [validated.requests, writeRefusal, Option.map_eq_none_iff, Option.orElse_eq_none, writeReason_eq_none,
    outReason, pipeIdReason_eq_none, decide_eq_false_iff_not, not_not, and_comm, and_iff_left accepted]

/-- `process_pipe_properties` returns, and holds nothing more than its error then. -/
lemma processPipeProperties_returns (own : Holding m d s) (handle : GenericHandle) :
    wp (processPipeProperties machErrorString os handle) (fun r s' => match r.1 with
      | none => Holding m d s'
      | some e => Raised m d (fun v => ∃ kr text, v = machError machErrorString kr text) e s') s := by
  unfold processPipeProperties
  cases os.numEndpoints with
  | error kr =>
    simp only [wp_bind, wp_pure]
    apply wp_createMachError own
    exact fun e s' r => r.mono fun v hv => ⟨_, _, hv⟩
  | ok count =>
    apply wp_forUntil fun _ _ s => Holding m d s
    · intro i handle s _ _ own
      unfold processPipe
      cases os.pipeProperties (UInt8.ofNat i) with
      | error kr =>
        simp only [wp_bind, wp_pure]
        apply wp_createMachError own
        exact fun e s' r => r.mono fun v hv => ⟨_, _, hv⟩
      | ok p => exact wp_pure.mpr own
    · exact fun handle s own => own
    · exact own

/-- The call returns, it gets to the operating system exactly if it is `valid`, and then with the number
of the pipe for the ID. -/
structure Reaches (os : InterfacePipes) (count pipeId : UInt8) (valid : Prop)
    (call : Prog Fault System (PipeReply PipeRequest)) : Prop where
  requests : ∀ m s, s.Owns m → wp call (fun reply _ => reply.request.isSome = true ↔ valid) s
  index : Yields call fun reply => ∀ request, reply.request = some request →
    os.Indexes count pipeId request.pipeIndex.toNat

/-- `process_pipe_properties` returns, and if it succeeds on a handle that is zero, every use of an ID
that `check_pipe_id` accepts gets the number of the pipe for the ID, or 0 if there is none. In particular
every call that reads from an IN pipe or writes to an OUT pipe with a valid size and buffer gets to the
operating system with this number, and no other call gets there. A pipe with an endpoint number above 15
leaves the tables as they are. -/
theorem pipeIndex_inverts (own : s.Owns m) (machErrorString : UInt32 → String) {count : UInt8}
    (counted : os.numEndpoints = .ok count) (distinct : os.Distinct count) :
    wp (processPipeProperties machErrorString os .zeroed) (fun r _ => r.1 = none →
      ∀ pipeId, checkPipeId pipeId = pure none →
        (∀ h dev, dev.kernel.Finds r.2 → wp (genericHandleGetPipeIndex (some h) pipeId)
          (fun index _ => os.Indexes count pipeId index.toNat) dev) ∧
        (∀ readPipeTO buffer size transferred, Reaches os count pipeId
          (pipeId &&& 0x80 ≠ 0 ∧ size ≠ 0 ∧ size ≤ uintMax ∧ buffer = true)
          (readPipe machErrorString readPipeTO (some r.2.pipeHandle) pipeId buffer size transferred)) ∧
        ∀ writePipeTO buffer size transferred, Reaches os count pipeId
          (pipeId &&& 0x80 = 0 ∧ size ≤ uintMax ∧ (buffer = true ∨ size = 0))
          (writePipe machErrorString writePipeTO (some r.2.pipeHandle) pipeId buffer size
            transferred)) s ∧
    ∀ i p handle, os.pipeProperties (UInt8.ofNat i) = .ok p → maxEndpointNumber < p.endpointNumber →
      processPipe machErrorString os i handle = pure (none, handle) := by
  constructor
  · apply wp_mono (processPipeProperties_returns ⟨own, rfl⟩ .zeroed).run
    rintro ⟨error, handle⟩ s' ⟨_, run⟩ succeeded pipeId accepted
    have filled : handle.Filled os count.toNat :=
      processPipeProperties_fills counted _ _ _ run succeeded
    have indexes := filled.indexes distinct accepted
    -- both transfer functions pass on what the tables have at the place of the ID
    have passed (reply : PipeReply PipeRequest)
        (passes : PassesOn (handle.pipeIndex (placeOf pipeId)).toUInt32 reply)
        (request : PipeRequest) (there : reply.request = some request) :
        os.Indexes count pipeId request.pipeIndex.toNat := by
      rw [passes request there, UInt8.toNat_toUInt32]
      exact indexes
    refine ⟨?_, ?_, ?_⟩
    · intro h dev finds
      apply wp_mono (genericHandleGetPipeIndex_looksUp finds pipeId)
      rintro index dev' ⟨rfl, _⟩
      exact indexes
    · intro readPipeTO buffer size transferred
      constructor
      · intro m t own
        exact readPipe_requests (accepted_of_check accepted) own _ _ _ _ _ _
      · intro t reply t' run
        exact passed reply (readPipe_passesOn _ _ _ _ _ t reply t' run)
    · intro writePipeTO buffer size transferred
      constructor
      · intro m t own
        exact writePipe_requests (accepted_of_check accepted) own _ _ _ _ _ _
      · intro t reply t' run
        exact passed reply (writePipe_passesOn _ _ _ _ _ t reply t' run)
  · intro i p handle answered large
    rw [processPipe, answered]
    dsimp only
    rw [enter_large (UInt8.not_le.mpr large)]

/-- Two pipes for endpoint 2, and one that has no place in the tables. -/
theorem pipeIndex_inverts_example :
    let os : InterfacePipes := ⟨.ok 3, fun i =>
      if i = 1 then .ok ⟨kUSBIn, 2, 3, 64, 1⟩
      else if i = 2 then .ok ⟨kUSBOut, 2, 3, 64, 1⟩
      else .ok ⟨kUSBIn, 18, 2, 512, 0⟩⟩
    ∃ handle s', processPipeProperties (fun _ => "") os .zeroed ⟨⟨fun _ => true, 0, []⟩, 0, []⟩ =
        .ok ((none, handle), s') ∧
      handle.inPipeIndex 2 = 1 ∧ handle.outPipeIndex 2 = 2 ∧
      (∀ h dev, dev.kernel.Finds handle → wp (genericHandleGetPipeIndex (some h) 0x82)
        (fun index _ => os.Indexes 3 0x82 index.toNat) dev) ∧
      ∀ readPipeTO m s, s.Owns m →
        wp (readPipe (fun _ => "") readPipeTO (some handle.pipeHandle) 0x82 true 64 true)
          (fun reply _ => reply.request.isSome = true) s := by
  intro os
  have number (i : Nat) (pos : 1 ≤ i) (le : i ≤ 3) : i = 1 ∨ i = 2 ∨ i = 3 := by omega
  have distinct : os.Distinct 3 := by
    constructor
    · intro i p pos le answered
      rcases number i pos le with rfl | rfl | rfl
      all_goals cases answered
      · exact .inr rfl
      · exact .inl rfl
      · exact .inr rfl
    · intro i j p q pos le pos' le' answered answered' direction endpoint
      rcases number i pos le with rfl | rfl | rfl
      all_goals rcases number j pos' le' with rfl | rfl | rfl
      all_goals first | rfl | skip
      all_goals
        cases answered
        cases answered'
      all_goals first | exact absurd direction (by decide) | exact absurd endpoint (by decide)
  have inverts := (pipeIndex_inverts (.empty fun _ => true) (fun _ => "") rfl distinct).1
  obtain ⟨looksUp, reads, _⟩ := (inverts.elim rfl) rfl 0x82 rfl
  refine ⟨_, _, rfl, rfl, rfl, looksUp, fun readPipeTO m s own => ?_⟩
  apply wp_mono ((reads readPipeTO true 64 true).requests m s own)
  exact fun reply s' requests => requests.mpr (by decide)

end Libusbp.Mac
