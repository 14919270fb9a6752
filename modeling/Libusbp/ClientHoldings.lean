import Libusbp.ClientTimeouts

/-!
# What a client holds

The invariant of a client (`InHand`): what the program holds is what the objects in the client's hands
own, so that nothing is lost or freed twice. It holds in every run if the functions of the platform keep
`Api.Keeps`.
-/

namespace Libusbp

open Prog Host

variable {κ D I S H α β : Type} {A : Answers}

/-! ## The invariants -/

section Owned

variable [Owned κ D] [Owned κ I] [Owned κ S] [Owned κ H]

instance : Owned κ (Obj D I S) := ⟨fun
  | .error e => (e.blocks, 0)
  | .string string => owned string
  | .deviceList list => ({.heap list.addr}, 0)
  | .device dev => owned dev
  | .genericInterface gi => owned gi
  | .serialPort port => owned port⟩

instance : Owned κ (ClientHandle H) := ⟨fun h => owned h.handle⟩

/-- What the objects of a client own. -/
def ClientState.holdings (c : ClientState κ D I S H) : Holdings κ := owned c.held + owned c.handles

end Owned

/-- The objects that the functions of a platform take. -/
structure Validity (D I S : Type) where
  device : Box D → Prop
  genericInterface : Box I → Prop
  serialPort : Box S → Prop

def Validity.Valid (V : Validity D I S) : Obj D I S → Prop
  | .error e => e.Sound
  | .string _ => True
  | .deviceList _ => True
  | .device dev => V.device dev
  | .genericInterface gi => V.genericInterface gi
  | .serialPort port => V.serialPort port

variable [DecidableEq κ] [Owned κ D] [Owned κ I] [Owned κ S] [Owned κ H]

structure InHand (V : Validity D I S) (c : ClientState κ D I S H) : Prop where
  valid : ∀ obj ∈ c.held, V.Valid obj
  owns : c.host.Owns c.holdings

/-- A call handed the objects to the client, and keeps nothing else. -/
structure HandsOver (V : Validity D I S) (m : Holdings κ) (objs : List (Obj D I S)) (s : Host κ) :
    Prop where
  valid : ∀ obj ∈ objs, V.Valid obj
  owns : s.Owns (m + owned objs)

/-- What the functions of a platform have to do in the calls that are admitted. -/
structure Api.Keeps (api : Api κ D I S H A) (V : Validity D I S)
    (Admits : ClientCall A → ClientState κ D I S H → Prop) : Prop where
  make : ∀ m (c : ClientState κ D I S H) call, Admits (.make call) c →
    (∀ obj ∈ c.held, V.Valid obj) → c.host.Owns m → wp (api.make c call) (EndsWith V.Valid m) c.host
  ask : ∀ m (c : ClientState κ D I S H) call, c.host.Owns m →
    wp (api.ask c call) (Replies m) c.host
  listConnectedDevices : ∀ m (c : ClientState κ D I S H) deviceList deviceCount os,
    Admits (.listConnectedDevices deviceList deviceCount os) c → c.host.Owns m →
    wp (api.listConnectedDevices os deviceList deviceCount) (ListsOnly V.device m deviceCount) c.host
  genericHandleOpen : ∀ m (c : ClientState κ D I S H) gi output os,
    Admits (.genericHandleOpen gi output os) c → (∀ obj ∈ c.held, V.Valid obj) → c.host.Owns m →
    wp (api.genericHandleOpen os (c.arg Obj.genericInterface? gi) output)
      (EndsWith (fun _ => True) m) c.host
  genericHandleClose : ∀ handle, GivesBack (api.genericHandleClose handle) (owned handle)
  setTimeout : ∀ m s handle pipeId timeout os, s.Owns m →
    wp (api.setTimeout os handle pipeId timeout) (Replies m) s
  transfer : ∀ m s handle call, s.Owns m → wp (api.transfer handle call) (Replies m) s
  deviceFree : ∀ device, GivesBack (api.deviceFree device) (owned device)
  genericInterfaceFree : ∀ gi, GivesBack (api.genericInterfaceFree gi) (owned gi)
  serialPortFree : ∀ port, GivesBack (api.serialPortFree port) (owned port)

variable {api : Api κ D I S H A} {V : Validity D I S}
  {Admits : ClientCall A → ClientState κ D I S H → Prop} {c : ClientState κ D I S H}
  {m : Holdings κ} {s : Host κ}

/-! ## What is handed over -/

/-- The error of a call is handed over. -/
lemma HandsOver.ofError {error : Option Error} (sound : ∀ e, error = some e → e.Sound)
    (own : s.Owns (m + (errorBlocks error, 0))) : HandsOver V m (handed error none) s := by
  cases error with
  | none => exact ⟨by rintro _ ⟨⟩, own⟩
  | some e =>
    refine ⟨?_, own.of_eq (congrArg (m + ·) (add_zero _).symm)⟩
    intro obj mem
    cases List.mem_singleton.mp mem
    exact sound e rfl

lemma Replies.handsOver {γ : Type} {r : Option Error × γ} (replies : Replies m r s) : HandsOver V m (handed r.1 none) s :=
  .ofError replies.sound replies.owns

lemma EndsWith.handsOver {error : Option Error} {obj : Option (Obj D I S)}
    (ends : EndsWith V.Valid m (error, obj) s) : HandsOver V m (handed error obj) s := by
  cases error with
  | none =>
    cases obj with
    | none => exact ⟨by rintro _ ⟨⟩, ends.2⟩
    | some obj =>
      refine ⟨?_, ends.2.of_eq (congrArg (m + ·) (add_zero _).symm)⟩
      intro obj' mem
      cases List.mem_singleton.mp mem
      exact ends.1 obj rfl
  | some e =>
    obtain ⟨rfl, sound, owns⟩ := ends
    exact .ofError (by rintro _ ⟨⟩; exact sound) owns

omit [DecidableEq κ] [Owned κ D] [Owned κ I] [Owned κ S] [Owned κ H] in
/-- The objects of a list are its array and its devices. -/
lemma ListOutputs.objs_eq {outputs : ListOutputs D} {a : Addr} {devices : List (Box D)}
    (slots : outputs.deviceList = some ⟨a, devices.map Slot.device ++ [.null]⟩) :
    (outputs.objs : List (Obj D I S)) =
      .deviceList ⟨a, devices.map Slot.device ++ [.null]⟩ :: devices.map .device := by
  rw [ListOutputs.objs, slots]
  simp [List.filterMap_append, List.filterMap_map]

lemma ListsOnly.handsOver {deviceCount : Bool} {error : Option Error} {outputs : ListOutputs D}
    (lists : ListsOnly V.device m deviceCount (error, outputs) s) :
    HandsOver V m (handed error none ++ outputs.objs) s := by
  cases error with
  | none =>
    obtain ⟨l, devices, holds, valid, rfl, own⟩ := lists
    obtain ⟨a, slots⟩ := holds.slots
    have slots' : ((ListOutputs.start deviceCount).pass l deviceCount).deviceList = _ := slots
    rw [ListOutputs.objs_eq slots']
    refine ⟨?_, own.of_eq ?_⟩
    · intro obj mem
      rcases List.mem_cons.mp mem with rfl | mem
      · trivial
      · obtain ⟨dev, mem', rfl⟩ := List.mem_map.mp mem
        exact valid dev mem'
    · have same : (owned (devices.map fun dev => (.device dev : Obj D I S)) : Holdings κ) =
          owned devices := by
        simp only [owned, List.map_map]
        rfl
      rw [slots, owned_array]
      show _ = m + owned (_ :: devices.map fun dev => (.device dev : Obj D I S))
      rw [owned_cons, same]
      rfl
  | some e =>
    obtain ⟨rfl, d, raised⟩ := lists
    exact .ofError raised.sound' raised.owns

/-- A call whose output is an object of one kind. -/
lemma wp_giving [Owned κ α] {P : α → Prop} {f : α → Obj D I S}
    {x : Prog Fault (Host κ) (Option Error × Option α)} (ends : wp x (EndsWith P m) s)
    (valid : ∀ a, P a → V.Valid (f a))
    (owns : ∀ a, (owned (f a) : Holdings κ) = owned a := by intro a; rfl) :
    wp (giving f x) (EndsWith V.Valid m) s := by
  simp only [giving, wp_bind, wp_pure]
  apply wp_mono ends
  rintro ⟨_ | e, _ | a⟩ s' ended
  · exact ⟨by rintro _ ⟨⟩, ended.2⟩
  · refine ⟨?_, ended.2.of_eq (congrArg (m + ·) (owns a).symm)⟩
    rintro _ ⟨⟩
    exact valid a (ended.1 a rfl)
  · exact ⟨rfl, ended.2⟩
  · cases ended.1

lemma errorCopy_endsWith (own : s.Owns m) {error : Option Error}
    (sound : ∀ e, error = some e → e.Sound) :
    wp (do
      let copy ← inHeap (errorCopy error)
      pure ((none : Option Error), copy.map (.error : Error → Obj D I S)))
      (EndsWith V.Valid m) s := by
  simp only [wp_bind, wp_pure, inHeap, wp_zoom]
  cases error with
  | none => exact wp_pure.mpr ⟨by rintro _ ⟨⟩, own.of_eq (add_zero m).symm⟩
  | some e =>
    apply wp_mono (errorCopy_owns (sound e rfl) own.heap)
    rintro _ h ⟨e', rfl, sound', own', _⟩
    refine ⟨?_, (own.inHeap own').of_eq (Prod.ext rfl (add_zero _).symm)⟩
    rintro _ ⟨⟩
    exact sound'

omit [DecidableEq κ] [Owned κ D] [Owned κ I] [Owned κ S] [Owned κ H] in
/-- What is passed for an object of a kind is one of the client's objects. -/
lemma ClientState.arg_mem {f : Obj D I S → Option α} {i : Option Nat} {a : α}
    (passed : c.arg f i = some a) : ∃ obj ∈ c.held, f obj = some a := by
  obtain ⟨i, _, passed⟩ := Option.bind_eq_some_iff.mp passed
  obtain ⟨obj, there, same⟩ := Option.bind_eq_some_iff.mp passed
  exact ⟨obj, List.mem_of_getElem? there, same⟩

section Arguments

omit [DecidableEq κ] [Owned κ D] [Owned κ I] [Owned κ S] [Owned κ H]

variable (valid : ∀ obj ∈ c.held, V.Valid obj) {i : Option Nat}

include valid

lemma ClientState.arg_error {e : Error} (passed : c.arg Obj.error? i = some e) : e.Sound := by
  obtain ⟨obj, mem, same⟩ := ClientState.arg_mem passed
  cases obj <;> cases same
  exact valid _ mem

lemma ClientState.arg_device {dev : Box D} (passed : c.arg Obj.device? i = some dev) :
    V.device dev := by
  obtain ⟨obj, mem, same⟩ := ClientState.arg_mem passed
  cases obj <;> cases same
  exact valid _ mem

lemma ClientState.arg_genericInterface {gi : Box I}
    (passed : c.arg Obj.genericInterface? i = some gi) : V.genericInterface gi := by
  obtain ⟨obj, mem, same⟩ := ClientState.arg_mem passed
  cases obj <;> cases same
  exact valid _ mem

lemma ClientState.arg_serialPort {port : Box S} (passed : c.arg Obj.serialPort? i = some port) :
    V.serialPort port := by
  obtain ⟨obj, mem, same⟩ := ClientState.arg_mem passed
  cases obj <;> cases same
  exact valid _ mem

end Arguments

/-! ## The calls -/

/-- Every object is given back by the function that frees objects of its kind. -/
lemma Api.Keeps.dispose (keeps : api.Keeps V Admits) (obj : Obj D I S) :
    GivesBack (api.dispose obj) (owned obj) := by
  cases obj with
  | error e => exact errorFree_givesBack
  | string string => exact stringFree_givesBack
  | deviceList list => exact .freeBlock
  | device dev => exact keeps.deviceFree (some dev)
  | genericInterface gi => exact keeps.genericInterfaceFree (some gi)
  | serialPort port => exact keeps.serialPortFree (some port)

/-- A null pointer gives nothing back. -/
lemma Api.Keeps.disposeNull (keeps : api.Keeps V Admits) (kind : ObjKind) :
    GivesBack (api.disposeNull kind) 0 := by
  cases kind with
  | error => exact errorFree_givesBack
  | string => exact stringFree_givesBack
  | deviceList =>
    show GivesBack (free (none : Option (Box (List (Slot D))))) 0
    exact .freeNull
  | device => exact keeps.deviceFree none
  | genericInterface => exact keeps.genericInterfaceFree none
  | serialPort => exact keeps.serialPortFree none

namespace InHand

/-- The client receives what a call handed to it, and its handles change. -/
lemma received (k : InHand V c) {objs : List (Obj D I S)} {handles : List (ClientHandle H)}
    {opened : Nat} {log : List (Access (Nat × UInt8) UInt32)}
    (hands : HandsOver V (owned c.held + owned handles) objs s) :
    InHand V ⟨s, objs ++ c.held, handles, opened, log⟩ where
  valid obj mem := (List.mem_append.mp mem).elim (hands.valid obj) (k.valid obj)
  owns := hands.owns.of_eq (by simp only [ClientState.holdings, owned_append]; abel)

/-- The handle at a position is one of the handles. -/
lemma at' (k : InHand V c) {i : Option Nat} {h : ClientHandle H} {others : List (ClientHandle H)}
    (at' : c.handleAt i = some (h, others)) :
    c.host.Owns (owned c.held + owned (h :: others)) := by
  apply k.owns.of_eq
  rw [ClientState.holdings, owned_perm (ClientState.handleAt_perm at')]

lemma make (keeps : api.Keeps V Admits) (k : InHand V c) {call : MakeCall A}
    (admitted : Admits (.make call) c) : wp (api.step (.make call)) (fun _ => InHand V) c := by
  simp only [Api.step, wp_bind, wp_get, onHost, wp_zoom, receive, wp_modify]
  apply wp_mono (keeps.make _ c call admitted k.valid k.owns)
  rintro ⟨error, obj⟩ s ends
  exact k.received ends.handsOver

lemma ask (keeps : api.Keeps V Admits) (k : InHand V c) (call : AskCall) :
    wp (api.step (.ask call)) (fun _ => InHand V) c := by
  simp only [Api.step, wp_bind, wp_get, onHost, wp_zoom, receive, wp_modify]
  apply wp_mono (keeps.ask _ c call k.owns)
  rintro ⟨error, x⟩ s replies
  exact k.received replies.handsOver

lemma list (keeps : api.Keeps V Admits) (k : InHand V c) {deviceList deviceCount : Bool}
    {os : A.Listing} (admitted : Admits (.listConnectedDevices deviceList deviceCount os) c) :
    wp (api.step (.listConnectedDevices deviceList deviceCount os)) (fun _ => InHand V) c := by
  simp only [Api.step, wp_bind, onHost, wp_zoom, receive, wp_modify]
  apply wp_mono (keeps.listConnectedDevices _ c deviceList deviceCount os admitted k.owns)
  rintro ⟨error, outputs⟩ s lists
  exact k.received lists.handsOver

lemma open' (keeps : api.Keeps V Admits) (k : InHand V c) {gi : Option Nat} {output : Bool}
    {os : A.GenericHandle} (admitted : Admits (.genericHandleOpen gi output os) c) :
    wp (api.step (.genericHandleOpen gi output os)) (fun _ => InHand V) c := by
  simp only [Api.step, wp_bind, wp_get, onHost, wp_zoom, receive, wp_modify]
  apply wp_mono (keeps.genericHandleOpen _ c gi output os admitted k.valid k.owns)
  rintro ⟨_ | e, _ | handle⟩ s ends
  · exact k.received (.ofError (by rintro _ ⟨⟩) ends.2)
  · refine k.received (.ofError (by rintro _ ⟨⟩) (ends.2.of_eq ?_))
    rw [Option.map_some, Option.toList_some, List.singleton_append, owned_cons]
    show owned c.held + owned c.handles + owned handle = _ + (owned handle + _) + 0
    abel
  · exact k.received (.ofError (by rintro _ ⟨⟩; exact ends.2.1) ends.2.2)
  · cases ends.1

lemma setTimeout (keeps : api.Keeps V Admits) (k : InHand V c) (i : Option Nat) (pipeId : UInt8)
    (timeout : UInt32) (os : A.Timeout) :
    wp (api.step (.setTimeout i pipeId timeout os)) (fun _ => InHand V) c := by
  simp only [Api.step, wp_bind, wp_get]
  split
  case h_1 =>
    simp only [onHost, wp_bind, wp_zoom, receive, wp_modify]
    apply wp_mono (keeps.setTimeout _ c.host none pipeId timeout os k.owns)
    rintro ⟨error, timeouts⟩ s replies
    exact k.received replies.handsOver
  case h_2 h others there =>
    simp only [onHost, wp_bind, wp_zoom, receive, wp_modify]
    apply wp_mono (keeps.setTimeout _ c.host (some (h.handle, h.timeouts)) pipeId timeout os
      (k.at' there))
    rintro ⟨error, timeouts⟩ s replies
    exact k.received replies.handsOver

lemma transfer (keeps : api.Keeps V Admits) (k : InHand V c) (i : Option Nat) (call : TransferCall A) :
    wp (api.step (.transfer i call)) (fun _ => InHand V) c := by
  simp only [Api.step, wp_bind, wp_get]
  split
  case h_1 =>
    simp only [onHost, wp_bind, wp_zoom, receive, wp_modify]
    apply wp_mono (keeps.transfer _ c.host none call k.owns)
    rintro ⟨error, timeout⟩ s replies
    exact k.received replies.handsOver
  case h_2 h others there =>
    simp only [onHost, wp_bind, wp_zoom, receive, wp_modify]
    apply wp_mono (keeps.transfer _ c.host (some (h.handle, h.timeouts)) call k.owns)
    rintro ⟨error, timeout⟩ s replies
    exact k.received replies.handsOver

/-- The handle at a position is closed, and the objects stay. -/
lemma close (keeps : api.Keeps V Admits) (k : InHand V c) (i : Option Nat) :
    wp (api.step (.genericHandleClose i)) (fun _ c' => InHand V c' ∧ c'.held = c.held ∧
      ∀ j < c.handles.length, i = some j → c'.handles = c.handles.eraseIdx j) c := by
  simp only [Api.step, wp_bind, wp_get]
  split
  case h_1 null =>
    simp only [onHost, wp_zoom]
    apply (keeps.genericHandleClose none).wp ⟨k.owns.of_eq (add_zero _).symm, rfl⟩
    refine fun s own => ⟨⟨k.valid, own.owns⟩, trivial, ?_⟩
    rintro j lt rfl
    rw [ClientState.handleAt, Option.bind_some, List.getElem?_eq_getElem lt] at null
    cases null
  case h_2 h others there =>
    simp only [onHost, wp_bind, wp_zoom, wp_modify]
    have split : owned c.held + owned (h :: others) =
        (owned c.held + owned others + owned (some h.handle) : Holdings κ) := by
      rw [owned_cons]
      show _ + (owned h.handle + _) = _ + owned h.handle
      abel
    apply (keeps.genericHandleClose (some h.handle)).wp ⟨(k.at' there).of_eq split, rfl⟩
    refine fun s own => ⟨⟨k.valid, own.owns⟩, trivial, ?_⟩
    rintro j lt rfl
    rw [ClientState.handleAt, Option.bind_some, List.getElem?_eq_getElem lt] at there
    exact (congrArg Prod.snd (Option.some.inj there)).symm

/-- The object at a position is freed, and the handles stay. -/
lemma dispose (keeps : api.Keeps V Admits) (k : InHand V c) (i : Nat) :
    wp (api.step (.dispose i)) (fun _ c' => InHand V c' ∧ c'.handles = c.handles ∧
      c'.held = c.held.eraseIdx i) c := by
  simp only [Api.step, wp_bind, wp_get]
  split
  case h_1 null =>
    exact wp_pure.mpr ⟨k, rfl, (List.eraseIdx_of_length_le (List.getElem?_eq_none_iff.mp null)).symm⟩
  case h_2 obj there =>
    simp only [onHost, wp_bind, wp_zoom, wp_modify]
    have split : c.holdings = owned (c.held.eraseIdx i) + owned c.handles + owned obj := by
      rw [ClientState.holdings, owned_eraseIdx there]
      abel
    apply (keeps.dispose obj).wp ⟨k.owns.of_eq split, rfl⟩
    exact fun s own => ⟨⟨fun obj mem => k.valid obj (List.mem_of_mem_eraseIdx mem), own.owns⟩,
      trivial, trivial⟩

/-- The objects are freed one after the other. -/
lemma disposeAll (keeps : api.Keeps V Admits) (k : InHand V c) {n : Nat} (count : c.held.length = n) :
    wp (Machine.run api.step (List.replicate n (.dispose 0)))
      (fun _ c' => InHand V c' ∧ c'.handles = c.handles ∧ c'.held = []) c := by
  induction n generalizing c with
  | zero => exact wp_pure.mpr ⟨k, rfl, List.length_eq_zero_iff.mp count⟩
  | succ n ih =>
    apply Machine.wp_run_cons
    apply wp_mono (k.dispose keeps 0)
    rintro _ c' ⟨k', same, held⟩
    rw [← same]
    apply ih k'
    rw [held, List.length_eraseIdx_of_lt (by omega)]
    omega

/-- The handles are closed one after the other. -/
lemma closeAll (keeps : api.Keeps V Admits) (k : InHand V c) {n : Nat}
    (count : c.handles.length = n) :
    wp (Machine.run api.step (List.replicate n (.genericHandleClose (some 0))))
      (fun _ c' => InHand V c' ∧ c'.held = c.held ∧ c'.handles = []) c := by
  induction n generalizing c with
  | zero => exact wp_pure.mpr ⟨k, rfl, List.length_eq_zero_iff.mp count⟩
  | succ n ih =>
    apply Machine.wp_run_cons
    apply wp_mono (k.close keeps (some 0))
    rintro _ c' ⟨k', same, handles⟩
    rw [← same]
    apply ih k'
    rw [handles 0 (by omega) rfl, List.length_eraseIdx_of_lt (by omega)]
    omega

end InHand

/-- Every call that is admitted keeps the invariant. -/
lemma Api.Keeps.step (keeps : api.Keeps V Admits) (call : ClientCall A)
    (c : ClientState κ D I S H) (k : InHand V c) (admitted : Admits call c) :
    wp (api.step call) (fun _ => InHand V) c := by
  cases call with
  | make call => exact k.make keeps admitted
  | ask call => exact k.ask keeps call
  | listConnectedDevices deviceList deviceCount os => exact k.list keeps admitted
  | genericHandleOpen gi output os => exact k.open' keeps admitted
  | setTimeout i pipeId timeout os => exact k.setTimeout keeps i pipeId timeout os
  | transfer i call => exact k.transfer keeps i call
  | genericHandleClose i => exact wp_mono (k.close keeps i) fun _ _ closed => closed.1
  | dispose i => exact wp_mono (k.dispose keeps i) fun _ _ disposed => disposed.1
  | disposeNull kind =>
    simp only [Api.step, onHost, wp_zoom]
    apply (keeps.disposeNull kind).wp ⟨k.owns.of_eq (add_zero _).symm, rfl⟩
    exact fun s own => ⟨k.valid, own.owns⟩

lemma InHand.start (V : Validity D I S) (grant : Nat → Bool) :
    InHand V (.start grant : ClientState κ D I S H) where
  valid := by rintro _ ⟨⟩
  owns := (Owns.empty grant).of_eq (add_zero 0).symm

/-- The calls that free the objects and close the handles of a client. -/
def ClientState.farewell (c : ClientState κ D I S H) : List (ClientCall A) :=
  List.replicate c.held.length (.dispose 0) ++
    List.replicate c.handles.length (.genericHandleClose (some 0))

/-- Behind them nothing is held. -/
lemma InHand.farewell (keeps : api.Keeps V Admits) (k : InHand V c) :
    wp (Machine.run api.step c.farewell) (fun _ c' => c'.host.Settled 0) c := by
  apply Machine.wp_run_append
  apply wp_mono (k.disposeAll keeps rfl)
  rintro _ c₁ ⟨k₁, handles, held⟩
  rw [← handles]
  apply wp_mono (k₁.closeAll keeps rfl)
  rintro _ c₂ ⟨k₂, held', handles'⟩
  refine (k₂.owns.of_eq ?_).settled
  rw [ClientState.holdings, held', held, handles', owned_nil, owned_nil, add_zero]

/-- A run of admitted calls gets to its end and keeps the invariant. -/
lemma Api.Keeps.run (keeps : api.Keeps V Admits) {calls : List (ClientCall A)} (grant : Nat → Bool)
    (admitted : Machine.Along api.step Admits calls (.start grant)) :
    wp (Machine.run api.step calls) (fun _ => InHand V) (.start grant) :=
  Machine.wp_run keeps.step (InHand.start V grant) admitted

/-- What holds of a client after any run of admitted calls: the program holds what the objects and the
handles of the client own, and gave everything else back exactly once; the client can give everything
else back, too; and its objects can be passed to the functions. -/
structure Balanced (api : Api κ D I S H A) (V : Validity D I S) (c : ClientState κ D I S H) : Prop where
  settled : c.host.Settled c.holdings
  farewell : wp (Machine.run api.step c.farewell) (fun _ c' => c'.host.Settled 0) c
  valid : ∀ obj ∈ c.held, V.Valid obj

lemma InHand.balanced (keeps : api.Keeps V Admits) (k : InHand V c) : Balanced api V c :=
  ⟨k.owns.settled, k.farewell keeps, k.valid⟩

end Libusbp
