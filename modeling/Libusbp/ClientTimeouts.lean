import Libusbp.ClientCalls

/-!
# The timeouts of a client

The tables of the handles of a client agree with the history of their timeouts (`Timed`), and so does
what its transfers use, in every run that returns and whatever happens to the memory meanwhile.
-/

namespace Libusbp

open Prog Host Access

variable {κ D I S H α : Type} {A : Answers}

/-! ## The invariant -/

/-- The handles have different numbers, and the entries of their tables for the accepted IDs are what
was set last. So was what the transfers used. -/
structure Timed (handles : List (ClientHandle H)) (opened : Nat)
    (log : List (Access (Nat × UInt8) UInt32)) : Prop where
  numbers : (handles.map (·.number)).Nodup
  below : ∀ h ∈ handles, h.number < opened
  fresh : ∀ n pipeId, opened ≤ n → lastWrite 0 (n, pipeId) log = 0
  agrees : ∀ h ∈ handles, ∀ pipeId, Accepted pipeId →
    h.timeouts.of pipeId = lastWrite 0 (h.number, pipeId) log
  faithful : Faithful 0 log

variable {handles others : List (ClientHandle H)} {opened : Nat}
  {log : List (Access (Nat × UInt8) UInt32)} {h : ClientHandle H}

namespace Timed

lemma perm (t : Timed handles opened log) {handles' : List (ClientHandle H)}
    (p : handles.Perm handles') : Timed handles' opened log where
  numbers := (p.map _).nodup t.numbers
  below h mem := t.below h (p.mem_iff.mpr mem)
  fresh := t.fresh
  agrees h mem := t.agrees h (p.mem_iff.mpr mem)
  faithful := t.faithful

/-- A handle is closed. -/
lemma tail (t : Timed (h :: others) opened log) : Timed others opened log where
  numbers := (List.nodup_cons.mp t.numbers).2
  below h' mem := t.below h' (List.mem_cons_of_mem h mem)
  fresh := t.fresh
  agrees h' mem := t.agrees h' (List.mem_cons_of_mem h mem)
  faithful := t.faithful

/-- A call did not open a handle. -/
lemma next (t : Timed handles opened log) : Timed handles (opened + 1) log where
  numbers := t.numbers
  below h mem := Nat.lt_succ_of_lt (t.below h mem)
  fresh n pipeId le := t.fresh n pipeId (Nat.le_of_succ_le le)
  agrees := t.agrees
  faithful := t.faithful

/-- A handle is opened, with tables of zeros. -/
lemma open' (t : Timed handles opened log) (handle : Box H) :
    Timed (⟨opened, handle, .zeroed⟩ :: handles) (opened + 1) log where
  numbers := by
    rw [List.map_cons, List.nodup_cons]
    refine ⟨fun mem => ?_, t.numbers⟩
    obtain ⟨h, mem, number⟩ := List.mem_map.mp mem
    exact absurd (t.below h mem) (number ▸ Nat.lt_irrefl opened)
  below := by
    intro h mem
    rcases List.mem_cons.mp mem with rfl | old
    · exact Nat.lt_succ_self opened
    · exact t.next.below h old
  fresh := t.next.fresh
  agrees := by
    intro h mem pipeId accepted
    rcases List.mem_cons.mp mem with rfl | old
    · rw [t.fresh opened pipeId (Nat.le_refl opened)]
      exact ite_self 0
    · exact t.agrees h old pipeId accepted
  faithful := t.faithful

/-- The timeout of one pipe is set. -/
lemma set (t : Timed (h :: others) opened log) {pipeId : UInt8} (accepted : Accepted pipeId)
    (timeout : UInt32) :
    Timed ({ h with timeouts := h.timeouts.assign pipeId timeout } :: others) opened
      (.write (h.number, pipeId) timeout :: log) where
  numbers := t.numbers
  below := by
    intro h' mem
    rcases List.mem_cons.mp mem with rfl | old
    · exact t.below h List.mem_cons_self
    · exact t.below h' (List.mem_cons_of_mem h old)
  fresh := by
    intro n q le
    have lt := t.below h List.mem_cons_self
    have ne : (h.number, pipeId) ≠ (n, q) := fun eq =>
      Nat.lt_irrefl _ (lt.trans_le (le.trans_eq (congrArg Prod.fst eq).symm))
    rw [lastWrite_write_of_ne ne]
    exact t.fresh n q le
  agrees := by
    intro h' mem q acceptedQ
    rcases List.mem_cons.mp mem with rfl | old
    · show (h.timeouts.assign pipeId timeout).of q = _
      rw [Timeouts.assign_of accepted acceptedQ]
      split
      case isTrue same => rw [same, lastWrite_write_self]
      case isFalse other =>
        rw [lastWrite_write_of_ne fun eq => other (congrArg Prod.snd eq).symm]
        exact t.agrees h List.mem_cons_self q acceptedQ
    · -- the other handles have other numbers
      have ne : h.number ≠ h'.number := by
        intro eq
        have fresh : h.number ∉ others.map (·.number) := (List.nodup_cons.mp t.numbers).1
        exact fresh (List.mem_map.mpr ⟨h', old, eq.symm⟩)
      rw [lastWrite_write_of_ne fun eq => ne (congrArg Prod.fst eq)]
      exact t.agrees h' (List.mem_cons_of_mem h old) q acceptedQ
  faithful := t.faithful

/-- A transfer used the timeout that is in the tables. -/
lemma use (t : Timed handles opened log) (mem : h ∈ handles) {pipeId : UInt8}
    (accepted : Accepted pipeId) :
    Timed handles opened (.read (h.number, pipeId) (h.timeouts.of pipeId) :: log) where
  numbers := t.numbers
  below := t.below
  fresh := t.fresh
  agrees := t.agrees
  faithful := ⟨t.agrees h mem pipeId accepted, t.faithful⟩

end Timed

/-! ## The calls -/

/-- A transfer got to the operating system for an accepted ID, with the timeout of the tables. -/
def UsesTimeout (timeouts : Timeouts) (pipeId : UInt8) (r : Option Error × Option UInt32) : Prop :=
  ∀ t, r.2 = some t → Accepted pipeId ∧ t = timeouts.of pipeId

lemma sent_uses {ρ : Type} {timeoutOf : ρ → UInt32} {x : Prog Fault (Host κ) (PipeReply ρ)}
    {pipeId : UInt8} {timeouts : Timeouts} (passes : Yields x (PassesTimeout timeoutOf timeouts pipeId)) :
    Yields (sent timeoutOf x) (UsesTimeout timeouts pipeId) := by
  refine passes.bind fun reply passed => .pure fun t there => ?_
  obtain ⟨q, request, rfl⟩ := Option.map_eq_some_iff.mp there
  exact passed q request

/-- What the functions of a platform that keeps tables of timeouts do with them. -/
structure Api.Times (api : Api κ D I S H A) : Prop where
  setTimeout : ∀ handle timeouts pipeId timeout os,
    Yields (api.setTimeout os (some (handle, timeouts)) pipeId timeout)
      (SetsTable timeouts pipeId timeout)
  transfer : ∀ handle timeouts call,
    Yields (api.transfer (some (handle, timeouts)) call) (UsesTimeout timeouts call.pipeId)

/-- The handles of a client agree with its history. -/
def ClientState.Timed (c : ClientState κ D I S H) : Prop := Libusbp.Timed c.handles c.opened c.log

variable {api : Api κ D I S H A} {c c' : ClientState κ D I S H}

/-- A call of a function changes the host only. -/
lemma onHost_ok {x : Prog Fault (Host κ) α} {a : α} (run : onHost x c = .ok (a, c')) :
    ∃ s, x c.host = .ok (a, s) ∧ c' = { c with host := s } := zoom_ok run

namespace ClientState.Timed

/-- A call that hands objects over, if any, has nothing to do with timeouts. -/
lemma received {x : Prog Fault (Host κ) α} {objs : α → List (Obj D I S)} (timed : c.Timed)
    (run : (onHost x >>= fun a => receive (objs a)) c = .ok ((), c')) : c'.Timed := by
  obtain ⟨a, c₁, ran, last⟩ := bind_ok run
  obtain ⟨s, _, rfl⟩ := onHost_ok ran
  cases last
  exact timed

lemma open' {x : Prog Fault (Host κ) (Option Error × Option (Box H))} (timed : c.Timed)
    (run : (do
      let (error, handle) ← onHost x
      receive (handed error none)
      modify fun c => { c with
        handles := (handle.map fun handle => ⟨c.opened, handle, .zeroed⟩).toList ++ c.handles
        opened := c.opened + 1 } : Prog Fault (ClientState κ D I S H) Unit) c = .ok ((), c')) :
    c'.Timed := by
  obtain ⟨⟨error, handle⟩, c₁, ran, rest⟩ := bind_ok run
  obtain ⟨s, _, rfl⟩ := onHost_ok ran
  cases rest
  cases handle with
  | none => exact timed.next
  | some handle => exact Libusbp.Timed.open' timed handle

lemma setTimeout (times : api.Times) (timed : c.Timed) {i : Option Nat} {pipeId : UInt8}
    {timeout : UInt32} {os : A.Timeout}
    (run : api.step (.setTimeout i pipeId timeout os) c = .ok ((), c')) : c'.Timed := by
  cases there : c.handleAt i with
  | none =>
    have run : (onHost (api.setTimeout os none pipeId timeout) >>= fun r =>
        receive (handed r.1 none)) c = .ok ((), c') := by
      simpa only [Api.step, bind_of_ok get_ok, there] using run
    exact timed.received run
  | some found =>
    obtain ⟨h, others⟩ := found
    have timed' := Libusbp.Timed.perm timed (ClientState.handleAt_perm there)
    simp only [Api.step, bind_of_ok get_ok, there] at run
    obtain ⟨⟨error, timeouts⟩, c₁, ran, rest⟩ := bind_ok run
    obtain ⟨s, called, rfl⟩ := onHost_ok ran
    cases rest
    have sets := times.setTimeout h.handle h.timeouts pipeId timeout os _ _ _ called
    cases timeouts with
    | none =>
      show Libusbp.Timed _ _ (if (error.isNone && false) = true then _ else _)
      rw [Bool.and_false]
      exact timed'
    | some t =>
      have sets := sets t rfl
      cases error with
      | none =>
        obtain ⟨accepted, rfl⟩ := sets
        exact timed'.set accepted timeout
      | some e =>
        obtain rfl : t = h.timeouts := sets
        exact timed'

lemma transfer (times : api.Times) (timed : c.Timed) {i : Option Nat} {call : TransferCall A}
    (run : api.step (.transfer i call) c = .ok ((), c')) : c'.Timed := by
  cases there : c.handleAt i with
  | none =>
    have run : (onHost (api.transfer none call) >>= fun r => receive (handed r.1 none)) c =
        .ok ((), c') := by
      simpa only [Api.step, bind_of_ok get_ok, there] using run
    exact timed.received run
  | some found =>
    obtain ⟨h, others⟩ := found
    simp only [Api.step, bind_of_ok get_ok, there] at run
    obtain ⟨⟨error, timeout⟩, c₁, ran, rest⟩ := bind_ok run
    obtain ⟨s, called, rfl⟩ := onHost_ok ran
    cases rest
    have uses := times.transfer h.handle h.timeouts call _ _ _ called
    cases timeout with
    | none => exact timed
    | some t =>
      obtain ⟨accepted, rfl⟩ := uses t rfl
      exact Libusbp.Timed.use timed
        ((ClientState.handleAt_perm there).mem_iff.mpr List.mem_cons_self) accepted

lemma close (timed : c.Timed) {i : Option Nat}
    (run : api.step (.genericHandleClose i) c = .ok ((), c')) : c'.Timed := by
  cases there : c.handleAt i with
  | none =>
    have run : onHost (api.genericHandleClose none) c = .ok ((), c') := by
      simpa only [Api.step, bind_of_ok get_ok, there] using run
    obtain ⟨s, _, rfl⟩ := onHost_ok run
    exact timed
  | some found =>
    obtain ⟨h, others⟩ := found
    simp only [Api.step, bind_of_ok get_ok, there] at run
    obtain ⟨_, c₁, ran, rest⟩ := bind_ok run
    obtain ⟨s, _, rfl⟩ := onHost_ok ran
    cases rest
    exact (Libusbp.Timed.perm timed (ClientState.handleAt_perm there)).tail

lemma dispose (timed : c.Timed) {i : Nat} (run : api.step (.dispose i) c = .ok ((), c')) :
    c'.Timed := by
  cases there : c.held[i]? with
  | none =>
    simp only [Api.step, bind_of_ok get_ok, there] at run
    cases run
    exact timed
  | some obj =>
    simp only [Api.step, bind_of_ok get_ok, there] at run
    obtain ⟨_, c₁, ran, rest⟩ := bind_ok run
    obtain ⟨s, _, rfl⟩ := onHost_ok ran
    cases rest
    exact timed

end ClientState.Timed

/-- Every call that returns keeps the invariant. -/
lemma Api.Times.step (times : api.Times) {call : ClientCall A} {r : Unit} (timed : c.Timed)
    (run : api.step call c = .ok (r, c')) : c'.Timed := by
  cases call with
  | make call =>
    rw [Api.step, bind_of_ok get_ok] at run
    exact timed.received run
  | ask call =>
    rw [Api.step, bind_of_ok get_ok] at run
    exact timed.received run
  | listConnectedDevices deviceList deviceCount os => exact timed.received run
  | genericHandleOpen gi output os => exact timed.open' run
  | setTimeout i pipeId timeout os => exact timed.setTimeout times run
  | transfer i call => exact timed.transfer times run
  | genericHandleClose i => exact timed.close run
  | dispose i => exact timed.dispose run
  | disposeNull kind =>
    obtain ⟨s, _, rfl⟩ := onHost_ok run
    exact timed

/-- A client at the start. -/
def ClientState.start (grant : Nat → Bool) : ClientState κ D I S H :=
  ⟨⟨⟨grant, 0, []⟩, 0, []⟩, [], [], 0, []⟩

lemma ClientState.start_timed (grant : Nat → Bool) :
    (.start grant : ClientState κ D I S H).Timed where
  numbers := List.nodup_nil
  below := by rintro _ ⟨⟩
  fresh := fun _ _ _ => rfl
  agrees := by rintro _ ⟨⟩
  faithful := trivial

/-- Every transfer that got to the operating system had the timeout that was set last for its handle
and its pipe, or 0. -/
def TransfersTimed (c : ClientState κ D I S H) : Prop :=
  ∀ newer older n pipeId timeout, c.log = newer ++ .read (n, pipeId) timeout :: older →
    timeout = lastWrite 0 (n, pipeId) older

/-- In every run that returns, the transfers used the timeouts that were set. -/
lemma Api.Times.run (times : api.Times) {calls : List (ClientCall A)} {rs : List Unit}
    {grant : Nat → Bool} (run : Machine.run api.step calls (.start grant) = .ok (rs, c)) :
    TransfersTimed c := by
  have timed : c.Timed :=
    Machine.run_inv (fun _ _ _ _ _ timed step => times.step timed step) (ClientState.start_timed grant) run
  intro newer older n pipeId timeout log
  have faithful := Libusbp.Timed.faithful timed
  rw [log] at faithful
  exact faithful.read

end Libusbp
