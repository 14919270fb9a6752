import Libusbp.Lib.Delivery
import Libusbp.Mac.Pipes

/-!
# The loop that handles events on macOS

`generic_handle_events` receives messages from the port of the handle until there is none left. A round
that goes on delivers the message about one read that was accepted, and no round starts a read, so the
number of rounds is bounded whatever is reported in the meantime.
-/

namespace Libusbp.Mac

open Prog Heap

/-- The systems that calls lead to from a handle on which nothing is open. -/
def Reachable (s : Sys) : Prop :=
  ∃ handle, Machine.Reach backend.step (Initial handle) s

lemma Reachable.inv {s : Sys} (reach : Reachable s) : Inv s.dev := by
  obtain ⟨handle, s₀, es, rs, init, run⟩ := reach
  exact (init.sysInv.run run).inv

variable {d d' d₁ : Dev} {t : Addr} {T : Transfer}

/-- What a message says about the read into a transfer. -/
structure Message where
  transfer : Addr
  kr : UInt32
  count : Nat
  data : Bytes

/-- The transfer took over what the message says: it is not pending any more, and it holds an error
exactly if the read failed. -/
def Message.Ended (m : Message) (T T' : Transfer) : Prop :=
  m.count ≤ T.size ∧ ∃ error, (error ≠ none ↔ m.kr ≠ kernSuccess) ∧
    T' = T.ended m.count m.data error

/-- Messages to the transfers of a handle. A callback finds its transfer pending, with no error and no
byte count. -/
def delivery : Delivery Dev Addr Transfer Message (Call UInt32 Completed) where
  waiting d := d.kernel.inFlight
  slots d := d.transfers
  log d := d.calls
  target m := m.transfer
  entry m := .complete m.transfer ⟨m.kr, m.count, m.data, true, none, 0⟩
  after := Message.Ended

/-! ## One round -/

/-- The next answer to a call. -/
def Kernel.next (k : Kernel) : Turn := k.plan k.calls

/-- The kernel after one more call. -/
def Kernel.ticked (k : Kernel) : Kernel := { k with calls := k.calls + 1 }

/-- What `mach_msg` returns, when no message is received, and otherwise the transfer that the message is
about. -/
def Kernel.receive (k : Kernel) : UInt32 ⊕ Addr :=
  if k.next.result ≠ machMsgSuccess then .inl k.next.result
  else match k.inFlight[k.next.pick]? with
    | none => .inl machRcvTimedOut
    | some t => .inr t

/-- What a round does. -/
inductive Round (d : Dev) : Option (Option Error) → Dev → Prop where
  | failed {mr : UInt32} {e : Error} {h : Heap} : d.kernel.receive = .inl mr →
    mr ≠ machRcvTimedOut → Round d (some (some e)) { d with heap := h, kernel := d.kernel.ticked }
  | nothing : d.kernel.receive = .inl machRcvTimedOut →
    Round d (some none) { d with kernel := d.kernel.ticked }
  | delivered {m : Message} {d' : Dev} : d.kernel.receive = .inr m.transfer →
    delivery.One d m d' → Inv d' → d'.kernel.plan = d.kernel.plan →
    d'.kernel.calls = d.kernel.calls + 1 → Round d none d'

/-- The callback of a transfer takes over what the message says. -/
lemma wp_callback_ended (inv : Inv d) (hT : d.transfers t = some T) (mem : t ∈ d.kernel.inFlight)
    (kr : UInt32) (count : Nat) (data : Bytes) :
    wp (asyncInTransferCallback (some t) kr count) (fun _ d' => ∃ h error,
      (error ≠ none ↔ kr ≠ kernSuccess) ∧ d' =
        { d.received t T kr count data with
          heap := h
          transfers := Function.update d.transfers t (some (T.ended count data error)) })
      (d.received t T kr count data) := by
  have pend : T.pending = true := (inv.mem_inFlight hT).mp mem
  obtain ⟨noError, zero⟩ := (inv.wf t T hT).clean pend
  have load : (d.received t T kr count data).transfers t = some (T.filled count data) :=
    Function.update_self ..
  have written : ∀ error, Function.update (d.received t T kr count data).transfers t
      (some (T.ended count data error)) =
        Function.update d.transfers t (some (T.ended count data error)) :=
    fun _ => Function.update_idem ..
  simp only [asyncInTransferCallback, wp_bind]
  rw [wp_loadTransfer load]
  simp only [wp_check]
  refine ⟨pend, by simp [Transfer.filled, noError], by simp [Transfer.filled, zero], ?_⟩
  apply wp_ite
  · intro failed
    rw [wp_bind]
    apply wp_createMach
    intro e h' _ _
    simp only [wp_bind, storeTransfer, wp_modify]
    refine (wp_loadTransfer (T := T.filled count data) ?_).mpr ?_
    · exact load
    · refine ⟨h', some e, by simp [failed], ?_⟩
      rw [← written]
      rfl
  · intro success
    simp only [wp_bind, wp_pure, storeTransfer, wp_modify]
    rw [wp_loadTransfer load]
    refine ⟨d.heap, none, by simpa using success, ?_⟩
    rw [← written]
    rfl

/-- What `mach_msg` does is what the operating system answers next. -/
inductive Receives (d : Dev) : MachMsg → Dev → Prop where
  | failed {mr : UInt32} {msghSize : Nat} : d.kernel.receive = .inl mr →
    Receives d (.failed mr msghSize) { d with kernel := d.kernel.ticked }
  | received {t : Addr} {T : Transfer} {kr : UInt32} {count : Nat} {data : Bytes} :
    d.kernel.receive = .inr t → d.transfers t = some T → t ∈ d.kernel.inFlight → count ≤ T.size →
    Receives d (.received t kr count)
      (Dev.received { d with kernel := d.kernel.ticked } t T kr count data)

lemma wp_machMsg_receives (inv : Inv d) : wp machMsg (Receives d) d := by
  simp only [machMsg, call, wp_bind, wp_get, wp_set, wp_pure]
  apply wp_ite
  · intro failed
    rw [wp_pure]
    exact .failed (if_pos failed)
  intro succeeded
  change ¬d.kernel.next.result ≠ machMsgSuccess at succeeded
  cases pick : d.kernel.inFlight[d.kernel.next.pick]? with
  | none =>
    have receive : d.kernel.receive = .inl machRcvTimedOut := by
      rw [Kernel.receive, if_neg succeeded, pick]
    rw [show d.kernel.plan d.kernel.calls = d.kernel.next from rfl, pick]
    exact wp_pure.mpr (.failed receive)
  | some t =>
    have receive : d.kernel.receive = .inr t := by
      rw [Kernel.receive, if_neg succeeded, pick]
    have mem := List.mem_of_getElem? pick
    obtain ⟨T, hT, _⟩ := (inv.owned t).mp mem
    rw [show d.kernel.plan d.kernel.calls = d.kernel.next from rfl, pick]
    simp only [storeTransfer, wp_bind]
    refine (wp_loadTransfer (T := T) ?_).mpr ?_
    · exact hT
    simp only [wp_modify, wp_pure]
    exact .received receive hT mem (min_le_right _ _)

lemma wp_round (inv : Inv d) : wp receiveAndDispatch (Round d) d := by
  have inv₁ : Inv { d with kernel := d.kernel.ticked } := inv.same (Le.refl _) rfl
  rw [receiveAndDispatch, wp_bind]
  apply wp_mono (wp_machMsg_receives inv)
  intro msg d₁ receives
  cases receives with
  | @failed mr msghSize receive =>
    apply wp_ite
    · rintro rfl
      exact wp_pure.mpr (.nothing receive)
    intro other
    apply wp_ite
    · intro _
      simp only [wp_bind, wp_pure]
      apply wp_onHeap_made (made_create _ _)
      exact fun e h' _ _ => .failed receive other
    · intro _
      simp only [wp_bind, wp_pure]
      apply wp_createMach
      exact fun e h' _ _ => .failed receive other
  | @received t T kr count data receive hT mem le =>
    have pend := (inv.mem_inFlight hT).mp mem
    obtain ⟨noError, zero⟩ := (inv.wf t T hT).clean pend
    have ended := (wp_callback inv₁ hT mem le).and (wp_callback_ended inv₁ hT mem kr count data)
    rw [wp_bind]
    apply wp_mono ended
    rintro _ _ ⟨handled, h, error, failed, rfl⟩
    refine wp_pure.mpr (.delivered (m := ⟨t, kr, count, data⟩) receive ?_ handled.inv rfl rfl)
    refine ⟨mem, ⟨T, _, hT, ⟨le, error, failed, rfl⟩, rfl⟩, ?_, rfl⟩
    show Call.complete t ⟨kr, count, data, T.pending, T.error, T.transferred⟩ :: d.calls = _
    rw [show T.pending = true from pend, noError, zero]
    rfl

/-! ## The rounds of a call -/

/-- The rounds of the loop so far delivered the messages `ms`, the first one first. -/
inductive Rounds (d : Dev) : List Message → Dev → Prop where
  | start : Rounds d [] d
  | more {ms : List Message} {m : Message} {d₁ d₂ : Dev} : Rounds d ms d₁ →
    d₁.kernel.receive = .inr m.transfer → delivery.One d₁ m d₂ → Inv d₂ →
    d₂.kernel.plan = d₁.kernel.plan → d₂.kernel.calls = d₁.kernel.calls + 1 →
    Rounds d (ms ++ [m]) d₂

/-- By induction on the rounds, what each of them received it delivered. -/
lemma Rounds.all {ms : List Message} (inv : Inv d) (rounds : Rounds d ms d₁) :
    Inv d₁ ∧ delivery.All d ms d₁ ∧ d₁.kernel.plan = d.kernel.plan ∧
      d₁.kernel.calls = d.kernel.calls + ms.length := by
  induction rounds with
  | start => exact ⟨inv, .refl, rfl, rfl⟩
  | more _ _ one inv₂ plan calls ih =>
    refine ⟨inv₂, ih.2.1.more inv.nodup one, plan.trans ih.2.2.1, ?_⟩
    rw [calls, ih.2.2.2, List.length_append, Nat.add_assoc]
    rfl

/-- The last round of a call, which leaves the loop. -/
inductive LastRound (d : Dev) : Option Error → Dev → Prop where
  | failed {mr : UInt32} {e : Error} {h : Heap} : d.kernel.receive = .inl mr →
    mr ≠ machRcvTimedOut → LastRound d (some e) { d with heap := h, kernel := d.kernel.ticked }
  | nothing : d.kernel.receive = .inl machRcvTimedOut →
    LastRound d none { d with kernel := d.kernel.ticked }

/-- With enough rounds for all reads that were not reported and one more, the loop is left. -/
lemma wp_eventLoop (inv : Inv d) {rounds : Nat}
    (enough : d.kernel.inFlight.length + 1 ≤ rounds) :
    wp (loop .endless receiveAndDispatch rounds)
      (fun error d' => ∃ ms d₁, Rounds d ms d₁ ∧ LastRound d₁ error d') d := by
  apply wp_loop (fun d₁ => ∃ ms, Rounds d ms d₁) fun d₁ => d₁.kernel.inFlight.length
  · rintro d₁ ⟨ms, rounds⟩
    apply wp_mono (wp_round (rounds.all inv).1)
    intro r d₂ round
    cases round with
    | failed receive other => exact ⟨ms, d₁, rounds, .failed receive other⟩
    | nothing receive => exact ⟨ms, d₁, rounds, .nothing receive⟩
    | @delivered m _ receive one inv₂ plan calls =>
      refine ⟨⟨ms ++ [m], rounds.more receive one inv₂ plan calls⟩, ?_⟩
      have shorter : (d₁.kernel.inFlight.erase m.transfer).length = d₁.kernel.inFlight.length - 1 :=
        List.length_erase_of_mem one.mem
      rw [show d₂.kernel.inFlight = d₁.kernel.inFlight.erase m.transfer from one.waiting, shorter]
      exact Nat.sub_lt (List.length_pos_of_mem one.mem) Nat.one_pos
  · exact enough
  · exact ⟨[], .start⟩

/-- The operating system says that there is no message only if no read that it has not reported ended
before. -/
def Prompt (ended : Nat → Addr → Prop) (d : Dev) : Prop :=
  ∀ ms d₁, Rounds d ms d₁ → d₁.kernel.receive = .inl machRcvTimedOut →
    ∀ t ∈ d₁.kernel.inFlight, ¬ended d₁.kernel.calls t

/-- Handling events ends after at most one call of `mach_msg` for every read that was not reported and
one more, whatever the operating system answers. Every message that was received got to its own
transfer, exactly once, also if the last call fails, and nothing else has changed. If there is no error,
an operating system that is prompt has no read left that ended. -/
theorem machMessages_delivered {s : Sys} (reach : Reachable s) (handle : Handle) :
    ∃ error ms d', genericHandleEvents (some handle) s.dev = .ok (error, d') ∧
      (∀ rounds, s.dev.kernel.inFlight.length + 1 ≤ rounds →
        loop .endless receiveAndDispatch rounds s.dev = .ok (error, d')) ∧
      delivery.All s.dev ms d' ∧ d'.kernel.calls = s.dev.kernel.calls + (ms.length + 1) ∧
      ms.length + 1 ≤ s.dev.kernel.inFlight.length + 1 ∧
      (error = none → ∀ ended, Prompt ended s.dev →
        ∀ t ∈ s.dev.kernel.inFlight, ended (d'.kernel.calls - 1) t → t ∈ ms.map (·.transfer)) := by
  have inv := reach.inv
  obtain ⟨error, d', run, ms, d₁, rounds, last⟩ :=
    wp_eventLoop inv (Nat.le_refl (s.dev.kernel.inFlight.length + 1))
  obtain ⟨_, all, _, calls⟩ := rounds.all inv
  have same : d'.calls = d₁.calls ∧ d'.transfers = d₁.transfers ∧ d'.kernel = d₁.kernel.ticked := by
    cases last with
    | failed => exact ⟨rfl, rfl, rfl⟩
    | nothing => exact ⟨rfl, rfl, rfl⟩
  obtain ⟨log, slots, kernel⟩ := same
  have count : d'.kernel.calls = s.dev.kernel.calls + (ms.length + 1) := by
    rw [kernel, ← Nat.add_assoc, ← calls]
    rfl
  have waiting : d'.kernel.inFlight = d₁.kernel.inFlight := by
    rw [kernel]
    rfl
  refine ⟨error, ms, d', run, fun rounds' le => loop_ok_of_le le run, all.congr log slots waiting,
    count, Nat.succ_le_succ all.length_le, ?_⟩
  rintro rfl ended prompt t mem before
  cases last with
  | nothing receive =>
    -- the last call came after the rounds, so it was made in `d₁`
    rw [count, ← Nat.add_assoc, Nat.add_sub_cancel, ← calls] at before
    rcases List.mem_append.mp (all.waiting.mem_iff.mp mem) with delivered | left
    · exact delivered
    · exact absurd before (prompt ms d₁ rounds receive t left)

/-- An operating system that answers every call with the oldest message leaves none behind. -/
lemma prompt_of_plan (inv : Inv d) (oldest : ∀ i ≤ d.kernel.inFlight.length,
    (d.kernel.plan (d.kernel.calls + i)).result = machMsgSuccess ∧
      (d.kernel.plan (d.kernel.calls + i)).pick = 0) : Prompt (fun _ _ => True) d := by
  intro ms d₁ rounds receive t mem
  obtain ⟨_, all, plan, calls⟩ := rounds.all inv
  obtain ⟨result, pick⟩ := oldest ms.length all.length_le
  rw [← calls, ← plan] at result pick
  cases flight : d₁.kernel.inFlight with
  | nil =>
    rw [flight] at mem
    cases mem
  | cons u us => simp [Kernel.receive, Kernel.next, result, pick, flight] at receive

/-- Whether two reads are waiting, which the next messages are about. -/
def twoToReceive (s : Sys) : Bool :=
  s.dev.kernel.inFlight.length == 2 && (List.range 3).all (fun i =>
    (s.dev.kernel.plan (s.dev.kernel.calls + i)).result == machMsgSuccess &&
      (s.dev.kernel.plan (s.dev.kernel.calls + i)).pick == 0) &&
    match genericHandleEvents (some ⟨3⟩) s.dev with
    | .ok (error, _) => error.isNone
    | .error _ => false

/-- Two reads were accepted and ended, and both are delivered. -/
theorem machMessages_delivered_example : ∃ s, Reachable s ∧
    s.dev.kernel.inFlight.length = 2 ∧ Prompt (fun _ _ => True) s.dev ∧
    ∃ ms d', genericHandleEvents (some ⟨3⟩) s.dev = .ok (none, d') ∧ delivery.All s.dev ms d' ∧
      ∀ t ∈ s.dev.kernel.inFlight, t ∈ ms.map (·.transfer) := by
  have whole : Machine.passes backend.step [.create 0x81, .allocateTransfers 1 2 8,
      .startEndlessTransfers 1] (exampleSystem fun _ => ⟨kernSuccess, 0, 0, kernSuccess, 4, fun _ => 0⟩)
      (fun _ s => twoToReceive s) = true := by decide +kernel
  obtain ⟨rs, s, run, test⟩ := Machine.run_of_passes whole
  have reach : Reachable s := ⟨_, _, _, _, exampleSystem_initial _, run⟩
  simp only [twoToReceive, Bool.and_eq_true, beq_iff_eq, List.all_eq_true, List.mem_range] at test
  obtain ⟨⟨two, oldest⟩, success⟩ := test
  have prompt : Prompt (fun _ _ => True) s.dev := by
    refine prompt_of_plan reach.inv fun i le => oldest i ?_
    rw [two] at le
    exact Nat.lt_succ_of_le le
  obtain ⟨error, ms, d', ran, _, all, _, _, left⟩ := machMessages_delivered reach ⟨3⟩
  rw [ran] at success
  obtain rfl : error = none := Option.isNone_iff_eq_none.mp success
  exact ⟨s, reach, two, prompt, ms, d', ran, all,
    fun t mem => left rfl (fun _ _ => True) prompt t mem trivial⟩

end Libusbp.Mac
