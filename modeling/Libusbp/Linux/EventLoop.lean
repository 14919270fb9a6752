import Libusbp.Linux.Outputs

/-!
# The loop that handles events

`generic_handle_events` reaps URBs until there is none left. A round that goes on takes one URB from
those that the kernel owns, and no round gives it a new one, so the number of rounds is bounded whatever
the kernel completes in the meantime. `Rounds` are the rounds so far with what they delivered.
-/

namespace Libusbp.Linux

open Prog Heap

variable {d d' d₁ : Dev} {t : Addr} {T : Transfer} {c : Completion} {fd : Int}

/-! ## One round -/

/-- The answer of the kernel to a reap call. -/
inductive Reap where
  | failed (errno : Int)
  | nothing
  | returned (t : Addr) (c : Completion)

def Kernel.reap (k : Kernel) (fd : Int) : Reap :=
  match (k.answer fd).errno, k.inFlight[(k.answer fd).pick]? with
  | some errno, _ => if errno = eagain then .nothing else .failed errno
  | none, none => .nothing
  | none, some t => .returned t (k.answer fd).completion

/-- The kernel after one more call. -/
def Kernel.ticked (k : Kernel) : Kernel := { k with ioctls := k.ioctls + 1 }

/-- The URB of the transfer `t` was reaped, and the transfer took over what the kernel reported. -/
structure Delivered (d : Dev) (t : Addr) (c : Completion) (d' : Dev) : Prop where
  transfers : ∃ T error, d.transfers t = some T ∧ (error ≠ none ↔ c.status ≠ 0 ∨ c.errorCount ≠ 0) ∧
    d'.transfers = Function.update d.transfers t
      (some { T with urb := T.urb.returned c, pending := false, error := error })
  calls : d'.calls = .complete t ⟨c, true, none⟩ :: d.calls
  kernel : d'.kernel = { d.kernel.ticked with inFlight := d.kernel.inFlight.erase t }

/-- What a round does. -/
inductive Round (fd : Int) (d : Dev) : Option (Option Error) → Dev → Prop where
  | failed {errno : Int} {e : Error} {h : Heap} : d.kernel.reap fd = .failed errno →
    Round fd d (some (some e)) { d with heap := h, kernel := d.kernel.ticked }
  | nothing : d.kernel.reap fd = .nothing →
    Round fd d (some none) { d with kernel := d.kernel.ticked }
  | delivered {t : Addr} {c : Completion} {d' : Dev} : d.kernel.reap fd = .returned t c →
    t ∈ d.kernel.inFlight → Delivered d t c d' → Inv d' → Round fd d none d'

/-- A completed URB is recognized, and its transfer takes over what the kernel reported. -/
lemma wp_handleReaped (inv : Inv d) (hT : d.transfers t = some T) (mem : t ∈ d.kernel.inFlight)
    (c : Completion) : wp (handleCompletedUrb t) (fun r d' => r = none ∧
      d'.kernel = (d.gaveBack t T c).kernel ∧ d'.calls = .complete t ⟨c, true, none⟩ :: d.calls ∧
      ∃ error, (error ≠ none ↔ c.status ≠ 0 ∨ c.errorCount ≠ 0) ∧
        d'.transfers = Function.update d.transfers t
          (some { T with urb := T.urb.returned c, pending := false, error := error }))
      (d.gaveBack t T c) := by
  have wf := inv.wf t T hT
  have pend := (inv.mem_inFlight hT).mp mem
  apply wp_recognized wf
  intro error h' _ _ noError
  refine ⟨rfl, rfl, ?_, error, ?_, rfl⟩
  · rw [Dev.gaveBack, show T.pending = true from pend, wf.clean pend]
  · rw [Ne, noError]
    exact not_and_or

lemma wp_round (inv : Inv d) (fd : Int) : wp (reapAndHandle fd) (Round fd d) d := by
  simp only [reapAndHandle, usbfdReapUrb, wp_bind]
  rw [wp_ioctl_answer]
  simp only [wp_get]
  cases errno : (d.kernel.answer fd).errno with
  | some errno' =>
    apply wp_ite
    · intro again
      simp only [wp_pure]
      exact .nothing (by simp [Kernel.reap, errno, again])
    · intro other
      simp only [wp_bind, wp_pure]
      apply wp_createErrno
      intro e h' _ _
      have answer : d.kernel.reap fd = .failed errno' := by simp [Kernel.reap, errno, other]
      rw [wp_pure]
      exact .failed answer
  | none =>
    cases pick : d.kernel.inFlight[(d.kernel.answer fd).pick]? with
    | none =>
      simp only [wp_pure]
      exact .nothing (by simp [Kernel.reap, errno, pick])
    | some t =>
      have mem := List.mem_of_getElem? pick
      obtain ⟨T, hT, _⟩ := (inv.owned t).mp mem
      have answer : d.kernel.reap fd = .returned t (d.kernel.answer fd).completion := by
        simp [Kernel.reap, errno, pick]
      have inv₁ : Inv { d with kernel := d.kernel.ticked } := inv.same (Le.refl _) rfl
      simp only [wp_bind, returnUrb, wp_pure]
      refine (wp_loadTransfer (T := T) ?_).mpr ?_
      · exact hT
      simp only [storeTransfer, wp_modify]
      have handled := (wp_handleCompletedUrb inv₁ hT mem (d.kernel.answer fd).completion).and
        (wp_handleReaped inv₁ hT mem (d.kernel.answer fd).completion)
      apply wp_mono handled
      rintro _ d' ⟨⟨rfl, handled⟩, -, kernel, calls, error, iff, transfers⟩
      rw [wp_pure]
      exact .delivered answer mem ⟨⟨T, error, hT, iff, transfers⟩, calls, kernel⟩ handled.inv

/-! ## The rounds of a call -/

/-- The rounds of the loop so far delivered the completions `cs`, the first one first. -/
inductive Rounds (fd : Int) (d : Dev) : List (Addr × Completion) → Dev → Prop where
  | start : Rounds fd d [] d
  | more {cs : List (Addr × Completion)} {t : Addr} {c : Completion} {d₁ d₂ : Dev} :
    Rounds fd d cs d₁ → d₁.kernel.reap fd = .returned t c → t ∈ d₁.kernel.inFlight →
    Delivered d₁ t c d₂ → Inv d₂ → Rounds fd d (cs ++ [(t, c)]) d₂

/-- The completions `cs` were delivered, each of them once and to its own transfer, and nothing else
happened to the transfers and to the URBs that the kernel owns. -/
structure DeliveredAll (d : Dev) (cs : List (Addr × Completion)) (d' : Dev) : Prop where
  calls : d'.calls = (cs.map fun x => .complete x.1 ⟨x.2, true, none⟩).reverse ++ d.calls
  nodup : (cs.map Prod.fst).Nodup
  inFlight : d.kernel.inFlight.Perm (cs.map Prod.fst ++ d'.kernel.inFlight)
  delivered : ∀ x ∈ cs, ∃ T error, d.transfers x.1 = some T ∧
    (error ≠ none ↔ x.2.status ≠ 0 ∨ x.2.errorCount ≠ 0) ∧ d'.transfers x.1 =
      some { T with urb := T.urb.returned x.2, pending := false, error := error }
  others : ∀ t, t ∉ cs.map Prod.fst → d'.transfers t = d.transfers t

variable {cs : List (Addr × Completion)}

namespace DeliveredAll

lemma refl : DeliveredAll d [] d where
  calls := rfl
  nodup := List.nodup_nil
  inFlight := List.Perm.refl _
  delivered := by simp
  others _ _ := rfl

/-- Besides the kernel's own count and the heap, nothing but these matters. -/
lemma congr {d₂ : Dev} (all : DeliveredAll d cs d') (calls : d₂.calls = d'.calls)
    (transfers : d₂.transfers = d'.transfers)
    (inFlight : d₂.kernel.inFlight = d'.kernel.inFlight) : DeliveredAll d cs d₂ := by
  refine ⟨?_, all.nodup, ?_, ?_, ?_⟩
  · rw [calls, all.calls]
  · rw [inFlight]
    exact all.inFlight
  · rw [transfers]
    exact all.delivered
  · rw [transfers]
    exact all.others

/-- One more. -/
lemma more (inv : Inv d) (all : DeliveredAll d cs d₁) (mem : t ∈ d₁.kernel.inFlight)
    (one : Delivered d₁ t c d') : DeliveredAll d (cs ++ [(t, c)]) d' := by
  obtain ⟨T, error, hT, iff, transfers⟩ := one.transfers
  have inFlight : d.kernel.inFlight.Perm
      ((cs ++ [(t, c)]).map Prod.fst ++ d'.kernel.inFlight) := by
    rw [one.kernel, List.map_append, List.append_assoc]
    exact all.inFlight.trans ((List.perm_cons_erase mem).append_left _)
  have distinct : (cs.map Prod.fst ++ [t]).Nodup := by
    have nodup := inFlight.nodup inv.nodup
    rw [List.map_append] at nodup
    exact nodup.of_append_left
  have new : t ∉ cs.map Prod.fst := by
    intro old
    exact (List.nodup_append.mp distinct).2.2 t old t List.mem_cons_self rfl
  refine ⟨?_, by rw [List.map_append]; exact distinct, inFlight, ?_, ?_⟩
  · rw [one.calls, all.calls, List.map_append, List.reverse_append]
    rfl
  · intro x hx
    rcases List.mem_append.mp hx with old | last
    · obtain ⟨T', error', hT', iff', transfers'⟩ := all.delivered x old
      refine ⟨T', error', hT', iff', ?_⟩
      rw [transfers, Function.update_of_ne, transfers']
      rintro rfl
      exact new (List.mem_map_of_mem old)
    · rw [List.mem_singleton.mp last]
      exact ⟨T, error, (all.others t new).symm.trans hT, iff, by rw [transfers, Function.update_self]⟩
  · intro u hu
    rw [List.map_append, List.mem_append, not_or] at hu
    rw [transfers, Function.update_of_ne, all.others u hu.1]
    rintro rfl
    exact hu.2 List.mem_cons_self

end DeliveredAll

namespace Rounds

/-- By induction on the rounds, what each of them took from the kernel it delivered. -/
lemma all (inv : Inv d) (rounds : Rounds fd d cs d₁) :
    Inv d₁ ∧ DeliveredAll d cs d₁ ∧ d₁.kernel.ioctls = d.kernel.ioctls + cs.length := by
  induction rounds with
  | start => exact ⟨inv, .refl, rfl⟩
  | more _ _ mem one inv₂ ih =>
    refine ⟨inv₂, ih.2.1.more inv mem one, ?_⟩
    rw [one.kernel, List.length_append]
    show _ + 1 = _ + (_ + 1)
    rw [ih.2.2, Nat.add_assoc]

/-- The kernel goes on as planned. -/
lemma plan (rounds : Rounds fd d cs d₁) : d₁.kernel.plan = d.kernel.plan := by
  induction rounds with
  | start => rfl
  | more _ _ _ one _ ih =>
    rw [one.kernel]
    exact ih

end Rounds

/-- The last round of a call, which leaves the loop. -/
inductive LastRound (fd : Int) (d : Dev) : Option Error → Dev → Prop where
  | failed {errno : Int} {e : Error} {h : Heap} : d.kernel.reap fd = .failed errno →
    LastRound fd d (some e) { d with heap := h, kernel := d.kernel.ticked }
  | nothing : d.kernel.reap fd = .nothing →
    LastRound fd d none { d with kernel := d.kernel.ticked }

/-- With enough rounds for all URBs that the kernel owns and one more, the loop is left. -/
lemma wp_eventLoop (inv : Inv d) (fd : Int) {rounds : Nat}
    (enough : d.kernel.inFlight.length + 1 ≤ rounds) :
    wp (loop .endless (reapAndHandle fd) rounds)
      (fun error d' => ∃ cs d₁, Rounds fd d cs d₁ ∧ LastRound fd d₁ error d') d := by
  apply wp_loop (fun d₁ => ∃ cs, Rounds fd d cs d₁) fun d₁ => d₁.kernel.inFlight.length
  · rintro d₁ ⟨cs, rounds⟩
    apply wp_mono (wp_round (rounds.all inv).1 fd)
    intro r d₂ round
    cases round with
    | failed answer => exact ⟨cs, d₁, rounds, .failed answer⟩
    | nothing answer => exact ⟨cs, d₁, rounds, .nothing answer⟩
    | @delivered t c _ answer mem one inv₂ =>
      refine ⟨⟨cs ++ [(t, c)], rounds.more answer mem one inv₂⟩, ?_⟩
      rw [one.kernel]
      show (d₁.kernel.inFlight.erase t).length < _
      rw [List.length_erase_of_mem mem]
      exact Nat.sub_lt (List.length_pos_of_mem mem) Nat.one_pos
  · exact enough
  · exact ⟨[], .start⟩

/-- The kernel says that there is nothing to reap only if no URB that it owns was completed before. -/
def Prompt (completed : Nat → Addr → Prop) (fd : Int) (d : Dev) : Prop :=
  ∀ cs d₁, Rounds fd d cs d₁ → d₁.kernel.reap fd = .nothing →
    ∀ t ∈ d₁.kernel.inFlight, ¬completed d₁.kernel.ioctls t

/-- Handling events ends after at most one reap call for every URB in flight and one more, whatever the
kernel answers. What was reaped was delivered once, also if the last reap call fails, and what was not
is still in flight. If there is no error, a kernel that is prompt has no completed URB left. -/
theorem genericHandleEvents_delivers {s : Sys} (reach : Reachable s) (handle : Handle) :
    ∃ error cs d', genericHandleEvents (some handle) s.dev = .ok (error, d') ∧
      (∀ rounds, s.dev.kernel.inFlight.length + 1 ≤ rounds →
        loop .endless (reapAndHandle handle.descriptor) rounds s.dev = .ok (error, d')) ∧
      DeliveredAll s.dev cs d' ∧ d'.kernel.ioctls = s.dev.kernel.ioctls + (cs.length + 1) ∧
      cs.length + 1 ≤ s.dev.kernel.inFlight.length + 1 ∧
      (error = none → ∀ completed, Prompt completed handle.descriptor s.dev →
        ∀ t ∈ s.dev.kernel.inFlight, completed (d'.kernel.ioctls - 1) t → t ∈ cs.map Prod.fst) := by
  obtain ⟨_, sysInv⟩ := reach.sysInv
  have inv : Inv s.dev := sysInv.inv
  obtain ⟨error, d', run, cs, d₁, rounds, last⟩ :=
    wp_eventLoop inv handle.descriptor (Nat.le_refl (s.dev.kernel.inFlight.length + 1))
  obtain ⟨_, all, ioctls⟩ := rounds.all inv
  have few : cs.length ≤ s.dev.kernel.inFlight.length := by
    rw [all.inFlight.length_eq, List.length_append, List.length_map]
    exact Nat.le_add_right _ _
  have same : d'.calls = d₁.calls ∧ d'.transfers = d₁.transfers ∧ d'.kernel = d₁.kernel.ticked := by
    cases last with
    | failed => exact ⟨rfl, rfl, rfl⟩
    | nothing => exact ⟨rfl, rfl, rfl⟩
  obtain ⟨calls, transfers, kernel⟩ := same
  have count : d'.kernel.ioctls = s.dev.kernel.ioctls + (cs.length + 1) := by
    rw [kernel, ← Nat.add_assoc, ← ioctls]
    rfl
  refine ⟨error, cs, d', run, fun rounds' le => loop_ok_of_le le run,
    all.congr calls transfers (by rw [kernel]; rfl), count, Nat.succ_le_succ few, ?_⟩
  rintro rfl completed prompt t mem before
  cases last with
  | nothing answer =>
    -- the last call came after the rounds, so it was made in `d₁`
    rw [count, ← Nat.add_assoc, Nat.add_sub_cancel, ← ioctls] at before
    rcases List.mem_append.mp (all.inFlight.mem_iff.mp mem) with delivered | left
    · exact delivered
    · exact absurd before (prompt cs d₁ rounds answer t left)

/-- A kernel that returns the oldest URB at every call leaves none behind. -/
lemma prompt_of_plan (inv : Inv d) (oldest : ∀ i ≤ d.kernel.inFlight.length,
    (d.kernel.plan (d.kernel.ioctls + i)).errno = none ∧
      (d.kernel.plan (d.kernel.ioctls + i)).pick = 0) : Prompt (fun _ _ => True) fd d := by
  intro cs d₁ rounds answer t mem
  obtain ⟨_, all, ioctls⟩ := rounds.all inv
  have few : cs.length ≤ d.kernel.inFlight.length := by
    rw [all.inFlight.length_eq, List.length_append, List.length_map]
    exact Nat.le_add_right _ _
  have turn := oldest cs.length few
  rw [← ioctls, ← rounds.plan] at turn
  have pick : (d₁.kernel.answer fd).pick = 0 := by
    unfold Kernel.answer
    split
    case isTrue => exact turn.2
    case isFalse => exact turn.2
  have errno : (d₁.kernel.answer fd).errno = none ∨ (d₁.kernel.answer fd).errno = some ebadf := by
    unfold Kernel.answer
    split
    case isTrue => exact .inl turn.1
    case isFalse => exact .inr rfl
  cases flight : d₁.kernel.inFlight with
  | nil =>
    rw [flight] at mem
    cases mem
  | cons u us =>
    rcases errno with errno | errno
    · simp [Kernel.reap, pick, errno, flight] at answer
    · simp [Kernel.reap, pick, errno, flight, show ebadf ≠ eagain by decide] at answer

/-- Whether two URBs are in flight, which the next calls return. -/
def twoToReap (s : Sys) : Bool :=
  s.dev.kernel.inFlight.length == 2 && (List.range 3).all (fun i =>
    (s.dev.kernel.plan (s.dev.kernel.ioctls + i)).errno.isNone &&
      (s.dev.kernel.plan (s.dev.kernel.ioctls + i)).pick == 0) &&
    match genericHandleEvents (some ⟨3⟩) s.dev with
    | .ok (error, _) => error.isNone
    | .error _ => false

/-- Two URBs are in flight and were completed, and both are delivered. -/
theorem genericHandleEvents_delivers_example : ∃ s, Reachable s ∧
    s.dev.kernel.inFlight.length = 2 ∧ Prompt (fun _ _ => True) 3 s.dev ∧
    ∃ cs d', genericHandleEvents (some ⟨3⟩) s.dev = .ok (none, d') ∧ DeliveredAll s.dev cs d' ∧
      ∀ t ∈ s.dev.kernel.inFlight, t ∈ cs.map Prod.fst := by
  have whole : Machine.passes backend.step [.create 0x81, .allocateTransfers 1 2 8,
      .startEndlessTransfers 1] (exampleSystem fun _ => promptTurn)
      (fun _ s => twoToReap s) = true := by decide +kernel
  obtain ⟨rs, s, run, test⟩ := Machine.run_of_passes whole
  have reach : Reachable s := ⟨_, _, _, _, exampleSystem_initial _, run⟩
  simp only [twoToReap, Bool.and_eq_true, beq_iff_eq, List.all_eq_true, List.mem_range,
    Option.isNone_iff_eq_none] at test
  obtain ⟨⟨two, oldest⟩, success⟩ := test
  have prompt : Prompt (fun _ _ => True) 3 s.dev := by
    obtain ⟨_, sysInv⟩ := reach.sysInv
    refine prompt_of_plan sysInv.inv fun i le => oldest i ?_
    rw [two] at le
    exact Nat.lt_succ_of_le le
  obtain ⟨error, cs, d', ran, _, all, _, _, left⟩ := genericHandleEvents_delivers reach ⟨3⟩
  rw [ran] at success
  obtain rfl : error = none := Option.isNone_iff_eq_none.mp success
  exact ⟨s, reach, two, prompt, cs, d', ran, all,
    fun t mem => left rfl (fun _ _ => True) prompt t mem trivial⟩

end Libusbp.Linux
