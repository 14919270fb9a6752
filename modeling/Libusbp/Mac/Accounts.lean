import Libusbp.Allocation
import Libusbp.PipeAccounts

/-!
# The accounts of the macOS backend

A transfer owns its buffer, if it has one, and its error. The callback writes its error to a transfer
that has none, which it asserts.
-/

namespace Libusbp.Mac

open Prog Heap

variable {d : Dev} {t : Addr} {T : Transfer} {c : List HeapCall} {m : Multiset Loc}

abbrev estate : Estate Transfer := fields.view.toEstate

lemma wp_makeMach (acc : Accounts estate c d m) (errorCode : UInt32) (format : String) :
    wp (createMach errorCode format) (MakesError estate c m d) d := by
  simp only [createMach, wp_bind, wp_get, errorCreateMach_eq]
  exact acc.wp_chain _ (machSteps_additions ..).adds

/-! ## The functions -/

lemma submit_accounts (hT : d.transfers t = some T) (idle : T.pending = false)
    (acc : Accounts estate c d m) :
    wp (asyncInTransferSubmit (some t)) (fun _ d' => Accounts estate c d' m) d := by
  simp only [asyncInTransferSubmit, wp_bind, wp_loadTransfer hT, wp_check]
  refine ⟨by simp [idle], ?_⟩
  apply wp_mono (acc.wp_clear hT)
  rintro _ d₁ ⟨transfers₁, clear⟩
  simp only [storeTransfer, wp_modify, readPipeAsync, wp_bind, transfers₁]
  apply wp_call
  intro turn
  apply wp_ite
  · intro accepted
    simp only [wp_bind, wp_modify, wp_pure]
    apply wp_ite (fun no => absurd accepted no)
    intro _
    rw [wp_pure]
    exact clear _ T.submitted rfl rfl rfl rfl
  · intro refused
    simp only [wp_pure]
    apply wp_ite (fun _ => ?_) (fun no => absurd refused no)
    simp only [wp_bind]
    refine (wp_loadTransfer (T := T.submitted) ?_).mpr ?_
    · exact Function.update_self ..
    simp only [wp_modify, Function.update_idem]
    have acc₂ : Accounts estate c { d₁ with
        kernel := { d₁.kernel with calls := d₁.kernel.calls + 1 }
        transfers := Function.update d.transfers t (some { T.submitted with pending := false })
        calls := .submit t turn.result :: d₁.calls } m :=
      clear _ _ rfl rfl rfl rfl
    apply wp_mono (wp_makeMach acc₂ _ _)
    rintro _ d₃ ⟨⟨e, rfl⟩, transfers₃, hands₃⟩
    have hT₃ : d₃.transfers t = some { T.submitted with pending := false } := by
      rw [transfers₃]
      exact Function.update_self ..
    simp only [wp_loadTransfer hT₃]
    exact hands₃.store hT₃ rfl rfl rfl rfl rfl

lemma getResults_accounts {out : Outputs} (inv : Inv d) (hT : d.transfers t = some T)
    (idle : T.pending = false) (acc : Accounts estate c d m) :
    wp (asyncInTransferGetResults (some t) out)
      (fun r d' => Hands estate c m r.2.transferError.join d') d := by
  have wf := inv.wf t T hT
  obtain ⟨block, eq⟩ := Option.ne_none_iff_exists'.mp wf.buffer
  simp only [asyncInTransferGetResults, wp_bind, wp_loadTransfer hT, wp_check, wp_expect]
  refine ⟨by simp [idle], by simpa using wf.small, block, eq, ?_⟩
  cases te : out.transferError with
  | none =>
    simp only [wp_bind, wp_modify, wp_pure]
    exact .of_none (acc.same rfl rfl)
  | some slot =>
    simp only [wp_bind, wp_modify, wp_pure]
    apply wp_mono (acc.wp_onHeap fun m₀ own => errorCopy_keepsSince (acc.sound t T hT) own)
    exact fun r d₁ hands => ⟨hands.1, hands.2.same rfl rfl⟩

lemma cancel_accounts (hT : d.transfers t = some T) (acc : Accounts estate c d m) :
    wp (asyncInTransferCancel (some t)) (Hands estate c m) d := by
  simp only [asyncInTransferCancel, wp_bind, wp_loadTransfer hT]
  apply wp_call
  intro turn
  have acc₁ : Accounts estate c
      { d with kernel := { d.kernel with calls := d.kernel.calls + 1 } } m := acc.same rfl rfl
  apply wp_ite
  · intro _
    exact wp_mono (wp_makeMach acc₁ _ _) fun _ _ made => made.2.2
  · intro _
    rw [wp_pure]
    exact .of_none acc₁

/-! ## Events -/

lemma machMsg_accounts (inv : Inv d) (acc : Accounts estate c d m) :
    wp machMsg (fun _ d' => Accounts estate c d' m) d := by
  simp only [machMsg, wp_bind]
  apply wp_call
  intro turn
  simp only [wp_get]
  apply wp_ite
  · intro _
    rw [wp_pure]
    exact acc.same rfl rfl
  intro _
  cases pick : d.kernel.inFlight[turn.pick]? with
  | none =>
    rw [wp_pure]
    exact acc.same rfl rfl
  | some t =>
    obtain ⟨T, hT, _⟩ := (inv.owned t).mp (List.mem_of_getElem? pick)
    simp only [storeTransfer, wp_bind]
    refine (wp_loadTransfer (T := T) ?_).mpr ?_
    · exact hT
    simp only [wp_modify, wp_pure]
    refine acc.write hT rfl rfl ?_ rfl
    exact Option.map_map ..

lemma callback_accounts {kr : UInt32} {count : Nat} (hT : d.transfers t = some T)
    (pend : T.pending = true) (noError : T.error = none) (zero : T.transferred = 0)
    (acc : Accounts estate c d m) :
    wp (asyncInTransferCallback (some t) kr count) (fun _ d' => Accounts estate c d' m) d := by
  simp only [asyncInTransferCallback, wp_bind, wp_loadTransfer hT, wp_check]
  refine ⟨pend, by simp [noError], by simp [zero], ?_⟩
  apply wp_ite
  · intro _
    rw [wp_bind]
    apply wp_mono (wp_makeMach acc _ _)
    rintro _ d₁ ⟨⟨e, rfl⟩, transfers₁, hands₁⟩
    have hT₁ : d₁.transfers t = some T := by rw [transfers₁, hT]
    simp only [wp_bind, storeTransfer, wp_modify, wp_loadTransfer hT₁]
    exact hands₁.store hT₁ noError rfl rfl rfl rfl
  · intro _
    simp only [wp_bind, wp_pure, storeTransfer, wp_modify, wp_loadTransfer hT]
    exact acc.write hT rfl rfl rfl noError.symm

lemma receiveAndDispatch_accounts (inv : Inv d) (acc : Accounts estate c d m) :
    wp receiveAndDispatch (fun r d' => Hands estate c m r.join d') d := by
  simp only [receiveAndDispatch, wp_bind]
  apply wp_mono ((wp_machMsg inv).and (machMsg_accounts inv acc))
  rintro msg d₁ ⟨result, acc₁⟩
  cases result with
  | failed _ =>
    apply wp_ite
    · intro _
      rw [wp_pure]
      exact .of_none acc₁
    intro _
    apply wp_ite
    · intro _
      simp only [wp_bind, wp_pure]
      exact acc₁.wp_create _
    · intro _
      simp only [wp_bind, wp_pure]
      exact wp_mono (wp_makeMach acc₁ _ _) fun _ _ made => made.2.2
  | @received t T kr count data d₁ q hT mem le =>
    obtain ⟨noError, zero⟩ := (q.inv.wf t T hT).clean ((q.inv.mem_inFlight hT).mp mem)
    have pend := (q.inv.mem_inFlight hT).mp mem
    have load : (d₁.received t T kr count data).transfers t = some (T.filled count data) :=
      Function.update_self ..
    simp only [wp_bind, wp_pure]
    apply wp_mono (callback_accounts load pend noError zero acc₁)
    exact fun _ d₂ acc₂ => .of_none acc₂

lemma events_accounts (inv : Inv d) (handle : Handle) (acc : Accounts estate c d m) :
    wp (genericHandleEvents (some handle)) (fun r d' => Hands estate c m r d' ∧ NoneBorn d d') d := by
  simp only [genericHandleEvents, wp_bind, wp_check, wp_get]
  refine ⟨rfl, ?_⟩
  apply wp_loop (fun d₁ => Inv d₁ ∧ Accounts estate c d₁ m ∧ NoneBorn d d₁)
    fun d₁ => d₁.kernel.inFlight.length
  · rintro d₁ ⟨inv₁, acc₁, none₁⟩
    apply wp_mono ((wp_receiveAndDispatch inv₁).and (receiveAndDispatch_accounts inv₁ acc₁))
    rintro r d₂ ⟨round, hands⟩
    cases r with
    | some error => exact ⟨hands, none₁.trans (.of_same round.transfers)⟩
    | none =>
      obtain ⟨d₁', t, T, q, hT, mem, handled⟩ := round
      obtain ⟨_, _, _, transfers⟩ := handled.transfers
      have none₂ := (none₁.trans (.of_same q.transfers)).trans (.update hT transfers)
      refine ⟨⟨handled.inv, hands.2.of_eq (add_zero m), none₂⟩, ?_⟩
      have pos : 0 < d₁'.kernel.inFlight.length := List.length_pos_of_mem mem
      rw [handled.inFlight, List.length_erase_of_mem mem, ← q.inFlight]
      exact Nat.sub_lt pos Nat.one_pos
  · exact Nat.lt_succ_self _
  · exact ⟨inv, acc, .of_same rfl⟩

lemma books (handle : Handle) : Books (custody handle) where
  setup acc := wp_pure.mpr (.of_none acc)
  submit _ := submit_accounts
  pending _ hT acc := (wp_pending hT).mpr acc
  getResults inv hT idle acc _ := getResults_accounts inv hT idle acc
  cancel := cancel_accounts
  events inv := events_accounts inv handle

end Libusbp.Mac
