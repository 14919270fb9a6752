import Libusbp.Allocation
import Libusbp.PipeAccounts

/-!
# The accounts of the Linux backend

A transfer owns its buffer and its error. While the kernel has its URB the transfer has no error, so a
completion may write one over it, and so may a submission that the kernel refused, which freed the error
that was there before.
-/

namespace Libusbp.Linux

open Prog Heap

variable {d : Dev} {t : Addr} {T : Transfer} {c : List HeapCall} {m : Multiset Loc}

abbrev estate : Estate Transfer := view.toEstate

/-! ## Errors -/

lemma wp_makeErrno (acc : Accounts estate c d m) (errorCode : Int) (format : String) :
    wp (createErrno errorCode format) (MakesError estate c m d) d := by
  simp only [createErrno, wp_bind, wp_get, errorCreateErrno_eq]
  exact acc.wp_chain _ (errnoSteps_additions ..).adds

lemma errorFromUrbStatus_keepsSince {h : Heap} (own : Heap.OwnsSince c h m)
    (strerror : Int → Option String) (status : Int) :
    wp (errorFromUrbStatus strerror status) (KeepsSince c m) h := by
  unfold errorFromUrbStatus
  apply wp_ite
  · intro _
    rw [wp_pure]
    exact ⟨by rintro _ ⟨⟩, own.of_eq (add_zero m).symm⟩
  · intro _
    apply wp_ite
    · intro _
      simp only [wp_bind]
      apply wp_mono (errorCreate_keepsSince own _)
      rintro _ h₁ ⟨e, rfl, keeps₁⟩
      apply wp_mono (errorAdd_keepsSince keeps₁ _)
      exact fun r h₂ keeps₂ => errorAddCode_keepsSince keeps₂ _
    · intro _
      rw [errorCreateErrno_eq]
      exact errorChain_create_keepsSince own (errnoSteps_additions ..).adds

lemma completionError_hands (acc : Accounts estate c d m) (urb : Urb) :
    wp (completionError urb) (Hands estate c m) d := by
  simp only [completionError, wp_bind, wp_get]
  apply wp_mono (acc.wp_onHeap fun m₀ own => errorFromUrbStatus_keepsSince own _ _)
  intro r d₁ hands₁
  cases r with
  | some e => exact hands₁.wp_add _
  | none =>
    have acc₁ : Accounts estate c d₁ m := hands₁.2.of_eq (add_zero m)
    apply wp_ite
    · intro _
      simp only [wp_bind]
      apply wp_mono (acc₁.wp_create _)
      exact fun r d₂ hands₂ => hands₂.wp_add _
    · intro _
      rw [wp_pure]
      exact .of_none acc₁

/-! ## The functions -/

lemma submit_accounts (hT : d.transfers t = some T) (idle : T.pending = false)
    (acc : Accounts estate c d m) :
    wp (asyncInTransferSubmit (some t)) (fun _ d' => Accounts estate c d' m) d := by
  simp only [asyncInTransferSubmit, wp_bind, wp_loadTransfer hT, wp_check]
  refine ⟨by simp [idle], ?_⟩
  apply wp_mono (acc.wp_clear hT)
  rintro _ d₁ ⟨transfers₁, clear⟩
  simp only [storeTransfer, wp_modify, usbfdSubmitUrb, wp_bind, transfers₁]
  rw [wp_loadTransfer (Function.update_self ..)]
  apply wp_ioctl
  intro turn
  cases turn.errno with
  | none =>
    simp only [acceptUrb, wp_bind, wp_modify, wp_pure]
    exact clear _ _ rfl rfl rfl rfl
  | some errno =>
    -- the error goes where the null pointer was written
    have acc₂ : Accounts estate c { d₁ with
        kernel := { d₁.kernel with ioctls := d₁.kernel.ioctls + 1 }
        transfers := Function.update d.transfers t (some { T with error := none, pending := true })
        calls := .submit t ⟨some errno, T.urb.actualLength⟩ :: d₁.calls } m :=
      clear _ _ rfl rfl rfl rfl
    apply wp_mono (wp_makeErrno acc₂ errno _)
    rintro _ d₃ ⟨⟨e, rfl⟩, transfers₃, hands₃⟩
    have hT₃ : d₃.transfers t = some { T with error := none, pending := true } := by
      rw [transfers₃]
      exact Function.update_self ..
    simp only [wp_bind, wp_loadTransfer hT₃, wp_modify]
    exact hands₃.store hT₃ rfl rfl rfl rfl rfl

lemma getResults_accounts {out : Outputs} (hT : d.transfers t = some T) (idle : T.pending = false)
    (acc : Accounts estate c d m) :
    wp (asyncInTransferGetResults (some t) out)
      (fun r d' => Hands estate c m r.2.transferError.join d') d := by
  simp only [asyncInTransferGetResults, wp_bind, wp_loadTransfer hT, wp_check]
  refine ⟨by simp [idle], ?_⟩
  cases te : out.transferError with
  | none =>
    simp only [wp_bind, wp_modify, wp_pure]
    exact .of_none (acc.same rfl rfl)
  | some slot =>
    simp only [wp_bind, wp_modify, wp_pure]
    apply wp_mono (acc.wp_onHeap fun m₀ own => errorCopy_keepsSince (acc.sound t T hT) own)
    exact fun r d₁ hands => ⟨hands.1, hands.2.same rfl rfl⟩

lemma cancel_accounts (hT : d.transfers t = some T) (acc : Accounts estate c d m) :
    wp (asyncInTransferCancel (some t)) (Hands estate c m) d := by
  simp only [asyncInTransferCancel, wp_bind, wp_loadTransfer hT, usbfdDiscardUrb]
  apply wp_ioctl
  intro turn
  have acc₁ : Accounts estate c
      { d with kernel := { d.kernel with ioctls := d.kernel.ioctls + 1 } } m := acc.same rfl rfl
  cases turn.errno with
  | none =>
    rw [wp_pure]
    exact .of_none acc₁
  | some errno =>
    apply wp_ite
    · intro _
      rw [wp_pure]
      exact .of_none acc₁
    · intro _
      exact wp_mono (wp_makeErrno acc₁ errno _) fun _ _ made => made.2.2

/-! ## Events -/

/-- The kernel gives back an URB, or there is an error. -/
lemma reapUrb_accounts (inv : Inv d) (fd : Int) (acc : Accounts estate c d m) :
    wp (usbfdReapUrb fd) (fun r d' => Hands estate c m r.1 d') d := by
  simp only [usbfdReapUrb, wp_bind]
  apply wp_ioctl
  intro turn
  have acc₁ : Accounts estate c
      { d with kernel := { d.kernel with ioctls := d.kernel.ioctls + 1 } } m := acc.same rfl rfl
  simp only [wp_get]
  cases turn.errno with
  | some errno =>
    apply wp_ite
    · intro _
      rw [wp_pure]
      exact .of_none acc₁
    · intro _
      simp only [wp_bind, wp_pure]
      exact wp_mono (wp_makeErrno acc₁ errno _) fun _ _ made => made.2.2
  | none =>
    cases pick : d.kernel.inFlight[turn.pick]? with
    | none =>
      rw [wp_pure]
      exact .of_none acc₁
    | some t =>
      obtain ⟨T, hT, _⟩ := (inv.owned t).mp (List.mem_of_getElem? pick)
      simp only [returnUrb, storeTransfer, wp_bind]
      refine (wp_loadTransfer (T := T) ?_).mpr ?_
      · exact hT
      simp only [wp_modify, wp_pure]
      exact .of_none (acc.write hT rfl rfl rfl rfl)

/-- The error of a completion is written to a transfer that has none. -/
lemma handleCompletedUrb_accounts (wf : T.WF t) (clean : T.error = none) (r : Completion)
    (acc : Accounts estate c (d.gaveBack t T r) m) :
    wp (handleCompletedUrb t) (fun _ d' => Accounts estate c d' m) (d.gaveBack t T r) := by
  have load : (d.gaveBack t T r).transfers t = some { T with urb := T.urb.returned r } :=
    Function.update_self ..
  have bulk : (T.urb.returned r).type = urbTypeBulk ∧ (T.urb.returned r).endpoint &&& 0x80 ≠ 0 :=
    ⟨wf.type, wf.endpoint⟩
  have user : (T.urb.returned r).usercontext = some t := wf.usercontext
  simp only [handleCompletedUrb, wp_bind, wp_loadTransfer load, user, if_pos bulk,
    asyncInTransferHandleCompletion, wp_pure]
  apply wp_mono ((completionError_hands acc _).and (wp_completionError
    (Q := fun _ d₁ => d₁.transfers = (d.gaveBack t T r).transfers) _ fun _ _ _ _ _ => rfl))
  rintro error d₁ ⟨hands, transfers₁⟩
  have load₁ : d₁.transfers t = some { T with urb := T.urb.returned r } := by
    rw [transfers₁, load]
  simp only [wp_loadTransfer load₁, storeTransfer, wp_modify]
  exact hands.store load₁ clean rfl rfl rfl rfl

lemma reapAndHandle_accounts (inv : Inv d) (fd : Int) (acc : Accounts estate c d m) :
    wp (reapAndHandle fd) (fun r d' => Hands estate c m r.join d') d := by
  simp only [reapAndHandle, wp_bind]
  apply wp_mono ((wp_reapUrb inv fd).and (reapUrb_accounts inv fd acc))
  rintro r d₁ ⟨result, hands₁⟩
  cases result with
  | failed q =>
    rw [wp_pure]
    exact hands₁
  | nothing q =>
    rw [wp_pure]
    exact hands₁
  | @reaped t T r d₁ q hT mem =>
    have wf := q.inv.wf t T hT
    have clean := wf.clean ((q.inv.mem_inFlight hT).mp mem)
    have acc₁ : Accounts estate c (d₁.gaveBack t T r) m := hands₁.2.of_eq (add_zero m)
    simp only [wp_bind]
    apply wp_mono ((wp_handleCompletedUrb q.inv hT mem r).and
      (handleCompletedUrb_accounts wf clean r acc₁))
    rintro _ d₂ ⟨⟨rfl, _⟩, acc₂⟩
    rw [wp_pure]
    exact .of_none acc₂

lemma events_accounts (inv : Inv d) (handle : Handle) (acc : Accounts estate c d m) :
    wp (genericHandleEvents (some handle)) (fun r d' => Hands estate c m r d' ∧ NoneBorn d d') d := by
  simp only [genericHandleEvents, wp_bind, wp_get]
  apply wp_loop (fun d₁ => Inv d₁ ∧ Accounts estate c d₁ m ∧ NoneBorn d d₁)
    fun d₁ => d₁.kernel.inFlight.length
  · rintro d₁ ⟨inv₁, acc₁, none₁⟩
    apply wp_mono ((wp_reapAndHandle inv₁ _).and (reapAndHandle_accounts inv₁ _ acc₁))
    rintro r d₂ ⟨round, hands⟩
    cases r with
    | some error => exact ⟨hands, none₁.trans (.of_same round.transfers)⟩
    | none =>
      obtain ⟨d₁', t, T, _, q, hT, mem, _, handled⟩ := round
      obtain ⟨_, transfers⟩ := handled.transfers
      have none₂ := (none₁.trans (.of_same q.transfers)).trans (.update hT transfers)
      refine ⟨⟨handled.inv, hands.2.of_eq (add_zero m), none₂⟩, ?_⟩
      have pos : 0 < d₁'.kernel.inFlight.length := List.length_pos_of_mem mem
      rw [handled.inFlight, List.length_erase_of_mem mem, ← q.inFlight]
      exact Nat.sub_lt pos Nat.one_pos
  · exact Nat.lt_succ_self _
  · exact ⟨inv, acc, .of_same rfl⟩

lemma books (handle : Handle) : Books (custody handle) where
  setup acc := wp_pure.mpr (.of_none acc)
  submit _ := submit_accounts
  pending _ hT acc := (wp_pending hT).mpr acc
  getResults _ hT idle acc _ := getResults_accounts hT idle acc
  cancel := cancel_accounts
  events inv := events_accounts inv handle

end Libusbp.Linux
