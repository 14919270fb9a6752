import Libusbp.Allocation
import Libusbp.PipeAccounts

/-!
# The accounts of the Windows backend

A transfer owns its buffer and its error. A read that is finished is taken over when the transfer is
polled, and then its error goes where a null pointer was. The event of a transfer is no block of memory.
-/

namespace Libusbp.Windows

open Prog Heap

variable {d : Dev} {t : Addr} {T : Transfer} {c : List HeapCall} {m : Multiset Loc}

abbrev estate : Estate Transfer := fields.view.toEstate

/-! ## Errors -/

lemma wp_makeWinapi (acc : Accounts estate c d m) (errorCode : UInt32) (format : String) :
    wp (createWinapi errorCode format) (MakesError estate c m d) d := by
  simp only [createWinapi, wp_bind, wp_get, errorCreateWinapi_eq]
  exact acc.wp_chain _ (winapiSteps_additions ..).adds

/-- `error_create_overlapped` is a chain of calls, too. -/
lemma wp_makeOverlapped (acc : Accounts estate c d m) (errorCode : UInt32) (format : String) :
    wp (createOverlapped errorCode format) (MakesError estate c m d) d := by
  simp only [createOverlapped, wp_bind, wp_get, errorCreateOverlapped]
  split
  case isTrue =>
    have adds : ∀ step ∈ ([.add "The device was disconnected.",
        .addCode ErrorCode.deviceDisconnected, .addV format] : List ErrorStep), step.adds = true := by
      simp [ErrorStep.adds]
    have chain := acc.wp_chain ("Windows error code 0x" ++ formatHex 0 errorCode.toNat ++ ".") adds
    simpa only [errorChain, ErrorStep.exec, bind_pure] using chain
  case isFalse =>
    rw [errorCreateWinapi_eq]
    exact acc.wp_chain _ (winapiSteps_additions ..).adds

/-! ## The functions -/

lemma setup_accounts (handle : Handle) (pipeId : UInt8) (acc : Accounts estate c d m) :
    wp (asyncInPipeSetup (some handle) pipeId) (Hands estate c m) d := by
  simp only [asyncInPipeSetup, wp_bind, wp_check]
  refine ⟨rfl, ?_⟩
  apply wp_call
  intro turn
  have acc₁ : Accounts estate c
      { d with kernel := { d.kernel with calls := d.kernel.calls + 1 } } m := acc.same rfl rfl
  apply wp_ite
  · intro _
    rw [wp_pure]
    exact .of_none acc₁
  · intro _
    exact wp_mono (wp_makeWinapi acc₁ _ _) fun _ _ made => made.2.2

lemma submit_accounts (hT : d.transfers t = some T) (idle : T.pending = false)
    (acc : Accounts estate c d m) :
    wp (asyncInTransferSubmit (some t)) (fun _ d' => Accounts estate c d' m) d := by
  simp only [asyncInTransferSubmit, wp_bind, wp_loadTransfer hT, wp_check]
  refine ⟨by simp [idle], ?_⟩
  apply wp_mono (acc.wp_clear hT)
  rintro _ d₁ ⟨transfers₁, clear⟩
  simp only [storeTransfer, wp_modify, transfers₁]
  have load : ({ d₁ with transfers := Function.update d.transfers t (some T.submitted) } : Dev).transfers
      t = some T.submitted := Function.update_self ..
  have acc₁ : Accounts estate c
      { d₁ with transfers := Function.update d.transfers t (some T.submitted) } m :=
    clear _ T.submitted rfl rfl rfl rfl
  apply wp_mono (wp_readPipe load)
  intro answer d₂ result
  cases result with
  | @completed count data _ _ heap _ _ transfers =>
    have acc₂ : Accounts estate c d₂ m := acc₁.write load transfers heap rfl rfl
    have load₂ : d₂.transfers t = some { T.submitted.filled count data with transferred := count } := by
      rw [transfers, Function.update_self]
    simp only [wp_bind, wp_loadTransfer load₂, wp_modify]
    exact acc₂.write load₂ rfl rfl rfl rfl
  | pending heap _ _ transfers =>
    rw [wp_pure]
    exact acc₁.write load transfers heap rfl rfl
  | refused heap _ _ transfers =>
    have acc₂ : Accounts estate c d₂ m := acc₁.same transfers heap
    simp only [wp_bind]
    apply wp_mono (wp_makeWinapi acc₂ _ _)
    rintro _ d₃ ⟨⟨e, rfl⟩, transfers₃, hands₃⟩
    have load₃ : d₃.transfers t = some T.submitted := by rw [transfers₃, transfers, load]
    simp only [wp_loadTransfer load₃, wp_modify]
    exact hands₃.store load₃ rfl rfl rfl rfl rfl

lemma pending_accounts (inv : Inv d) (hT : d.transfers t = some T) (acc : Accounts estate c d m) :
    wp (asyncInTransferPending (some t)) (fun _ d' => Accounts estate c d' m) d := by
  have wf := inv.wf t T hT
  simp only [asyncInTransferPending, wp_bind, wp_loadTransfer hT]
  apply wp_ite
  · intro _
    rw [wp_pure]
    exact acc
  intro pend
  have pend : T.pending = true := by simpa using pend
  simp only [wp_bind]
  apply wp_mono (wp_getOverlappedResult hT)
  rintro _ d₁ result
  cases result with
  | incomplete heap _ _ transfers =>
    have hT₁ : d₁.transfers t = some T := by rw [transfers, hT]
    have acc₁ : Accounts estate c d₁ m := acc.same transfers heap
    rw [wp_loadTransfer hT₁]
    apply wp_ite (fun no => by cases no)
    intro _
    apply wp_ite (fun _ => ?_) (fun no => absurd rfl no)
    simp only [storeTransfer, wp_bind, wp_modify, wp_pure]
    exact acc₁.write hT₁ rfl rfl rfl rfl
  | @harvested g _ _ _ heap _ _ transfers =>
    have hT₁ : d₁.transfers t = some (T.filled g.count g.data) := by
      rw [transfers, Function.update_self]
    have acc₁ : Accounts estate c d₁ m := acc.write hT transfers heap rfl rfl
    rw [wp_loadTransfer hT₁]
    apply wp_ite
    · intro _
      simp only [storeTransfer, wp_bind, wp_modify, wp_pure]
      exact acc₁.write hT₁ rfl rfl rfl rfl
    intro _
    apply wp_ite
    · intro _
      simp only [storeTransfer, wp_bind, wp_modify, wp_pure]
      exact acc₁.write hT₁ rfl rfl rfl rfl
    · intro _
      simp only [wp_bind]
      apply wp_mono (wp_makeOverlapped acc₁ _ _)
      rintro _ d₂ ⟨⟨e, rfl⟩, transfers₂, hands₂⟩
      have hT₂ : d₂.transfers t = some (T.filled g.count g.data) := by rw [transfers₂, hT₁]
      simp only [storeTransfer, wp_modify, wp_pure]
      exact hands₂.store hT₂ (wf.clean pend) rfl rfl rfl rfl

lemma getResults_accounts {out : Outputs} (hT : d.transfers t = some T) (idle : T.pending = false)
    (acc : Accounts estate c d m) :
    wp (asyncInTransferGetResults (some t) out)
      (fun r d' => Hands estate c m r.2.transferError.join d') d := by
  simp only [asyncInTransferGetResults, wp_bind, wp_loadTransfer hT, wp_check]
  refine ⟨by simp [idle], ?_⟩
  cases te : out.transferError with
  | none =>
    simp only [wp_bind, wp_modify, wp_pure]
    exact .of_none (acc.same rfl rfl)
  | some slot =>
    simp only [wp_bind, wp_modify, wp_pure]
    apply wp_mono (acc.wp_onHeap fun m₀ own => errorCopy_keepsSince (acc.sound t T hT) own)
    exact fun r d₁ hands => ⟨hands.1, hands.2.same rfl rfl⟩

lemma cancel_accounts (hT : d.transfers t = some T) (acc : Accounts estate c d m) :
    wp (asyncInTransferCancel (some t)) (Hands estate c m) d := by
  simp only [asyncInTransferCancel, wp_bind, wp_loadTransfer hT]
  apply wp_call
  intro turn
  have acc₁ : Accounts estate c
      { d with kernel := { d.kernel with calls := d.kernel.calls + 1 } } m := acc.same rfl rfl
  apply wp_ite
  · intro _
    rw [wp_pure]
    exact .of_none acc₁
  · intro _
    exact wp_mono (wp_makeWinapi acc₁ _ _) fun _ _ made => made.2.2

lemma books (handle : Handle) : Books (custody handle) where
  setup acc := setup_accounts handle _ acc
  submit _ := submit_accounts
  pending := pending_accounts
  getResults _ hT idle acc _ := getResults_accounts hT idle acc
  cancel := cancel_accounts
  events _ acc := wp_pure.mpr ⟨.of_none acc, .of_same rfl⟩

end Libusbp.Windows
