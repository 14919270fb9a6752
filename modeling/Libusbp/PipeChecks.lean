import Libusbp.PipeTransfers

/-!
# What gets past the checks of a pipe

A call of `libusbp_read_pipe` or `libusbp_write_pipe` that passes a request to the operating system has
passed every check of its arguments, in whatever state it was called.
-/

namespace Libusbp

open Prog Host

variable {κ H ρ : Type}

/-- The IDs that `check_pipe_id` accepts. -/
def Accepted (pipeId : UInt8) : Prop :=
  ¬(pipeId &&& ~~~0x80 > maxEndpointNumber ∨ pipeId = 0x80)

instance (pipeId : UInt8) : Decidable (Accepted pipeId) := inferInstanceAs (Decidable ¬_)

/-- A pipe ID is valid exactly if it has the right direction and is accepted. -/
lemma pipeIdReason_eq_none {pipeId : UInt8} {wrongDirection : Bool} :
    pipeIdReason pipeId wrongDirection = none ↔ wrongDirection = false ∧ Accepted pipeId := by
  rw [pipeIdReason, refusedIf_eq_none, decide_eq_false_iff_not, not_or, Bool.not_eq_true]
  exact Iff.rfl

/-! ## The checks -/

lemma errorInvalidPipeId_yields (pipeId : UInt8) :
    Yields (inHeap (errorInvalidPipeId pipeId) : Prog Fault (Host κ) _) (· ≠ none) :=
  yields_of_made (made_create _)

/-- What passes `check_pipe_id` is accepted. -/
lemma checkPipeId_yields (pipeId : UInt8) :
    Yields (inHeap (checkPipeId pipeId) : Prog Fault (Host κ) _) (· = none → Accepted pipeId) := by
  by_cases accepted : Accepted pipeId
  · exact fun _ _ _ _ _ => accepted
  · rw [checkPipeId, if_pos (not_not.mp accepted)]
    exact fun s r s' run missing => absurd missing (errorInvalidPipeId_yields pipeId s r s' run)

lemma checkPipeIdIn_yields (pipeId : UInt8) :
    Yields (inHeap (checkPipeIdIn pipeId) : Prog Fault (Host κ) _)
      (· = none → pipeId &&& 0x80 ≠ 0 ∧ Accepted pipeId) := by
  unfold checkPipeIdIn
  by_cases isOut : pipeId &&& 0x80 = 0
  · rw [if_pos isOut]
    exact fun s r s' run missing => absurd missing (errorInvalidPipeId_yields pipeId s r s' run)
  · rw [if_neg isOut]
    exact fun s r s' run missing => ⟨isOut, checkPipeId_yields pipeId s r s' run missing⟩

lemma checkPipeIdOut_yields (pipeId : UInt8) :
    Yields (inHeap (checkPipeIdOut pipeId) : Prog Fault (Host κ) _)
      (· = none → pipeId &&& 0x80 = 0 ∧ Accepted pipeId) := by
  unfold checkPipeIdOut
  by_cases isOut : pipeId &&& 0x80 = 0
  · rw [if_neg (not_not.mpr isOut)]
    exact fun s r s' run missing => ⟨isOut, checkPipeId_yields pipeId s r s' run missing⟩
  · rw [if_pos isOut]
    exact fun s r s' run missing => absurd missing (errorInvalidPipeId_yields pipeId s r s' run)

/-- What is true if one of the checks passes is true if they all do. -/
lemma firstError_yields {check : Prog Fault (Host κ) (Option Error)}
    {checks : List (Prog Fault (Host κ) (Option Error))} {K : Prop} (mem : check ∈ checks)
    (passes : Yields check (· = none → K)) : Yields (firstError checks) (· = none → K) := by
  induction checks with
  | nil => cases mem
  | cons first others ih =>
    cases List.mem_cons.mp mem with
    | inl here =>
      rw [here] at passes
      refine passes.bind fun r passed => ?_
      cases r with
      | none => exact fun _ _ _ _ _ => passed rfl
      | some e => exact .pure (by rintro ⟨⟩)
    | inr there =>
      refine (Yields.any _).bind fun r _ => ?_
      cases r with
      | none => exact ih there
      | some e => exact .pure (by rintro ⟨⟩)

/-! ## The requests -/

/-- A call that passes a request on has passed its checks, and the request is one of its transfer. -/
lemma pipeTransfer_yields {context : String} {check : Prog Fault (Host κ) (Option Error)}
    {transfer : H → Prog Fault (Host κ) (PipeReply ρ)} {handle : H} {transferred : Bool} {K : Prop}
    {P : ρ → Prop} (checked : Yields check (· = none → K))
    (passes : Yields (transfer handle) fun reply => ∀ q, reply.request = some q → P q) :
    Yields (pipeTransfer context check transfer (some handle) transferred)
      fun reply => ∀ q, reply.request = some q → K ∧ P q := by
  have last (reply : PipeReply ρ) (passed : ∀ q, reply.request = some q → K ∧ P q) : Yields (do
      let error ← addContext reply.error context
      pure { reply with error } : Prog Fault (Host κ) _)
      fun reply => ∀ q, reply.request = some q → K ∧ P q :=
    (Yields.any _).bind fun _ _ => .pure passed
  refine checked.bind fun error passed => ?_
  cases error with
  | none => exact passes.bind fun reply request => last reply fun q there => ⟨passed rfl, request q there⟩
  | some e =>
    have none : Yields (pure ⟨some e, noneTransferred transferred, none⟩ : Prog Fault (Host κ) _)
        fun reply : PipeReply ρ => ∀ q, reply.request = some q → K ∧ P q := .pure (by rintro _ ⟨⟩)
    exact none.bind last

end Libusbp
