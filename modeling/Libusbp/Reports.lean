import Libusbp.Windows.Pipes
import Libusbp.Mac.Pipes

/-!
# Reports outside of Linux

The two backends whose transfers learn of their completion in such different ways, by a poll and by a
callback, fit the same ring: `asyncInPipe_reportsOutcomes` is about every run on either of them.
-/

namespace Libusbp

/-- Over the Windows and the macOS backend, the finished report with the number `k` of a pipe shows
the outcome of its submission with the number `k`, in every run. On Windows every read that is left
to the operating system is harvested exactly once, before its results are read and before its transfer
is submitted again; on macOS every callback finds its transfer pending, without an error and without a
byte count. No assertion fails. -/
theorem asyncInPipe_reportsOutcomes :
    (∀ handle s₀ es, Windows.Initial handle s₀ →
      Machine.run Windows.backend.step es s₀ ≠ .error .assertion ∧
      ∀ rs s, Machine.run Windows.backend.step es s₀ = .ok (rs, s) →
        Windows.transferSpec.Harvested s.dev.calls ∧
        ∀ p P, s.pipes p = some P → P.transferArray ≠ none →
          ReportsOutcomes Windows.backend Windows.outcome p P es rs s) ∧
    ∀ handle s₀ es, Mac.Initial handle s₀ →
      Machine.run Mac.backend.step es s₀ ≠ .error .assertion ∧
      ∀ rs s, Machine.run Mac.backend.step es s₀ = .ok (rs, s) →
        Mac.transferSpec.Harvested s.dev.calls ∧
        (∀ t (c : Mac.Completed), .complete t c ∈ s.dev.calls →
          c.pending = true ∧ c.error = none ∧ c.transferred = 0) ∧
        ∀ p P, s.pipes p = some P → P.transferArray ≠ none →
          ReportsOutcomes Mac.backend Mac.outcome p P es rs s := by
  constructor
  · intro handle s₀ es init
    refine ⟨fun stops => ?_, ?_⟩
    · have fault := run_fault init.sysInv stops
      cases fault
    · intro rs s run
      exact ⟨(init.sysInv.run run).inv.harvested, fun p P hp array =>
        init.reportsOutcomes run hp array⟩
  · intro handle s₀ es init
    refine ⟨fun stops => ?_, ?_⟩
    · have fault := run_fault init.sysInv stops
      cases fault
    · intro rs s run
      have harvested := (init.sysInv.run run).inv.harvested
      exact ⟨harvested, fun t c mem => harvested.completion mem, fun p P hp array =>
        init.reportsOutcomes run hp array⟩

theorem asyncInPipe_reportsOutcomes_example :
    (∃ rs s P, Machine.run Windows.backend.step Windows.exampleEvents
        (Windows.exampleSystem Windows.examplePlan) = .ok (rs, s) ∧ s.pipes 1 = some P ∧
      (Windows.exampleEvents.zip rs).countP (isReport 1) = 3 ∧
      ReportsOutcomes Windows.backend Windows.outcome 1 P Windows.exampleEvents rs s) ∧
    ∃ rs s P, Machine.run Mac.backend.step Mac.exampleEvents (Mac.exampleSystem Mac.examplePlan) =
        .ok (rs, s) ∧ s.pipes 1 = some P ∧ (Mac.exampleEvents.zip rs).countP (isReport 1) = 3 ∧
      ReportsOutcomes Mac.backend Mac.outcome 1 P Mac.exampleEvents rs s := by
  constructor
  · obtain ⟨rs, s, run, test⟩ := Windows.exampleEvents_run
    rw [Bool.and_eq_true, beq_iff_eq] at test
    obtain ⟨P, hp, array⟩ := array_of_isAllocated test.2
    have init := Windows.exampleSystem_initial Windows.examplePlan
    exact ⟨rs, s, P, run, hp, test.1,
      ((asyncInPipe_reportsOutcomes.1 _ _ _ init).2 rs s run).2 1 P hp array⟩
  · obtain ⟨rs, s, run, test⟩ := Mac.exampleEvents_run
    rw [Bool.and_eq_true, beq_iff_eq] at test
    obtain ⟨P, hp, array⟩ := array_of_isAllocated test.2
    have init := Mac.exampleSystem_initial Mac.examplePlan
    exact ⟨rs, s, P, run, hp, test.1,
      ((asyncInPipe_reportsOutcomes.2 _ _ _ init).2 rs s run).2.2 1 P hp array⟩

end Libusbp
