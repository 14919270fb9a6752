import Libusbp.Windows.Contract

/-!
# Pipes on Windows

Every pipe over the Windows backend reports the outcomes of its submissions in their order, and every
read that was left to the operating system is harvested once, before the transfer is submitted again.
-/

namespace Libusbp.Windows

open Prog Heap

abbrev Sys := Libusbp.Sys Transfer Kernel ReadAnswer Harvest

/-- A handle on which nothing was opened yet: nothing was left to the operating system. -/
structure Initial (handle : Handle) (s : Sys) : Prop where
  fresh : s.Fresh handle
  inFlight : s.dev.kernel.inFlight = []

variable {s s' : Sys} {handle : Handle} {p : Addr} {P : Pipe} {es : List Event} {rs : List Reply}

lemma Initial.inv (init : Initial handle s) : Inv s.dev :=
  .init init.fresh.transfers init.fresh.calls init.inFlight

lemma Initial.sysInv (init : Initial handle s) : SysInv (contract handle) s :=
  init.fresh.sysInv init.inv

lemma Initial.reportsOutcomes (init : Initial handle s)
    (run : Machine.run backend.step es s = .ok (rs, s')) (hp : s'.pipes p = some P)
    (array : P.transferArray ≠ none) : ReportsOutcomes backend outcome p P es rs s' :=
  Libusbp.reportsOutcomes (C := contract handle) id init.fresh init.inv run hp array

/-- A handle on which nothing is open, with an operating system that will answer as planned. -/
def exampleSystem (plan : Nat → Turn) : Sys where
  handle := ⟨3⟩
  pipes := fun _ => none
  dev :=
    { heap := { grant := fun _ => true, next := 1, calls := [] }
      transfers := fun _ => none
      kernel :=
        { inFlight := []
          openEvents := []
          plan := plan
          calls := 0
          formatMessage := fun _ => ""
          garbage := fun _ _ => 0 }
      calls := [] }

lemma exampleSystem_initial (plan : Nat → Turn) : Initial ⟨3⟩ (exampleSystem plan) :=
  ⟨⟨rfl, fun _ => rfl, fun _ => rfl, rfl⟩, rfl⟩

/-- Every call succeeds, but the read of the first transfer is left to the operating system, and is
not finished when it is first polled; and the read after that is refused. -/
def examplePlan (call : Nat) : Turn :=
  if call = 3 then ⟨false, errorIoPending, 0, fun _ => 0⟩
  else if call = 5 then ⟨false, errorIoIncomplete, 0, fun _ => 0⟩
  else if call = 7 then ⟨false, errorGenFailure, 0, fun _ => 0⟩
  else ⟨true, 0, 4, fun i => i.toUInt8 + 1⟩

/-- A pipe is opened, filled, and polled until it has reported all three outcomes. -/
def exampleEvents : List Event :=
  [.create 0x81, .allocateTransfers 1 2 8, .startEndlessTransfers 1,
    .handleFinishedTransfer 1 allOutputs, .handleFinishedTransfer 1 allOutputs,
    .handleFinishedTransfer 1 allOutputs, .handleFinishedTransfer 1 allOutputs]

lemma exampleEvents_run : ∃ rs s, Machine.run backend.step exampleEvents (exampleSystem examplePlan) =
    .ok (rs, s) ∧ ((exampleEvents.zip rs).countP (isReport 1) == 3 && isAllocated 1 s) = true :=
  Machine.run_of_passes (by decide +kernel)

end Libusbp.Windows
