import Libusbp.Linux.Client
import Libusbp.Mac.Client

/-!
# Clients of both kinds

What holds of the clients of the Linux library and of those of the macOS library.
-/

namespace Libusbp

open Prog

/-- On Linux and on macOS, in every run of a client that returns, whatever is called and answered, and
whichever requests for memory are denied: a transfer gets to the operating system with the timeout that
was set last for its pipe on its handle, or with 0 if none was. Neither another pipe, the one with the
same number and the other direction included, nor another handle, not even one that was closed before,
has a share in it. -/
theorem clients_timed (grant : Nat → Bool) :
    (∀ calls rs c, Machine.run Linux.api.step calls (.start grant) = .ok (rs, c) → TransfersTimed c) ∧
    ∀ machErrorString calls rs c,
      Machine.run (Mac.api machErrorString).step calls (.start grant) = .ok (rs, c) →
        TransfersTimed c :=
  ⟨fun _ _ _ run => Linux.api_times.run run, fun _ _ _ _ run => Mac.api_times.run run⟩

/-- The history of a client that sets the timeout of a pipe and reads from it. -/
def setAndRead : List (Access (Nat × UInt8) UInt32) := [.read (0, 0x82) 100, .write (0, 0x82) 100]

lemma linuxSession_logs : ∃ rs c, Machine.run Linux.api.step Linux.session (.start fun _ => true) =
    .ok (rs, c) ∧ (c.log == setAndRead) = true :=
  Machine.run_of_passes (by decide +kernel)

lemma macSession_logs : ∃ rs c, Machine.run (Mac.api fun _ => "").step Mac.session
    (.start fun _ => true) = .ok (rs, c) ∧ (c.log == setAndRead) = true :=
  Machine.run_of_passes (by decide +kernel)

theorem clients_timed_example :
    (∃ rs c, Machine.run Linux.api.step Linux.session (.start fun _ => true) = .ok (rs, c) ∧
      c.log = setAndRead ∧ TransfersTimed c) ∧
    ∃ rs c, Machine.run (Mac.api fun _ => "").step Mac.session (.start fun _ => true) = .ok (rs, c) ∧
      c.log = setAndRead ∧ TransfersTimed c := by
  constructor
  · obtain ⟨rs, c, run, test⟩ := linuxSession_logs
    exact ⟨rs, c, run, beq_iff_eq.mp test, (clients_timed fun _ => true).1 _ rs c run⟩
  · obtain ⟨rs, c, run, test⟩ := macSession_logs
    exact ⟨rs, c, run, beq_iff_eq.mp test, (clients_timed fun _ => true).2 _ _ rs c run⟩

end Libusbp
