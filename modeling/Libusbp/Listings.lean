import Libusbp.Linux.Listing
import Libusbp.Mac.Listing
import Libusbp.Windows.Listing

/-!
# Devices that are made while listing

On Linux a device whose append fails is freed. On Windows and macOS the loop ends with the error of
the append, and nobody frees the device.
-/

namespace Libusbp

open Prog

/-- No device is lost on Linux; on Windows and macOS none is lost exactly if no append of a device is
denied its request for memory. -/
theorem listConnectedDevices_keeps_iff (deviceList deviceCount : Bool) :
    (∀ (m : Holdings Linux.RefKind) (s : Linux.System) contextCreated os, s.Owns m →
      wp (Linux.listConnectedDevices deviceList deviceCount contextCreated os)
        (KeepsDevices m deviceCount) s) ∧
    (∀ (m : Holdings Windows.RefKind) (s : Windows.System) formatMessage usbDevices, s.Owns m →
      wp (Windows.listConnectedDevices formatMessage deviceList deviceCount usbDevices)
        (fun r s' => KeepsDevices m deviceCount r s' ↔
          Windows.listingAppendsGranted formatMessage deviceList deviceCount usbDevices s = true) s) ∧
    (∀ (m : Holdings Mac.RefKind) (s : Mac.System) machErrorString os, s.Owns m →
      wp (Mac.listConnectedDevices machErrorString deviceList deviceCount os)
        (fun r s' => KeepsDevices m deviceCount r s' ↔
          Mac.listingAppendsGranted machErrorString deviceList deviceCount os s = true) s) := by
  refine ⟨?_, ?_, ?_⟩
  · intro m s contextCreated os own
    apply wp_mono (Linux.listConnectedDevices_passes own deviceList deviceCount contextCreated os)
    exact fun r s' listed => listed.1
  · intro m s formatMessage usbDevices own
    apply wp_mono (Windows.listConnectedDevices_passes own formatMessage deviceList deviceCount
      usbDevices)
    exact fun r s' listed => listed.1.iff
  · intro m s machErrorString os own
    apply wp_mono (Mac.listConnectedDevices_passes own machErrorString deviceList deviceCount os)
    exact fun r s' listed => listed.1.iff

/-- The only device on Windows is found, and its append is denied. -/
def lostDevice : Windows.DevInfoList where
  devices :=
    let ids : List UInt8 := "USB\\VID_1FFB&PID_2300&REV_0100".toUTF8.toList ++ [0, 0]
    [{ devInst := 1
       instanceId := .ok "USB\\VID_1FFB&PID_2300\\12345678"
       hardwareIds := ⟨some Windows.errorInsufficientBuffer, 32, .ok (Windows.regMultiSz, (ids.getD · 0))⟩
       parent := .ok 0
       deviceId := .ok "USB\\ROOT_HUB30" }]
  last := Windows.errorNoMoreItems
  addressed := by decide

/-- A system where the request for memory with the number `n` is denied. -/
def denying (κ : Type) (n : Nat) : Host κ := ⟨⟨(· ≠ n), 0, []⟩, 0, []⟩

/-- When the fifth request for memory is denied, the device is lost. -/
theorem listConnectedDevices_loses :
    ¬wp (Windows.listConnectedDevices (fun _ => "") true true (.ok lostDevice))
      (KeepsDevices 0 true) (denying Windows.RefKind 4) := by
  intro keeps
  have lost := Windows.listConnectedDevices_passes (s := denying Windows.RefKind 4)
    (.empty _) (fun _ => "") true true (.ok lostDevice)
  obtain ⟨r, s', _, kept, but, _⟩ := keeps.and lost
  have denied : Windows.listingAppendsGranted (fun _ => "") true true (.ok lostDevice)
      (denying Windows.RefKind 4) = false := by decide +kernel
  rw [denied] at but
  exact Bool.false_ne_true (but.iff.mp kept)

/-- When the sixth request is denied, it is listed. -/
theorem listConnectedDevices_keeps_iff_example :
    wp (Windows.listConnectedDevices (fun _ => "") true true (.ok lostDevice))
      (KeepsDevices 0 true) (denying Windows.RefKind 5) := by
  apply wp_mono ((listConnectedDevices_keeps_iff true true).2.1 0 (denying Windows.RefKind 5)
    (fun _ => "") (.ok lostDevice) (.empty _))
  intro r s' keeps
  exact keeps.mpr (by decide +kernel)

end Libusbp
