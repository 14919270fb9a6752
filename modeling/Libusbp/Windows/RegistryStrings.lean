import Libusbp.Windows.HandleDiscipline
import Libusbp.Windows.SerialPort

/-!
# Strings of the registry

A value of the registry that is read as a string, without a check that it ends: the port name of a
serial port and the device interface GUIDs of a generic interface.
-/

namespace Libusbp.Windows

open Prog Host

/-- Wherever this value is the port name, `libusbp_serial_port_create` reads nothing behind its bytes. -/
def PortNameInside (value : RegistryValue) : Prop :=
  ∀ (m : Holdings RefKind) (d : Nat) (s : System) (formatMessage : UInt32 → String)
    (device : Box Device) (id : String) (interfaceNumber : UInt8) (composite : Bool)
    (os retry : SerialPortAnswers), Holding m d s → text device.val.deviceInstanceId = some id →
    (∀ info, os.portName info = .ok value) → (∀ info, retry.portName info = .ok value) →
    wp (serialPortCreate formatMessage (some device) interfaceNumber composite true os retry)
      (fun _ _ => True) s

/-- Wherever this value is what is stored under `DeviceInterfaceGUIDs`,
`get_first_device_interface_guid` reads nothing behind its bytes. -/
def GuidsInside (value : RegistryValue) : Prop :=
  ∀ (m : Holdings RefKind) (d : Nat) (s : System) (formatMessage : UInt32 → String)
    (os : GuidAnswers), Holding m d s → os.stored = .ok value →
    wp (getFirstDeviceInterfaceGuid formatMessage os) (fun _ _ => True) s

variable {m : Holdings RefKind} {d : Nat} {s : System} {formatMessage : UInt32 → String}

/-- The device, its node and the answers with which the port name is read. -/
def namedNode : DevInfo where
  devInst := 1
  instanceId := .ok "USB"
  hardwareIds := ⟨none, 0, .error errorInvalidData⟩
  parent := .ok 0
  deviceId := .ok "USB"

def namedDevice : Box Device := ⟨100, { deviceInstanceId := some ⟨101, "USB"⟩ }⟩

def namedAnswers (value : RegistryValue) : SerialPortAnswers where
  interface := ⟨.ok ⟨[namedNode], errorNoMoreItems, by decide⟩, .error 13, .error 6, .error 6, .error 6⟩
  keyError _ := none
  portName _ := .ok value

/-- With these answers the steps come to the port name. -/
lemma serialPortSteps_reach (formatMessage : UInt32 → String) (value : RegistryValue) :
    ∃ l s', stages ((serialPortSteps formatMessage namedDevice 0 false (namedAnswers value)).take 5) {}
        (⟨⟨fun _ => true, 0, []⟩, 0, []⟩ : System) = .ok ((none, l), s') ∧
      l.node.isSome = true ∧ l.newSp.isSome = true :=
  ⟨_, _, rfl, rfl, rfl⟩

/-- A string that was read ends. -/
lemma cString_ok {bytes : List UInt8} {string : String} {s' : System}
    (run : cString bytes s = .ok (string, s')) : bytes.contains 0 = true := by
  obtain ⟨_, _, checked, _⟩ := bind_ok run
  cases ends : bytes.contains 0 with
  | true => rfl
  | false =>
    rw [ends] at checked
    cases checked

/-- A `REG_SZ` that fits in the array is returned as it is. -/
lemma queryPortName_accepts {value : RegistryValue} (sz : value.dataType = regSz)
    (fits : value.bytes.length ≤ sizeofPortName) :
    queryPortName formatMessage (.ok value) = pure (none, value.bytes) := by
  simp only [queryPortName, regQueryValueEx, if_pos fits, if_neg (not_ne_iff.mpr sz)]

/-- A function that returned read a port name that ends. -/
lemma portName_ends {value : RegistryValue} (inside : PortNameInside value)
    (sz : value.dataType = regSz) (fits : value.bytes.length ≤ sizeofPortName) :
    value.bytes.contains 0 = true := by
  have returns := inside 0 0 ⟨⟨fun _ => true, 0, []⟩, 0, []⟩ (fun _ => "") namedDevice "USB" 0 false
    (namedAnswers value) (namedAnswers value) ⟨.empty _, rfl⟩ rfl (fun _ => rfl) fun _ => rfl
  simp only [serialPortCreate, Bool.true_eq_false, if_false, wp_bind] at returns
  obtain ⟨r, s₁, attempt, _⟩ := returns
  obtain ⟨r', s₂, steps, _⟩ := bind_ok attempt
  obtain ⟨l, s₃, run, node, newSp⟩ := serialPortSteps_reach (fun _ => "") value
  rw [← List.take_append_drop 5 (serialPortSteps _ _ _ _ _), stages_append run] at steps
  obtain ⟨newSp, eq, node, eq'⟩ : ∃ newSp, l.newSp = some newSp ∧ ∃ node, l.node = some node :=
    ⟨_, Option.some_get newSp |>.symm, _, Option.some_get node |>.symm⟩
  rcases stages_into_ok steps with ⟨e, x, _, failed⟩ | ⟨bytes, s₄, query, rest⟩
  · rw [eq', expect, pure_bind, namedAnswers, queryPortName_accepts sz fits] at failed
    cases failed
  · rw [eq', expect, pure_bind, namedAnswers, queryPortName_accepts sz fits] at query
    cases query
    rcases stages_into_ok rest with ⟨e, x, _, copied⟩ | ⟨name, s₅, copied, _⟩
    all_goals
      simp only [eq, expect, pure_bind] at copied
      obtain ⟨_, _, read, _⟩ := bind_ok copied
      exact cString_ok read

/-- A function that returned read device interface GUIDs that end. -/
lemma guids_end {value : RegistryValue} (inside : GuidsInside value)
    (multi : value.dataType = regMultiSz) (fits : value.bytes.length < 2 ^ 32) :
    (wideChars value.bytes).contains 0 = true := by
  have returns := inside 0 0 ⟨⟨fun _ => true, 0, []⟩, 0, []⟩ (fun _ => "")
    ⟨none, .ok (UInt32.ofNat value.bytes.length), .ok value, fun _ => .ok 0⟩ ⟨.empty _, rfl⟩ rfl
  have start : Holding 0 0 (⟨⟨fun _ => true, 0, []⟩, 0, []⟩ : System) := ⟨.empty _, rfl⟩
  obtain ⟨key, s₁, own₁, heap, same⟩ := getFirstGuid_opened start
    (rfl : (⟨none, .ok (UInt32.ofNat value.bytes.length), .ok value, fun _ => .ok 0⟩ :
      GuidAnswers).bufferSize = some _)
  rw [same] at returns
  refine firstGuid_ends own₁ (by rw [heap]) ?_ returns multi
  rw [regQueryValueEx_ok, UInt32.toNat_ofNat_of_lt' fits]
  exact ⟨rfl, Nat.le_refl _⟩

/-- A value of the registry is read inside of the bytes that the query returned exactly if it is not
accepted, because of its type or its size, or contains the zero that ends its first string. Nothing
checks that it does. -/
theorem registryStrings_inside_iff (value : RegistryValue) :
    (PortNameInside value ↔ (value.dataType = regSz → value.bytes.length ≤ sizeofPortName →
      value.bytes.contains 0 = true)) ∧
    (GuidsInside value ↔ (value.dataType = regMultiSz → value.bytes.length < 2 ^ 32 →
      (wideChars value.bytes).contains 0 = true)) := by
  refine ⟨⟨fun inside => portName_ends inside, ?_⟩, ⟨fun inside => guids_end inside, ?_⟩⟩
  · intro ends m d s formatMessage device id interfaceNumber composite os retry own built stored stored'
    have accepted : ∀ (os : SerialPortAnswers), (∀ info, os.portName info = .ok value) → os.Ends := by
      intro os stored info bytes query
      rw [stored info, regQueryValueEx_ok] at query
      obtain ⟨same, fits⟩ := query
      cases same
      exact ends rfl fits
    exact wp_mono (serialPortCreate_returns own built formatMessage interfaceNumber composite
      (accepted os stored) (accepted retry stored')) fun _ _ _ => trivial
  · intro ends m d s formatMessage os own stored
    apply getFirstGuid_returns own
    intro size value' _ query multi
    rw [stored, regQueryValueEx_ok] at query
    obtain ⟨same, fits⟩ := query
    cases same
    exact ends multi (Nat.lt_of_le_of_lt fits size.toNat_lt)

/-- A port name of four bytes without a zero, and half of a GUID. -/
theorem registryStrings_outside :
    ¬PortNameInside ⟨regSz, [67, 79, 77, 52]⟩ ∧ ¬GuidsInside ⟨regMultiSz, [123, 0, 49, 0]⟩ :=
  ⟨fun inside => absurd (portName_ends inside rfl (by decide)) (by decide),
    fun inside => absurd (guids_end inside rfl (by decide)) (by decide)⟩

end Libusbp.Windows
