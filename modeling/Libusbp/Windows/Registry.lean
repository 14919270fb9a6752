import Libusbp.Windows.SetupApi

/-!
# The registry

Keys and values of the registry of Windows. A query returns the bytes of a value as they are stored,
if they fit in the buffer of the caller, and puts no zero behind them. Reading a string beyond the
bytes that a query returned is a fault.
-/

namespace Libusbp.Windows

open Prog Host

def errorMoreData : UInt32 := 234

/-- A value of the registry. -/
structure RegistryValue where
  dataType : UInt32
  bytes : List UInt8
deriving DecidableEq, Repr

/-- `HKEY`, where `INVALID_HANDLE_VALUE` is no key. -/
structure RegistryKey where
  ref : Nat

instance : Owned RefKind RegistryKey := ⟨fun key => (0, {(.registryKey, key.ref)})⟩

/-- The key, or what `GetLastError` returns instead. -/
def setupDiOpenDevRegKey (failure : Option UInt32) :
    Prog Fault System (Except UInt32 RegistryKey) :=
  match failure with
  | some errorCode => pure (.error errorCode)
  | none => do
    let ref ← acquire .registryKey
    pure (.ok ⟨ref⟩)

def regCloseKey (key : Option RegistryKey) : Prog Fault System Unit :=
  release? .registryKey (key.map (·.ref))

/-- `RegQueryValueEx` with a buffer of `size` bytes, for what is stored under the name. -/
def regQueryValueEx (stored : Except UInt32 RegistryValue) (size : Nat) :
    Except UInt32 RegistryValue :=
  match stored with
  | .error regResult => .error regResult
  | .ok value => if value.bytes.length ≤ size then .ok value else .error errorMoreData

/-- The string at the front of the bytes that a query returned. -/
def cString (bytes : List UInt8) : Prog Fault System String := do
  check .outOfBounds (bytes.contains 0)
  pure (String.ofList ((bytes.takeWhile (· != 0)).map fun c => Char.ofNat c.toNat))

/-- The characters of two bytes. -/
def wideChars : List UInt8 → List UInt16
  | low :: high :: bytes => UInt16.ofNat (low.toNat + 256 * high.toNat) :: wideChars bytes
  | _ => []

/-- The string of such characters at the front of the bytes that a query returned. -/
def wideString (bytes : List UInt8) : Prog Fault System (List UInt16) := do
  check .outOfBounds ((wideChars bytes).contains 0)
  pure ((wideChars bytes).takeWhile (· != 0))

variable {m : Holdings RefKind} {d : Nat} {s : System}

lemma regCloseKey_givesBack {key : Option RegistryKey} :
    GivesBack (regCloseKey key) (owned key) := by
  apply GivesBack.release?.of_eq
  cases key <;> rfl

/-- Opening a key yields a key to close, or an error code. -/
lemma wp_setupDiOpenDevRegKey (own : Holding m d s) {failure : Option UInt32}
    {Q : Except UInt32 RegistryKey → System → Prop}
    (opened : ∀ key s', failure = none → Holding (m + owned key) d s' → Q (.ok key) s')
    (failed : ∀ errorCode, failure = some errorCode → Q (.error errorCode) s) :
    wp (setupDiOpenDevRegKey failure) Q s := by
  cases failure with
  | some errorCode => exact wp_pure.mpr (failed errorCode rfl)
  | none =>
    simp only [setupDiOpenDevRegKey, wp_bind, wp_pure]
    apply own.owns.wp_acquire
    exact fun ref s' own' hd => opened ⟨ref⟩ s' rfl ⟨own', hd.trans own.denials⟩

/-- A query that succeeds returns what is stored. -/
lemma regQueryValueEx_ok {stored : Except UInt32 RegistryValue} {size : Nat} {value : RegistryValue} :
    regQueryValueEx stored size = .ok value ↔ stored = .ok value ∧ value.bytes.length ≤ size := by
  unfold regQueryValueEx
  cases stored with
  | error regResult => simp
  | ok value' =>
    simp only [Except.ok.injEq]
    split
    case isTrue fits =>
      constructor
      · intro eq
        cases eq
        exact ⟨rfl, fits⟩
      · rintro ⟨rfl, _⟩
        rfl
    case isFalse large =>
      constructor
      · rintro ⟨⟩
      · rintro ⟨rfl, fits⟩
        exact absurd fits large

end Libusbp.Windows
