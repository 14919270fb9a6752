import Libusbp.Lib.Heap

/-!
# Error objects

The functions of `error.c` over the ledger heap. An error is passed by value with the addresses of
its struct, its message and its code array, as the source hands each error from one call to the
next and never uses the old pointer again. A null pointer to an error is `none`.

A formatting function takes the text that its format string and arguments give, or `none` for a
format string that is a null pointer.
-/

namespace Libusbp

open Prog Heap

/-- What takes the program out of the defined behaviour of C, or a failed assertion. -/
inductive Fault where
  | nullPointer
  | outOfBounds
  | useAfterFree
  | assertion
  | endless
deriving DecidableEq, Repr

/-- `enum libusbp_error_code`. -/
inductive ErrorCode where
  | memory
  | notReady
  | accessDenied
  | noSerialNumber
  | timeout
  | deviceDisconnected
  | stall
  | cancelled
deriving DecidableEq, Repr

def ErrorCode.toUInt32 : ErrorCode → UInt32
  | .memory => 1
  | .notReady => 2
  | .accessDenied => 3
  | .noSerialNumber => 4
  | .timeout => 5
  | .deviceDisconnected => 6
  | .stall => 7
  | .cancelled => 8

instance : Coe ErrorCode UInt32 := ⟨ErrorCode.toUInt32⟩

/-- `struct libusbp_error`, with the address of the struct. -/
structure Error where
  loc : Loc
  doNotFree : Bool
  message : Option (Block String)
  codeCount : Nat
  codeArray : Option (Block (List UInt32))
deriving DecidableEq, Repr

def memErrorCodeArray : Block (List UInt32) := ⟨.static, [ErrorCode.memory]⟩

def errorNoMemory : Error where
  loc := .static
  doNotFree := true
  message := some ⟨.static, "Failed to allocate memory."⟩
  codeCount := 1
  codeArray := some memErrorCodeArray

def errorMaskedByNoMemory : Error where
  loc := .static
  doNotFree := true
  message := some ⟨.static, "Failed to allocate memory for reporting an error."⟩
  codeCount := 1
  codeArray := some memErrorCodeArray

def errorBlank : Error where
  loc := .static
  doNotFree := true
  message := none
  codeCount := 0
  codeArray := none

def sizeofError : Nat := 32

def sizeofUInt32 : Nat := 4

def sizeofPointer : Nat := 8

def sizeMax : Nat := 2 ^ 64 - 1

/-- The codes that the array holds. -/
def Error.codes (e : Error) : List UInt32 :=
  match e.codeArray with
  | none => []
  | some b => b.val

def errorFree (error : Option Error) : Prog Fault Heap Unit :=
  match error with
  | none => pure ()
  | some e =>
    if e.doNotFree then pure ()
    else do
      free (e.message.map (·.loc))
      free (e.codeArray.map (·.loc))
      free (some e.loc)

/-- The code count that a copy starts from. -/
def Error.copiedCount (e : Error) : Nat := if e.codeArray.isNone then 0 else e.codeCount

/-- The copy of an error into freshly allocated blocks. -/
def Error.copyInto (e : Error) (error message : Addr) (codeArray : Option Addr) : Error where
  loc := .heap error
  doNotFree := false
  message := some ⟨.heap message, (e.message.map (·.val)).getD ""⟩
  codeCount := e.copiedCount
  codeArray := codeArray.map fun a => ⟨.heap a, e.codes.take e.copiedCount⟩

def errorCopy (srcError : Option Error) : Prog Fault Heap (Option Error) :=
  match srcError with
  | none => pure none
  | some e => do
    let messageLength := ((e.message.map (·.val)).getD "").length
    let codeCount := e.copiedCount
    let newError ← malloc sizeofError
    let newMessage ← malloc (messageLength + 1)
    let newCodeArray ← malloc (codeCount * sizeofUInt32)
    match newError, newMessage, codeCount != 0 && newCodeArray.isNone with
    | some error, some message, false => pure (some (e.copyInto error message newCodeArray))
    -- a null array is a failure only if there are codes to store in it
    | _, _, _ => do
      free (newError.map .heap)
      free (newMessage.map .heap)
      free (newCodeArray.map .heap)
      pure (some errorMaskedByNoMemory)

def errorMakeMutable (error : Option Error) : Prog Fault Heap (Option Error) :=
  let e := error.getD errorBlank
  if e.doNotFree then errorCopy (some e) else pure (some e)

def errorAddV (error : Option Error) (format : Option String) : Prog Fault Heap (Option Error) :=
  match format with
  | none => pure error
  | some text => do
    match ← errorMakeMutable error with
    | none => pure none
    | some e =>
      -- making it mutable failed, and `e` is the static error that says so
      if e.doNotFree then pure (some e)
      else do
        let inner := e.message.getD ⟨.static, ""⟩
        let outerMessageLength := text.length
        let innerMessageLength := inner.val.length
        let separatorLength :=
          if innerMessageLength != 0 && outerMessageLength != 0 then 2 else 0
        let messageLength := outerMessageLength + separatorLength + innerMessageLength
        match ← malloc (messageLength + 1) with
        | none => do
          errorFree (some { e with message := some inner })
          pure (some errorMaskedByNoMemory)
        | some message => do
          let separator := if separatorLength != 0 then "  " else ""
          free (some inner.loc)
          pure (some { e with message := some ⟨.heap message, text ++ separator ++ inner.val⟩ })

def errorAddCode (error : Option Error) (code : UInt32) : Prog Fault Heap (Option Error) := do
  match ← errorMakeMutable error with
  | none => pure none
  | some e =>
    if e.doNotFree then pure (some e)
    -- the size of the larger array would overflow
    else if e.codeCount ≥ sizeMax / sizeofUInt32 then pure (some e)
    else do
      let size := (e.codeCount + 1) * sizeofUInt32
      match ← realloc (e.codeArray.map (·.loc)) size with
      | none => do
        errorFree (some e)
        pure (some errorMaskedByNoMemory)
      | some newArray =>
        pure (some { e with
          codeArray := some ⟨.heap newArray, e.codes.take e.codeCount ++ [code]⟩
          codeCount := e.codeCount + 1 })

def errorAdd (error : Option Error) (format : Option String) : Prog Fault Heap (Option Error) :=
  errorAddV error format

def errorCreate (format : Option String) : Prog Fault Heap (Option Error) :=
  errorAddV none format

def errorHasCode (error : Option Error) (code : UInt32) : Bool :=
  match error with
  | none => false
  | some e => (e.codes.take e.codeCount).any (· == code)

def errorGetMessage (error : Option Error) : String :=
  match error with
  | none => "No error."
  | some e => (e.message.map (·.val)).getD ""

/-- A number in hexadecimal, in at least `width` digits. -/
def formatHex (width n : Nat) : String :=
  let digits := Nat.toDigits 16 n
  String.ofList (List.replicate (width - digits.length) '0' ++ digits)

end Libusbp
