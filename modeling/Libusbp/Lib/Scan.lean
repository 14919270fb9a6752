import Mathlib.Algebra.Group.Int.Defs
import Mathlib.Data.List.TakeWhile

/-!
# Directives of `sscanf`

A directive takes characters from the front of the input or does not match. A conversion reads the
longest input item that is, or begins, a number of its form and has at most the given width; an item
that is only the beginning of a number does not match. Numbers wrap to the size of their type.
-/

namespace Scan

/-- `isspace` in the C locale. -/
def isSpace (c : Char) : Bool :=
  c == ' ' || c == '\t' || c == '\n' || c == '\x0b' || c == '\x0c' || c == '\r'

/-- The value of a hexadecimal digit. -/
def hexDigit? (c : Char) : Option Nat :=
  if '0' ≤ c ∧ c ≤ '9' then some (c.toNat - '0'.toNat)
  else if 'a' ≤ c ∧ c ≤ 'f' then some (c.toNat - 'a'.toNat + 10)
  else if 'A' ≤ c ∧ c ≤ 'F' then some (c.toNat - 'A'.toNat + 10)
  else none

/-- Ordinary characters of the format. -/
def literal : List Char → List Char → Option (List Char)
  | [], s => some s
  | c :: cs, d :: s => if c = d then literal cs s else none
  | _ :: _, [] => none

/-- The directive `%*[^c]`. -/
def runWithout (c : Char) (s : List Char) : Option (List Char) :=
  if (s.takeWhile (· != c)).isEmpty then none else some (s.dropWhile (· != c))

/-- Digits at the front of the input, at most `width` of them. -/
def hexDigits (width : Nat) (s : List Char) : Option (Nat × List Char) :=
  let item := (s.take width).takeWhile fun c => (hexDigit? c).isSome
  if item.isEmpty then none
  else some ((item.filterMap hexDigit?).foldl (fun n d => 16 * n + d) 0, s.drop item.length)

/-- A number without its sign. -/
def hexUnsigned (width : Nat) (s : List Char) : Option (Nat × List Char) :=
  match s with
  | '0' :: x :: rest =>
    if (x = 'x' ∨ x = 'X') ∧ 2 ≤ width then hexDigits (width - 2) rest else hexDigits width s
  | _ => hexDigits width s

/-- The conversion `%x` with a maximum field width. -/
def hex (width : Nat) (s : List Char) : Option (Int × List Char) :=
  match s.dropWhile isSpace with
  | '-' :: rest => (hexUnsigned (width - 1) rest).map fun r => (-(r.1 : Int), r.2)
  | '+' :: rest => (hexUnsigned (width - 1) rest).map fun r => ((r.1 : Int), r.2)
  | rest => (hexUnsigned width rest).map fun r => ((r.1 : Int), r.2)

/-- What `%hhx` stores. -/
def toUInt8 (n : Int) : UInt8 := UInt8.ofNat (n % 2 ^ 8).toNat

/-- What `%hx` stores. -/
def toUInt16 (n : Int) : UInt16 := UInt16.ofNat (n % 2 ^ 16).toNat

/-- What `%x` stores. -/
def toUInt32 (n : Int) : UInt32 := UInt32.ofNat (n % 2 ^ 32).toNat

example : hex 4 "1209\n".toList = some (0x1209, ['\n']) := by decide

example : hex 2 "0x1".toList = none := by decide

/-- The number that hexadecimal digits stand for. -/
def hexValue (s : List Char) : Nat := (s.filterMap hexDigit?).foldl (fun n d => 16 * n + d) 0

/-- The hexadecimal digit of a number below sixteen, as a capital letter from ten on. -/
def capitalDigit (d : Nat) : Char := Char.ofNat (if d < 10 then '0'.toNat + d else 'A'.toNat - 10 + d)

/-- The four digits of a number of 16 bits. -/
def hexWord (n : UInt16) : List Char :=
  [4096, 256, 16, 1].map fun weight => capitalDigit (n.toNat / weight % 16)

lemma literal_append (cs s : List Char) : literal cs (cs ++ s) = some s := by
  induction cs with
  | nil => rfl
  | cons c cs ih =>
    rw [List.cons_append, literal, if_pos rfl]
    exact ih

/-- Ordinary characters only match themselves. -/
lemma literal_matches {cs s r : List Char} (h : literal cs s = some r) : s = cs ++ r := by
  induction cs generalizing s with
  | nil => exact Option.some.inj h
  | cons c cs ih =>
    cases s with
    | nil => cases h
    | cons d s =>
      rw [literal] at h
      split at h
      case isTrue eq => rw [eq, List.cons_append, ← ih h]
      case isFalse => cases h

/-- Digits fill the field, and what follows is left. -/
lemma hexDigits_append {cs : List Char} (digits : ∀ c ∈ cs, (hexDigit? c).isSome = true)
    (ne : cs ≠ []) (s : List Char) : hexDigits cs.length (cs ++ s) = some (hexValue cs, s) := by
  have item : ((cs ++ s).take cs.length).takeWhile (fun c => (hexDigit? c).isSome) = cs := by
    rw [List.take_left, List.takeWhile_eq_self_iff]
    exact digits
  have more : ¬cs.isEmpty = true := by simpa using ne
  simp only [hexDigits, item, if_neg more, List.drop_left]
  rfl

lemma hexUnsigned_append {cs : List Char} (digits : ∀ c ∈ cs, (hexDigit? c).isSome = true)
    (ne : cs ≠ []) (s : List Char) : hexUnsigned cs.length (cs ++ s) = some (hexValue cs, s) := by
  unfold hexUnsigned
  split
  case h_1 x rest eq =>
    split
    case isTrue prefixed =>
      -- the second of the digits is none of the letters of a prefix
      obtain ⟨letter, wide⟩ := prefixed
      match cs, digits, wide with
      | [], _, wide => cases wide
      | [_], _, wide => exact absurd wide (Nat.not_succ_le_self 1)
      | c :: c' :: cs, digits, _ =>
        cases eq
        have digit := digits x (by simp)
        rcases letter with rfl | rfl <;> exact absurd digit (by decide)
    case isFalse => exact hexDigits_append digits ne s
  case h_2 => exact hexDigits_append digits ne s

/-- A field full of digits is converted to the number that they stand for. -/
lemma hex_append {cs : List Char} (digits : ∀ c ∈ cs, (hexDigit? c).isSome = true) (ne : cs ≠ [])
    (s : List Char) : hex cs.length (cs ++ s) = some ((hexValue cs : Int), s) := by
  have number := hexUnsigned_append digits ne s
  cases cs with
  | nil => exact absurd rfl ne
  | cons c cs =>
    have digit := digits c List.mem_cons_self
    have start : ((c :: cs) ++ s).dropWhile isSpace = (c :: cs) ++ s := by
      apply List.dropWhile_cons_of_neg
      intro space
      simp only [isSpace, Bool.or_eq_true, beq_iff_eq] at space
      rcases space with ((((rfl | rfl) | rfl) | rfl) | rfl) | rfl <;> exact absurd digit (by decide)
    rw [hex, start]
    split
    case h_1 eq =>
      cases eq
      exact absurd digit (by decide)
    case h_2 eq =>
      cases eq
      exact absurd digit (by decide)
    case h_3 =>
      rw [number]
      rfl

lemma hexDigit?_capitalDigit : ∀ d < 16, hexDigit? (capitalDigit d) = some d := by decide

lemma hexWord_digits (n : UInt16) : ∀ c ∈ hexWord n, (hexDigit? c).isSome = true := by
  intro c mem
  obtain ⟨weight, _, rfl⟩ := List.mem_map.mp mem
  rw [hexDigit?_capitalDigit _ (Nat.mod_lt _ (by decide))]
  rfl

lemma hexValue_hexWord (n : UInt16) : hexValue (hexWord n) = n.toNat := by
  have lt := n.toNat_lt
  have digit (weight : Nat) := hexDigit?_capitalDigit (n.toNat / weight % 16) (Nat.mod_lt _ (by decide))
  simp only [hexValue, hexWord, List.map_cons, List.map_nil, List.filterMap_cons, List.filterMap_nil,
    digit, List.foldl_cons, List.foldl_nil]
  omega

/-- Four digits are read back as the number that was written. -/
lemma hex_hexWord (n : UInt16) (s : List Char) :
    hex 4 (hexWord n ++ s) = some ((n.toNat : Int), s) := by
  have read := hex_append (hexWord_digits n) (List.cons_ne_nil _ _) s
  rwa [hexValue_hexWord] at read

lemma toUInt16_toNat (n : UInt16) : toUInt16 (n.toNat : Int) = n := by
  have lt := n.toNat_lt
  have small : ((n.toNat : Int) % 2 ^ 16).toNat = n.toNat := by omega
  rw [toUInt16, small]
  exact UInt16.ofNat_toNat

end Scan
