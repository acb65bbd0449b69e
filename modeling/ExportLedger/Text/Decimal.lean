/-!
Natural numbers as decimal text. Only the ten ASCII digits are digits here; other scripts' digits
are not.
-/
namespace ExportLedger.Decimal

/-- Shortest decimal form, most significant digit first. -/
def digits (n : Nat) : List Char := Nat.toDigits 10 n

/-- Decimal form with leading zeros up to `width`. -/
def padded (width n : Nat) : List Char :=
  List.replicate (width - (digits n).length) '0' ++ digits n

def text (n : Nat) : String := String.ofList (digits n)

/-- Value of a digit string, leading zeros allowed. -/
def value (cs : List Char) : Nat := Nat.ofDigitChars 10 cs 0

inductive ReadError where
  | empty
  | invalidDigit
  | tooLarge
  deriving DecidableEq, Repr

namespace ReadError

def message : ReadError → String
  | .empty => "cannot parse integer from empty string"
  | .invalidDigit => "invalid digit found in string"
  | .tooLarge => "number too large to fit in target type"

end ReadError

/-- Digits are taken one by one, so of a bad digit and an excess the earlier decides. -/
def readDigits (bound : Nat) : Nat → List Char → Except ReadError Nat
  | acc, [] => .ok acc
  | acc, c :: cs =>
    if c.isDigit then
      let next := acc * 10 + (c.toNat - '0'.toNat)
      if next < bound then readDigits bound next cs else .error .tooLarge
    else .error .invalidDigit

/-- An unsigned number below `bound`, with an optional plus sign. -/
def readUnsigned (bound : Nat) : List Char → Except ReadError Nat
  | [] => .error .empty
  | ['+'] => .error .invalidDigit
  | '+' :: cs => readDigits bound 0 cs
  | cs => readDigits bound 0 cs

/-- A non-empty string of digits, read as a number below `bound`. There must be no sign. -/
def natural? (bound : Nat) (cs : List Char) : Option Nat :=
  if cs ≠ [] ∧ cs.all Char.isDigit then (readUnsigned bound cs).toOption else none

theorem value_digits (n : Nat) : value (digits n) = n := Nat.ofDigitChars_ten_toDigits

end ExportLedger.Decimal
