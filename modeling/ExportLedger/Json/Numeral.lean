import ExportLedger.Text.Decimal
/-!
JSON numbers as they are written, and two questions about them: which natural number they are, and
whether they are too large for a double.
-/
namespace ExportLedger.Json

/-- The parts of a number. A fraction has no digits exactly when there is no point. -/
structure Numeral where
  negative : Bool
  whole : List Char
  fraction : List Char
  /-- Whether the exponent is negative, and its digits. -/
  exponent : Option (Bool × List Char)
  deriving DecidableEq, Repr

namespace Numeral

def ofNat (n : Nat) : Numeral := ⟨false, Decimal.digits n, [], none⟩

def text (n : Numeral) : List Char :=
  (if n.negative then ['-'] else []) ++ n.whole ++
    (if n.fraction = [] then [] else '.' :: n.fraction) ++
    (match n.exponent with
     | none => []
     | some (negative, ds) => 'e' :: (if negative then ['-'] else []) ++ ds)

def exponent? : List Char → Option (Option (Bool × List Char))
  | [] => some none
  | e :: cs =>
    if e = 'e' ∨ e = 'E' then
      let (negative, ds) := match cs with
        | '-' :: ds => (true, ds)
        | '+' :: ds => (false, ds)
        | ds => (false, ds)
      if ds ≠ [] ∧ ds.all Char.isDigit then some (some (negative, ds)) else none
    else none

def unsigned? (negative : Bool) (cs : List Char) : Option Numeral :=
  let whole := cs.takeWhile Char.isDigit
  if whole = [] ∨ (whole.head? = some '0' ∧ whole.length ≠ 1) then none
  else match cs.dropWhile Char.isDigit with
    | '.' :: rest =>
      let fraction := rest.takeWhile Char.isDigit
      if fraction = [] then none
      else (exponent? (rest.dropWhile Char.isDigit)).map (⟨negative, whole, fraction, ·⟩)
    | rest => (exponent? rest).map (⟨negative, whole, [], ·⟩)

/-- The number grammar: no leading zeros, and a digit after the point and in the exponent. -/
def ofChars? : List Char → Option Numeral
  | '-' :: cs => unsigned? true cs
  | cs => unsigned? false cs

/-- Written without sign, point or exponent, and below `bound`. -/
def natural? (bound : Nat) (n : Numeral) : Option Nat :=
  if n.negative = false ∧ n.fraction = [] ∧ n.exponent = none ∧ Decimal.value n.whole < bound then
    some (Decimal.value n.whole)
  else none

/-- Takes digits into `m` while it stays below 2^64, and returns the digits left over. -/
def absorb : Nat → List Char → Nat × List Char
  | m, [] => (m, [])
  | m, c :: cs =>
    let next := m * 10 + (c.toNat - '0'.toNat)
    if next < UInt64.size then absorb next cs else (m, c :: cs)

/-- Nearest number with 53 significant bits, ties to even. -/
def roundToDouble (n : Nat) : Nat :=
  if n < Nat.pow 2 53 then n
  else
    let unit := Nat.pow 2 (n.log2 - 52)
    let q := n / unit
    let r := n % unit
    if unit < 2 * r ∨ (2 * r = unit ∧ q % 2 = 1) then (q + 1) * unit else q * unit

/-- Halfway between the largest double and the next power of two. -/
def infinite : Nat := Nat.pow 2 1024 - Nat.pow 2 970

/-- Whole digits that no longer fit the significand count as powers of ten, such fraction digits are
dropped. The product of the two rounded factors is infinite from halfway past the largest double. -/
def overflows (n : Numeral) : Bool :=
  let (m, wholeRest) := absorb 0 n.whole
  let (m, fractionRest) := absorb m n.fraction
  let written : Int := match n.exponent with
    | none => 0
    | some (negative, ds) => if negative then -Decimal.value ds else Decimal.value ds
  let e : Int := wholeRest.length + fractionRest.length - n.fraction.length + written
  m ≠ 0 && 0 ≤ e &&
    (308 < e || infinite ≤ roundToDouble m * roundToDouble (Nat.pow 10 e.toNat))

end Numeral

end ExportLedger.Json
