import ExportLedger.Calendar.Timestamp
import ExportLedger.Text.Blank
/-!
Timestamps as text. There is one written form, a strict reader for the form of RFC 3339, and a
relaxed one that also takes short fields, signed years and blanks between the parts.
-/
namespace ExportLedger.Rfc3339

def pair (n : Nat) : List Char := Decimal.padded 2 n

/-- Three, six or nine digits, as few as are exact; none for zero. -/
def fractionText (nanos : Nat) : List Char :=
  if nanos = 0 then []
  else if nanos % 1000000 = 0 then '.' :: Decimal.padded 3 (nanos / 1000000)
  else if nanos % 1000 = 0 then '.' :: Decimal.padded 6 (nanos / 1000)
  else '.' :: Decimal.padded 9 nanos

def offsetText (offset : Offset) : List Char :=
  let m := offset.minutes
  if m = 0 then ['Z']
  else (if m < 0 then '-' else '+') :: pair (m.natAbs / 60) ++ ':' :: pair (m.natAbs % 60)

def chars (t : Timestamp) : List Char :=
  let d := t.date
  let s := t.secondOfDay
  let leap := t.nanos / 1000000000
  Date.yearText d.year ++ '-' :: pair d.month ++ '-' :: pair d.day ++ 'T' ::
    pair (s / 3600) ++ ':' :: pair (s / 60 % 60) ++ ':' :: pair (s % 60 + leap) ++
    fractionText (t.nanos % 1000000000) ++ offsetText t.offset

def text (t : Timestamp) : String := String.ofList (chars t)

/-- What the text of a timestamp says, before it is known whether there is such an instant. -/
structure Reading where
  date : Date
  hour : Nat
  minute : Nat
  second : Nat
  nanos : Nat
  offsetMinutes : Int
  deriving DecidableEq, Repr

/-- The first and the last year that a timestamp may have. -/
def yearRange : Int × Int := (-262143, 262142)

def inRange (day : Int) : Bool :=
  (Date.mk yearRange.1 1 1).dayNumber ≤ day && day ≤ (Date.mk yearRange.2 12 31).dayNumber

/-- The date must be in range where it is written and in UTC. Second 60 is a leap second. -/
def Reading.timestamp? (r : Reading) : Option Timestamp := do
  guard (r.date.isValid && inRange r.date.dayNumber && r.hour < 24 && r.minute < 60 &&
    r.second ≤ 60)
  let offset ← Offset.ofMinutes? r.offsetMinutes
  let leap := r.second / 60
  let seconds := r.date.dayNumber * 86400 + r.hour * 3600 + r.minute * 60 +
    (r.second - leap : Nat) -
    60 * offset.minutes
  let nanos := leap * 1000000000 + r.nanos
  guard (inRange (seconds / 86400))
  if h : nanos < 2000000000 then some ⟨seconds, nanos, offset, h⟩ else none

/-- As many digits as there are, up to `most`. -/
def number? (least most : Nat) (cs : List Char) : Option (Nat × List Char) :=
  let ds := (cs.take most).takeWhile Char.isDigit
  if least ≤ ds.length then some (Decimal.value ds, cs.drop ds.length) else none

def skip? (c : Char) : List Char → Option (List Char)
  | [] => none
  | d :: cs => if d = c then some cs else none

/-- Between date and time stands a `T` or a space. -/
def skipDateEnd? : List Char → Option (List Char)
  | 'T' :: cs | 't' :: cs | ' ' :: cs => some cs
  | _ => none

/-- At least one digit after a point; digits after the ninth are dropped. -/
def fraction? : List Char → Option (Nat × List Char)
  | '.' :: cs => do
    let (n, rest) ← number? 1 9 cs
    some (n * Nat.pow 10 (9 - (cs.length - rest.length)), rest.dropWhile Char.isDigit)
  | cs => some (0, cs)

def offsetSign? : List Char → Option (Int × List Char)
  | '+' :: cs => some (1, cs)
  | '-' :: cs | '−' :: cs => some (-1, cs)
  | _ => none

/-- `separator?` passes over what stands between hours and minutes. -/
def offset? (separator? : List Char → Option (List Char)) : List Char → Option (Int × List Char)
  | 'Z' :: cs | 'z' :: cs => some (0, cs)
  | cs => do
    let (sign, cs) ← offsetSign? cs
    let (hours, cs) ← number? 2 2 cs
    let cs ← separator? cs
    let (minutes, cs) ← number? 2 2 cs
    if minutes < 60 then some (sign * (hours * 60 + minutes), cs) else none

def strictReading? (cs : List Char) : Option Reading := do
  let (year, cs) ← number? 4 4 cs
  let (month, cs) ← number? 2 2 (← skip? '-' cs)
  let (day, cs) ← number? 2 2 (← skip? '-' cs)
  let (hour, cs) ← number? 2 2 (← skipDateEnd? cs)
  let (minute, cs) ← number? 2 2 (← skip? ':' cs)
  let (second, cs) ← number? 2 2 (← skip? ':' cs)
  let (nanos, cs) ← fraction? cs
  let (offsetMinutes, cs) ← offset? (skip? ':') cs
  if cs = [] then some ⟨⟨year, month, day⟩, hour, minute, second, nanos, offsetMinutes⟩ else none

def strict? (s : String) : Option Timestamp := (strictReading? s.toList).bind Reading.timestamp?

open Text (trimStart isBlank)

/-- A signed year may have any number of digits. -/
def relaxedYear? (cs : List Char) : Option (Int × List Char) :=
  match trimStart cs with
  | '-' :: cs => (number? 1 cs.length cs).map fun (n, rest) => (-n, rest)
  | '+' :: cs => (number? 1 cs.length cs).map fun (n, rest) => (n, rest)
  | cs => (number? 1 4 cs).map fun (n, rest) => (n, rest)

/-- One or two digits, after blanks. -/
def relaxedPair? (cs : List Char) : Option (Nat × List Char) := number? 1 2 (trimStart cs)

/-- Blanks may come before the mark. -/
def relaxedSkip? (c : Char) (cs : List Char) : Option (List Char) := skip? c (trimStart cs)

/-- `UTC` in any letter case, or as in the strict form but with any colons and blanks between hours
and minutes. -/
def relaxedOffset? (cs : List Char) : Option (Int × List Char) :=
  if (cs.take 3).map Char.toUpper = ['U', 'T', 'C'] then some (0, cs.drop 3)
  else offset? (fun cs => some (cs.dropWhile fun c => c == ':' || isBlank c)) cs

def relaxedReading? (cs : List Char) : Option Reading := do
  let (year, cs) ← relaxedYear? cs
  let (month, cs) ← relaxedPair? (← relaxedSkip? '-' cs)
  let (day, cs) ← relaxedPair? (← relaxedSkip? '-' cs)
  let (hour, cs) ← relaxedPair? (← skipDateEnd? cs)
  let (minute, cs) ← relaxedPair? (← relaxedSkip? ':' cs)
  let (second, cs) ← relaxedPair? (← relaxedSkip? ':' cs)
  let (nanos, cs) ← fraction? cs
  let (offsetMinutes, cs) ← relaxedOffset? (trimStart cs)
  if trimStart cs = [] then some ⟨⟨year, month, day⟩, hour, minute, second, nanos, offsetMinutes⟩
  else none

def relaxed? (s : String) : Option Timestamp := (relaxedReading? s.toList).bind Reading.timestamp?

end ExportLedger.Rfc3339
