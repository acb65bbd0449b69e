import ExportLedger.Text.Decimal
import ExportLedger.Text.Lowercase
/-!
What file names tell: the number in front of the first dash, letter case aside how they start, and
which of several names is the newest.
-/
namespace ExportLedger.Naming

/-- A name comes after another by its key or, where the keys are equal, by the name itself. -/
def isAfter [Ord κ] (a b : κ × String) : Bool :=
  (compare a.1 b.1).then (compare a.2 b.2) = .gt

def later [Ord κ] (a b : κ × String) : κ × String := if isAfter b a then b else a

/-- Names without a key do not count. -/
def newest? [Ord κ] (key : String → Option κ) (names : List String) : Option String :=
  match names.filterMap fun name => (key name).map (·, name) with
  | [] => none
  | c :: cs => some (cs.foldl later c).2

/-- The number in front of the first dash, which must be there. -/
def leadingNumber (name : String) : Option UInt64 :=
  if '-' ∈ name.toList then
    (Decimal.natural? UInt64.size (name.toList.takeWhile (· ≠ '-'))).map .ofNat
  else none

/-- Only the ASCII letters have two cases here. -/
def startsWithIgnoringCase : List Char → List Char → Bool
  | [], _ => true
  | _ :: _, [] => false
  | s :: start, c :: cs => s.toLower == c.toLower && startsWithIgnoringCase start cs

/-- Names that differ only in dashes and letter case are the same here. -/
def folded (name : String) : String :=
  String.ofList (Text.lowercase (name.toList.filter (· ≠ '-')))

end ExportLedger.Naming
