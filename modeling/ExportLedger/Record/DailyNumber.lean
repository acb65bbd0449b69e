import ExportLedger.Json.Fields
import ExportLedger.Text.Quoted
/-!
The number of an export within its day.
-/
namespace ExportLedger

structure DailyNumber where
  value : UInt32
  deriving DecidableEq, Repr

namespace DailyNumber

instance : LE DailyNumber := ⟨fun a b => a.value ≤ b.value⟩

instance (a b : DailyNumber) : Decidable (a ≤ b) := inferInstanceAs (Decidable (a.value ≤ b.value))

/-- Every day starts from here. -/
def first : DailyNumber := ⟨1⟩

/-- The last number is its own successor. -/
def next (n : DailyNumber) : DailyNumber :=
  if n.value.toNat + 1 < UInt32.size then ⟨n.value + 1⟩ else n

/-- At least three digits. -/
def text (n : DailyNumber) : String := String.ofList (Decimal.padded 3 n.value.toNat)

/-- Any number of leading zeros is allowed, but no sign. -/
def ofText? (s : String) : Option DailyNumber :=
  (Decimal.natural? UInt32.size s.toList).map fun n => ⟨.ofNat n⟩

def invalidMessage (s : String) : String := "Invalid daily sequence number: " ++ Text.quoted s

def toJson (n : DailyNumber) : Json.Value := .text n.text

def ofJson? (d : Json.Document) : Option DailyNumber := d.text?.bind ofText?

end DailyNumber

end ExportLedger
