import ExportLedger.Json.Document
/-!
Reading a fixed set of named fields from a document. The document is an object with the fields as
members, or an array with their values in order.
-/
namespace ExportLedger.Json

/-- What a document has to say about one field. -/
inductive Slot where
  | given (d : Document)
  /-- An object without such a member. -/
  | omitted
  /-- An array that ends before the field's place. -/
  | beyondEnd

namespace Slot

def required (read : Document → Option α) : Slot → Option α
  | given d => read d
  | _ => none

/-- A missing member and `null` mean that there is no value; an array still needs the place. -/
def optional (read : Document → Option α) : Slot → Option (Option α)
  | given .null => some none
  | given d => (read d).map some
  | omitted => some none
  | beyondEnd => none

/-- As `optional`, except that an array may end early. -/
def trailing (read : Document → Option α) : Slot → Option (Option α)
  | beyondEnd => some none
  | s => s.optional read

end Slot

namespace Document

def natural? (bound : Nat) : Document → Option Nat
  | .number n => n.natural? bound
  | _ => none

def uint64? (d : Document) : Option UInt64 := (d.natural? UInt64.size).map .ofNat

def text? : Document → Option String
  | .text l => l.text?
  | _ => none

def bool? : Document → Option Bool
  | .bool b => some b
  | _ => none

/-- Reads what the bytes write down. -/
def decode? (read : Document → Option α) (bytes : ByteArray) : Option α :=
  (ofBytes? bytes).bind read

/-- The values of all members of one name. -/
def named (name : String) (members : List (String × α)) : List α :=
  (members.filter (·.1 = name)).map (·.2)

/-- Members of other names are passed over unread, but a member that is asked for may occur only
once. -/
def fields? (names : List String) : Document → Option (List Slot)
  | .array items =>
    if items.length ≤ names.length then
      some (items.map .given ++ List.replicate (names.length - items.length) .beyondEnd)
    else none
  | .object members => do
    let members ← members.mapM fun m => m.1.text?.map (·, m.2)
    names.mapM fun name =>
      match named name members with
      | [] => some .omitted
      | [d] => some (.given d)
      | _ => none
  | _ => none

end Document

end ExportLedger.Json
