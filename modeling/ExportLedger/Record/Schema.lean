import ExportLedger.Record.Basic
/-!
Stored records, read with every condition checked. What is wrong is reported as the first fault in a
fixed order of the conditions.
-/
namespace ExportLedger

/-- How much of an export a record has to tell. -/
inductive Detail where
  | basic
  /-- Also the result file and its rows. -/
  | full
  deriving DecidableEq, Repr

inductive SchemaFault where
  | notJson
  | notAnObject
  | missing (field : Field)
  | empty (field : Field)
  | notAString (field : Field)
  | notANatural (field : Field)
  | notADailyNumber (text : String)
  | notATimestamp (text : String)
  | noChecksum
  deriving DecidableEq, Repr

namespace SchemaFault

def reason : SchemaFault → String
  | notJson => "invalid JSON"
  | notAnObject => "document is not a JSON object"
  | missing field => "missing " ++ field.name
  | empty field => field.name ++ " is empty"
  | notAString field => field.name ++ " is not a string"
  | notANatural field => field.name ++ " is not a non-negative integer"
  | notADailyNumber text => Field.dailySequenceNumber.name ++ ": " ++
      DailyNumber.invalidMessage text
  | notATimestamp text => "created " ++ Text.quoted text ++ " is not a timestamp"
  | noChecksum => "fileName present without checksum"

end SchemaFault

namespace Schema

abbrev Members := List (String × Json.Value)

/-- Of repeated members the last counts, and `null` counts as none. -/
def value? (field : Field) (members : Members) : Option Json.Value :=
  match members.reverse.find? (·.1 = field.name) with
  | none | some (_, .null) => none
  | some (_, v) => some v

def text (field : Field) (members : Members) : Except SchemaFault (Option String) :=
  match value? field members with
  | none => .ok none
  | some (.text s) => if s = "" then .error (.empty field) else .ok (some s)
  | some _ => .error (.notAString field)

def natural (field : Field) (members : Members) : Except SchemaFault (Option UInt64) :=
  match value? field members with
  | none => .ok none
  | some (.number n) =>
    match n.natural? UInt64.size with
    | some n => .ok (some (.ofNat n))
    | none => .error (.notANatural field)
  | some _ => .error (.notANatural field)

def required (field : Field) (found : Option α) : Except SchemaFault α :=
  match found with
  | some v => .ok v
  | none => .error (.missing field)

def daily (s : String) : Except SchemaFault DailyNumber :=
  match DailyNumber.ofText? s with
  | some n => .ok n
  | none => .error (.notADailyNumber s)

def created (s : String) : Except SchemaFault Timestamp :=
  match Rfc3339.strict? s with
  | some t => .ok t
  | none => .error (.notATimestamp s)

def complete (detail : Detail) (r : Record) : Except SchemaFault Record :=
  if detail = .full ∧ r.fileName = none then .error (.missing .fileName)
  else if detail = .full ∧ r.rows = none then .error (.missing .numberOfRows)
  else if r.fileName ≠ none ∧ r.checksum = none then .error .noChecksum
  else .ok r

def ofMembers (members : Members) (detail : Detail) : Except SchemaFault Record := do
  let sequence ← required .sequenceNumber (← natural .sequenceNumber members)
  let daily ← daily (← required .dailySequenceNumber (← text .dailySequenceNumber members))
  let created ← created (← required .created (← text .created members))
  let fileName ← text .fileName members
  let checksum ← text .checksum members
  let rows ← natural .numberOfRows members
  complete detail ⟨⟨sequence, daily, created⟩, fileName, checksum, rows⟩

end Schema

/-- The record that a stored document holds. -/
def Record.parse (bytes : ByteArray) (detail : Detail) : Except SchemaFault Record :=
  match Json.Document.decode? (Json.Document.value? Json.Document.nestingLimit) bytes with
  | some (.object members) => Schema.ofMembers members detail
  | some _ => .error .notAnObject
  | none => .error .notJson

end ExportLedger
