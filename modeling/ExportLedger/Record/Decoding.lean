import ExportLedger.Record.Basic
/-!
Drafts and records read field by field from documents, without further conditions on the values.
-/
namespace ExportLedger

open Json (Document Slot)

def timestamp? (d : Document) : Option Timestamp := d.text?.bind Rfc3339.relaxed?

namespace Draft

def fields : List Field := [.sequenceNumber, .dailySequenceNumber, .created]

def ofJson? (d : Document) : Option Draft := do
  match ← d.fields? (fields.map Field.name) with
  | [sequence, daily, created] =>
    some {
      sequence := ← sequence.required Document.uint64?
      daily := ← daily.required DailyNumber.ofJson?
      created := ← created.required timestamp? }
  | _ => none

end Draft

namespace Record

def fields : List Field := Draft.fields ++ [.fileName, .checksum, .numberOfRows]

def ofJson? (d : Document) : Option Record := do
  match ← d.fields? (fields.map Field.name) with
  | [sequence, daily, created, fileName, checksum, rows] =>
    some {
      sequence := ← sequence.required Document.uint64?
      daily := ← daily.required DailyNumber.ofJson?
      created := ← created.required timestamp?
      fileName := ← fileName.trailing Document.text?
      checksum := ← checksum.trailing Document.text?
      rows := ← rows.trailing Document.uint64? }
  | _ => none

end Record

end ExportLedger
