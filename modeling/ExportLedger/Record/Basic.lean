import ExportLedger.Calendar.Rfc3339
import ExportLedger.Digest.Md5
import ExportLedger.Json.Printer
import ExportLedger.Record.DailyNumber
/-!
Records of exports. A draft holds the numbers that an export is given when it starts; its record
also names the result file, once there is one.
-/
namespace ExportLedger

structure Draft where
  sequence : UInt64
  daily : DailyNumber
  created : Timestamp
  deriving DecidableEq, Repr

structure Record extends Draft where
  fileName : Option String
  /-- Of the result file's content. -/
  checksum : Option String
  rows : Option UInt64
  deriving DecidableEq, Repr

/-- The members of a record's document. -/
inductive Field where
  | sequenceNumber
  | dailySequenceNumber
  | created
  | fileName
  | checksum
  | numberOfRows
  deriving DecidableEq, Repr

namespace Field

def name : Field → String
  | sequenceNumber => "sequenceNumber"
  | dailySequenceNumber => "dailySequenceNumber"
  | created => "created"
  | fileName => "fileName"
  | checksum => "checksum"
  | numberOfRows => "numberOfRows"

end Field

namespace Draft

def members (d : Draft) : List (String × Json.Value) :=
  [(Field.sequenceNumber.name, .number (.ofNat d.sequence.toNat)),
    (Field.dailySequenceNumber.name, d.daily.toJson),
    (Field.created.name, .text (Rfc3339.text d.created))]

def toJson (d : Draft) : Json.Value := .object d.members

/-- Nothing but numbers: no result file. -/
def basicRecord (d : Draft) : Record := ⟨d, none, none, none⟩

/-- After the result file has been written. -/
def record (d : Draft) (fileName : String) (content : ByteArray) (rows : UInt64) : Record :=
  ⟨d, some fileName, some (Md5.checksum content), some rows⟩

end Draft

namespace Record

/-- What a record does not have is left out. -/
def toJson (r : Record) : Json.Value :=
  .object (r.members ++
    (r.fileName.map fun s => (Field.fileName.name, Json.Tree.text s)).toList ++
    (r.checksum.map fun s => (Field.checksum.name, Json.Tree.text s)).toList ++
    (r.rows.map fun n => (Field.numberOfRows.name, Json.Tree.number (.ofNat n.toNat))).toList)

/-- The text of the record's file. -/
def text (r : Record) : String := r.toJson.pretty

end Record

end ExportLedger
