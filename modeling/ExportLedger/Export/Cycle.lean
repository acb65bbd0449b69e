import ExportLedger.Export.Allocation
import ExportLedger.Export.Template
/-!
One export: its numbers, its result file, its record. The record is saved last, so that it never
names a file that was not written.
-/
namespace ExportLedger

inductive ExportError where
  | allocation (cause : AllocationError)
  | upload (fileName : String) (cause : StoreError)
  | persist (cause : CatalogError)
  deriving DecidableEq, Repr

namespace ExportError

def message : ExportError → String
  | allocation cause => cause.message
  | upload fileName _ => "Failed to upload result file " ++ fileName
  | persist _ => "Failed to persist metadata"

def causes : ExportError → List String
  | allocation cause => cause.causes
  | upload _ cause => cause.chain
  | persist cause => cause.chain

def chain (e : ExportError) : List String := e.message :: e.causes

end ExportError

namespace Export

/-- What an export has written. -/
structure Outcome where
  record : Record
  metadataFile : String
  deriving DecidableEq, Repr

def Outcome.toJson (o : Outcome) : Json.Value :=
  .object [("record", o.record.toJson), ("metadataFile", .text o.metadataFile)]

/-- What stays the same from export to export. -/
structure Setup where
  family : Family
  settings : Allocation.Settings
  template : String := Template.standard

def run [Container σ] [Container τ] (setup : Setup) (now : LocalTime) (content : ByteArray)
    (rows : UInt64) (s : Stores σ τ) : Except ExportError Outcome × Stores σ τ :=
  match Allocation.allocate setup.family setup.settings now s with
  | .error cause => (.error (.allocation cause), s)
  | .ok draft =>
    let fileName := Template.render setup.template draft
    let record := draft.record fileName content rows
    match Container.upload s.share fileName content with
    | (.error cause, share) => (.error (.upload fileName cause), { s with share })
    | (.ok (), share) =>
      let (saved, blobs) := Catalog.save setup.family s.blobs record
      ((saved.map (⟨record, ·⟩)).mapError .persist, ⟨share, blobs⟩)

end Export

end ExportLedger
