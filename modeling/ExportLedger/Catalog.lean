import ExportLedger.Family
import ExportLedger.Store.Basic
/-!
The records of one family in one container: which is the latest, and how a record is loaded and
saved.
-/
namespace ExportLedger

inductive CatalogError where
  /-- The family has no record yet. -/
  | noRecord (container : String)
  | malformed (fileName : String) (fault : SchemaFault)
  | store (error : StoreError)
  deriving DecidableEq, Repr

namespace CatalogError

def message : CatalogError → String
  | noRecord container => "No metadata found in " ++ container
  | malformed fileName fault => "Malformed metadata in " ++ fileName ++ ": " ++ fault.reason
  | store error => error.message

def causes : CatalogError → List String
  | store error => error.causes
  | _ => []

def chain (e : CatalogError) : List String := e.message :: e.causes

end CatalogError

namespace Catalog

variable [Container σ]

/-- The name of the family's latest record. -/
def latestName (family : Family) (s : σ) : Except CatalogError String :=
  let noRecord : CatalogError := .noRecord (Container.name s)
  match family with
  | .sequenced _ => do
    let names ← (Container.list s).mapError .store
    match family.latest? names with
    | some name => .ok name
    | none => .error noRecord
  | .fixed fileName => do
    if ← (Container.exists? s fileName).mapError .store then .ok fileName else .error noRecord

/-- That a file is gone is a failure of the store here, not the absence of a record. -/
def load (family : Family) (s : σ) (fileName : String) : Except CatalogError Record := do
  let bytes ← (Container.download s fileName).mapError .store
  (Record.parse bytes family.detail).mapError (.malformed fileName)

def latestRecord (family : Family) (s : σ) : Except CatalogError Record := do
  load family s (← latestName family s)

/-- Gives the name under which the record is kept. -/
def save (family : Family) (s : σ) (r : Record) : Except CatalogError String × σ :=
  let fileName := family.fileName r.sequence
  let (result, s) := Container.upload s fileName r.text.toUTF8
  ((result.map fun _ => fileName).mapError .store, s)

end Catalog

end ExportLedger
