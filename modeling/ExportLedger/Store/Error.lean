import ExportLedger.Text.Quoted
/-!
How a single operation on a store can fail.
-/
namespace ExportLedger

inductive Operation where
  | list
  | download
  /-- Asking whether an object is there. -/
  | probe
  | upload
  | delete
  /-- Finding the place of a name. -/
  | resolve
  deriving DecidableEq, Repr

namespace Operation

def text : Operation → String
  | list => "list"
  | download => "download"
  | probe => "exists"
  | upload => "upload"
  | delete => "delete"
  | resolve => "resolve"

end Operation

/-- What stands behind an operation that could not be carried out. -/
inductive Obstacle where
  /-- The store was told to fail. -/
  | injected (operation : Operation) (name : String)
  | invalidName (name : String)
  | nulInName
  | operatingSystem
  | service
  deriving DecidableEq, Repr

namespace Obstacle

def message : Obstacle → String
  | injected operation name => "injected " ++ operation.text ++ " failure for " ++ Text.quoted name
  | invalidName name => "invalid file name: " ++ Text.quoted name
  | nulInName => "file name contained an unexpected NUL byte"
  | operatingSystem => "os error"
  | service => "sdk error"

end Obstacle

inductive StoreError where
  | notFound (container name : String)
  | unavailable (container : String) (operation : Operation) (obstacle : Obstacle)
  deriving DecidableEq, Repr

namespace StoreError

def message : StoreError → String
  | notFound container name => name ++ " not found in " ++ container
  | unavailable container operation _ =>
    "Store unavailable: " ++ operation.text ++ " failed on " ++ container

/-- Texts of what stands behind the error, outermost first. -/
def causes : StoreError → List String
  | notFound _ _ => []
  | unavailable _ _ obstacle => [obstacle.message]

/-- The error's own text and those behind it. -/
def chain (e : StoreError) : List String := e.message :: e.causes

end StoreError

end ExportLedger
