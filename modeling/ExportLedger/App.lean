import ExportLedger.Config.Basic
import ExportLedger.Store.Tree
/-!
The commands, each over a configuration and the two stores. A command that fails tells what went
wrong as a chain of texts, outermost first.
-/
namespace ExportLedger

inductive CommandError where
  | latest (cause : CatalogError)
  | allocation (cause : AllocationError)
  /-- The file to export is not there. -/
  | unreadableInput (path : String)
  | export (cause : ExportError)
  | housekeeping (cause : Retention.Housekeeping.Failure)
  deriving DecidableEq, Repr

namespace CommandError

def chain : CommandError → List String
  | .latest cause => "Failed to load the latest metadata record" :: cause.chain
  | .allocation cause => cause.chain
  | .unreadableInput path => ["Failed to read " ++ path]
  | .export cause => cause.chain
  | .housekeeping cause => [cause.message]

def message (e : CommandError) : String := e.chain.headD ""

def causes (e : CommandError) : List String := e.chain.tail

/-- The whole chain on one line. -/
def text (e : CommandError) : String := ": ".intercalate e.chain

end CommandError

structure App (σ τ : Type) where
  config : Config
  stores : Stores σ τ

namespace App

variable [Container σ] [Container τ]

def latest (app : App σ τ) : Except CommandError Record :=
  (Catalog.latestRecord app.config.metadata.family app.stores.blobs).mapError .latest

def allocate (app : App σ τ) (now : LocalTime) : Except CommandError Draft :=
  (Allocation.allocate app.config.metadata.family app.config.settings now app.stores).mapError
    .allocation

/-- Nothing is done if the input has no content to read. -/
def exportFile (app : App σ τ) (now : LocalTime) (path : String) (content? : Option ByteArray)
    (template : String) (rows : UInt64) : Except CommandError Export.Outcome × App σ τ :=
  match content? with
  | none => (.error (.unreadableInput path), app)
  | some content =>
    let (result, stores) := Export.run (app.config.exportSetup template) now content rows app.stores
    (result.mapError .export, { app with stores })

def housekeeping (app : App σ τ) :
    Except CommandError Retention.Housekeeping.Report × App σ τ :=
  let (result, stores) := Retention.Housekeeping.pass app.config.housekeepingSetup app.stores
  (result.mapError .housekeeping, { app with stores })

/-- In seconds. Zero stands for the configured interval. -/
def period (app : App σ τ) (every : UInt64) : Nat :=
  if every = 0 then app.config.housekeeping.intervalSeconds.toNat else every.toNat

/-- Passes of housekeeping up to the given time. -/
def schedule (app : App σ τ) (every : UInt64) (shutdown : Nat) : App σ τ :=
  let period := app.period every * Retention.Housekeeping.second
  let stores :=
    Retention.Housekeeping.schedule app.config.housekeepingSetup period shutdown app.stores
  { app with stores }

end App

/-- The share's root is made when the program starts. -/
structure RootError where
  root : String
  deriving DecidableEq, Repr

def RootError.message (e : RootError) : String := "Failed to create share root " ++ e.root

/-- The tree stands below the base. -/
def makeRoot (base : String) (tree : Tree) (root : String) : Except RootError Tree :=
  match tree.makeFolder? root with
  | some tree => .ok tree
  | none => .error ⟨base ++ "/" ++ root⟩

end ExportLedger
