import ExportLedger.Logging.Filter
import ExportLedger.Store.Tree
/-!
Installing the log. A process has one log, so only the first installation takes effect.
-/
namespace ExportLedger.Logging

inductive InstallError where
  | badDirective
  | noDirectory
  | alreadyInstalled
  deriving DecidableEq, Repr

namespace InstallError

def message : InstallError → String
  | badDirective => "Failed to parse filter directive"
  | noDirectory => "Failed to create log directory"
  | alreadyInstalled => "Failed to install tracing subscriber"

end InstallError

/-- A line of the log, as far as the settings determine it. -/
structure Line where
  json : Bool
  level : Level
  target : Option String
  location : Bool
  thread : Bool
  deriving DecidableEq, Repr

/-- The log of a process. -/
structure Log where
  active : Option (Settings × Filter) := none
  /-- Where the log files stand. -/
  tree : Tree := .empty

/-- A log file is named by its day, after the stem if there is one. -/
def fileName (s : Settings) (day : String) : String :=
  if s.fileStem = "" then day else s.fileStem ++ "." ++ day

/-- The log file, in its directory unless the stem leads out of it. From the root it leads out of
the tree. -/
def openFile (tree : Tree) (s : Settings) (day : String) : Tree :=
  if s.fileStem.startsWith "/" then tree
  else (tree.makeFile? (s.directory ++ "/" ++ fileName s day)).getD tree

namespace Log

/-- A file is opened before it is known whether there is a log already. -/
def install (log : Log) (s : Settings) (outside : Option String) (day : String) :
    Except InstallError Unit × Log :=
  match Filter.ofSettings? outside s with
  | none => (.error .badDirective, log)
  | some filter =>
    let tree? :=
      if s.output.toFile then (log.tree.makeFolder? s.directory).map (openFile · s day)
      else some log.tree
    match tree?, log.active with
    | none, _ => (.error .noDirectory, log)
    | some tree, some _ => (.error .alreadyInstalled, { log with tree })
    | some tree, none => (.ok (), ⟨some (s, filter), tree⟩)

/-- The line that an event writes on the console. -/
def consoleLine? (log : Log) (e : Event) : Option Line :=
  match log.active with
  | none => none
  | some (s, filter) =>
    if s.output.toConsole ∧ filter.allows e then
      some {
        json := s.format = .json
        level := e.level
        target := if s.showTarget then some e.target else none
        location := s.showLocation
        thread := s.showThread }
    else none

end Log

end ExportLedger.Logging
