import ExportLedger.Config.Environment
import ExportLedger.Text.Lowercase
/-!
Settings of the log: what is written, where to, and in which form.
-/
namespace ExportLedger.Logging

inductive Level where
  | trace
  | debug
  | info
  | warn
  | error
  deriving DecidableEq, Repr

inductive Output where
  | console
  | file
  | both
  deriving DecidableEq, Repr

inductive Format where
  | text
  | json
  deriving DecidableEq, Repr

inductive SettingsFault where
  | level (text : String)
  | output (text : String)
  | format (text : String)
  deriving DecidableEq, Repr

namespace SettingsFault

def message : SettingsFault → String
  | level text => "Invalid log level: " ++ text
  | output text => "Invalid log output: " ++ text
  | format text => "Invalid log format: " ++ text

end SettingsFault

/-- Looks a word up without regard to letter case. -/
def lookup? (words : List (String × α)) (s : String) : Option α :=
  words.lookup (String.ofList (Text.lowercase s.toList))

namespace Level

def name : Level → String
  | trace => "trace"
  | debug => "debug"
  | info => "info"
  | warn => "warn"
  | error => "error"

def words : List (String × Level) :=
  [("trace", trace), ("debug", debug), ("info", info), ("warn", warn), ("warning", warn),
    ("error", error)]

def ofText (s : String) : Except SettingsFault Level :=
  match lookup? words s with
  | some level => .ok level
  | none => .error (.level s)

/-- How much is written at this level: errors alone are least, everything is most. -/
def verbosity : Level → Nat
  | error => 1
  | warn => 2
  | info => 3
  | debug => 4
  | trace => 5

end Level

namespace Output

def name : Output → String
  | console => "console"
  | file => "file"
  | both => "both"

def words : List (String × Output) :=
  [("console", console), ("stdout", console), ("file", file), ("both", both), ("all", both)]

def ofText (s : String) : Except SettingsFault Output :=
  match lookup? words s with
  | some output => .ok output
  | none => .error (.output s)

def toConsole : Output → Bool
  | console | both => true
  | file => false

def toFile : Output → Bool
  | file | both => true
  | console => false

end Output

namespace Format

def name : Format → String
  | text => "text"
  | json => "json"

def words : List (String × Format) := [("text", text), ("pretty", text), ("json", json)]

def ofText (s : String) : Except SettingsFault Format :=
  match lookup? words s with
  | some format => .ok format
  | none => .error (.format s)

end Format

structure Settings where
  level : Level := .info
  output : Output := .console
  format : Format := .text
  directory : String := "./logs"
  /-- What the name of a log file starts with. -/
  fileStem : String := "tars"
  /-- More directives for the filter, separated by commas. -/
  directives : Option String := none
  showLocation : Bool := false
  showThread : Bool := false
  showTarget : Bool := true
  deriving DecidableEq, Repr

namespace Variable

def level : String := "TARS_LOG_LEVEL"
def output : String := "TARS_LOG_OUTPUT"
def format : String := "TARS_LOG_FORMAT"
def directory : String := "TARS_LOG_DIR"
def fileStem : String := "TARS_LOG_FILE_PREFIX"
def directives : String := "TARS_LOG_FILTER"

def all : List String := [level, output, format, directory, fileStem, directives]

end Variable

namespace Settings

/-- What the environment says goes before what is set. -/
def merge (s : Settings) (env : Environment) : Except SettingsFault Settings := do
  let level ← (env.get? Variable.level).elim (.ok s.level) Level.ofText
  let output ← (env.get? Variable.output).elim (.ok s.output) Output.ofText
  let format ← (env.get? Variable.format).elim (.ok s.format) Format.ofText
  .ok { s with
    level, output, format
    directory := (env.get? Variable.directory).getD s.directory
    fileStem := (env.get? Variable.fileStem).getD s.fileStem
    directives := (env.get? Variable.directives).or s.directives }

/-- For the commands, which are quiet unless asked to be verbose. An environment with a fault is
ignored. -/
def forCommand (verbose : Bool) (env : Environment) : Settings :=
  let quiet : Settings := { level := if verbose then .debug else .warn }
  match quiet.merge env with
  | .ok merged => merged
  | .error _ => quiet

def toJson (s : Settings) : Json.Value :=
  .object [("level", .text s.level.name), ("output", .text s.output.name),
    ("format", .text s.format.name), ("log_dir", .text s.directory),
    ("log_file_prefix", .text s.fileStem),
    ("filter_directives", (s.directives.map .text).getD .null),
    ("include_location", .bool s.showLocation), ("include_thread_ids", .bool s.showThread),
    ("include_targets", .bool s.showTarget)]

end Settings

end ExportLedger.Logging
