import ExportLedger.Export.Template
/-!
The command line: a command with its options. The value that follows an option is looked at only
when the next known option comes or the arguments end, so that an argument nobody knows is reported
before a bad value.
-/
namespace ExportLedger.CommandLine

inductive Command where
  | latest
  | allocate
  | export (input template : String) (rows : UInt64)
  /-- Once, or every so many seconds; zero stands for the configured interval. -/
  | housekeeping (every : Option UInt64)
  deriving DecidableEq, Repr

structure Invocation where
  verbose : Bool
  command : Command
  deriving DecidableEq, Repr

/-- Why no command is carried out. -/
inductive Refusal where
  | help
  | version
  | helpForNothing
  | missingCommand
  | invalidCommand
  | unknownArgument
  | missingArgument
  /-- A value that cannot be read. -/
  | badValue
  /-- No value, or an empty path. -/
  | invalidValue
  | givenTwice
  | uncalledForValue
  deriving DecidableEq, Repr

namespace Refusal

def message : Refusal → String
  | help | version => ""
  | helpForNothing | missingCommand => "a command is required"
  | invalidCommand => "unrecognized command"
  | unknownArgument => "unexpected argument"
  | missingArgument => "a required argument is missing"
  | badValue => "invalid value for an option"
  | invalidValue => "a value is required for an option"
  | givenTwice => "an option cannot be used twice"
  | uncalledForValue => "unexpected value for an option"

end Refusal

def usage : String :=
  "Usage: tars [-v] latest\n" ++
  "       tars [-v] allocate\n" ++
  "       tars [-v] export --input <INPUT> [--file-name <FILE_NAME>] --rows <ROWS>\n" ++
  "       tars [-v] housekeeping [--every [<SECS>]]"

inductive Switch where
  | verbose
  | help
  | version
  deriving DecidableEq, Repr

/-- Options that have a value. -/
inductive Parameter where
  | input
  | fileName
  | rows
  | every
  deriving DecidableEq, Repr

abbrev Flag := Switch ⊕ Parameter

/-- Where in the command line an argument stands. -/
inductive Level where
  | top
  | latest
  | allocate
  | export
  | housekeeping
  deriving DecidableEq, Repr

namespace Level

/-- Long names, initials and meanings. -/
def flags (level : Level) : List (String × Option Char × Flag) :=
  [("verbose", some 'v', .inl .verbose), ("help", some 'h', .inl .help)] ++
    match level with
    | .top => [("version", some 'V', .inl .version)]
    | .latest | .allocate => []
    | .export =>
      [("input", some 'i', .inr .input), ("file-name", some 'f', .inr .fileName),
        ("rows", some 'r', .inr .rows)]
    | .housekeeping => [("every", none, .inr .every)]

def long? (level : Level) (name : String) : Option Flag :=
  (level.flags.find? (·.1 = name)).map (·.2.2)

def short? (level : Level) (c : Char) : Option Flag :=
  (level.flags.find? (·.2.1 = some c)).map (·.2.2)

/-- The level that a command's name opens. -/
def named? (name : String) : Option Level :=
  [("latest", latest), ("allocate", allocate), ("export", .export),
    ("housekeeping", housekeeping)].lookup name

end Level

def helpCommand : String := "help"

inductive Word where
  /-- After it there are no more options. -/
  | separator
  | long (name : String) (value : Option String)
  /-- A group of initials, the last one perhaps with a value. -/
  | short (cs : List Char)
  | plain (s : String)
  deriving DecidableEq, Repr

/-- A lone dash is a plain word. -/
def Word.ofText (s : String) : Word :=
  match s.toList with
  | ['-', '-'] => .separator
  | '-' :: '-' :: cs =>
    let name := cs.takeWhile (· ≠ '=')
    match cs.drop name.length with
    | [] => .long (String.ofList name) none
    | _ :: v => .long (String.ofList name) (some (String.ofList v))
  | ['-'] => .plain s
  | '-' :: cs => .short cs
  | _ => .plain s

/-- What has been given at a level so far. -/
structure Given where
  verbose : Bool := false
  input : Option String := none
  template : Option String := none
  rows : Option UInt64 := none
  every : Option UInt64 := none
  /-- An option whose value has not been looked at, or has not come. -/
  pending : Option (Parameter × Option String) := none
  deriving DecidableEq, Repr

namespace Given

def has (g : Given) : Parameter → Bool
  | .input => g.input.isSome
  | .fileName => g.template.isSome
  | .rows => g.rows.isSome
  | .every => g.every.isSome

def natural (s : String) : Except Refusal UInt64 :=
  match Decimal.readUnsigned UInt64.size s.toList with
  | .ok n => .ok (.ofNat n)
  | .error _ => .error .badValue

/-- The value in place of one that has not been given. -/
def missing : Parameter → Except Refusal String
  | .every => .ok "0"
  | _ => .error .invalidValue

def set (g : Given) (p : Parameter) (value : Option String) : Except Refusal Given := do
  let v ← value.elim (missing p) .ok
  if g.has p then .error .givenTwice
  match p with
  | .input => if v = "" then .error .invalidValue else .ok { g with input := some v }
  | .fileName => .ok { g with template := some v }
  | .rows => do .ok { g with rows := some (← natural v) }
  | .every => do .ok { g with every := some (← natural v) }

/-- Looks at the option that is pending. -/
def settle (g : Given) : Except Refusal Given :=
  match g.pending with
  | none => .ok g
  | some (p, value) => { g with pending := none }.set p value

def turn (g : Given) (s : Switch) : Except Refusal Given := do
  let g ← g.settle
  match s with
  | .verbose => if g.verbose then .error .givenTwice else .ok { g with verbose := true }
  | .help => .error .help
  | .version => .error .version

/-- An option whose value, if any, is the next argument. -/
def await (g : Given) (p : Parameter) : Except Refusal Given := do
  .ok { ← g.settle with pending := some (p, none) }

/-- An option with its value in the same argument. -/
def attach (g : Given) (p : Parameter) (value : String) : Except Refusal Given := do
  (← g.settle).set p (some value)

def long (g : Given) (level : Level) (name : String) (value : Option String) :
    Except Refusal Given :=
  match level.long? name, value with
  | none, _ => .error .unknownArgument
  | some (.inl _), some _ => .error .uncalledForValue
  | some (.inl s), none => g.turn s
  | some (.inr p), some v => g.attach p v
  | some (.inr p), none => g.await p

def short (g : Given) (level : Level) : List Char → Except Refusal Given
  | [] => .ok g
  | c :: cs =>
    match level.short? c, cs with
    | none, _ => .error .unknownArgument
    | some (.inl s), cs => do (← g.turn s).short level cs
    | some (.inr p), [] => g.await p
    | some (.inr p), '=' :: v => g.attach p (String.ofList v)
    | some (.inr p), v => g.attach p (String.ofList v)

end Given

/-- What belongs to a command, up to the end. -/
def readCommand (level : Level) : Given → List String → Except Refusal Given
  | g, [] => g.settle
  | g, s :: args =>
    match Word.ofText s with
    | .separator => if args = [] then g.settle else .error .unknownArgument
    | .long name value => do readCommand level (← g.long level name value) args
    | .short cs => do readCommand level (← g.short level cs) args
    | .plain s =>
      match g.pending with
      | some (p, none) => readCommand level { g with pending := some (p, some s) } args
      | _ => .error .unknownArgument

def command (level : Level) (g : Given) : Except Refusal Command :=
  match level with
  | .top => .error .missingCommand
  | .latest => .ok .latest
  | .allocate => .ok .allocate
  | .export =>
    match g.input, g.rows with
    | some input, some rows => .ok (.export input (g.template.getD Template.standard) rows)
    | _, _ => .error .missingArgument
  | .housekeeping => .ok (.housekeeping g.every)

/-- Help can be asked for about one command, or about help itself. -/
def readHelp : List String → Refusal
  | [] => .help
  | [name] => if (Level.named? name).isSome ∨ name = helpCommand then .help else .invalidCommand
  | _ => .invalidCommand

/-- The arguments up to the command, and what follows it. -/
def readTop : Given → List String → Except Refusal Invocation
  | g, [] => .error (if g.verbose then .missingCommand else .helpForNothing)
  | g, s :: args =>
    match Word.ofText s with
    | .separator =>
      match args with
      | [] => .error (if g.verbose then .missingCommand else .helpForNothing)
      | s :: _ =>
        .error (if (Level.named? s).isSome ∨ s = helpCommand then .unknownArgument
          else .invalidCommand)
    | .long name value => do readTop (← g.long .top name value) args
    | .short cs => do readTop (← g.short .top cs) args
    | .plain s =>
      match Level.named? s with
      | some level => do
        let inner ← readCommand level {} args
        .ok ⟨g.verbose || inner.verbose, ← command level inner⟩
      | none => .error (if s = helpCommand then readHelp args else .invalidCommand)

/-- Reads the arguments after the program's name. -/
def read (args : List String) : Except Refusal Invocation := readTop {} args

end ExportLedger.CommandLine
