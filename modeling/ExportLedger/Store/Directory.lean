import ExportLedger.Store.NameMap
/-!
A directory of a file system: names with files or further directories behind them, and the steps by
which its files change. The file system refuses names that are too long and names with a NUL.
-/
namespace ExportLedger

inductive Entry where
  | file (content : ByteArray)
  | folder

def Entry.isFile : Entry → Bool
  | file _ => true
  | folder => false

inductive FileFault where
  | missing
  | nulInName
  | refused
  deriving DecidableEq, Repr

structure Directory where
  /-- Nothing if the directory itself is not there. -/
  entries? : Option (NameMap Entry)

namespace Directory

def ofEntries (entries : NameMap Entry) : Directory := ⟨some entries⟩

def absent : Directory := ⟨none⟩

/-- What stands in the directory. -/
def entries (d : Directory) : NameMap Entry := d.entries?.getD .empty

def nameLimit : Nat := 255

/-- The entries among which a name is looked up. What the file system says to the name itself comes
first. -/
def reach (d : Directory) (name : String) : Except FileFault (NameMap Entry) :=
  if '\x00' ∈ name.toList then .error .nulInName
  else match d.entries? with
    | none => .error .missing
    | some entries => if nameLimit < name.utf8ByteSize then .error .refused else .ok entries

def find (d : Directory) (name : String) : Except FileFault Entry := do
  match (← d.reach name).get? name with
  | some e => .ok e
  | none => .error .missing

def read (d : Directory) (name : String) : Except FileFault ByteArray := do
  match ← d.find name with
  | .file content => .ok content
  | .folder => .error .refused

def remove (d : Directory) (name : String) : Except FileFault Directory := do
  let entries ← d.reach name
  match entries.get? name with
  | some (.file _) => .ok (.ofEntries (entries.erase name))
  | some .folder => .error .refused
  | none => .error .missing

/-- In place of any file that is there. -/
def put (d : Directory) (name : String) (content : ByteArray) : Except FileFault Directory := do
  let entries ← d.reach name
  match entries.get? name with
  | some .folder => .error .refused
  | _ => .ok (.ofEntries (entries.insert name (.file content)))

/-- One change of the file system that others see as a whole. -/
inductive Step where
  /-- Makes an empty file, in place of any file that is there. -/
  | create (name : String)
  | append (name : String) (content : ByteArray)
  /-- Moves a file, in place of any file that is there. -/
  | rename (source target : String)

def apply (d : Directory) : Step → Except FileFault Directory
  | .create name => d.put name .empty
  | .append name content => do d.put name ((← d.read name) ++ content)
  | .rename source target => do (← d.remove source).put target (← d.read source)

/-- Stops at the first step that fails, and leaves what the steps before it did. -/
def run (d : Directory) : List Step → Except FileFault Unit × Directory
  | [] => (.ok (), d)
  | step :: steps =>
    match d.apply step with
    | .ok d => d.run steps
    | .error e => (.error e, d)

end Directory

end ExportLedger
