import ExportLedger.App
import ExportLedger.CommandLine
import ExportLedger.Config.Environment
import ExportLedger.Logging.Install
import ExportLedger.Store.Share
import Std.Time.DateTime.Timestamp
/-!
The program. Both stores are kept as directories: the share under its root, and the records in a
directory named for their container, below the endpoint if there is one. Time is told in UTC.
-/
namespace ExportLedger

def readEnvironment : IO Environment := do
  let keys := Variable.all ++ Logging.Variable.all
  let values ← keys.mapM fun key => do return (key, ← IO.getEnv key)
  return ⟨fun key => (values.lookup key).join⟩

def readClock : IO LocalTime := do
  let now ← Std.Time.Timestamp.now
  let nanos := now.toNanosecondsSinceUnixEpoch.val
  let part := (nanos % 1000000000).toNat
  have hpart : part < 2000000000 := by omega
  return Timestamp.toLocal ⟨nanos / 1000000000, part, .utc, hpart⟩ (.fixed .utc)

/-- What cannot be read as a file counts as a folder. -/
def readEntry (path : String) : IO Entry := do
  try return .file (← IO.FS.readBinFile path)
  catch _ => return .folder

def readShare (path name : String) (chunkBytes : Nat) : IO Share := do
  let entries ← (← ((← IO.currentDir) / path).readDir).toList.mapM fun e => do
    return (e.fileName, ← readEntry (path ++ "/" ++ e.fileName))
  return ⟨name, .ofEntries (.ofList entries), chunkBytes⟩

/-- Brings a directory up to date with what has become of its entries. -/
def writeChanges (path : String) (before after : NameMap Entry) : IO Unit := do
  for name in before.names do
    unless after.contains name do IO.FS.removeFile (path ++ "/" ++ name)
  for (name, e) in after.entries do
    match e, before.get? name with
    | .file content, some (.file old) =>
      unless content.toList = old.toList do IO.FS.writeBinFile (path ++ "/" ++ name) content
    | .file content, _ => IO.FS.writeBinFile (path ++ "/" ++ name) content
    | .folder, _ => pure ()

def blobsPath (c : Config) : String := c.storage.endpoint.getD "." ++ "/" ++ c.storage.container

def connect (c : Config) : IO (App Share Share) := do
  IO.FS.createDirAll c.share.root
  IO.FS.createDirAll (blobsPath c)
  let chunkBytes := c.share.chunkBytes.toNat
  return {
    config := c
    stores := {
      share := ← readShare c.share.root c.share.name chunkBytes
      blobs := ← readShare (blobsPath c) c.storage.container chunkBytes } }

def store (before after : App Share Share) : IO Unit := do
  writeChanges before.config.share.root before.stores.share.directory.entries
    after.stores.share.directory.entries
  writeChanges (blobsPath before.config) before.stores.blobs.directory.entries
    after.stores.blobs.directory.entries

def report (toJson : α → Json.Value) : Except CommandError α → IO UInt32
  | .ok a => do
    IO.println (toJson a).pretty
    return 0
  | .error e => do
    IO.eprintln ("Error: " ++ e.text)
    return 1

def pass (c : Config) : IO (Except CommandError Retention.Housekeeping.Report) := do
  let app ← connect c
  let (result, after) := app.housekeeping
  store app after
  return result

/-- Until the program is stopped. -/
partial def passes (c : Config) (period : Nat) : IO UInt32 := do
  discard (pass c)
  IO.sleep (.ofNat (1000 * period))
  passes c period

def readInput (path : String) : IO (Option ByteArray) := do
  try return some (← IO.FS.readBinFile path)
  catch _ => return none

def execute (c : Config) : CommandLine.Command → IO UInt32
  | .latest => do report Record.toJson (← connect c).latest
  | .allocate => do report Draft.toJson ((← connect c).allocate (← readClock))
  | .export input template rows => do
    let app ← connect c
    let (result, after) := app.exportFile (← readClock) input (← readInput input) template rows
    store app after
    report Export.Outcome.toJson result
  | .housekeeping none => do report Retention.Housekeeping.Report.toJson (← pass c)
  | .housekeeping (some every) => do passes c ((← connect c).period every)

end ExportLedger

open ExportLedger in
def main (args : List String) : IO UInt32 := do
  match CommandLine.read args with
  | .error .help | .error .version =>
    IO.println CommandLine.usage
    return 0
  | .error refusal =>
    IO.eprintln (refusal.message ++ "\n" ++ CommandLine.usage)
    return 2
  | .ok invocation =>
    match (← readEnvironment).config with
    | .error e =>
      IO.eprintln ("Error: " ++ ": ".intercalate (e.message :: e.causes))
      return 1
    | .ok config => execute config invocation.command
