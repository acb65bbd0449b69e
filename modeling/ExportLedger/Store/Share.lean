import ExportLedger.Store.Basic
import ExportLedger.Store.Directory
/-!
A file share that is a directory. An upload is written to a partial file, chunk by chunk, and then
renamed, so that a reader never sees a file half written. Partial files belong to no object.
-/
namespace ExportLedger

structure Share where
  name : String
  directory : Directory
  chunkBytes : Nat

namespace Share

def partialMark : String := ".partial"

def isPartial (name : String) : Bool := partialMark.toList.isSuffixOf name.toList

/-- Names that would leave the directory or be taken for a partial file. -/
def isInvalidName (name : String) : Bool :=
  name == "" || name == "." || name == ".." || name.toList.contains '/' ||
    name.toList.contains '\\' ||
    isPartial name

def resolve (s : Share) (name : String) : Except StoreError Unit :=
  if isInvalidName name then .error (.unavailable s.name .resolve (.invalidName name)) else .ok ()

/-- A file that is not there may still count as an obstacle rather than as an absence. -/
def obstacle : FileFault → Obstacle
  | .nulInName => .nulInName
  | .missing | .refused => .operatingSystem

def fault (s : Share) (operation : Operation) (name : String) : FileFault → StoreError
  | .missing => .notFound s.name name
  | e => .unavailable s.name operation (obstacle e)

def list (s : Share) : Except StoreError (List String) :=
  match s.directory.entries? with
  | none => .error (.unavailable s.name .list .operatingSystem)
  | some entries =>
    .ok ((entries.entries.filter fun e => e.2.isFile && !isPartial e.1).map (·.1))

def download (s : Share) (name : String) : Except StoreError ByteArray := do
  s.resolve name
  (s.directory.read name).mapError (s.fault .download name)

def exists? (s : Share) (name : String) : Except StoreError Bool := do
  s.resolve name
  match s.directory.find name with
  | .ok e => .ok e.isFile
  | .error .missing => .ok false
  | .error e => .error (.unavailable s.name .probe (obstacle e))

/-- Pieces of `size` bytes, at least one, and the last piece perhaps shorter. -/
def chunks (size : Nat) : List UInt8 → List (List UInt8)
  | [] => []
  | b :: bytes => (b :: bytes.take (size - 1)) :: chunks size (bytes.drop (size - 1))
termination_by bytes => bytes.length
decreasing_by
  simp only [List.length_drop, List.length_cons]
  omega

def uploadSteps (s : Share) (name : String) (content : ByteArray) : List Directory.Step :=
  let part := name ++ partialMark
  .create part :: (chunks s.chunkBytes content.toList).map (.append part ·.toByteArray) ++
    [.rename part name]

def upload (s : Share) (name : String) (content : ByteArray) : Except StoreError Unit × Share :=
  match s.resolve name with
  | .error e => (.error e, s)
  | .ok () =>
    let (result, directory) := s.directory.run (s.uploadSteps name content)
    (result.mapError fun e => .unavailable s.name .upload (obstacle e), { s with directory })

def delete (s : Share) (name : String) : Except StoreError Unit × Share :=
  match s.resolve name with
  | .error e => (.error e, s)
  | .ok () =>
    match s.directory.remove name with
    | .ok directory => (.ok (), { s with directory })
    | .error e => (.error (s.fault .delete name e), s)

instance : Container Share where
  name := Share.name
  list := Share.list
  download := Share.download
  exists? := Share.exists?
  upload := Share.upload
  delete := Share.delete

end Share

end ExportLedger
