import ExportLedger.Store.Directory
/-!
Folders within folders below a base, and the paths that lead through them. A path is followed part
by part, so two dots do not undo a part that is missing.
-/
namespace ExportLedger

/-- A file, or a folder with what stands in it. -/
inductive Tree where
  | file
  | folder (entries : List (String × Tree))

/-- One part of a path. -/
inductive Move where
  | up
  | into (name : String)
  deriving DecidableEq, Repr

namespace Move

def ofPart? (part : List Char) : Option Move :=
  if part = [] ∨ part = ['.'] then none
  else if part = ['.', '.'] then some .up
  else some (.into (String.ofList part))

/-- Empty parts and single dots lead nowhere. -/
def ofPath (path : String) : List Move := (path.toList.splitOn '/').filterMap ofPart?

end Move

/-- The names that lead to somewhere, the last one first. -/
abbrev Place := List String

namespace Tree

/-- The folder in which paths start. It has a name that no part of a path can be, so that nothing
leads back into it once it is left. -/
def base : Place := ["/"]

def empty : Tree := .folder [("/", .folder [])]

def get? : Tree → List String → Option Tree
  | t, [] => some t
  | .file, _ :: _ => none
  | .folder entries, n :: ns => (entries.lookup n).bind (·.get? ns)

/-- With folders for all names but the last. -/
def put : Tree → List String → Tree → Tree
  | _, [], new => new
  | .file, _ :: _, _ => .file
  | .folder entries, n :: ns, new =>
    .folder ((n, ((entries.lookup n).getD (.folder [])).put ns new) :: entries.filter (·.1 ≠ n))

/-- What stands at a place. -/
def at? (t : Tree) (place : Place) : Option Tree := t.get? place.reverse

def add (t : Tree) (place : Place) (new : Tree) : Tree := t.put place.reverse new

/-- Where moves lead through the folders that are there. -/
def follow? (t : Tree) (place : Place) : List Move → Option Place
  | [] => some place
  | .up :: moves => t.follow? place.tail moves
  | .into name :: moves =>
    match t.at? (name :: place) with
    | some (.folder _) => t.follow? (name :: place) moves
    | _ => none

/-- Where moves lead, and the tree with the folders that this takes. -/
def make? (t : Tree) (place : Place) : List Move → Option (Tree × Place)
  | [] => some (t, place)
  | .up :: moves => t.make? place.tail moves
  | .into name :: moves =>
    match t.at? (name :: place) with
    | some (.folder _) => t.make? (name :: place) moves
    | some .file => none
    | none =>
      if name.utf8ByteSize ≤ Directory.nameLimit then
        (t.add (name :: place) (.folder [])).make? (name :: place) moves
      else none

def pathLimit : Nat := 4095

/-- What the file system takes as a path. -/
def isPath (path : String) : Bool := path.utf8ByteSize ≤ pathLimit && !path.toList.contains '\x00'

/-- Whether the last part is a single dot. -/
def endsInDot (path : String) : Bool :=
  ((path.toList.splitOn '/').filter (· ≠ [])).getLast? = some ['.']

/-- A folder at the end of the path and those on the way to it. A dot at the end leads only into a
folder that is there. -/
def makeFolder? (t : Tree) (path : String) : Option Tree := do
  guard (isPath path)
  let moves := Move.ofPath path
  let (made, _) ← t.make? base (if endsInDot path then moves.dropLast else moves)
  discard (made.follow? base moves)
  some made

/-- A file at the end of the path, and the folders on the way to it. -/
def makeFile? (t : Tree) (path : String) : Option Tree := do
  guard (isPath path)
  let moves := Move.ofPath path
  let (made, place) ← t.make? base moves.dropLast
  match moves.getLast? with
  | some (.into name) => some (made.add (name :: place) .file)
  | _ => none

/-- What stands in the folder at the end of the path, in order of its names. -/
def names (t : Tree) (path : String) : List String :=
  match (t.follow? base (Move.ofPath path)).bind t.at? with
  | some (.folder entries) =>
    if isPath path then (entries.map (·.1)).mergeSort fun a b => decide (a ≤ b) else []
  | _ => []

end Tree

end ExportLedger
