import ExportLedger.Json.Printer
import ExportLedger.Retention.Rule
import ExportLedger.Store.Basic
/-!
Pruning: of the members of a rule the newest is kept, and every other one is deleted. A deletion
that fails does not keep the others from being tried.
-/
namespace ExportLedger.Retention

structure FailedDeletion where
  name : String
  cause : StoreError
  deriving DecidableEq, Repr

namespace FailedDeletion

def message (e : FailedDeletion) : String := "Failed to delete " ++ e.name

def causes (e : FailedDeletion) : List String := e.cause.chain

end FailedDeletion

inductive PruneResult where
  | collectionEmpty
  /-- There are names, but no members. -/
  | nothingToDelete
  | pruned (kept : String) (deleted : List String)
  deriving DecidableEq, Repr

namespace PruneResult

def deleted : PruneResult → List String
  | pruned _ deleted => deleted
  | _ => []

def toJson : PruneResult → Json.Value
  | collectionEmpty => .object [("status", .text "collection_empty")]
  | nothingToDelete => .object [("status", .text "nothing_to_delete")]
  | pruned kept deleted =>
    .object [("status", .text "pruned"), ("kept", .text kept),
      ("deleted", .array (deleted.map .text))]

end PruneResult

inductive PruneError where
  | list (container : String) (cause : StoreError)
  | deletions (container kept : String) (deleted : List String) (failed : List FailedDeletion)
  deriving DecidableEq, Repr

namespace PruneError

def message : PruneError → String
  | list container _ => "Failed to list " ++ container
  | deletions container _ deleted failed =>
    Decimal.text failed.length ++ " of " ++ Decimal.text (failed.length + deleted.length) ++
      " deletions failed in " ++ container

/-- Each failed deletion tells its own causes. -/
def causes : PruneError → List String
  | list _ cause => cause.chain
  | deletions _ _ _ _ => []

end PruneError

/-- What a listing calls for, before anything is deleted. -/
inductive Survey where
  | collectionEmpty
  | nothingToDelete
  | plan (kept : String) (doomed : List String)
  deriving DecidableEq, Repr

def Rule.survey [Ord κ] (rule : Rule κ) (names : List String) : Survey :=
  if names = [] then .collectionEmpty
  else
    let members := names.filter rule.isMember
    match Naming.newest? (fun name => some (rule.key name)) members with
    | none => .nothingToDelete
    | some kept => .plan kept (members.filter (· ≠ kept))

variable [Container σ]

/-- Every deletion with its result, in the order of the names. -/
def deleteAll (s : σ) : List String → List (String × Except StoreError Unit) × σ
  | [] => ([], s)
  | name :: names =>
    let (result, s) := Container.delete s name
    let (results, s) := deleteAll s names
    ((name, result) :: results, s)

def deletedNames (results : List (String × Except StoreError Unit)) : List String :=
  results.filterMap fun
    | (name, .ok ()) => some name
    | (_, .error _) => none

def failures (results : List (String × Except StoreError Unit)) : List FailedDeletion :=
  results.filterMap fun
    | (_, .ok ()) => none
    | (name, .error cause) => some ⟨name, cause⟩

/-- What the results of the deletions mean for the whole. -/
def settle (container kept : String) (results : List (String × Except StoreError Unit)) :
    Except PruneError PruneResult :=
  if failures results = [] then .ok (.pruned kept (deletedNames results))
  else .error (.deletions container kept (deletedNames results) (failures results))

def prune [Ord κ] (rule : Rule κ) (s : σ) : Except PruneError PruneResult × σ :=
  match Container.list s with
  | .error cause => (.error (.list (Container.name s) cause), s)
  | .ok names =>
    match rule.survey names with
    | .collectionEmpty => (.ok .collectionEmpty, s)
    | .nothingToDelete => (.ok .nothingToDelete, s)
    | .plan kept doomed =>
      let (results, after) := deleteAll s doomed
      (settle (Container.name s) kept results, after)

end ExportLedger.Retention
