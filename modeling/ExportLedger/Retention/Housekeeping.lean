import ExportLedger.Retention.Prune
/-!
Housekeeping prunes the processed files in the share and the records among the blobs. Neither waits
for the other or is stopped by it. A schedule repeats this at a fixed interval.
-/
namespace ExportLedger.Retention

namespace Housekeeping

structure Report where
  fileShare : PruneResult
  blobs : PruneResult
  deriving DecidableEq, Repr

def Report.toJson (r : Report) : Json.Value :=
  .object [("file_share", r.fileShare.toJson), ("blobs", r.blobs.toJson)]

/-- At least one of the two went wrong. -/
structure Failure where
  fileShare : Option PruneError
  blobs : Option PruneError
  deriving DecidableEq, Repr

namespace Failure

def message (e : Failure) : String :=
  let parts :=
    (e.fileShare.map fun e => "file share: " ++ e.message).toList ++
      (e.blobs.map fun e => "blobs: " ++ e.message).toList
  "Housekeeping failed: " ++ "; ".intercalate parts

end Failure

structure Setup where
  processedMark : String
  blobSuffix : Option String
  deriving DecidableEq, Repr

def report (share blobs : Except PruneError PruneResult) : Except Failure Report :=
  match share, blobs with
  | .ok share, .ok blobs => .ok ⟨share, blobs⟩
  | share, blobs => .error ⟨error? share, error? blobs⟩
where
  error? : Except PruneError PruneResult → Option PruneError
    | .ok _ => none
    | .error e => some e

variable [Container σ] [Container τ]

/-- One pass over both stores. -/
def pass (setup : Setup) (s : Stores σ τ) : Except Failure Report × Stores σ τ :=
  let (shareResult, share) := prune (.processedFiles setup.processedMark) s.share
  let (blobsResult, blobs) := prune (.metadataBlobs setup.blobSuffix) s.blobs
  (report shareResult blobsResult, ⟨share, blobs⟩)

/-- Times are counted in nanoseconds. -/
def second : Nat := 1000000000

/-- Passes at time `start` and after every `period` from there, as long as it is before `shutdown`.
A pass that fails does not end the schedule. -/
def passesFrom (setup : Setup) (period shutdown start : Nat) (s : Stores σ τ) : Stores σ τ :=
  if 0 < period ∧ start < shutdown then
    passesFrom setup period shutdown (start + period) (pass setup s).2
  else s
termination_by shutdown - start

/-- The first pass is made at once. -/
def schedule (setup : Setup) (period shutdown : Nat) (s : Stores σ τ) : Stores σ τ :=
  passesFrom setup period shutdown 0 s

/-- A clock that is to end a schedule runs for thirty years at most. -/
def alarmLimit : Nat := 30 * 365 * 86400

/-- When the clock ends a schedule that is to last some seconds. -/
def alarmAfter (seconds : Nat) : Nat := min seconds alarmLimit * second

end Housekeeping

end ExportLedger.Retention
