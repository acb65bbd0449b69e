import ExportLedger.Catalog
/-!
The numbers of the next export. The previous export is confirmed if its result file is still in the
share, under its own name or marked as processed, and still has the recorded checksum. An export
that is not confirmed is repeated under its number.
-/
namespace ExportLedger

namespace Allocation

structure Settings where
  firstSequence : UInt64
  firstDaily : DailyNumber
  /-- What is put in front of a result file's name when the file has been processed. -/
  processedMark : String
  deriving DecidableEq, Repr

end Allocation

inductive AllocationError where
  | latestRecord (cause : CatalogError)
  | probe (fileName : String) (cause : StoreError)
  /-- The result file is there, but could not be fetched. -/
  | download (fileName : String) (cause : StoreError)
  deriving DecidableEq, Repr

namespace AllocationError

/-- What was being done when the preparation failed. -/
def context? : AllocationError → Option String
  | latestRecord _ => some "loading the latest metadata record"
  | probe fileName _ => some ("checking whether result file " ++ fileName ++ " exists")
  | download _ _ => none

def message : AllocationError → String
  | download fileName _ =>
    "Failed to download result file " ++ fileName ++ " for checksum verification"
  | e => "Failed to prepare new metadata: " ++ e.context?.getD ""

def causes : AllocationError → List String
  | latestRecord cause => cause.chain
  | probe _ cause | download _ cause => cause.chain

def chain (e : AllocationError) : List String := e.message :: e.causes

end AllocationError

namespace Allocation

/-- A confirmed export is followed by the next number. A new day starts its own count. -/
def advance (prior : Record) (confirmed sameDay : Bool) (created : Timestamp) : Draft where
  sequence := if confirmed then prior.sequence + 1 else prior.sequence
  daily :=
    if sameDay then if confirmed then prior.daily.next else prior.daily
    else .first
  created := created

variable [Container σ] [Container τ]

def probe (share : σ) (fileName : String) : Except AllocationError Bool :=
  (Container.exists? share fileName).mapError (.probe fileName)

/-- The name under which a result file is in the share. -/
def locate (settings : Settings) (share : σ) (fileName : String) :
    Except AllocationError (Option String) := do
  if ← probe share fileName then return some fileName
  let processed := settings.processedMark ++ fileName
  if ← probe share processed then return some processed
  return none

def confirm (settings : Settings) (share : σ) (prior : Record) (fileName : String) :
    Except AllocationError Bool := do
  match ← locate settings share fileName with
  | none => .ok false
  | some found =>
    let content ← (Container.download share found).mapError (.download found)
    .ok (Md5.matchesChecksum content (prior.checksum.getD ""))

/-- A previous record without a result file gives its numbers again. -/
def following (settings : Settings) (now : LocalTime) (share : σ) (prior : Record) :
    Except AllocationError Draft := do
  match prior.fileName with
  | none => .ok prior.toDraft
  | some fileName =>
    let confirmed ← confirm settings share prior fileName
    .ok (advance prior confirmed (prior.created.isOnDayOf now) now)

/-- Only if there is no record yet do the numbers start afresh. -/
def allocate (family : Family) (settings : Settings) (now : LocalTime) (s : Stores σ τ) :
    Except AllocationError Draft :=
  match Catalog.latestRecord family s.blobs with
  | .ok prior => following settings now s.share prior
  | .error (.noRecord _) => .ok ⟨settings.firstSequence, settings.firstDaily, now⟩
  | .error cause => .error (.latestRecord cause)

end Allocation

end ExportLedger
