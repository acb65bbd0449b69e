import ExportLedger.Config.Basic
/-!
Configurations as documents. The secret key is read but never written.
-/
namespace ExportLedger

open Json (Document Slot Value)

def optionalText : Option String → Value
  | none => .null
  | some s => .text s

def naturalValue (n : UInt64) : Value := .number (.ofNat n.toNat)

/-- A member for each name. -/
def objectOf (names : List String) (values : List Value) : Value := .object (names.zip values)

namespace RecordSettings

def names : List String := ["family", "default_sequence_number", "default_daily_sequence_number"]

def toJson (c : RecordSettings) : Value :=
  objectOf names [c.family.toJson, naturalValue c.firstSequence, c.firstDaily.toJson]

/-- The section lies inside a configuration, and the family inside the section. -/
def ofJson? (d : Document) : Option RecordSettings := do
  match ← d.fields? names with
  | [family, firstSequence, firstDaily] =>
    some {
      family := ← family.required (Family.ofJson? 2)
      firstSequence := ← firstSequence.required Document.uint64?
      firstDaily := ← firstDaily.required DailyNumber.ofJson? }
  | _ => none

end RecordSettings

namespace ShareSettings

def names : List String := ["root", "name", "processed_prefix", "upload_chunk_bytes"]

def toJson (c : ShareSettings) : Value :=
  objectOf names [.text c.root, .text c.name, .text c.processedMark, naturalValue c.chunkBytes]

def ofJson? (d : Document) : Option ShareSettings := do
  match ← d.fields? names with
  | [root, name, processedMark, chunkBytes] =>
    some {
      root := ← root.required Document.text?
      name := ← name.required Document.text?
      processedMark := ← processedMark.required Document.text?
      chunkBytes := ← chunkBytes.required Document.uint64? }
  | _ => none

end ShareSettings

namespace HousekeepingSettings

def names : List String := ["interval_secs", "blob_suffix"]

def toJson (c : HousekeepingSettings) : Value :=
  objectOf names [naturalValue c.intervalSeconds, optionalText c.blobSuffix]

def ofJson? (d : Document) : Option HousekeepingSettings := do
  match ← d.fields? names with
  | [intervalSeconds, blobSuffix] =>
    some {
      intervalSeconds := ← intervalSeconds.required Document.uint64?
      blobSuffix := ← blobSuffix.optional Document.text? }
  | _ => none

end HousekeepingSettings

namespace StorageSettings

def publicNames : List String := ["endpoint", "region", "container", "access_key"]

def secretName : String := "secret_key"

def lastName : String := "path_style"

def toJson (c : StorageSettings) : Value :=
  objectOf (publicNames ++ [lastName])
    [optionalText c.endpoint, .text c.region, .text c.container, optionalText c.accessKey,
      .bool c.pathStyle]

def ofJson? (d : Document) : Option StorageSettings := do
  match ← d.fields? (publicNames ++ [secretName, lastName]) with
  | [endpoint, region, container, accessKey, secretKey, pathStyle] =>
    some {
      endpoint := ← endpoint.optional Document.text?
      region := ← region.required Document.text?
      container := ← container.required Document.text?
      accessKey := ← accessKey.optional Document.text?
      secretKey := ← secretKey.optional Document.text?
      pathStyle := ← pathStyle.required Document.bool? }
  | _ => none

end StorageSettings

namespace Config

def names : List String := ["metadata", "share", "housekeeping", "storage"]

def toJson (c : Config) : Value :=
  objectOf names [c.metadata.toJson, c.share.toJson, c.housekeeping.toJson, c.storage.toJson]

def ofJson? (d : Document) : Option Config := do
  match ← d.fields? names with
  | [metadata, share, housekeeping, storage] =>
    some {
      metadata := ← metadata.required RecordSettings.ofJson?
      share := ← share.required ShareSettings.ofJson?
      housekeeping := ← housekeeping.required HousekeepingSettings.ofJson?
      storage := ← storage.required StorageSettings.ofJson? }
  | _ => none

end Config

end ExportLedger
