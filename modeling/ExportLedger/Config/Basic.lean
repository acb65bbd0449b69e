import ExportLedger.Export.Cycle
import ExportLedger.Retention.Housekeeping
import ExportLedger.Text.Blank
/-!
What can be configured, the standard configuration, and which configurations are accepted.
-/
namespace ExportLedger

namespace Variable

def fixedName : String := "TARS_METADATA_FIXED_NAME"
def suffix : String := "TARS_METADATA_SUFFIX"
def firstSequence : String := "TARS_DEFAULT_SEQUENCE_NUMBER"
def firstDaily : String := "TARS_DEFAULT_DAILY_SEQUENCE_NUMBER"
def shareRoot : String := "TARS_SHARE_ROOT"
def shareName : String := "TARS_SHARE_NAME"
def processedMark : String := "TARS_PROCESSED_PREFIX"
def chunkBytes : String := "TARS_SHARE_UPLOAD_CHUNK_BYTES"
def intervalSeconds : String := "TARS_HOUSEKEEPING_INTERVAL_SECS"
def blobSuffix : String := "TARS_HOUSEKEEPING_BLOB_SUFFIX"
def endpoint : String := "TARS_BLOB_ENDPOINT"
def region : String := "TARS_BLOB_REGION"
def container : String := "TARS_BLOB_CONTAINER"
def accessKey : String := "TARS_BLOB_ACCESS_KEY"
def secretKey : String := "TARS_BLOB_SECRET_KEY"
def pathStyle : String := "TARS_BLOB_PATH_STYLE"
/-- Counts where the variable for the access key is not set. -/
def sharedAccessKey : String := "AWS_ACCESS_KEY_ID"
/-- Counts where the variable for the secret key is not set. -/
def sharedSecretKey : String := "AWS_SECRET_ACCESS_KEY"

def all : List String :=
  [fixedName, suffix, firstSequence, firstDaily, shareRoot, shareName, processedMark, chunkBytes,
    intervalSeconds, blobSuffix, endpoint, region, container, accessKey, secretKey, pathStyle,
    sharedAccessKey, sharedSecretKey]

end Variable

structure RecordSettings where
  family : Family := .standard
  firstSequence : UInt64 := 1000000
  firstDaily : DailyNumber := .first
  deriving DecidableEq, Repr

structure ShareSettings where
  root : String := "./tars-share"
  name : String := "tars-results"
  processedMark : String := "processed-"
  chunkBytes : UInt64 := 4194304
  deriving DecidableEq, Repr

structure HousekeepingSettings where
  intervalSeconds : UInt64 := 86400
  blobSuffix : Option String := none
  deriving DecidableEq, Repr

/-- Where the container of the records is, and the keys to it. -/
structure StorageSettings where
  endpoint : Option String := none
  region : String := "us-east-1"
  container : String := "tars-metadata"
  accessKey : Option String := none
  secretKey : Option String := none
  pathStyle : Bool := false
  deriving DecidableEq, Repr

structure Config where
  metadata : RecordSettings := {}
  share : ShareSettings := {}
  housekeeping : HousekeepingSettings := {}
  storage : StorageSettings := {}
  deriving DecidableEq, Repr

inductive StorageFault where
  | emptyContainer
  /-- One of the two keys without the other. -/
  | halfCredentials
  deriving DecidableEq, Repr

namespace StorageFault

def message : StorageFault → String
  | emptyContainer => Variable.container ++ " cannot be empty"
  | halfCredentials => "Blob access key and secret key must be set together"

end StorageFault

inductive ConfigFault where
  | emptySuffix
  | emptyFixedName
  | emptyProcessedMark
  | noChunkBytes
  | noInterval
  | storage (fault : StorageFault)
  deriving DecidableEq, Repr

namespace ConfigFault

def message : ConfigFault → String
  | emptySuffix => Variable.suffix ++ " cannot be empty"
  | emptyFixedName => Variable.fixedName ++ " cannot be empty"
  | emptyProcessedMark => Variable.processedMark ++ " cannot be empty"
  | noChunkBytes => Variable.chunkBytes ++ " must be greater than 0"
  | noInterval => Variable.intervalSeconds ++ " must be greater than 0"
  | storage fault => fault.message

end ConfigFault

namespace StorageSettings

/-- For a server on the spot, with the keys that it comes with. -/
def forLocalServer (endpoint container : String) : StorageSettings where
  endpoint := some endpoint
  container := container
  accessKey := some "minioadmin"
  secretKey := some "minioadmin"
  pathStyle := true

def fault? (c : StorageSettings) : Option StorageFault :=
  if Text.isAllBlank c.container then some .emptyContainer
  else if c.accessKey.isSome ≠ c.secretKey.isSome then some .halfCredentials
  else none

/-- Both keys, when both are set. -/
def credentials (c : StorageSettings) : Option (String × String) :=
  match c.accessKey, c.secretKey with
  | some accessKey, some secretKey => some (accessKey, secretKey)
  | _, _ => none

end StorageSettings

namespace RecordSettings

/-- A suffix of blanks is a suffix, but a file name of blanks is none. -/
def fault? (c : RecordSettings) : Option ConfigFault :=
  match c.family with
  | .sequenced suffix => if suffix = "" then some .emptySuffix else none
  | .fixed fileName => if Text.isAllBlank fileName then some .emptyFixedName else none

end RecordSettings

namespace Config

/-- The first thing that is wrong. -/
def fault? (c : Config) : Option ConfigFault :=
  c.metadata.fault?.or <|
    if c.share.processedMark = "" then some .emptyProcessedMark
    else if c.share.chunkBytes = 0 then some .noChunkBytes
    else if c.housekeeping.intervalSeconds = 0 then some .noInterval
    else c.storage.fault?.map .storage

def settings (c : Config) : Allocation.Settings :=
  ⟨c.metadata.firstSequence, c.metadata.firstDaily, c.share.processedMark⟩

def exportSetup (c : Config) (template : String) : Export.Setup :=
  ⟨c.metadata.family, c.settings, template⟩

def housekeepingSetup (c : Config) : Retention.Housekeeping.Setup :=
  ⟨c.share.processedMark, c.housekeeping.blobSuffix⟩

end Config

end ExportLedger
