import ExportLedger.Config.Basic
/-!
The configuration that the environment's variables describe.
-/
namespace ExportLedger

/-- The variables that are set. -/
structure Environment where
  get? : String → Option String

inductive ConfigError where
  | notANumber (key value : String) (error : Decimal.ReadError)
  | notADailyNumber (key value : String)
  | storage (fault : StorageFault)
  | invalid (fault : ConfigFault)
  deriving DecidableEq, Repr

namespace ConfigError

/-- Values are read without the blanks around them. -/
def trimmed (value : String) : String := String.ofList (Text.trim value.toList)

def message : ConfigError → String
  | notANumber key value error => "Invalid " ++ key ++ "=" ++ value ++ ": " ++ error.message
  | notADailyNumber key value =>
    "Invalid " ++ key ++ "=" ++ value ++ ": " ++ DailyNumber.invalidMessage (trimmed value)
  | storage _ => "Invalid blob storage configuration"
  | invalid fault => fault.message

def causes : ConfigError → List String
  | storage fault => [fault.message]
  | _ => []

end ConfigError

namespace Environment

def natural (env : Environment) (key : String) (default : UInt64) : Except ConfigError UInt64 :=
  match env.get? key with
  | none => .ok default
  | some value =>
    match Decimal.readUnsigned UInt64.size (Text.trim value.toList) with
    | .ok n => .ok (.ofNat n)
    | .error e => .error (.notANumber key value e)

def daily (env : Environment) (key : String) (default : DailyNumber) :
    Except ConfigError DailyNumber :=
  match env.get? key with
  | none => .ok default
  | some value =>
    match DailyNumber.ofText? (ConfigError.trimmed value) with
    | some n => .ok n
    | none => .error (.notADailyNumber key value)

/-- A fixed name goes before a suffix. -/
def family (env : Environment) : Family :=
  match env.get? Variable.fixedName, env.get? Variable.suffix with
  | some fileName, _ => .fixed fileName
  | none, some suffix => .sequenced suffix
  | none, none => .standard

def storage (env : Environment) : StorageSettings :=
  let default : StorageSettings := {}
  { endpoint := env.get? Variable.endpoint
    region := (env.get? Variable.region).getD default.region
    container := (env.get? Variable.container).getD default.container
    accessKey := (env.get? Variable.accessKey).or (env.get? Variable.sharedAccessKey)
    secretKey := (env.get? Variable.secretKey).or (env.get? Variable.sharedSecretKey)
    pathStyle := env.get? Variable.pathStyle = some "true" }

/-- What is not set keeps its standard value; the numbers are read in the order of the settings. -/
def config (env : Environment) : Except ConfigError Config := do
  let default : Config := {}
  let firstSequence ← env.natural Variable.firstSequence default.metadata.firstSequence
  let firstDaily ← env.daily Variable.firstDaily default.metadata.firstDaily
  let chunkBytes ← env.natural Variable.chunkBytes default.share.chunkBytes
  let intervalSeconds ← env.natural Variable.intervalSeconds default.housekeeping.intervalSeconds
  match env.storage.fault? with
  | some fault => .error (.storage fault)
  | none => pure ()
  let config : Config :=
    { metadata := ⟨env.family, firstSequence, firstDaily⟩
      share :=
        { root := (env.get? Variable.shareRoot).getD default.share.root
          name := (env.get? Variable.shareName).getD default.share.name
          processedMark := (env.get? Variable.processedMark).getD default.share.processedMark
          chunkBytes }
      housekeeping := ⟨intervalSeconds, env.get? Variable.blobSuffix⟩
      storage := env.storage }
  match config.fault? with
  | some fault => .error (.invalid fault)
  | none => .ok config

end Environment

end ExportLedger
