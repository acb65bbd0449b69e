import ExportLedger.Naming
/-!
Retention rules: which names of a container they are about, and which of these is the newest.
-/
namespace ExportLedger.Retention

structure Rule (κ : Type) where
  label : String
  isMember : String → Bool
  key : String → κ

namespace Rule

/-- Files marked as processed, in any letter case. Dashes and letter case do not count in their
order. -/
def processedFiles (mark : String) : Rule String where
  label := "processed-files"
  isMember name := Naming.startsWithIgnoringCase mark.toList name.toList
  key := Naming.folded

/-- Records in the order of their names as texts; without a suffix, everything in the container. -/
def metadataBlobs (suffix : Option String) : Rule String where
  label := "metadata-blobs"
  isMember name := suffix.all fun s => s.toList.isSuffixOf name.toList
  key name := name

end Rule

end ExportLedger.Retention
