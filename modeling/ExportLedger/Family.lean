import ExportLedger.Json.Fields
import ExportLedger.Naming
import ExportLedger.Record.Schema
/-!
Families of records. Several families can keep their records in one container, because each reads
and writes only names of its own kind.
-/
namespace ExportLedger

inductive Family where
  /-- One file per sequence number, named by the number and the suffix. -/
  | sequenced (suffix : String)
  /-- One file that is written over. -/
  | fixed (fileName : String)
  deriving DecidableEq, Repr

namespace Family

def standard : Family := .sequenced "-TARS.json"

/-- How recent a name is, if it belongs to the family. -/
def key (family : Family) (name : String) : Option UInt64 :=
  match family with
  | sequenced suffix =>
    if suffix.toList.isSuffixOf name.toList then Naming.leadingNumber name else none
  | fixed fileName => if name = fileName then some 0 else none

def owns (family : Family) (name : String) : Bool := (family.key name).isSome

def detail : Family → Detail
  | sequenced _ => .full
  | fixed _ => .basic

/-- The file in which a record with this number is kept. -/
def fileName (family : Family) (sequence : UInt64) : String :=
  match family with
  | sequenced suffix => Decimal.text sequence.toNat ++ suffix
  | fixed fileName => fileName

def latest? (family : Family) (names : List String) : Option String :=
  Naming.newest? family.key names

open Json (Document Value)

def kindTag : String := "kind"

/-- A family's kind, and the member that it has besides. -/
inductive Kind where
  | sequenced
  | fixed
  deriving DecidableEq, Repr

def Kind.tag : Kind → String
  | sequenced => "sequenced"
  | fixed => "fixed"

def Kind.memberName : Kind → String
  | sequenced => "suffix"
  | fixed => "file_name"

def Kind.family : Kind → String → Family
  | sequenced => Family.sequenced
  | fixed => Family.fixed

def Kind.ofTag? (s : String) : Option Kind := [sequenced, fixed].find? (·.tag = s)

def kind : Family → Kind
  | sequenced _ => .sequenced
  | fixed _ => .fixed

def toJson (family : Family) : Value :=
  .object [(kindTag, .text family.kind.tag),
    (family.kind.memberName, .text (match family with | sequenced s | fixed s => s))]

/-- The kind and the member, as members of an object or as the two items of an array. -/
def ofValue? : Value → Option Family
  | .array [.text tag, .text s] => do (← Kind.ofTag? tag).family s
  | .object members =>
    match Document.named kindTag members with
    | [.text tag] => do
      let kind ← Kind.ofTag? tag
      match Document.named kind.memberName members with
      | [.text s] => kind.family s
      | _ => none
    | _ => none
  | _ => none

/-- `enclosing` arrays and objects surround the document. All of it must be readable, even the
members that do not matter. -/
def ofJson? (enclosing : Nat) (d : Document) : Option Family :=
  (d.value? (Document.nestingLimit - enclosing)).bind ofValue?

end Family

end ExportLedger
