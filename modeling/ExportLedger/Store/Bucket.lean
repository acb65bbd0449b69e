import ExportLedger.Store.Basic
import ExportLedger.Store.NameMap
import ExportLedger.Text.Blank
/-!
A container behind a remote service. Names are listed page by page, and the service may refuse
single requests. No request is made about a name of nothing but white space.
-/
namespace ExportLedger

structure Refusal where
  status : Nat
  code : String
  deriving DecidableEq, Repr

namespace Refusal

/-- Where only the status tells, this is no refusal. -/
def isSuccess (r : Refusal) : Bool := 200 ≤ r.status && r.status < 300

/-- What the service sends along. -/
def document (r : Refusal) : String := "<Error><Code>" ++ r.code ++ "</Code></Error>"

end Refusal

structure Bucket where
  name : String
  objects : NameMap ByteArray
  pageSize : Nat
  /-- For a listing, the name is the number of the page. -/
  refusals : List (Operation × String × Refusal) := []

namespace Bucket

def refusal? (s : Bucket) (operation : Operation) (name : String) : Option Refusal :=
  (s.refusals.find? fun r => r.1 = operation ∧ r.2.1 = name).map (·.2.2)

/-- From now on requests of this kind are refused. -/
def refuse (s : Bucket) (operation : Operation) (name : String) (refusal : Refusal) : Bucket :=
  { s with refusals := (operation, name, refusal) :: s.refusals }

def unavailable (s : Bucket) (operation : Operation) : StoreError :=
  .unavailable s.name operation .service

/-- Even an empty container has one page. -/
def pageCount (s : Bucket) : Nat :=
  let size := max s.pageSize 1
  max 1 ((s.objects.entries.length + size - 1) / size)

def list (s : Bucket) : Except StoreError (List String) :=
  if (List.range s.pageCount).any fun page => (s.refusal? .list (toString page)).isSome then
    .error (s.unavailable .list)
  else .ok s.objects.names

/-- The code by which the service says that an object is not there. -/
def noSuchKey : Refusal := ⟨404, "NoSuchKey"⟩

def download (s : Bucket) (name : String) : Except StoreError ByteArray :=
  if Text.isAllBlank name then .error (s.unavailable .download)
  else match s.refusal? .download name with
    | none =>
      match s.objects.get? name with
      | some content => .ok content
      | none => .error (.notFound s.name name)
    | some refusal =>
      if refusal.isSuccess then .ok refusal.document.toUTF8
      else if refusal.code = noSuchKey.code then .error (.notFound s.name name)
      else .error (s.unavailable .download)

/-- This answer has no document. -/
def exists? (s : Bucket) (name : String) : Except StoreError Bool :=
  if Text.isAllBlank name then .error (s.unavailable .probe)
  else match s.refusal? .probe name with
    | none => .ok (s.objects.contains name)
    | some refusal =>
      if refusal.isSuccess then .ok true
      else if refusal.status = noSuchKey.status then .ok false
      else .error (s.unavailable .probe)

def upload (s : Bucket) (name : String) (content : ByteArray) : Except StoreError Unit × Bucket :=
  if Text.isAllBlank name ∨ (s.refusal? .upload name).isSome then
    (.error (s.unavailable .upload), s)
  else (.ok (), { s with objects := s.objects.insert name content })

/-- Deleting what is not there succeeds. -/
def delete (s : Bucket) (name : String) : Except StoreError Unit × Bucket :=
  if Text.isAllBlank name ∨ (s.refusal? .delete name).isSome then
    (.error (s.unavailable .delete), s)
  else (.ok (), { s with objects := s.objects.erase name })

instance : Container Bucket where
  name := Bucket.name
  list := Bucket.list
  download := Bucket.download
  exists? := Bucket.exists?
  upload := Bucket.upload
  delete := Bucket.delete

end Bucket

end ExportLedger
