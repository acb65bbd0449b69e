import ExportLedger.Store.Basic
import ExportLedger.Store.NameMap
/-!
Stores in memory, which can be told to fail.
-/
namespace ExportLedger

structure Memory where
  name : String
  objects : NameMap ByteArray
  failsList : Bool := false
  failingDownloads : List String := []
  failingExists : List String := []
  failingDeletes : List String := []
  /-- Every name that a delete was asked for, the latest first. -/
  latestDeletes : List String := []

namespace Memory

/-- Every name that a delete was asked for, in order. -/
def deletesAttempted (s : Memory) : List String := s.latestDeletes.reverse

def injected (s : Memory) (operation : Operation) (name : String) : StoreError :=
  .unavailable s.name operation (.injected operation name)

def list (s : Memory) : Except StoreError (List String) :=
  if s.failsList then .error (s.injected .list "") else .ok s.objects.names

def download (s : Memory) (name : String) : Except StoreError ByteArray :=
  if name ∈ s.failingDownloads then .error (s.injected .download name)
  else match s.objects.get? name with
    | some content => .ok content
    | none => .error (.notFound s.name name)

def exists? (s : Memory) (name : String) : Except StoreError Bool :=
  if name ∈ s.failingExists then .error (s.injected .probe name)
  else .ok (s.objects.contains name)

def upload (s : Memory) (name : String) (content : ByteArray) :
    Except StoreError Unit × Memory :=
  (.ok (), { s with objects := s.objects.insert name content })

def delete (s : Memory) (name : String) : Except StoreError Unit × Memory :=
  let attempted := { s with latestDeletes := name :: s.latestDeletes }
  if name ∈ s.failingDeletes then (.error (s.injected .delete name), attempted)
  else if s.objects.contains name then
    (.ok (), { attempted with objects := s.objects.erase name })
  else (.error (.notFound s.name name), attempted)

instance : Container Memory where
  name := Memory.name
  list := Memory.list
  download := Memory.download
  exists? := Memory.exists?
  upload := Memory.upload
  delete := Memory.delete

end Memory

end ExportLedger
