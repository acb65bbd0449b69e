import Mathlib.Logic.Function.Basic
import ExportLedger.Proofs.Store.Memory
import ExportLedger.Store.Bucket
import ExportLedger.Store.Lagging
/-!
What can be seen of a store, and what an upload does to it. An upload that succeeds puts its object
in place, and one that fails leaves everything as it was seen before.
-/
namespace ExportLedger

class Visible (σ : Type) [Container σ] where
  /-- What is kept under a name. -/
  look : σ → String → Option ByteArray
  look_of_uploaded {s after : σ} {name : String} {content : ByteArray} :
    Container.upload s name content = (.ok (), after) →
      look after = Function.update (look s) name (some content)
  look_of_refused {s after : σ} {name : String} {content : ByteArray} {e : StoreError} :
    Container.upload s name content = (.error e, after) → look after = look s

export Visible (look)

namespace NameMap

theorem get?_insert_eq_update (m : NameMap α) (name : String) (v : α) :
    (m.insert name v).get? = Function.update m.get? name (some v) := by
  funext n
  rw [get?_insert, Function.update_apply]

end NameMap

instance : Visible Memory where
  look s := s.objects.get?
  look_of_uploaded h := by
    cases h
    exact NameMap.get?_insert_eq_update _ _ _
  look_of_refused h := by cases h

instance : Visible Bucket where
  look s := s.objects.get?
  look_of_uploaded h := by
    simp only [Container.upload, Bucket.upload] at h
    split at h
    · cases h
    · cases h
      exact NameMap.get?_insert_eq_update _ _ _
  look_of_refused h := by
    simp only [Container.upload, Bucket.upload] at h
    split at h
    · cases h
      rfl
    · cases h

theorem Lagging.upload_store [Container σ] {s after : Lagging σ} {name : String}
    {content : ByteArray} {result : Except StoreError Unit}
    (h : Container.upload s name content = (result, after)) :
    Container.upload s.store name content = (result, after.store) := by
  cases h
  rfl

instance [Container σ] [Visible σ] : Visible (Lagging σ) where
  look s := look s.store
  look_of_uploaded h := Visible.look_of_uploaded (Lagging.upload_store h)
  look_of_refused h := Visible.look_of_refused (Lagging.upload_store h)

end ExportLedger
