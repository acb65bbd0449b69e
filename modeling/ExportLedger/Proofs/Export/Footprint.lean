import ExportLedger.Export.Cycle
import ExportLedger.Proofs.Store.Visible
/-!
What an export leaves behind in the two stores. Its result tells how far it has come: nothing has
been written, or the result file only, or the result file and its record. Nothing else is ever
touched.
-/
namespace ExportLedger

variable [Container σ] [Container τ] [Visible σ] [Visible τ]

namespace Catalog

/-- A record that is saved is in its place, and one that is not saved has changed nothing. -/
theorem save_cases (family : Family) (s : σ) (r : Record) :
    (∃ after, save family s r = (.ok (family.fileName r.sequence), after) ∧
      look after = Function.update (look s) (family.fileName r.sequence) (some r.text.toUTF8)) ∨
    ∃ cause after, save family s r = (.error cause, after) ∧ look after = look s := by
  simp only [save]
  cases hupload : Container.upload s (family.fileName r.sequence) r.text.toUTF8 with
  | mk result after =>
    cases result with
    | ok =>
      left
      exact ⟨after, rfl, Visible.look_of_uploaded hupload⟩
    | error e =>
      right
      exact ⟨.store e, after, rfl, Visible.look_of_refused hupload⟩

end Catalog

namespace Export

/-- The outcome has the numbers of the draft, and what it names is in the stores in addition to what
they held. -/
structure Written (setup : Setup) (d : Draft) (content : ByteArray) (rows : UInt64)
    (s after : Stores σ τ) (o : Outcome) : Prop where
  numbers : o.record.toDraft = d
  fileName : o.record.fileName = some (Template.render setup.template d)
  checksum : o.record.checksum = some (Md5.checksum content)
  rows : o.record.rows = some rows
  metadataFile : o.metadataFile = setup.family.fileName o.record.sequence
  share : look after.share = Function.update (look s.share) (Template.render setup.template d)
    (some content)
  blobs : look after.blobs = Function.update (look s.blobs) o.metadataFile
    (some o.record.text.toUTF8)

/-- What an export makes of the stores, with each of the results that it can come to. -/
inductive Leaves (setup : Setup) (now : LocalTime) (content : ByteArray) (rows : UInt64)
    (s : Stores σ τ) :
    Except ExportError Outcome × Stores σ τ → Prop where
  | unallocated {cause : AllocationError} :
    Allocation.allocate setup.family setup.settings now s = .error cause →
      Leaves setup now content rows s (.error (.allocation cause), s)
  | notUploaded {d : Draft} {e : StoreError} {share : σ} :
    Allocation.allocate setup.family setup.settings now s = .ok d → look share = look s.share →
      Leaves setup now content rows s (.error (.upload (Template.render setup.template d) e),
        ⟨share, s.blobs⟩)
  | notPersisted {d : Draft} {cause : CatalogError} {share : σ} {blobs : τ} :
    Allocation.allocate setup.family setup.settings now s = .ok d →
      look share = Function.update (look s.share) (Template.render setup.template d)
        (some content) →
      look blobs = look s.blobs →
      Leaves setup now content rows s (.error (.persist cause), ⟨share, blobs⟩)
  | written {d : Draft} {o : Outcome} {after : Stores σ τ} :
    Allocation.allocate setup.family setup.settings now s = .ok d →
      Written setup d content rows s after o → Leaves setup now content rows s (.ok o, after)

theorem leaves_of_allocate {setup : Setup} {now : LocalTime} {s : Stores σ τ} {d : Draft}
    (halloc : Allocation.allocate setup.family setup.settings now s = .ok d) (content : ByteArray)
    (rows : UInt64) :
    Leaves setup now content rows s (run setup now content rows s) := by
  simp only [run, halloc]
  cases hupload : Container.upload s.share (Template.render setup.template d) content with
  | mk result share =>
    cases result with
    | error e => exact .notUploaded halloc (Visible.look_of_refused hupload)
    | ok =>
      have hshare := Visible.look_of_uploaded hupload
      obtain ⟨blobs, hsave, hblobs⟩ | ⟨cause, blobs, hsave, hblobs⟩ :=
        Catalog.save_cases setup.family s.blobs
        (d.record (Template.render setup.template d) content rows)
      · simp only [hsave]
        exact .written halloc ⟨rfl, rfl, rfl, rfl, rfl, hshare, hblobs⟩
      · simp only [hsave]
        exact .notPersisted halloc hshare hblobs

/-- An export changes exactly what its result says, whichever operation of a store has failed. -/
theorem run_leaves (setup : Setup) (now : LocalTime) (content : ByteArray) (rows : UInt64)
    (s : Stores σ τ) :
    Leaves setup now content rows s (run setup now content rows s) := by
  cases halloc : Allocation.allocate setup.family setup.settings now s with
  | error cause =>
    simp only [run, halloc]
    exact .unallocated halloc
  | ok d => exact leaves_of_allocate halloc content rows

end Export

end ExportLedger
