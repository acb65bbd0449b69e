import ExportLedger.Proofs.Export.ResultName
import ExportLedger.Proofs.Export.Success
/-!
Exports one after the other, as they succeed or fail. The share may be anything at all when an
export starts, but nobody else writes to the blobs.
-/
namespace ExportLedger.Export

/-- The share as it has come to be, and the export that follows. -/
structure Turn (σ : Type) where
  share : σ
  now : LocalTime
  content : ByteArray
  rows : UInt64

/-- An export, with the blobs as it finds them. -/
structure Attempt (σ τ : Type) extends Turn σ where
  blobs : τ

variable [Container σ] [Container τ]

namespace Attempt

def stores (a : Attempt σ τ) : Stores σ τ := ⟨a.share, a.blobs⟩

variable (setup : Setup)

/-- The numbers that the export is given. -/
def draft (a : Attempt σ τ) : Except AllocationError Draft :=
  Allocation.allocate setup.family setup.settings a.now a.stores

def result (a : Attempt σ τ) : Except ExportError Outcome :=
  (run setup a.now a.content a.rows a.stores).1

/-- The stores that the export leaves. -/
def after (a : Attempt σ τ) : Stores σ τ := (run setup a.now a.content a.rows a.stores).2

end Attempt

/-- Each export finds the blobs as the one before it has left them. -/
def attempts (setup : Setup) : τ → List (Turn σ) → List (Attempt σ τ)
  | _, [] => []
  | blobs, t :: ts =>
    let a : Attempt σ τ := ⟨t, blobs⟩
    a :: attempts setup (a.after setup).blobs ts

namespace Attempt

variable {setup : Setup} {a : Attempt σ τ}

theorem result_of_run {result : Except ExportError Outcome} {after : Stores σ τ}
    (h : run setup a.now a.content a.rows a.stores = (result, after)) : a.result setup = result :=
  congrArg Prod.fst h

theorem after_of_run {result : Except ExportError Outcome} {after : Stores σ τ}
    (h : run setup a.now a.content a.rows a.stores = (result, after)) : a.after setup = after :=
  congrArg Prod.snd h

theorem run_eq {result : Except ExportError Outcome} (h : a.result setup = result) :
    run setup a.now a.content a.rows a.stores = (result, a.after setup) := Prod.ext h rfl

end Attempt

def seventhTurn : Turn Memory := ⟨.new "share", .noonOf 19737, "a".toUTF8, 1⟩

/-- On the same day, and it confirms the seventh. -/
def eighthTurn : Turn Memory :=
  ⟨{ name := "share", objects := .ofList [("TARS7.xml", "a".toUTF8)] }, .noonOf 19737,
    "b".toUTF8, 2⟩

def seventhDraft : Draft := ⟨7, .first, .noonOf 19737⟩

def eighthDraft : Draft := ⟨8, ⟨2⟩, .noonOf 19737⟩

def seventhRecord : Record := seventhDraft.record "TARS7.xml" "a".toUTF8 1

def eighthRecord : Record := eighthDraft.record "TARS8.xml" "b".toUTF8 2

def seventh : Attempt Memory Memory := ⟨seventhTurn, .new "blobs"⟩

def eighth : Attempt Memory Memory :=
  ⟨eighthTurn, (Catalog.save .standard (.new "blobs") seventhRecord).2⟩

theorem draft_seventh : seventh.draft sampleSetup = .ok seventhDraft := by
  have hempty : (Memory.new "blobs").objects.names = [] := rfl
  exact Allocation.allocate_of_no_names (s := seventh.stores) _ _
    (Memory.healthy_new "blobs") hempty

theorem run_seventh :
    ∃ share, run sampleSetup seventh.now seventh.content seventh.rows seventh.stores =
      (.ok ⟨seventhRecord, "7-TARS.json"⟩, ⟨share, eighth.blobs⟩) := by
  have hrun := run_of_allocate draft_seventh "a".toUTF8 1
  have hname : Template.render sampleSetup.template seventhDraft = "TARS7.xml" :=
    Template.render_standard seventhDraft
  rw [hname] at hrun
  exact ⟨_, hrun⟩

theorem result_seventh : seventh.result sampleSetup = .ok ⟨seventhRecord, "7-TARS.json"⟩ := by
  obtain ⟨share, hrun⟩ := run_seventh
  exact Attempt.result_of_run hrun

theorem attempts_sample :
    attempts sampleSetup (Memory.new "blobs") [seventhTurn, eighthTurn] = [seventh, eighth] := by
  obtain ⟨share, hrun⟩ := run_seventh
  show [seventh, (⟨eighthTurn, (seventh.after sampleSetup).blobs⟩ : Attempt Memory Memory)] = _
  rw [Attempt.after_of_run hrun]
  rfl

theorem latestRecord_eighth : Catalog.latestRecord .standard eighth.blobs = .ok seventhRecord := by
  have hd : Family.standard.Dashed := rfl
  have hempty : (Memory.new "blobs").objects.names = [] := rfl
  have hwritable : seventhDraft.created.Writable := by decide
  have hstorable : seventhRecord.Storable Family.standard.detail :=
    Draft.storable_record "a".toUTF8 1 hwritable (by decide) _
  exact Catalog.latestRecord_save hd (Memory.healthy_new "blobs") hstorable hempty

theorem draft_eighth : eighth.draft sampleSetup = .ok eighthDraft := by
  have hshare : eighth.share.Healthy := ⟨rfl, rfl, rfl, rfl⟩
  have hget : eighth.share.objects.get? "TARS7.xml" = some "a".toUTF8 := rfl
  have hconfirmed := Allocation.isConfirmed_of_get? hget sampleSetup.settings.processedMark
  refine (Allocation.allocate_of_latestRecord latestRecord_eighth _ _ _).trans ?_
  refine (Allocation.following_of_healthy _ hshare rfl rfl _).trans ?_
  rw [hconfirmed]
  rfl

theorem result_eighth : eighth.result sampleSetup = .ok ⟨eighthRecord, "8-TARS.json"⟩ := by
  have hrun := run_of_allocate draft_eighth "b".toUTF8 2
  have hname : Template.render sampleSetup.template eighthDraft = "TARS8.xml" :=
    Template.render_standard eighthDraft
  rw [hname] at hrun
  exact Attempt.result_of_run hrun

end ExportLedger.Export
