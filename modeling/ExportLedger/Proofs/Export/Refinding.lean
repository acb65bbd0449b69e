import ExportLedger.Config.Basic
import ExportLedger.Proofs.Catalog.Refinding
import ExportLedger.Proofs.Export.Success
import ExportLedger.Proofs.Retention.ConfirmedFile
/-!
Exports under one configuration into containers that nobody else writes to. A configuration that is
accepted may still give names to records that are not recognised afterwards.
-/
namespace ExportLedger.Export

variable {config : Config} {template : String} {now : LocalTime} {content : ByteArray}
  {rows : UInt64} {s after : Stores Memory Memory} {o : Outcome}

/-- The stores can have come to be like this: the container was empty at first and has been written
to by exports only, whatever became of the share in the meantime. -/
inductive Reached (config : Config) : Stores Memory Memory → Prop where
  | start (share : Memory) {blobs : Memory} : blobs.Healthy → blobs.objects.names = [] →
      Reached config ⟨share, blobs⟩
  | share {s : Stores Memory Memory} (share : Memory) :
      Reached config s → Reached config ⟨share, s.blobs⟩
  | exported {s : Stores Memory Memory} (template : String) (now : LocalTime) (content : ByteArray)
      (rows : UInt64) :
    Reached config s → now.Writable →
      (∀ o, (run (config.exportSetup template) now content rows s).1 = .ok o →
        o.record.fileName ≠ some "") →
      Reached config (run (config.exportSetup template) now content rows s).2

/-- What is true of the container whenever exports only have written to it. -/
structure Kept (family : Family) (blobs : Memory) : Prop where
  healthy : blobs.Healthy
  tidy : Catalog.Tidy family blobs.objects

section Kept

variable [Container σ] {setup : Setup} {s after : Stores σ Memory}

theorem Kept.storable_of_run (h : Kept setup.family s.blobs)
    (hrun : run setup now content rows s = (.ok o, after)) (hdated : now.Writable)
    (hne : o.record.fileName ≠ some "") :
    o.record.Storable setup.family.detail :=
  Export.storable_of_run hrun hdated hne (fun _ hprior =>
    (h.tidy.of_latestRecord h.healthy hprior).2) _

theorem kept_run (h : Kept setup.family s.blobs) (hdated : now.Writable)
    (hne : ∀ o, (run setup now content rows s).1 = .ok o → o.record.fileName ≠ some "") :
    Kept setup.family (run setup now content rows s).2.blobs := by
  cases hrun : run setup now content rows s with
  | mk result after =>
    cases result with
    | error cause =>
      rw [blobs_of_run_error hrun]
      exact h
    | ok o =>
      have hstorable := h.storable_of_run hrun hdated (hne o (congrArg Prod.fst hrun))
      obtain ⟨d, -, rfl, hafter⟩ := draft_of_run hrun
      rw [hafter, Catalog.save_eq]
      exact ⟨h.healthy.alike (Memory.alike_objects _ _),
        h.tidy.insert hstorable (Option.some_ne_none _)⟩

end Kept

theorem Reached.kept (h : Reached config s) : Kept config.metadata.family s.blobs := by
  induction h with
  | start share hhealthy hempty => exact ⟨hhealthy, Catalog.tidy_of_no_names hempty⟩
  | share share _ ih => exact ih
  | exported template now content rows _ hdated hne ih => exact kept_run ih hdated hne

theorem Kept.found_iff_supersedes (h : Kept config.metadata.family s.blobs)
    (hdated : now.Writable)
    (hrun : run (config.exportSetup template) now content rows s = (.ok o, after))
    (hne : o.record.fileName ≠ some "") :
    Catalog.latestRecord config.metadata.family after.blobs = .ok o.record ↔
      Catalog.Supersedes config.metadata.family s.blobs
        (config.metadata.family.fileName o.record.sequence) := by
  have hstorable := h.storable_of_run hrun hdated hne
  obtain ⟨d, -, -, hafter⟩ := draft_of_run hrun
  rw [hafter]
  exact h.tidy.latestRecord_save_eq_iff h.healthy hstorable

/-- Under a fixed name the record of an export is always found again. Under numbered names it is
found again exactly if its name is recognised and the numbers have not gone back. -/
theorem latestRecord_run_of_reached (hreached : Reached config s)
    (hdated : now.Writable)
    (hrun : run (config.exportSetup template) now content rows s = (.ok o, after))
    (hne : o.record.fileName ≠ some "") :
    (∀ fileName, config.metadata.family = .fixed fileName →
      Catalog.latestRecord config.metadata.family after.blobs = .ok o.record) ∧
    ∀ suffix, config.metadata.family = .sequenced suffix →
      (Catalog.latestRecord config.metadata.family after.blobs = .ok o.record ↔
        Family.Recognised suffix o.record.sequence ∧
          ∀ prior, Catalog.latestRecord config.metadata.family s.blobs = .ok prior →
            prior.sequence ≤ o.record.sequence) := by
  have hkept := hreached.kept
  have hfound := hkept.found_iff_supersedes hdated hrun hne
  constructor
  · intro fileName hfamily
    rw [hfound, hfamily]
    exact Catalog.supersedes_fixed fileName
  · intro suffix hfamily
    have htidy := hkept.tidy
    rw [hfound]
    rw [hfamily] at htidy ⊢
    exact htidy.supersedes_iff hkept.healthy

open Retention (sampleDay)

def emptyStores : Stores Memory Memory := ⟨.new "results", .new "metadata"⟩

theorem latestRecord_run_of_reached_standard : Config.fault? {} = none ∧ ∃ o after,
    run (Config.exportSetup {} Template.standard) sampleDay "x".toUTF8 1 emptyStores =
      (.ok o, after) ∧
      o.metadataFile = "1000000-TARS.json" ∧ Catalog.latestRecord .standard after.blobs =
        .ok o.record := by
  have hfirst : ∃ o after,
      run (Config.exportSetup {} Template.standard) sampleDay "x".toUTF8 1 emptyStores =
        (.ok o, after) ∧
        o.metadataFile = "1000000-TARS.json" ∧ o.record.fileName ≠ some "" :=
    ⟨_, _, rfl, by decide +kernel, by decide +kernel⟩
  obtain ⟨o, after, hrun, hfile, hne⟩ := hfirst
  have hempty : emptyStores.blobs.objects.names = [] := rfl
  have hhealthy : emptyStores.blobs.Healthy := Memory.healthy_new "metadata"
  have hd : Family.standard.Dashed := rfl
  have hmain :=
    latestRecord_run_of_reached (.start emptyStores.share hhealthy hempty) (by decide) hrun hne
  refine ⟨by decide +kernel, o, after, hrun, hfile,
    (hmain.2 _ rfl).2 ⟨Family.recognised_of_dashed hd _, ?_⟩⟩
  intro prior hprior
  cases hprior.symm.trans (Catalog.latestRecord_of_no_names hhealthy hempty)

/-- It is accepted although no name ends up with a dash. -/
def dashlessConfig : Config := { metadata := { family := .sequenced "TARS.json" } }

theorem lost_without_dash : dashlessConfig.fault? = none ∧ ∃ o after,
    run (dashlessConfig.exportSetup Template.standard) sampleDay "x".toUTF8 1 emptyStores =
      (.ok o, after) ∧
      o.metadataFile = "1000000TARS.json" ∧
      Catalog.latestRecord dashlessConfig.metadata.family after.blobs =
        .error (.noRecord "metadata") := by
  refine ⟨by decide +kernel, _, _, rfl, by decide +kernel, ?_⟩
  decide +kernel

end ExportLedger.Export
