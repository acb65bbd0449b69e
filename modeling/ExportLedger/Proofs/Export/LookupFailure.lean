import ExportLedger.Proofs.Export.LostFile
import ExportLedger.Proofs.Export.Refinding
import ExportLedger.Proofs.Store.Lookup
/-!
Exports into a directory and a container that nobody else writes to, whatever becomes of the result
files in between. A mark that is accepted may still make names that cannot be looked up. As soon as
a result file is lost then, there are no more numbers.
-/
namespace ExportLedger

namespace Export

variable {config : Config} {now : LocalTime} {s : Stores Share Memory}

/-- The stores can have come to be like this: the container was empty at first and has been written
to by exports only, and between exports anything has become of the share, but its directory is
there. -/
inductive Cycled (config : Config) : Stores Share Memory → Prop where
  | start {share : Share} {blobs : Memory} : share.directory.entries? ≠ none → blobs.Healthy →
    blobs.objects.names = [] → Cycled config ⟨share, blobs⟩
  | changed {s : Stores Share Memory} {share : Share} :
      Cycled config s → share.directory.entries? ≠ none →
    Cycled config ⟨share, s.blobs⟩
  | exported {s : Stores Share Memory} {now : LocalTime} (content : ByteArray) (rows : UInt64) :
    Cycled config s → now.Writable →
      Cycled config (run (config.exportSetup Template.standard) now content rows s).2

/-- What is true of the stores then. -/
structure Intact (config : Config) (s : Stores Share Memory) : Prop where
  there : s.share.directory.entries? ≠ none
  kept : Kept config.metadata.family s.blobs
  /-- The latest record names the file that the standard template gives to its number. -/
  named : ∀ prior, Catalog.latestRecord config.metadata.family s.blobs = .ok prior →
    prior.fileName = some (Template.standardName prior.sequence.toNat)

/-- A container that is kept so can always be read. -/
theorem Kept.exists_noRecord {family : Family} {blobs : Memory} {cause : CatalogError}
    (h : Kept family blobs) (herror : Catalog.latestRecord family blobs = .error cause) :
    ∃ container, cause = .noRecord container := by
  rcases Catalog.latestRecord_eq_error_iff.1 herror with hname | ⟨name, hname, -⟩
  · rw [Catalog.latestName_of_responds (Catalog.responds_of_healthy h.healthy family)] at hname
    cases hlatest : family.latest? blobs.objects.names with
    | none =>
      rw [hlatest] at hname
      exact ⟨_, (Except.error.inj hname).symm⟩
    | some name =>
      rw [hlatest] at hname
      contradiction
  · obtain ⟨r, hr, -⟩ := h.tidy.exists_latestRecord h.healthy hname
    cases hr.symm.trans herror

theorem there_run (h : s.share.directory.entries? ≠ none) (setup : Setup) (now : LocalTime)
    (content : ByteArray) (rows : UInt64) :
    (run setup now content rows s).2.share.directory.entries? ≠ none := by
  unfold run
  cases Allocation.allocate setup.family setup.settings now s with
  | error cause => exact h
  | ok d =>
    have hthere := Share.there_upload h (Template.render setup.template d) content
    cases hupload : Container.upload s.share (Template.render setup.template d) content with
    | mk result share =>
      rw [hupload] at hthere
      cases result <;> simpa only [hupload] using hthere

theorem Intact.run (h : Intact config s) (hdated : now.Writable) (content : ByteArray)
    (rows : UInt64) :
    Intact config (run (config.exportSetup Template.standard) now content rows s).2 := by
  have hname (o : Outcome)
      (ho : (Export.run (config.exportSetup Template.standard) now content rows s).1 = .ok o) :
      o.record.fileName = some (Template.standardName o.record.sequence.toNat) := by
    obtain ⟨d, -, rfl, -⟩ := draft_of_run (Prod.ext ho rfl)
    exact congrArg some (Template.render_standard d)
  have hne (o : Outcome)
      (ho : (Export.run (config.exportSetup Template.standard) now content rows s).1 = .ok o) :
      o.record.fileName ≠ some "" := by
    rw [hname o ho, ne_eq, Option.some.injEq]
    exact Template.standardName_ne_empty _
  refine ⟨there_run h.there _ now content rows, kept_run h.kept hdated hne, fun prior hprior => ?_⟩
  cases hrun : Export.run (config.exportSetup Template.standard) now content rows s with
  | mk result after =>
    rw [hrun] at hname hne hprior
    cases result with
    | error cause =>
      rw [blobs_of_run_error hrun] at hprior
      exact h.named prior hprior
    | ok o =>
      have hstorable := h.kept.storable_of_run hrun hdated (hne o rfl)
      obtain ⟨d, -, -, hafter⟩ := draft_of_run hrun
      rw [hafter] at hprior
      by_cases hsup : Catalog.Supersedes config.metadata.family s.blobs
          (config.metadata.family.fileName o.record.sequence)
      · cases hprior.symm.trans
          ((h.kept.tidy.latestRecord_save_eq_iff h.kept.healthy hstorable).2 hsup)
        exact hname o rfl
      · have hresponds := Catalog.responds_of_healthy h.kept.healthy config.metadata.family
        have hsame :=
          Catalog.latestRecord_insert_of_not_supersedes hresponds hsup o.record.text.toUTF8
        exact h.named prior (hsame.symm.trans hprior)

theorem Cycled.intact (h : Cycled config s) : Intact config s := by
  induction h with
  | start hthere hhealthy hempty =>
    refine ⟨hthere, ⟨hhealthy, Catalog.tidy_of_no_names hempty⟩, fun prior hprior => ?_⟩
    cases hprior.symm.trans (Catalog.latestRecord_of_no_names hhealthy hempty)
  | changed _ hthere ih => exact ⟨hthere, ih.kept, ih.named⟩
  | exported content rows _ hdated ih => exact ih.run hdated content rows

/-- The last result file can be asked for, so only its marked name can be the one that is not
answered. -/
theorem allocate_eq_error_iff_of_intact {cause : AllocationError} (h : Intact config s)
    (now : LocalTime) :
    Allocation.allocate config.metadata.family config.settings now s = .error cause ↔
      ∃ prior e, Catalog.latestRecord config.metadata.family s.blobs = .ok prior ∧
        look s.share (Template.standardName prior.sequence.toNat) = none ∧
        Container.exists? s.share (config.share.processedMark ++
          Template.standardName prior.sequence.toNat) =
          .error e ∧
        cause = .probe (config.share.processedMark ++
          Template.standardName prior.sequence.toNat) e := by
  have hown (prior : Record) :
      Container.exists? s.share (Template.standardName prior.sequence.toNat) =
        .ok (look s.share (Template.standardName prior.sequence.toNat)).isSome :=
    Share.exists?_of_takes (Share.takes_standardName h.there prior.sequence.toNat_lt)
  rw [Allocation.allocate_eq_error_iff, Allocation.Inquiry.run_course_eq_error_iff]
  constructor
  · rintro (⟨e, herror, hne, -⟩ | ⟨prior, hprior, hleads⟩)
    · obtain ⟨container, rfl⟩ := h.kept.exists_noRecord herror
      exact absurd rfl (hne container)
    · have hfile := h.named prior hprior
      cases hleads with
      | unprobed hother hunprobed =>
        cases hfile.symm.trans hother
        rcases hunprobed with ⟨-, hfails⟩ | ⟨rfl, hnone, hfails⟩
        · cases (hown prior).symm.trans hfails
        · rw [hown prior, Except.ok.injEq, Option.isSome_eq_false_iff, Option.isNone_iff_eq_none]
            at hnone
          exact ⟨prior, _, hprior, hnone, hfails, rfl⟩
      | unfetched hother hstands hfails =>
        obtain ⟨content, hcontent⟩ := Share.download_of_exists? hstands.exists?_eq
        cases hcontent.symm.trans hfails
  · rintro ⟨prior, e, hprior, hlost, hfails, rfl⟩
    have hnone := hown prior
    rw [hlost] at hnone
    exact .inr ⟨prior, hprior, .unprobed (h.named prior hprior) (.inr ⟨rfl, hnone, hfails⟩)⟩

/-- However the exports have gone and whatever has become of their files, there are no numbers
exactly if the file of the latest record is lost and cannot be looked up under its marked name. A
mark of moderate length without separators and NULs leaves no such case. -/
theorem allocate_of_cycled (h : Cycled config s) (now : LocalTime) :
    ((∃ cause, Allocation.allocate config.metadata.family config.settings now s = .error cause) ↔
      ∃ prior, Catalog.latestRecord config.metadata.family s.blobs = .ok prior ∧
        look s.share (Template.standardName prior.sequence.toNat) = none ∧
        ¬Share.Markable config.share.processedMark (Template.standardName prior.sequence.toNat)) ∧
    (∀ cause, Allocation.allocate config.metadata.family config.settings now s = .error cause →
      ∃ prior e, Catalog.latestRecord config.metadata.family s.blobs = .ok prior ∧
        cause = .probe (config.share.processedMark ++
          Template.standardName prior.sequence.toNat) e) ∧
    ('/' ∉ config.share.processedMark.toList → '\\' ∉ config.share.processedMark.toList →
      '\x00' ∉ config.share.processedMark.toList → config.share.processedMark.utf8ByteSize ≤ 227 →
        ∃ draft, Allocation.allocate config.metadata.family config.settings now s = .ok draft) := by
  have hintact := h.intact
  have hfails :
      (∃ cause, Allocation.allocate config.metadata.family config.settings now s = .error cause) ↔
      ∃ prior, Catalog.latestRecord config.metadata.family s.blobs = .ok prior ∧
        look s.share (Template.standardName prior.sequence.toNat) = none ∧
        ¬Share.Markable config.share.processedMark
          (Template.standardName prior.sequence.toNat) := by
    simp only [allocate_eq_error_iff_of_intact hintact now, ← Share.takes_marked_iff hintact.there]
    constructor
    · rintro ⟨cause, prior, e, hprior, hlost, hfails, -⟩
      refine ⟨prior, hprior, hlost, fun htakes => ?_⟩
      cases hfails.symm.trans (Share.exists?_of_takes htakes)
    · rintro ⟨prior, hprior, hlost, hnot⟩
      obtain ⟨e, hfails⟩ := Share.exists?_of_not_takes hnot
      exact ⟨_, prior, e, hprior, hlost, hfails, rfl⟩
  refine ⟨hfails, fun cause hcause => ?_, fun hslash hbackslash hnul hshort => ?_⟩
  · obtain ⟨prior, e, hprior, -, -, hprobe⟩ :=
      (allocate_eq_error_iff_of_intact hintact now).1 hcause
    exact ⟨prior, e, hprior, hprobe⟩
  · cases halloc : Allocation.allocate config.metadata.family config.settings now s with
    | ok draft => exact ⟨draft, rfl⟩
    | error cause =>
      obtain ⟨prior, -, -, hnot⟩ := hfails.1 ⟨cause, halloc⟩
      have hlength := Template.utf8ByteSize_standardName_le prior.sequence.toNat_lt
      refine absurd ⟨⟨hslash, hbackslash⟩, hnul, ?_⟩ hnot
      show _ ≤ 255
      omega

open Retention (sampleDay sampleRecord latestRecord_sampleBlobs)

def fileless : Stores Share Memory := ⟨Allocation.shareOver (.ofEntries .empty), .new "metadata"⟩

/-- After the first export, and without its file. -/
def deprived (config : Config) : Stores Share Memory :=
  let after := (run (config.exportSetup Template.standard) sampleDay "x".toUTF8 1 fileless).2
  ⟨(Container.delete after.share (Template.standardName config.metadata.firstSequence.toNat)).2,
    after.blobs⟩

theorem cycled_deprived (config : Config)
    (hthere : (deprived config).share.directory.entries? ≠ none) :
    Cycled config (deprived config) := by
  have hstart : Cycled config fileless := .start nofun (Memory.healthy_new "metadata") rfl
  exact .changed (hstart.exported "x".toUTF8 1 (by decide)) hthere

theorem allocate_of_cycled_standard : Config.fault? {} = none ∧ Cycled {} (deprived {}) ∧
    Container.list (deprived {}).share = .ok [] ∧
    ∃ draft, Allocation.allocate .standard (Config.settings {}) sampleDay (deprived {}) =
      .ok draft := by
  have hcycled : Cycled {} (deprived {}) := cycled_deprived {} (by decide +kernel)
  refine ⟨by decide +kernel, hcycled, by decide +kernel, ?_⟩
  exact (allocate_of_cycled hcycled sampleDay).2.2 (by decide +kernel) (by decide +kernel)
    (by decide +kernel)
    (by decide +kernel)

/-- It is accepted although no share takes a name with a separator. -/
def separatorConfig : Config :=
  { metadata := { firstSequence := 10 }, share := { processedMark := "done/" } }

theorem metadataFile_separatorConfig :
    (run (separatorConfig.exportSetup Template.standard) sampleDay "x".toUTF8 1 fileless).1.map
      (·.metadataFile) =
      .ok "10-TARS.json" := by
  decide +kernel

theorem latestRecord_deprived :
    Catalog.latestRecord .standard (deprived separatorConfig).blobs = .ok (sampleRecord 10) := by
  have hfile := metadataFile_separatorConfig
  have hrecord : Draft.record ⟨10, .first, sampleDay⟩
      (Template.render Template.standard ⟨10, .first, sampleDay⟩) "x".toUTF8 1 =
        sampleRecord 10 := by
    rw [Template.render_standard]
    rfl
  unfold deprived
  cases hrun :
    run (separatorConfig.exportSetup Template.standard) sampleDay "x".toUTF8 1 fileless with
  | mk result after =>
    cases result with
    | error cause =>
      rw [hrun] at hfile
      cases hfile
    | ok o =>
      obtain ⟨d, halloc, rfl, hafter⟩ := draft_of_run hrun
      obtain rfl : ⟨10, .first, sampleDay⟩ = d := Except.ok.inj halloc
      show Catalog.latestRecord .standard after.blobs = _
      rw [hafter]
      exact (congrArg (fun r =>
        Catalog.latestRecord .standard (Catalog.save .standard (Memory.new "metadata") r).2)
        hrecord).trans (latestRecord_sampleBlobs 10)

theorem unanswered_with_separator : separatorConfig.fault? = none ∧
    (run (separatorConfig.exportSetup Template.standard) sampleDay "x".toUTF8 1 fileless).1.map
      (·.metadataFile) =
      .ok "10-TARS.json" ∧
    Container.list (deprived separatorConfig).share = .ok [] ∧
    Allocation.allocate .standard separatorConfig.settings sampleDay (deprived separatorConfig) =
      .error (.probe "done/TARS10.xml"
        (.unavailable "results" .resolve (.invalidName "done/TARS10.xml"))) := by
  have hcycled := cycled_deprived separatorConfig (by decide +kernel)
  refine ⟨by decide +kernel, metadataFile_separatorConfig, by decide +kernel, ?_⟩
  have hlost :
      look (deprived separatorConfig).share (Template.standardName (10 : UInt64).toNat) = none := by
    decide +kernel
  have hfails : Container.exists? (deprived separatorConfig).share
      (separatorConfig.share.processedMark ++ Template.standardName (10 : UInt64).toNat) =
        .error (.unavailable "results" .resolve (.invalidName "done/TARS10.xml")) := by
    decide +kernel
  exact (allocate_eq_error_iff_of_intact hcycled.intact sampleDay).2
    ⟨_, _, latestRecord_deprived, hlost, hfails, by decide +kernel⟩

end Export

end ExportLedger
