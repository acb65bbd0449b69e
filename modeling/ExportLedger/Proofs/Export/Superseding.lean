import ExportLedger.Proofs.Export.Success
import ExportLedger.Proofs.Retention.ConfirmedFile
/-!
Exports over records of any origin. The next number comes from what the latest record says, but
which record is the latest is told by the names. As long as the two agree, every export supersedes
what was there.
-/
namespace ExportLedger.Export

variable {suffix : String} {setup : Setup} {now : LocalTime} {content : ByteArray} {rows : UInt64}
  {s after : Stores Memory Memory} {o : Outcome}

/-- The latest name so far, if there is one, has a smaller number, or has this number and does not
come after the name that the family gives to it. -/
def Yields (family : Family) (blobs : Memory) (n : UInt64) : Prop :=
  ∀ name k, Catalog.latestName family blobs = .ok name → family.key name = some k →
    k < n ∨ k = n ∧ name ≤ family.fileName n

theorem supersedes_iff_yields (hd : (Family.sequenced suffix).Dashed) {blobs : Memory}
    {n : UInt64} :
    Catalog.Supersedes (.sequenced suffix) blobs ((Family.sequenced suffix).fileName n) ↔
      Yields (.sequenced suffix) blobs n := by
  have hafter (j : UInt64) (name : String) :
      Naming.isAfter (j, name) (n, (Family.sequenced suffix).fileName n) = false ↔
        j < n ∨ j = n ∧ name ≤ (Family.sequenced suffix).fileName n := by
    rw [← Bool.not_eq_true, Naming.isAfter_uint64_iff, not_or, UInt64.not_lt,
      UInt64.le_iff_lt_or_eq, not_and, String.not_lt]
    constructor
    · rintro ⟨hlt | rfl, hle⟩
      · exact .inl hlt
      · exact .inr ⟨rfl, hle rfl⟩
    · rintro (hlt | ⟨rfl, hle⟩)
      · exact ⟨.inl hlt, fun heq => absurd hlt (heq ▸ UInt64.lt_irrefl j)⟩
      · exact ⟨.inr rfl, fun _ => hle⟩
  simp only [Catalog.Supersedes, Family.key_fileName hd, Option.some.injEq, exists_eq_left', hafter]
  rfl

/-- Records that have been filed under their own numbers yield, unless the numbers have come to
their end. -/
theorem yields_of_filed (hd : (Family.sequenced suffix).Dashed)
    (hfamily : setup.family = .sequenced suffix)
    (hrun : run setup now content rows s = (.ok o, after))
    (hfiled : ∀ name, Catalog.latestName setup.family s.blobs = .ok name →
      ∃ prior, Catalog.latestRecord setup.family s.blobs = .ok prior ∧
      name = setup.family.fileName prior.sequence ∧ prior.sequence.toNat + 1 < UInt64.size) :
    Yields setup.family s.blobs o.record.sequence := by
  intro name k hname hk
  obtain ⟨prior, hprior, rfl, hfit⟩ := hfiled name hname
  obtain ⟨d, halloc, rfl, -⟩ := draft_of_run hrun
  have hle : prior.sequence ≤ d.sequence := Allocation.le_sequence_of_allocate halloc hprior hfit
  rw [hfamily, Family.key_fileName hd] at hk
  cases hk
  rcases UInt64.lt_or_eq_of_le hle with hlt | heq
  · exact .inl hlt
  · exact .inr ⟨heq, heq ▸ String.le_refl _⟩

theorem fileName_ne_none_of_latestRecord {blobs : Memory} {prior : Record}
    (h : Catalog.latestRecord (.sequenced suffix) blobs = .ok prior) : prior.fileName ≠ none := by
  obtain ⟨name, -, hload⟩ := Catalog.latestRecord_eq_ok_iff.1 h
  obtain ⟨bytes, -, hparse⟩ := Catalog.load_eq_ok_iff.1 hload
  exact Record.fileName_ne_none_of_parse hparse

/-- The record of an export is the latest from then on exactly if the latest name so far yields to
it, and it can be fetched. If that name does not yield, the export makes no difference to the
numbers of later ones. -/
theorem latestRecord_run_iff (hd : (Family.sequenced suffix).Dashed)
    (hfamily : setup.family = .sequenced suffix) (hdated : now.Writable)
    (hrun : run setup now content rows s = (.ok o, after)) (hne : o.record.fileName ≠ some "") :
    (Catalog.latestRecord setup.family after.blobs = .ok o.record ↔
      Yields setup.family s.blobs o.record.sequence ∧ o.metadataFile ∉ s.blobs.failingDownloads ∨
        ¬Yields setup.family s.blobs o.record.sequence ∧
          Catalog.latestRecord setup.family s.blobs = .ok o.record) ∧
    (¬Yields setup.family s.blobs o.record.sequence → ∀ settings later (share : Memory),
      Allocation.allocate setup.family settings later ⟨share, after.blobs⟩ =
        Allocation.allocate setup.family settings later ⟨share, s.blobs⟩) ∧
    ((∀ name, Catalog.latestName setup.family s.blobs = .ok name →
        ∃ prior, Catalog.latestRecord setup.family s.blobs = .ok prior ∧
          name = setup.family.fileName prior.sequence ∧ prior.sequence.toNat + 1 < UInt64.size) →
      Yields setup.family s.blobs o.record.sequence) := by
  have hlinked (prior : Record) (h : Catalog.latestRecord setup.family s.blobs = .ok prior) :
      prior.fileName ≠ none := fileName_ne_none_of_latestRecord (hfamily ▸ h)
  have hstorable := storable_of_run hrun hdated hne hlinked setup.family.detail
  have hresponds := responds_of_run hrun
  have hyields : Catalog.Supersedes setup.family s.blobs (setup.family.fileName o.record.sequence) ↔
      Yields setup.family s.blobs o.record.sequence := by
    rw [hfamily]
    exact supersedes_iff_yields hd
  obtain ⟨d, -, ho, hafter⟩ := draft_of_run hrun
  have hfile : o.metadataFile = setup.family.fileName o.record.sequence := by rw [ho]; rfl
  refine ⟨?_, fun hnot settings later share => ?_, yields_of_filed hd hfamily hrun⟩
  · rw [hafter, Catalog.latestRecord_save_iff hresponds hstorable, hyields, hfile]
  · have hsame := Catalog.latestRecord_insert_of_not_supersedes hresponds (hyields.not.2 hnot)
      o.record.text.toUTF8
    rw [Allocation.allocate, Allocation.allocate, hafter, Catalog.save_eq, hsame]

open Retention (sampleSettings sampleDay sampleRecord sampleBlobs sampleShare storable_sampleRecord
  latestRecord_sampleBlobs allocate_sampleBlobs)

def standardSetup : Setup := { family := .standard, settings := sampleSettings }

theorem latestRecord_run_iff_eleven : ∃ o after,
    run standardSetup sampleDay "y".toUTF8 1 ⟨sampleShare ["TARS10.xml"], sampleBlobs 10⟩ =
      (.ok o, after) ∧
      o.record.sequence = 11 ∧ Catalog.latestRecord .standard after.blobs = .ok o.record := by
  have halloc : Allocation.allocate standardSetup.family standardSetup.settings sampleDay
      ⟨sampleShare ["TARS10.xml"], sampleBlobs 10⟩ = .ok ⟨11, ⟨2⟩, sampleDay⟩ := by
    refine (allocate_sampleBlobs 10 _).trans ?_
    decide +kernel
  have hrun := run_of_allocate halloc "y".toUTF8 1
  have hd : Family.standard.Dashed := rfl
  have hlatest : Catalog.latestName .standard (sampleBlobs 10) = .ok "10-TARS.json" := by
    decide +kernel
  have hmain := latestRecord_run_iff hd rfl (by decide) hrun (by decide +kernel)
  have hyields := hmain.2.2 fun name hname =>
    ⟨sampleRecord 10, latestRecord_sampleBlobs 10, Except.ok.inj (hname.symm.trans hlatest),
      by decide⟩
  exact ⟨_, _, hrun, rfl,
    hmain.1.2 (.inl ⟨hyields, by simp [sampleBlobs, Catalog.save_eq, Memory.new]⟩)⟩

/-- The record of the fifth export under the number of the seventh. -/
def misfiledBlobs : Memory :=
  { name := "metadata", objects := NameMap.empty.insert "7-TARS.json" (sampleRecord 5).text.toUTF8 }

theorem latestName_misfiledBlobs : Catalog.latestName .standard misfiledBlobs = .ok "7-TARS.json" :=
  rfl

theorem latestRecord_misfiledBlobs :
    Catalog.latestRecord .standard misfiledBlobs = .ok (sampleRecord 5) := by
  have hdownload : Container.download misfiledBlobs "7-TARS.json" =
      .ok (sampleRecord 5).text.toUTF8 :=
    Memory.download_eq (by simp [misfiledBlobs])
      (by rw [misfiledBlobs, NameMap.get?_insert, if_pos rfl])
  refine Catalog.latestRecord_eq_ok_iff.2 ⟨_, latestName_misfiledBlobs,
    Catalog.load_eq_ok_iff.2 ⟨_, hdownload, ?_⟩⟩
  exact Record.parse_text (storable_sampleRecord 5 _)

/-- The sixth export succeeds, and yet the fifth stays the latest: the sixth is issued again. -/
theorem sixth_issued_again : ∃ o after,
    run standardSetup sampleDay "y".toUTF8 1 ⟨sampleShare ["TARS5.xml"], misfiledBlobs⟩ =
      (.ok o, after) ∧
      o.record.sequence = 6 ∧ Catalog.latestRecord .standard after.blobs = .ok (sampleRecord 5) ∧
      Allocation.allocate .standard sampleSettings sampleDay after = .ok ⟨6, ⟨2⟩, sampleDay⟩ := by
  have halloc : Allocation.allocate standardSetup.family standardSetup.settings sampleDay
      ⟨sampleShare ["TARS5.xml"], misfiledBlobs⟩ = .ok ⟨6, ⟨2⟩, sampleDay⟩ := by
    refine (Allocation.allocate_of_latestRecord latestRecord_misfiledBlobs _ _ _).trans ?_
    decide +kernel
  have hnot : ¬Catalog.Supersedes .standard misfiledBlobs "6-TARS.json" := by
    rintro ⟨k, hk, hmax⟩
    have hsixth : Family.standard.key "6-TARS.json" = some 6 := by decide +kernel
    cases hk.symm.trans hsixth
    exact absurd (hmax _ 7 latestName_misfiledBlobs (by decide +kernel)) (by decide)
  have hresponds : Catalog.Responds .standard misfiledBlobs := rfl
  have hstays (content : ByteArray) :=
    (Catalog.latestRecord_insert_of_not_supersedes hresponds hnot content).trans
      latestRecord_misfiledBlobs
  refine ⟨_, _, run_of_allocate halloc "y".toUTF8 1, rfl, hstays _, ?_⟩
  exact (Allocation.allocate_of_latestRecord (hstays _) _ _ _).trans (by decide +kernel)

end ExportLedger.Export
