import ExportLedger.Proofs.Export.Failure
import ExportLedger.Proofs.Retention.ConfirmedFile
import ExportLedger.Proofs.Store.Share
/-!
When a result file is taken for lost in a share that is a directory. As long as the directory can be
listed, the file is not in it then. A directory that is gone is asked for the file all the same, and
says that it is not there.
-/
namespace ExportLedger.Allocation

theorem gone_iff {settings : Settings} {share : Share} {fileName : String} :
    Gone settings share fileName ↔
      share.Takes fileName ∧ share.Takes (settings.processedMark ++ fileName) ∧
        ∀ names, Container.list share = .ok names →
          fileName ∉ names ∧ settings.processedMark ++ fileName ∉ names := by
  rw [Gone, Share.exists?_eq_false_iff, Share.exists?_eq_false_iff]
  constructor
  · rintro ⟨⟨hown, hunlisted⟩, hmarked, hunlisted'⟩
    exact ⟨hown, hmarked, fun names h => ⟨hunlisted names h, hunlisted' names h⟩⟩
  · rintro ⟨hown, hmarked, hunlisted⟩
    exact ⟨⟨hown, fun names h => (hunlisted names h).1⟩, hmarked,
      fun names h => (hunlisted names h).2⟩

/-- Without a listing nothing is found. -/
theorem not_stands {settings : Settings} {share : Share} {fileName name : String} {e : StoreError}
    (hlist : Container.list share = .error e) : ¬Stands settings share fileName name := by
  rintro (⟨-, h⟩ | ⟨-, -, h⟩)
  all_goals
    obtain ⟨-, names, hnames, -⟩ := Share.exists?_eq_true_iff.1 h
    rw [hlist] at hnames
    contradiction

variable [Container τ] {blobs : τ} {share : Share} {family : Family} {settings : Settings}
  {prior : Record} {fileName : String}

/-- Without a listing, either both names are said not to be there, or there is an error. -/
theorem exists_error_iff_not_gone {e : StoreError} (now : LocalTime)
    (hprior : Catalog.latestRecord family blobs = .ok prior)
    (hfile : prior.fileName = some fileName) (hlist : Container.list share = .error e) :
    (∃ cause, allocate family settings now (⟨share, blobs⟩ : Stores Share τ) = .error cause) ↔
      ¬Gone settings share fileName := by
  simp only [allocate_eq_error_iff, Inquiry.run_course_of_latestRecord hprior,
    Inquiry.run_sequel_eq_iff]
  obtain ⟨result, h⟩ := Inquiry.exists_leads settings share prior
  constructor
  · rintro ⟨cause, hcause⟩ hgone
    have hsame :=
      Inquiry.run_sequel_of_leads (s := (⟨share, blobs⟩ : Stores Share τ)) (.missing hfile hgone)
    cases hsame.symm.trans (Inquiry.run_sequel_of_leads hcause)
  · intro hnot
    cases h with
    | unlinked hnone => cases hfile.symm.trans hnone
    | missing hother hgone =>
      cases hfile.symm.trans hother
      exact absurd hgone hnot
    | compared _ hstands _ => exact absurd hstands (not_stands hlist)
    | unprobed hother hprobe => exact ⟨_, .unprobed hother hprobe⟩
    | unfetched _ hstands _ => exact absurd hstands (not_stands hlist)

/-- A result file is taken for lost exactly if both of its names can be looked up and no listing
shows one of them. So if there is no listing, there is an error exactly if one of the names cannot
be looked up. -/
theorem missing_iff_unlisted (now : LocalTime)
    (hprior : Catalog.latestRecord family blobs = .ok prior)
    (hfile : prior.fileName = some fileName) :
    ((Inquiry.course family settings).run (⟨share, blobs⟩ : Stores Share τ) = .ok (.missing prior) ↔
      share.Takes fileName ∧ share.Takes (settings.processedMark ++ fileName) ∧
        ∀ names, Container.list share = .ok names →
          fileName ∉ names ∧ settings.processedMark ++ fileName ∉ names) ∧
    ∀ e, Container.list share = .error e →
      ((∃ cause, allocate family settings now (⟨share, blobs⟩ : Stores Share τ) = .error cause) ↔
        ¬(share.Takes fileName ∧ share.Takes (settings.processedMark ++ fileName))) := by
  have hmissing : (Inquiry.course family settings).run (⟨share, blobs⟩ : Stores Share τ) =
      .ok (.missing prior) ↔ _ :=
    Inquiry.run_course_eq_missing_iff hprior hfile
  refine ⟨hmissing.trans gone_iff, fun e hlist => ?_⟩
  have hgone : Gone settings share fileName ↔
      share.Takes fileName ∧ share.Takes (settings.processedMark ++ fileName) := by
    simp [gone_iff, hlist]
  rw [exists_error_iff_not_gone now hprior hfile hlist, hgone]

open Retention (sampleSettings sampleDay sampleRecord sampleBlobs latestRecord_sampleBlobs)

def shareOver (directory : Directory) : Share := ⟨"results", directory, 4194304⟩

/-- With the file of another export. -/
def ninthFile : Directory := .ofEntries (.ofList [("TARS9.xml", .file "x".toUTF8)])

theorem missing_iff_unlisted_ninth :
    Container.list (shareOver ninthFile) = .ok ["TARS9.xml"] ∧
      (Inquiry.course .standard sampleSettings).run
        (⟨shareOver ninthFile, sampleBlobs 10⟩ : Stores Share Memory) =
        .ok (.missing (sampleRecord 10)) := by
  have hlist : Container.list (shareOver ninthFile) = .ok ["TARS9.xml"] := by decide +kernel
  have hown : (shareOver ninthFile).Takes "TARS10.xml" :=
    ⟨by decide +kernel, by decide, fun _ => by decide +kernel⟩
  have hmarked : (shareOver ninthFile).Takes ("processed-" ++ "TARS10.xml") :=
    ⟨by decide +kernel, by decide +kernel, fun _ => by decide +kernel⟩
  refine ⟨hlist,
    (missing_iff_unlisted sampleDay (latestRecord_sampleBlobs 10) rfl).1.2 ⟨hown, hmarked, ?_⟩⟩
  rw [hlist]
  rintro names ⟨⟩
  decide +kernel

/-- The directory cannot be listed, and yet the tenth export is repeated as if its file had been
lost. -/
theorem lost_in_absent_directory :
    Container.list (shareOver .absent) = .error (.unavailable "results" .list .operatingSystem) ∧
      (Inquiry.course .standard sampleSettings).run
        (⟨shareOver .absent, sampleBlobs 10⟩ : Stores Share Memory) =
        .ok (.missing (sampleRecord 10)) ∧
      allocate .standard sampleSettings sampleDay
        (⟨shareOver .absent, sampleBlobs 10⟩ : Stores Share Memory) =
        .ok ⟨10, .first, sampleDay⟩ := by
  have hgone : Gone sampleSettings (shareOver .absent) "TARS10.xml" :=
    ⟨by decide +kernel, by decide +kernel⟩
  have hmissing := (Inquiry.run_course_eq_missing_iff (latestRecord_sampleBlobs 10) rfl).2 hgone
  refine ⟨by decide +kernel, hmissing, ?_⟩
  rw [Inquiry.allocate_eq_map_run_course, hmissing]
  decide +kernel

end ExportLedger.Allocation
