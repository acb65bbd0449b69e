import ExportLedger.Proofs.Export.Failure
import ExportLedger.Proofs.Retention.ConfirmedFile
import ExportLedger.Proofs.Store.Truthful
/-!
Processed files whose mark is spelled with other letter cases. To the retention rule they are
processed files like the others, but the allocation asks for the configured spelling only.
-/
namespace ExportLedger

/-- The same text but for the case of ASCII letters. -/
def SameLetters (a b : String) : Prop := a.toList.map Char.toLower = b.toList.map Char.toLower

namespace Retention

/-- The rule knows a processed file by how its name begins, in whatever letter case. -/
theorem isMember_processedFiles_iff {mark name : String} :
    (Rule.processedFiles mark).isMember name ↔
      ∃ spelling rest, name = spelling ++ rest ∧ SameLetters spelling mark := by
  refine Naming.startsWithIgnoringCase_iff.trans ⟨?_, ?_⟩
  · rintro ⟨front, rest, hname, hfront⟩
    refine ⟨.ofList front, .ofList rest, ?_, ?_⟩
    · rw [← String.ofList_append, ← hname, String.ofList_toList]
    · rwa [SameLetters, String.toList_ofList]
  · rintro ⟨spelling, rest, rfl, hsame⟩
    exact ⟨spelling.toList, rest.toList, String.toList_append, hsame⟩

end Retention

namespace Allocation

open Retention (Rule)

/-- The file can be had under the marked name in this spelling, and is there under no other name. -/
structure OnlyMarked [Container σ] [Visible σ] (share : σ) (mark spelling fileName : String)
    (content : ByteArray) :
    Prop where
  letters : SameLetters spelling mark
  unmarked : look share fileName = none
  fetched : Container.download share (spelling ++ fileName) = .ok content
  others : ∀ other, SameLetters other mark → other ≠ spelling →
    look share (other ++ fileName) = none

namespace OnlyMarked

variable [Container σ] [Visible σ] {share : σ} {settings : Settings} {spelling fileName : String}
  {content : ByteArray}

/-- The spelling decides whether the file is found. -/
theorem stands_or_gone (h : OnlyMarked share settings.processedMark spelling fileName content)
    (htrue : Truthful share)
    (hprobed : ∀ name ∈ [fileName, settings.processedMark ++ fileName], ∃ held,
      Container.exists? share name = .ok held) :
    spelling = settings.processedMark ∧
      Stands settings share fileName (settings.processedMark ++ fileName) ∨
      spelling ≠ settings.processedMark ∧ Gone settings share fileName := by
  have hown : Container.exists? share fileName = .ok false := by
    rw [htrue.exists?_eq_isSome (hprobed _ (by simp)), h.unmarked]
    rfl
  have hmarked := htrue.exists?_eq_isSome (hprobed (settings.processedMark ++ fileName) (by simp))
  by_cases hsame : spelling = settings.processedMark
  · have hfetched := htrue.fetched h.fetched
    rw [hsame] at hfetched
    rw [hfetched] at hmarked
    exact .inl ⟨hsame, .inr ⟨rfl, hown, hmarked⟩⟩
  · rw [h.others _ rfl (Ne.symm hsame)] at hmarked
    exact .inr ⟨hsame, hown, hmarked⟩

end OnlyMarked

section Allocate

variable [Container σ] [Visible σ] [Container τ] {share : σ} {blobs : τ} {family : Family}
  {settings : Settings} {prior : Record} {spelling fileName checksum : String} {content : ByteArray}

/-- A processed file is one to the retention rule, however its mark is spelled. It confirms the last
export exactly if the mark is spelled as configured; otherwise it is taken for lost and the number
is given out again. -/
theorem allocate_onlyMarked (hprior : Catalog.latestRecord family blobs = .ok prior)
    (hfile : prior.fileName = some fileName) (hsum : prior.checksum = some checksum)
    (hmatches : Md5.matchesChecksum content checksum)
    (h : OnlyMarked share settings.processedMark spelling fileName content) (htrue : Truthful share)
    (hprobed : ∀ name ∈ [fileName, settings.processedMark ++ fileName],
      ∃ held, Container.exists? share name = .ok held) (now : LocalTime) :
    (Rule.processedFiles settings.processedMark).isMember (spelling ++ fileName) ∧
    ((Inquiry.course family settings).run (⟨share, blobs⟩ : Stores σ τ) =
        .ok (.compared prior (spelling ++ fileName) true) ↔ spelling = settings.processedMark) ∧
    ((Inquiry.course family settings).run (⟨share, blobs⟩ : Stores σ τ) = .ok (.missing prior) ↔
      spelling ≠ settings.processedMark) ∧
    allocate family settings now (⟨share, blobs⟩ : Stores σ τ) =
      .ok (advance prior (decide (spelling = settings.processedMark))
        (prior.created.isOnDayOf now) now) := by
  refine ⟨Retention.isMember_processedFiles_iff.2 ⟨spelling, fileName, rfl, h.letters⟩, ?_⟩
  rw [Inquiry.allocate_eq_map_run_course, Inquiry.run_course_of_latestRecord hprior]
  obtain ⟨rfl, hstands⟩ | ⟨hne, hgone⟩ := h.stands_or_gone htrue hprobed
  · have hrun := Inquiry.run_sequel_of_leads (s := (⟨share, blobs⟩ : Stores σ τ))
      (.compared hfile hstands h.fetched)
    rw [hsum, Option.getD_some, hmatches] at hrun
    simp [hrun, Except.map, Course.draft]
  · have hrun :=
      Inquiry.run_sequel_of_leads (s := (⟨share, blobs⟩ : Stores σ τ)) (.missing hfile hgone)
    simp [hrun, hne, Except.map, Course.draft]

end Allocate

open Retention (sampleSettings sampleDay sampleRecord sampleBlobs sampleShare
  latestRecord_sampleBlobs allocate_sampleBlobs)

theorem names_sampleShare_single (name : String) : (sampleShare [name]).objects.names = [name] :=
  rfl

theorem onlyMarked_sampleShare {mark spelling : String} (hmark : mark ≠ "")
    (hletters : SameLetters spelling mark) (fileName : String) :
    OnlyMarked (sampleShare [spelling ++ fileName]) mark spelling fileName "x".toUTF8 := by
  have hlook {name : String} (hne : name ≠ spelling ++ fileName) :
      look (sampleShare [spelling ++ fileName]) name = none := by
    refine NameMap.not_mem_names_iff.1 ?_
    rwa [names_sampleShare_single, List.mem_singleton]
  have happend {front other : String} (h : front ++ fileName = other ++ fileName) :
      front = other := by
    rw [← String.toList_inj, String.toList_append, String.toList_append] at h
    exact String.toList_inj.1 (List.append_cancel_right h)
  refine ⟨hletters, hlook fun h => ?_, Memory.download_eq nofun ?_,
    fun other _ hne => hlook fun h => hne (happend h)⟩
  · have hnone : "" = spelling := happend (by rwa [String.empty_append])
    rw [← hnone] at hletters
    exact hmark (String.toList_inj.1 (List.map_eq_nil_iff.1 hletters.symm))
  · exact (NameMap.get?_insert _ _ _ _).trans (if_pos rfl)

theorem allocate_onlyMarked_tenth :
    SameLetters "PROCESSED-" "processed-" ∧
      allocate .standard sampleSettings sampleDay
        ⟨sampleShare ["processed-TARS10.xml"], sampleBlobs 10⟩ =
        .ok ⟨11, ⟨2⟩, sampleDay⟩ ∧
      allocate .standard sampleSettings sampleDay
        ⟨sampleShare ["PROCESSED-TARS10.xml"], sampleBlobs 10⟩ =
        .ok ⟨10, .first, sampleDay⟩ := by
  have hupper : SameLetters "PROCESSED-" "processed-" := by
    unfold SameLetters
    decide
  have hmatches : Md5.matchesChecksum "x".toUTF8 (Md5.checksum "x".toUTF8) := beq_self_eq_true _
  have hdraft {spelling : String} (hletters : SameLetters spelling sampleSettings.processedMark) :=
    (allocate_onlyMarked (latestRecord_sampleBlobs 10) rfl rfl hmatches
      (onlyMarked_sampleShare (by decide) hletters "TARS10.xml") (Memory.truthful _)
        (fun _ _ => ⟨_, rfl⟩)
      sampleDay).2.2.2
  exact ⟨hupper, (hdraft rfl).trans (by decide +kernel), (hdraft hupper).trans (by decide +kernel)⟩

/-- The share has nothing but the tenth file, and the rule takes it for a processed one. All the
same the tenth export is repeated. -/
theorem repeated_with_capital :
    SameLetters "Processed-" "processed-" ∧
      (sampleShare ["Processed-TARS10.xml"]).objects.names = ["Processed-" ++ "TARS10.xml"] ∧
      (Rule.processedFiles sampleSettings.processedMark).isMember "Processed-TARS10.xml" ∧
      (Container.download (sampleShare ["Processed-TARS10.xml"]) "Processed-TARS10.xml").map
        Md5.checksum =
        .ok ((sampleRecord 10).checksum.getD "") ∧
      (Inquiry.course .standard sampleSettings).run
          (⟨sampleShare ["Processed-TARS10.xml"], sampleBlobs 10⟩ : Stores Memory Memory) =
        .ok (.missing (sampleRecord 10)) ∧
      allocate .standard sampleSettings sampleDay
        ⟨sampleShare ["Processed-TARS10.xml"], sampleBlobs 10⟩ =
        .ok ⟨10, .first, sampleDay⟩ := by
  have hgone : Gone sampleSettings (sampleShare ["Processed-TARS10.xml"]) "TARS10.xml" :=
    ⟨by decide +kernel, by decide +kernel⟩
  have hmissing := (Inquiry.run_course_eq_missing_iff (latestRecord_sampleBlobs 10) rfl).2 hgone
  refine ⟨?_, rfl, by decide +kernel, by decide +kernel, hmissing, ?_⟩
  · unfold SameLetters
    decide
  · rw [Inquiry.allocate_eq_map_run_course, hmissing]
    decide +kernel

end Allocation

end ExportLedger
