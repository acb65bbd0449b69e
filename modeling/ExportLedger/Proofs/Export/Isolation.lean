import ExportLedger.Proofs.Catalog
import ExportLedger.Proofs.Export.Failure
import ExportLedger.Proofs.Retention.ConfirmedFile
/-!
What an allocation of numbers does not look at: the other records and the other files. Two states of
the stores that agree on the names of the family, on its latest record and on the result file of
that record give the same numbers or the same error.
-/
namespace ExportLedger

namespace Catalog

variable [Container σ] [Container τ] {family : Family} {s : σ} {t : τ}

/-- Asked for the names of the family, both containers answer the same or fail the same. Names that
the family does not own may be listed by one of them only, and in any order. -/
def AnswersAlike (family : Family) (s : σ) (t : τ) : Prop :=
  match family with
  | .sequenced _ => (∀ e, Container.list t = .error e ↔ Container.list s = .error e) ∧
      ∀ names others, Container.list s = .ok names → Container.list t = .ok others →
        ∀ name, family.owns name → (name ∈ others ↔ name ∈ names)
  | .fixed fileName => Container.exists? t fileName = Container.exists? s fileName

theorem load_congr {name : String} (h : Container.download t name = Container.download s name) :
    load family t name = load family s name := by
  simp only [load, h]

end Catalog

namespace Allocation

variable [Container σ] [Container τ] [Container σ'] [Container τ'] {family : Family}
  {settings : Settings} {s : Stores σ τ} {t : Stores σ' τ'}

/-- What an allocation asks has the same answers in both states: which names of the family there
are, what the latest of them holds, and whether and with what content its result file is there under
each of its two names. -/
structure Indistinct (family : Family) (settings : Settings) (s : Stores σ τ) (t : Stores σ' τ') :
    Prop where
  names : Catalog.AnswersAlike family s.blobs t.blobs
  document : ∀ name, Catalog.latestName family s.blobs = .ok name →
    Container.download t.blobs name = Container.download s.blobs name
  result : ∀ prior fileName name, Catalog.latestRecord family s.blobs = .ok prior →
    prior.fileName = some fileName →
    name = fileName ∨ name = settings.processedMark ++ fileName →
    Container.exists? t.share name = Container.exists? s.share name ∧
      Container.download t.share name = Container.download s.share name

namespace Inquiry

theorem run_latestName_congr (h : Catalog.AnswersAlike family s.blobs t.blobs) :
    (latestName family).run t = (latestName family).run s := by
  cases family with
  | sequenced suffix =>
    obtain ⟨hfails, howned⟩ := h
    simp only [latestName, run_bind, run_listRecords, run_pure]
    cases hlist : Container.list s.blobs with
    | error e => rw [(hfails e).2 hlist]
    | ok names =>
      cases hother : Container.list t.blobs with
      | error e =>
        rw [(hfails e).1 hother] at hlist
        contradiction
      | ok others =>
        have hlatest := Family.latest?_congr (howned names others hlist hother)
        simp only [Except.mapError, Bind.bind, Except.bind, hlatest]
  | fixed fileName =>
    have hprobe : Container.exists? t.blobs fileName = Container.exists? s.blobs fileName := h
    simp only [latestName, run_bind, run_probeRecord, hprobe]
    cases Container.exists? s.blobs fileName with
    | error e => rfl
    | ok held => cases held <;> rfl

theorem latestName_of_run {name : String} (h : (latestName family).run s = .ok (some name)) :
    Catalog.latestName family s.blobs = .ok name := by
  rw [run_latestName] at h
  cases hname : Catalog.latestName family s.blobs with
  | ok found =>
    rw [hname] at h
    cases h
    rfl
  | error cause =>
    rw [hname] at h
    cases cause <;> cases h

/-- What the latest record leads to is decided by its own file and the one that is marked as
processed. -/
theorem leads_congr {prior : Record} {share : σ} {other : σ'}
    {result : Except AllocationError Course}
    (hsame : ∀ fileName name, prior.fileName = some fileName →
      name = fileName ∨ name = settings.processedMark ++ fileName →
      Container.exists? other name = Container.exists? share name ∧
        Container.download other name = Container.download share name)
    (h : Leads settings share prior result) : Leads settings other prior result := by
  have hown {fileName : String} (hfile : prior.fileName = some fileName) :=
    (hsame fileName _ hfile (.inl rfl)).1
  have hmarked {fileName : String} (hfile : prior.fileName = some fileName) :=
    (hsame fileName _ hfile (.inr rfl)).1
  have hstands {fileName name : String} (hfile : prior.fileName = some fileName)
      (h : Stands settings share fileName name) : Stands settings other fileName name ∧
        Container.download other name = Container.download share name := by
    refine ⟨?_, (hsame fileName name hfile (h.imp And.left And.left)).2⟩
    rwa [Stands, hown hfile, hmarked hfile]
  cases h with
  | unlinked hfile => exact .unlinked hfile
  | missing hfile hgone =>
    refine .missing hfile ?_
    rwa [Gone, hown hfile, hmarked hfile]
  | compared hfile hfound hcontent =>
    obtain ⟨hfound, hdownload⟩ := hstands hfile hfound
    exact .compared hfile hfound (hdownload.trans hcontent)
  | unprobed hfile hprobe =>
    refine .unprobed hfile ?_
    rwa [Unprobed, hown hfile, hmarked hfile]
  | unfetched hfile hfound hfails =>
    obtain ⟨hfound, hdownload⟩ := hstands hfile hfound
    exact .unfetched hfile hfound (hdownload.trans hfails)

theorem run_course_congr (h : Indistinct family settings s t) :
    (course family settings).run t = (course family settings).run s := by
  simp only [course, run_bind, run_latestName_congr h.names]
  cases hfound : (latestName family).run s with
  | error cause => rfl
  | ok found =>
    cases found with
    | none => rfl
    | some name =>
      have hname := latestName_of_run hfound
      simp only [Bind.bind, Except.bind]
      show (record family name >>= fun prior => sequel settings prior).run t =
        (record family name >>= fun prior => sequel settings prior).run s
      simp only [run_bind, run_record, Catalog.load_congr (h.document name hname)]
      cases hload : Catalog.load family s.blobs name with
      | error cause => rfl
      | ok prior =>
        have hprior := Catalog.latestRecord_eq_ok_iff.2 ⟨name, hname, hload⟩
        have hleads := run_sequel_eq_iff.1 (rfl : (sequel settings prior).run s = _)
        exact run_sequel_of_leads
          (leads_congr (fun fileName name => h.result prior fileName name hprior) hleads)

end Inquiry

/-- Both stores keep the same under the name, and probing or fetching it fails in both or in
neither. -/
structure SameAt (s t : Memory) (name : String) : Prop where
  content : t.objects.get? name = s.objects.get? name
  exists_ : name ∈ t.failingExists ↔ name ∈ s.failingExists
  downloads : name ∈ t.failingDownloads ↔ name ∈ s.failingDownloads

theorem SameAt.exists?_eq {s t : Memory} {name : String} (h : SameAt s t name)
    (hname : t.name = s.name) :
    Container.exists? t name = Container.exists? s name := by
  simp only [Container.exists?, Memory.exists?, Memory.injected, NameMap.contains, h.content,
    h.exists_, hname]

theorem SameAt.download_eq {s t : Memory} {name : String} (h : SameAt s t name)
    (hname : t.name = s.name) :
    Container.download t name = Container.download s name := by
  simp only [Container.download, Memory.download, Memory.injected, h.content, h.downloads, hname]

/-- Two states of the same stores that agree on what the family owns: whether listing fails, which
of its names are listed (or whether its fixed name is there), what its latest record holds, and the
result file under both names. -/
structure AgreeOnOwn (family : Family) (settings : Settings) (s t : Stores Memory Memory) :
    Prop where
  share : t.share.name = s.share.name
  blobs : t.blobs.name = s.blobs.name
  names : match family with
    | .sequenced _ => t.blobs.failsList = s.blobs.failsList ∧ (s.blobs.failsList = false →
        ∀ name, family.owns name → (name ∈ t.blobs.objects.names ↔ name ∈ s.blobs.objects.names))
    | .fixed fileName => Container.exists? t.blobs fileName = Container.exists? s.blobs fileName
  document : ∀ name, Catalog.latestName family s.blobs = .ok name →
    t.blobs.objects.get? name = s.blobs.objects.get? name ∧
      (name ∈ t.blobs.failingDownloads ↔ name ∈ s.blobs.failingDownloads)
  result : ∀ prior fileName, Catalog.latestRecord family s.blobs = .ok prior →
    prior.fileName = some fileName →
    SameAt s.share t.share fileName ∧ SameAt s.share t.share (settings.processedMark ++ fileName)

theorem AgreeOnOwn.answersAlike {s t : Stores Memory Memory} (h : AgreeOnOwn family settings s t) :
    Catalog.AnswersAlike family s.blobs t.blobs := by
  have hnames := h.names
  cases family with
  | sequenced suffix =>
    obtain ⟨hfails, howned⟩ := hnames
    cases hlist : s.blobs.failsList with
    | true =>
      have hs := Memory.list_eq_error hlist
      have ht := Memory.list_eq_error (hfails.trans hlist)
      have hsame : t.blobs.injected .list "" = s.blobs.injected .list "" := by
        rw [Memory.injected, Memory.injected, h.blobs]
      refine ⟨fun e => by rw [hs, ht, hsame], fun names others hlisted => ?_⟩
      rw [hs] at hlisted
      contradiction
    | false =>
      have hs := Memory.list_eq hlist
      have ht := Memory.list_eq (hfails.trans hlist)
      refine ⟨fun e => by simp [hs, ht], fun names others hlisted hothers => ?_⟩
      cases hs.symm.trans hlisted
      cases ht.symm.trans hothers
      exact howned hlist
  | fixed fileName => exact hnames

theorem AgreeOnOwn.indistinct {s t : Stores Memory Memory} (h : AgreeOnOwn family settings s t) :
    Indistinct family settings s t where
  names := h.answersAlike
  document := by
    intro name hname
    obtain ⟨hcontent, hdownloads⟩ := h.document name hname
    simp only [Container.download, Memory.download, Memory.injected, hcontent, hdownloads, h.blobs]
  result := by
    intro prior fileName name hprior hfile hname
    obtain ⟨hown, hmarked⟩ := h.result prior fileName hprior hfile
    rcases hname with rfl | rfl
    · exact ⟨hown.exists?_eq h.share, hown.download_eq h.share⟩
    · exact ⟨hmarked.exists?_eq h.share, hmarked.download_eq h.share⟩

/-- The numbers, or the error in their place, are the same in any two states of the stores that
agree on what the family owns. The same is so for stores of any kind, as far as they answer
alike. -/
theorem allocate_eq_of_agree (family : Family) (settings : Settings) (now : LocalTime) :
    (∀ s t : Stores Memory Memory, AgreeOnOwn family settings s t →
      allocate family settings now t = allocate family settings now s) ∧
    ∀ (σ τ σ' τ' : Type) [Container σ] [Container τ] [Container σ'] [Container τ'] (s : Stores σ τ)
      (t : Stores σ' τ'), Indistinct family settings s t →
        allocate family settings now t = allocate family settings now s := by
  have hgeneral (σ τ σ' τ' : Type) [Container σ] [Container τ] [Container σ'] [Container τ']
      (s : Stores σ τ)
      (t : Stores σ' τ') (h : Indistinct family settings s t) :
      allocate family settings now t = allocate family settings now s := by
    rw [Inquiry.allocate_eq_map_run_course, Inquiry.allocate_eq_map_run_course,
      Inquiry.run_course_congr h]
  exact ⟨fun s t h => hgeneral _ _ _ _ s t h.indistinct, hgeneral⟩

open Retention (sampleSettings sampleDay sampleRecord sampleBlobs sampleShare
  latestRecord_sampleBlobs allocate_sampleBlobs)

/-- Too large a number, no dash, the name of another family, and digits that are not ASCII. -/
def strayBlobs : List String :=
  ["99999999999999999999-TARS.json", "12TARS.json", "dva-metadata.json", "１２-TARS.json"]

def crowdedBlobs : Memory where
  name := "metadata"
  objects :=
    strayBlobs.foldl (fun objects name => objects.insert name "?".toUTF8) (sampleBlobs 11).objects
  failingDownloads := strayBlobs

def crowdedShare : Memory where
  name := "results"
  objects := .ofList [("processed-TARS12.xml", "?".toUTF8), ("TARS11.xml", "x".toUTF8),
    ("TARS9.xml", "?".toUTF8)]
  failsList := true
  failingExists := ["TARS9.xml"]

theorem agreeOnOwn_crowded :
    AgreeOnOwn .standard sampleSettings ⟨sampleShare ["TARS11.xml"], sampleBlobs 11⟩
      ⟨crowdedShare, crowdedBlobs⟩ where
  share := rfl
  blobs := rfl
  names := by
    have hnames : (sampleBlobs 11).objects.names = ["11-TARS.json"] := by decide +kernel
    have hcrowded : crowdedBlobs.objects.names =
        ["11-TARS.json", "12TARS.json", "99999999999999999999-TARS.json", "dva-metadata.json",
          "１２-TARS.json"] := by
      decide +kernel
    have hstray : ∀ name ∈ strayBlobs, Family.standard.owns name = false := by decide +kernel
    refine ⟨rfl, fun _ name howns => ?_⟩
    have hnot : name ∉ strayBlobs := fun h => by simp [hstray name h] at howns
    simp only [strayBlobs, List.mem_cons, List.not_mem_nil, or_false, not_or] at hnot
    simp only [hnames, hcrowded, List.mem_cons, List.not_mem_nil, hnot, or_false]
  document := by
    intro name hname
    have hlatest : Catalog.latestName .standard (sampleBlobs 11) = .ok "11-TARS.json" := by
      decide +kernel
    cases hlatest.symm.trans hname
    exact ⟨by simp [crowdedBlobs, strayBlobs, NameMap.get?_insert], by decide +kernel⟩
  result := by
    intro prior fileName hprior hfile
    cases (latestRecord_sampleBlobs 11).symm.trans hprior
    cases hfile
    exact ⟨⟨by decide +kernel, by decide +kernel, by decide +kernel⟩,
      ⟨by decide +kernel, by decide +kernel, by decide +kernel⟩⟩

theorem allocate_eq_of_agree_crowded :
    AgreeOnOwn .standard sampleSettings ⟨sampleShare ["TARS11.xml"], sampleBlobs 11⟩
      ⟨crowdedShare, crowdedBlobs⟩ ∧
      allocate .standard sampleSettings sampleDay ⟨crowdedShare, crowdedBlobs⟩ =
        .ok ⟨12, ⟨2⟩, sampleDay⟩ := by
  have hsame := (allocate_eq_of_agree .standard sampleSettings sampleDay).1 _ _ agreeOnOwn_crowded
  refine ⟨agreeOnOwn_crowded, hsame.trans ?_⟩
  rw [allocate_sampleBlobs]
  decide +kernel

end Allocation

end ExportLedger
