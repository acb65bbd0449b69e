import ExportLedger.Proofs.Export.Allocation
import ExportLedger.Proofs.Retention.Rule
/-!
The confirmed export and a pass over the share. The number of the latest record tells which file
confirms it, but folded names tell which processed file is kept.
-/
namespace ExportLedger

namespace Allocation

variable {settings : Settings} {share : Memory} {prior : Record} {fileName : String}

/-- What is held under the name can be fetched and has the checksum. -/
def Fetches (share : Memory) (name checksum : String) : Prop :=
  ∃ content, share.objects.get? name = some content ∧ name ∉ share.failingDownloads ∧
    Md5.matchesChecksum content checksum

theorem confirm_eq_ok_true_iff : confirm settings share prior fileName = .ok true ↔
    fileName ∉ share.failingExists ∧
      (Fetches share fileName (prior.checksum.getD "") ∨
        share.objects.get? fileName = none ∧ settings.processedMark ++ fileName ∉
          share.failingExists ∧
          Fetches share (settings.processedMark ++ fileName) (prior.checksum.getD "")) := by
  by_cases hprobe : fileName ∈ share.failingExists
  · rw [confirm_of_probe_fails hprobe]
    simp [hprobe]
  cases hget : share.objects.get? fileName with
  | some content =>
    rw [confirm_of_get? hprobe hget]
    by_cases hd : fileName ∈ share.failingDownloads <;> simp [hprobe, hd, hget, Fetches]
  | none =>
    by_cases hmarked : settings.processedMark ++ fileName ∈ share.failingExists
    · rw [confirm_of_processed_probe_fails hprobe hget hmarked]
      simp [hmarked, hget, Fetches]
    cases hheld : share.objects.get? (settings.processedMark ++ fileName) with
    | none =>
      rw [confirm_of_missing hprobe hget hmarked hheld]
      simp [hheld, hget, Fetches]
    | some content =>
      rw [confirm_of_get?_processed hprobe hget hmarked hheld]
      by_cases hd : settings.processedMark ++ fileName ∈ share.failingDownloads <;>
        simp [hprobe, hmarked, hd, hget, hheld, Fetches]

/-- A draft with the next number is given exactly by the shares that confirm the previous export. -/
theorem following_eq_ok_iff [Container σ] [Container τ] {share : σ}
    (hfile : prior.fileName = some fileName) {now : LocalTime} {draft : Draft}
    (hdraft : following settings now share prior = .ok draft)
    (hnext : draft.sequence = prior.sequence + 1) (other : τ) :
    following settings now other prior = .ok draft ↔
      confirm settings other prior fileName = .ok true := by
  have hne : prior.sequence ≠ prior.sequence + 1 := by
    rw [ne_eq, ← UInt64.toNat_inj, UInt64.toNat_add]
    have hlt := prior.sequence.toNat_lt
    have hone : (1 : UInt64).toNat = 1 := rfl
    omega
  have hadvance (sameDay : Bool) : advance prior false sameDay now ≠ draft := by
    rintro rfl
    exact hne hnext
  rw [following_eq_map hfile] at hdraft ⊢
  cases hconfirm : confirm settings share prior fileName with
  | error cause =>
    rw [hconfirm] at hdraft
    contradiction
  | ok confirmed =>
    rw [hconfirm] at hdraft
    cases confirmed with
    | false => exact absurd (Except.ok.inj hdraft) (hadvance _)
    | true =>
      cases hother : confirm settings other prior fileName with
      | error cause => simp [Except.map]
      | ok confirmed =>
        cases confirmed with
        | false => simp [Except.map, hadvance]
        | true => simpa [Except.map] using hdraft

end Allocation

namespace Retention

open Allocation (Fetches allocate)

variable {mark : String} {share : Memory} {name : String}

/-- A pass leaves the file alone: listing or deleting fails, or the file is not marked as processed,
or no marked file comes after it. -/
def Outlasts (mark : String) (share : Memory) (name : String) : Prop :=
  share.failsList = true ∨ name ∈ share.failingDeletes ∨
    Naming.startsWithIgnoringCase mark.toList name.toList = false ∨
    ∀ n ∈ share.objects.names, Naming.startsWithIgnoringCase mark.toList n.toList →
    ¬FoldsAfter n name

theorem spares_iff_outlasts (hn : name ∈ share.objects.names) :
    (Rule.processedFiles mark).Spares share name ↔ Outlasts mark share name := by
  unfold Rule.Spares Outlasts
  rw [keeps_processedFiles_iff]
  show _ ∨ _ ∨ Naming.startsWithIgnoringCase mark.toList name.toList = false ∨ _ ∧
    Naming.startsWithIgnoringCase mark.toList name.toList = true ∧ _ ↔ _
  cases hm : Naming.startsWithIgnoringCase mark.toList name.toList with
  | false => simp
  | true =>
    simp only [hn, true_and]
    rfl

theorem mem_names_prune_iff_outlasts : name ∈ (prune (.processedFiles mark) share).2.objects.names ↔
    name ∈ share.objects.names ∧ Outlasts mark share name := by
  rw [mem_names_prune_iff]
  exact and_congr_right spares_iff_outlasts

theorem fetches_prune_iff {checksum : String} :
    Fetches (prune (.processedFiles mark) share).2 name checksum ↔
      Fetches share name checksum ∧ Outlasts mark share name := by
  have hdownloads := (alike_prune (Rule.processedFiles mark) share).failingDownloads
  unfold Fetches
  rw [hdownloads]
  by_cases hn : name ∈ share.objects.names
  · rw [← spares_iff_outlasts hn]
    by_cases hspares : (Rule.processedFiles mark).Spares share name
    · simp [get?_prune_of_spares hspares, hspares]
    · simp [get?_prune_of_not_spares hspares, hspares]
  · have hafter : name ∉ (prune (.processedFiles mark) share).2.objects.names :=
      fun h => hn (mem_names_prune_iff.1 h).1
    rw [NameMap.not_mem_names_iff] at hn hafter
    simp [hn, hafter]

/-- A confirmed export stays confirmed exactly if the pass leaves alone the file that is looked at,
or else the marked file, which must confirm the export too. -/
theorem confirm_prune_iff {settings : Allocation.Settings} {prior : Record} {fileName : String}
    (h : Allocation.confirm settings share prior fileName = .ok true) :
    Allocation.confirm settings (prune (.processedFiles settings.processedMark) share).2
      prior fileName =
        .ok true ↔
      fileName ∈ share.objects.names ∧ Outlasts settings.processedMark share fileName ∨
        settings.processedMark ++ fileName ∉ share.failingExists ∧
          Fetches share (settings.processedMark ++ fileName) (prior.checksum.getD "") ∧
          Outlasts settings.processedMark share (settings.processedMark ++ fileName) := by
  obtain ⟨hprobe, hbefore⟩ := Allocation.confirm_eq_ok_true_iff.1 h
  have hexists := (alike_prune (Rule.processedFiles settings.processedMark) share).failingExists
  rw [Allocation.confirm_eq_ok_true_iff, hexists, fetches_prune_iff, fetches_prune_iff,
    ← NameMap.not_mem_names_iff, mem_names_prune_iff_outlasts]
  constructor
  · rintro ⟨-, ⟨⟨content, hget, -⟩, hlasts⟩ | ⟨-, hmarked, hfetch, hlasts⟩⟩
    · exact .inl ⟨NameMap.mem_names_iff.2 ⟨content, hget⟩, hlasts⟩
    · exact .inr ⟨hmarked, hfetch, hlasts⟩
  · intro hafter
    refine ⟨hprobe, ?_⟩
    by_cases hstays : fileName ∈ share.objects.names ∧
      Outlasts settings.processedMark share fileName
    · rcases hbefore with hfetch | ⟨hnone, -⟩
      · exact .inl ⟨hfetch, hstays.2⟩
      · exact absurd hstays.1 (NameMap.not_mem_names_iff.2 hnone)
    · rcases hafter with hlasts | ⟨hmarked, hfetch, hlasts⟩
      · exact absurd hlasts hstays
      · exact .inr ⟨hstays, hmarked, hfetch, hlasts⟩

/-- Nothing but result files by the standard template; the marked ones have numbers up to `n` and as
many digits as `n`. -/
def HoldsResults (mark : String) (share : Memory) (n : Nat) : Prop :=
  ∀ name ∈ share.objects.names, (∃ k, name = Template.standardName k) ∨
    ∃ k ≤ n, (Decimal.digits k).length = (Decimal.digits n).length ∧
    name = mark ++ Template.standardName k

/-- Of marked result files with as many digits the one with the greatest number is kept. -/
theorem outlasts_marked {n : Nat} (hmark : Template.Apart mark) (h : HoldsResults mark share n) :
    Outlasts mark share (mark ++ Template.standardName n) := by
  refine .inr (.inr (.inr fun name hname hm => ?_))
  obtain ⟨k, rfl⟩ | ⟨k, hle, hlen, rfl⟩ := h name hname
  · rw [hmark k] at hm
    contradiction
  · rintro (hlt | ⟨heq, hlt⟩)
    · rw [Naming.folded_marked_lt_iff hlen.symm] at hlt
      omega
    · have hnot : ¬k < n := by
        rw [← Naming.folded_marked_lt_iff hlen mark, heq]
        exact String.lt_irrefl _
      obtain rfl : k = n := by omega
      exact String.lt_irrefl _ hlt

section Draft

variable [Container τ] {blobs : τ} {family : Family} {settings : Allocation.Settings}
  {now : LocalTime} {prior : Record} {fileName : String} {draft : Draft}

/-- After a pass over the share the draft is the same exactly if the pass leaves alone the file that
confirms the last export, or else its marked file that does so too. With numbers of one length it
always does. -/
theorem allocate_prune_iff (hprior : Catalog.latestRecord family blobs = .ok prior)
    (hfile : prior.fileName = some fileName)
    (hdraft : allocate family settings now ⟨share, blobs⟩ = .ok draft)
    (hnext : draft.sequence = prior.sequence + 1) :
    (allocate family settings now ⟨(prune (.processedFiles settings.processedMark) share).2,
      blobs⟩ =
        .ok draft ↔
      fileName ∈ share.objects.names ∧ Outlasts settings.processedMark share fileName ∨
        settings.processedMark ++ fileName ∉ share.failingExists ∧
          Fetches share (settings.processedMark ++ fileName) (prior.checksum.getD "") ∧
          Outlasts settings.processedMark share (settings.processedMark ++ fileName)) ∧
    (Template.Apart settings.processedMark →
      (∃ n, fileName = Template.standardName n ∧ HoldsResults settings.processedMark share n) →
      allocate family settings now ⟨(prune (.processedFiles settings.processedMark) share).2,
        blobs⟩ =
        .ok draft) := by
  have hfollow (other : Memory) : allocate family settings now ⟨other, blobs⟩ =
      Allocation.following settings now other prior := by
    rw [allocate, hprior]
  rw [hfollow] at hdraft ⊢
  have hconfirm := (Allocation.following_eq_ok_iff hfile hdraft hnext share).1 hdraft
  have hsame := (Allocation.following_eq_ok_iff hfile hdraft hnext
    (prune (.processedFiles settings.processedMark) share).2).trans (confirm_prune_iff hconfirm)
  refine ⟨hsame, fun hmark hresults => hsame.2 ?_⟩
  obtain ⟨n, rfl, hn⟩ := hresults
  rcases (Allocation.confirm_eq_ok_true_iff.1 hconfirm).2 with
    ⟨content, hget, -⟩ | ⟨-, hmarked, hfetch⟩
  · exact .inl ⟨NameMap.mem_names_iff.2 ⟨content, hget⟩, .inr (.inr (.inl (hmark n)))⟩
  · exact .inr ⟨hmarked, hfetch, outlasts_marked hmark hn⟩

end Draft

def sampleSettings : Allocation.Settings := ⟨1, .first, "processed-"⟩

def sampleDay : LocalTime := .noonOf 19737

def sampleRecord (n : UInt64) : Record :=
  Draft.record ⟨n, .first, sampleDay⟩ (Template.standardName n.toNat) "x".toUTF8 1

/-- With the record of the latest export only. -/
def sampleBlobs (n : UInt64) : Memory :=
  (Catalog.save .standard (.new "metadata") (sampleRecord n)).2

def sampleShare (names : List String) : Memory :=
  { name := "results", objects := .ofList (names.map fun name => (name, "x".toUTF8)) }

theorem storable_sampleRecord (n : UInt64) (detail : Detail) : (sampleRecord n).Storable detail :=
  have hwritable : sampleDay.Writable := by decide
  Draft.storable_record (d := ⟨n, .first, sampleDay⟩) _ _ hwritable
    (Template.standardName_ne_empty _) detail

theorem latestRecord_sampleBlobs (n : UInt64) :
    Catalog.latestRecord .standard (sampleBlobs n) = .ok (sampleRecord n) := by
  have hd : Family.standard.Dashed := rfl
  have hempty : (Memory.new "metadata").objects.names = [] := rfl
  exact Catalog.latestRecord_save hd (Memory.healthy_new "metadata")
    (storable_sampleRecord n _) hempty

theorem allocate_sampleBlobs (n : UInt64) (share : Memory) :
    allocate .standard sampleSettings sampleDay ⟨share, sampleBlobs n⟩ =
      Allocation.following sampleSettings sampleDay share (sampleRecord n) :=
  Allocation.allocate_of_latestRecord (latestRecord_sampleBlobs n) _ _ _

theorem allocate_prune_iff_ten_eleven :
    allocate .standard sampleSettings sampleDay
        ⟨sampleShare ["processed-TARS10.xml", "processed-TARS11.xml"], sampleBlobs 11⟩ =
      .ok ⟨12, ⟨2⟩, sampleDay⟩ ∧
    allocate .standard sampleSettings sampleDay
        ⟨(prune (.processedFiles "processed-")
          (sampleShare ["processed-TARS10.xml", "processed-TARS11.xml"])).2, sampleBlobs 11⟩ =
      .ok ⟨12, ⟨2⟩, sampleDay⟩ := by
  have hdraft : allocate .standard sampleSettings sampleDay
      ⟨sampleShare ["processed-TARS10.xml", "processed-TARS11.xml"], sampleBlobs 11⟩ =
        .ok ⟨12, ⟨2⟩, sampleDay⟩ := by
    rw [allocate_sampleBlobs]
    decide +kernel
  have hnames : (sampleShare ["processed-TARS10.xml", "processed-TARS11.xml"]).objects.names =
      ["processed-TARS10.xml", "processed-TARS11.xml"] := by
    decide +kernel
  refine ⟨hdraft,
    (allocate_prune_iff (latestRecord_sampleBlobs 11) rfl hdraft rfl).2 Template.apart_processed
    ⟨11, rfl, fun name hname => ?_⟩⟩
  rw [hnames, List.mem_cons, List.mem_singleton] at hname
  rcases hname with rfl | rfl
  · exact .inr ⟨10, by decide, by decide, by decide +kernel⟩
  · exact .inr ⟨11, by decide, by decide, by decide +kernel⟩

/-- The tenth export is confirmed, until a pass keeps the file of the ninth. -/
theorem allocate_prune_nine_ten :
    allocate .standard sampleSettings sampleDay
        ⟨sampleShare ["processed-TARS9.xml", "processed-TARS10.xml"], sampleBlobs 10⟩ =
      .ok ⟨11, ⟨2⟩, sampleDay⟩ ∧
    (prune (.processedFiles "processed-")
      (sampleShare ["processed-TARS9.xml", "processed-TARS10.xml"])).1 =
      .ok (.pruned "processed-TARS9.xml" ["processed-TARS10.xml"]) ∧
    allocate .standard sampleSettings sampleDay
        ⟨(prune (.processedFiles "processed-")
          (sampleShare ["processed-TARS9.xml", "processed-TARS10.xml"])).2, sampleBlobs 10⟩ =
      .ok ⟨10, .first, sampleDay⟩ := by
  rw [allocate_sampleBlobs, allocate_sampleBlobs]
  decide +kernel

end Retention

end ExportLedger
