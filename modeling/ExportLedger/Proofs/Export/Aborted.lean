import ExportLedger.Proofs.Export.DistinctNames
import ExportLedger.Proofs.Retention.ConfirmedFile
import ExportLedger.Proofs.Store.Truthful
/-!
Exports that fail, and the previous export. It stays confirmed unless the failed export has put its
own content where the file of the previous one is looked for.
-/
namespace ExportLedger

namespace Catalog

variable [Container σ] [Visible σ] [Container τ] [Visible τ] {family : Family} {s : σ} {t : τ}
  {name : String} {r : Record}

theorem latestName_of_recovers (hs : Truthful s) (ht : Recovers s t) (hlook : look t = look s)
    (h : latestName family s = .ok name) : latestName family t = .ok name := by
  cases family with
  | sequenced suffix =>
    obtain ⟨names, hlist, hlatest⟩ := latestName_sequenced_eq_ok_iff.1 h
    obtain ⟨others, hothers⟩ := ht.lists hlist
    have hsame : ∀ n, n ∈ others ↔ n ∈ names := by
      intro n
      rw [ht.listed hothers, hs.listed hlist, hlook]
    have hagain := (Family.latest?_congr fun n _ => hsame n).trans hlatest
    exact latestName_sequenced_eq_ok_iff.2 ⟨others, hothers, hagain⟩
  | fixed fileName =>
    obtain ⟨hheld, rfl⟩ := latestName_fixed_eq_ok_iff.1 h
    obtain ⟨content, hcontent⟩ := (hs.probed hheld).1 rfl
    rw [← hlook] at hcontent
    exact latestName_fixed_eq_ok_iff.2 ⟨ht.exists?_eq_true hheld hcontent, rfl⟩

/-- The latest record is found again as long as nothing is kept that was not there before. -/
theorem latestRecord_of_recovers (hs : Truthful s) (ht : Recovers s t) (hlook : look t = look s)
    (h : latestRecord family s = .ok r) : latestRecord family t = .ok r := by
  obtain ⟨name, hname, hload⟩ := latestRecord_eq_ok_iff.1 h
  obtain ⟨bytes, hbytes, hparse⟩ := load_eq_ok_iff.1 hload
  have hcontent := hs.fetched hbytes
  rw [← hlook] at hcontent
  have hload' := load_eq_ok_iff.2 ⟨bytes, ht.download_eq hbytes hcontent, hparse⟩
  exact latestRecord_eq_ok_iff.2 ⟨name, latestName_of_recovers hs ht hlook hname, hload'⟩

end Catalog

namespace Allocation

/-- The content under the file's name, or else under the name that marks it as processed, has the
checksum. -/
def vouches (mark : String) (files : String → Option ByteArray) (fileName checksum : String) :
    Bool :=
  ((files fileName).or (files (mark ++ fileName))).any (Md5.matchesChecksum · checksum)

/-- Content that is put under the name does not take away what vouches for the file: it has the
checksum itself, or it is neither put in the file's place nor in that of the marked file if there is
no other. -/
def Spares (mark : String) (files : String → Option ByteArray) (fileName checksum name : String)
    (content : ByteArray) : Prop :=
  Md5.matchesChecksum content checksum ∨
    name ≠ fileName ∧ (name = mark ++ fileName → ∃ own, files fileName = some own)

theorem vouches_update_iff {mark fileName checksum name : String}
    {files : String → Option ByteArray} {content : ByteArray}
    (h : vouches mark files fileName checksum) :
    vouches mark (Function.update files name (some content)) fileName checksum ↔
      Spares mark files fileName checksum name content := by
  unfold vouches at h ⊢
  unfold Spares
  by_cases hname : name = fileName
  · subst hname
    simp
  · rw [Function.update_of_ne (Ne.symm hname)]
    cases hown : files fileName with
    | some own =>
      rw [hown] at h
      simpa [hname] using h
    | none =>
      rw [hown] at h
      by_cases hmarked : name = mark ++ fileName
      · rw [hmarked, Function.update_self]
        simp
      · rw [Function.update_of_ne (Ne.symm hmarked)]
        simpa [hname, hmarked] using h

section Confirm

variable [Container σ] {settings : Settings} {prior : Record} {s : σ} {fileName name : String}
  {confirmed : Bool}

theorem confirm_of_stands (h : Stands settings s fileName name) :
    confirm settings s prior fileName =
      ((Container.download s name).mapError (.download name)).map fun content =>
        Md5.matchesChecksum content (prior.checksum.getD "") := by
  simp only [confirm, locate_of_stands h, bind, Except.bind]
  cases Container.download s name <;> rfl

theorem confirm_of_gone (h : Gone settings s fileName) :
    confirm settings s prior fileName = .ok false := by
  simp only [confirm, locate_of_gone h, bind, Except.bind]

/-- What has been asked when there is an answer. -/
theorem stands_or_gone_of_confirm (h : confirm settings s prior fileName = .ok confirmed) :
    (∃ name content, Stands settings s fileName name ∧ Container.download s name = .ok content ∧
      confirmed = Md5.matchesChecksum content (prior.checksum.getD "")) ∨
    Gone settings s fileName ∧ confirmed = false := by
  rcases stands_or_gone_or_unprobed settings s fileName with
    ⟨name, hstands⟩ | hgone | ⟨name, e, hunprobed⟩
  · left
    rw [confirm_of_stands hstands] at h
    cases hdownload : Container.download s name with
    | error e =>
      rw [hdownload] at h
      contradiction
    | ok content =>
      rw [hdownload] at h
      exact ⟨name, content, hstands, hdownload, (Except.ok.inj h).symm⟩
  · right
    rw [confirm_of_gone hgone] at h
    exact ⟨hgone, (Except.ok.inj h).symm⟩
  · simp only [confirm, locate_of_unprobed hunprobed, bind, Except.bind] at h
    contradiction

variable [Visible σ] [Container τ] [Visible τ] {t : τ}

/-- A true answer is what the files say. -/
theorem confirm_eq_vouches (hs : Truthful s)
    (h : confirm settings s prior fileName = .ok confirmed) :
    confirmed = vouches settings.processedMark (look s) fileName (prior.checksum.getD "") := by
  unfold vouches
  rcases stands_or_gone_of_confirm h with
    ⟨name, content, hstands, hdownload, rfl⟩ | ⟨⟨hown, hmarked⟩, rfl⟩
  · have hcontent := hs.fetched hdownload
    rcases hstands with ⟨rfl, -⟩ | ⟨rfl, hown, -⟩
    · rw [hcontent]
      rfl
    · rw [hs.look_eq_none hown, hcontent]
      rfl
  · rw [hs.look_eq_none hown, hs.look_eq_none hmarked]
    rfl

/-- The later store is not asked for a name about which the earlier one was not asked. -/
theorem stands_or_gone_of_recovers (hs : Truthful s) (ht : Recovers s t)
    (h : confirm settings s prior fileName = .ok confirmed)
    (hkeeps : ∀ own, look s fileName = some own → ∃ other, look t fileName = some other) :
    (∃ name, Stands settings t fileName name) ∨ Gone settings t fileName := by
  have hprobed : Container.exists? s fileName = .ok true ∨
      Container.exists? s fileName = .ok false ∧
        ∃ marked, Container.exists? s (settings.processedMark ++ fileName) = .ok marked := by
    rcases stands_or_gone_of_confirm h with ⟨name, content, hstands, -⟩ | ⟨⟨hown, hmarked⟩, -⟩
    · rcases hstands with ⟨-, hown⟩ | ⟨-, hown, hmarked⟩
      · exact .inl hown
      · exact .inr ⟨hown, _, hmarked⟩
    · exact .inr ⟨hown, _, hmarked⟩
  rcases hprobed with hown | ⟨hown, marked, hmarked⟩
  · obtain ⟨own, hlook⟩ := (hs.probed hown).1 rfl
    obtain ⟨other, hother⟩ := hkeeps own hlook
    exact .inl ⟨_, .inl ⟨rfl, ht.exists?_eq_true hown hother⟩⟩
  · cases hlook : look t fileName with
    | some own => exact .inl ⟨_, .inl ⟨rfl, ht.exists?_eq_true hown hlook⟩⟩
    | none =>
      have hnone := ht.exists?_eq_false hown hlook
      cases hlook' : look t (settings.processedMark ++ fileName) with
      | some content => exact .inl ⟨_, .inr ⟨rfl, hnone, ht.exists?_eq_true hmarked hlook'⟩⟩
      | none => exact .inr ⟨hnone, ht.exists?_eq_false hmarked hlook'⟩

theorem confirm_of_recovers (hs : Truthful s) (ht : Recovers s t)
    (h : confirm settings s prior fileName = .ok confirmed)
    (hkeeps : ∀ own, look s fileName = some own → ∃ other, look t fileName = some other) :
    confirm settings t prior fileName =
      .ok (vouches settings.processedMark (look t) fileName (prior.checksum.getD "")) := by
  have hconfirm : ∃ again, confirm settings t prior fileName = .ok again := by
    rcases stands_or_gone_of_recovers hs ht h hkeeps with ⟨name, hstands⟩ | hgone
    · obtain ⟨content, hdownload⟩ := ht.hands hstands.exists?_eq
      rw [confirm_of_stands hstands, hdownload]
      exact ⟨_, rfl⟩
    · exact ⟨_, confirm_of_gone hgone⟩
  obtain ⟨again, hagain⟩ := hconfirm
  rw [hagain, confirm_eq_vouches ht.toTruthful hagain]

end Confirm

section Allocate

variable [Container σ] [Visible σ] [Container τ] [Visible τ] [Container υ] [Visible υ] [Container ω]
  [Visible ω] {family : Family} {settings : Settings} {now : LocalTime} {prior : Record}
  {s : Stores σ τ} {t : Stores υ ω} {fileName : String} {draft : Draft}

omit [Visible σ] [Visible τ] in
theorem confirm_of_next (hprior : Catalog.latestRecord family s.blobs = .ok prior)
    (hfile : prior.fileName = some fileName) (hdraft : allocate family settings now s = .ok draft)
    (hnext : draft.sequence = prior.sequence + 1) :
    confirm settings s.share prior fileName = .ok true ∧
      draft = advance prior true (prior.created.isOnDayOf now) now := by
  have hfollow : following settings now s.share prior = .ok draft :=
    (allocate_of_latestRecord hprior settings now s.share).symm.trans hdraft
  have hconfirm := (following_eq_ok_iff hfile hfollow hnext s.share).1 hfollow
  rw [following_eq_map hfile, hconfirm] at hfollow
  exact ⟨hconfirm, (Except.ok.inj hfollow).symm⟩

/-- The same record is followed again, by what the files have come to say of it. -/
theorem allocate_of_recovers (hshare : Truthful s.share) (hblobs : Truthful s.blobs)
    (hprior : Catalog.latestRecord family s.blobs = .ok prior)
    (hfile : prior.fileName = some fileName)
    (hconfirm : confirm settings s.share prior fileName = .ok true)
    (hshare' : Recovers s.share t.share) (hblobs' : Recovers s.blobs t.blobs)
    (hsame : look t.blobs = look s.blobs)
    (hkeeps : ∀ own, look s.share fileName = some own → ∃ other, look t.share fileName = some other)
    (now : LocalTime) : allocate family settings now t = .ok (advance prior
      (vouches settings.processedMark (look t.share) fileName (prior.checksum.getD ""))
      (prior.created.isOnDayOf now) now) := by
  have hlatest := Catalog.latestRecord_of_recovers hblobs hblobs' hsame hprior
  refine (allocate_of_latestRecord hlatest settings now t.share).trans ?_
  rw [following_eq_map hfile, confirm_of_recovers hshare hshare' hconfirm hkeeps]
  rfl

end Allocate

end Allocation

namespace Export

open Allocation (allocate advance vouches Spares)

/-- The later stores hold what an export has left in the earlier ones, and answer again. -/
structure Recovered [Container σ] [Visible σ] [Container τ] [Visible τ] [Container υ] [Visible υ]
    [Container ω] [Visible ω] (s after : Stores σ τ) (t : Stores υ ω) : Prop where
  share : Recovers s.share t.share
  blobs : Recovers s.blobs t.blobs
  sameShare : look t.share = look after.share
  sameBlobs : look t.blobs = look after.blobs

section Error

variable [Container σ] [Visible σ] [Container τ] [Visible τ] [Container υ] [Visible υ] [Container ω]
  [Visible ω] {setup : Setup} {now : LocalTime} {content : ByteArray} {rows : UInt64}
  {s after : Stores σ τ} {t : Stores υ ω} {cause : ExportError} {prior : Record} {draft : Draft}
  {fileName : String}

/-- What a failed export leaves of the previous one: the record, and its file unless the new content
is in its place. -/
theorem vouches_after_error (hdraft : allocate setup.family setup.settings now s = .ok draft)
    {mark checksum : String} (hvouches : vouches mark (look s.share) fileName checksum)
    (hrun : run setup now content rows s = (.error cause, after)) :
    look after.blobs = look s.blobs ∧
      (∀ own, look s.share fileName = some own → ∃ other, look after.share fileName = some other) ∧
      (vouches mark (look after.share) fileName checksum ↔
        (∃ e, cause = .upload (Template.render setup.template draft) e) ∨
          Spares mark (look s.share) fileName checksum
            (Template.render setup.template draft) content) := by
  have hleaves := leaves_of_allocate hdraft content rows
  rw [hrun] at hleaves
  cases hleaves with
  | unallocated halloc => cases hdraft.symm.trans halloc
  | notUploaded halloc hshare =>
    cases hdraft.symm.trans halloc
    refine ⟨rfl, ?_, ?_⟩
    · rw [hshare]
      exact fun own hown => ⟨own, hown⟩
    · rw [hshare]
      simp [hvouches]
  | notPersisted halloc hshare hblobs =>
    cases hdraft.symm.trans halloc
    refine ⟨hblobs, ?_, ?_⟩
    · intro own hown
      rw [hshare, Function.update_apply]
      split
      · exact ⟨content, rfl⟩
      · exact ⟨own, hown⟩
    · rw [hshare, Allocation.vouches_update_iff hvouches]
      simp

/-- The last digit tells the next number from the number itself, even where the numbers run over. -/
theorem add_one_mod_ten_ne (n : UInt64) : (n + 1).toNat % 10 ≠ n.toNat % 10 := by
  have hlt := n.toNat_lt
  have hone : (1 : UInt64).toNat = 1 := rfl
  rw [UInt64.toNat_add, hone]
  omega

/-- Under a template that asks for the sequence number, the next file has neither the name of the
previous one nor its marked name. -/
theorem spares_of_mentions {earlier : Draft} {mark checksum : String}
    {files : String → Option ByteArray} (hmentions : Template.Mentions setup.template .sequence)
    (hearlier : Template.Fits setup.template earlier) (hdraft : Template.Fits setup.template draft)
    (hnext : draft.sequence = earlier.sequence + 1)
    (hfile : fileName = Template.render setup.template earlier) :
    Spares mark files fileName checksum (Template.render setup.template draft) content := by
  have hdigit := add_one_mod_ten_ne earlier.sequence
  rw [← hnext] at hdigit
  have hne : draft.sequence ≠ earlier.sequence := fun h => hdigit (by rw [h])
  rw [hfile]
  refine .inr ⟨Template.render_ne hmentions hdraft hearlier hne, fun hmarked => ?_⟩
  exact absurd (Template.mod_ten_eq_of_render_eq hmentions hdraft hearlier hmarked) hdigit

/-- A previous export that was confirmed before a failed one stays confirmed exactly if the failed
one has not got as far as the upload, or its file leaves alone what the previous one is confirmed
by. Otherwise the number of the previous export is given out again. A template that asks for the
sequence number never lets this happen. -/
theorem allocate_after_error (hshare : Truthful s.share) (hblobs : Truthful s.blobs)
    (hprior : Catalog.latestRecord setup.family s.blobs = .ok prior)
    (hfile : prior.fileName = some fileName)
    (hdraft : allocate setup.family setup.settings now s = .ok draft)
    (hnext : draft.sequence = prior.sequence + 1)
    (hrun : run setup now content rows s = (.error cause, after)) (ht : Recovered s after t) :
    (allocate setup.family setup.settings now t = .ok draft ↔
      (∃ e, cause = .upload (Template.render setup.template draft) e) ∨
        Spares setup.settings.processedMark (look s.share) fileName (prior.checksum.getD "")
          (Template.render setup.template draft) content) ∧
    (allocate setup.family setup.settings now t ≠ .ok draft →
      allocate setup.family setup.settings now t =
        .ok (advance prior false (prior.created.isOnDayOf now) now)) ∧
    ∀ earlier, earlier.sequence = prior.sequence →
    fileName = Template.render setup.template earlier →
      Template.Mentions setup.template .sequence → Template.Fits setup.template earlier →
      Template.Fits setup.template draft → allocate setup.family setup.settings now t =
        .ok draft := by
  obtain ⟨hconfirm, hadvance⟩ := Allocation.confirm_of_next hprior hfile hdraft hnext
  have hvouches := (Allocation.confirm_eq_vouches hshare hconfirm).symm
  obtain ⟨hblobs', hkeeps, hiff⟩ := vouches_after_error hdraft hvouches hrun
  rw [← ht.sameShare] at hkeeps hiff
  have halloc :=
    Allocation.allocate_of_recovers hshare hblobs hprior hfile hconfirm ht.share ht.blobs
      (ht.sameBlobs.trans hblobs') hkeeps now
  generalize
    vouches setup.settings.processedMark (look t.share) fileName (prior.checksum.getD "") = vouched
    at halloc hiff
  have hmain : allocate setup.family setup.settings now t = .ok draft ↔ vouched = true := by
    rw [halloc]
    cases vouched with
    | true => simp [← hadvance]
    | false =>
      simp only [Except.ok.injEq, Bool.false_eq_true, iff_false]
      rintro rfl
      exact add_one_mod_ten_ne prior.sequence (by rw [← hnext]; rfl)
  refine ⟨hmain.trans hiff, fun hnot => ?_,
    fun earlier hsequence hname hmentions hearlier hfits => ?_⟩
  · rw [ne_eq, hmain, Bool.not_eq_true] at hnot
    rw [halloc, hnot]
  · rw [← hsequence] at hnext
    exact (hmain.trans hiff).2 (.inr (spares_of_mentions hmentions hearlier hfits hnext hname))

end Error

open Retention (sampleSettings sampleDay sampleShare)

def tenthRecord (fileName : String) : Record :=
  Draft.record ⟨10, .first, sampleDay⟩ fileName "x".toUTF8 1

def tenthBlobs (fileName : String) : NameMap ByteArray :=
  NameMap.empty.insert "10-TARS.json" (tenthRecord fileName).text.toUTF8

/-- A service that takes no eleventh record for the moment. -/
def refusing (fileName : String) : Bucket :=
  { name := "metadata", objects := tenthBlobs fileName, pageSize := 1000,
    refusals := [(.upload, "11-TARS.json", ⟨503, "SlowDown"⟩)] }

/-- The same records, without a failure. -/
def recovered (fileName : String) : Memory := { name := "metadata", objects := tenthBlobs fileName }

def templateSetup (template : String) : Setup :=
  { family := .standard, settings := sampleSettings, template := template }

theorem get?_tenthBlobs (fileName : String) :
    (tenthBlobs fileName).get? "10-TARS.json" = some (tenthRecord fileName).text.toUTF8 := by
  rw [tenthBlobs, NameMap.get?_insert, if_pos rfl]

theorem latestRecord_refusing (fileName : String) (hne : fileName ≠ "") :
    Catalog.latestRecord .standard (refusing fileName) = .ok (tenthRecord fileName) := by
  have hwritable : sampleDay.Writable := by decide
  have hstorable : (tenthRecord fileName).Storable Family.standard.detail :=
    Draft.storable_record (d := ⟨10, .first, sampleDay⟩) _ _ hwritable hne _
  have hdownload : Container.download (refusing fileName) "10-TARS.json" =
      .ok (tenthRecord fileName).text.toUTF8 := by
    have hnone : (refusing fileName).refusal? .download "10-TARS.json" = none := rfl
    have hget : (refusing fileName).objects.get? "10-TARS.json" = _ := get?_tenthBlobs fileName
    simp only [Container.download, Bucket.download, hnone, hget]
    rfl
  have hname : Catalog.latestName .standard (refusing fileName) = .ok "10-TARS.json" := by
    have hnone (page : String) : (refusing fileName).refusal? .list page = none := rfl
    have hlist : Container.list (refusing fileName) = .ok ["10-TARS.json"] := by
      have hnames : (refusing fileName).objects.names = ["10-TARS.json"] := rfl
      simp [Container.list, Bucket.list, hnone, hnames]
    have hlatest : Family.standard.latest? ["10-TARS.json"] = some "10-TARS.json" := rfl
    simp only [Family.standard] at hlatest
    simp only [Catalog.latestName, Family.standard, hlist, Except.mapError, bind,
      Except.bind, hlatest]
  exact Catalog.latestRecord_eq_ok_iff.2
    ⟨_, hname, Catalog.load_eq_ok_iff.2 ⟨_, hdownload, Record.parse_text hstorable⟩⟩

theorem truthful_refusing (fileName : String) : Truthful (refusing fileName) := by
  apply Bucket.truthful
  intro r hr
  rw [List.mem_singleton.1 hr]

theorem healthy_recovered (fileName : String) : (recovered fileName).Healthy := ⟨rfl, rfl, rfl, rfl⟩

def eleventhDraft : Draft := ⟨11, ⟨2⟩, sampleDay⟩

/-- The tenth file is there, under the given name. -/
def refusingStores (fileName : String) : Stores Memory Bucket :=
  ⟨sampleShare [fileName], refusing fileName⟩

/-- What the eleventh export leaves. -/
def abortedShare (fileName template : String) : Memory :=
  (Container.upload (sampleShare [fileName]) (Template.render template eleventhDraft) "y".toUTF8).2

theorem allocate_refusing {fileName : String} (hne : fileName ≠ "") :
    allocate .standard sampleSettings sampleDay (refusingStores fileName) = .ok eleventhDraft := by
  have hshare : (sampleShare [fileName]).Healthy := ⟨rfl, rfl, rfl, rfl⟩
  have hget : (sampleShare [fileName]).objects.get? fileName = some "x".toUTF8 := by
    show (NameMap.empty.insert fileName "x".toUTF8).get? fileName = some "x".toUTF8
    rw [NameMap.get?_insert, if_pos rfl]
  have hconfirmed := Allocation.isConfirmed_of_get? hget sampleSettings.processedMark
  refine (Allocation.allocate_of_latestRecord (latestRecord_refusing fileName hne) _ _ _).trans ?_
  refine (Allocation.following_of_healthy _ hshare rfl rfl _).trans ?_
  rw [hconfirmed]
  rfl

theorem run_refusing (template : String) {fileName : String}
    (hdraft : allocate .standard sampleSettings sampleDay (refusingStores fileName) =
      .ok eleventhDraft) :
    ∃ cause, run (templateSetup template) sampleDay "y".toUTF8 1 (refusingStores fileName) =
      (.error (.persist cause), ⟨abortedShare fileName template, refusing fileName⟩) := by
  have hrefused : (refusing fileName).refusal? .upload "11-TARS.json" = some ⟨503, "SlowDown"⟩ :=
    rfl
  have hname : Family.standard.fileName 11 = "11-TARS.json" := rfl
  have hsave (r : Record) (hr : r.sequence = 11) : Catalog.save .standard (refusing fileName) r =
      (.error (.store ((refusing fileName).unavailable .upload)), refusing fileName) := by
    simp only [Catalog.save, hr, hname, Container.upload, Bucket.upload, hrefused]
    rfl
  have hhold : allocate (templateSetup template).family (templateSetup template).settings sampleDay
      (refusingStores fileName) = .ok eleventhDraft := hdraft
  have hblobs :=
    hsave (eleventhDraft.record (Template.render template eleventhDraft) "y".toUTF8 1) rfl
  refine ⟨.store ((refusing fileName).unavailable .upload), ?_⟩
  simp only [run, hhold]
  simp only [templateSetup, refusingStores, Memory.upload_eq, hblobs]
  rfl

theorem recovered_refusing (fileName template : String) : Recovered (refusingStores fileName)
    ⟨abortedShare fileName template, refusing fileName⟩
    (⟨abortedShare fileName template, recovered fileName⟩ : Stores Memory Memory) := by
  have hshare : (abortedShare fileName template).Healthy := ⟨rfl, rfl, rfl, rfl⟩
  exact ⟨hshare.recovers _, (healthy_recovered fileName).recovers _, rfl, rfl⟩

theorem latestRecord_recovered (fileName : String) (hne : fileName ≠ "") :
    Catalog.latestRecord .standard (recovered fileName) = .ok (tenthRecord fileName) :=
  Catalog.latestRecord_of_recovers (truthful_refusing fileName)
    ((healthy_recovered fileName).recovers _) rfl
    (latestRecord_refusing fileName hne)

theorem allocate_after_error_standard :
    allocate .standard sampleSettings sampleDay (refusingStores "TARS10.xml") = .ok eleventhDraft ∧
      allocate .standard sampleSettings sampleDay
        (⟨abortedShare "TARS10.xml" Template.standard,
          recovered "TARS10.xml"⟩ : Stores Memory Memory) =
        .ok eleventhDraft := by
  have hlatest : Catalog.latestRecord (templateSetup Template.standard).family
      (refusingStores "TARS10.xml").blobs =
      .ok (tenthRecord "TARS10.xml") := latestRecord_refusing "TARS10.xml" (by decide)
  have hdraft : allocate (templateSetup Template.standard).family
      (templateSetup Template.standard).settings sampleDay
      (refusingStores "TARS10.xml") = .ok eleventhDraft :=
    allocate_refusing (by decide)
  have hnext : eleventhDraft.sequence = (tenthRecord "TARS10.xml").sequence + 1 := by decide
  obtain ⟨cause, hrun⟩ := run_refusing Template.standard hdraft
  have hmain :=
    allocate_after_error (Memory.truthful _) (truthful_refusing _) hlatest rfl hdraft hnext hrun
    (recovered_refusing _ _)
  have hname : "TARS10.xml" = Template.render Template.standard ⟨10, .first, sampleDay⟩ :=
    (Template.render_standard ⟨10, .first, sampleDay⟩).symm
  have hmentions : Template.Mentions Template.standard .sequence := by decide
  have htenth : Template.Fits Template.standard ⟨10, .first, sampleDay⟩ :=
    ⟨by decide, fun _ => by decide⟩
  have heleventh : Template.Fits Template.standard eleventhDraft := ⟨by decide, fun _ => by decide⟩
  exact ⟨hdraft, hmain.2.2 ⟨10, .first, sampleDay⟩ rfl hname hmentions htenth heleventh⟩

/-- A template without places gives one name to all files: the content of the export that failed is
taken for a tenth file that has been altered. -/
theorem tenth_issued_again_after_error : ∃ cause,
    allocate .standard sampleSettings sampleDay (refusingStores "TARS.xml") = .ok eleventhDraft ∧
      run (templateSetup "TARS.xml") sampleDay "y".toUTF8 1 (refusingStores "TARS.xml") =
        (.error (.persist cause), ⟨abortedShare "TARS.xml" "TARS.xml", refusing "TARS.xml"⟩) ∧
      Recovered (refusingStores "TARS.xml") ⟨abortedShare "TARS.xml" "TARS.xml",
        refusing "TARS.xml"⟩
        (⟨abortedShare "TARS.xml" "TARS.xml", recovered "TARS.xml"⟩ : Stores Memory Memory) ∧
      allocate .standard sampleSettings sampleDay
        (⟨abortedShare "TARS.xml" "TARS.xml", recovered "TARS.xml"⟩ : Stores Memory Memory) =
        .ok ⟨10, .first, sampleDay⟩ := by
  have hdraft : allocate .standard sampleSettings sampleDay (refusingStores "TARS.xml") =
      .ok eleventhDraft :=
    allocate_refusing (by decide)
  obtain ⟨cause, hrun⟩ := run_refusing "TARS.xml" hdraft
  refine ⟨cause, hdraft, hrun, recovered_refusing _ _, ?_⟩
  have hlatest' := latestRecord_recovered "TARS.xml" (by decide)
  exact (Allocation.allocate_of_latestRecord hlatest' _ _ _).trans (by decide +kernel)

end Export

end ExportLedger
