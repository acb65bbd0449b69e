import ExportLedger.Export.Allocation
import ExportLedger.Proofs.Calendar.DayNumber
import ExportLedger.Proofs.Catalog
/-!
What the allocation of numbers comes to over a share in memory: when the previous export is
confirmed, and which numbers follow.
-/
namespace ExportLedger.Allocation

variable {settings : Settings} {share : Memory} {prior : Record} {fileName checksum : String}

/-- The file's own name goes first. -/
theorem confirm_of_get? {content : ByteArray} (hprobe : fileName ∉ share.failingExists)
    (hget : share.objects.get? fileName = some content) :
    confirm settings share prior fileName =
      if fileName ∈ share.failingDownloads then .error
        (.download fileName (share.injected .download fileName))
      else .ok (Md5.matchesChecksum content (prior.checksum.getD "")) := by
  have hcontains := NameMap.contains_eq_true_iff.2 ⟨content, hget⟩
  by_cases hd : fileName ∈ share.failingDownloads
  · rw [if_pos hd]
    simp only [confirm, locate, probe, Memory.exists?_eq hprobe, hcontains,
      Memory.download_eq_error hd, Except.mapError, bind, Except.bind, pure, Except.pure, if_true]
  · rw [if_neg hd]
    simp only [confirm, locate, probe, Memory.exists?_eq hprobe, hcontains,
      Memory.download_eq hd hget, Except.mapError, bind, Except.bind, pure, Except.pure, if_true]

theorem confirm_of_get?_processed {content : ByteArray} (hprobe : fileName ∉ share.failingExists)
    (hnone : share.objects.get? fileName = none)
    (hprocessed : settings.processedMark ++ fileName ∉ share.failingExists)
    (hget : share.objects.get? (settings.processedMark ++ fileName) = some content) :
    confirm settings share prior fileName =
      if settings.processedMark ++ fileName ∈ share.failingDownloads then
        .error (.download (settings.processedMark ++ fileName)
          (share.injected .download (settings.processedMark ++ fileName)))
      else .ok (Md5.matchesChecksum content (prior.checksum.getD "")) := by
  have hcontains := NameMap.contains_eq_false_iff.2 hnone
  have hmarked := NameMap.contains_eq_true_iff.2 ⟨content, hget⟩
  by_cases hd : settings.processedMark ++ fileName ∈ share.failingDownloads
  · rw [if_pos hd]
    simp only [confirm, locate, probe, Memory.exists?_eq hprobe, Memory.exists?_eq hprocessed,
      hcontains, hmarked, Memory.download_eq_error hd, Except.mapError, bind, Except.bind, pure,
      Except.pure, Bool.false_eq_true, if_false, if_true]
  · rw [if_neg hd]
    simp only [confirm, locate, probe, Memory.exists?_eq hprobe, Memory.exists?_eq hprocessed,
      hcontains, hmarked, Memory.download_eq hd hget, Except.mapError, bind, Except.bind, pure,
      Except.pure, Bool.false_eq_true, if_false, if_true]

theorem confirm_of_missing (hprobe : fileName ∉ share.failingExists)
    (hnone : share.objects.get? fileName = none)
    (hprocessed : settings.processedMark ++ fileName ∉ share.failingExists)
    (hmissing : share.objects.get? (settings.processedMark ++ fileName) = none) :
    confirm settings share prior fileName = .ok false := by
  have hcontains := NameMap.contains_eq_false_iff.2 hnone
  have hmarked := NameMap.contains_eq_false_iff.2 hmissing
  simp only [confirm, locate, probe, Memory.exists?_eq hprobe, Memory.exists?_eq hprocessed,
    hcontains, hmarked, Except.mapError, bind, Except.bind, pure, Except.pure,
    Bool.false_eq_true, if_false]

theorem confirm_of_probe_fails (hprobe : fileName ∈ share.failingExists) :
    confirm settings share prior fileName = .error
      (.probe fileName (share.injected .probe fileName)) := by
  simp only [confirm, locate, probe, Memory.exists?_eq_error hprobe, Except.mapError, bind,
    Except.bind]

theorem confirm_of_processed_probe_fails (hprobe : fileName ∉ share.failingExists)
    (hnone : share.objects.get? fileName = none)
    (hprocessed : settings.processedMark ++ fileName ∈ share.failingExists) :
    confirm settings share prior fileName = .error (.probe (settings.processedMark ++ fileName)
      (share.injected .probe (settings.processedMark ++ fileName))) := by
  have hcontains := NameMap.contains_eq_false_iff.2 hnone
  simp only [confirm, locate, probe, Memory.exists?_eq hprobe,
    Memory.exists?_eq_error hprocessed, hcontains, Except.mapError, bind, Except.bind,
    Bool.false_eq_true, if_false]

/-- The content under the file's name, or else under the name that marks it as processed, has the
checksum. -/
def isConfirmed (mark : String) (objects : NameMap ByteArray) (fileName checksum : String) : Bool :=
  ((objects.get? fileName).or (objects.get? (mark ++ fileName))).any
    (Md5.matchesChecksum · checksum)

theorem isConfirmed_of_get? {objects : NameMap ByteArray} {content : ByteArray}
    (h : objects.get? fileName = some content) (mark : String) :
    isConfirmed mark objects fileName (Md5.checksum content) := by
  rw [isConfirmed, h]
  exact beq_self_eq_true (Md5.checksum content)

theorem confirm_of_healthy (hs : share.Healthy) (hsum : prior.checksum = some checksum) :
    confirm settings share prior fileName =
      .ok (isConfirmed settings.processedMark share.objects fileName checksum) := by
  have hprobe (name : String) : name ∉ share.failingExists := by simp [hs.exists_]
  unfold isConfirmed
  cases hget : share.objects.get? fileName with
  | some content =>
    rw [confirm_of_get? (hprobe _) hget, if_neg (by simp [hs.downloads]), hsum]
    rfl
  | none =>
    cases hmarked : share.objects.get? (settings.processedMark ++ fileName) with
    | some content =>
      rw [confirm_of_get?_processed (hprobe _) hget (hprobe _) hmarked,
        if_neg (by simp [hs.downloads]), hsum]
      rfl
    | none =>
      rw [confirm_of_missing (hprobe _) hget (hprobe _) hmarked]
      rfl

theorem following_eq_map [Container σ] {share : σ} (hfile : prior.fileName = some fileName)
    (now : LocalTime) :
    following settings now share prior =
      (confirm settings share prior fileName).map
        fun confirmed => advance prior confirmed (prior.created.isOnDayOf now) now := by
  simp only [following, hfile, bind, Except.bind]
  cases confirm settings share prior fileName <;> rfl

theorem following_of_healthy (settings : Settings) (hs : share.Healthy)
    (hfile : prior.fileName = some fileName) (hsum : prior.checksum = some checksum)
    (now : LocalTime) :
    following settings now share prior =
      .ok (advance prior (isConfirmed settings.processedMark share.objects fileName checksum)
        (prior.created.dayIn now.zone == now.dayIn now.zone) now) := by
  rw [following_eq_map hfile, confirm_of_healthy hs hsum, Timestamp.isOnDayOf_eq]
  rfl

theorem allocate_of_latestRecord [Container σ] [Container τ] {family : Family} {blobs : τ}
    (h : Catalog.latestRecord family blobs = .ok prior) (settings : Settings) (now : LocalTime)
    (share : σ) :
    allocate family settings now ⟨share, blobs⟩ = following settings now share prior := by
  rw [allocate, h]

/-- The latest record decides on what is looked at in the share. -/
theorem allocate_of_holds {family : Family} {s : Stores Memory Memory} (settings : Settings)
    (now : LocalTime) (hd : family.Dashed) (hs : s.share.Healthy) (hb : s.blobs.Healthy)
    (hr : prior.Storable family.detail) (h : Catalog.Holds family prior s.blobs.objects)
    (hfile : prior.fileName = some fileName) (hsum : prior.checksum = some checksum) :
    allocate family settings now s =
      .ok (advance prior (isConfirmed settings.processedMark s.share.objects fileName checksum)
        (prior.created.dayIn now.zone == now.dayIn now.zone) now) := by
  have hlatest := Catalog.latestRecord_of_holds hd hb hr h
  exact (allocate_of_latestRecord hlatest settings now s.share).trans
    (following_of_healthy settings hs hfile hsum now)

theorem allocate_of_no_names {family : Family} {s : Stores Memory Memory} (settings : Settings)
    (now : LocalTime) (hb : s.blobs.Healthy) (h : s.blobs.objects.names = []) :
    allocate family settings now s = .ok ⟨settings.firstSequence, settings.firstDaily, now⟩ := by
  rw [allocate, Catalog.latestRecord_of_no_names hb h]

end ExportLedger.Allocation
