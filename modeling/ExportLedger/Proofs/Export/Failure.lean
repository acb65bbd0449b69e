import ExportLedger.Proofs.Export.Inquiry
import ExportLedger.Store.Lagging
import ExportLedger.Store.Memory
/-!
When an allocation of numbers fails, and what it tells then. Its numbers start afresh only where a
store has said that there is no record, and a result file that is there is never passed over.
-/
namespace ExportLedger.Allocation

variable [Container σ] [Container τ] {family : Family} {settings : Settings} {s : Stores σ τ}
  {share : σ} {prior : Record} {fileName name : String} {cause : AllocationError}

/-- The result file is in the share under the name, which is its own or else the one that marks it
as processed. -/
def Stands (settings : Settings) (share : σ) (fileName name : String) : Prop :=
  name = fileName ∧ Container.exists? share fileName = .ok true ∨
    name = settings.processedMark ++ fileName ∧ Container.exists? share fileName = .ok false ∧
      Container.exists? share (settings.processedMark ++ fileName) = .ok true

/-- The share has said of both names that there is no such file. -/
def Gone (settings : Settings) (share : σ) (fileName : String) : Prop :=
  Container.exists? share fileName = .ok false ∧
    Container.exists? share (settings.processedMark ++ fileName) = .ok false

/-- The share does not say whether there is a file of one of the two names, the second being asked
for only after the first. -/
def Unprobed (settings : Settings) (share : σ) (fileName name : String) (e : StoreError) : Prop :=
  name = fileName ∧ Container.exists? share fileName = .error e ∨
    name = settings.processedMark ++ fileName ∧ Container.exists? share fileName = .ok false ∧
      Container.exists? share (settings.processedMark ++ fileName) = .error e

theorem Stands.exists?_eq (h : Stands settings share fileName name) :
    Container.exists? share name = .ok true := by
  rcases h with ⟨rfl, hown⟩ | ⟨rfl, -, hmarked⟩
  · exact hown
  · exact hmarked

theorem locate_of_stands (h : Stands settings share fileName name) :
    locate settings share fileName = .ok (some name) := by
  rcases h with ⟨rfl, hown⟩ | ⟨rfl, hown, hmarked⟩
  · simp only [locate, probe, hown, Except.mapError, bind, Except.bind, if_true, pure, Except.pure]
  · simp only [locate, probe, hown, hmarked, Except.mapError, bind, Except.bind, if_true,
      Bool.false_eq_true, if_false, pure, Except.pure]

theorem locate_of_gone (h : Gone settings share fileName) :
    locate settings share fileName = .ok none := by
  simp only [locate, probe, h.1, h.2, Except.mapError, bind, Except.bind, Bool.false_eq_true,
    if_false, pure, Except.pure]

theorem locate_of_unprobed {e : StoreError} (h : Unprobed settings share fileName name e) :
    locate settings share fileName = .error (.probe name e) := by
  rcases h with ⟨rfl, hown⟩ | ⟨rfl, hown, hmarked⟩
  · simp only [locate, probe, hown, Except.mapError, bind, Except.bind]
  · simp only [locate, probe, hown, hmarked, Except.mapError, bind, Except.bind,
      Bool.false_eq_true, if_false]

theorem stands_or_gone_or_unprobed (settings : Settings) (share : σ) (fileName : String) :
    (∃ name, Stands settings share fileName name) ∨ Gone settings share fileName ∨
      ∃ name e, Unprobed settings share fileName name e := by
  cases hown : Container.exists? share fileName with
  | error e => exact .inr (.inr ⟨_, e, .inl ⟨rfl, hown⟩⟩)
  | ok held =>
    cases held with
    | true => exact .inl ⟨_, .inl ⟨rfl, hown⟩⟩
    | false =>
      cases hmarked : Container.exists? share (settings.processedMark ++ fileName) with
      | error e => exact .inr (.inr ⟨_, e, .inr ⟨rfl, hown, hmarked⟩⟩)
      | ok marked =>
        cases marked with
        | true => exact .inl ⟨_, .inr ⟨rfl, hown, hmarked⟩⟩
        | false => exact .inr (.inl ⟨hown, hmarked⟩)

namespace Inquiry

/-- What a latest record leads to, with everything that has to be so for it. -/
inductive Leads (settings : Settings) (share : σ) (prior : Record) :
    Except AllocationError Course → Prop where
  | unlinked : prior.fileName = none → Leads settings share prior (.ok (.unlinked prior))
  | missing {fileName : String} : prior.fileName = some fileName → Gone settings share fileName →
    Leads settings share prior (.ok (.missing prior))
  | compared {fileName name : String} {content : ByteArray} : prior.fileName = some fileName →
    Stands settings share fileName name → Container.download share name = .ok content →
    Leads settings share prior
      (.ok (.compared prior name (Md5.matchesChecksum content (prior.checksum.getD ""))))
  | unprobed {fileName name : String} {e : StoreError} : prior.fileName = some fileName →
    Unprobed settings share fileName name e → Leads settings share prior (.error (.probe name e))
  | unfetched {fileName name : String} {e : StoreError} : prior.fileName = some fileName →
    Stands settings share fileName name → Container.download share name = .error e →
    Leads settings share prior (.error (.download name e))

theorem run_sequel_of_fileName (settings : Settings) (s : Stores σ τ)
    (hfile : prior.fileName = some fileName) :
    (sequel settings prior).run s =
      match locate settings s.share fileName with
      | .error cause => .error cause
      | .ok none => .ok (.missing prior)
      | .ok (some name) => ((Container.download s.share name).mapError (.download name)).map
          fun content =>
          .compared prior name (Md5.matchesChecksum content (prior.checksum.getD "")) := by
  simp only [sequel, hfile, run_bind, run_location]
  cases locate settings s.share fileName with
  | error cause => rfl
  | ok found =>
    cases found with
    | none => rfl
    | some name =>
      simp only [Bind.bind, Except.bind]
      show (fetchResult name >>= _).run s = _
      rw [run_bind, run_fetchResult]
      cases Container.download s.share name <;> rfl

theorem run_sequel_of_leads {result : Except AllocationError Course}
    (h : Leads settings s.share prior result) :
    (sequel settings prior).run s = result := by
  cases h with
  | unlinked hfile => simp only [sequel, hfile, run_pure]
  | missing hfile hgone => rw [run_sequel_of_fileName settings s hfile, locate_of_gone hgone]
  | compared hfile hstands hcontent =>
    rw [run_sequel_of_fileName settings s hfile, locate_of_stands hstands]
    dsimp only
    rw [hcontent]
    rfl
  | unprobed hfile hprobe => rw [run_sequel_of_fileName settings s hfile, locate_of_unprobed hprobe]
  | unfetched hfile hstands hfails =>
    rw [run_sequel_of_fileName settings s hfile, locate_of_stands hstands]
    dsimp only
    rw [hfails]
    rfl

theorem exists_leads (settings : Settings) (share : σ) (prior : Record) :
    ∃ result, Leads settings share prior result := by
  cases hfile : prior.fileName with
  | none => exact ⟨_, .unlinked hfile⟩
  | some fileName =>
    rcases stands_or_gone_or_unprobed settings share fileName with
      ⟨name, hstands⟩ | hgone | ⟨name, e, hprobe⟩
    · cases hdownload : Container.download share name with
      | ok content => exact ⟨_, .compared hfile hstands hdownload⟩
      | error e => exact ⟨_, .unfetched hfile hstands hdownload⟩
    · exact ⟨_, .missing hfile hgone⟩
    · exact ⟨_, .unprobed hfile hprobe⟩

theorem run_sequel_eq_iff {result : Except AllocationError Course} :
    (sequel settings prior).run s = result ↔ Leads settings s.share prior result := by
  constructor
  · rintro rfl
    obtain ⟨result, h⟩ := exists_leads settings s.share prior
    rwa [run_sequel_of_leads h]
  · exact run_sequel_of_leads

theorem run_sequel_ne_fresh : (sequel settings prior).run s ≠ .ok .fresh := by
  rw [ne_eq, run_sequel_eq_iff]
  intro h
  cases h

theorem run_course_of_latestRecord {blobs : τ}
    (hprior : Catalog.latestRecord family blobs = .ok prior) (settings : Settings) (share : σ) :
    (course family settings).run (⟨share, blobs⟩ : Stores σ τ) =
      (sequel settings prior).run (⟨share, blobs⟩ : Stores σ τ) := by
  rw [run_course, hprior]

/-- A result file is taken for lost only where the share has said that it is not there. -/
theorem run_course_eq_missing_iff {blobs : τ}
    (hprior : Catalog.latestRecord family blobs = .ok prior)
    (hfile : prior.fileName = some fileName) :
    (course family settings).run (⟨share, blobs⟩ : Stores σ τ) = .ok (.missing prior) ↔
      Gone settings share fileName := by
  rw [run_course_of_latestRecord hprior, run_sequel_eq_iff]
  constructor
  · intro h
    cases h with
    | missing hother hgone =>
      cases hfile.symm.trans hother
      exact hgone
  · exact .missing hfile

/-- The numbers start afresh only where the container has said that it holds no record. -/
theorem run_course_eq_fresh_iff :
    (course family settings).run s = .ok .fresh ↔ Catalog.Lacks family s.blobs := by
  rw [← Catalog.latestRecord_eq_noRecord_iff, run_course]
  cases Catalog.latestRecord family s.blobs with
  | ok prior => simp [run_sequel_ne_fresh]
  | error cause => cases cause <;> simp

theorem run_course_eq_error_iff : (course family settings).run s = .error cause ↔
    (∃ e, Catalog.latestRecord family s.blobs = .error e ∧ (∀ container, e ≠ .noRecord container) ∧
      cause = .latestRecord e) ∨
    ∃ prior, Catalog.latestRecord family s.blobs = .ok prior ∧
      Leads settings s.share prior (.error cause) := by
  rw [run_course]
  cases Catalog.latestRecord family s.blobs with
  | ok prior => simp [run_sequel_eq_iff]
  | error e => cases e <;> simp [@eq_comm _ cause]

end Inquiry

section Allocate

variable {now : LocalTime}

theorem allocate_eq_error_iff :
    allocate family settings now s = .error cause ↔
      (Inquiry.course family settings).run s = .error cause := by
  rw [Inquiry.allocate_eq_map_run_course]
  cases (Inquiry.course family settings).run s <;> simp [Except.map]

theorem exists_course_of_allocate {d : Draft} (h : allocate family settings now s = .ok d) :
    ∃ c, (Inquiry.course family settings).run s = .ok c ∧ d = c.draft settings now := by
  rw [Inquiry.allocate_eq_map_run_course] at h
  cases hrun : (Inquiry.course family settings).run s with
  | error cause =>
    rw [hrun] at h
    cases h
  | ok c =>
    rw [hrun] at h
    exact ⟨c, rfl, (Except.ok.inj h).symm⟩

theorem allocate_eq_latestRecord_iff {e : CatalogError} :
    allocate family settings now s = .error (.latestRecord e) ↔
      Catalog.latestRecord family s.blobs = .error e ∧ ∀ container, e ≠ .noRecord container := by
  rw [allocate_eq_error_iff, Inquiry.run_course_eq_error_iff]
  constructor
  · rintro (⟨c, hc, hne, h⟩ | ⟨prior, -, hleads⟩)
    · cases h
      exact ⟨hc, hne⟩
    · cases hleads
  · rintro ⟨hc, hne⟩
    exact .inl ⟨e, hc, hne, rfl⟩

theorem allocate_eq_probe_iff {e : StoreError} :
    allocate family settings now s = .error (.probe name e) ↔
      ∃ prior fileName, Catalog.latestRecord family s.blobs = .ok prior ∧
        prior.fileName = some fileName ∧
        Unprobed settings s.share fileName name e := by
  rw [allocate_eq_error_iff, Inquiry.run_course_eq_error_iff]
  constructor
  · rintro (⟨c, -, -, h⟩ | ⟨prior, hprior, hleads⟩)
    · cases h
    · cases hleads with
      | unprobed hfile hprobe => exact ⟨prior, _, hprior, hfile, hprobe⟩
  · rintro ⟨prior, fileName, hprior, hfile, hprobe⟩
    exact .inr ⟨prior, hprior, .unprobed hfile hprobe⟩

theorem allocate_eq_download_iff {e : StoreError} :
    allocate family settings now s = .error (.download name e) ↔
      ∃ prior fileName, Catalog.latestRecord family s.blobs = .ok prior ∧
        prior.fileName = some fileName ∧
        Stands settings s.share fileName name ∧ Container.download s.share name = .error e := by
  rw [allocate_eq_error_iff, Inquiry.run_course_eq_error_iff]
  constructor
  · rintro (⟨c, -, -, h⟩ | ⟨prior, hprior, hleads⟩)
    · cases h
    · cases hleads with
      | unfetched hfile hstands hfails => exact ⟨prior, _, hprior, hfile, hstands, hfails⟩
  · rintro ⟨prior, fileName, hprior, hfile, hstands, hfails⟩
    exact .inr ⟨prior, hprior, .unfetched hfile hstands hfails⟩

/-- What goes wrong before a result file is fetched, and the error that tells of it. -/
inductive Unprepared (family : Family) (settings : Settings) (s : Stores σ τ) :
    AllocationError → Prop where
  /-- The listing fails, or the probe of a fixed name. -/
  | unanswered {e : StoreError} : Catalog.Unanswered family s.blobs e →
      Unprepared family settings s (.latestRecord (.store e))
  /-- The latest record cannot be fetched, whatever the failure is. -/
  | unfetched {name : String} {e : StoreError} : Catalog.latestName family s.blobs = .ok name →
      Container.download s.blobs name = .error e →
      Unprepared family settings s (.latestRecord (.store e))
  | malformed {name : String} {bytes : ByteArray} {fault : SchemaFault} :
      Catalog.latestName family s.blobs = .ok name → Container.download s.blobs name = .ok bytes →
      Record.parse bytes family.detail = .error fault →
      Unprepared family settings s (.latestRecord (.malformed name fault))
  | unprobed {prior : Record} {fileName name : String} {e : StoreError} :
      Catalog.latestRecord family s.blobs = .ok prior → prior.fileName = some fileName →
      Unprobed settings s.share fileName name e → Unprepared family settings s (.probe name e)

theorem allocate_eq_unprepared_iff (hcause : cause.context?.isSome) :
    allocate family settings now s = .error cause ↔ Unprepared family settings s cause := by
  cases cause with
  | latestRecord e =>
    rw [allocate_eq_latestRecord_iff, Catalog.latestRecord_eq_error_iff,
      Catalog.latestName_eq_error_iff]
    constructor
    · rintro ⟨(⟨e, h, rfl⟩ | ⟨-, rfl⟩) | ⟨name, hname, hload⟩, hne⟩
      · exact .unanswered h
      · exact absurd rfl (hne _)
      · rcases Catalog.load_eq_error_iff.1 hload with
          ⟨e, hfails, rfl⟩ | ⟨bytes, fault, hbytes, hfault, rfl⟩
        · exact .unfetched hname hfails
        · exact .malformed hname hbytes hfault
    · rintro (h | ⟨hname, hfails⟩ | ⟨hname, hbytes, hfault⟩)
      · exact ⟨.inl (.inl ⟨_, h, rfl⟩), nofun⟩
      · exact ⟨.inr ⟨_, hname, Catalog.load_eq_error_iff.2 (.inl ⟨_, hfails, rfl⟩)⟩, nofun⟩
      · exact ⟨.inr ⟨_, hname, Catalog.load_eq_error_iff.2 (.inr ⟨_, _, hbytes, hfault, rfl⟩)⟩,
          nofun⟩
  | probe name e =>
    rw [allocate_eq_probe_iff]
    constructor
    · rintro ⟨prior, fileName, hprior, hfile, hprobe⟩
      exact .unprobed hprior hfile hprobe
    · rintro (_ | _ | _ | ⟨hprior, hfile, hprobe⟩)
      exact ⟨_, _, hprior, hfile, hprobe⟩
  | download name e => contradiction

/-- A record that was found has been read, if there are numbers. -/
theorem load_of_allocate {d : Draft} (h : allocate family settings now s = .ok d)
    (hname : Catalog.latestName family s.blobs = .ok name) :
    ∃ prior, Catalog.load family s.blobs name = .ok prior := by
  cases hload : Catalog.load family s.blobs name with
  | ok prior => exact ⟨prior, rfl⟩
  | error e =>
    have hlatest := Catalog.latestRecord_eq_error_iff.2 (.inr ⟨name, hname, hload⟩)
    have hne (container : String) : e ≠ .noRecord container := by
      rintro rfl
      exact Catalog.load_ne_noRecord hload
    rw [allocate_eq_latestRecord_iff.2 ⟨hlatest, hne⟩] at h
    contradiction

end Allocate

/-- No failure of a store is taken for an absence. The numbers start afresh exactly if a store has
said that there is no record. There are numbers only if everything that was asked was answered, and
the record that was found could be read. A result file that is there and cannot be fetched is told
under the name at which it was found. Whatever else goes wrong is told as a failure to prepare. -/
theorem allocate_tells_failures (family : Family) (settings : Settings) (now : LocalTime)
    (s : Stores σ τ) :
    allocate family settings now s =
      ((Inquiry.course family settings).run s).map (·.draft settings now) ∧
    ((Inquiry.course family settings).run s = .ok .fresh ↔ Catalog.Lacks family s.blobs) ∧
    (∀ d, allocate family settings now s = .ok d →
      (∀ q ∈ (Inquiry.course family settings).asked s, q.Succeeds s) ∧
        ∀ name, Catalog.latestName family s.blobs = .ok name → ∃ bytes prior,
          Container.download s.blobs name = .ok bytes ∧
          Record.parse bytes family.detail = .ok prior) ∧
    (∀ name e, allocate family settings now s = .error (.download name e) ↔
      ∃ prior fileName, Catalog.latestRecord family s.blobs = .ok prior ∧
        prior.fileName = some fileName ∧
        Stands settings s.share fileName name ∧ Container.download s.share name = .error e) ∧
    ∀ cause, cause.context?.isSome →
      (allocate family settings now s = .error cause ↔ Unprepared family settings s cause) := by
  refine ⟨Inquiry.allocate_eq_map_run_course family settings now s, Inquiry.run_course_eq_fresh_iff,
    fun d hd => ?_, fun name e => allocate_eq_download_iff,
    fun cause hcause => allocate_eq_unprepared_iff hcause⟩
  obtain ⟨c, hrun, -⟩ := exists_course_of_allocate hd
  refine ⟨(Inquiry.strict_course family settings).succeeds hrun, fun name hname => ?_⟩
  obtain ⟨prior, hload⟩ := load_of_allocate hd hname
  obtain ⟨bytes, hbytes, hparse⟩ := Catalog.load_eq_ok_iff.1 hload
  exact ⟨bytes, prior, hbytes, hparse⟩

/-- A record that is still listed, but gone. -/
example (settings : Settings) (now : LocalTime) (share : Memory) :
    allocate .standard settings now
        (⟨share, ⟨{ name := "metadata", objects := .empty }, ["10-TARS.json"]⟩⟩ : Stores Memory
          (Lagging Memory)) =
      .error (.latestRecord (.store (.notFound "metadata" "10-TARS.json"))) := by
  rfl

end ExportLedger.Allocation
