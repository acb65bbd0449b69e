import ExportLedger.App
import ExportLedger.Proofs.Export.Failure
/-!
What a command that fails tells of the store that failed it. Each error holds the store's own error,
and its chain ends with the chain of that error. Only a failed housekeeping holds the errors of the
stores without telling them.
-/
namespace ExportLedger

def CatalogError.storeError? : CatalogError → Option StoreError
  | .store e => some e
  | .noRecord _ | .malformed _ _ => none

def AllocationError.storeError? : AllocationError → Option StoreError
  | .latestRecord cause => cause.storeError?
  | .probe _ e | .download _ e => some e

def ExportError.storeError? : ExportError → Option StoreError
  | .allocation cause => cause.storeError?
  | .upload _ e => some e
  | .persist cause => cause.storeError?

def Retention.PruneError.storeErrors : PruneError → List StoreError
  | .list _ e => [e]
  | .deletions _ _ _ failed => failed.map (·.cause)

def Retention.Housekeeping.Failure.storeErrors (failure : Failure) : List StoreError :=
  (failure.fileShare.toList ++ failure.blobs.toList).flatMap PruneError.storeErrors

def CommandError.storeErrors : CommandError → List StoreError
  | .latest cause => cause.storeError?.toList
  | .allocation cause => cause.storeError?.toList
  | .unreadableInput _ => []
  | .export cause => cause.storeError?.toList
  | .housekeeping failure => failure.storeErrors

theorem CatalogError.storeError?_eq_some_iff {cause : CatalogError} {e : StoreError} :
    cause.storeError? = some e ↔ cause = .store e := by
  cases cause with
  | store error => simp only [storeError?, Option.some.injEq, store.injEq]
  | noRecord container => simp only [storeError?, reduceCtorEq]
  | malformed fileName fault => simp only [storeError?, reduceCtorEq]

theorem CatalogError.chain_eq {cause : CatalogError} {e : StoreError}
    (h : cause.storeError? = some e) :
    cause.chain = e.chain := by
  rw [storeError?_eq_some_iff.1 h]
  rfl

theorem AllocationError.chain_suffix {cause : AllocationError} {e : StoreError}
    (h : cause.storeError? = some e) :
    e.chain <:+ cause.chain := by
  cases cause with
  | latestRecord cause =>
    rw [← CatalogError.chain_eq h]
    exact List.suffix_cons _ _
  | probe fileName error =>
    cases h
    exact List.suffix_cons _ _
  | download fileName error =>
    cases h
    exact List.suffix_cons _ _

theorem ExportError.chain_suffix {cause : ExportError} {e : StoreError}
    (h : cause.storeError? = some e) :
    e.chain <:+ cause.chain := by
  cases cause with
  | allocation cause => exact AllocationError.chain_suffix h
  | upload fileName error =>
    cases h
    exact List.suffix_cons _ _
  | persist cause =>
    rw [← CatalogError.chain_eq h]
    exact List.suffix_cons _ _

theorem CommandError.chain_suffix {err : CommandError} {e : StoreError} (h : e ∈ err.storeErrors)
    (hne : ∀ failure, err ≠ .housekeeping failure) : e.chain <:+ err.chain := by
  match err with
  | .latest cause =>
    rw [← CatalogError.chain_eq (Option.mem_toList.1 h)]
    exact List.suffix_cons _ _
  | .allocation cause => exact AllocationError.chain_suffix (Option.mem_toList.1 h)
  | .unreadableInput path => contradiction
  | .export cause => exact ExportError.chain_suffix (Option.mem_toList.1 h)
  | .housekeeping failure => exact absurd rfl (hne failure)

namespace Catalog

variable [Container σ] {family : Family} {s : σ} {e : StoreError}

/-- The store errs on the way to the latest record. -/
inductive Meets (family : Family) (s : σ) (e : StoreError) : Prop where
  | unanswered (h : Unanswered family s e)
  | unfetched {name : String} (hname : latestName family s = .ok name)
      (h : Container.download s name = .error e)

theorem meets_iff : Meets family s e ↔ latestRecord family s = .error (.store e) := by
  rw [latestRecord_eq_error_iff, latestName_eq_error_iff]
  constructor
  · intro h
    cases h with
    | unanswered h => exact .inl (.inl ⟨e, h, rfl⟩)
    | unfetched hname h => exact .inr ⟨_, hname, load_eq_error_iff.2 (.inl ⟨e, h, rfl⟩)⟩
  · rintro ((⟨e, h, ⟨⟩⟩ | ⟨-, ⟨⟩⟩) | ⟨name, hname, hload⟩)
    · exact .unanswered h
    · rcases load_eq_error_iff.1 hload with ⟨e, hfails, ⟨⟩⟩ | ⟨bytes, fault, -, -, ⟨⟩⟩
      exact .unfetched hname hfails

theorem save_eq_error_iff {r : Record} {cause : CatalogError} : (save family s r).1 = .error cause ↔
    ∃ e, (Container.upload s (family.fileName r.sequence) r.text.toUTF8).1 = .error e ∧
      cause = .store e := by
  unfold save
  dsimp only
  generalize (Container.upload s (family.fileName r.sequence) r.text.toUTF8).1 = result
  cases result with
  | ok _ => simp only [Except.map, Except.mapError, reduceCtorEq, false_and, exists_false]
  | error e =>
    simp only [Except.map, Except.mapError, Except.error.injEq, exists_eq_left', @eq_comm _ cause]

end Catalog

namespace Allocation

variable [Container σ] [Container τ] {family : Family} {settings : Settings} {s : Stores σ τ}
  {e : StoreError}

inductive Meets (family : Family) (settings : Settings) (s : Stores σ τ) (e : StoreError) :
    Prop where
  | latestRecord (h : Catalog.Meets family s.blobs e)
  | unprobed {prior : Record} {fileName name : String}
      (hprior : Catalog.latestRecord family s.blobs = .ok prior)
      (hfile : prior.fileName = some fileName) (h : Unprobed settings s.share fileName name e)
  | unfetched {prior : Record} {fileName name : String}
      (hprior : Catalog.latestRecord family s.blobs = .ok prior)
      (hfile : prior.fileName = some fileName) (hstands : Stands settings s.share fileName name)
      (h : Container.download s.share name = .error e)

theorem meets_iff (now : LocalTime) : Meets family settings s e ↔
    ∃ cause, allocate family settings now s = .error cause ∧ cause.storeError? = some e := by
  constructor
  · intro h
    cases h with
    | latestRecord h =>
      exact ⟨.latestRecord (.store e),
        allocate_eq_latestRecord_iff.2 ⟨Catalog.meets_iff.1 h, nofun⟩, rfl⟩
    | unprobed hprior hfile h =>
      exact ⟨.probe _ e, allocate_eq_probe_iff.2 ⟨_, _, hprior, hfile, h⟩, rfl⟩
    | unfetched hprior hfile hstands h =>
      exact ⟨.download _ e, allocate_eq_download_iff.2 ⟨_, _, hprior, hfile, hstands, h⟩, rfl⟩
  · intro h
    obtain ⟨cause, hfails, hcause⟩ := h
    cases cause with
    | latestRecord cause =>
      have hlatest := (allocate_eq_latestRecord_iff.1 hfails).1
      rw [CatalogError.storeError?_eq_some_iff.1 hcause] at hlatest
      exact .latestRecord (Catalog.meets_iff.2 hlatest)
    | probe name error =>
      cases hcause
      obtain ⟨prior, fileName, hprior, hfile, h⟩ := allocate_eq_probe_iff.1 hfails
      exact .unprobed hprior hfile h
    | download name error =>
      cases hcause
      obtain ⟨prior, fileName, hprior, hfile, hstands, h⟩ := allocate_eq_download_iff.1 hfails
      exact .unfetched hprior hfile hstands h

end Allocation

namespace Export

variable [Container σ] [Container τ] {setup : Setup} {now : LocalTime} {content : ByteArray}
  {rows : UInt64} {s : Stores σ τ} {e : StoreError}

inductive Meets (setup : Setup) (now : LocalTime) (content : ByteArray) (rows : UInt64)
    (s : Stores σ τ) (e : StoreError) : Prop where
  | unallocated (h : Allocation.Meets setup.family setup.settings s e)
  | notUploaded {d : Draft} (hdraft : Allocation.allocate setup.family setup.settings now s = .ok d)
      (h : (Container.upload s.share (Template.render setup.template d) content).1 = .error e)
  | notPersisted {d : Draft} {r : Record}
      (hdraft : Allocation.allocate setup.family setup.settings now s = .ok d)
      (hshare : (Container.upload s.share (Template.render setup.template d) content).1 = .ok ())
      (hrecord : d.record (Template.render setup.template d) content rows = r)
      (h : (Container.upload s.blobs (setup.family.fileName r.sequence) r.text.toUTF8).1 = .error e)

theorem run_of_draft {d : Draft} {r : Record}
    (hdraft : Allocation.allocate setup.family setup.settings now s = .ok d)
    (hrecord : d.record (Template.render setup.template d) content rows = r) :
    (run setup now content rows s).1 =
      match (Container.upload s.share (Template.render setup.template d) content).1 with
      | .error e => .error (.upload (Template.render setup.template d) e)
      | .ok () => ((Catalog.save setup.family s.blobs r).1.map (⟨r, ·⟩)).mapError .persist := by
  simp only [run, hdraft, hrecord]
  cases Container.upload s.share (Template.render setup.template d) content with
  | mk result share => cases result <;> rfl

theorem meets_iff_of_draft {d : Draft}
    (hdraft : Allocation.allocate setup.family setup.settings now s = .ok d) :
    Meets setup now content rows s e ↔
      ∃ cause, (run setup now content rows s).1 = .error cause ∧ cause.storeError? = some e := by
  obtain ⟨r, hrecord⟩ : ∃ r, d.record (Template.render setup.template d) content rows = r :=
    ⟨_, rfl⟩
  rw [run_of_draft hdraft hrecord]
  constructor
  · intro h
    cases h with
    | unallocated h =>
      obtain ⟨cause, hfails, -⟩ := (Allocation.meets_iff now).1 h
      rw [hdraft] at hfails
      contradiction
    | notUploaded hother h =>
      cases hdraft.symm.trans hother
      rw [h]
      exact ⟨.upload _ e, rfl, rfl⟩
    | notPersisted hother hshare hr h =>
      cases hdraft.symm.trans hother
      cases hrecord.symm.trans hr
      have hsave : (Catalog.save setup.family s.blobs r).1 = .error (.store e) :=
        Catalog.save_eq_error_iff.2 ⟨e, h, rfl⟩
      rw [hshare]
      dsimp only
      rw [hsave]
      exact ⟨.persist (.store e), rfl, rfl⟩
  · intro h
    obtain ⟨cause, hfails, hcause⟩ := h
    split at hfails
    · rename_i error hshare
      cases hfails
      cases hcause
      exact .notUploaded hdraft hshare
    · rename_i hshare
      cases hsave : (Catalog.save setup.family s.blobs r).1 with
      | ok fileName =>
        rw [hsave] at hfails
        contradiction
      | error unsaved =>
        obtain ⟨error, h, rfl⟩ := Catalog.save_eq_error_iff.1 hsave
        rw [hsave] at hfails
        cases hfails
        cases hcause
        exact .notPersisted hdraft hshare hrecord h

theorem meets_iff : Meets setup now content rows s e ↔
    ∃ cause, (run setup now content rows s).1 = .error cause ∧ cause.storeError? = some e := by
  cases hdraft : Allocation.allocate setup.family setup.settings now s with
  | ok d => exact meets_iff_of_draft hdraft
  | error cause =>
    have hrun : (run setup now content rows s).1 = .error (.allocation cause) := by
      simp only [run, hdraft]
    have hmeets : Allocation.Meets setup.family setup.settings s e ↔
        cause.storeError? = some e := by
      rw [Allocation.meets_iff now, hdraft]
      simp only [Except.error.injEq, exists_eq_left']
    simp only [hrun, Except.error.injEq, exists_eq_left', ExportError.storeError?]
    rw [← hmeets]
    constructor
    · intro h
      cases h with
      | unallocated h => exact h
      | notUploaded hother h => cases hdraft.symm.trans hother
      | notPersisted hother hshare hrecord h => cases hdraft.symm.trans hother
    · exact .unallocated

end Export

namespace Retention

variable {κ : Type} [Ord κ] [Container σ] {rule : Rule κ} {s : σ} {e : StoreError}

/-- The store errs while it is pruned. Every deletion is tried, so there may be several errors. -/
inductive Meets (rule : Rule κ) (s : σ) (e : StoreError) : Prop where
  | unlisted (h : Container.list s = .error e)
  | undeleted {names doomed : List String} {kept name : String}
      (hlist : Container.list s = .ok names)
      (hplan : rule.survey names = .plan kept doomed)
        (h : (name, .error e) ∈ (deleteAll s doomed).1)

theorem mem_failures_iff {results : List (String × Except StoreError Unit)} :
    (∃ failed ∈ failures results, failed.cause = e) ↔ ∃ name, (name, .error e) ∈ results := by
  simp only [failures, List.mem_filterMap]
  constructor
  · rintro ⟨failed, ⟨⟨name, result⟩, hmem, hresult⟩, rfl⟩
    cases result with
    | ok _ => contradiction
    | error error =>
      cases hresult
      exact ⟨name, hmem⟩
  · rintro ⟨name, hmem⟩
    exact ⟨⟨name, e⟩, ⟨_, hmem, rfl⟩, rfl⟩

theorem settle_eq_error_iff {container kept : String}
    {results : List (String × Except StoreError Unit)} {cause : PruneError} :
    settle container kept results = .error cause ↔
      failures results ≠ [] ∧
      cause = .deletions container kept (deletedNames results) (failures results) := by
  unfold settle
  split
  · rename_i hnone
    simp only [reduceCtorEq, hnone, ne_eq, not_true_eq_false, false_and]
  · rename_i hsome
    rw [Except.error.injEq, eq_comm]
    exact (and_iff_right hsome).symm

/-- The errors of the deletions are all that a settlement holds. -/
theorem settle_holds_iff {container kept : String}
    {results : List (String × Except StoreError Unit)} :
    (∃ cause, settle container kept results = .error cause ∧ e ∈ cause.storeErrors) ↔
      ∃ name, (name, .error e) ∈ results := by
  simp only [settle_eq_error_iff, ← mem_failures_iff]
  constructor
  · rintro ⟨cause, ⟨-, rfl⟩, h⟩
    exact List.mem_map.1 h
  · intro h
    obtain ⟨failed, hmem, he⟩ := h
    exact ⟨_, ⟨List.ne_nil_of_mem hmem, rfl⟩, List.mem_map.2 ⟨failed, hmem, he⟩⟩

theorem meets_iff :
    Meets rule s e ↔ ∃ cause, (prune rule s).1 = .error cause ∧ e ∈ cause.storeErrors := by
  unfold prune
  cases hlist : Container.list s with
  | error error =>
    simp only [Except.error.injEq, exists_eq_left', PruneError.storeErrors, List.mem_singleton]
    constructor
    · intro h
      cases h with
      | unlisted h => exact Except.error.inj (h.symm.trans hlist)
      | undeleted hother hplan h => cases hlist.symm.trans hother
    · rintro rfl
      exact .unlisted hlist
  | ok names =>
    have hplanned : Meets rule s e ↔
        ∃ kept doomed name, rule.survey names = .plan kept doomed ∧
        (name, .error e) ∈ (deleteAll s doomed).1 := by
      constructor
      · intro h
        cases h with
        | unlisted h => cases hlist.symm.trans h
        | undeleted hother hplan h =>
          cases hlist.symm.trans hother
          exact ⟨_, _, _, hplan, h⟩
      · rintro ⟨kept, doomed, name, hplan, h⟩
        exact .undeleted hlist hplan h
    rw [hplanned]
    dsimp only
    cases rule.survey names with
    | collectionEmpty => exact iff_of_false nofun nofun
    | nothingToDelete => exact iff_of_false nofun nofun
    | plan kept doomed =>
      dsimp only
      rw [settle_holds_iff]
      constructor
      · rintro ⟨_, _, name, ⟨⟩, h⟩
        exact ⟨name, h⟩
      · rintro ⟨name, h⟩
        exact ⟨kept, doomed, name, rfl, h⟩

/-- Pruning fails by the store alone. -/
theorem exists_meets_of_error {cause : PruneError} (h : (prune rule s).1 = .error cause) :
    ∃ e, Meets rule s e := by
  suffices hsome : ∃ e, e ∈ cause.storeErrors by
    obtain ⟨e, he⟩ := hsome
    exact ⟨e, meets_iff.2 ⟨cause, h, he⟩⟩
  unfold prune at h
  split at h
  · rename_i error hlist
    cases h
    exact ⟨error, List.mem_singleton_self error⟩
  · split at h
    · contradiction
    · contradiction
    · obtain ⟨hfailed, rfl⟩ := settle_eq_error_iff.1 h
      obtain ⟨failed, hmem⟩ := List.exists_mem_of_ne_nil _ hfailed
      exact ⟨failed.cause, List.mem_map_of_mem hmem⟩

namespace Housekeeping

variable [Container τ] {setup : Setup}

theorem mem_storeErrors_iff {a b : Except PruneError PruneResult} :
    (∃ failure, report a b = .error failure ∧ e ∈ failure.storeErrors) ↔
      (∃ cause, a = .error cause ∧ e ∈ cause.storeErrors) ∨ ∃ cause, b = .error cause ∧
      e ∈ cause.storeErrors := by
  cases a with
  | ok share =>
    cases b with
    | ok blobs => simp [report]
    | error cause => simp [report, report.error?, Failure.storeErrors]
  | error cause =>
    cases b with
    | ok blobs => simp [report, report.error?, Failure.storeErrors]
    | error other => simp [report, report.error?, Failure.storeErrors]

/-- One of the stores errs during the pass. -/
def Meets (setup : Setup) (s : Stores σ τ) (e : StoreError) : Prop :=
  Retention.Meets (.processedFiles setup.processedMark) s.share e ∨
    Retention.Meets (.metadataBlobs setup.blobSuffix) s.blobs e

theorem meets_iff {s : Stores σ τ} :
    Meets setup s e ↔ ∃ failure, (pass setup s).1 = .error failure ∧ e ∈ failure.storeErrors := by
  unfold Meets pass
  rw [Retention.meets_iff, Retention.meets_iff]
  exact mem_storeErrors_iff.symm

theorem exists_meets_of_failure {s : Stores σ τ} {failure : Failure}
    (h : (pass setup s).1 = .error failure) :
    ∃ e, Meets setup s e := by
  unfold pass at h
  dsimp only at h
  cases hshare : (prune (.processedFiles setup.processedMark) s.share).1 with
  | error cause =>
    obtain ⟨e, he⟩ := exists_meets_of_error hshare
    exact ⟨e, .inl he⟩
  | ok share =>
    cases hblobs : (prune (.metadataBlobs setup.blobSuffix) s.blobs).1 with
    | error cause =>
      obtain ⟨e, he⟩ := exists_meets_of_error hblobs
      exact ⟨e, .inr he⟩
    | ok blobs =>
      rw [hshare, hblobs] at h
      contradiction

/-- The message is about housekeeping, not about a store that is unavailable. -/
theorem Failure.message_ne_unavailable (failure : Failure) (container : String)
    (operation : Operation) (obstacle : Obstacle) :
    (StoreError.unavailable container operation obstacle).message ≠ failure.message := by
  intro h
  have hstore : "Store unavailable: ".toList = 'S' :: "tore unavailable: ".toList := by decide
  have hhousekeeping :
      "Housekeeping failed: ".toList = 'H' :: "ousekeeping failed: ".toList := by decide
  have hchars := congrArg String.toList h
  unfold StoreError.message Failure.message at hchars
  simp only [String.toList_append, hstore, hhousekeeping, List.cons_append, List.cons.injEq,
    Char.reduceEq, false_and] at hchars

end Housekeeping

end Retention

/-- A command with what is given to it. -/
inductive Command where
  | latest
  | allocate (now : LocalTime)
  | exportFile (now : LocalTime) (path : String) (content? : Option ByteArray) (template : String)
      (rows : UInt64)
  | housekeeping

namespace Command

variable [Container σ] [Container τ] {app : App σ τ} {e : StoreError}

def Fails (app : App σ τ) (err : CommandError) : Command → Prop
  | latest => app.latest = .error err
  | allocate now => app.allocate now = .error err
  | exportFile now path content? template rows =>
      (app.exportFile now path content? template rows).1 = .error err
  | housekeeping => app.housekeeping.1 = .error err

/-- A store that the command uses errs. -/
def Meets (app : App σ τ) (e : StoreError) : Command → Prop
  | latest => Catalog.Meets app.config.metadata.family app.stores.blobs e
  | allocate _ => Allocation.Meets app.config.metadata.family app.config.settings app.stores e
  | exportFile now _ content? template rows =>
    ∃ content, content? = some content ∧
    Export.Meets (app.config.exportSetup template) now content rows app.stores e
  | housekeeping => Retention.Housekeeping.Meets app.config.housekeepingSetup app.stores e

theorem mapError_eq_error_iff {x : Except ε α} {f : ε → ε'} {err : ε'} :
    x.mapError f = .error err ↔ ∃ cause, x = .error cause ∧ f cause = err := by
  cases x with
  | ok a => simp only [Except.mapError, reduceCtorEq, false_and, exists_false]
  | error cause => simp only [Except.mapError, Except.error.injEq, exists_eq_left']

theorem exists_mapError_iff {x : Except ε α} {f : ε → CommandError} {p : ε → Prop}
    (h : ∀ cause, e ∈ (f cause).storeErrors ↔ p cause) :
    (∃ err, x.mapError f = .error err ∧ e ∈ err.storeErrors) ↔ ∃ cause, x = .error cause ∧
      p cause := by
  simp only [mapError_eq_error_iff]
  constructor
  · rintro ⟨err, ⟨cause, hx, rfl⟩, he⟩
    exact ⟨cause, hx, (h cause).1 he⟩
  · rintro ⟨cause, hx, hp⟩
    exact ⟨f cause, ⟨cause, hx, rfl⟩, (h cause).2 hp⟩

/-- A command fails by every error of a store that it meets, and its own error holds these errors
and no other. -/
theorem meets_iff (c : Command) : c.Meets app e ↔ ∃ err, c.Fails app err ∧ e ∈ err.storeErrors := by
  cases c with
  | latest =>
    unfold Meets Fails App.latest
    rw [exists_mapError_iff fun cause =>
      Option.mem_toList.trans CatalogError.storeError?_eq_some_iff, exists_eq_right]
    exact Catalog.meets_iff
  | allocate now =>
    unfold Meets Fails App.allocate
    rw [exists_mapError_iff fun cause => Option.mem_toList]
    exact Allocation.meets_iff now
  | exportFile now path content? template rows =>
    unfold Meets Fails App.exportFile
    cases content? with
    | none =>
      simp only [reduceCtorEq, false_and, exists_false, Except.error.injEq, exists_eq_left',
        CommandError.storeErrors, List.not_mem_nil]
    | some content =>
      simp only [Option.some.injEq, exists_eq_left']
      rw [exists_mapError_iff fun cause => Option.mem_toList]
      exact Export.meets_iff
  | housekeeping =>
    unfold Meets Fails App.housekeeping
    dsimp only
    rw [exists_mapError_iff fun failure => Iff.rfl]
    exact Retention.Housekeeping.meets_iff

theorem eq_of_fails {c : Command} {err other : CommandError} (h : c.Fails app err)
    (h' : c.Fails app other) :
    err = other := by
  cases c <;> exact Except.error.inj (h.symm.trans h')

theorem housekeeping_of_fails {c : Command} {failure : Retention.Housekeeping.Failure}
    (h : c.Fails app (.housekeeping failure)) : c = .housekeeping := by
  cases c with
  | latest =>
    obtain ⟨cause, -, hcause⟩ := mapError_eq_error_iff.1 h
    contradiction
  | allocate now =>
    obtain ⟨cause, -, hcause⟩ := mapError_eq_error_iff.1 h
    contradiction
  | exportFile now path content? template rows =>
    cases content? with
    | none => cases h
    | some content =>
      obtain ⟨cause, -, hcause⟩ := mapError_eq_error_iff.1 h
      contradiction
  | housekeeping => rfl

/-- Every error of a store that fails a command is told in the command's chain, unless the command
is a housekeeping. That one holds the errors of both stores, and tells none of them. -/
theorem tells_store_errors (app : App σ τ) (c : Command) :
    (∀ e, c.Meets app e ↔ ∃ err, c.Fails app err ∧ e ∈ err.storeErrors) ∧
      (c ≠ .housekeeping → ∀ err e, c.Fails app err → c.Meets app e → e.chain <:+ err.chain) ∧
      (c = .housekeeping → ∀ err, c.Fails app err →
        (∃ e, c.Meets app e) ∧ err.chain = [err.message] ∧
        ∀ container operation obstacle,
          (StoreError.unavailable container operation obstacle).message ∉ err.chain) := by
  refine ⟨fun e => meets_iff c, ?_, ?_⟩
  · intro hc err e hfails hmeets
    obtain ⟨other, hother, he⟩ := (meets_iff c).1 hmeets
    cases eq_of_fails hfails hother
    refine CommandError.chain_suffix he ?_
    rintro failure rfl
    exact hc (housekeeping_of_fails hfails)
  · rintro rfl err hfails
    obtain ⟨failure, hpass, rfl⟩ := mapError_eq_error_iff.1 hfails
    refine ⟨Retention.Housekeeping.exists_meets_of_failure hpass, rfl, ?_⟩
    intro container operation obstacle hmem
    exact failure.message_ne_unavailable container operation obstacle (List.mem_singleton.1 hmem)

/-- A processed file in a share that cannot be listed. -/
def unlistable : App Memory Memory where
  config := {}
  stores.share.name := "results"
  stores.share.objects := .ofList [("processed-TARS1.xml", "x".toUTF8)]
  stores.share.failsList := true
  stores.blobs.name := "metadata"
  stores.blobs.objects := .empty

/-- Housekeeping says that the share was not listed, but not what the share has said. -/
theorem untold_by_housekeeping :
    ∃ err e, housekeeping.Fails unlistable err ∧ housekeeping.Meets unlistable e ∧
      err.chain = ["Housekeeping failed: file share: Failed to list results"] ∧
      ∀ e, housekeeping.Meets unlistable e → e.message ∉ err.chain := by
  let e : StoreError := .unavailable "results" .list (.injected .list "")
  let err : CommandError := .housekeeping ⟨some (.list "results" e), none⟩
  have hfails : housekeeping.Fails unlistable err := rfl
  have hmeets : housekeeping.Meets unlistable e := .inl (.unlisted rfl)
  refine ⟨err, e, hfails, hmeets, by decide, ?_⟩
  intro met hmet
  obtain ⟨other, hother, hheld⟩ := (meets_iff housekeeping).1 hmet
  cases eq_of_fails hfails hother
  cases List.mem_singleton.1 hheld
  decide

end Command

end ExportLedger
