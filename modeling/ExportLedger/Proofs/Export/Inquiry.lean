import ExportLedger.Export.Allocation
import ExportLedger.Proofs.Catalog.Failure
/-!
The allocation of numbers as an inquiry: which questions it puts to the two stores, each chosen by
the answers before it, and on what grounds the numbers are given in the end. An inquiry knows
nothing of the stores but their answers.
-/
namespace ExportLedger.Allocation

/-- What a store can be asked: the one that holds the records, or the one that holds the result
files. -/
inductive Query where
  | listRecords
  | probeRecord (name : String)
  | fetchRecord (name : String)
  | probeResult (name : String)
  | fetchResult (name : String)

namespace Query

abbrev Answer : Query → Type
  | listRecords => List String
  | probeRecord _ | probeResult _ => Bool
  | fetchRecord _ | fetchResult _ => ByteArray

variable [Container σ] [Container τ]

def answer (s : Stores σ τ) : (q : Query) → Except StoreError q.Answer
  | listRecords => Container.list s.blobs
  | probeRecord name => Container.exists? s.blobs name
  | fetchRecord name => Container.download s.blobs name
  | probeResult name => Container.exists? s.share name
  | fetchResult name => Container.download s.share name

def Succeeds (s : Stores σ τ) (q : Query) : Prop := ∃ a, q.answer s = .ok a

end Query

inductive Inquiry (α : Type) where
  | done (result : Except AllocationError α)
  | ask (q : Query) (next : Except StoreError q.Answer → Inquiry α)

namespace Inquiry

def bind : Inquiry α → (α → Inquiry β) → Inquiry β
  | done (.ok a), f => f a
  | done (.error cause), _ => done (.error cause)
  | ask q next, f => ask q fun a => (next a).bind f

instance : Monad Inquiry where
  pure a := done (.ok a)
  bind := bind

/-- Asks, and stops if the answer is a failure. -/
def require (q : Query) (tell : StoreError → AllocationError) : Inquiry q.Answer :=
  ask q fun a => done (a.mapError tell)

section Run

variable [Container σ] [Container τ]

def run (s : Stores σ τ) : Inquiry α → Except AllocationError α
  | done result => result
  | ask q next => (next (q.answer s)).run s

/-- The questions that are put to the stores, in order. -/
def asked (s : Stores σ τ) : Inquiry α → List Query
  | done _ => []
  | ask q next => q :: (next (q.answer s)).asked s

@[simp] theorem run_done (s : Stores σ τ) (result : Except AllocationError α) :
    (done result).run s = result := rfl

@[simp] theorem run_pure (s : Stores σ τ) (a : α) : (pure a : Inquiry α).run s = .ok a := rfl

@[simp] theorem run_bind (s : Stores σ τ) (x : Inquiry α) (f : α → Inquiry β) :
    (x >>= f).run s = x.run s >>= fun a => (f a).run s := by
  show (x.bind f).run s = _
  induction x with
  | done result => cases result <;> rfl
  | ask q next ih => exact ih (q.answer s)

end Run

/-- No failure is passed over: an answer that is one ends the inquiry with an error. -/
def Strict : Inquiry α → Prop
  | done _ => True
  | ask _ next => (∀ e, ∃ cause, next (.error e) = done (.error cause)) ∧ ∀ a, (next (.ok a)).Strict

theorem strict_pure (a : α) : (pure a : Inquiry α).Strict := trivial

theorem strict_require (q : Query) (tell : StoreError → AllocationError) :
    (require q tell).Strict :=
  ⟨fun e => ⟨tell e, rfl⟩, fun _ => trivial⟩

theorem Strict.bind {x : Inquiry α} {f : α → Inquiry β} (hx : x.Strict) (hf : ∀ a, (f a).Strict) :
    (x >>= f).Strict := by
  show (x.bind f).Strict
  induction x with
  | done result =>
    cases result with
    | error cause => trivial
    | ok a => exact hf a
  | ask q next ih =>
    obtain ⟨hstops, hgoes⟩ := hx
    refine ⟨fun e => ?_, fun a => ih (.ok a) (hgoes a)⟩
    obtain ⟨cause, hcause⟩ := hstops e
    exact ⟨cause, congrArg (Inquiry.bind · f) hcause⟩

/-- A strict inquiry with a result has had an answer to everything that it asked. -/
theorem Strict.succeeds [Container σ] [Container τ] {s : Stores σ τ} {x : Inquiry α} {a : α}
    (hx : x.Strict) (h : x.run s = .ok a) : ∀ q ∈ x.asked s, q.Succeeds s := by
  induction x with
  | done result =>
    intro q hq
    contradiction
  | ask q next ih =>
    obtain ⟨hstops, hgoes⟩ := hx
    cases hanswer : q.answer s with
    | error e =>
      obtain ⟨cause, hcause⟩ := hstops e
      rw [run, hanswer, hcause] at h
      contradiction
    | ok answer =>
      rw [run, hanswer] at h
      rw [asked, hanswer]
      intro r hr
      rcases List.mem_cons.1 hr with rfl | hr
      · exact ⟨answer, hanswer⟩
      · exact ih (.ok answer) (hgoes answer) h r hr

end Inquiry

/-- The grounds on which the numbers are given. -/
inductive Course where
  /-- There is no record yet. -/
  | fresh
  /-- The latest record names no result file. -/
  | unlinked (prior : Record)
  /-- The result file was fetched under this name, and compared with its checksum. -/
  | compared (prior : Record) (name : String) (confirmed : Bool)
  /-- The result file is under neither of its names, so nothing was fetched. -/
  | missing (prior : Record)
  deriving DecidableEq

def Course.draft (settings : Settings) (now : LocalTime) : Course → Draft
  | fresh => ⟨settings.firstSequence, settings.firstDaily, now⟩
  | unlinked prior => prior.toDraft
  | compared prior _ confirmed => advance prior confirmed (prior.created.isOnDayOf now) now
  | missing prior => advance prior false (prior.created.isOnDayOf now) now

namespace Inquiry

def listRecords : Inquiry (List String) := require .listRecords fun e => .latestRecord (.store e)

def probeRecord (name : String) : Inquiry Bool :=
  require (.probeRecord name) fun e => .latestRecord (.store e)

def fetchRecord (name : String) : Inquiry ByteArray :=
  require (.fetchRecord name) fun e => .latestRecord (.store e)

def probeResult (name : String) : Inquiry Bool := require (.probeResult name) (.probe name)

def fetchResult (name : String) : Inquiry ByteArray := require (.fetchResult name) (.download name)

/-- The name of the latest record, if there is one. -/
def latestName (family : Family) : Inquiry (Option String) :=
  match family with
  | .sequenced _ => do
    let names ← listRecords
    return family.latest? names
  | .fixed fileName => do
    if ← probeRecord fileName then return some fileName else return none

def record (family : Family) (name : String) : Inquiry Record := do
  let bytes ← fetchRecord name
  done ((Record.parse bytes family.detail).mapError fun fault =>
    .latestRecord (.malformed name fault))

/-- The name under which the result file is in the share. -/
def location (settings : Settings) (fileName : String) : Inquiry (Option String) := do
  if ← probeResult fileName then return some fileName
  let processed := settings.processedMark ++ fileName
  if ← probeResult processed then return some processed
  return none

/-- What a latest record leads to. -/
def sequel (settings : Settings) (prior : Record) : Inquiry Course :=
  match prior.fileName with
  | none => return .unlinked prior
  | some fileName => do
    match ← location settings fileName with
    | none => return .missing prior
    | some name =>
      let content ← fetchResult name
      return .compared prior name (Md5.matchesChecksum content (prior.checksum.getD ""))

def course (family : Family) (settings : Settings) : Inquiry Course := do
  match ← latestName family with
  | none => return .fresh
  | some name => sequel settings (← record family name)

theorem strict_latestName (family : Family) : (latestName family).Strict := by
  cases family with
  | sequenced suffix => exact (strict_require _ _).bind fun names => strict_pure _
  | fixed fileName =>
    refine (strict_require _ _).bind fun held => ?_
    cases held <;> exact strict_pure _

theorem strict_record (family : Family) (name : String) : (record family name).Strict :=
  (strict_require _ _).bind fun _ => trivial

theorem strict_location (settings : Settings) (fileName : String) :
    (location settings fileName).Strict := by
  refine (strict_require _ _).bind fun held => ?_
  cases held with
  | true => exact strict_pure _
  | false =>
    refine (strict_require _ _).bind fun marked => ?_
    cases marked <;> exact strict_pure _

theorem strict_sequel (settings : Settings) (prior : Record) : (sequel settings prior).Strict := by
  unfold sequel
  cases prior.fileName with
  | none => exact strict_pure _
  | some fileName =>
    refine (strict_location settings fileName).bind fun found => ?_
    cases found with
    | none => exact strict_pure _
    | some name => exact (strict_require _ _).bind fun content => strict_pure _

/-- None of the questions may go unanswered. -/
theorem strict_course (family : Family) (settings : Settings) :
    (course family settings).Strict := by
  refine (strict_latestName family).bind fun found => ?_
  cases found with
  | none => exact strict_pure _
  | some name => exact (strict_record family name).bind fun prior => strict_sequel settings prior

section Allocate

variable [Container σ] [Container τ] {s : Stores σ τ} {family : Family} {settings : Settings}
  {prior : Record}

@[simp] theorem run_listRecords (s : Stores σ τ) :
    listRecords.run s = (Container.list s.blobs).mapError fun e => .latestRecord (.store e) := rfl

@[simp] theorem run_probeRecord (s : Stores σ τ) (name : String) :
    (probeRecord name).run s = (Container.exists? s.blobs name).mapError fun e =>
      .latestRecord (.store e) := rfl

@[simp] theorem run_fetchRecord (s : Stores σ τ) (name : String) :
    (fetchRecord name).run s = (Container.download s.blobs name).mapError fun e =>
      .latestRecord (.store e) := rfl

@[simp] theorem run_probeResult (s : Stores σ τ) (name : String) :
    (probeResult name).run s = probe s.share name := rfl

@[simp] theorem run_fetchResult (s : Stores σ τ) (name : String) :
    (fetchResult name).run s = (Container.download s.share name).mapError (.download name) := rfl

theorem run_latestName (family : Family) (s : Stores σ τ) :
    (latestName family).run s =
      match Catalog.latestName family s.blobs with
      | .ok name => .ok (some name)
      | .error (.noRecord _) => .ok none
      | .error cause => .error (.latestRecord cause) := by
  cases family with
  | sequenced suffix =>
    simp only [latestName, Catalog.latestName, run_bind, run_listRecords, run_pure]
    cases Container.list s.blobs with
    | error e => rfl
    | ok names =>
      simp only [Except.mapError, Bind.bind, Except.bind]
      cases (Family.sequenced suffix).latest? names <;> rfl
  | fixed fileName =>
    simp only [latestName, Catalog.latestName, run_bind, run_probeRecord]
    cases Container.exists? s.blobs fileName with
    | error e => rfl
    | ok held => cases held <;> rfl

theorem run_record (family : Family) (name : String) (s : Stores σ τ) :
    (record family name).run s = (Catalog.load family s.blobs name).mapError .latestRecord := by
  simp only [record, Catalog.load, run_bind, run_fetchRecord, run_done]
  cases Container.download s.blobs name with
  | error e => rfl
  | ok bytes =>
    show (Record.parse bytes family.detail).mapError _ =
      ((Record.parse bytes family.detail).mapError (CatalogError.malformed name)).mapError _
    cases Record.parse bytes family.detail <;> rfl

theorem run_location (settings : Settings) (fileName : String) (s : Stores σ τ) :
    (location settings fileName).run s = locate settings s.share fileName := by
  simp only [location, locate, run_bind, run_probeResult]
  cases probe s.share fileName with
  | error cause => rfl
  | ok held =>
    cases held with
    | true => rfl
    | false =>
      simp only [Bind.bind, Except.bind]
      show (probeResult (settings.processedMark ++ fileName) >>= _).run s = _
      rw [run_bind, run_probeResult]
      cases probe s.share (settings.processedMark ++ fileName) with
      | error cause => rfl
      | ok marked => cases marked <;> rfl

/-- What a latest record leads to is what the allocation makes of it. -/
theorem map_run_sequel (settings : Settings) (now : LocalTime) (prior : Record) (s : Stores σ τ) :
    ((sequel settings prior).run s).map (·.draft settings now) =
      following settings now s.share prior := by
  unfold sequel following
  cases prior.fileName with
  | none => rfl
  | some fileName =>
    simp only [confirm, run_bind, run_location]
    cases locate settings s.share fileName with
    | error cause => rfl
    | ok found =>
      cases found with
      | none => rfl
      | some name =>
        simp only [Bind.bind, Except.bind]
        show ((fetchResult name >>= _).run s).map _ = _
        rw [run_bind, run_fetchResult]
        cases Container.download s.share name <;> rfl

theorem run_course (family : Family) (settings : Settings) (s : Stores σ τ) :
    (course family settings).run s =
      match Catalog.latestRecord family s.blobs with
      | .ok prior => (sequel settings prior).run s
      | .error (.noRecord _) => .ok .fresh
      | .error cause => .error (.latestRecord cause) := by
  simp only [course, Catalog.latestRecord, run_bind, run_latestName]
  cases Catalog.latestName family s.blobs with
  | error cause => cases cause <;> rfl
  | ok name =>
    simp only [Bind.bind, Except.bind]
    show ((record family name >>= fun prior => sequel settings prior).run s) = _
    rw [run_bind, run_record]
    cases hload : Catalog.load family s.blobs name with
    | ok prior => rfl
    | error cause =>
      cases cause with
      | noRecord container => exact absurd hload Catalog.load_ne_noRecord
      | malformed fileName fault => rfl
      | store e => rfl

/-- The numbers are those that the course of the inquiry gives. -/
theorem allocate_eq_map_run_course (family : Family) (settings : Settings) (now : LocalTime)
    (s : Stores σ τ) :
    allocate family settings now s = ((course family settings).run s).map
      (·.draft settings now) := by
  rw [allocate, run_course]
  cases Catalog.latestRecord family s.blobs with
  | ok prior => exact (map_run_sequel settings now prior s).symm
  | error cause => cases cause <;> rfl

end Allocate

end Inquiry

end ExportLedger.Allocation
