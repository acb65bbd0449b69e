import ExportLedger.Proofs.Retention.Superseded
import ExportLedger.Retention.Housekeeping
/-!
Housekeeping with its two passes at the same time. However their requests are interleaved, each
store is left as its own pass alone would have left it, and the report tells what both have come to.
-/
namespace ExportLedger.Retention.Housekeeping

/-- How far the two passes have come. -/
inductive Phase where
  | running (share blobs : Progress)
  | returned (result : Except Failure Report)

variable [Container σ] [Container τ] {setup : Setup} {s t u : Stores σ τ} {phase next : Phase}

/-- One of the two passes makes a step, or both have come to their end. -/
inductive Step (setup : Setup) : Phase × Stores σ τ → Phase × Stores σ τ → Prop
  | share {p q other : Progress} {share after : σ} {blobs : τ} :
      Retention.Step (.processedFiles setup.processedMark) (p, share) (q, after) →
      Step setup (.running p other, ⟨share, blobs⟩) (.running q other, ⟨after, blobs⟩)
  | blobs {p q other : Progress} {share : σ} {blobs after : τ} :
      Retention.Step (.metadataBlobs setup.blobSuffix) (p, blobs) (q, after) →
      Step setup (.running other p, ⟨share, blobs⟩) (.running other q, ⟨share, after⟩)
  | returns {a b : Except PruneError PruneResult} {s : Stores σ τ} :
      Step setup (.running (.finished a) (.finished b), s) (.returned (report a b), s)

abbrev Run (setup : Setup) : Phase × Stores σ τ → Phase × Stores σ τ → Prop :=
  Relation.ReflTransGen (Step setup)

/-- The steps of each pass are a run of its own. -/
inductive Apart (setup : Setup) (s t : Stores σ τ) : Phase → Prop
  | running {p q : Progress} :
      Retention.Run (.processedFiles setup.processedMark) (.ready, s.share) (p, t.share) →
      Retention.Run (.metadataBlobs setup.blobSuffix) (.ready, s.blobs) (q, t.blobs) →
      Apart setup s t (.running p q)
  | returned {a b : Except PruneError PruneResult} :
      Retention.Run (.processedFiles setup.processedMark) (.ready, s.share) (.finished a, t.share) →
      Retention.Run (.metadataBlobs setup.blobSuffix) (.ready, s.blobs) (.finished b, t.blobs) →
      Apart setup s t (.returned (report a b))

theorem Apart.step (h : Apart setup s t phase) (hstep : Step setup (phase, t) (next, u)) :
    Apart setup s u next := by
  cases hstep with
  | share hshare =>
    cases h with
    | running hs hb => exact .running (hs.tail hshare) hb
  | blobs hblobs =>
    cases h with
    | running hs hb => exact .running hs (hb.tail hblobs)
  | returns =>
    cases h with
    | running hs hb => exact .returned hs hb

theorem apart_of_run (h : Run setup (.running .ready .ready, s) (phase, t)) :
    Apart setup s t phase := by
  generalize hend : (phase, t) = reached at h
  induction h generalizing phase t with
  | refl =>
    cases hend
    exact .running .refl .refl
  | tail _ hstep ih =>
    subst hend
    exact (ih rfl).step hstep

theorem run_share {p q : Progress} {share after : σ} (other : Progress) (blobs : τ)
    (h : Retention.Run (.processedFiles setup.processedMark) (p, share) (q, after)) :
    Run setup (.running p other, ⟨share, blobs⟩) (.running q other, ⟨after, blobs⟩) :=
  h.lift (fun reached => (Phase.running reached.1 other, Stores.mk reached.2 blobs))
    fun _ _ hstep => .share hstep

theorem run_blobs {p q : Progress} {blobs after : τ} (other : Progress) (share : σ)
    (h : Retention.Run (.metadataBlobs setup.blobSuffix) (p, blobs) (q, after)) :
    Run setup (.running other p, ⟨share, blobs⟩) (.running other q, ⟨share, after⟩) :=
  h.lift (fun reached => (Phase.running other reached.1, Stores.mk share reached.2))
    fun _ _ hstep => .blobs hstep

/-- A housekeeping that makes one pass after the other is a run. -/
theorem run_pass (setup : Setup) (s : Stores σ τ) :
    Run setup (.running .ready .ready, s) (.returned (pass setup s).1, (pass setup s).2) := by
  have hshare := run_prune (.processedFiles setup.processedMark) s.share
  have hblobs := run_prune (.metadataBlobs setup.blobSuffix) s.blobs
  exact ((run_share .ready s.blobs hshare).trans (run_blobs _ _ hblobs)).tail .returns

/-- However far it has come, it can be run to its end. -/
theorem exists_run_returned (setup : Setup) (phase : Phase) (s : Stores σ τ) :
    ∃ result t, Run setup (phase, s) (.returned result, t) := by
  cases phase with
  | running p q =>
    obtain ⟨a, share, hshare⟩ := exists_run_finished (.processedFiles setup.processedMark) p s.share
    obtain ⟨b, blobs, hblobs⟩ := exists_run_finished (.metadataBlobs setup.blobSuffix) q s.blobs
    exact ⟨_, _, ((run_share q s.blobs hshare).trans (run_blobs _ share hblobs)).tail .returns⟩
  | returned result => exact ⟨result, s, .refl⟩

theorem error?_eq_some_iff {a : Except PruneError PruneResult} {e : PruneError} :
    report.error? a = some e ↔ a = .error e := by
  cases a <;> simp [report.error?]

theorem report_eq_error {a b : Except PruneError PruneResult}
    (h : ¬∃ share blobs, a = .ok share ∧ b = .ok blobs) :
    report a b = .error ⟨report.error? a, report.error? b⟩ := by
  cases a with
  | error e => rfl
  | ok share =>
    cases b with
    | error e => rfl
    | ok blobs => exact absurd ⟨share, blobs, rfl, rfl⟩ h

/-- What comes of a housekeeping over stores in memory, compared with each pass alone. -/
structure Settled (setup : Setup) (s : Stores Memory Memory) (result : Except Failure Report)
    (t : Stores Memory Memory) : Prop where
  share : t.share.objects = (prune (.processedFiles setup.processedMark) s.share).2.objects
  blobs : t.blobs.objects = (prune (.metadataBlobs setup.blobSuffix) s.blobs).2.objects
  succeeds : ∀ share blobs, (prune (.processedFiles setup.processedMark) s.share).1 = .ok share →
    (prune (.metadataBlobs setup.blobSuffix) s.blobs).1 = .ok blobs → result = .ok ⟨share, blobs⟩
  fails : (¬∃ share blobs, (prune (.processedFiles setup.processedMark) s.share).1 = .ok share ∧
      (prune (.metadataBlobs setup.blobSuffix) s.blobs).1 = .ok blobs) →
      ∃ failure, result = .error failure ∧
    (∀ e, failure.fileShare = some e ↔
      (prune (.processedFiles setup.processedMark) s.share).1 = .error e) ∧
    ∀ e, failure.blobs = some e ↔ (prune (.metadataBlobs setup.blobSuffix) s.blobs).1 = .error e

theorem settled_of_run {s t : Stores Memory Memory} {result : Except Failure Report}
    (h : Run setup (.running .ready .ready, s) (.returned result, t)) :
    Settled setup s result t := by
  cases apart_of_run h with
  | returned hshare hblobs =>
    obtain ⟨rfl, hfiles⟩ := finished_of_run hshare
    obtain ⟨rfl, hrecords⟩ := finished_of_run hblobs
    refine ⟨hfiles, hrecords, fun share blobs hs hb => ?_, fun hnot => ?_⟩
    · rw [hs, hb]
      rfl
    · exact ⟨_, report_eq_error hnot, fun e => error?_eq_some_iff, fun e => error?_eq_some_iff⟩

/-- However the two passes are interleaved, neither has an effect on the other, and no failure of
one is lost or stops the other. Every housekeeping can be run to its end. -/
theorem run_settles (setup : Setup) (s : Stores Memory Memory) :
    (∀ result t, Run setup (.running .ready .ready, s) (.returned result, t) →
      Settled setup s result t) ∧
      Run setup (.running .ready .ready, s) (.returned (pass setup s).1, (pass setup s).2) ∧
      ∀ (phase : Phase) (t : Stores Memory Memory), ∃ result u,
      Run setup (phase, t) (.returned result, u) :=
  ⟨fun _ _ => settled_of_run, run_pass setup s, exists_run_returned setup⟩

/-- Two records, of which the newer one is kept. -/
def pairedBlobs : Memory where
  name := "metadata"
  objects := .ofList [("11-TARS.json", "a".toUTF8), ("12-TARS.json", "b".toUTF8)]

/-- The blobs are pruned while the share has only been listed; a delete fails in the share. -/
theorem run_settles_tiedFiles : ∃ result t,
    Run ⟨"processed-", some "-TARS.json"⟩ (.running .ready .ready, ⟨tiedFiles, pairedBlobs⟩)
      (.returned result, t) ∧
      Settled ⟨"processed-", some "-TARS.json"⟩ ⟨tiedFiles, pairedBlobs⟩ result t ∧
      result = .error ⟨some (.deletions "results" "processed-TARS7.xml" ["processed-TARS-7.xml"]
        [⟨"processed-TARS6.xml", tiedFiles.injected .delete "processed-TARS6.xml"⟩]), none⟩ ∧
      t.blobs.objects.names = ["12-TARS.json"] := by
  have hall := run_settles ⟨"processed-", some "-TARS.json"⟩ ⟨tiedFiles, pairedBlobs⟩
  have hlisted : Retention.Step (.processedFiles "processed-") (.ready, tiedFiles) _ :=
    .lists (Memory.list_eq rfl)
  have hblobs := run_prune (.metadataBlobs (some "-TARS.json")) pairedBlobs
  obtain ⟨result, t, hrest⟩ := hall.2.2 (.running _ _) ⟨tiedFiles, _⟩
  have hrun := (Relation.ReflTransGen.single (Step.share hlisted)).trans
    ((run_blobs _ tiedFiles hblobs).trans hrest)
  have hsettled := hall.1 result t hrun
  have hfails : (prune (.processedFiles "processed-") tiedFiles).1 = .error (.deletions "results"
      "processed-TARS7.xml" ["processed-TARS-7.xml"]
      [⟨"processed-TARS6.xml", tiedFiles.injected .delete "processed-TARS6.xml"⟩]) := by
    decide +kernel
  have hsucceeds : (prune (.metadataBlobs (some "-TARS.json")) pairedBlobs).1 =
      .ok (.pruned "12-TARS.json" ["11-TARS.json"]) := by
    decide +kernel
  obtain ⟨⟨fileShare, blobs⟩, rfl, hshare, hother⟩ := hsettled.fails fun ⟨_, _, hok, _⟩ => by
    cases hok.symm.trans hfails
  have hfileShare : fileShare = _ := (hshare _).2 hfails
  have hnone : blobs = none := Option.eq_none_iff_forall_ne_some.2 fun e he => by
    cases ((hother e).1 he).symm.trans hsucceeds
  subst hfileShare hnone
  refine ⟨_, t, hrun, hsettled, rfl, ?_⟩
  rw [hsettled.blobs]
  decide +kernel

end ExportLedger.Retention.Housekeeping
