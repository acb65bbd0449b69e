import ExportLedger.Proofs.Catalog.Superseding
import ExportLedger.Proofs.Export.Counter
import ExportLedger.Proofs.Export.Failure
/-!
What stands behind an export that has succeeded: the numbers that it was given, and the record that
it left.
-/
namespace ExportLedger

/-- The name that is given for a record is the family's name for its number. -/
theorem Catalog.fileName_of_save [Container σ] {family : Family} {s after : σ} {r : Record}
    {name : String} (h : save family s r = (.ok name, after)) :
    name = family.fileName r.sequence := by
  simp only [save] at h
  cases hupload : Container.upload s (family.fileName r.sequence) r.text.toUTF8 with
  | mk result after =>
    rw [hupload] at h
    cases result with
    | error e => cases h
    | ok =>
      cases h
      rfl

namespace Allocation

variable [Container σ] [Container τ] {family : Family} {settings : Settings} {now : LocalTime}
  {s : Stores σ τ} {share : σ} {prior : Record} {d : Draft}

theorem draft_of_following (h : following settings now share prior = .ok d) :
    prior.fileName = none ∧ d = prior.toDraft ∨
      prior.fileName ≠ none ∧ ∃ confirmed, d =
        advance prior confirmed (prior.created.isOnDayOf now) now := by
  unfold following at h
  cases hfile : prior.fileName with
  | none =>
    rw [hfile] at h
    exact .inl ⟨rfl, (Except.ok.inj h).symm⟩
  | some fileName =>
    simp only [hfile, bind, Except.bind] at h
    cases hconfirm : confirm settings share prior fileName with
    | error cause =>
      rw [hconfirm] at h
      contradiction
    | ok confirmed =>
      rw [hconfirm] at h
      exact .inr ⟨Option.some_ne_none _, confirmed, (Except.ok.inj h).symm⟩

theorem draft_of_allocate (h : allocate family settings now s = .ok d) :
    Catalog.Lacks family s.blobs ∧ d = ⟨settings.firstSequence, settings.firstDaily, now⟩ ∨
      ∃ prior, Catalog.latestRecord family s.blobs = .ok prior ∧
      following settings now s.share prior = .ok d := by
  unfold allocate at h
  split at h
  · rename_i prior hprior
    exact .inr ⟨prior, hprior, h⟩
  · rename_i container hlacks
    exact .inl ⟨Catalog.latestRecord_eq_noRecord_iff.1 ⟨container, hlacks⟩, (Except.ok.inj h).symm⟩
  · contradiction

/-- Only the numbers of a record without a result file are given again with the time that it was
made. -/
theorem created_of_allocate (h : allocate family settings now s = .ok d)
    (hlinked : ∀ prior, Catalog.latestRecord family s.blobs = .ok prior → prior.fileName ≠ none) :
    d.created = now := by
  rcases draft_of_allocate h with ⟨-, rfl⟩ | ⟨prior, hprior, hfollow⟩
  · rfl
  · rcases draft_of_following hfollow with ⟨hnone, -⟩ | ⟨-, confirmed, rfl⟩
    · exact absurd hnone (hlinked prior hprior)
    · rfl

theorem le_sequence_of_allocate (h : allocate family settings now s = .ok d)
    (hprior : Catalog.latestRecord family s.blobs = .ok prior)
    (hfit : prior.sequence.toNat + 1 < UInt64.size) :
    prior.sequence ≤ d.sequence := by
  rcases draft_of_allocate h with ⟨hlacks, -⟩ | ⟨r, hr, hfollow⟩
  · obtain ⟨container, hnone⟩ := Catalog.latestRecord_eq_noRecord_iff.2 hlacks
    rw [hprior] at hnone
    contradiction
  · rw [hprior] at hr
    cases hr
    rcases draft_of_following hfollow with ⟨-, rfl⟩ | ⟨-, confirmed, rfl⟩
    · exact UInt64.le_refl _
    · refine Export.sequence_le_advance ?_
      unfold Export.nextSequence
      split <;> omega

end Allocation

namespace Export

variable {setup : Setup} {now : LocalTime} {content : ByteArray} {rows : UInt64} {o : Outcome}

theorem draft_of_run [Container σ] [Container τ] {s after : Stores σ τ}
    (h : run setup now content rows s = (.ok o, after)) :
    ∃ d, Allocation.allocate setup.family setup.settings now s = .ok d ∧
      o = ⟨d.record (Template.render setup.template d) content rows,
        setup.family.fileName d.sequence⟩ ∧
      after.blobs = (Catalog.save setup.family s.blobs o.record).2 := by
  unfold run at h
  cases halloc : Allocation.allocate setup.family setup.settings now s with
  | error cause =>
    rw [halloc] at h
    cases h
  | ok d =>
    simp only [halloc] at h
    cases hupload : Container.upload s.share (Template.render setup.template d) content with
    | mk result share =>
      rw [hupload] at h
      cases result with
      | error e => cases h
      | ok =>
        cases hsave : Catalog.save setup.family s.blobs
          (d.record (Template.render setup.template d) content rows) with
        | mk saved blobs =>
          simp only [hsave] at h
          cases saved with
          | error cause => cases h
          | ok name =>
            cases h
            refine ⟨d, rfl, ?_, (congrArg Prod.snd hsave).symm⟩
            rw [Catalog.fileName_of_save hsave]
            rfl

variable [Container σ] {s after : Stores σ Memory}

/-- A record can always be saved there, so an export that fails has saved none. -/
theorem blobs_of_run_error {cause : ExportError}
    (h : run setup now content rows s = (.error cause, after)) :
    after.blobs = s.blobs := by
  unfold run at h
  cases halloc : Allocation.allocate setup.family setup.settings now s with
  | error cause =>
    rw [halloc] at h
    cases h
    rfl
  | ok d =>
    simp only [halloc] at h
    cases hupload : Container.upload s.share (Template.render setup.template d) content with
    | mk result share =>
      rw [hupload] at h
      cases result with
      | error e =>
        cases h
        rfl
      | ok =>
        rw [Catalog.save_eq] at h
        cases h

theorem responds_of_run (h : run setup now content rows s = (.ok o, after)) :
    Catalog.Responds setup.family s.blobs := by
  obtain ⟨d, halloc, -⟩ := draft_of_run h
  refine Catalog.responds_of_latestName fun e hname => ?_
  have hlatest := Catalog.latestRecord_eq_error_iff.2 (.inl hname)
  rw [Allocation.allocate_eq_latestRecord_iff.2 ⟨hlatest, nofun⟩] at halloc
  contradiction

/-- The record of an export can be read back if the export has a date that can be written and a file
name that says something. -/
theorem storable_of_run (h : run setup now content rows s = (.ok o, after)) (hdated : now.Writable)
    (hne : o.record.fileName ≠ some "")
    (hlinked : ∀ prior, Catalog.latestRecord setup.family s.blobs = .ok prior →
      prior.fileName ≠ none)
    (detail : Detail) : o.record.Storable detail := by
  obtain ⟨d, halloc, rfl, -⟩ := draft_of_run h
  rw [← Allocation.created_of_allocate halloc hlinked] at hdated
  exact Draft.storable_record content rows hdated (fun hempty => hne (congrArg some hempty)) detail

end Export

end ExportLedger
