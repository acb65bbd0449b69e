import Mathlib.Data.List.Pairwise
import ExportLedger.Proofs.Export.Attempts
import ExportLedger.Proofs.Export.Refinding
/-!
Daily numbers within one day. On a day that has begun, a daily number goes up exactly when the
sequence number does, so that both tell the exports of the day apart in the same order. A new day
may repeat a sequence number, but not within the day.
-/
namespace ExportLedger

/-- The number of the local date. -/
def Timestamp.localDay (t : Timestamp) : Int := t.dayAt t.offset

theorem Timestamp.date_eq_iff {t u : Timestamp} : t.date = u.date ↔ t.localDay = u.localDay :=
  ⟨Date.ofDayNumber_injective, congrArg Date.ofDayNumber⟩

namespace Draft

/-- On one day the daily numbers are as far apart as the sequence numbers. -/
def Paced (d e : Draft) : Prop :=
  d.created.localDay = e.created.localDay →
    d.daily.value.toNat + e.sequence.toNat = e.daily.value.toNat + d.sequence.toNat

/-- What an earlier and a later export have to do with each other. -/
structure Precedes (d e : Draft) : Prop where
  day : d.created.localDay ≤ e.created.localDay
  sequence : d.sequence ≤ e.sequence
  paced : d.Paced e

instance : Std.Symm Paced := ⟨fun _ _ h hday => (h hday.symm).symm⟩

theorem Paced.refl (d : Draft) : d.Paced d := fun _ => rfl

/-- Days do not go back, so two exports of one day have no other day between them. -/
theorem Precedes.trans {d e f : Draft} (hde : d.Precedes e) (hef : e.Precedes f) :
    d.Precedes f := by
  constructor
  · exact Int.le_trans hde.day hef.day
  · exact UInt64.le_trans hde.sequence hef.sequence
  · intro hday
    have hfirst := hde.day
    have hsecond := hef.day
    have hpace := hde.paced (by omega)
    have hpace' := hef.paced (by omega)
    omega

instance : Trans Precedes Precedes Precedes := ⟨Precedes.trans⟩

theorem Paced.sequence_lt_iff {d e : Draft} (h : d.Paced e)
    (hday : d.created.date = e.created.date) :
    d.sequence < e.sequence ↔ d.daily.value < e.daily.value := by
  have hpace := h (Timestamp.date_eq_iff.1 hday)
  rw [UInt64.lt_iff_toNat_lt, UInt32.lt_iff_toNat_lt]
  omega

end Draft

namespace Allocation

theorem daily_advance_le (prior : Record) (confirmed sameDay : Bool) (now : LocalTime) :
    (advance prior confirmed sameDay now).daily.value.toNat ≤ prior.daily.value.toNat + 1 := by
  rw [Export.toNat_advance_daily]
  unfold Export.nextDaily
  split <;> omega

/-- The step of the numbers, if neither of them has come to its end. -/
theorem precedes_advance {prior : Record} {confirmed : Bool} {now : LocalTime}
    (hzone : now.zone = .fixed prior.created.offset) (hday : prior.created.localDay ≤ now.localDay)
    (hfit : Export.nextSequence prior.sequence.toNat confirmed < UInt64.size)
    (hroom : prior.daily.value.toNat + 1 < UInt32.size) :
    prior.toDraft.Precedes (advance prior confirmed (prior.created.isOnDayOf now) now) := by
  constructor
  · exact hday
  · exact Export.sequence_le_advance hfit
  · intro hsame
    have hon : prior.created.isOnDayOf now = true := by
      have hlocal : prior.created.localDay = now.localDay := hsame
      rw [Timestamp.isOnDayOf_eq, beq_iff_eq, Timestamp.dayIn_zone, hzone]
      exact hlocal
    have hsize : UInt32.size = 2 ^ 32 := rfl
    rw [hon, Export.toNat_advance_sequence hfit, Export.toNat_advance_daily]
    cases confirmed with
    | false => rfl
    | true =>
      simp only [Export.nextSequence, Export.nextDaily, if_true]
      omega

end Allocation

namespace Export

variable {offset : Offset}

/-- The clock's zone has one offset, its times can be written, and its date never goes back. -/
structure Chronological (offset : Offset) (turns : List (Turn σ)) : Prop where
  zone : ∀ t ∈ turns, t.now.zone = .fixed offset
  writable : ∀ t ∈ turns, t.now.Writable
  days : turns.Pairwise fun t u => t.now.localDay ≤ u.now.localDay

theorem Chronological.tail {t : Turn σ} {turns : List (Turn σ)}
    (h : Chronological offset (t :: turns)) :
    Chronological offset turns := by
  constructor
  · exact fun u hu => h.zone u (List.mem_cons_of_mem _ hu)
  · exact fun u hu => h.writable u (List.mem_cons_of_mem _ hu)
  · exact (List.pairwise_cons.1 h.days).2

/-- Numbers that may still be followed by this many exports at these times. -/
structure Resumable (offset : Offset) (turns : List (Turn σ)) (d : Draft) : Prop where
  offset : d.created.offset = offset
  days : ∀ t ∈ turns, d.created.localDay ≤ t.now.localDay
  room : d.daily.value.toNat + turns.length < UInt32.size

theorem Resumable.tail {t : Turn σ} {turns : List (Turn σ)} {d : Draft}
    (h : Resumable offset (t :: turns) d) :
    Resumable offset turns d := by
  have hroom := h.room
  rw [List.length_cons] at hroom
  exact ⟨h.offset, fun u hu => h.days u (List.mem_cons_of_mem _ hu), by omega⟩

theorem Chronological.resumable {t : Turn σ} {turns : List (Turn σ)} {d : Draft}
    (h : Chronological offset (t :: turns)) (hnow : d.created = t.now)
    (hroom : d.daily.value.toNat + turns.length < UInt32.size) : Resumable offset turns d := by
  constructor
  · rw [hnow, t.now.offset_eq, h.zone t List.mem_cons_self]
    rfl
  · rw [hnow]
    exact (List.pairwise_cons.1 h.days).1
  · exact hroom

/-- The result file has a name, and a number after that of the latest record has not run over. -/
structure Attempt.Regular (family : Family) (a : Attempt σ Memory) (o : Outcome) : Prop where
  named : o.record.fileName ≠ some ""
  inRange : ∀ prior, Catalog.latestRecord family a.blobs = .ok prior →
    o.record.sequence = prior.sequence + 1 → prior.sequence.toNat + 1 < UInt64.size

theorem Attempt.Regular.nextSequence_lt {family : Family} {a : Attempt σ Memory} {o : Outcome}
    (h : a.Regular family o) {prior : Record} {confirmed sameDay : Bool} {now : LocalTime}
    (hprior : Catalog.latestRecord family a.blobs = .ok prior)
    (hnumbers : o.record.toDraft = Allocation.advance prior confirmed sameDay now) :
    nextSequence prior.sequence.toNat confirmed < UInt64.size := by
  cases confirmed with
  | false => exact prior.sequence.toNat_lt
  | true => exact h.inRange prior hprior (congrArg Draft.sequence hnumbers)

/-- The numbers of the latest record. -/
def lastDraft (family : Family) (blobs : Memory) : Option Draft :=
  (Catalog.latestRecord family blobs).toOption.map (·.toDraft)

theorem lastDraft_of_ok {family : Family} {blobs : Memory} {r : Record}
    (h : Catalog.latestRecord family blobs = .ok r) : lastDraft family blobs = some r.toDraft := by
  rw [lastDraft, h]
  rfl

theorem lastDraft_of_error {family : Family} {blobs : Memory} {cause : CatalogError}
    (h : Catalog.latestRecord family blobs = .error cause) : lastDraft family blobs = none := by
  rw [lastDraft, h]
  rfl

variable [Container σ] {setup : Setup}

section Step

variable {a : Attempt σ Memory} {o : Outcome}

/-- The numbers are the first ones, or they follow those of the latest record. -/
theorem numbers_of_result (hkept : Kept setup.family a.blobs) (hresult : a.result setup = .ok o) :
    (∃ cause, Catalog.latestRecord setup.family a.blobs = .error cause) ∧
        o.record.toDraft = ⟨setup.settings.firstSequence, setup.settings.firstDaily, a.now⟩ ∨
      ∃ prior confirmed, Catalog.latestRecord setup.family a.blobs = .ok prior ∧
        o.record.toDraft = Allocation.advance prior confirmed
          (prior.created.isOnDayOf a.now) a.now := by
  obtain ⟨d, halloc, rfl, -⟩ := draft_of_run (Attempt.run_eq hresult)
  rcases Allocation.draft_of_allocate halloc with ⟨hlacks, rfl⟩ | ⟨prior, hprior, hfollow⟩
  · left
    obtain ⟨container, hnone⟩ := Catalog.latestRecord_eq_noRecord_iff.2 hlacks
    exact ⟨⟨_, hnone⟩, rfl⟩
  · right
    have hlinked := (hkept.tidy.of_latestRecord hkept.healthy hprior).2
    rcases Allocation.draft_of_following hfollow with ⟨hunlinked, -⟩ | ⟨-, confirmed, rfl⟩
    · exact absurd hunlinked hlinked
    · exact ⟨prior, confirmed, hprior, rfl⟩

/-- The export's record is the latest from then on. -/
theorem latestRecord_after (hd : setup.family.Dashed) (hkept : Kept setup.family a.blobs)
    (hwritable : a.now.Writable) (hresult : a.result setup = .ok o)
    (hregular : a.Regular setup.family o) :
    Catalog.latestRecord setup.family (a.after setup).blobs = .ok o.record := by
  have hrun := Attempt.run_eq hresult
  obtain ⟨d, -, -, hafter⟩ := draft_of_run hrun
  rw [hafter]
  apply hkept.tidy.latestRecord_save hkept.healthy hd
    (hkept.storable_of_run hrun hwritable hregular.named)
  intro prior hprior
  rcases numbers_of_result hkept hresult with
    ⟨⟨cause, hnone⟩, -⟩ | ⟨prior', confirmed, hprior', hnumbers⟩
  · cases hprior.symm.trans hnone
  · cases hprior.symm.trans hprior'
    rw [show o.record.sequence = _ from congrArg Draft.sequence hnumbers]
    exact sequence_le_advance (hregular.nextSequence_lt hprior hnumbers)

theorem kept_after (hkept : Kept setup.family a.blobs) (hwritable : a.now.Writable)
    (hregular : ∀ o, a.result setup = .ok o → a.Regular setup.family o) :
    Kept setup.family (a.after setup).blobs := by
  have hnamed : ∀ o, a.result setup = .ok o → o.record.fileName ≠ some "" :=
    fun o h => (hregular o h).named
  exact kept_run hkept hwritable hnamed

variable {turns : List (Turn σ)}

/-- The numbers go on from those of the latest record, and more exports may follow. -/
theorem precedes_of_result (hkept : Kept setup.family a.blobs)
    (htimes : Chronological offset (a.toTurn :: turns)) (hresult : a.result setup = .ok o)
    (hregular : a.Regular setup.family o)
    (hroom : setup.settings.firstDaily.value.toNat + turns.length < UInt32.size)
    (hlast : ∀ d ∈ lastDraft setup.family a.blobs, Resumable offset (a.toTurn :: turns) d) :
    (∀ d ∈ lastDraft setup.family a.blobs, d.Precedes o.record.toDraft) ∧
      Resumable offset turns o.record.toDraft := by
  rcases numbers_of_result hkept hresult with
    ⟨⟨cause, hnone⟩, hnumbers⟩ | ⟨prior, confirmed, hprior, hnumbers⟩
  · rw [lastDraft_of_error hnone, hnumbers]
    constructor
    · intro d hd
      contradiction
    · exact htimes.resumable rfl hroom
  · have hfit := hregular.nextSequence_lt hprior hnumbers
    have hresumable := hlast prior.toDraft (lastDraft_of_ok hprior)
    have hmore := hresumable.room
    rw [List.length_cons] at hmore
    rw [lastDraft_of_ok hprior, hnumbers]
    constructor
    · rintro d ⟨⟩
      have hzone : a.now.zone = .fixed prior.created.offset := by
        rw [htimes.zone a.toTurn List.mem_cons_self, hresumable.offset]
      exact Allocation.precedes_advance hzone
        (hresumable.days a.toTurn List.mem_cons_self) hfit (by omega)
    · have hdaily :=
        Allocation.daily_advance_le prior confirmed (prior.created.isOnDayOf a.now) a.now
      exact htimes.resumable rfl (by omega)

end Step

section Run

variable {blobs : Memory} {turns : List (Turn σ)} {d : Draft}

def Attempt.outcome? (setup : Setup) (a : Attempt σ Memory) : Option Outcome :=
  (a.result setup).toOption

/-- The outcomes of the exports that succeed. -/
def outcomes (setup : Setup) (blobs : Memory) (turns : List (Turn σ)) : List Outcome :=
  (attempts setup blobs turns).filterMap (Attempt.outcome? setup)

theorem Attempt.outcome?_of_ok {a : Attempt σ Memory} {o : Outcome} (h : a.result setup = .ok o) :
    a.outcome? setup = some o := by
  rw [outcome?, h]
  rfl

theorem Attempt.outcome?_of_error {a : Attempt σ Memory} {cause : ExportError}
    (h : a.result setup = .error cause) :
    a.outcome? setup = none := by
  rw [outcome?, h]
  rfl

theorem outcomes_cons_of_error {t : Turn σ} {cause : ExportError}
    (h : (⟨t, blobs⟩ : Attempt σ Memory).result setup = .error cause) :
    outcomes setup blobs (t :: turns) = outcomes setup blobs turns := by
  have hblobs := blobs_of_run_error (Attempt.run_eq h)
  rw [outcomes, attempts, List.filterMap_cons_none (Attempt.outcome?_of_error h), hblobs]
  rfl

theorem outcomes_cons_of_ok {t : Turn σ} {o : Outcome}
    (h : (⟨t, blobs⟩ : Attempt σ Memory).result setup = .ok o) :
    outcomes setup blobs (t :: turns) =
      o :: outcomes setup ((⟨t, blobs⟩ : Attempt σ Memory).after setup).blobs turns := by
  rw [outcomes, attempts, List.filterMap_cons_some (Attempt.outcome?_of_ok h)]
  rfl

/-- What is carried from export to export: the latest record is linked to all the later ones by a
chain of numbers. -/
theorem isChain_drafts (hd : setup.family.Dashed) (hkept : Kept setup.family blobs)
    (htimes : Chronological offset turns)
    (hregular : ∀ a ∈ attempts setup blobs turns, ∀ o, a.result setup = .ok o →
      a.Regular setup.family o)
    (hroom : setup.settings.firstDaily.value.toNat + turns.length < UInt32.size)
    (hlast : ∀ d ∈ lastDraft setup.family blobs, Resumable offset turns d) :
    List.IsChain Draft.Precedes
      ((lastDraft setup.family blobs).toList ++
        (outcomes setup blobs turns).map (·.record.toDraft)) := by
  induction turns generalizing blobs with
  | nil =>
    show List.IsChain _ ((lastDraft setup.family blobs).toList ++ [])
    cases lastDraft setup.family blobs <;> simp
  | cons t ts ih =>
    have hroom' : setup.settings.firstDaily.value.toNat + ts.length < UInt32.size := by
      rw [List.length_cons] at hroom
      omega
    have hself := hregular ⟨t, blobs⟩ List.mem_cons_self
    have hrest (a : Attempt σ Memory)
        (ha : a ∈ attempts setup ((⟨t, blobs⟩ : Attempt σ Memory).after setup).blobs ts) :=
      hregular a (List.mem_cons_of_mem _ ha)
    have hwritable := htimes.writable t List.mem_cons_self
    cases hresult : (⟨t, blobs⟩ : Attempt σ Memory).result setup with
    | error cause =>
      rw [blobs_of_run_error (Attempt.run_eq hresult)] at hrest
      rw [outcomes_cons_of_error hresult]
      exact ih hkept htimes.tail hrest hroom' fun d hlatest => (hlast d hlatest).tail
    | ok o =>
      obtain ⟨hprecedes, hresumable⟩ :=
        precedes_of_result (a := ⟨t, blobs⟩) hkept htimes hresult (hself o hresult) hroom' hlast
      have hlatest := lastDraft_of_ok
        (latestRecord_after (a := ⟨t, blobs⟩) hd hkept hwritable hresult (hself o hresult))
      have hchain :=
          ih (kept_after (a := ⟨t, blobs⟩) hkept hwritable hself) htimes.tail hrest hroom' (by
        rw [hlatest]
        rintro d ⟨⟩
        exact hresumable)
      rw [hlatest] at hchain
      rw [outcomes_cons_of_ok hresult, List.map_cons]
      cases hlast : lastDraft setup.family blobs with
      | none => exact hchain
      | some d => exact List.isChain_cons_cons.2 ⟨hprecedes d hlast, hchain⟩

/-- Of two exports of one day, the one with the greater sequence number has the greater daily
number, whatever became of the share in the meantime. -/
theorem sequence_lt_iff_daily_lt (hd : setup.family.Dashed) (hhealthy : blobs.Healthy)
    (hempty : blobs.objects.names = []) (htimes : Chronological offset turns)
    (hregular : ∀ a ∈ attempts setup blobs turns, ∀ o, a.result setup = .ok o →
      a.Regular setup.family o)
    (hroom : setup.settings.firstDaily.value.toNat + turns.length < UInt32.size) :
    ∀ o ∈ outcomes setup blobs turns, ∀ p ∈ outcomes setup blobs turns,
      o.record.created.date = p.record.created.date →
      (o.record.sequence < p.record.sequence ↔ o.record.daily.value < p.record.daily.value) := by
  intro o ho p hp hday
  have hlast : lastDraft setup.family blobs = none :=
    lastDraft_of_error (Catalog.latestRecord_of_no_names hhealthy hempty)
  have hkept : Kept setup.family blobs := ⟨hhealthy, Catalog.tidy_of_no_names hempty⟩
  have hresumable : ∀ d ∈ lastDraft setup.family blobs, Resumable offset turns d := by
    rw [hlast]
    intro d hd
    contradiction
  have hchain := isChain_drafts hd hkept htimes hregular hroom hresumable
  rw [hlast] at hchain
  have hpaced : ((outcomes setup blobs turns).map (·.record.toDraft)).Pairwise Draft.Paced :=
    hchain.pairwise.imp Draft.Precedes.paced
  have hall := hpaced.forall_of_forall fun d _ => Draft.Paced.refl d
  exact (hall (List.mem_map_of_mem ho) (List.mem_map_of_mem hp)).sequence_lt_iff hday

end Run

theorem outcomes_sample : outcomes sampleSetup (Memory.new "blobs") [seventhTurn, eighthTurn] =
    [⟨seventhRecord, "7-TARS.json"⟩, ⟨eighthRecord, "8-TARS.json"⟩] := by
  rw [outcomes, attempts_sample, List.filterMap_cons_some (Attempt.outcome?_of_ok result_seventh),
    List.filterMap_cons_some (Attempt.outcome?_of_ok result_eighth), List.filterMap_nil]

theorem sequence_lt_iff_daily_lt_seven_eight :
    seventhRecord.created.date = eighthRecord.created.date ∧
      (seventhRecord.sequence < eighthRecord.sequence ↔
        seventhRecord.daily.value < eighthRecord.daily.value) := by
  have hd : sampleSetup.family.Dashed := rfl
  have hempty : (Memory.new "blobs").objects.names = [] := rfl
  have hhealthy := Memory.healthy_new "blobs"
  have htimes : Chronological Offset.utc [seventhTurn, eighthTurn] := by
    constructor
    · intro t ht
      rcases List.mem_pair.1 ht with rfl | rfl <;> rfl
    · decide
    · decide
  have hseventh : seventh.Regular .standard ⟨seventhRecord, "7-TARS.json"⟩ := by
    refine ⟨by decide, fun prior hprior => ?_⟩
    cases hprior.symm.trans (Catalog.latestRecord_of_no_names hhealthy hempty)
  have heighth : eighth.Regular .standard ⟨eighthRecord, "8-TARS.json"⟩ := by
    refine ⟨by decide, fun prior hprior _ => ?_⟩
    cases hprior.symm.trans latestRecord_eighth
    decide
  have hregular : ∀ a ∈ attempts sampleSetup (Memory.new "blobs") [seventhTurn, eighthTurn],
      ∀ o, a.result sampleSetup = .ok o → a.Regular sampleSetup.family o := by
    rw [attempts_sample]
    intro a ha o hresult
    rcases List.mem_pair.1 ha with rfl | rfl
    · cases hresult.symm.trans result_seventh
      exact hseventh
    · cases hresult.symm.trans result_eighth
      exact heighth
  have hmain := sequence_lt_iff_daily_lt hd hhealthy hempty htimes hregular (by decide)
  rw [outcomes_sample] at hmain
  have hday : seventhRecord.created.date = eighthRecord.created.date := rfl
  exact ⟨hday,
    hmain ⟨seventhRecord, "7-TARS.json"⟩ (by simp) ⟨eighthRecord, "8-TARS.json"⟩ (by simp) hday⟩

end Export

end ExportLedger
