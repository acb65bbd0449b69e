import Mathlib.Data.List.Forall2
import ExportLedger.Export.Cycle
import ExportLedger.Proofs.Export.Allocation
/-!
Exports as a counter machine. The machine remembers its last issue and counts in natural numbers;
whatever is done to the share between two exports, the exports give exactly its issues.
-/
namespace ExportLedger.Export

/-- What the machine remembers of an export. -/
structure Issue where
  sequence : Nat
  daily : Nat
  created : Timestamp
  fileName : String
  checksum : String
  rows : UInt64
  deriving DecidableEq

/-- What the share has come to hold, and the export that follows. -/
structure Cycle where
  share : NameMap ByteArray
  now : LocalTime
  content : ByteArray
  rows : UInt64

/-- Only these times can be written into a record. -/
def Cycle.Dated (c : Cycle) : Prop := c.now.Writable

instance (c : Cycle) : Decidable c.Dated := inferInstanceAs (Decidable c.now.Writable)

def nextSequence (n : Nat) (confirmed : Bool) : Nat := if confirmed then n + 1 else n

def nextDaily (n : Nat) (confirmed sameDay : Bool) : Nat :=
  match confirmed, sameDay with
  | true, true => min (n + 1) (2 ^ 32 - 1)
  | true, false => 1
  | false, true => n
  | false, false => 1

namespace Setup

def issue (setup : Setup) (sequence daily : Nat) (c : Cycle) : Issue where
  sequence := sequence
  daily := daily
  created := c.now
  fileName := Template.render setup.template ⟨.ofNat sequence, ⟨.ofNat daily⟩, c.now⟩
  checksum := Md5.checksum c.content
  rows := c.rows

/-- The sequence number and the daily number that come next. -/
def numbers (setup : Setup) (c : Cycle) : Option Issue → Nat × Nat
  | none => (setup.settings.firstSequence.toNat, setup.settings.firstDaily.value.toNat)
  | some i =>
    let confirmed :=
      Allocation.isConfirmed setup.settings.processedMark c.share i.fileName i.checksum
    let sameDay := i.created.dayIn c.now.zone == c.now.dayIn c.now.zone
    (nextSequence i.sequence confirmed, nextDaily i.daily confirmed sameDay)

/-- The machine's step. -/
def next (setup : Setup) (last : Option Issue) (c : Cycle) : Issue :=
  setup.issue (setup.numbers c last).1 (setup.numbers c last).2 c

def issues (setup : Setup) : Option Issue → List Cycle → List Issue
  | _, [] => []
  | last, c :: cs => setup.next last c :: setup.issues (setup.next last c) cs

end Setup

/-- One export after the other, each from the share as it has come to be. -/
def results (setup : Setup) : Stores Memory Memory → List Cycle → List (Except ExportError Outcome)
  | _, [] => []
  | s, c :: cs =>
    let (result, after) :=
      run setup c.now c.content c.rows { s with share := { s.share with objects := c.share } }
    result :: results setup after cs

namespace Issue

/-- A number fits a record, and a file name says something. -/
def Writable (i : Issue) : Prop := i.fileName ≠ "" ∧ i.sequence < UInt64.size

instance (i : Issue) : Decidable i.Writable := inferInstanceAs (Decidable (_ ∧ _))

structure Describes (i : Issue) (r : Record) : Prop where
  sequence : r.sequence.toNat = i.sequence
  daily : r.daily.value.toNat = i.daily
  created : r.created = i.created
  fileName : r.fileName = some i.fileName
  checksum : r.checksum = some i.checksum
  rows : r.rows = some i.rows

end Issue

/-- What the blobs hold after the last issue: its record, and no later one. -/
def Remembers (family : Family) (blobs : Memory) : Option Issue → Prop
  | none => blobs.objects.names = []
  | some i => ∃ r, i.Describes r ∧ r.Storable family.detail ∧ Catalog.Holds family r blobs.objects

theorem toNat_advance_sequence {prior : Record} {confirmed sameDay : Bool} {now : LocalTime}
    (h : nextSequence prior.sequence.toNat confirmed < UInt64.size) :
    (Allocation.advance prior confirmed sameDay now).sequence.toNat =
      nextSequence prior.sequence.toNat confirmed := by
  cases confirmed with
  | false => rfl
  | true =>
    have hone : (1 : UInt64).toNat = 1 := rfl
    have hlt : prior.sequence.toNat + 1 < 2 ^ 64 := h
    simp only [Allocation.advance, nextSequence, if_true]
    rw [UInt64.toNat_add, hone, Nat.mod_eq_of_lt hlt]

theorem toNat_next_value (n : DailyNumber) :
    n.next.value.toNat = min (n.value.toNat + 1) (2 ^ 32 - 1) := by
  have hn : n.value.toNat < 2 ^ 32 := n.value.toNat_lt
  have hsize : UInt32.size = 2 ^ 32 := rfl
  unfold DailyNumber.next
  split
  · rename_i hlt
    have hone : (1 : UInt32).toNat = 1 := rfl
    rw [UInt32.toNat_add, hone]
    omega
  · rename_i hge
    show n.value.toNat = _
    omega

theorem toNat_advance_daily (prior : Record) (confirmed sameDay : Bool) (now : LocalTime) :
    (Allocation.advance prior confirmed sameDay now).daily.value.toNat =
      nextDaily prior.daily.value.toNat confirmed sameDay := by
  cases sameDay with
  | false => cases confirmed <;> rfl
  | true =>
    cases confirmed with
    | false => rfl
    | true => exact toNat_next_value prior.daily

theorem sequence_le_advance {prior : Record} {confirmed sameDay : Bool} {now : LocalTime}
    (h : nextSequence prior.sequence.toNat confirmed < UInt64.size) :
    prior.sequence ≤ (Allocation.advance prior confirmed sameDay now).sequence := by
  rw [UInt64.le_iff_toNat_le, toNat_advance_sequence h]
  unfold nextSequence
  split <;> omega

variable {setup : Setup} {s : Stores Memory Memory} {last : Option Issue} {c : Cycle}

theorem allocate_of_remembers (hd : setup.family.Dashed) (hs : s.share.Healthy)
    (hb : s.blobs.Healthy) (h : Remembers setup.family s.blobs last)
    (hc : s.share.objects = c.share) (hfit : (setup.numbers c last).1 < UInt64.size) :
    ∃ d, Allocation.allocate setup.family setup.settings c.now s = .ok d ∧
      d.sequence.toNat = (setup.numbers c last).1 ∧ d.daily.value.toNat = (setup.numbers c last).2 ∧
      d.created = c.now ∧ ∀ i ∈ last, ∀ r, i.Describes r → r.sequence ≤ d.sequence := by
  cases last with
  | none =>
    refine ⟨_, Allocation.allocate_of_no_names setup.settings c.now hb h, rfl, rfl, rfl, ?_⟩
    intro i hi
    contradiction
  | some i =>
    obtain ⟨r, hdesc, hr, hholds⟩ := h
    have halloc :=
      Allocation.allocate_of_holds setup.settings c.now hd hs hb hr hholds hdesc.fileName
        hdesc.checksum
    rw [hc, hdesc.created] at halloc
    generalize hconf :
      Allocation.isConfirmed setup.settings.processedMark c.share i.fileName i.checksum = confirmed
      at halloc
    generalize hday : (i.created.dayIn c.now.zone == c.now.dayIn c.now.zone) = sameDay at halloc
    have hnext : setup.numbers c (some i) =
        (nextSequence r.sequence.toNat confirmed,
          nextDaily r.daily.value.toNat confirmed sameDay) := by
      rw [hdesc.sequence, hdesc.daily, ← hconf, ← hday]
      rfl
    rw [hnext] at hfit ⊢
    refine ⟨_, halloc, toNat_advance_sequence hfit,
      toNat_advance_daily r confirmed sameDay c.now, rfl, ?_⟩
    intro j hj r' hdesc'
    cases hj
    have hsame : r'.sequence = r.sequence :=
      UInt64.toNat_inj.1 (hdesc'.sequence.trans hdesc.sequence.symm)
    rw [hsame]
    exact sequence_le_advance hfit

theorem run_of_allocate {now : LocalTime} {d : Draft}
    (h : Allocation.allocate setup.family setup.settings now s = .ok d) (content : ByteArray)
    (rows : UInt64) :
    run setup now content rows s =
      (.ok ⟨d.record (Template.render setup.template d) content rows,
        setup.family.fileName d.sequence⟩,
        ⟨(Container.upload s.share (Template.render setup.template d) content).2,
          (Catalog.save setup.family s.blobs
            (d.record (Template.render setup.template d) content rows)).2⟩) := by
  simp only [run, h, Memory.upload_eq, Catalog.save_eq]
  rfl

theorem run_of_remembers (hd : setup.family.Dashed) (hs : s.share.Healthy) (hb : s.blobs.Healthy)
    (h : Remembers setup.family s.blobs last) (hc : s.share.objects = c.share) (hdated : c.Dated)
    (hw : (setup.next last c).Writable) :
    ∃ o after, run setup c.now c.content c.rows s = (.ok o, after) ∧
      (setup.next last c).Describes o.record ∧ after.share.Healthy ∧ after.blobs.Healthy ∧
      Remembers setup.family after.blobs (some (setup.next last c)) := by
  obtain ⟨d, halloc, hseq, hdaily, hnow, hle⟩ := allocate_of_remembers hd hs hb h hc hw.2
  have hdraft :
      d = ⟨.ofNat (setup.numbers c last).1, ⟨.ofNat (setup.numbers c last).2⟩, c.now⟩ := by
    rw [← hseq, ← hdaily, ← hnow, UInt64.ofNat_toNat, UInt32.ofNat_toNat]
  have hname : Template.render setup.template d = (setup.next last c).fileName := by
    rw [hdraft]
    rfl
  have hrun := run_of_allocate halloc c.content c.rows
  rw [hname] at hrun
  have hdesc :
      (setup.next last c).Describes (d.record (setup.next last c).fileName c.content c.rows) :=
    ⟨hseq, hdaily, hnow, rfl, rfl, rfl⟩
  have hcreated : d.created.Writable := by
    rw [hnow]
    exact hdated
  have hstorable := Draft.storable_record c.content c.rows hcreated hw.1 setup.family.detail
  refine ⟨_, _, hrun, hdesc, hs.alike (Memory.alike_objects _ _),
    hb.alike (Memory.alike_objects _ _), _, hdesc, hstorable, ?_⟩
  rw [Catalog.save_eq]
  cases last with
  | none =>
    refine Catalog.holds_insert fun name hname => ?_
    have hnone : s.blobs.objects.names = [] := h
    simp [hnone] at hname
  | some i =>
    obtain ⟨r, hdescr, -, hholds⟩ := h
    exact hholds.insert hd (hle i rfl r hdescr)

/-- A result tells of the export that the machine has issued. -/
def Gives (result : Except ExportError Outcome) (i : Issue) : Prop :=
  ∃ o, result = .ok o ∧ i.Describes o.record

theorem results_give_issues {cycles : List Cycle} (hd : setup.family.Dashed) (hs : s.share.Healthy)
    (hb : s.blobs.Healthy) (h : Remembers setup.family s.blobs last)
    (hdated : ∀ c ∈ cycles, c.Dated) (hw : ∀ i ∈ setup.issues last cycles, i.Writable) :
    List.Forall₂ Gives (results setup s cycles) (setup.issues last cycles) := by
  induction cycles generalizing s last with
  | nil => exact .nil
  | cons c cs ih =>
    have hshare : ({ s.share with objects := c.share } : Memory).Healthy :=
      hs.alike (Memory.alike_objects _ _)
    obtain ⟨o, after, hrun, hdesc, hs', hb', hrem⟩ :=
      run_of_remembers (s := { s with share := { s.share with objects := c.share } }) hd
        hshare hb h rfl
        (hdated c List.mem_cons_self) (hw _ List.mem_cons_self)
    have hrest := ih hs' hb' hrem (fun c hc => hdated c (List.mem_cons_of_mem _ hc))
      fun i hi => hw i (List.mem_cons_of_mem _ hi)
    simp only [results, hrun, Setup.issues]
    exact .cons ⟨o, rfl, hdesc⟩ hrest

/-- Whatever the share comes to hold before each export, the exports succeed and give the machine's
issues. -/
theorem results_refine_issues (setup : Setup) (s : Stores Memory Memory) (cycles : List Cycle)
    (hd : setup.family.Dashed) (hs : s.share.Healthy) (hb : s.blobs.Healthy)
    (hempty : s.blobs.objects.names = []) (hdated : ∀ c ∈ cycles, c.Dated)
    (hw : ∀ i ∈ setup.issues none cycles, i.Writable) :
    List.Forall₂ Gives (results setup s cycles) (setup.issues none cycles) :=
  results_give_issues hd hs hb hempty hdated hw

def sampleSetup : Setup := { family := .standard, settings := ⟨7, .first, "processed-"⟩ }

/-- An hour ahead of UTC, and two hours from 2024-03-31T01:00:00Z on. -/
def springZone : Zone where
  offsetAt seconds := (Offset.ofMinutes? (if seconds < 1711846800 then 60 else 120)).getD .utc

def springTime (seconds : Int) : LocalTime :=
  Timestamp.toLocal ⟨seconds, 250000000, .utc, by decide⟩ springZone

/-- Noon and half past eleven at night of 30 March, noon and one in the afternoon of the next day:
an export that is picked up as it is, one that is marked as processed, and one that is altered. -/
def sampleCycles : List Cycle :=
  [⟨.empty, springTime 1711796400, "a".toUTF8, 1⟩,
    ⟨.ofList [("TARS7.xml", "a".toUTF8)], springTime 1711837800, "b".toUTF8, 2⟩,
    ⟨.ofList [("processed-TARS8.xml", "b".toUTF8)], springTime 1711879200, "c".toUTF8, 3⟩,
    ⟨.ofList [("TARS9.xml", "?".toUTF8)], springTime 1711882800, "d".toUTF8, 4⟩]

/-- In the later offset, the second export would be of the day of the third. -/
theorem results_refine_issues_two_days :
    (sampleSetup.issues none sampleCycles).map
        (fun i => (i.sequence, i.daily, Rfc3339.text i.created, i.checksum)) =
      [(7, 1, "2024-03-30T12:00:00.250+01:00", "0cc175b9c0f1b6a831c399e269772661"),
        (8, 2, "2024-03-30T23:30:00.250+01:00", "92eb5ffee6ae2fec3ad71c777531578f"),
        (9, 1, "2024-03-31T12:00:00.250+02:00", "4a8a08f09d37b73795649038408b5f33"),
        (9, 1, "2024-03-31T13:00:00.250+02:00", "8277e0910d750195b448797616e091ad")] ∧
      List.Forall₂ Gives (results sampleSetup ⟨.new "share", .new "blobs"⟩ sampleCycles)
        (sampleSetup.issues none sampleCycles) := by
  have hdated : ∀ c ∈ sampleCycles, c.Dated := by decide +kernel
  have hw : ∀ i ∈ sampleSetup.issues none sampleCycles, i.Writable := by decide +kernel
  refine ⟨by decide +kernel, ?_⟩
  exact results_refine_issues sampleSetup ⟨.new "share", .new "blobs"⟩ sampleCycles rfl
    (Memory.healthy_new _) (Memory.healthy_new _) rfl hdated hw

end ExportLedger.Export
