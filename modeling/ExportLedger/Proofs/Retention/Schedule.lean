import ExportLedger.App
import ExportLedger.Proofs.Retention.Interleaving
/-!
The schedule as a loop that waits for the next tick of its clock and for the shutdown at the same
time, and goes on with whichever comes first. A pass takes no time, and nothing is made of its
result.
-/
namespace ExportLedger

namespace Retention.Housekeeping

variable [Container σ] [Container τ] {setup : Setup} {period shutdown : Nat} {s : Stores σ τ}

/-- Passes one after another: what came of each, and the stores after the last. -/
def consecutivePasses (setup : Setup) (s : Stores σ τ) :
    Nat → List (Except Failure Report) × Stores σ τ
  | 0 => ([], s)
  | n + 1 =>
    let (results, s) := consecutivePasses setup s n
    let (result, s) := pass setup s
    (results ++ [result], s)

theorem length_consecutivePasses (setup : Setup) (s : Stores σ τ) (n : Nat) :
    (consecutivePasses setup s n).1.length = n := by
  induction n with
  | zero => rfl
  | succ n ih => rw [consecutivePasses, List.length_append, ih, List.length_singleton]

/-- The results are those of the passes so far. -/
inductive Loop (σ τ : Type) where
  /-- The next tick is due at some time. -/
  | waiting (due : Nat) (results : List (Except Failure Report)) (s : Stores σ τ)
  | returned (results : List (Except Failure Report)) (s : Stores σ τ)

/-- If the tick and the shutdown come at the same time, either of them may be taken. -/
inductive Turn (setup : Setup) (period shutdown : Nat) : Loop σ τ → Loop σ τ → Prop
  | tick {due : Nat} {results : List (Except Failure Report)} {s : Stores σ τ} : due ≤ shutdown →
      Turn setup period shutdown (.waiting due results s)
        (.waiting (due + period) (results ++ [(pass setup s).1]) (pass setup s).2)
  | stop {due : Nat} {results : List (Except Failure Report)} {s : Stores σ τ} : shutdown ≤ due →
      Turn setup period shutdown (.waiting due results s) (.returned results s)

/-- The first tick comes at once. -/
def Loop.start (s : Stores σ τ) : Loop σ τ := .waiting 0 [] s

abbrev Turns (setup : Setup) (period shutdown : Nat) : Loop σ τ → Loop σ τ → Prop :=
  Relation.ReflTransGen (Turn setup period shutdown)

theorem exists_turn (setup : Setup) (period shutdown due : Nat)
    (results : List (Except Failure Report)) (s : Stores σ τ) :
    ∃ next, Turn setup period shutdown (.waiting due results s) next := by
  rcases Nat.le_total due shutdown with h | h
  · exact ⟨_, .tick h⟩
  · exact ⟨_, .stop h⟩

/-- What is left of the time until the shutdown. -/
def Loop.remaining (shutdown : Nat) : Loop σ τ → Nat
  | .waiting due _ _ => shutdown + 1 - due + 1
  | .returned _ _ => 0

theorem Turn.remaining_lt (hperiod : 0 < period) {l next : Loop σ τ}
    (h : Turn setup period shutdown l next) :
    next.remaining shutdown < l.remaining shutdown := by
  cases h with
  | tick hdue =>
    simp only [Loop.remaining]
    omega
  | stop hdue => exact Nat.succ_pos _

theorem wellFounded_turn (setup : Setup) (hperiod : 0 < period) (shutdown : Nat) :
    WellFounded fun next l : Loop σ τ => Turn setup period shutdown l next :=
  Subrelation.wf (fun h => Turn.remaining_lt hperiod h) (measure (Loop.remaining shutdown)).wf

theorem due_lt_iff (hperiod : 0 < period) (hshutdown : ¬period ∣ shutdown) {n : Nat} :
    n * period < shutdown ↔ n < shutdown / period + 1 := by
  rw [Nat.lt_succ_iff, Nat.le_div_iff_mul_le hperiod]
  constructor
  · exact Nat.le_of_lt
  · intro hle
    refine Nat.lt_of_le_of_ne hle fun heq => hshutdown ?_
    exact ⟨n, by rw [← heq, Nat.mul_comm]⟩

/-- Where the loop can be after some turns, if it makes so many passes in all. -/
inductive Visited (setup : Setup) (period total : Nat) (s : Stores σ τ) : Loop σ τ → Prop
  | waiting {n : Nat} (hn : n ≤ total) : Visited setup period total s
      (.waiting (n * period) (consecutivePasses setup s n).1 (consecutivePasses setup s n).2)
  | returned : Visited setup period total s
      (.returned (consecutivePasses setup s total).1 (consecutivePasses setup s total).2)

variable {l next : Loop σ τ}

theorem Visited.turn (hperiod : 0 < period) (hshutdown : ¬period ∣ shutdown)
    (h : Visited setup period (shutdown / period + 1) s l)
    (hturn : Turn setup period shutdown l next) :
    Visited setup period (shutdown / period + 1) s next := by
  cases h with
  | @waiting n hn =>
    cases hturn with
    | tick hdue =>
      have hlt : n < shutdown / period + 1 := by
        rw [← due_lt_iff hperiod hshutdown]
        exact Nat.lt_of_le_of_ne hdue fun heq => hshutdown ⟨n, by rw [← heq, Nat.mul_comm]⟩
      rw [← Nat.succ_mul]
      exact .waiting (n := n + 1) hlt
    | stop hdue =>
      have hge : ¬n < shutdown / period + 1 := by
        rw [← due_lt_iff hperiod hshutdown]
        exact Nat.not_lt.2 hdue
      obtain rfl : n = shutdown / period + 1 := Nat.le_antisymm hn (Nat.not_lt.1 hge)
      exact .returned
  | returned => cases hturn

theorem visited_of_turns (hperiod : 0 < period) (hshutdown : ¬period ∣ shutdown)
    (h : Turns setup period shutdown (.start s) l) :
    Visited setup period (shutdown / period + 1) s l := by
  induction h with
  | refl =>
    have hstart : Visited setup period (shutdown / period + 1) s _ := .waiting (Nat.zero_le _)
    rw [Nat.zero_mul] at hstart
    exact hstart
  | tail _ hturn ih => exact ih.turn hperiod hshutdown hturn

/-- A loop that can do no more has returned, with all the passes that were due. -/
theorem turn_or_returned (hperiod : 0 < period) (hshutdown : ¬period ∣ shutdown)
    (h : Turns setup period shutdown (.start s) l) :
    let made := consecutivePasses setup s (shutdown / period + 1)
    (∃ next, Turn setup period shutdown l next) ∨ l = .returned made.1 made.2 := by
  cases visited_of_turns hperiod hshutdown h with
  | waiting hn => exact .inl (exists_turn setup period shutdown _ _ _)
  | returned => exact .inr rfl

theorem exists_turns_passesFrom (setup : Setup) (hperiod : 0 < period) (shutdown due : Nat)
    (results : List (Except Failure Report)) (s : Stores σ τ) :
    ∃ made, Turns setup period shutdown (.waiting due results s)
      (.returned made (passesFrom setup period shutdown due s)) := by
  induction hleft : shutdown - due using Nat.strongRecOn generalizing due results s with
  | ind left ih =>
    rw [passesFrom]
    split
    · rename_i h
      have hless : shutdown - (due + period) < left := by omega
      obtain ⟨made, hrest⟩ :=
        ih _ hless (due + period) (results ++ [(pass setup s).1]) (pass setup s).2 rfl
      exact ⟨made, .head (.tick (Nat.le_of_lt h.2)) hrest⟩
    · rename_i h
      have hstop : shutdown ≤ due := by omega
      exact ⟨results, .single (.stop hstop)⟩

theorem schedule_eq (hperiod : 0 < period) (hshutdown : ¬period ∣ shutdown) :
    schedule setup period shutdown s = (consecutivePasses setup s (shutdown / period + 1)).2 := by
  obtain ⟨made, hturns⟩ := exists_turns_passesFrom setup hperiod shutdown 0 [] s
  rcases turn_or_returned hperiod hshutdown hturns with ⟨next, hnext⟩ | h
  · cases hnext
  · exact (Loop.returned.inj h).2

theorem turns_returned (hperiod : 0 < period) (hshutdown : ¬period ∣ shutdown) :
    let made := consecutivePasses setup s (shutdown / period + 1)
    Turns setup period shutdown (.start s) (.returned made.1 made.2) := by
  obtain ⟨results, hturns⟩ := exists_turns_passesFrom setup hperiod shutdown 0 [] s
  rcases turn_or_returned hperiod hshutdown hturns with ⟨next, hnext⟩ | h
  · cases hnext
  · rw [h] at hturns
    exact hturns

end Retention.Housekeeping

namespace App

open Retention.Housekeeping

variable [Container σ] [Container τ]

/-- The interval is given in seconds, and zero stands for the configured one. -/
theorem schedule_of_interval (app : App σ τ) (every : UInt64) (shutdown : Nat) :
    app.schedule every shutdown = { app with
      stores := Retention.Housekeeping.schedule app.config.housekeepingSetup
        ((if every = 0 then app.config.housekeeping.intervalSeconds else every).toNat * 1000000000)
        shutdown app.stores } := by
  unfold schedule period second
  split <;> rfl

/-- The loop does not go on for ever, and when it can do no more, it has returned after a pass for
every tick before the shutdown, whatever came of these passes. -/
theorem schedule_makes_passes (app : App σ τ) (every : UInt64) (shutdown : Nat) :
    let interval := if every = 0 then app.config.housekeeping.intervalSeconds else every
    let period := interval.toNat * 1000000000
    interval ≠ 0 → ¬period ∣ shutdown →
      let setup := app.config.housekeepingSetup
      let made := consecutivePasses setup app.stores (shutdown / period + 1)
      (WellFounded fun next l : Loop σ τ => Turn setup period shutdown l next) ∧
        (∀ l, Turns setup period shutdown (.start app.stores) l →
          (∃ next, Turn setup period shutdown l next) ∨ l = .returned made.1 made.2) ∧
        made.1.length = shutdown / period + 1 ∧
        app.schedule every shutdown = { app with stores := made.2 } := by
  intro interval period hinterval hshutdown
  have hseconds : 0 < interval.toNat := Nat.pos_of_ne_zero fun h => hinterval (UInt64.toNat_inj.1 h)
  have hperiod : 0 < period := Nat.mul_pos hseconds (by decide)
  refine ⟨wellFounded_turn _ hperiod shutdown, fun l hl => turn_or_returned hperiod hshutdown hl,
    length_consecutivePasses _ _ _, ?_⟩
  rw [schedule_of_interval, schedule_eq hperiod hshutdown]

/-- Files of which one cannot be deleted, two records, and passes every ninety seconds. -/
def failingApp : App Memory Memory where
  config := { housekeeping := { intervalSeconds := 90 } }
  stores := ⟨Retention.tiedFiles, pairedBlobs⟩

/-- The shutdown comes half a second after the second tick of the configured interval, or after the
third tick if there is one every forty seconds. No pass succeeds. -/
theorem schedule_makes_passes_failing :
    (failingApp.config.housekeeping.intervalSeconds ≠ 0 ∧
      ¬90 * 1000000000 ∣ 90500000000 ∧ ¬40 * 1000000000 ∣ 90500000000) ∧
    (∃ results t, Turns failingApp.config.housekeepingSetup (90 * 1000000000) 90500000000
        (.start failingApp.stores) (.returned results t) ∧
      results.length = 2 ∧ (∀ result ∈ results, result.toOption = none) ∧
      failingApp.schedule 0 90500000000 = { failingApp with stores := t } ∧
      t.share.deletesAttempted =
        ["processed-TARS-7.xml", "processed-TARS6.xml", "processed-TARS6.xml"]) ∧
    ∃ results t, Turns failingApp.config.housekeepingSetup (40 * 1000000000) 90500000000
        (.start failingApp.stores) (.returned results t) ∧
      results.length = 3 ∧ failingApp.schedule 40 90500000000 =
        { failingApp with stores := t } := by
  have hconfigured : ¬90 * 1000000000 ∣ 90500000000 := by decide +kernel
  have hgiven : ¬40 * 1000000000 ∣ 90500000000 := by decide +kernel
  refine ⟨⟨by decide, hconfigured, hgiven⟩, ?_, ?_⟩
  · obtain ⟨-, -, hlength, hschedule⟩ :=
      failingApp.schedule_makes_passes 0 90500000000 (by decide) hconfigured
    refine ⟨_, _, turns_returned (by decide) hconfigured, ?_, ?_, hschedule, ?_⟩
    · exact hlength.trans (by decide +kernel)
    · decide +kernel
    · decide +kernel
  · obtain ⟨-, -, hlength, hschedule⟩ :=
      failingApp.schedule_makes_passes 40 90500000000 (by decide) hgiven
    refine ⟨_, _, turns_returned (by decide) hgiven, ?_, hschedule⟩
    exact hlength.trans (by decide +kernel)

end App

end ExportLedger
