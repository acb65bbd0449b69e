import ExportLedger.Record.Schema
/-!
What the schema accepts, and as which record.
-/
namespace ExportLedger.Schema

variable {members : Members} {detail : Detail} {r found : Record}

theorem bind_eq_ok_iff {x : Except ε α} {f : α → Except ε β} {b : β} :
    (x >>= f) = .ok b ↔ ∃ a, x = .ok a ∧ f a = .ok b := by
  cases x with
  | error e => simp only [bind, Except.bind, reduceCtorEq, false_and, exists_false]
  | ok a => simp only [bind, Except.bind, Except.ok.injEq, exists_eq_left']

theorem required_eq_ok_iff {field : Field} {v? : Option α} {v : α} :
    required field v? = .ok v ↔ v? = some v := by
  cases v? with
  | none => simp only [required, reduceCtorEq]
  | some w => simp only [required, Except.ok.injEq, Option.some.injEq]

theorem daily_eq_ok_iff {s : String} {n : DailyNumber} :
    daily s = .ok n ↔ DailyNumber.ofText? s = some n := by
  unfold daily
  cases DailyNumber.ofText? s with
  | none => simp only [reduceCtorEq]
  | some m => simp only [Except.ok.injEq, Option.some.injEq]

theorem created_eq_ok_iff {s : String} {t : Timestamp} :
    created s = .ok t ↔ Rfc3339.strict? s = some t := by
  unfold created
  cases Rfc3339.strict? s with
  | none => simp only [reduceCtorEq]
  | some u => simp only [Except.ok.injEq, Option.some.injEq]

theorem complete_eq_ok_iff : complete detail found = .ok r ↔
    r = found ∧ (detail = .full → r.fileName ≠ none ∧ r.rows ≠ none) ∧
    (r.fileName ≠ none → r.checksum ≠ none) := by
  unfold complete
  split
  · rename_i h
    simp only [reduceCtorEq, false_iff]
    rintro ⟨rfl, hfull, -⟩
    exact (hfull h.1).1 h.2
  · split
    · rename_i h
      simp only [reduceCtorEq, false_iff]
      rintro ⟨rfl, hfull, -⟩
      exact (hfull h.1).2 h.2
    · split
      · rename_i h
        simp only [reduceCtorEq, false_iff]
        rintro ⟨rfl, -, hsum⟩
        exact hsum h.1 h.2
      · rename_i hfile hrows hsum
        rw [Except.ok.injEq]
        constructor
        · rintro rfl
          exact ⟨rfl, fun hfull => ⟨fun h => hfile ⟨hfull, h⟩, fun h => hrows ⟨hfull, h⟩⟩,
            fun h h' => hsum ⟨h, h'⟩⟩
        · rintro ⟨rfl, -⟩
          rfl

/-- What the members have to say to be accepted as the record. -/
structure Describes (members : Members) (detail : Detail) (r : Record) : Prop where
  sequence : natural .sequenceNumber members = .ok (some r.sequence)
  daily : ∃ s, text .dailySequenceNumber members = .ok (some s) ∧
    DailyNumber.ofText? s = some r.daily
  created : ∃ s, text .created members = .ok (some s) ∧ Rfc3339.strict? s = some r.created
  fileName : text .fileName members = .ok r.fileName
  checksum : text .checksum members = .ok r.checksum
  rows : natural .numberOfRows members = .ok r.rows
  complete : detail = .full → r.fileName ≠ none ∧ r.rows ≠ none
  checksum_of_fileName : r.fileName ≠ none → r.checksum ≠ none

theorem ofMembers_eq_ok_iff : ofMembers members detail = .ok r ↔ Describes members detail r := by
  simp only [ofMembers, bind_eq_ok_iff, required_eq_ok_iff, daily_eq_ok_iff, created_eq_ok_iff,
    complete_eq_ok_iff]
  constructor
  · rintro ⟨_, hsequence, sequence, rfl, _, hdaily, daily, rfl, n, hn, _, hcreated,
      created, rfl, t, ht, fileName, hfile, checksum, hchecksum, rows, hrows, rfl, hcomplete, hsum⟩
    exact ⟨hsequence, ⟨daily, hdaily, hn⟩, ⟨created, hcreated, ht⟩, hfile, hchecksum, hrows,
      hcomplete, hsum⟩
  · intro h
    obtain ⟨daily, hdaily, hn⟩ := h.daily
    obtain ⟨created, hcreated, ht⟩ := h.created
    exact ⟨_, h.sequence, _, rfl, _, hdaily, daily, rfl, _, hn, _, hcreated, created, rfl, _, ht, _,
      h.fileName, _, h.checksum, _, h.rows, rfl, h.complete, h.checksum_of_fileName⟩

end ExportLedger.Schema

namespace ExportLedger.Record

variable {bytes : ByteArray} {detail : Detail} {r : Record}

theorem parse_eq_ok_iff : parse bytes detail = .ok r ↔
    ∃ members, Json.Document.decode? (Json.Document.value? Json.Document.nestingLimit) bytes =
      some (.object members) ∧
      Schema.Describes members detail r := by
  unfold parse
  split
  · rename_i members hread
    rw [Schema.ofMembers_eq_ok_iff, hread]
    simp only [Option.some.injEq, Json.Tree.object.injEq, exists_eq_left']
  · rename_i v hobject hread
    rw [hread]
    constructor
    · intro h
      contradiction
    · intro h
      obtain ⟨members, hmembers, -⟩ := h
      exact absurd (Option.some.inj hmembers) (hobject members)
  · rename_i hread
    rw [hread]
    simp only [reduceCtorEq, false_and, exists_false]

/-- A record that has to tell everything names its result file. -/
theorem fileName_ne_none_of_parse (h : parse bytes .full = .ok r) : r.fileName ≠ none := by
  obtain ⟨members, -, hmembers⟩ := parse_eq_ok_iff.1 h
  exact (hmembers.complete rfl).1

end ExportLedger.Record
