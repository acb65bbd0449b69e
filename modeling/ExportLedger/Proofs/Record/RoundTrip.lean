import ExportLedger.Catalog
import ExportLedger.Proofs.Calendar.Rfc3339
import ExportLedger.Proofs.Json.RoundTrip
import ExportLedger.Proofs.Record.Acceptance
/-!
Records survive storage: a record that the schema admits is read back from its own document, and
from the document of any other record nothing is read.
-/
namespace ExportLedger

namespace DailyNumber

theorem text_ne_empty (n : DailyNumber) : n.text ≠ "" := by
  intro h
  have := congrArg String.toList h
  rw [text, String.toList_ofList] at this
  exact Decimal.padded_ne_nil 3 n.value.toNat this

theorem ofText?_eq_some_iff_natural? {s : String} {n : DailyNumber} : ofText? s = some n ↔
    Decimal.natural? UInt32.size s.toList = some n.value.toNat := by
  rw [ofText?, Option.map_eq_some_iff]
  constructor
  · rintro ⟨k, hk, rfl⟩
    rw [hk, UInt32.toNat_ofNat_of_lt' (Decimal.natural?_eq_some_iff.1 hk).2.2.2]
  · intro h
    exact ⟨_, h, by rw [UInt32.ofNat_toNat]⟩

theorem ofText?_text (n : DailyNumber) : ofText? n.text = some n := by
  have hn : n.value.toNat < UInt32.size := n.value.toNat_lt
  rw [ofText?_eq_some_iff_natural?, text, String.toList_ofList, Decimal.natural?_padded hn]

end DailyNumber

namespace Record

/-- What the schema asks of a record before it accepts the record's document. -/
structure Acceptable (detail : Detail) (r : Record) : Prop where
  year_nonneg : 0 ≤ r.created.date.year
  year_le : r.created.date.year ≤ 9999
  fileName_ne_empty : r.fileName ≠ some ""
  checksum_ne_empty : r.checksum ≠ some ""
  checksum_of_fileName : r.fileName ≠ none → r.checksum ≠ none
  complete : detail = .full → r.fileName ≠ none ∧ r.rows ≠ none

/-- What it takes for a record to be read back from its own document. -/
structure Storable (detail : Detail) (r : Record) : Prop extends Acceptable detail r where
  leap_at_minute_end : r.created.LeapAtMinuteEnd

/-- What is read for a record. -/
def asRead (r : Record) : Record := { r with created := r.created.asRead }

theorem asRead_eq_self_iff {r : Record} : r.asRead = r ↔ r.created.LeapAtMinuteEnd := by
  rw [← Timestamp.asRead_eq_self_iff]
  constructor
  · exact congrArg fun found : Record => found.created
  · intro h
    rw [asRead, h]

/-- The members of a record's document. -/
def documentMembers (r : Record) : Schema.Members :=
  r.members ++
    (r.fileName.map fun s => (Field.fileName.name, Json.Tree.text s)).toList ++
    (r.checksum.map fun s => (Field.checksum.name, Json.Tree.text s)).toList ++
    (r.rows.map fun n => (Field.numberOfRows.name, Json.Tree.number (.ofNat n.toNat))).toList

theorem toJson_eq (r : Record) : r.toJson = .object r.documentMembers := rfl

theorem plain_toJson (r : Record) : Json.Value.Plain Json.Document.nestingLimit r.toJson := by
  refine .object fun m hm => ?_
  simp only [Draft.members, List.mem_append, List.mem_cons, List.not_mem_nil, or_false,
    Option.mem_toList, Option.map_eq_some_iff] at hm
  obtain (((rfl | rfl | rfl) | ⟨s, -, rfl⟩) | ⟨s, -, rfl⟩) | ⟨n, -, rfl⟩ := hm
  · exact .number _ r.sequence.toNat_lt
  · exact .text _ _
  · exact .text _ _
  · exact .text _ _
  · exact .text _ _
  · exact .number _ n.toNat_lt

/-- The value that a field of the document holds. -/
def fieldValue? (r : Record) : Field → Option Json.Value
  | .sequenceNumber => some (.number (.ofNat r.sequence.toNat))
  | .dailySequenceNumber => some (.text r.daily.text)
  | .created => some (.text (Rfc3339.text r.created))
  | .fileName => r.fileName.map .text
  | .checksum => r.checksum.map .text
  | .numberOfRows => r.rows.map fun n => .number (.ofNat n.toNat)

theorem value?_documentMembers (r : Record) (field : Field) :
    Schema.value? field r.documentMembers = r.fieldValue? field := by
  obtain ⟨draft, fileName, checksum, rows⟩ := r
  cases field <;> cases fileName <;> cases checksum <;> cases rows <;>
    simp [Schema.value?, documentMembers, fieldValue?, Draft.members, Field.name,
      DailyNumber.toJson]

theorem text_documentMembers {r : Record} {field : Field} (written : Option String)
    {found : Option String} (h : r.fieldValue? field = written.map .text) :
    Schema.text field r.documentMembers = .ok found ↔ found = written ∧ written ≠ some "" := by
  rw [Schema.text, value?_documentMembers, h]
  cases written with
  | none =>
    simp only [Option.map_none, Except.ok.injEq, eq_comm, ne_eq, reduceCtorEq,
      not_false_eq_true, and_true]
  | some s =>
    simp only [Option.map_some, ne_eq, Option.some.injEq]
    split
    · rename_i hs
      simp only [hs, reduceCtorEq, not_true_eq_false, and_false]
    · rename_i hs
      rw [Except.ok.injEq, eq_comm]
      exact (and_iff_left hs).symm

theorem natural?_ofNat {bound n : Nat} (h : n < bound) :
    (Json.Numeral.ofNat n).natural? bound = some n := by
  have hv := Decimal.value_digits n
  simp only [Json.Numeral.natural?, Json.Numeral.ofNat, hv, h, and_self, if_true]

theorem natural_documentMembers {r : Record} {field : Field} (written : Option UInt64)
    {found : Option UInt64}
    (h : r.fieldValue? field = written.map fun n => .number (.ofNat n.toNat)) :
    Schema.natural field r.documentMembers = .ok found ↔ found = written := by
  rw [Schema.natural, value?_documentMembers, h]
  cases written with
  | none => rw [Option.map_none, Except.ok.injEq, eq_comm]
  | some n =>
    have hn : n.toNat < UInt64.size := n.toNat_lt
    simp only [Option.map_some, natural?_ofNat hn, UInt64.ofNat_toNat, Except.ok.injEq, eq_comm]

theorem rfc3339Text_ne_empty {t : Timestamp} (h0 : 0 ≤ t.date.year) (h1 : t.date.year ≤ 9999) :
    Rfc3339.text t ≠ "" := by
  intro h
  have hread := Rfc3339.strict?_text_eq_some_iff.2 ⟨rfl, h0, h1⟩
  rw [h] at hread
  have hnone : Rfc3339.strict? "" = none := by decide
  rw [hnone] at hread
  contradiction

theorem describes_documentMembers {detail : Detail} {r : Record} (h : Acceptable detail r) :
    Schema.Describes r.documentMembers detail r.asRead where
  sequence := (natural_documentMembers _ rfl).2 rfl
  daily := by
    have hne : some r.daily.text ≠ some "" :=
      fun hs => DailyNumber.text_ne_empty _ (Option.some.inj hs)
    exact ⟨_, (text_documentMembers _ rfl).2 ⟨rfl, hne⟩, DailyNumber.ofText?_text _⟩
  created := by
    have hne : some (Rfc3339.text r.created) ≠ some "" :=
      fun hs => rfc3339Text_ne_empty h.year_nonneg h.year_le (Option.some.inj hs)
    have hread := Rfc3339.strict?_text_eq_some_iff.2 ⟨rfl, h.year_nonneg, h.year_le⟩
    exact ⟨_, (text_documentMembers _ rfl).2 ⟨rfl, hne⟩, hread⟩
  fileName := (text_documentMembers _ rfl).2 ⟨rfl, h.fileName_ne_empty⟩
  checksum := (text_documentMembers _ rfl).2 ⟨rfl, h.checksum_ne_empty⟩
  rows := (natural_documentMembers _ rfl).2 rfl
  complete := h.complete
  checksum_of_fileName := h.checksum_of_fileName

/-- The date is read only if its year has four digits. -/
theorem created_of_describes {detail : Detail} {r found : Record}
    (h : Schema.Describes r.documentMembers detail found) :
    found.created = r.created.asRead ∧ 0 ≤ r.created.date.year ∧ r.created.date.year ≤ 9999 := by
  obtain ⟨created, hcreated, ht⟩ := h.created
  have hwritten := ((text_documentMembers (some (Rfc3339.text r.created)) rfl).1 hcreated).1
  rw [Option.some.inj hwritten] at ht
  exact Rfc3339.strict?_text_eq_some_iff.1 ht

/-- The document of a record describes one record only. -/
theorem eq_of_describes {detail : Detail} {r found : Record}
    (h : Schema.Describes r.documentMembers detail found) : found = r.asRead := by
  have hsequence := (natural_documentMembers (some r.sequence) rfl).1 h.sequence
  obtain ⟨daily, hdaily, hn⟩ := h.daily
  have hdaily := ((text_documentMembers (some r.daily.text) rfl).1 hdaily).1
  have htime := (created_of_describes h).1
  have hfile := ((text_documentMembers r.fileName rfl).1 h.fileName).1
  have hchecksum := ((text_documentMembers r.checksum rfl).1 h.checksum).1
  have hrows := (natural_documentMembers r.rows rfl).1 h.rows
  rw [Option.some.inj hdaily, DailyNumber.ofText?_text] at hn
  obtain ⟨⟨sequence, number, time⟩, fileName, checksum, rows⟩ := found
  obtain rfl := Option.some.inj hsequence
  obtain rfl := Option.some.inj hn
  obtain rfl : time = r.created.asRead := htime
  obtain rfl : fileName = r.fileName := hfile
  obtain rfl : checksum = r.checksum := hchecksum
  obtain rfl : rows = r.rows := hrows
  rfl

theorem acceptable_of_describes {detail : Detail} {r : Record}
    (h : Schema.Describes r.documentMembers detail r.asRead) : Acceptable detail r where
  year_nonneg := (created_of_describes h).2.1
  year_le := (created_of_describes h).2.2
  fileName_ne_empty := ((text_documentMembers r.fileName rfl).1 h.fileName).2
  checksum_ne_empty := ((text_documentMembers r.checksum rfl).1 h.checksum).2
  checksum_of_fileName := h.checksum_of_fileName
  complete := h.complete

theorem parse_text_eq_ok_iff {detail : Detail} {r found : Record} :
    parse r.text.toUTF8 detail = .ok found ↔ found = r.asRead ∧ r.Acceptable detail := by
  rw [parse, text, Json.Value.decode?_pretty r.plain_toJson, toJson_eq]
  dsimp only
  rw [Schema.ofMembers_eq_ok_iff]
  constructor
  · intro h
    obtain rfl := eq_of_describes h
    exact ⟨rfl, acceptable_of_describes h⟩
  · rintro ⟨rfl, h⟩
    exact describes_documentMembers h

/-- A record that the schema admits is read back as it was written. -/
theorem parse_text {detail : Detail} {r : Record} (h : Storable detail r) :
    parse r.text.toUTF8 detail = .ok r :=
  parse_text_eq_ok_iff.2 ⟨(asRead_eq_self_iff.2 h.leap_at_minute_end).symm, h.toAcceptable⟩

/-- What a record's file is read as: the record itself, but for a leap second that the text cannot
tell, or else a malformed file. -/
theorem read_text_eq (r : Record) (fileName : String) (detail : Detail) :
    (r.Acceptable detail →
      (parse r.text.toUTF8 detail).mapError (CatalogError.malformed fileName) = .ok r.asRead) ∧
      (r.asRead = r ↔ r.created.LeapAtMinuteEnd) ∧
      (¬r.Acceptable detail → ∃ fault,
        (parse r.text.toUTF8 detail).mapError (CatalogError.malformed fileName) =
          .error (.malformed fileName fault)) := by
  refine ⟨fun h => ?_, asRead_eq_self_iff, fun h => ?_⟩
  · rw [parse_text_eq_ok_iff.2 ⟨rfl, h⟩]
    rfl
  · cases hparse : parse r.text.toUTF8 detail with
    | error fault => exact ⟨fault, rfl⟩
    | ok found => exact absurd (parse_text_eq_ok_iff.1 hparse).2 h

/-- A third of a second past a leap second that comes after second 4. -/
def strangeLeapSecond : Timestamp where
  seconds := 1714996804
  nanos := 1333333333
  offset := .utc
  nanos_lt := by decide

def strangeRecord : Record := ⟨⟨7, .first, strangeLeapSecond⟩, some "TARS7.xml", some "0c", some 1⟩

/-- Its text tells second 5, and this is what another record has. -/
theorem read_text_strange : strangeRecord.Acceptable .full ∧
    Rfc3339.text strangeRecord.created = "2024-05-06T12:00:05.333333333Z" ∧
    ∃ other, other ≠ strangeRecord ∧ parse strangeRecord.text.toUTF8 .full = .ok other := by
  have hacceptable : strangeRecord.Acceptable .full := by
    constructor
    · decide
    · decide
    · decide
    · decide
    · decide
    · decide
  have hother : strangeRecord.asRead ≠ strangeRecord := by
    rw [ne_eq, asRead_eq_self_iff]
    decide
  exact ⟨hacceptable, by decide +kernel, _, hother, parse_text_eq_ok_iff.2 ⟨rfl, hacceptable⟩⟩

end Record

namespace Md5

theorem length_checksum (message : ByteArray) : (checksum message).toList.length = 32 := by
  have hhex (bytes : List UInt8) : (bytes.flatMap hexByte).length = 2 * bytes.length := by
    induction bytes with
    | nil => rfl
    | cons b bytes ih =>
      rw [List.flatMap_cons, List.length_append, ih, List.length_cons, hexByte, List.length_cons,
        List.length_singleton]
      omega
  have hdigest : (digest message).length = 16 := by
    simp only [digest, List.length_flatMap, littleEndian, List.length_map, List.length_range]
    rfl
  rw [checksum, String.toList_ofList, hhex, hdigest]

end Md5

theorem Draft.storable_record {d : Draft} {fileName : String} (content : ByteArray) (rows : UInt64)
    (hcreated : d.created.Writable) (hne : fileName ≠ "") (detail : Detail) :
    (d.record fileName content rows).Storable detail where
  year_nonneg := hcreated.year_nonneg
  year_le := hcreated.year_le
  fileName_ne_empty := fun h => hne (Option.some.inj h)
  checksum_ne_empty := by
    intro h
    have hlen := Md5.length_checksum content
    rw [Option.some.inj h] at hlen
    contradiction
  checksum_of_fileName := fun _ h => Option.some_ne_none _ h
  complete := fun _ => ⟨Option.some_ne_none _, Option.some_ne_none _⟩
  leap_at_minute_end := hcreated.leap_at_minute_end

end ExportLedger
