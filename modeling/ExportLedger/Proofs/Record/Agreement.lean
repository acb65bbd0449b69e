import ExportLedger.Proofs.Calendar.Relaxed
import ExportLedger.Proofs.Json.Fields
import ExportLedger.Proofs.Record.Acceptance
import ExportLedger.Record.Decoding
/-!
The two readers of a stored record never tell different records. What the schema accepts, the plain
reader takes as the same record, unless the document repeats a member that a record knows.
-/
namespace ExportLedger

open Json (Document Slot Value)

namespace Schema

theorem value?_eq (field : Field) (members : Members) : value? field members =
    match (Document.named field.name members).getLast? with
    | none | some .null => none
    | some v => some v := by
  rw [Document.named, List.getLast?_map, List.getLast?_filter, value?]
  cases members.reverse.find? (·.1 = field.name) with
  | none => rfl
  | some m =>
    obtain ⟨name, v⟩ := m
    cases v <;> rfl

variable {limit : Nat} {members : Document.Named} {values : Members} {slot : Slot} {field : Field}

/-- A name that occurs only once has the same value for both readers. -/
theorem holds_slot (hvalues : members.Values limit values)
    (h : Document.slot? members field.name = some slot) :
    slot.Holds (value? field values) := by
  have hnamed := hvalues.named field.name
  rw [value?_eq]
  unfold Document.slot? at h
  split at h
  · rename_i hnil
    rw [hnil, List.forall₂_nil_left_iff] at hnamed
    rw [← Option.some.inj h, hnamed]
    exact .omitted
  · rename_i d hone
    rw [hone] at hnamed
    obtain ⟨v, vs, hstands, hvs, hv⟩ := List.forall₂_cons_left_iff.1 hnamed
    rw [List.forall₂_nil_left_iff.1 hvs] at hv
    rw [← Option.some.inj h, hv, List.getLast?_singleton]
    cases hstands with
    | null => exact .null
    | bool b => exact .given (.bool b) nofun
    | number n => exact .given (.number n) nofun
    | text hl => exact .given (.text hl) nofun
    | array items values => exact .given (.array items values) nofun
    | object hwritten hmembers => exact .given (.object hwritten hmembers) nofun
  · contradiction

theorem trailing_of_text {found : Option String} (hslot : slot.Holds (value? field values))
    (h : text field values = .ok found) : slot.trailing Document.text? = some found := by
  unfold text at h
  generalize value? field values = v? at h hslot
  cases hslot with
  | omitted => rw [← Except.ok.inj h]; rfl
  | null => rw [← Except.ok.inj h]; rfl
  | given hstands hne =>
    cases hstands with
    | text hl =>
      dsimp only at h
      split at h
      · contradiction
      · rw [← Except.ok.inj h]
        exact (Slot.trailing_given (d := .text _) nofun).trans (congrArg (Option.map some) hl)
    | null => contradiction
    | bool b => contradiction
    | number n => contradiction
    | array items values => contradiction
    | object hwritten hmembers => contradiction

theorem trailing_of_natural {found : Option UInt64} (hslot : slot.Holds (value? field values))
    (h : natural field values = .ok found) : slot.trailing Document.uint64? = some found := by
  unfold natural at h
  generalize value? field values = v? at h hslot
  cases hslot with
  | omitted => rw [← Except.ok.inj h]; rfl
  | null => rw [← Except.ok.inj h]; rfl
  | given hstands hne =>
    cases hstands with
    | number n =>
      dsimp only at h
      split at h
      · rename_i m hm
        have hread : Document.uint64? (.number n) = some (.ofNat m) :=
          congrArg (Option.map UInt64.ofNat) hm
        rw [← Except.ok.inj h]
        exact (Slot.trailing_given (d := .number n) nofun).trans (congrArg (Option.map some) hread)
      · contradiction
    | null => contradiction
    | bool b => contradiction
    | text hl => contradiction
    | array items values => contradiction
    | object hwritten hmembers => contradiction

end Schema

namespace Record

/-- Each name that a record knows stands at most once in the document. -/
def KnownOnce (bytes : ByteArray) : Prop :=
  ∀ members, Document.ofBytes? bytes = some (.object members) →
    ∀ field : Field, (members.filter fun m => m.1.text? = some field.name).length ≤ 1

variable {members : Document.Named} {written : List (Json.Literal × Document)} {slot : Field → Slot}
  {r found : Record}

theorem mem_fields (field : Field) : field ∈ fields := by
  cases field <;> decide

theorem fields?_eq_map (hnamed : Document.named? written = some members)
    (hslot : ∀ field : Field, Document.slot? members field.name = some (slot field)) :
    Document.fields? (fields.map Field.name) (.object written) = some (fields.map slot) := by
  rw [Document.fields?_object_eq_some_iff hnamed, List.forall₂_map_left_iff,
    List.forall₂_map_right_iff, List.forall₂_same]
  exact fun field _ => hslot field

/-- The plain reader, once every field has its slot. -/
theorem ofJson?_of_describes {limit : Nat} {values : Schema.Members} {detail : Detail}
    (hnamed : Document.named? written = some members) (hvalues : members.Values limit values)
    (hslot : ∀ field : Field, Document.slot? members field.name = some (slot field))
    (h : Schema.Describes values detail r) : ofJson? (.object written) = some r := by
  have hholds (field : Field) := Schema.holds_slot hvalues (hslot field)
  have hsequence := Slot.required_of_trailing (Schema.trailing_of_natural (hholds _) h.sequence)
  obtain ⟨daily, hdaily, hn⟩ := h.daily
  have hdaily := Slot.required_of_trailing (Schema.trailing_of_text (hholds _) hdaily)
  obtain ⟨created, hcreated, ht⟩ := h.created
  have hcreated := Slot.required_of_trailing (Schema.trailing_of_text (hholds _) hcreated)
  have hnumber : (slot .dailySequenceNumber).required DailyNumber.ofJson? = some r.daily :=
    (Slot.required_bind hdaily).trans hn
  have htime : (slot .created).required timestamp? = some r.created :=
    (Slot.required_bind hcreated).trans (Rfc3339.relaxed?_of_strict? ht)
  have hfile := Schema.trailing_of_text (hholds _) h.fileName
  have hchecksum := Schema.trailing_of_text (hholds _) h.checksum
  have hrows := Schema.trailing_of_natural (hholds _) h.rows
  rw [ofJson?, fields?_eq_map hnamed hslot]
  simp only [fields, Draft.fields, List.cons_append, List.nil_append, List.map_cons, List.map_nil,
    Option.bind_eq_bind, Option.bind_some, hsequence, hnumber, htime, hfile, hchecksum, hrows]

theorem knownOnce_iff {bytes : ByteArray}
    (hbytes : Document.ofBytes? bytes = some (.object written))
    (hnamed : Document.named? written = some members) :
    KnownOnce bytes ↔ ∀ field : Field, ∃ slot, Document.slot? members field.name = some slot := by
  simp only [Document.exists_slot?_iff, Document.length_named hnamed]
  constructor
  · intro h
    exact h written hbytes
  · intro h found hfound
    rw [hbytes] at hfound
    cases hfound
    exact h

/-- The plain reader takes nothing in which a name that it knows is repeated. -/
theorem exists_slot?_of_ofJson? (hnamed : Document.named? written = some members)
    (h : ofJson? (.object written) = some found) (field : Field) :
    ∃ slot, Document.slot? members field.name = some slot := by
  obtain ⟨slots, hslots, -⟩ := Option.bind_eq_some_iff.1 h
  have hfields := (Document.fields?_object_eq_some_iff hnamed).1 hslots
  rw [List.forall₂_map_left_iff] at hfields
  have heach := hfields.imp fun (field : Field) slot hslot =>
    And.intro
      (Exists.intro slot hslot : ∃ slot, Document.slot? members field.name = some slot) hslot
  exact ((List.forall₂_and_left fields slots).1 heach).1 field (mem_fields field)

/-- Where the schema accepts a document, the plain reader tells the same record, or else rejects the
document for a repeated name. -/
theorem decode?_iff_of_parse {bytes : ByteArray} {detail : Detail}
    (h : parse bytes detail = .ok r) :
    Document.decode? ofJson? bytes = some found ↔ found = r ∧ KnownOnce bytes := by
  obtain ⟨values, hread, hdescribes⟩ := parse_eq_ok_iff.1 h
  obtain ⟨d, hbytes, hvalue⟩ := Option.bind_eq_some_iff.1 hread
  cases Document.stands_of_value? hvalue with
  | @object limit written members _ hnamed hvalues =>
    have htell (hslots : ∀ field : Field, ∃ slot, Document.slot? members field.name = some slot) :
        ofJson? (.object written) = some r := by
      choose slot hslot using hslots
      exact ofJson?_of_describes hnamed hvalues hslot hdescribes
    rw [Document.decode?, hbytes, Option.bind_some, knownOnce_iff hbytes hnamed]
    constructor
    · intro hfound
      have hslots := exists_slot?_of_ofJson? hnamed hfound
      rw [htell hslots] at hfound
      exact ⟨(Option.some.inj hfound).symm, hslots⟩
    · rintro ⟨rfl, hslots⟩
      exact htell hslots

def noted : ByteArray :=
  ("\x7b\"note\":1,\"sequenceNumber\":7,\"dailySequenceNumber\":\"003\"," ++
    "\"created\":\"2024-05-06T12:00:00Z\",\"checksum\":null,\"note\":2\x7d").toUTF8

/-- As `noted`, with a checksum that is taken back. -/
def renoted : ByteArray :=
  ("\x7b\"sequenceNumber\":7,\"dailySequenceNumber\":\"003\"," ++
    "\"created\":\"2024-05-06T12:00:00Z\",\"checksum\":\"a\",\"checksum\":null\x7d").toUTF8

def notedRecord : Record where
  sequence := 7
  daily := ⟨3⟩
  created := .noonOf 19849
  fileName := none
  checksum := none
  rows := none

theorem decode?_iff_of_parse_noted :
    (parse noted .basic = .ok notedRecord ∧ Document.decode? ofJson? noted = some notedRecord ∧
      KnownOnce noted) ∧
      parse renoted .basic = .ok notedRecord ∧ Document.decode? ofJson? renoted = none ∧
      ¬KnownOnce renoted := by
  have hnoted : parse noted .basic = .ok notedRecord ∧
      Document.decode? ofJson? noted = some notedRecord := by
    decide +kernel
  have hrenoted : parse renoted .basic = .ok notedRecord ∧
      Document.decode? ofJson? renoted = none := by
    decide +kernel
  refine ⟨⟨hnoted.1, hnoted.2, ((decode?_iff_of_parse hnoted.1).1 hnoted.2).2⟩, hrenoted.1,
    hrenoted.2, ?_⟩
  intro honce
  have htold := (decode?_iff_of_parse hrenoted.1).2 ⟨rfl, honce⟩
  rw [hrenoted.2] at htold
  cases htold

end Record

end ExportLedger
