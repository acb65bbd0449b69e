import ExportLedger.Proofs.Calendar.Strict
import ExportLedger.Proofs.Catalog
import ExportLedger.Proofs.Catalog.Failure
import ExportLedger.Proofs.Json.Reading
/-!
The schema of stored records, told by the last members of a document instead of by its reader, and
that the reader accepts exactly this.
-/
namespace ExportLedger

open Json (Document Literal Numeral Token Value)

namespace Schema

/-- The last member of the field's name. -/
def IsLast (members : Members) (field : Field) (v : Value) : Prop :=
  ∃ front back, members = front ++ (field.name, v) :: back ∧ ∀ m ∈ back, m.1 ≠ field.name

/-- What the members say for a field. A last member that is `null` says as much as no member. -/
inductive Says (members : Members) (field : Field) : Option Value → Prop where
  | value {v : Value} (h : IsLast members field v) (hne : v ≠ .null) : Says members field (some v)
  | null (h : IsLast members field .null) : Says members field none
  | missing (h : ∀ m ∈ members, m.1 ≠ field.name) : Says members field none

/-- The number is an integer of 64 bits without sign, and written as one. -/
structure IsNatural (n : Numeral) (k : UInt64) : Prop where
  negative : n.negative = false
  fraction : n.fraction = []
  exponent : n.exponent = none
  value : Decimal.value n.whole = k.toNat

/-- Nothing, or a string that is not empty. -/
inductive SaysText (members : Members) (field : Field) : Option String → Prop where
  | absent (h : Says members field none) : SaysText members field none
  | text {s : String} (h : Says members field (some (.text s))) (hne : s ≠ "") :
      SaysText members field (some s)

/-- Nothing, or an integer. -/
inductive SaysNatural (members : Members) (field : Field) : Option UInt64 → Prop where
  | absent (h : Says members field none) : SaysNatural members field none
  | number {n : Numeral} {k : UInt64} (h : Says members field (some (.number n)))
      (hn : IsNatural n k) :
    SaysNatural members field (some k)

/-- A string of digits, of which there is at least one. -/
structure IsDailyNumber (s : String) (n : DailyNumber) : Prop where
  ne_empty : s ≠ ""
  digits : ∀ c ∈ s.toList, '0' ≤ c ∧ c ≤ '9'
  value : Decimal.value s.toList = n.value.toNat

/-- The members hold exactly the values of the record, and all that the detail asks for. -/
structure Conforms (members : Members) (detail : Detail) (r : Record) : Prop where
  sequence : SaysNatural members .sequenceNumber (some r.sequence)
  daily : ∃ s, Says members .dailySequenceNumber (some (.text s)) ∧ IsDailyNumber s r.daily
  created : ∃ s moment, Says members .created (some (.text s)) ∧ Rfc3339.Spelling moment s.toList ∧
    moment.Denotes r.created
  fileName : SaysText members .fileName r.fileName
  checksum : SaysText members .checksum r.checksum
  rows : SaysNatural members .numberOfRows r.rows
  complete : detail = .full → r.fileName ≠ none ∧ r.rows ≠ none
  checksum_of_fileName : r.fileName ≠ none → r.checksum ≠ none

variable {members others : Members} {field : Field} {detail : Detail} {r : Record}

theorem find?_eq_none_iff :
    members.reverse.find? (·.1 = field.name) = none ↔ ∀ m ∈ members, m.1 ≠ field.name := by
  simp only [List.find?_eq_none, List.mem_reverse, decide_eq_true_eq, ne_eq]

theorem find?_of_isLast {v : Value} (h : IsLast members field v) :
    members.reverse.find? (·.1 = field.name) = some (field.name, v) := by
  obtain ⟨front, back, rfl, hback⟩ := h
  simp [find?_eq_none_iff.2 hback]

theorem isLast_of_find? {m : String × Value}
    (h : members.reverse.find? (·.1 = field.name) = some m) :
    IsLast members field m.2 := by
  obtain ⟨hname, back, front, hsplit, hback⟩ := List.find?_eq_some_iff_append.1 h
  have hm : m = (field.name, m.2) := Prod.ext (by simpa using hname) rfl
  refine ⟨front.reverse, back.reverse, ?_, ?_⟩
  · rw [← hm, ← List.reverse_reverse members, hsplit]
    simp
  · intro b hb
    simpa using hback b (List.mem_reverse.1 hb)

theorem says_value? (field : Field) (members : Members) :
    Says members field (value? field members) := by
  unfold value?
  split
  · rename_i hnone
    exact .missing (find?_eq_none_iff.1 hnone)
  · rename_i hnull
    exact .null (isLast_of_find? hnull)
  · rename_i v hne hfound
    exact .value (isLast_of_find? hfound) hne

theorem value?_eq_of_says {v? : Option Value} (h : Says members field v?) :
    value? field members = v? := by
  unfold value?
  cases h with
  | value h hne =>
    rw [find?_of_isLast h]
    split
    · contradiction
    · rename_i hnull
      exact absurd (congrArg Prod.snd (Option.some.inj hnull)) hne
    · rename_i hfound
      exact congrArg some (congrArg Prod.snd (Option.some.inj hfound)).symm
  | null h => rw [find?_of_isLast h]
  | missing h => rw [find?_eq_none_iff.2 h]

theorem value?_eq_iff {v? : Option Value} : value? field members = v? ↔ Says members field v? := by
  constructor
  · intro h
    rw [← h]
    exact says_value? field members
  · exact value?_eq_of_says

theorem natural?_eq_some_iff {n : Numeral} {k : UInt64} :
    n.natural? UInt64.size = some k.toNat ↔ IsNatural n k := by
  have hk : k.toNat < UInt64.size := k.toNat_lt
  unfold Numeral.natural?
  constructor
  · intro h
    split at h
    · rename_i hn
      exact ⟨hn.1, hn.2.1, hn.2.2.1, Option.some.inj h⟩
    · contradiction
  · intro h
    rw [if_pos ⟨h.negative, h.fraction, h.exponent, h.value ▸ hk⟩, h.value]

theorem natural?_lt {n : Numeral} {k : Nat} (h : n.natural? UInt64.size = some k) :
    k < UInt64.size := by
  unfold Numeral.natural? at h
  split at h
  · rename_i hn
    exact Option.some.inj h ▸ hn.2.2.2
  · contradiction

theorem natural_eq_ok_iff {found : Option UInt64} :
    natural field members = .ok found ↔ SaysNatural members field found := by
  constructor
  · intro h
    unfold natural at h
    split at h
    · rename_i hnone
      rw [← Except.ok.inj h]
      exact .absent (value?_eq_iff.1 hnone)
    · rename_i n hnumber
      split at h
      · rename_i k hk
        rw [← Except.ok.inj h]
        refine .number (value?_eq_iff.1 hnumber) (natural?_eq_some_iff.1 ?_)
        rw [hk, UInt64.toNat_ofNat_of_lt' (natural?_lt hk)]
      · contradiction
    · contradiction
  · intro h
    unfold natural
    cases h with
    | absent h => rw [value?_eq_iff.2 h]
    | number h hn =>
      rw [value?_eq_iff.2 h]
      dsimp only
      rw [natural?_eq_some_iff.2 hn]
      dsimp only
      rw [UInt64.ofNat_toNat]

theorem text_eq_ok_iff {found : Option String} :
    text field members = .ok found ↔ SaysText members field found := by
  constructor
  · intro h
    unfold text at h
    split at h
    · rename_i hnone
      rw [← Except.ok.inj h]
      exact .absent (value?_eq_iff.1 hnone)
    · rename_i s htext
      split at h
      · contradiction
      · rename_i hne
        rw [← Except.ok.inj h]
        exact .text (value?_eq_iff.1 htext) hne
    · contradiction
  · intro h
    unfold text
    cases h with
    | absent h => rw [value?_eq_iff.2 h]
    | text h hne =>
      rw [value?_eq_iff.2 h]
      dsimp only
      rw [if_neg hne]

theorem isDigit_iff {c : Char} : c.isDigit = true ↔ '0' ≤ c ∧ c ≤ '9' := by
  simp only [Char.isDigit, Bool.and_eq_true, decide_eq_true_eq, ge_iff_le, Char.le_def]

theorem ofText?_eq_some_iff {s : String} {n : DailyNumber} :
    DailyNumber.ofText? s = some n ↔ IsDailyNumber s n := by
  have hempty : s.toList = [] ↔ s = "" := String.toList_eq_nil_iff
  rw [DailyNumber.ofText?_eq_some_iff_natural?, Decimal.natural?_eq_some_iff]
  constructor
  · rintro ⟨hne, hdigits, hvalue, -⟩
    exact ⟨fun hs => hne (hempty.2 hs), fun c hc =>
      isDigit_iff.1 (List.all_eq_true.1 hdigits c hc), hvalue⟩
  · intro h
    have hdigits : s.toList.all Char.isDigit :=
      List.all_eq_true.2 fun c hc => isDigit_iff.2 (h.digits c hc)
    exact ⟨fun hs => h.ne_empty (hempty.1 hs), hdigits, h.value, n.value.toNat_lt⟩

theorem text_eq_ok_some_iff {s : String} :
    text field members = .ok (some s) ↔ Says members field (some (.text s)) ∧ s ≠ "" := by
  rw [text_eq_ok_iff]
  constructor
  · intro h
    cases h with
    | text h hne => exact ⟨h, hne⟩
  · intro h
    exact .text h.1 h.2

theorem strict?_ne_empty {s : String} {t : Timestamp} (h : Rfc3339.strict? s = some t) :
    s ≠ "" := by
  intro hs
  have hnone : Rfc3339.strict? "" = none := by decide
  rw [hs, hnone] at h
  contradiction

/-- The reader's conditions are those of the schema. -/
theorem describes_iff_conforms : Describes members detail r ↔ Conforms members detail r := by
  constructor
  · intro h
    refine ⟨natural_eq_ok_iff.1 h.sequence, ?_, ?_, text_eq_ok_iff.1 h.fileName,
      text_eq_ok_iff.1 h.checksum, natural_eq_ok_iff.1 h.rows, h.complete, h.checksum_of_fileName⟩
    · obtain ⟨s, hs, hn⟩ := h.daily
      exact ⟨s, (text_eq_ok_some_iff.1 hs).1, ofText?_eq_some_iff.1 hn⟩
    · obtain ⟨s, hs, ht⟩ := h.created
      obtain ⟨moment, hspelling, hdenotes⟩ := Rfc3339.strict?_eq_some_iff.1 ht
      exact ⟨s, moment, (text_eq_ok_some_iff.1 hs).1, hspelling, hdenotes⟩
  · intro h
    refine ⟨natural_eq_ok_iff.2 h.sequence, ?_, ?_, text_eq_ok_iff.2 h.fileName,
      text_eq_ok_iff.2 h.checksum, natural_eq_ok_iff.2 h.rows, h.complete, h.checksum_of_fileName⟩
    · obtain ⟨s, hs, hn⟩ := h.daily
      exact ⟨s, text_eq_ok_some_iff.2 ⟨hs, hn.ne_empty⟩, ofText?_eq_some_iff.2 hn⟩
    · obtain ⟨s, moment, hs, hspelling, hdenotes⟩ := h.created
      have ht := Rfc3339.strict?_eq_some_iff.2 ⟨moment, hspelling, hdenotes⟩
      exact ⟨s, text_eq_ok_some_iff.2 ⟨hs, strict?_ne_empty ht⟩, ht⟩

/-- Values that the schema does not tell apart: equal ones, numbers that are the same integer or
both none, and any two arrays or objects. -/
inductive Alike : Option Value → Option Value → Prop where
  | refl (v? : Option Value) : Alike v? v?
  | number {n m : Numeral} (h : ∀ k, IsNatural n k ↔ IsNatural m k) :
      Alike (some (.number n)) (some (.number m))
  | array (items others : List Value) : Alike (some (.array items)) (some (.array others))
  | object (members others : Members) : Alike (some (.object members)) (some (.object others))

/-- For each field, both say the same. -/
def Agree (members others : Members) : Prop :=
  ∀ field : Field, ∃ v? w?, Says members field v? ∧ Says others field w? ∧ Alike v? w?

theorem agree_of_value?_eq (h : ∀ field, value? field members = value? field others) :
    Agree members others := by
  intro field
  have hothers := says_value? field others
  rw [← h field] at hothers
  exact ⟨_, _, says_value? field members, hothers, .refl _⟩

theorem natural?_congr {n m : Numeral} (h : ∀ k, IsNatural n k ↔ IsNatural m k) :
    n.natural? UInt64.size = m.natural? UInt64.size := by
  have himp {n m : Numeral} (h : ∀ k, IsNatural n k ↔ IsNatural m k) {k : Nat}
      (hk : n.natural? UInt64.size = some k) : m.natural? UInt64.size = some k := by
    obtain ⟨k, rfl⟩ : ∃ j : UInt64, j.toNat = k :=
      ⟨.ofNat k, UInt64.toNat_ofNat_of_lt' (natural?_lt hk)⟩
    exact natural?_eq_some_iff.2 ((h k).1 (natural?_eq_some_iff.1 hk))
  exact Option.ext fun k => ⟨himp h, himp fun k => (h k).symm⟩

theorem natural_congr (h : Agree members others) (field : Field) :
    natural field members = natural field others := by
  obtain ⟨v?, w?, hv, hw, halike⟩ := h field
  unfold natural
  rw [value?_eq_iff.2 hv, value?_eq_iff.2 hw]
  cases halike with
  | refl => rfl
  | number h =>
    dsimp only
    rw [natural?_congr h]
  | array => rfl
  | object => rfl

theorem text_congr (h : Agree members others) (field : Field) :
    text field members = text field others := by
  obtain ⟨v?, w?, hv, hw, halike⟩ := h field
  unfold text
  rw [value?_eq_iff.2 hv, value?_eq_iff.2 hw]
  cases halike with
  | refl => rfl
  | number => rfl
  | array => rfl
  | object => rfl

/-- The schema asks for nothing but what the members say for its fields. -/
theorem ofMembers_congr (h : Agree members others) (detail : Detail) :
    ofMembers members detail = ofMembers others detail := by
  unfold ofMembers
  simp only [natural_congr h, text_congr h]

end Schema

namespace Record

/-- The bytes are a JSON text, and it stands for an object with these members. So arrays and objects
are nested at most 127 deep, each number is in the range of a double, and no string holds half a
surrogate pair. -/
def IsObject (bytes : ByteArray) (members : Schema.Members) : Prop :=
  ∃ s d, bytes = s.toUTF8 ∧ Document.SpelledBy s d ∧
    Document.value? Document.nestingLimit d = some (.object members)

theorem decode?_eq_object_iff {bytes : ByteArray} {members : Schema.Members} :
    Document.decode? (Document.value? Document.nestingLimit) bytes = some (.object members) ↔
      IsObject bytes members :=
  Document.decode?_value?_eq_some_iff

theorem parse_eq_of_isObject {bytes : ByteArray} {members : Schema.Members}
    (h : IsObject bytes members) (detail : Detail) :
    parse bytes detail = Schema.ofMembers members detail := by
  rw [parse, decode?_eq_object_iff.2 h]

theorem parse_of_no_value {s : String} {d : Document} (h : Document.SpelledBy s d)
    (hnone : Document.value? Document.nestingLimit d = none) (detail : Detail) :
    parse s.toUTF8 detail = .error .notJson := by
  have hbytes : Document.ofBytes? s.toUTF8 = some d := by
    rw [Document.ofBytes?_eq_some_iff, Text.characters_toUTF8]
    exact h
  rw [parse, Document.decode?, hbytes, Option.bind_some, hnone]

theorem parse_ok_iff {bytes : ByteArray} {detail : Detail} {r : Record} :
    parse bytes detail = .ok r ↔ ∃ members, IsObject bytes members ∧
      Schema.Conforms members detail r := by
  simp only [parse_eq_ok_iff, Schema.describes_iff_conforms, decode?_eq_object_iff]

theorem checksum_of_parse {bytes : ByteArray} {detail : Detail} {r : Record}
    (h : parse bytes detail = .ok r) (hfile : r.fileName ≠ none) :
    ∃ sum, r.checksum = some sum ∧ sum ≠ "" := by
  obtain ⟨members, -, hconforms⟩ := parse_ok_iff.1 h
  have hne := hconforms.checksum_of_fileName hfile
  have hsays := hconforms.checksum
  cases hsum : r.checksum with
  | none => exact absurd hsum hne
  | some sum =>
    rw [hsum] at hsays
    cases hsays with
    | text _ hne => exact ⟨sum, rfl, hne⟩

theorem checksum_of_latestRecord [Container σ] {family : Family} {s : σ} {r : Record}
    (h : Catalog.latestRecord family s = .ok r) (hfile : r.fileName ≠ none) :
    ∃ sum, r.checksum = some sum ∧ sum ≠ "" := by
  obtain ⟨name, -, hload⟩ := Catalog.latestRecord_eq_ok_iff.1 h
  obtain ⟨bytes, -, hparse⟩ := Catalog.load_eq_ok_iff.1 hload
  exact checksum_of_parse hparse hfile

/-- The reader accepts the schema and nothing else; what it returns with a file name also has a
checksum, so the latest record of a container has one whenever its file is looked at; and of two
objects that say the same for each field it makes the same. -/
theorem parse_conforms :
    (∀ bytes detail r, parse bytes detail = .ok r ↔
      ∃ members, IsObject bytes members ∧ Schema.Conforms members detail r) ∧
    (∀ bytes detail r, parse bytes detail = .ok r → r.fileName ≠ none →
      ∃ sum, r.checksum = some sum ∧ sum ≠ "") ∧
    (∀ (σ : Type) [Container σ] (family : Family) (s : σ) (r : Record),
      Catalog.latestRecord family s = .ok r →
      r.fileName ≠ none → ∃ sum, r.checksum = some sum ∧ sum ≠ "") ∧
    ∀ bytes others members otherMembers, IsObject bytes members → IsObject others otherMembers →
      Schema.Agree members otherMembers → ∀ detail fileName,
        (parse bytes detail).mapError (CatalogError.malformed fileName) =
          (parse others detail).mapError (CatalogError.malformed fileName) := by
  refine ⟨fun _ _ _ => parse_ok_iff, fun _ _ _ => checksum_of_parse, ?_, ?_⟩
  · intro σ _ family s r h
    exact checksum_of_latestRecord h
  · intro bytes others members otherMembers hbytes hothers hagree detail fileName
    rw [parse_eq_of_isObject hbytes, parse_eq_of_isObject hothers, Schema.ofMembers_congr hagree]

def storedRecord : Record where
  sequence := 7
  daily := ⟨3⟩
  created := .noonOf 19849
  fileName := some "a.xml"
  checksum := some "0c"
  rows := some 2

/-- In another order, with a member that no record has and a checksum that is replaced. -/
def rewrittenMembers : Schema.Members :=
  [("note", .array [.null]), ("checksum", .number (.ofNat 5)),
    ("created", .text "2024-05-06T12:00:00Z"), ("numberOfRows", .number (.ofNat 2)),
    ("fileName", .text "a.xml"), ("dailySequenceNumber", .text "003"), ("checksum", .text "0c"),
    ("sequenceNumber", .number (.ofNat 7))]

def rewritten : String :=
  "\x7b\"note\":[null],\"checksum\":5, \"created\" : \"2024-05-06T12:00:00Z\"," ++
    "\t\"numberOfRows\":2,\"fileName\":\"a.xml\",\"dailySequenceNumber\":\"003\"," ++
    "\"checksum\":\"0c\",\"sequenceNumber\":7\x7d"

theorem storable_storedRecord (detail : Detail) : storedRecord.Storable detail where
  year_nonneg := by decide
  year_le := by decide
  fileName_ne_empty := by decide
  checksum_ne_empty := by decide
  checksum_of_fileName := nofun
  complete := fun _ => ⟨nofun, nofun⟩
  leap_at_minute_end := by decide

theorem isObject_text (r : Record) : IsObject r.text.toUTF8 r.documentMembers :=
  decode?_eq_object_iff.1 (Value.decode?_pretty r.plain_toJson)

theorem plain_rewrittenMembers : Value.Plain Document.nestingLimit (.object rewrittenMembers) := by
  refine .object fun m hm => ?_
  have hnulls : ∀ v ∈ [Json.Tree.null], Value.Plain (Document.nestingLimit - 2) v := by
    intro v hv
    rw [List.mem_singleton.1 hv]
    exact .null _
  simp only [rewrittenMembers, List.mem_cons, List.not_mem_nil, or_false] at hm
  rcases hm with rfl | rfl | rfl | rfl | rfl | rfl | rfl | rfl
  · exact .array hnulls
  · exact .number _ (by decide)
  · exact .text _ _
  · exact .number _ (by decide)
  · exact .text _ _
  · exact .text _ _
  · exact .text _ _
  · exact .number _ (by decide)

theorem isObject_rewritten : IsObject rewritten.toUTF8 rewrittenMembers := by
  have hscan : Token.scan (rewritten.toList.map some) =
      some (Value.written (.object rewrittenMembers)).tokens := by
    decide +kernel
  exact ⟨_, _, rfl, Token.scan_eq_some_iff.1 hscan, plain_rewrittenMembers.value?_written⟩

theorem agree_rewritten : Schema.Agree storedRecord.documentMembers rewrittenMembers := by
  refine Schema.agree_of_value?_eq fun field => ?_
  have hdaily : DailyNumber.text ⟨3⟩ = "003" := by decide
  have hcreated : Rfc3339.text (.noonOf 19849) = "2024-05-06T12:00:00Z" := by decide +kernel
  rw [value?_documentMembers]
  cases field <;>
    simp [fieldValue?, hdaily, hcreated, storedRecord, Schema.value?, rewrittenMembers, Field.name]

theorem parse_conforms_rewritten :
    (∃ members, IsObject storedRecord.text.toUTF8 members ∧
      Schema.Conforms members .full storedRecord) ∧
    (∃ sum, storedRecord.checksum = some sum ∧ sum ≠ "") ∧
    (parse rewritten.toUTF8 .full).mapError (CatalogError.malformed "7-TARS.json") =
      .ok storedRecord := by
  obtain ⟨hiff, -, hsum, hsame⟩ := parse_conforms
  have hstored := parse_text (storable_storedRecord .full)
  have hequal := hsame _ _ _ _ (isObject_text storedRecord) isObject_rewritten agree_rewritten .full
    "7-TARS.json"
  have hdashed : Family.standard.Dashed := rfl
  have hlatest :=
    Catalog.latestRecord_save hdashed (Memory.healthy_new "metadata") (storable_storedRecord _) rfl
  rw [hstored] at hequal
  exact ⟨(hiff _ _ _).1 hstored, hsum _ _ _ _ hlatest nofun, hequal.symm⟩

/-- Those of `storedRecord`. -/
def timedMembers (created : List Char) : Schema.Members :=
  [("sequenceNumber", .number (.ofNat 7)), ("dailySequenceNumber", .text "003"),
    ("created", .text (.ofList created)), ("fileName", .text "a.xml"), ("checksum", .text "0c"),
    ("numberOfRows", .number (.ofNat 2))]

def annotatedMembers (note : Document) (created : List Char) : List (Literal × Document) :=
  (.ofString "note", note) :: Value.writtenMembers (timedMembers created)

def annotated (note created : List Char) : List Char :=
  "\x7b\"note\":".toList ++ note ++
    ",\"sequenceNumber\":7,\"dailySequenceNumber\":\"003\",\"created\":\"".toList ++
    created ++ "\",\"fileName\":\"a.xml\",\"checksum\":\"0c\",\"numberOfRows\":2\x7d".toList

def noon : List Char := "2024-05-06T12:00:00Z".toList

/-- As `noon`, with the minus sign of typography. -/
def dashedNoon : List Char := "2024-05-06T12:00:00−00:00".toList

/-- So many arrays around an empty one. -/
def nest : Nat → Document
  | 0 => .array []
  | depth + 1 => .array [nest depth]

/-- Documents that have no value as members of an object: arrays nested too deep, a number that no
double comes near, and half a surrogate pair. -/
def strangeNotes : List (List Char × Document) :=
  [(List.replicate 127 '[' ++ List.replicate 127 ']', nest 126),
    (['1', 'e', '4', '0', '0'], .number ⟨false, ['1'], [], some (false, ['4', '0', '0'])⟩),
    (['"', '\\', 'u', 'd', '8', '0', '0', '"'], .text [.codeUnit 0xD800])]

theorem spelledBy_annotated {text created : List Char} {note : Document}
    (h : Token.scan ((annotated text created).map some) =
      some (Document.tokens (.object (annotatedMembers note created)))) :
    Document.SpelledBy (.ofList (annotated text created))
      (.object (annotatedMembers note created)) := by
  rw [Document.SpelledBy, String.toList_ofList]
  exact Token.scan_eq_some_iff.1 h

theorem value?_annotatedMembers (created : List Char) :
    Document.value? Document.nestingLimit (.object (annotatedMembers .null created)) =
      some (.object (("note", .null) :: timedMembers created)) := by
  have hplain :
      Value.Plain Document.nestingLimit (.object (("note", .null) :: timedMembers created)) := by
    refine .object fun m hm => ?_
    simp only [timedMembers, List.mem_cons, List.not_mem_nil, or_false] at hm
    rcases hm with rfl | rfl | rfl | rfl | rfl | rfl | rfl
    · exact .null _
    · exact .number _ (by decide)
    · exact .text _ _
    · exact .text _ _
    · exact .text _ _
    · exact .text _ _
    · exact .number _ (by decide)
  exact hplain.value?_written

/-- Objects with all members of `storedRecord` are refused for their note, and a time that is not
all ASCII is taken. -/
theorem parse_strange_documents :
    (Document.SpelledBy (.ofList (annotated "null".toList noon))
      (.object (annotatedMembers .null noon)) ∧
      parse (String.ofList (annotated "null".toList noon)).toUTF8 .full = .ok storedRecord) ∧
    (∀ note ∈ strangeNotes,
      Document.SpelledBy (.ofList (annotated note.1 noon))
        (.object (annotatedMembers note.2 noon)) ∧
      parse (String.ofList (annotated note.1 noon)).toUTF8 .full = .error .notJson) ∧
    '−' ∈ dashedNoon ∧
      parse (String.ofList (annotated "null".toList dashedNoon)).toUTF8 .full =
        .ok storedRecord := by
  have hscans : ∀ note ∈ strangeNotes, Token.scan ((annotated note.1 noon).map some) =
      some (Document.tokens (.object (annotatedMembers note.2 noon))) := by
    decide +kernel
  have hvalues : ∀ note ∈ strangeNotes,
      (Document.value? Document.nestingLimit (.object (annotatedMembers note.2 noon))).isNone := by
    decide +kernel
  have hplain : Document.SpelledBy (.ofList (annotated "null".toList noon))
      (.object (annotatedMembers .null noon)) :=
    spelledBy_annotated (by decide +kernel)
  have hdashed : Document.SpelledBy (.ofList (annotated "null".toList dashedNoon))
      (.object (annotatedMembers .null dashedNoon)) := spelledBy_annotated (by decide +kernel)
  refine ⟨⟨hplain, ?_⟩, fun note hnote => ?_, by decide +kernel, ?_⟩
  · rw [parse_eq_of_isObject ⟨_, _, rfl, hplain, value?_annotatedMembers noon⟩]
    decide +kernel
  · have hstrange := spelledBy_annotated (hscans note hnote)
    exact ⟨hstrange,
      parse_of_no_value hstrange (Option.isNone_iff_eq_none.1 (hvalues note hnote)) .full⟩
  · rw [parse_eq_of_isObject ⟨_, _, rfl, hdashed, value?_annotatedMembers dashedNoon⟩]
    decide +kernel

end Record

end ExportLedger
