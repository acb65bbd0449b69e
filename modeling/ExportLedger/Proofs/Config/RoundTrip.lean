import ExportLedger.Config.Document
import ExportLedger.Proofs.Json.Written
import ExportLedger.Proofs.Record.RoundTrip
/-!
Configurations survive being written and read, except for the secret key, which is not written.
-/
namespace ExportLedger

open Json (Document Slot Value)
open Json.Value (written Plain)

theorem plain_optionalText (limit : Nat) (s : Option String) : Plain limit (optionalText s) := by
  cases s with
  | none => exact .null limit
  | some s => exact .text limit s

theorem plain_naturalValue (limit : Nat) (n : UInt64) : Plain limit (naturalValue n) :=
  .number limit n.toNat_lt

theorem text?_written (s : String) : Document.text? (written (.text s)) = some s :=
  Json.Literal.text?_ofString s

theorem optional_text?_written (s : Option String) :
    (Slot.given (written (optionalText s))).optional Document.text? = some s := by
  cases s with
  | none => rfl
  | some s => exact congrArg (Option.map some) (text?_written s)

theorem uint64?_written (n : UInt64) : Document.uint64? (written (naturalValue n)) = some n := by
  have hn : n.toNat < UInt64.size := n.toNat_lt
  change ((Json.Numeral.ofNat n.toNat).natural? UInt64.size).map UInt64.ofNat = some n
  rw [Record.natural?_ofNat hn, Option.map_some, UInt64.ofNat_toNat]

theorem DailyNumber.ofJson?_written (n : DailyNumber) : ofJson? (written n.toJson) = some n := by
  rw [ofJson?, toJson, text?_written, Option.bind_some, ofText?_text]

namespace Family

theorem plain_toJson (limit : Nat) (family : Family) : Plain (limit + 1) family.toJson := by
  refine .object fun m hm => ?_
  rw [List.mem_cons, List.mem_singleton] at hm
  rcases hm with rfl | rfl <;> exact .text _ _

theorem ofValue?_toJson (family : Family) : ofValue? family.toJson = some family := by
  cases family <;> rfl

theorem ofJson?_written {enclosing : Nat} (h : enclosing < Document.nestingLimit)
    (family : Family) :
    ofJson? enclosing (written family.toJson) = some family := by
  obtain ⟨limit, hlimit⟩ : ∃ limit, Document.nestingLimit - enclosing = limit + 1 :=
    ⟨_, (Nat.succ_pred (Nat.sub_ne_zero_of_lt h)).symm⟩
  rw [ofJson?, hlimit, (family.plain_toJson limit).value?_written, Option.bind_some,
    ofValue?_toJson]

end Family

theorem plain_objectOf {limit : Nat} {names : List String} {values : List Value}
    (h : ∀ v ∈ values, Plain limit v) :
    Plain (limit + 1) (objectOf names values) :=
  .object fun m hm => h m.2 (List.of_mem_zip hm).2

section Sections

variable {names : List String} {values : List Value} (hnames : names.Nodup)
  (hlen : names.length = values.length)

include hnames hlen

theorem fields?_objectOf (asked : List String) :
    Document.fields? asked (written (objectOf names values)) =
      some (asked.map (Document.writtenSlot (names.zip values))) := by
  apply Document.fields?_written
  rw [List.map_fst_zip (Nat.le_of_eq hlen)]
  exact hnames

/-- Whoever asks for all that was written is given all of it. -/
theorem fields?_objectOf_self : Document.fields? names (written (objectOf names values)) =
    some (values.map fun v => .given (written v)) := by
  rw [fields?_objectOf hnames hlen, Option.some.injEq]
  refine List.ext_getElem (by simpa using hlen) fun i hi hi' => ?_
  rw [List.length_map] at hi hi'
  have hmem : (names[i], values[i]) ∈ names.zip values := by
    rw [← List.getElem_zip (h := by rw [List.length_zip]; omega)]
    exact List.getElem_mem _
  have hnodup : ((names.zip values).map Prod.fst).Nodup := by
    rw [List.map_fst_zip (Nat.le_of_eq hlen)]
    exact hnames
  rw [List.getElem_map, List.getElem_map, Document.writtenSlot_of_mem hnodup hmem]

end Sections

namespace RecordSettings

theorem plain_toJson (limit : Nat) (c : RecordSettings) : Plain (limit + 2) c.toJson := by
  refine plain_objectOf ?_
  simp only [List.forall_mem_cons]
  exact ⟨c.family.plain_toJson limit, plain_naturalValue _ _, .text _ _, List.forall_mem_nil _⟩

theorem ofJson?_written (c : RecordSettings) : ofJson? (written c.toJson) = some c := by
  have hfamily := Family.ofJson?_written (show 2 < Document.nestingLimit by decide) c.family
  rw [ofJson?, toJson, fields?_objectOf_self (by decide) rfl]
  simp only [List.map_cons, List.map_nil, Slot.required, Option.bind_eq_bind,
    Option.bind_some, hfamily, uint64?_written, DailyNumber.ofJson?_written]

end RecordSettings

namespace ShareSettings

theorem plain_toJson (limit : Nat) (c : ShareSettings) : Plain (limit + 1) c.toJson := by
  refine plain_objectOf ?_
  simp only [List.forall_mem_cons]
  exact ⟨.text _ _, .text _ _, .text _ _, plain_naturalValue _ _, List.forall_mem_nil _⟩

theorem ofJson?_written (c : ShareSettings) : ofJson? (written c.toJson) = some c := by
  rw [ofJson?, toJson, fields?_objectOf_self (by decide) rfl]
  simp only [List.map_cons, List.map_nil, Slot.required, Option.bind_eq_bind, Option.bind_some,
    text?_written, uint64?_written]

end ShareSettings

namespace HousekeepingSettings

theorem plain_toJson (limit : Nat) (c : HousekeepingSettings) : Plain (limit + 1) c.toJson := by
  refine plain_objectOf ?_
  simp only [List.forall_mem_cons]
  exact ⟨plain_naturalValue _ _, plain_optionalText _ _, List.forall_mem_nil _⟩

theorem ofJson?_written (c : HousekeepingSettings) : ofJson? (written c.toJson) = some c := by
  rw [ofJson?, toJson, fields?_objectOf_self (by decide) rfl]
  simp only [List.map_cons, List.map_nil, Slot.required, Option.bind_eq_bind, Option.bind_some,
    uint64?_written, optional_text?_written]

end HousekeepingSettings

namespace StorageSettings

def withoutSecret (c : StorageSettings) : StorageSettings := { c with secretKey := none }

theorem plain_toJson (limit : Nat) (c : StorageSettings) : Plain (limit + 1) c.toJson := by
  refine plain_objectOf ?_
  simp only [List.forall_mem_cons]
  exact ⟨plain_optionalText _ _, .text _ _, .text _ _, plain_optionalText _ _, .bool _ _,
    List.forall_mem_nil _⟩

/-- Of the values that are asked for, one was not written. -/
theorem map_writtenSlot (endpoint region container accessKey pathStyle : Value) :
    (publicNames ++ [secretName, lastName]).map (Document.writtenSlot
      ((publicNames ++ [lastName]).zip [endpoint, region, container, accessKey, pathStyle])) =
    [.given (written endpoint), .given (written region), .given (written container),
      .given (written accessKey), .omitted, .given (written pathStyle)] := rfl

theorem ofJson?_written (c : StorageSettings) :
    ofJson? (written c.toJson) = some c.withoutSecret := by
  rw [ofJson?, toJson, fields?_objectOf (by decide) rfl, map_writtenSlot]
  simp only [Slot.required, Option.bind_eq_bind, Option.bind_some, text?_written,
    optional_text?_written]
  rfl

theorem fault?_eq_none_iff {c : StorageSettings} :
    c.fault? = none ↔ Text.isAllBlank c.container = false ∧
      c.accessKey.isSome = c.secretKey.isSome := by
  unfold fault?
  split
  · rename_i h
    simp [h]
  · rename_i h
    split
    · rename_i hkeys
      simp [hkeys]
    · rename_i hkeys
      simpa [h] using hkeys

/-- Keys that go together are lost together, or the settings are not accepted any more. -/
theorem fault?_withoutSecret_eq_none_iff {c : StorageSettings} (h : c.fault? = none) :
    c.withoutSecret.fault? = none ↔ c.credentials = none := by
  obtain ⟨hcontainer, hkeys⟩ := fault?_eq_none_iff.1 h
  rw [fault?_eq_none_iff]
  obtain ⟨endpoint, region, container, accessKey, secretKey, pathStyle⟩ := c
  cases accessKey <;> cases secretKey <;> simp_all [withoutSecret, credentials]

end StorageSettings

namespace Config

/-- Everything but the secret key. -/
def withoutSecret (c : Config) : Config := { c with storage := c.storage.withoutSecret }

theorem plain_toJson (c : Config) : Plain Document.nestingLimit c.toJson := by
  change Plain (126 + 1) c.toJson
  refine plain_objectOf ?_
  simp only [List.forall_mem_cons]
  exact ⟨c.metadata.plain_toJson _, c.share.plain_toJson _, c.housekeeping.plain_toJson _,
    c.storage.plain_toJson _, List.forall_mem_nil _⟩

theorem ofJson?_written (c : Config) : ofJson? (written c.toJson) = some c.withoutSecret := by
  rw [ofJson?, toJson, fields?_objectOf_self (by decide) rfl]
  simp only [List.map_cons, List.map_nil, Slot.required, Option.bind_eq_bind, Option.bind_some,
    RecordSettings.ofJson?_written, ShareSettings.ofJson?_written,
    HousekeepingSettings.ofJson?_written, StorageSettings.ofJson?_written]
  rfl

theorem fault?_eq_none_iff {c : Config} :
    c.fault? = none ↔ c.metadata.fault? = none ∧ c.share.processedMark ≠ "" ∧
      c.share.chunkBytes ≠ 0 ∧ c.housekeeping.intervalSeconds ≠ 0 ∧ c.storage.fault? = none := by
  rw [fault?, Option.or_eq_none_iff]
  refine and_congr_right fun _ => ?_
  split
  · simp_all
  · split
    · simp_all
    · split <;> simp_all

theorem fault?_withoutSecret_eq_none_iff {c : Config} (h : c.fault? = none) :
    c.withoutSecret.fault? = none ↔ c.storage.credentials = none := by
  obtain ⟨hmetadata, hmark, hchunk, hinterval, hstorage⟩ := fault?_eq_none_iff.1 h
  rw [← StorageSettings.fault?_withoutSecret_eq_none_iff hstorage, fault?_eq_none_iff]
  exact ⟨fun h => h.2.2.2.2, fun h => ⟨hmetadata, hmark, hchunk, hinterval, h⟩⟩

/-- The document of a configuration in either layout. -/
def texts (c : Config) : List String := [c.toJson.compact, c.toJson.pretty]

theorem decode?_texts (c : Config) :
    ∀ text ∈ c.texts, Document.decode? ofJson? text.toUTF8 = some c.withoutSecret := by
  have hcompact := c.plain_toJson.ofBytes?_compact
  have hpretty := c.plain_toJson.ofBytes?_pretty
  intro text htext
  rw [Document.decode?]
  rw [texts, List.mem_cons, List.mem_singleton] at htext
  rcases htext with rfl | rfl
  · rw [hcompact, Option.bind_some, ofJson?_written]
  · rw [hpretty, Option.bind_some, ofJson?_written]

theorem texts_withoutSecret (c : Config) : c.withoutSecret.texts = c.texts := rfl

theorem texts_eq_iff {c d : Config} : d.texts = c.texts ↔ d.withoutSecret = c.withoutSecret := by
  constructor
  · intro h
    have hc := decode?_texts c c.toJson.compact List.mem_cons_self
    have hd := decode?_texts d c.toJson.compact (by rw [h]; exact List.mem_cons_self)
    exact Option.some.inj (hd.symm.trans hc)
  · intro h
    rw [← texts_withoutSecret d, h, texts_withoutSecret]

/-- The secret key is all that is lost. So what was accepted stays accepted unless it has keys, and
two configurations have the same document if they differ in nothing else. -/
theorem texts_lose_secret (c : Config) :
    (∀ text ∈ c.texts, Document.decode? ofJson? text.toUTF8 = some c.withoutSecret) ∧
      (c.fault? = none → ∀ text ∈ c.texts,
        (∃ d, Document.decode? ofJson? text.toUTF8 = some d ∧ d.fault? = none) ↔
        c.storage.credentials = none) ∧
      ∀ d : Config, d.texts = c.texts ↔ d.withoutSecret = c.withoutSecret := by
  refine ⟨decode?_texts c, fun hfault text htext => ?_, fun d => texts_eq_iff⟩
  rw [decode?_texts c text htext, ← fault?_withoutSecret_eq_none_iff hfault]
  simp only [Option.some.injEq, exists_eq_left']

/-- Fixed name, greatest number, and keys. -/
def keyedConfig : Config where
  metadata := { family := .fixed "\"Übersicht\"\n.json", firstSequence := 18446744073709551615 }
  storage := .forLocalServer "http://localhost:9000" "metadata"

/-- It is read back from both layouts, but is no longer accepted; the standard configuration still
is. -/
theorem texts_lose_secret_keyed :
    (keyedConfig.fault? = none ∧ ∀ text ∈ keyedConfig.texts,
      Document.decode? ofJson? text.toUTF8 = some keyedConfig.withoutSecret ∧
        ¬∃ d, Document.decode? ofJson? text.toUTF8 = some d ∧ d.fault? = none) ∧
    (({} : Config).fault? = none ∧ ∀ text ∈ ({} : Config).texts,
      ∃ d, Document.decode? ofJson? text.toUTF8 = some d ∧ d.fault? = none) := by
  obtain ⟨hread, hkeyed, -⟩ := texts_lose_secret keyedConfig
  obtain ⟨-, hstandard, -⟩ := texts_lose_secret {}
  have hkeyedFault : keyedConfig.fault? = none := by decide
  have hstandardFault : ({} : Config).fault? = none := by decide
  refine ⟨⟨hkeyedFault, fun text htext => ⟨hread text htext, ?_⟩⟩, hstandardFault,
    fun text htext => ?_⟩
  · rw [hkeyed hkeyedFault text htext]
    decide
  · rw [hstandard hstandardFault text htext]
    decide

end Config

end ExportLedger
