import Mathlib.Data.List.Forall2
import ExportLedger.Json.Fields
/-!
The fields of an object beside its values: what stands in a field before anything is decoded, and
after.
-/
namespace ExportLedger.Json.Document

theorem mapM_eq_some_iff {f : α → Option β} {l : List α} {bs : List β} :
    l.mapM f = some bs ↔ List.Forall₂ (fun a b => f a = some b) l bs := by
  induction l generalizing bs with
  | nil =>
    simp only [List.mapM_nil, Option.pure_def, Option.some.injEq,
      List.forall₂_nil_left_iff, eq_comm]
  | cons a l ih =>
    rw [List.mapM_cons, List.forall₂_cons_left_iff]
    simp only [Option.bind_eq_bind, Option.bind_eq_some_iff, Option.pure_def, Option.some.injEq, ih]
    constructor
    · intro h
      obtain ⟨b, hb, bs, hbs, rfl⟩ := h
      exact ⟨b, bs, hb, hbs, rfl⟩
    · intro h
      obtain ⟨b, bs, hb, hbs, rfl⟩ := h
      exact ⟨b, hb, bs, hbs, rfl⟩

/-- The members of an object with their names decoded. -/
abbrev Named := List (String × Document)

def named? (members : List (Literal × Document)) : Option Named :=
  members.mapM fun m => m.1.text?.map (·, m.2)

/-- The members have these values, one by one. -/
def Named.Values (limit : Nat) : Named → List (String × Value) → Prop :=
  List.Forall₂ fun m v => m.1 = v.1 ∧ value? limit m.2 = some v.2

/-- What a document can be that has a value. -/
inductive Stands : Document → Value → Prop where
  | null : Stands .null .null
  | bool (b : Bool) : Stands (.bool b) (.bool b)
  | number (n : Numeral) : Stands (.number n) (.number n)
  | text {l : Literal} {s : String} (h : l.text? = some s) : Stands (.text l) (.text s)
  | array (items : List Document) (values : List Value) : Stands (.array items) (.array values)
  | object {limit : Nat} {written : List (Literal × Document)} {members : Named}
      {values : List (String × Value)}
      (hnamed : named? written = some members) (hvalues : members.Values limit values) :
      Stands (.object written) (.object values)

theorem exists_named_of_mapM {limit : Nat} {written : List (Literal × Document)}
    {values : List (String × Value)}
    (h : (written.mapM fun m => do some ((← m.1.text?), ← value? limit m.2)) = some values) :
    ∃ members, named? written = some members ∧ Named.Values limit members values := by
  induction mapM_eq_some_iff.1 h with
  | nil => exact ⟨[], rfl, .nil⟩
  | cons hm hms ih =>
    obtain ⟨members, hnamed, hvalues⟩ := ih (mapM_eq_some_iff.2 hms)
    simp only [Option.bind_eq_bind, Option.bind_eq_some_iff, Option.some.injEq] at hm
    obtain ⟨name, hname, v, hv, rfl⟩ := hm
    refine ⟨(name, _) :: members, ?_, .cons ⟨rfl, hv⟩ hvalues⟩
    rw [named?, List.mapM_cons, hname]
    rw [named?] at hnamed
    rw [hnamed]
    rfl

theorem stands_of_value? {limit : Nat} {d : Document} {v : Value} (h : value? limit d = some v) :
    Stands d v := by
  unfold value? at h
  split at h
  · obtain rfl := Option.some.inj h
    exact .null
  · obtain rfl := Option.some.inj h
    exact .bool _
  · split at h
    · contradiction
    · obtain rfl := Option.some.inj h
      exact .number _
  · obtain ⟨s, hs, rfl⟩ := Option.map_eq_some_iff.1 h
    exact .text hs
  · contradiction
  · contradiction
  · obtain ⟨values, -, rfl⟩ := Option.map_eq_some_iff.1 h
    exact .array _ _
  · obtain ⟨values, hvalues, rfl⟩ := Option.map_eq_some_iff.1 h
    obtain ⟨members, hnamed, hmembers⟩ := exists_named_of_mapM hvalues
    exact .object hnamed hmembers

theorem Named.Values.named {limit : Nat} {members : Named} {values : List (String × Value)}
    (h : members.Values limit values) (name : String) :
    List.Forall₂ Stands (Document.named name members) (Document.named name values) := by
  unfold Document.named
  rw [List.forall₂_map_left_iff, List.forall₂_map_right_iff]
  have hfilter := List.rel_filter (R := fun (m : String × Document) (v : String × Value) =>
    m.1 = v.1 ∧ value? limit m.2 = some v.2) (p := fun m => m.1 = name) (q := fun v => v.1 = name)
    (fun m v hmv => by simp only [hmv.1]) h
  exact hfilter.imp fun m v hmv => stands_of_value? hmv.2

theorem length_named {written : List (Literal × Document)} {members : Named}
    (h : named? written = some members) (name : String) :
    (named name members).length = (written.filter fun m => m.1.text? = some name).length := by
  induction mapM_eq_some_iff.1 h with
  | nil => rfl
  | cons hm hms ih =>
    obtain ⟨found, hname, rfl⟩ := Option.map_eq_some_iff.1 hm
    have hrest := ih (mapM_eq_some_iff.2 hms)
    unfold named at hrest ⊢
    rw [List.length_map] at hrest ⊢
    by_cases hfound : found = name
    · rw [List.filter_cons_of_pos (by simpa using hfound),
        List.filter_cons_of_pos (by simp [hname, hfound]), List.length_cons,
        List.length_cons, hrest]
    · rw [List.filter_cons_of_neg (by simpa using hfound),
        List.filter_cons_of_neg (by simp [hname, hfound]), hrest]

/-- What the members have to say about one name, if they name it only once. -/
def slot? (members : Named) (name : String) : Option Slot :=
  match named name members with
  | [] => some .omitted
  | [d] => some (.given d)
  | _ => none

theorem fields?_object (names : List String) (written : List (Literal × Document)) :
    fields? names (.object written) = (named? written).bind fun members =>
      names.mapM (slot? members) := rfl

theorem exists_slot?_iff {members : Named} {name : String} :
    (∃ slot, slot? members name = some slot) ↔ (named name members).length ≤ 1 := by
  unfold slot?
  cases named name members with
  | nil => simp
  | cons d ds =>
    cases ds with
    | nil => simp
    | cons e es => simp

/-- The fields are found if no name is repeated, whatever the other members are. -/
theorem fields?_object_eq_some_iff {names : List String} {written : List (Literal × Document)}
    {members : Named} (hnamed : named? written = some members) {slots : List Slot} :
    fields? names (.object written) = some slots ↔
      List.Forall₂ (fun name slot => slot? members name = some slot) names slots := by
  rw [fields?_object, hnamed, Option.bind_some, mapM_eq_some_iff]

end ExportLedger.Json.Document

namespace ExportLedger.Json.Slot

open Document (Stands)

/-- The slot holds the value, or none if it holds `null`. -/
inductive Holds : Slot → Option Value → Prop where
  | omitted : Holds .omitted none
  | null : Holds (.given .null) none
  | given {d : Document} {v : Value} (h : Stands d v) (hne : v ≠ .null) : Holds (.given d) (some v)

variable {read : Document → Option α} {slot : Slot}

theorem trailing_given {d : Document} (hne : d ≠ .null) :
    (given d).trailing read = (read d).map some := by
  cases d with
  | null => exact absurd rfl hne
  | _ => rfl

/-- A value that is there counts wherever it may also be missing. -/
theorem required_of_trailing {a : α} (h : slot.trailing read = some (some a)) :
    slot.required read = some a := by
  cases slot with
  | given d =>
    have hne : d ≠ .null := by
      rintro rfl
      cases h
    rw [trailing_given hne] at h
    obtain ⟨b, hb, hba⟩ := Option.map_eq_some_iff.1 h
    exact hb.trans hba
  | omitted => cases h
  | beyondEnd => cases h

theorem required_bind {f : α → Option β} {a : α} (h : slot.required read = some a) :
    slot.required (fun d => (read d).bind f) = f a := by
  cases slot with
  | given d =>
    have hread : read d = some a := h
    exact (congrArg (·.bind f) hread).trans (Option.bind_some a f)
  | omitted => cases h
  | beyondEnd => cases h

end ExportLedger.Json.Slot
