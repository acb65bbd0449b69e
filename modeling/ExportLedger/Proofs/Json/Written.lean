import ExportLedger.Proofs.Json.Fields
import ExportLedger.Proofs.Json.RoundTrip
/-!
The fields of an object that was written: each name gives the value that was written under it.
-/
namespace ExportLedger.Json

open Value (written writtenMembers)

variable {members : List (String × Value)} {name : String}

namespace Document

theorem named?_written (members : List (String × Value)) :
    named? (writtenMembers members) = some (members.map fun m => (m.1, written m.2)) := by
  rw [named?, mapM_eq_some_iff, Value.writtenMembers_eq_map, List.forall₂_map_left_iff,
    List.forall₂_map_right_iff, List.forall₂_same]
  intro m _
  rw [Literal.text?_ofString, Option.map_some]

/-- A name that does not occur twice has at most one value. -/
theorem named_eq_lookup {members : List (String × α)} (h : (members.map Prod.fst).Nodup)
    (name : String) :
    named name members = (members.lookup name).toList := by
  unfold named
  induction members with
  | nil => rfl
  | cons m members ih =>
    rw [List.map_cons, List.nodup_cons] at h
    rw [List.lookup_cons]
    by_cases hm : m.1 = name
    · have hnone : members.filter (·.1 = name) = [] := by
        rw [List.filter_eq_nil_iff]
        intro n hn
        rw [decide_eq_true_eq]
        rintro rfl
        exact h.1 (hm ▸ List.mem_map_of_mem hn)
      simp [hm, hnone]
    · have hne : (name == m.1) = false := beq_false_of_ne (Ne.symm hm)
      rw [List.filter_cons_of_neg (by simpa using hm), ih h.2, hne]

/-- What is found under a name. -/
def writtenSlot (members : List (String × Value)) (name : String) : Slot :=
  match members.lookup name with
  | some v => .given (written v)
  | none => .omitted

theorem slot?_written (h : (members.map Prod.fst).Nodup) (name : String) :
    slot? (members.map fun m => (m.1, written m.2)) name = some (writtenSlot members name) := by
  have hnamed : named name (members.map fun m => (m.1, written m.2)) =
      (members.lookup name).toList.map written := by
    rw [← named_eq_lookup h, named, named, List.filter_map, List.map_map, List.map_map]
    rfl
  rw [slot?, hnamed, writtenSlot]
  cases members.lookup name <;> rfl

theorem writtenSlot_of_mem (h : (members.map Prod.fst).Nodup) {v : Value}
    (hv : (name, v) ∈ members) :
    writtenSlot members name = .given (written v) := by
  have hmem : v ∈ named name members := List.mem_map.2 ⟨(name, v), by simpa using hv, rfl⟩
  rw [named_eq_lookup h, Option.mem_toList] at hmem
  rw [writtenSlot, hmem]

/-- Every field is found, whether it was written or not. -/
theorem fields?_written (h : (members.map Prod.fst).Nodup) (names : List String) :
    fields? names (written (.object members)) = some (names.map (writtenSlot members)) := by
  rw [written, fields?_object_eq_some_iff (named?_written members), List.forall₂_map_right_iff,
    List.forall₂_same]
  exact fun name _ => slot?_written h name

end Document

end ExportLedger.Json
