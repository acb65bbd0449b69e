/-!
What a container holds under its names, in the order of the names.
-/
namespace ExportLedger

structure NameMap (α : Type) where
  entries : List (String × α)
  ascending : entries.Pairwise fun a b => a.1 < b.1

namespace NameMap

def empty : NameMap α := ⟨[], .nil⟩

def names (m : NameMap α) : List String := m.entries.map (·.1)

def get? (m : NameMap α) (name : String) : Option α :=
  (m.entries.find? (·.1 = name)).map (·.2)

def contains (m : NameMap α) (name : String) : Bool := (m.get? name).isSome

def insertEntry (name : String) (v : α) : List (String × α) → List (String × α)
  | [] => [(name, v)]
  | e :: es =>
    if name < e.1 then (name, v) :: e :: es
    else if name = e.1 then (name, v) :: es
    else e :: insertEntry name v es

theorem fst_mem_insertEntry {name : String} {v : α} {es : List (String × α)} {e : String × α}
    (h : e ∈ insertEntry name v es) : e.1 = name ∨ e ∈ es := by
  induction es with
  | nil => simp_all [insertEntry]
  | cons x es ih => grind [insertEntry]

theorem pairwise_insertEntry (name : String) (v : α) {es : List (String × α)}
    (h : es.Pairwise fun a b => a.1 < b.1) :
    (insertEntry name v es).Pairwise fun a b => a.1 < b.1 := by
  induction es with
  | nil => simp [insertEntry]
  | cons x es ih =>
    have ⟨hx, hes⟩ := List.pairwise_cons.1 h
    unfold insertEntry
    split
    · rename_i hlt
      refine List.pairwise_cons.2 ⟨fun a ha => ?_, h⟩
      rcases List.mem_cons.1 ha with rfl | ha
      · exact hlt
      · exact String.lt_trans hlt (hx a ha)
    · split
      · rename_i heq
        subst heq
        exact List.pairwise_cons.2 ⟨hx, hes⟩
      · rename_i hlt hne
        refine List.pairwise_cons.2 ⟨fun a ha => ?_, ih hes⟩
        rcases fst_mem_insertEntry ha with heq | ha
        · rw [heq]
          exact Decidable.byContradiction fun hnot =>
            hne (String.le_antisymm (String.not_lt.1 hnot) (String.not_lt.1 hlt))
        · exact hx a ha

/-- Replaces what was there under the name. -/
def insert (m : NameMap α) (name : String) (v : α) : NameMap α :=
  ⟨insertEntry name v m.entries, pairwise_insertEntry name v m.ascending⟩

def erase (m : NameMap α) (name : String) : NameMap α :=
  ⟨m.entries.filter (·.1 ≠ name), m.ascending.filter _⟩

theorem find?_insertEntry (name : String) (v : α) (es : List (String × α)) (other : String) :
    (insertEntry name v es).find? (·.1 = other) =
      if other = name then some (name, v) else es.find? (·.1 = other) := by
  induction es with
  | nil => by_cases h : other = name <;> simp [insertEntry, h, eq_comm]
  | cons e es ih =>
    unfold insertEntry
    split
    · by_cases h : other = name <;> simp [List.find?_cons, h, eq_comm]
    · split
      · rename_i heq
        by_cases h : other = name
        · simp [h]
        · simp [h, ← heq, Ne.symm h]
      · rename_i hne
        by_cases he : e.1 = other
        · have : other ≠ name := fun h => hne (h ▸ he.symm)
          simp [he, this]
        · simp [he, ih]

theorem get?_insert (m : NameMap α) (name : String) (v : α) (other : String) :
    (m.insert name v).get? other = if other = name then some v else m.get? other := by
  simp only [get?, insert, find?_insertEntry]
  split <;> rfl

theorem get?_erase (m : NameMap α) (name other : String) :
    (m.erase name).get? other = if other = name then none else m.get? other := by
  simp only [get?, erase, List.find?_filter]
  split
  · rename_i h
    simp [h]
  · rename_i h
    congr 2
    funext e
    grind

/-- Of pairs with one name the last counts. -/
def ofList (pairs : List (String × α)) : NameMap α :=
  pairs.foldl (fun m p => m.insert p.1 p.2) empty

end NameMap

end ExportLedger
