import Mathlib.Data.List.Nodup
import ExportLedger.Store.Memory
/-!
What the operations of a store in memory answer and leave behind, seen through the lookup of names.
-/
namespace ExportLedger

namespace NameMap

theorem mem_names_iff {m : NameMap α} {name : String} :
    name ∈ m.names ↔ ∃ v, m.get? name = some v := by
  simp only [names, get?, List.mem_map, Option.map_eq_some_iff]
  constructor
  · rintro ⟨e, he, rfl⟩
    cases hfind : m.entries.find? (·.1 = e.1) with
    | none => exact absurd (List.find?_eq_none.1 hfind e he) (by simp)
    | some x => exact ⟨x.2, x, rfl, rfl⟩
  · rintro ⟨v, e, he, -⟩
    exact ⟨e, List.mem_of_find?_eq_some he, by simpa using List.find?_some he⟩

theorem not_mem_names_iff {m : NameMap α} {name : String} :
    name ∉ m.names ↔ m.get? name = none := by
  rw [mem_names_iff, Option.eq_none_iff_forall_ne_some, not_exists]

theorem nodup_names (m : NameMap α) : m.names.Nodup := by
  rw [names, List.Nodup, List.pairwise_map]
  refine m.ascending.imp fun hlt heq => ?_
  rw [heq] at hlt
  exact String.lt_irrefl _ hlt

theorem get?_eq_some_iff {m : NameMap α} {name : String} {v : α} :
    m.get? name = some v ↔ (name, v) ∈ m.entries := by
  simp only [get?, Option.map_eq_some_iff]
  constructor
  · rintro ⟨e, he, rfl⟩
    have hname : e.1 = name := by simpa using List.find?_some he
    rw [← hname]
    exact List.mem_of_find?_eq_some he
  · intro hmem
    cases hfind : m.entries.find? (·.1 = name) with
    | none => exact absurd (List.find?_eq_none.1 hfind _ hmem) (by simp)
    | some e =>
      have hname : e.1 = name := by simpa using List.find?_some hfind
      have hsame : e = (name, v) :=
        List.inj_on_of_nodup_map m.nodup_names (List.mem_of_find?_eq_some hfind) hmem hname
      exact ⟨e, rfl, congrArg Prod.snd hsame⟩

/-- A map is known by its lookups. -/
theorem ext_get? {m n : NameMap α} (h : ∀ name, m.get? name = n.get? name) : m = n := by
  have hmem : ∀ e, e ∈ m.entries ↔ e ∈ n.entries := by
    rintro ⟨name, v⟩
    rw [← get?_eq_some_iff, ← get?_eq_some_iff, h]
  have hnodup (k : NameMap α) : k.entries.Nodup := k.nodup_names.of_map
  have hperm := (List.perm_ext_iff_of_nodup (hnodup m) (hnodup n)).2 hmem
  have hentries : m.entries = n.entries :=
    hperm.eq_of_pairwise (fun a b _ _ hab hba =>
      absurd (String.lt_trans hab hba) (String.lt_irrefl _))
      m.ascending n.ascending
  cases m
  cases n
  cases hentries
  rfl

theorem contains_eq_true_iff {m : NameMap α} {name : String} :
    m.contains name = true ↔ ∃ v, m.get? name = some v := Option.isSome_iff_exists

theorem contains_eq_false_iff {m : NameMap α} {name : String} :
    m.contains name = false ↔ m.get? name = none :=
      Option.isSome_eq_false_iff.trans Option.isNone_iff_eq_none

theorem mem_names_insert_iff {m : NameMap α} {name n : String} {v : α} :
    n ∈ (m.insert name v).names ↔ n = name ∨ n ∈ m.names := by
  rw [mem_names_iff, mem_names_iff, get?_insert]
  by_cases h : n = name <;> simp [h]

theorem mem_names_erase_iff {m : NameMap α} {name n : String} :
    n ∈ (m.erase name).names ↔ n ≠ name ∧ n ∈ m.names := by
  rw [mem_names_iff, mem_names_iff, get?_erase]
  by_cases h : n = name <;> simp [h]

end NameMap

namespace Memory

/-- No operation has been told to fail. -/
structure Healthy (s : Memory) : Prop where
  list : s.failsList = false
  downloads : s.failingDownloads = []
  exists_ : s.failingExists = []
  deletes : s.failingDeletes = []

/-- The same store as far as its name and its failures go; what it holds may differ. -/
structure Alike (s t : Memory) : Prop where
  name : t.name = s.name
  failsList : t.failsList = s.failsList
  failingDownloads : t.failingDownloads = s.failingDownloads
  failingExists : t.failingExists = s.failingExists
  failingDeletes : t.failingDeletes = s.failingDeletes

/-- A new store, without anything in it and without failures. -/
def new (name : String) : Memory := { name := name, objects := .empty }

theorem healthy_new (name : String) : (new name).Healthy := ⟨rfl, rfl, rfl, rfl⟩

theorem Alike.refl (s : Memory) : Alike s s := ⟨rfl, rfl, rfl, rfl, rfl⟩

theorem Alike.trans {s t u : Memory} (h : Alike s t) (h' : Alike t u) : Alike s u :=
  ⟨h'.name.trans h.name, h'.failsList.trans h.failsList,
    h'.failingDownloads.trans h.failingDownloads, h'.failingExists.trans h.failingExists,
    h'.failingDeletes.trans h.failingDeletes⟩

theorem Healthy.alike {s t : Memory} (h : Healthy s) (h' : Alike s t) : Healthy t :=
  ⟨h'.failsList.trans h.list, h'.failingDownloads.trans h.downloads,
    h'.failingExists.trans h.exists_, h'.failingDeletes.trans h.deletes⟩

theorem list_eq {s : Memory} (h : s.failsList = false) : Container.list s = .ok s.objects.names :=
  if_neg (by simp [h])

theorem list_eq_error {s : Memory} (h : s.failsList = true) :
    Container.list s = .error (s.injected .list "") :=
  if_pos h

theorem exists?_eq {s : Memory} {name : String} (h : name ∉ s.failingExists) :
    Container.exists? s name = .ok (s.objects.contains name) := if_neg h

theorem Healthy.exists?_eq {s : Memory} (h : Healthy s) (name : String) :
    Container.exists? s name = .ok (s.objects.contains name) :=
      Memory.exists?_eq (by simp [h.exists_])

theorem exists?_eq_error {s : Memory} {name : String} (h : name ∈ s.failingExists) :
    Container.exists? s name = .error (s.injected .probe name) := if_pos h

theorem download_eq {s : Memory} {name : String} {content : ByteArray}
    (hd : name ∉ s.failingDownloads) (h : s.objects.get? name = some content) :
    Container.download s name = .ok content := by
  simp only [Container.download, Memory.download, if_neg hd, h]

theorem download_eq_error {s : Memory} {name : String} (h : name ∈ s.failingDownloads) :
    Container.download s name = .error (s.injected .download name) := if_pos h

theorem Healthy.download_eq_elim {s : Memory} (h : Healthy s) (name : String) :
    Container.download s name = (s.objects.get? name).elim
      (.error (.notFound s.name name)) .ok := by
  simp only [Container.download, Memory.download, h.downloads, List.not_mem_nil, if_false]
  cases s.objects.get? name <;> rfl

theorem upload_eq (s : Memory) (name : String) (content : ByteArray) :
    Container.upload s name content =
      (.ok (), { s with objects := s.objects.insert name content }) := rfl

theorem alike_objects (s : Memory) (objects : NameMap ByteArray) : Alike s { s with objects } :=
  ⟨rfl, rfl, rfl, rfl, rfl⟩

theorem alike_delete (s : Memory) (name : String) : Alike s (Container.delete s name).2 := by
  simp only [Container.delete, Memory.delete]
  split
  · exact ⟨rfl, rfl, rfl, rfl, rfl⟩
  · split <;> exact ⟨rfl, rfl, rfl, rfl, rfl⟩

/-- A delete takes away its own name and nothing else, unless it has been told to fail. -/
theorem get?_delete (s : Memory) (name n : String) :
    (Container.delete s name).2.objects.get? n =
      if n = name ∧ name ∉ s.failingDeletes then none else s.objects.get? n := by
  simp only [Container.delete, Memory.delete]
  split
  · rename_i hfail
    simp [hfail]
  · rename_i hfail
    split
    · rw [NameMap.get?_erase]
      simp [hfail]
    · rename_i hgone
      rw [Bool.not_eq_true, NameMap.contains_eq_false_iff] at hgone
      split
      · rename_i h
        rw [h.1]
        exact hgone
      · rfl

theorem latestDeletes_delete (s : Memory) (name : String) :
    (Container.delete s name).2.latestDeletes = name :: s.latestDeletes := by
  simp only [Container.delete, Memory.delete]
  split
  · rfl
  · split <;> rfl

theorem fst_delete (s : Memory) (name : String) : (Container.delete s name).1 =
    if name ∈ s.failingDeletes then .error (s.injected .delete name)
    else if s.objects.contains name then .ok () else .error (.notFound s.name name) := by
  simp only [Container.delete, Memory.delete]
  split
  · rfl
  · split <;> rfl

/-- The answer to a delete depends on its own name only. -/
theorem fst_delete_congr {s t : Memory} {name : String} (h : Alike s t)
    (hget : t.objects.get? name = s.objects.get? name) :
    (Container.delete t name).1 = (Container.delete s name).1 := by
  rw [fst_delete, fst_delete, NameMap.contains, NameMap.contains, injected, injected, hget, h.name,
    h.failingDeletes]

theorem fst_delete_of_mem {s : Memory} {name : String} (h : name ∈ s.objects.names) :
    (Container.delete s name).1 =
      if name ∈ s.failingDeletes then .error (s.injected .delete name) else .ok () := by
  rw [fst_delete, if_pos (NameMap.contains_eq_true_iff.2 (NameMap.mem_names_iff.1 h))]

end Memory

end ExportLedger
