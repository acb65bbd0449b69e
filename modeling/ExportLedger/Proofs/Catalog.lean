import ExportLedger.Catalog
import ExportLedger.Proofs.Naming
import ExportLedger.Proofs.Record.RoundTrip
import ExportLedger.Proofs.Store.Memory
/-!
The latest record of a family: when it is found again, and that saving a record with no smaller
number makes it the latest.
-/
namespace ExportLedger

namespace Family

/-- The number of a sequenced file name ends where the suffix begins. -/
def Dashed : Family → Prop
  | sequenced suffix => suffix.toList.head? = some '-'
  | fixed _ => True

theorem key_fileName_eq (suffix : String) (n : UInt64) :
    (sequenced suffix).key ((sequenced suffix).fileName n) =
      Naming.leadingNumber (Decimal.text n.toNat ++ suffix) := by
  have hsuffix : suffix.toList.isSuffixOf (Decimal.text n.toNat ++ suffix).toList := by
    rw [String.toList_append]
    exact List.isSuffixOf_iff_suffix.2 (List.suffix_append _ _)
  rw [key, fileName, if_pos hsuffix]

theorem key_fileName {suffix : String} (h : (sequenced suffix).Dashed) (n : UInt64) :
    (sequenced suffix).key ((sequenced suffix).fileName n) = some n := by
  rw [key_fileName_eq, Naming.leadingNumber_text_append n.toNat_lt h, UInt64.ofNat_toNat]

theorem key_fixed_eq_some_iff {fileName name : String} {k : UInt64} :
    (fixed fileName).key name = some k ↔ name = fileName ∧ k = 0 := by
  rw [key]
  split
  · rename_i h
    simp [h, eq_comm]
  · rename_i h
    simp [h]

/-- Only which names of the family there are matters for the latest. -/
theorem latest?_congr {family : Family} {names others : List String}
    (h : ∀ n, family.owns n → (n ∈ names ↔ n ∈ others)) :
    family.latest? names = family.latest? others := by
  apply Naming.newest?_congr
  intro n hn
  exact h n (Option.isSome_iff_ne_none.2 hn)

/-- The latest of some names is the file of number `n`, if that file is among them and every other
name of the family has a smaller number. -/
theorem latest?_eq_fileName {suffix : String} (h : (sequenced suffix).Dashed) {names : List String}
    {n : UInt64} (hmem : (sequenced suffix).fileName n ∈ names)
    (hmax : ∀ name ∈ names, ∀ k, (sequenced suffix).key name = some k →
      k < n ∨ name = (sequenced suffix).fileName n) :
    (sequenced suffix).latest? names = some ((sequenced suffix).fileName n) := by
  rw [latest?, Naming.newest?_eq_some_iff]
  refine ⟨hmem, n, key_fileName h n, fun name hname k hk => ?_⟩
  rw [Bool.eq_false_iff, ne_eq, Naming.isAfter_uint64_iff]
  rcases hmax name hname k hk with hlt | heq
  · rintro (hgt | ⟨rfl, -⟩)
    · exact UInt64.lt_irrefl n (UInt64.lt_trans hgt hlt)
    · exact UInt64.lt_irrefl k hlt
  · rw [heq, key_fileName h n] at hk
    cases hk
    rw [heq]
    rintro (hgt | ⟨-, hgt⟩)
    · exact UInt64.lt_irrefl n hgt
    · exact String.lt_irrefl _ hgt

/-- A fixed name is the latest wherever it is. -/
theorem latest?_fixed (fileName : String) (names : List String) :
    (fixed fileName).latest? names = if fileName ∈ names then some fileName else none := by
  split
  · rename_i hmem
    refine Naming.newest?_eq_some_iff.2 ⟨hmem, 0, if_pos rfl, fun n _ j hj => ?_⟩
    obtain ⟨rfl, rfl⟩ := key_fixed_eq_some_iff.1 hj
    exact Naming.isAfter_self _
  · rename_i hmem
    refine Naming.newest?_eq_none_iff.2 fun n hn => if_neg ?_
    rintro rfl
    exact hmem hn

end Family

namespace Catalog

variable {family : Family} {s : Memory} {name : String} {r : Record}

/-- The store has not been told to fail where the family asks for its latest name. -/
def Responds (family : Family) (s : Memory) : Prop :=
  match family with
  | .sequenced _ => s.failsList = false
  | .fixed fileName => fileName ∉ s.failingExists

theorem responds_of_healthy (hs : s.Healthy) (family : Family) : Responds family s := by
  cases family with
  | sequenced suffix => exact hs.list
  | fixed fileName => simp [Responds, hs.exists_]

/-- Contents do not matter to it. -/
theorem responds_objects_iff {objects : NameMap ByteArray} :
    Responds family { s with objects } ↔ Responds family s := by
  cases family <;> rfl

theorem latestName_of_responds (h : Responds family s) :
    latestName family s = (family.latest? s.objects.names).elim
      (.error (.noRecord s.name)) .ok := by
  cases family with
  | sequenced suffix =>
    simp only [latestName, Memory.list_eq h, Except.mapError, bind, Except.bind]
    cases (Family.sequenced suffix).latest? s.objects.names <;> rfl
  | fixed fileName =>
    simp only [latestName, Memory.exists?_eq h, Except.mapError, bind, Except.bind]
    have hheld : s.objects.contains fileName = true ↔ fileName ∈ s.objects.names :=
      NameMap.contains_eq_true_iff.trans NameMap.mem_names_iff.symm
    simp only [hheld, Family.latest?_fixed]
    split <;> rfl

theorem latestName_eq_ok_iff_of_responds (h : Responds family s) :
    latestName family s = .ok name ↔ family.latest? s.objects.names = some name := by
  rw [latestName_of_responds h]
  cases family.latest? s.objects.names <;> simp

/-- The container holds the record's document, and no other record of the family is as recent. -/
structure Holds (family : Family) (r : Record) (objects : NameMap ByteArray) : Prop where
  document : objects.get? (family.fileName r.sequence) = some r.text.toUTF8
  latest : ∀ name ∈ objects.names, ∀ k, family.key name = some k →
    k < r.sequence ∨ name = family.fileName r.sequence

theorem latestName_of_holds (hd : family.Dashed) (hs : s.Healthy) (h : Holds family r s.objects) :
    latestName family s = .ok (family.fileName r.sequence) := by
  have hmem : family.fileName r.sequence ∈ s.objects.names :=
    NameMap.mem_names_iff.2 ⟨_, h.document⟩
  refine (latestName_eq_ok_iff_of_responds (responds_of_healthy hs family)).2 ?_
  cases family with
  | sequenced suffix => exact Family.latest?_eq_fileName hd hmem h.latest
  | fixed fileName => exact (Family.latest?_fixed fileName _).trans (if_pos hmem)

/-- The record is found, and read as it was written. -/
theorem latestRecord_of_holds (hd : family.Dashed) (hs : s.Healthy) (hr : r.Storable family.detail)
    (h : Holds family r s.objects) : latestRecord family s = .ok r := by
  have hdownload := Memory.download_eq (by simp [hs.downloads]) h.document
  simp only [latestRecord, latestName_of_holds hd hs h, load, hdownload, Except.mapError, bind,
    Except.bind, Record.parse_text hr]

theorem latestRecord_of_no_names (hs : s.Healthy) (h : s.objects.names = []) :
    latestRecord family s = .error (.noRecord s.name) := by
  rw [latestRecord, latestName_of_responds (responds_of_healthy hs family), h]
  rfl

theorem save_eq (family : Family) (s : Memory) (r : Record) :
    save family s r = (.ok (family.fileName r.sequence),
      { s with objects := s.objects.insert (family.fileName r.sequence) r.text.toUTF8 }) := rfl

/-- A record that is saved where nothing of the family is more recent is the latest from then on. -/
theorem holds_insert {objects : NameMap ByteArray}
    (hmax : ∀ name ∈ objects.names, ∀ k, family.key name = some k →
      k < r.sequence ∨ name = family.fileName r.sequence) :
    Holds family r (objects.insert (family.fileName r.sequence) r.text.toUTF8) := by
  constructor
  · rw [NameMap.get?_insert, if_pos rfl]
  · intro name hname k hk
    by_cases heq : name = family.fileName r.sequence
    · exact .inr heq
    · obtain ⟨v, hv⟩ := NameMap.mem_names_iff.1 hname
      rw [NameMap.get?_insert, if_neg heq] at hv
      exact hmax name (NameMap.mem_names_iff.2 ⟨v, hv⟩) k hk

/-- The first record is found again. -/
theorem latestRecord_save (hd : family.Dashed) (hs : s.Healthy) (hr : r.Storable family.detail)
    (hempty : s.objects.names = []) : latestRecord family (save family s r).2 = .ok r := by
  rw [save_eq]
  refine latestRecord_of_holds hd (hs.alike (Memory.alike_objects s _)) hr
    (holds_insert fun name hname => ?_)
  rw [hempty] at hname
  contradiction

theorem Holds.insert {objects : NameMap ByteArray} {next : Record} (hd : family.Dashed)
    (h : Holds family r objects) (hle : r.sequence ≤ next.sequence) :
    Holds family next (objects.insert (family.fileName next.sequence) next.text.toUTF8) := by
  refine holds_insert fun name hname k hk => ?_
  cases family with
  | sequenced suffix =>
    rcases h.latest name hname k hk with hlt | heq
    · exact .inl (UInt64.lt_of_lt_of_le hlt hle)
    · rw [heq, Family.key_fileName hd] at hk
      cases hk
      rcases UInt64.lt_or_eq_of_le hle with hlt | hsame
      · exact .inl hlt
      · exact .inr (heq.trans (congrArg _ hsame))
  | fixed fileName => exact .inr (Family.key_fixed_eq_some_iff.1 hk).1

end Catalog

end ExportLedger
