import ExportLedger.Proofs.Catalog.Refinding
import ExportLedger.Proofs.Naming.Newest
/-!
File names as a code for sequence numbers. Names are built by putting the suffix behind the number
and read up to the first dash, so they give every number back exactly if the suffix begins with the
dash.
-/
namespace ExportLedger.Family

variable {suffix name : String}

/-- Whatever stands between the number and the dash makes the number of the first file another
one. -/
theorem front_eq_nil_of_key (h : (sequenced suffix).key ((sequenced suffix).fileName 1) = some 1) :
    front suffix = [] := by
  have hvalue := (key_fileName_eq_some_iff.1 h).2
  rw [Decimal.value_append, Decimal.value_digits] at hvalue
  change 1 = _ * 1 + _ at hvalue
  by_contra hne
  have hten : 10 ≤ 10 ^ (front suffix).length := Nat.le_pow (List.length_pos_iff.2 hne)
  omega

theorem head?_of_front_eq_nil (hdash : '-' ∈ suffix.toList) (h : front suffix = []) :
    suffix.toList.head? = some '-' := by
  cases hsuffix : suffix.toList with
  | nil =>
    rw [hsuffix] at hdash
    contradiction
  | cons c cs =>
    rw [front, hsuffix, List.takeWhile_cons] at h
    split at h
    · contradiction
    · rename_i hc
      simpa using hc

theorem key_fileName_iff : (∀ n, (sequenced suffix).key ((sequenced suffix).fileName n) = some n) ↔
    suffix.toList.head? = some '-' := by
  constructor
  · intro h
    have hknown := (key_fileName_eq_some_iff.1 (h 1)).1
    exact head?_of_front_eq_nil hknown.dash (front_eq_nil_of_key (h 1))
  · exact fun h n => key_fileName h n

def fileNames (family : Family) (records : List Record) : List String :=
  records.map fun r => family.fileName r.sequence

variable {records : List Record} (h : (sequenced suffix).Dashed)

include h

theorem latest?_fileNames_eq_none_iff :
    (sequenced suffix).latest? ((sequenced suffix).fileNames records) = none ↔ records = [] := by
  rw [latest?, fileNames, Naming.newest?_eq_none_iff, List.forall_mem_map]
  constructor
  · intro hnone
    rw [List.eq_nil_iff_forall_not_mem]
    intro r hr
    have hkey := hnone r hr
    rw [key_fileName h] at hkey
    contradiction
  · rintro rfl
    exact List.forall_mem_nil _

theorem latest?_fileNames_eq_some_iff :
    (sequenced suffix).latest? ((sequenced suffix).fileNames records) = some name ↔
      ∃ r ∈ records, name = (sequenced suffix).fileName r.sequence ∧
        ∀ other ∈ records, other.sequence ≤ r.sequence := by
  constructor
  · intro hlatest
    obtain ⟨hmem, k, hk, hmax⟩ := Naming.le_of_latest? hlatest
    obtain ⟨r, hr, rfl⟩ := List.mem_map.1 hmem
    rw [key_fileName h, Option.some.injEq] at hk
    subst hk
    exact ⟨r, hr, rfl, fun other hother => hmax _ (List.mem_map_of_mem hother) _ (key_fileName h _)⟩
  · rintro ⟨r, hr, rfl, hmax⟩
    refine latest?_eq_fileName h (List.mem_map.2 ⟨r, hr, rfl⟩) fun name hname k hk => ?_
    obtain ⟨other, hother, rfl⟩ := List.mem_map.1 hname
    rw [key_fileName h, Option.some.injEq] at hk
    subst hk
    rcases UInt64.lt_or_eq_of_le (hmax other hother) with hlt | heq
    · exact .inl hlt
    · exact .inr (by rw [heq])

omit h

/-- A suffix that begins with a dash is what it takes for the numbers to be read back from the
names, and with it the latest of the names of some records is that of the greatest number. -/
theorem numbers_of_names (suffix : String) :
    ((∀ n, (sequenced suffix).owns ((sequenced suffix).fileName n) ∧
        (sequenced suffix).key ((sequenced suffix).fileName n) = some n) ↔
        suffix.toList.head? = some '-') ∧
      (suffix.toList.head? = some '-' → ∀ records : List Record,
        ((sequenced suffix).latest? ((sequenced suffix).fileNames records) = none ↔ records = []) ∧
          ∀ name, (sequenced suffix).latest? ((sequenced suffix).fileNames records) = some name ↔
            ∃ r ∈ records, name = (sequenced suffix).fileName r.sequence ∧
              ∀ other ∈ records, other.sequence ≤ r.sequence) := by
  constructor
  · rw [← key_fileName_iff]
    refine forall_congr' fun n => and_iff_right_of_imp fun hkey => ?_
    rw [owns, hkey]
    rfl
  · intro hdash records
    exact ⟨latest?_fileNames_eq_none_iff hdash, fun name => latest?_fileNames_eq_some_iff hdash⟩

/-- Numbers of different lengths, the greatest in the middle. -/
def numberedRecords : List Record :=
  [999, 1000, 5].map fun sequence => Draft.basicRecord ⟨sequence, .first, .noonOf 19849⟩

/-- A suffix may have digits and more dashes behind its first dash, but none of the digits in front
of it. -/
theorem numbers_of_names_digits :
    "-2-TARS.json".toList.head? = some '-' ∧
      (sequenced "-2-TARS.json").latest? ((sequenced "-2-TARS.json").fileNames numberedRecords) =
        some "1000-2-TARS.json" ∧
      ¬∀ n, (sequenced "2-TARS.json").owns ((sequenced "2-TARS.json").fileName n) ∧
        (sequenced "2-TARS.json").key ((sequenced "2-TARS.json").fileName n) = some n := by
  have hdash : "-2-TARS.json".toList.head? = some '-' := by decide
  have hlatest := ((numbers_of_names "-2-TARS.json").2 hdash numberedRecords).2 "1000-2-TARS.json"
  refine ⟨hdash, hlatest.2 ⟨Draft.basicRecord ⟨1000, .first, .noonOf 19849⟩, ?_, by decide, ?_⟩, ?_⟩
  · exact List.mem_cons_of_mem _ List.mem_cons_self
  · simp [numberedRecords, Draft.basicRecord]
  · rw [(numbers_of_names "2-TARS.json").1]
    decide

end ExportLedger.Family
