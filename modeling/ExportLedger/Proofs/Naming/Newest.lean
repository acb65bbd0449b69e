import Mathlib.Data.Prod.Lex
import Mathlib.Order.Compare
import ExportLedger.Proofs.Catalog
import ExportLedger.Proofs.Text.ByteOrder
/-!
The newest of several names is a maximum: by the keys first, and among equal keys by the bytes of
the names. So it does not depend on how the names are listed, nor on names that have no key.
-/
namespace ExportLedger.Naming

variable [LinearOrder κ] {key : String → Option κ} {names others : List String} {m : String}

theorem isAfter_eq_false_iff_le {j k : κ} {n m : String} :
    isAfter (j, n) (k, m) = false ↔ toLex (j, Text.bytes n) ≤ toLex (k, Text.bytes m) := by
  rw [Bool.eq_false_iff, ne_eq, isAfter_iff, compare_gt_iff_gt, Prod.Lex.toLex_le_toLex,
    Text.bytes_le_bytes_iff]
  rcases lt_trichotomy j k with hlt | heq | hgt
  · have hne : j ≠ k := ne_of_lt hlt
    have hle : ¬k < j := not_lt_of_gt hlt
    simp only [hlt, hne, hle, false_and, or_self, not_false_eq_true, or_false]
  · simp only [heq, lt_irrefl, false_or, true_and, String.not_lt]
  · have hne : j ≠ k := ne_of_gt hgt
    have hle : ¬j < k := not_lt_of_gt hgt
    simp only [hgt, hne, hle, false_and, or_false, not_true_eq_false]

/-- The newest name is the greatest in the order of the keys and, where these are equal, of the
bytes. -/
theorem newest?_eq_some_iff_max : newest? key names = some m ↔ m ∈ names ∧ ∃ k, key m = some k ∧
    ∀ n ∈ names, ∀ j, key n = some j → toLex (j, Text.bytes n) ≤ toLex (k, Text.bytes m) := by
  rw [newest?_eq_some_iff]
  unfold IsNewest
  simp only [isAfter_eq_false_iff_le]

/-- The latest of a family's names has the greatest number. -/
theorem le_of_latest? {family : Family} (h : family.latest? names = some m) :
    m ∈ names ∧ ∃ k, family.key m = some k ∧ ∀ n ∈ names, ∀ j, family.key n = some j → j ≤ k := by
  obtain ⟨hm, k, hk, hmax⟩ := newest?_eq_some_iff.1 h
  refine ⟨hm, k, hk, ?_⟩
  intro n hn j hj
  have hle := hmax n hn j hj
  rw [Bool.eq_false_iff, ne_eq, isAfter_uint64_iff, not_or] at hle
  exact UInt64.not_lt.1 hle.1

/-- There is a newest name exactly if some name has a key, and it is the greatest in the
lexicographic order of key and bytes. Which names have a key is all that matters for it: not their
order in the list, nor how often they occur there, nor which other names there are. So the latest
name of a family is one of its own with the greatest number, however the listing is ordered and
whatever else it contains. -/
theorem newest?_canonical :
    (∀ {κ : Type u} [LinearOrder κ] (key : String → Option κ) (names : List String),
      (newest? key names = none ↔ ∀ n ∈ names, key n = none) ∧
      (∀ m, newest? key names = some m ↔ m ∈ names ∧ ∃ k, key m = some k ∧
        ∀ n ∈ names, ∀ j, key n = some j → toLex (j, Text.bytes n) ≤ toLex (k, Text.bytes m)) ∧
      ∀ others, (∀ n, key n ≠ none → (n ∈ names ↔ n ∈ others)) →
      newest? key names = newest? key others) ∧
    ∀ (suffix : String) (names : List String),
      ((Family.sequenced suffix).latest? names = none ↔
        ∀ n ∈ names, (Family.sequenced suffix).owns n = false) ∧
      (∀ m, (Family.sequenced suffix).latest? names = some m → m ∈ names ∧ ∃ k,
        (Family.sequenced suffix).key m = some k ∧
          ∀ n ∈ names, ∀ j, (Family.sequenced suffix).key n = some j → j ≤ k) ∧
      ∀ others, (∀ n, (Family.sequenced suffix).owns n → (n ∈ names ↔ n ∈ others)) →
        (Family.sequenced suffix).latest? names = (Family.sequenced suffix).latest? others := by
  constructor
  · intro κ _ key names
    exact ⟨newest?_eq_none_iff, fun m => newest?_eq_some_iff_max, fun others => newest?_congr⟩
  · intro suffix names
    refine ⟨?_, fun m => le_of_latest?, fun others => Family.latest?_congr⟩
    unfold Family.latest? Family.owns
    simp only [newest?_eq_none_iff, Option.isSome_eq_false_iff, Option.isNone_iff_eq_none]

/-- Two names of one number. -/
def tiedNames : List String := ["05-TARS.json", "5-TARS.json"]

/-- The same names in another order, one of them twice, and a name of no number. -/
def relistedNames : List String := ["5-TARS.json", "notes.txt", "05-TARS.json", "5-TARS.json"]

def numberKey (name : String) : Option Nat := (leadingNumber name).map UInt64.toNat

theorem newest?_canonical_tied :
    (∀ n, numberKey n ≠ none → (n ∈ tiedNames ↔ n ∈ relistedNames)) ∧
      newest? numberKey tiedNames = newest? numberKey relistedNames ∧
      (∀ n, Family.standard.owns n → (n ∈ tiedNames ↔ n ∈ relistedNames)) ∧
      Family.standard.latest? tiedNames = Family.standard.latest? relistedNames ∧
      newest? numberKey relistedNames = some "5-TARS.json" := by
  have hnames (n : String) (hne : n ≠ "notes.txt") : n ∈ tiedNames ↔ n ∈ relistedNames := by
    unfold tiedNames relistedNames
    simp only [List.mem_cons, List.not_mem_nil, or_false, hne, false_or]
    tauto
  have hkeyed (n : String) (hn : numberKey n ≠ none) : n ∈ tiedNames ↔ n ∈ relistedNames := by
    apply hnames
    rintro rfl
    exact hn (by decide)
  have howned (n : String) (hn : Family.standard.owns n) : n ∈ tiedNames ↔ n ∈ relistedNames := by
    apply hnames
    rintro rfl
    exact absurd hn (by decide)
  have hnewest := (newest?_canonical.1 numberKey tiedNames).2.2 relistedNames hkeyed
  have hlatest := (newest?_canonical.{0}.2 "-TARS.json" tiedNames).2.2 relistedNames howned
  exact ⟨hkeyed, hnewest, howned, hlatest, by decide⟩

end ExportLedger.Naming
