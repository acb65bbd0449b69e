import ExportLedger.Proofs.Export.ResultName
import ExportLedger.Proofs.Retention.Prune
/-!
The two rules: which blob and which processed file a pass keeps, and what a pass leaves in a store.
-/
namespace ExportLedger.Retention

section Order

variable [Ord κ] {rule : Rule κ} {names : List String} {m : String}

theorem Rule.keeps_iff :
    rule.Keeps names m ↔ m ∈ names ∧ rule.isMember m ∧
      ∀ n ∈ names, rule.isMember n → Naming.isAfter (rule.key n, n) (rule.key m, m) = false := by
  simp only [Keeps, Naming.IsNewest, List.mem_filter, Option.some.injEq, exists_eq_left',
    forall_eq', and_assoc, and_imp]

end Order

/-- The greatest name is kept. -/
theorem keeps_metadataBlobs_iff {suffix : Option String} {names : List String} {m : String} :
    (Rule.metadataBlobs suffix).Keeps names m ↔ m ∈ names ∧ (Rule.metadataBlobs suffix).isMember m ∧
      ∀ n ∈ names, (Rule.metadataBlobs suffix).isMember n → n ≤ m := by
  have hle (n : String) : Naming.isAfter ((Rule.metadataBlobs suffix).key n, n)
      ((Rule.metadataBlobs suffix).key m, m) = false ↔ n ≤ m := by
    rw [← Bool.not_eq_true, ← String.not_lt]
    exact not_congr Naming.isAfter_name_iff
  simp only [Rule.keeps_iff, hle]

/-- Dashes and letter case aside, the one name comes after the other; or only they tell the names
apart, and it comes after by them. -/
def FoldsAfter (n m : String) : Prop :=
  Naming.folded m < Naming.folded n ∨ Naming.folded n = Naming.folded m ∧ m < n

theorem keeps_processedFiles_iff {mark : String} {names : List String} {m : String} :
    (Rule.processedFiles mark).Keeps names m ↔ m ∈ names ∧ (Rule.processedFiles mark).isMember m ∧
      ∀ n ∈ names, (Rule.processedFiles mark).isMember n → ¬FoldsAfter n m := by
  have hafter (n : String) : Naming.isAfter ((Rule.processedFiles mark).key n, n)
      ((Rule.processedFiles mark).key m, m) = false ↔ ¬FoldsAfter n m := by
    rw [← Bool.not_eq_true]
    refine not_congr (Naming.isAfter_iff.trans ?_)
    rw [Naming.compare_string_eq_gt_iff]
    rfl
  simp only [Rule.keeps_iff, hafter]

end ExportLedger.Retention
