import ExportLedger.Text.Substitution
/-!
Where a pattern is replaced in a text, and where the text stays as it is.
-/
namespace ExportLedger.Text

theorem replaceFrom_append (pattern v front cs : List Char) :
    replaceFrom pattern v front.length (front ++ cs) = replaceFrom pattern v 0 cs := by
  induction front with
  | nil => rfl
  | cons c front ih => rw [List.length_cons, List.cons_append, replaceFrom, ih]

variable {pattern v cs : List Char}

theorem replaceAll_pattern_append (h : pattern ≠ []) :
    replaceAll pattern v (pattern ++ cs) = v ++ replaceAll pattern v cs := by
  cases pattern with
  | nil => contradiction
  | cons p pattern =>
    have hprefix : List.isPrefixOf (p :: pattern) (p :: (pattern ++ cs)) = true :=
      List.isPrefixOf_iff_prefix.2 (List.prefix_append (p :: pattern) cs)
    rw [replaceAll, List.cons_append, replaceFrom, if_pos hprefix, List.length_cons,
      Nat.add_sub_cancel, replaceFrom_append, replaceAll]

theorem replaceAll_cons_of_not_prefix {c : Char} (h : ¬pattern <+: c :: cs) :
    replaceAll pattern v (c :: cs) = c :: replaceAll pattern v cs := by
  rw [replaceAll, replaceFrom, if_neg (fun hprefix => h (List.isPrefixOf_iff_prefix.1 hprefix)),
    replaceAll]

/-- No occurrence starts where the pattern's first character does not stand. -/
theorem replaceAll_append_of_not_mem {p : Char} {front : List Char} (h : p ∉ front) :
    replaceAll (p :: pattern) v (front ++ cs) = front ++ replaceAll (p :: pattern) v cs := by
  induction front with
  | nil => rfl
  | cons c front ih =>
    rw [List.mem_cons, not_or] at h
    have hprefix : ¬(p :: pattern) <+: c :: (front ++ cs) :=
      fun hp => h.1 (List.cons_prefix_cons.1 hp).1
    rw [List.cons_append, replaceAll_cons_of_not_prefix hprefix, ih h.2, List.cons_append]

theorem replaceAll_of_not_mem {p : Char} (h : p ∉ cs) : replaceAll (p :: pattern) v cs = cs := by
  have hnil : replaceAll (p :: pattern) v [] = [] := rfl
  rw [← List.append_nil cs, replaceAll_append_of_not_mem h, hnil]

end ExportLedger.Text
