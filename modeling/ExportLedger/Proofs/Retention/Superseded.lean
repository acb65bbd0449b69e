import ExportLedger.Proofs.Retention.Reached
/-!
A pass takes away the members that are superseded and nothing else: one is kept, the deletion of
every other one is asked for once, and the result tells which of them are gone.
-/
namespace ExportLedger.Retention

section Answers

variable {s : Memory} {names : List String}

theorem deletedNames_of_mem (h : ∀ n ∈ names, n ∈ s.objects.names) :
    deletedNames (names.map fun n => (n, (Container.delete s n).1)) =
      names.filter (· ∉ s.failingDeletes) := by
  rw [deletedNames, List.filterMap_map, ← List.filterMap_eq_filter]
  refine List.filterMap_congr fun n hn => ?_
  have hanswer := Memory.fst_delete_of_mem (h n hn)
  by_cases hfail : n ∈ s.failingDeletes
  · rw [if_pos hfail] at hanswer
    simp [hanswer, hfail, Option.guard]
  · rw [if_neg hfail] at hanswer
    simp [hanswer, hfail, Option.guard]

theorem failures_of_mem (h : ∀ n ∈ names, n ∈ s.objects.names) :
    failures (names.map fun n => (n, (Container.delete s n).1)) =
      (names.filter (· ∈ s.failingDeletes)).map fun n => ⟨n, s.injected .delete n⟩ := by
  rw [failures, List.filterMap_map, ← List.filterMap_eq_map, ← List.filterMap_eq_filter,
    List.filterMap_filterMap]
  refine List.filterMap_congr fun n hn => ?_
  have hanswer := Memory.fst_delete_of_mem (h n hn)
  by_cases hfail : n ∈ s.failingDeletes
  · rw [if_pos hfail] at hanswer
    simp [hanswer, hfail, Option.guard]
  · rw [if_neg hfail] at hanswer
    simp [hanswer, hfail, Option.guard]

end Answers

variable [Ord κ] {rule : Rule κ} {s t : Memory} {result : Except PruneError PruneResult}
  {kept : String}

/-- The members but the one that is kept, as they are listed. -/
def Rule.others (rule : Rule κ) (s : Memory) (kept : String) : List String :=
  (s.objects.names.filter rule.isMember).filter (· ≠ kept)

/-- One member is kept and all others are asked to be deleted; `s` and `t` are the stores before and
after. -/
structure Thinned (rule : Rule κ) (s : Memory) (result : Except PruneError PruneResult) (t : Memory)
    (kept : String) :
    Prop where
  member : kept ∈ s.objects.names ∧ rule.isMember kept
  /-- By key, and by name where keys do not tell. -/
  greatest : ∀ n ∈ rule.others s kept, Naming.isAfter (rule.key kept, kept) (rule.key n, n)
  attempts : ∃ attempts, t.deletesAttempted = s.deletesAttempted ++ attempts ∧
    ∀ n, attempts.count n = if n ∈ rule.others s kept then 1 else 0
  objects : ∀ n, t.objects.get? n =
    if n ∈ rule.others s kept ∧ n ∉ s.failingDeletes then none else s.objects.get? n
  alike : s.Alike t
  complete : (∀ n ∈ rule.others s kept, n ∉ s.failingDeletes) →
    result = .ok (.pruned kept (rule.others s kept))
  incomplete : (∃ n ∈ rule.others s kept, n ∈ s.failingDeletes) →
    result = .error (.deletions s.name kept ((rule.others s kept).filter (· ∉ s.failingDeletes))
      (((rule.others s kept).filter (· ∈ s.failingDeletes)).map fun n => ⟨n, s.injected .delete n⟩))
  count : ((rule.others s kept).filter (· ∈ s.failingDeletes)).length +
    ((rule.others s kept).filter (· ∉ s.failingDeletes)).length + 1 =
      (s.objects.names.filter rule.isMember).length

/-- What comes of a pass over a store in memory. -/
structure Superseded (rule : Rule κ) (s : Memory) (result : Except PruneError PruneResult)
    (t : Memory) : Prop where
  unlisted : s.failsList = true → result = .error (.list s.name (s.injected .list "")) ∧ t = s
  empty : s.failsList = false → s.objects.names = [] → result = .ok .collectionEmpty ∧ t = s
  memberless : s.failsList = false → s.objects.names ≠ [] →
    (∀ n ∈ s.objects.names, ¬rule.isMember n) →
    result = .ok .nothingToDelete ∧ t = s
  thinned : s.failsList = false → (∃ n ∈ s.objects.names, rule.isMember n) →
    ∃ kept, Thinned rule s result t kept

theorem prune_of_empty (h : s.failsList = false) (hempty : s.objects.names = []) :
    prune rule s = (.ok .collectionEmpty, s) := by
  simp only [prune, Memory.list_eq h, Rule.survey, if_pos hempty]

theorem prune_of_memberless (h : s.failsList = false) (hnames : s.objects.names ≠ [])
    (hmembers : ∀ n ∈ s.objects.names, ¬rule.isMember n) :
    prune rule s = (.ok .nothingToDelete, s) := by
  have hnone : s.objects.names.filter rule.isMember = [] := List.filter_eq_nil_iff.2 hmembers
  simp only [prune, Memory.list_eq h, Rule.survey, if_neg hnames, hnone]
  rfl

theorem length_others (hkept : rule.Keeps s.objects.names kept) :
    (rule.others s kept).length + 1 = (s.objects.names.filter rule.isMember).length := by
  have hnodup := s.objects.nodup_names.filter rule.isMember
  have herase : (s.objects.names.filter rule.isMember).erase kept = rule.others s kept := by
    rw [hnodup.erase_eq_filter, Rule.others]
    exact List.filter_congr fun n _ => by rw [bne, Bool.beq_eq_decide_eq, decide_not]
  rw [← herase, List.length_erase_of_mem hkept.1]
  exact Nat.sub_add_cancel (List.length_pos_of_mem hkept.1)

/-- In which order the deletions take effect is open. -/
theorem exists_run_in_order {order : List String} (h : order.Perm (rule.targets s)) :
    ∃ result, Run rule (.ready, s) (.finished result, (deleteAll s order).2) := by
  cases hfails : s.failsList with
  | true =>
    rw [Rule.targets_of_list_fails hfails] at h
    rw [h.eq_nil]
    exact ⟨_, .single (.fails (Memory.list_eq_error hfails))⟩
  | false =>
    have hstep : Step rule (.ready, s) ((rule.survey s.objects.names).progress s.name, s) :=
      .lists (Memory.list_eq hfails)
    rw [Rule.targets_of_lists hfails, Rule.doomed] at h
    cases hsurvey : rule.survey s.objects.names with
    | collectionEmpty =>
      rw [hsurvey] at h hstep
      rw [h.eq_nil]
      exact ⟨_, .single hstep⟩
    | nothingToDelete =>
      rw [hsurvey] at h hstep
      rw [h.eq_nil]
      exact ⟨_, .single hstep⟩
    | plan kept doomed =>
      rw [hsurvey] at h hstep
      rw [← pending_map_none doomed] at h
      obtain ⟨result, hrun⟩ := exists_run_of_perm rule s s.name kept h
      exact ⟨result, .head hstep hrun⟩

variable [Std.TransOrd κ]

theorem doomed_eq_others (hkept : rule.Keeps s.objects.names kept) :
    rule.doomed s.objects.names = rule.others s kept := by
  rw [Rule.doomed, Rule.survey_of_keeps hkept]
  rfl

theorem isAfter_of_keeps (hkept : rule.Keeps s.objects.names kept) {n : String}
    (hn : n ∈ rule.others s kept) :
    Naming.isAfter (rule.key kept, kept) (rule.key n, n) := by
  obtain ⟨hmember, hne⟩ := List.mem_filter.1 hn
  obtain ⟨hin, k, hkey, hmax⟩ := hkept
  cases hkey
  by_contra hnot
  rw [Bool.not_eq_true] at hnot
  have heq := Naming.name_eq_of_isAfter_eq_false (hmax n hmember _ rfl) hnot
  exact of_decide_eq_true hne heq

theorem thinned_of_cleared (h : s.failsList = false) (hkept : rule.Keeps s.objects.names kept)
    (hcleared : Cleared s (rule.targets s) t) : Thinned rule s (prune rule s).1 t kept := by
  rw [Rule.targets_of_lists h, doomed_eq_others hkept] at hcleared
  have hheld : ∀ n ∈ rule.others s kept, n ∈ s.objects.names := fun n hn =>
    (List.mem_filter.1 (List.mem_filter.1 hn).1).1
  have hresult := fst_prune_of_keeps h hkept
  rw [doomed_eq_others hkept, settle, deletedNames_of_mem hheld, failures_of_mem hheld] at hresult
  refine ⟨List.mem_filter.1 hkept.1, fun n => isAfter_of_keeps hkept, ?_, hcleared.objects,
    hcleared.alike, fun hnone => ?_, fun hsome => ?_, ?_⟩
  · obtain ⟨attempts, hattempts, hlatest⟩ := hcleared.attempts
    have hnodup := doomed_eq_others hkept ▸ nodup_doomed rule s.objects
    refine ⟨attempts.reverse, ?_, fun n => ?_⟩
    · rw [Memory.deletesAttempted, hlatest, List.reverse_append]
      rfl
    · rw [List.count_reverse, hattempts.count_eq, hnodup.count]
  · have hfailed : (rule.others s kept).filter (· ∈ s.failingDeletes) = [] :=
      List.filter_eq_nil_iff.2 fun n hn => by simp [hnone n hn]
    have hgone : (rule.others s kept).filter (· ∉ s.failingDeletes) = rule.others s kept :=
      List.filter_eq_self.2 fun n hn => by simp [hnone n hn]
    rw [hresult, hfailed, hgone]
    rfl
  · obtain ⟨n, hn, hfail⟩ := hsome
    have hfailed : (rule.others s kept).filter (· ∈ s.failingDeletes) ≠ [] :=
      List.ne_nil_of_mem (List.mem_filter.2 ⟨hn, decide_eq_true hfail⟩)
    rw [hresult, if_neg (mt List.map_eq_nil_iff.1 hfailed)]
  · have hsplit := List.length_eq_length_filter_add (l := rule.others s kept) (· ∈ s.failingDeletes)
    have hothers := length_others hkept
    simp only [decide_not]
    omega

theorem superseded_of_run (h : Run rule (.ready, s) (.finished result, t)) :
    Superseded rule s result t := by
  obtain ⟨rfl, hcleared⟩ := (reached_of_run h).result_eq
  refine ⟨fun hfails => ?_, fun hlists hempty => ?_, fun hlists hnames hmembers => ?_,
    fun hlists hsome => ?_⟩
  · rw [Rule.targets_of_list_fails hfails] at hcleared
    exact ⟨congrArg Prod.fst (prune_of_list_fails hfails), hcleared.eq⟩
  · have hmembers : ∀ n ∈ s.objects.names, ¬rule.isMember n := by simp [hempty]
    rw [Rule.targets_of_lists hlists, Rule.doomed_of_no_members hmembers] at hcleared
    exact ⟨congrArg Prod.fst (prune_of_empty hlists hempty), hcleared.eq⟩
  · rw [Rule.targets_of_lists hlists, Rule.doomed_of_no_members hmembers] at hcleared
    exact ⟨congrArg Prod.fst (prune_of_memberless hlists hnames hmembers), hcleared.eq⟩
  · obtain ⟨n, hn, hmember⟩ := hsome
    obtain ⟨kept, hkept⟩ := Rule.exists_keeps hn hmember
    exact ⟨kept, thinned_of_cleared hlists hkept hcleared⟩

/-- A pass takes away what is superseded, in whatever order its deletions take effect. Every order
occurs, and every pass can be run to its end. -/
theorem run_supersedes (rule : Rule κ) (s : Memory) :
    (∀ result t, Run rule (.ready, s) (.finished result, t) → Superseded rule s result t) ∧
      Run rule (.ready, s) (.finished (prune rule s).1, (prune rule s).2) ∧
      (∀ order, order.Perm (rule.targets s) →
        ∃ result, Run rule (.ready, s) (.finished result, (deleteAll s order).2)) ∧
      ∀ (p : Progress) (t : Memory), ∃ result after, Run rule (p, t) (.finished result, after) :=
  ⟨fun _ _ => superseded_of_run, run_prune rule s, fun _ => exists_run_in_order,
    exists_run_finished rule⟩

/-- Two of the marked files have one key, and one delete is going to fail. -/
def tiedFiles : Memory where
  name := "results"
  objects := .ofList [("TARS8.xml", "d".toUTF8), ("processed-TARS-7.xml", "a".toUTF8),
    ("processed-TARS6.xml", "b".toUTF8), ("processed-TARS7.xml", "c".toUTF8)]
  failingDeletes := ["processed-TARS6.xml"]

theorem run_supersedes_tiedFiles : ∃ result t,
    Run (.processedFiles "processed-") (.ready, tiedFiles) (.finished result, t) ∧
      t.deletesAttempted = ["processed-TARS6.xml", "processed-TARS-7.xml"] ∧
      Superseded (.processedFiles "processed-") tiedFiles result t ∧
      result = .error (.deletions "results" "processed-TARS7.xml" ["processed-TARS-7.xml"]
        [⟨"processed-TARS6.xml", tiedFiles.injected .delete "processed-TARS6.xml"⟩]) := by
  have hall := run_supersedes (.processedFiles "processed-") tiedFiles
  have horder : List.Perm ["processed-TARS6.xml", "processed-TARS-7.xml"]
      (Rule.targets (.processedFiles "processed-") tiedFiles) := by
    decide +kernel
  obtain ⟨result, hrun⟩ := hall.2.2.1 _ horder
  have hresult := (reached_of_run hrun).result_eq.1
  exact ⟨result, _, hrun, by decide +kernel, hall.1 _ _ hrun, hresult.trans (by decide +kernel)⟩

end ExportLedger.Retention
