import Mathlib.Data.List.Nodup
import ExportLedger.Proofs.Retention.Concurrent
import ExportLedger.Proofs.Retention.Prune
/-!
How far a pass over a store in memory can have come. The names that were listed decide what is asked
for, and no deletion changes the answer to another one, so that the order in which they take effect
does not matter.
-/
namespace ExportLedger.Retention

/-- The names whose deletion has taken effect. -/
def attempted (deletions : List Deletion) : List String :=
  (deletions.filter (·.2.isSome)).map Prod.fst

theorem mem_attempted_iff {deletions : List Deletion} {n : String} :
    n ∈ attempted deletions ↔ ∃ answer, (n, some answer) ∈ deletions := by
  simp only [attempted, List.mem_map, List.mem_filter, Option.isSome_iff_exists]
  constructor
  · rintro ⟨⟨name, _⟩, ⟨hmem, answer, rfl⟩, rfl⟩
    exact ⟨answer, hmem⟩
  · rintro ⟨answer, hmem⟩
    exact ⟨_, ⟨hmem, answer, rfl⟩, rfl⟩

theorem attempted_sublist (deletions : List Deletion) :
    (attempted deletions).Sublist (deletions.map Prod.fst) :=
  List.filter_sublist.map Prod.fst

theorem attempted_answered (results : List (String × Except StoreError Unit)) :
    attempted (answered results) = results.map Prod.fst := by
  induction results with
  | nil => rfl
  | cons r results ih => exact congrArg (r.1 :: ·) ih

theorem attempted_map_none (names : List String) : attempted (names.map (·, none)) = [] := by
  induction names with
  | nil => rfl
  | cons name names ih => exact ih

/-- What becomes of a store when some names are deleted, in any order. -/
structure Cleared (s : Memory) (names : List String) (t : Memory) : Prop where
  alike : s.Alike t
  objects : ∀ n, t.objects.get? n = if n ∈ names ∧ n ∉ s.failingDeletes then none
    else s.objects.get? n
  attempts : ∃ attempts, attempts.Perm names ∧ t.latestDeletes = attempts ++ s.latestDeletes

namespace Cleared

variable {s t u : Memory} {names others : List String} {name : String}

theorem refl (s : Memory) : Cleared s [] s where
  alike := .refl s
  objects n := by simp
  attempts := ⟨[], .refl _, rfl⟩

theorem perm (h : Cleared s names t) (hperm : names.Perm others) : Cleared s others t where
  alike := h.alike
  objects n := by simp only [h.objects, hperm.mem_iff]
  attempts := by
    obtain ⟨attempts, hattempts, hlatest⟩ := h.attempts
    exact ⟨attempts, hattempts.trans hperm, hlatest⟩

theorem delete (h : Cleared s names t) (name : String) :
    Cleared s (name :: names) (Container.delete t name).2 where
  alike := h.alike.trans (Memory.alike_delete t name)
  objects n := by
    rw [Memory.get?_delete, h.objects, h.alike.failingDeletes]
    by_cases heq : n = name
    · subst heq
      by_cases hfail : n ∈ s.failingDeletes <;> simp [hfail]
    · simp [heq]
  attempts := by
    obtain ⟨attempts, hattempts, hlatest⟩ := h.attempts
    exact ⟨name :: attempts, hattempts.cons name,
      by rw [Memory.latestDeletes_delete, hlatest, List.cons_append]⟩

/-- The names that are left are deleted as they would have been at first. -/
theorem fst_delete (h : Cleared s names t) (hname : name ∉ names) :
    (Container.delete t name).1 = (Container.delete s name).1 := by
  refine Memory.fst_delete_congr h.alike ?_
  rw [h.objects, if_neg fun hgone => hname hgone.1]

theorem objects_unique (ht : Cleared s names t) (hu : Cleared s names u) : t.objects = u.objects :=
  NameMap.ext_get? fun n => by rw [ht.objects, hu.objects]

theorem eq (h : Cleared s [] t) : t = s := by
  obtain ⟨attempts, hattempts, hlatest⟩ := h.attempts
  have hobjects : t.objects = s.objects := h.objects_unique (.refl s)
  have halike := h.alike
  rw [hattempts.eq_nil, List.nil_append] at hlatest
  cases s
  cases t
  simp only [Memory.mk.injEq]
  exact ⟨halike.name, hobjects, halike.failsList, halike.failingDownloads, halike.failingExists,
    halike.failingDeletes, hlatest⟩

end Cleared

theorem cleared_deleteAll (s : Memory) (names : List String) :
    Cleared s names (deleteAll s names).2 where
  alike := alike_deleteAll s names
  objects := get?_deleteAll s names
  attempts := ⟨names.reverse, names.reverse_perm, latestDeletes_deleteAll s names⟩

variable [Ord κ] {rule : Rule κ} {s t u : Memory} {p q : Progress} {container kept name : String}

/-- What a pass asks to delete, if it comes so far. -/
def Rule.targets (rule : Rule κ) (s : Memory) : List String :=
  if s.failsList then [] else rule.doomed s.objects.names

theorem Rule.targets_of_list_fails (h : s.failsList = true) : rule.targets s = [] := if_pos h

theorem Rule.targets_of_lists (h : s.failsList = false) :
    rule.targets s = rule.doomed s.objects.names :=
  if_neg (by simp [h])

theorem cleared_prune (rule : Rule κ) (s : Memory) :
    Cleared s (rule.targets s) (prune rule s).2 := by
  cases h : s.failsList with
  | true =>
    rw [prune_of_list_fails h, Rule.targets_of_list_fails h]
    exact .refl s
  | false =>
    rw [prune_of_lists h, Rule.targets_of_lists h]
    exact cleared_deleteAll s _

/-- Where a pass can be and what the store is then. The answers are those that the store gave at
first, and the result is the one that pruning has. -/
inductive Reached (rule : Rule κ) (s : Memory) : Progress → Memory → Prop
  | ready : Reached rule s .ready s
  | deleting {t : Memory} {kept : String} {deletions : List Deletion} : s.failsList = false →
      rule.Keeps s.objects.names kept → deletions.map Prod.fst = rule.doomed s.objects.names →
      (∀ n answer, (n, some answer) ∈ deletions → answer = (Container.delete s n).1) →
      Cleared s (attempted deletions) t → Reached rule s (.deleting s.name kept deletions) t
  | finished {t : Memory} : Cleared s (rule.targets s) t →
      Reached rule s (.finished (prune rule s).1) t

theorem reached_of_list_fails (h : s.failsList = true) :
    Reached rule s (.finished (.error (.list s.name (s.injected .list "")))) s := by
  have hfinished := Reached.finished (cleared_prune rule s)
  rwa [prune_of_list_fails h] at hfinished

theorem Reached.result_eq {result : Except PruneError PruneResult}
    (h : Reached rule s (.finished result) t) :
    result = (prune rule s).1 ∧ Cleared s (rule.targets s) t := by
  cases h with
  | finished hcleared => exact ⟨rfl, hcleared⟩

variable [Std.TransOrd κ]

theorem nodup_doomed (rule : Rule κ) (m : NameMap α) : (rule.doomed m.names).Nodup := by
  by_cases hsome : ∃ n ∈ m.names, rule.isMember n
  · obtain ⟨n, hn, hmember⟩ := hsome
    obtain ⟨kept, hkept⟩ := Rule.exists_keeps hn hmember
    rw [Rule.doomed, Rule.survey_of_keeps hkept]
    exact (m.nodup_names.filter _).filter _
  · rw [Rule.doomed_of_no_members fun n hn hmember => hsome ⟨n, hn, hmember⟩]
    exact .nil

theorem nodup_targets (rule : Rule κ) (s : Memory) : (rule.targets s).Nodup := by
  unfold Rule.targets
  split
  · exact .nil
  · exact nodup_doomed rule s.objects

theorem fst_prune_of_keeps (h : s.failsList = false) (hkept : rule.Keeps s.objects.names kept) :
    (prune rule s).1 =
      settle s.name kept ((rule.doomed s.objects.names).map fun n =>
        (n, (Container.delete s n).1)) := by
  have hdoomed : rule.survey s.objects.names = .plan kept (rule.doomed s.objects.names) := by
    rw [Rule.doomed, Rule.survey_of_keeps hkept]
  rw [← fst_deleteAll s (nodup_doomed rule s.objects)]
  simp only [prune, Memory.list_eq h, hdoomed]
  rfl

theorem reached_of_lists (h : s.failsList = false) :
    Reached rule s ((rule.survey s.objects.names).progress s.name) s := by
  have hlist := Memory.list_eq h
  have hfinished := Reached.finished (cleared_prune rule s)
  cases hsurvey : rule.survey s.objects.names with
  | collectionEmpty =>
    have hprune : prune rule s = (.ok .collectionEmpty, s) := by simp only [prune, hlist, hsurvey]
    rwa [hprune] at hfinished
  | nothingToDelete =>
    have hprune : prune rule s = (.ok .nothingToDelete, s) := by simp only [prune, hlist, hsurvey]
    rwa [hprune] at hfinished
  | plan kept doomed =>
    have hdoomed : rule.doomed s.objects.names = doomed := by simp only [Rule.doomed, hsurvey]
    refine .deleting h (Rule.keeps_of_survey hsurvey) ?_ ?_ ?_
    · rw [List.map_map, hdoomed]
      exact List.map_id doomed
    · intro n answer hmem
      simp at hmem
    · rw [attempted_map_none]
      exact .refl s

/-- One more deletion has its answer, and it is the one that the store would have given at first. -/
theorem Reached.delete {before rest : List Deletion}
    (h : Reached rule s (.deleting container kept (before ++ (name, none) :: rest)) t) :
    Reached rule s
      (.deleting container kept (before ++ (name, some (Container.delete t name).1) :: rest))
      (Container.delete t name).2 := by
  cases h with
  | deleting hlists hkept hnames hanswers hcleared =>
    have hnodup := hnames ▸ nodup_doomed rule s.objects
    have hopen : name ∉ attempted (before ++ (name, none) :: rest) := by
      rw [mem_attempted_iff]
      rintro ⟨answer, hmem⟩
      have hsame :=
        List.inj_on_of_nodup_map hnodup hmem (List.mem_append_right before List.mem_cons_self) rfl
      cases hsame
    refine .deleting hlists hkept ?_ ?_ ?_
    · rw [← hnames, List.map_append, List.map_append, List.map_cons, List.map_cons]
    · intro n answer hmem
      simp only [List.mem_append, List.mem_cons] at hmem hanswers
      rcases hmem with hmem | hmem | hmem
      · exact hanswers n answer (.inl hmem)
      · cases hmem
        exact hcleared.fst_delete hopen
      · exact hanswers n answer (.inr (.inr hmem))
    · have hperm : (name :: attempted (before ++ (name, none) :: rest)).Perm
          (attempted (before ++ (name, some (Container.delete t name).1) :: rest)) := by
        simp only [attempted, List.filter_append, List.filter_cons, List.map_append]
        exact List.perm_middle.symm
      exact (hcleared.delete name).perm hperm

/-- The results are settled as those of a pass that deletes one name after the other. -/
theorem Reached.settle {results : List (String × Except StoreError Unit)}
    (h : Reached rule s (.deleting container kept (answered results)) t) :
    Reached rule s (.finished (settle container kept results)) t := by
  cases h with
  | deleting hlists hkept hnames hanswers hcleared =>
    have hfst : results.map Prod.fst = rule.doomed s.objects.names := by
      rw [← hnames, answered, List.map_map]
      rfl
    have hresults : results = (rule.doomed s.objects.names).map fun n =>
        (n, (Container.delete s n).1) := by
      rw [← hfst, List.map_map]
      refine (List.map_id' results).symm.trans (List.map_congr_left fun r hr => ?_)
      have hanswer := hanswers r.1 r.2 (List.mem_map.2 ⟨r, hr, rfl⟩)
      exact Prod.ext rfl hanswer
    rw [attempted_answered, hfst, ← Rule.targets_of_lists hlists] at hcleared
    rw [hresults, ← fst_prune_of_keeps hlists hkept]
    exact .finished hcleared

theorem Reached.step (h : Reached rule s p t) (hstep : Step rule (p, t) (q, u)) :
    Reached rule s q u := by
  cases hstep with
  | fails hlist =>
    cases h
    cases hfails : s.failsList with
    | true =>
      cases (Memory.list_eq_error hfails).symm.trans hlist
      exact reached_of_list_fails hfails
    | false => cases (Memory.list_eq hfails).symm.trans hlist
  | lists hlist =>
    cases h
    cases hfails : s.failsList with
    | true => cases (Memory.list_eq_error hfails).symm.trans hlist
    | false =>
      cases (Memory.list_eq hfails).symm.trans hlist
      exact reached_of_lists hfails
  | deletes hdelete hasked hgot =>
    subst hasked hgot
    have hnext := h.delete
    rw [hdelete] at hnext
    exact hnext
  | settles hanswered =>
    subst hanswered
    exact h.settle

/-- Wherever a run has led, nothing depends on the order in which its deletions have taken
effect. -/
theorem reached_of_run (h : Run rule (.ready, s) (p, t)) : Reached rule s p t := by
  generalize hend : (p, t) = reached at h
  induction h generalizing p t with
  | refl =>
    cases hend
    exact .ready
  | tail _ hstep ih =>
    subst hend
    exact (ih rfl).step hstep

/-- A run that comes to its end has the result of pruning and leaves the same objects. -/
theorem finished_of_run {result : Except PruneError PruneResult}
    (h : Run rule (.ready, s) (.finished result, t)) :
    result = (prune rule s).1 ∧ t.objects = (prune rule s).2.objects := by
  obtain ⟨hresult, hcleared⟩ := (reached_of_run h).result_eq
  exact ⟨hresult, hcleared.objects_unique (cleared_prune rule s)⟩

end ExportLedger.Retention
