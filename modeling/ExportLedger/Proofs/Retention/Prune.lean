import ExportLedger.Proofs.Naming
import ExportLedger.Proofs.Store.Memory
import ExportLedger.Retention.Prune
/-!
What a pass over a store in memory takes away: every member but the newest, as far as deletes
succeed.
-/
namespace ExportLedger.Retention

section Plan

variable [Ord κ] {rule : Rule κ} {names : List String} {n : String}

/-- The member that a pass keeps. -/
def Rule.Keeps (rule : Rule κ) (names : List String) (m : String) : Prop :=
  Naming.IsNewest (fun name => some (rule.key name)) (names.filter rule.isMember) m

/-- What a pass over some names tries to delete. -/
def Rule.doomed (rule : Rule κ) (names : List String) : List String :=
  match rule.survey names with
  | .plan _ doomed => doomed
  | _ => []

theorem Rule.doomed_of_no_members (h : ∀ n ∈ names, ¬rule.isMember n) : rule.doomed names = [] := by
  have hmembers : names.filter rule.isMember = [] := List.filter_eq_nil_iff.2 h
  simp only [doomed, survey, hmembers]
  by_cases hempty : names = []
  · rw [if_pos hempty]
  · rw [if_neg hempty]
    rfl

variable [Std.TransOrd κ]

theorem Rule.survey_of_keeps {m : String} (h : rule.Keeps names m) :
    rule.survey names = .plan m ((names.filter rule.isMember).filter (· ≠ m)) := by
  have hne : names ≠ [] := List.ne_nil_of_mem (List.mem_filter.1 h.1).1
  have hnewest := Naming.newest?_eq_some_iff.2 h
  simp only [survey, if_neg hne, hnewest]

theorem Rule.keeps_of_survey {m : String} {doomed : List String}
    (h : rule.survey names = .plan m doomed) :
    rule.Keeps names m := by
  simp only [survey] at h
  split at h
  · contradiction
  · split at h
    · contradiction
    · rename_i hnewest
      cases h
      exact Naming.newest?_eq_some_iff.1 hnewest

theorem Rule.exists_keeps (hn : n ∈ names) (hm : rule.isMember n) : ∃ m, rule.Keeps names m := by
  cases hnewest :
    Naming.newest? (fun name => some (rule.key name)) (names.filter rule.isMember) with
  | none =>
    have hnone := Naming.newest?_eq_none_iff.1 hnewest n (List.mem_filter.2 ⟨hn, hm⟩)
    contradiction
  | some m => exact ⟨m, Naming.newest?_eq_some_iff.1 hnewest⟩

theorem Rule.mem_doomed_iff :
    n ∈ rule.doomed names ↔ n ∈ names ∧ rule.isMember n ∧ ¬rule.Keeps names n := by
  by_cases hsome : ∃ o ∈ names, rule.isMember o
  · obtain ⟨o, ho, hmo⟩ := hsome
    obtain ⟨m, hm⟩ := Rule.exists_keeps ho hmo
    have hiff : n = m ↔ rule.Keeps names n := ⟨fun h => h ▸ hm, fun h => h.unique hm⟩
    rw [doomed, Rule.survey_of_keeps hm, List.mem_filter, List.mem_filter, decide_eq_true_iff,
      ne_eq, hiff, and_assoc]
  · have hnone : ∀ o ∈ names, ¬rule.isMember o := fun o ho hmo => hsome ⟨o, ho, hmo⟩
    rw [Rule.doomed_of_no_members hnone]
    simp only [List.not_mem_nil, false_iff]
    rintro ⟨hn, hm, -⟩
    exact hnone n hn hm

end Plan

theorem alike_deleteAll (s : Memory) (names : List String) : s.Alike (deleteAll s names).2 := by
  induction names generalizing s with
  | nil => exact .refl s
  | cons name names ih => exact (Memory.alike_delete s name).trans (ih _)

theorem get?_deleteAll (s : Memory) (names : List String) (n : String) :
    (deleteAll s names).2.objects.get? n =
      if n ∈ names ∧ n ∉ s.failingDeletes then none else s.objects.get? n := by
  induction names generalizing s with
  | nil => simp [deleteAll]
  | cons name names ih =>
    have halike := Memory.alike_delete s name
    have hstep : (deleteAll s (name :: names)).2 =
        (deleteAll (Container.delete s name).2 names).2 := rfl
    rw [hstep, ih, halike.failingDeletes, Memory.get?_delete]
    by_cases heq : n = name
    · subst heq
      by_cases hfail : n ∈ s.failingDeletes <;> simp [hfail]
    · simp [heq]

theorem latestDeletes_deleteAll (s : Memory) (names : List String) :
    (deleteAll s names).2.latestDeletes = names.reverse ++ s.latestDeletes := by
  induction names generalizing s with
  | nil => rfl
  | cons name names ih =>
    have hstep : (deleteAll s (name :: names)).2 =
        (deleteAll (Container.delete s name).2 names).2 := rfl
    rw [hstep, ih, Memory.latestDeletes_delete, List.reverse_cons, List.append_assoc]
    rfl

/-- Each name is answered as if it were the only one. -/
theorem fst_deleteAll (s : Memory) {names : List String} (h : names.Nodup) :
    (deleteAll s names).1 = names.map fun n => (n, (Container.delete s n).1) := by
  induction names generalizing s with
  | nil => rfl
  | cons name names ih =>
    obtain ⟨hname, hnames⟩ := List.nodup_cons.1 h
    have hstep : (deleteAll s (name :: names)).1 =
        (name, (Container.delete s name).1) :: (deleteAll (Container.delete s name).2 names).1 :=
          rfl
    rw [hstep, ih _ hnames, List.map_cons]
    refine congrArg _ (List.map_congr_left fun n hn => ?_)
    have hne : n ≠ name := fun heq => hname (heq ▸ hn)
    have hget : (Container.delete s name).2.objects.get? n = s.objects.get? n := by
      rw [Memory.get?_delete, if_neg fun hgone => hne hgone.1]
    rw [Memory.fst_delete_congr (Memory.alike_delete s name) hget]

section Pass

variable [Ord κ] {rule : Rule κ} {s : Memory} {n : String}

theorem prune_of_list_fails (h : s.failsList = true) :
    prune rule s = (.error (.list s.name (s.injected .list "")), s) := by
  simp only [prune, Memory.list_eq_error h]
  rfl

theorem prune_of_lists (h : s.failsList = false) :
    (prune rule s).2 = (deleteAll s (rule.doomed s.objects.names)).2 := by
  simp only [prune, Memory.list_eq h, Rule.doomed]
  cases rule.survey s.objects.names <;> rfl

theorem alike_prune (rule : Rule κ) (s : Memory) : s.Alike (prune rule s).2 := by
  cases h : s.failsList with
  | true =>
    rw [prune_of_list_fails h]
    exact .refl s
  | false =>
    rw [prune_of_lists h]
    exact alike_deleteAll s _

/-- Whatever is held under the name outlives a pass: the listing or the delete fails, or the name is
no member, or it is the member that is kept. -/
def Rule.Spares (rule : Rule κ) (s : Memory) (n : String) : Prop :=
  s.failsList = true ∨ n ∈ s.failingDeletes ∨ rule.isMember n = false ∨ rule.Keeps s.objects.names n

variable [Std.TransOrd κ]

theorem get?_prune_of_spares (h : rule.Spares s n) :
    (prune rule s).2.objects.get? n = s.objects.get? n := by
  cases hlist : s.failsList with
  | true => rw [prune_of_list_fails hlist]
  | false =>
    rw [prune_of_lists hlist, get?_deleteAll, if_neg]
    rintro ⟨hdoomed, hdelete⟩
    obtain ⟨-, hm, hkeep⟩ := Rule.mem_doomed_iff.1 hdoomed
    rcases h with h | h | h | h
    · rw [hlist] at h
      contradiction
    · exact hdelete h
    · rw [hm] at h
      contradiction
    · exact hkeep h

theorem get?_prune_of_not_spares (h : ¬rule.Spares s n) :
    (prune rule s).2.objects.get? n = none := by
  simp only [Rule.Spares, not_or, Bool.not_eq_true, Bool.not_eq_false] at h
  obtain ⟨hlist, hdelete, hm, hkeep⟩ := h
  rw [prune_of_lists hlist, get?_deleteAll]
  split
  · rfl
  · rename_i hstays
    refine NameMap.not_mem_names_iff.1 fun hn => hstays ⟨?_, hdelete⟩
    exact Rule.mem_doomed_iff.2 ⟨hn, hm, hkeep⟩

theorem mem_names_prune_iff :
    n ∈ (prune rule s).2.objects.names ↔ n ∈ s.objects.names ∧ rule.Spares s n := by
  by_cases h : rule.Spares s n
  · rw [NameMap.mem_names_iff, NameMap.mem_names_iff, get?_prune_of_spares h]
    simp [h]
  · rw [NameMap.mem_names_iff, get?_prune_of_not_spares h]
    simp [h]

end Pass

end ExportLedger.Retention
