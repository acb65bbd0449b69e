import Mathlib.Logic.Relation
import ExportLedger.Retention.Prune
/-!
A pass request by request. The store is asked for its names once; then all deletions are asked for
together, and they take effect in any order, each of them at once: a store answers one request at a
time. Pruning, which makes them in the order of the names, is one way to run a pass, and every pass
can be run to its end.
-/
namespace ExportLedger.Retention

/-- A deletion that is asked for, with its answer as soon as it has taken effect. -/
abbrev Deletion := String × Option (Except StoreError Unit)

/-- How far a pass has come. -/
inductive Progress where
  | ready
  /-- The deletions stay in the order of the names, in whatever order they take effect. -/
  | deleting (container kept : String) (deletions : List Deletion)
  | finished (result : Except PruneError PruneResult)

/-- What is to be done once the names are known. -/
def Survey.progress (container : String) : Survey → Progress
  | collectionEmpty => .finished (.ok .collectionEmpty)
  | nothingToDelete => .finished (.ok .nothingToDelete)
  | plan kept doomed => .deleting container kept (doomed.map (·, none))

def answered (results : List (String × Except StoreError Unit)) : List Deletion :=
  results.map fun r => (r.1, some r.2)

theorem answered_append_cons (results : List (String × Except StoreError Unit)) (name : String)
    (result : Except StoreError Unit) (deletions : List Deletion) :
    answered results ++ (name, some result) :: deletions = answered (results ++ [(name, result)]) ++
      deletions := by
  simp [answered]

/-- The names whose deletion has not taken effect yet. -/
def pending (deletions : List Deletion) : List String :=
  (deletions.filter (·.2.isNone)).map Prod.fst

theorem mem_pending_iff {deletions : List Deletion} {name : String} :
    name ∈ pending deletions ↔ (name, none) ∈ deletions := by
  simp only [pending, List.mem_map, List.mem_filter, Option.isNone_iff_eq_none]
  constructor
  · rintro ⟨⟨n, answer⟩, ⟨hmem, rfl⟩, rfl⟩
    exact hmem
  · intro hmem
    exact ⟨_, ⟨hmem, rfl⟩, rfl⟩

theorem pending_map_none (names : List String) : pending (names.map (·, none)) = names := by
  induction names with
  | nil => rfl
  | cons name names ih => exact congrArg (name :: ·) ih

theorem exists_answered {deletions : List Deletion} (h : pending deletions = []) :
    ∃ results, deletions = answered results := by
  induction deletions with
  | nil => exact ⟨[], rfl⟩
  | cons d deletions ih =>
    obtain ⟨name, answer⟩ := d
    cases answer with
    | none => contradiction
    | some result =>
      obtain ⟨results, rfl⟩ := ih h
      exact ⟨(name, result) :: results, rfl⟩

variable [Ord κ] [Container σ]

/-- A single request to the store, or the end of a pass that has all its answers. -/
inductive Step (rule : Rule κ) : Progress × σ → Progress × σ → Prop
  | fails {s : σ} {cause : StoreError} : Container.list s = .error cause →
      Step rule (.ready, s) (.finished (.error (.list (Container.name s) cause)), s)
  | lists {s : σ} {names : List String} : Container.list s = .ok names →
      Step rule (.ready, s) ((rule.survey names).progress (Container.name s), s)
  | deletes {s after : σ} {container kept name : String} {result : Except StoreError Unit}
      {before rest asked got : List Deletion} : Container.delete s name = (result, after) →
      asked = before ++ (name, none) :: rest → got = before ++ (name, some result) :: rest →
      Step rule (.deleting container kept asked, s) (.deleting container kept got, after)
  | settles {s : σ} {container kept : String} {results : List (String × Except StoreError Unit)}
      {deletions : List Deletion} : deletions = answered results →
      Step rule (.deleting container kept deletions, s)
        (.finished (settle container kept results), s)

/-- Any number of steps. A pass that is interrupted ends wherever its steps have led. -/
abbrev Run (rule : Rule κ) : Progress × σ → Progress × σ → Prop := Relation.ReflTransGen (Step rule)

variable {rule : Rule κ}

/-- What is still to be deleted can be deleted in the order of the names. -/
theorem run_deleteAll (s : σ) (container kept : String)
    (results : List (String × Except StoreError Unit)) (doomed : List String) :
    Run rule (.deleting container kept (answered results ++ doomed.map (·, none)), s)
      (.finished (settle container kept (results ++ (deleteAll s doomed).1)),
        (deleteAll s doomed).2) := by
  induction doomed generalizing s results with
  | nil => exact .single (.settles (by simp [deleteAll]))
  | cons name names ih =>
    have hdelete :
        Container.delete s name = ((Container.delete s name).1, (Container.delete s name).2) := rfl
    have hstep : Step rule
        (.deleting container kept (answered results ++ (name :: names).map (·, none)), s) _ :=
      .deletes hdelete rfl (answered_append_cons results name _ _).symm
    have hrest := ih (Container.delete s name).2 (results ++ [(name, (Container.delete s name).1)])
    rw [List.append_assoc] at hrest
    exact .head hstep hrest

/-- Pruning is a run of a pass. -/
theorem run_prune (rule : Rule κ) (s : σ) :
    Run rule (.ready, s) (.finished (prune rule s).1, (prune rule s).2) := by
  cases hlist : Container.list s with
  | error cause =>
    simp only [prune, hlist]
    exact .single (.fails hlist)
  | ok names =>
    have hstep : Step rule (.ready, s) _ := .lists hlist
    simp only [prune, hlist]
    cases hsurvey : rule.survey names with
    | collectionEmpty =>
      rw [hsurvey] at hstep
      exact .single hstep
    | nothingToDelete =>
      rw [hsurvey] at hstep
      exact .single hstep
    | plan kept doomed =>
      rw [hsurvey] at hstep
      exact .head hstep (run_deleteAll s (Container.name s) kept [] doomed)

/-- What is still to be deleted can be deleted in any order. -/
theorem exists_run_of_perm (rule : Rule κ) (s : σ) (container kept : String)
    {deletions : List Deletion} {order : List String} (h : order.Perm (pending deletions)) :
    ∃ result,
      Run rule (.deleting container kept deletions, s) (.finished result, (deleteAll s order).2) := by
  induction order generalizing s deletions with
  | nil =>
    obtain ⟨results, hanswered⟩ := exists_answered h.nil_eq.symm
    exact ⟨_, .single (.settles hanswered)⟩
  | cons name order ih =>
    have hpending : name ∈ pending deletions := h.mem_iff.1 List.mem_cons_self
    obtain ⟨before, rest, rfl⟩ := List.append_of_mem (mem_pending_iff.1 hpending)
    have hrest :
        order.Perm (pending (before ++ (name, some (Container.delete s name).1) :: rest)) := by
      simp only [pending, List.filter_append, List.filter_cons, List.map_append] at h ⊢
      exact (h.trans List.perm_middle).cons_inv
    obtain ⟨result, hrun⟩ := ih (Container.delete s name).2 hrest
    exact ⟨result, .head (.deletes rfl rfl rfl) hrun⟩

/-- However far a pass has come, it can be run to its end. -/
theorem exists_run_finished (rule : Rule κ) (p : Progress) (s : σ) :
    ∃ result after, Run rule (p, s) (.finished result, after) := by
  cases p with
  | ready => exact ⟨_, _, run_prune rule s⟩
  | deleting container kept deletions =>
    obtain ⟨result, hrun⟩ := exists_run_of_perm rule s container kept (.refl (pending deletions))
    exact ⟨result, _, hrun⟩
  | finished result => exact ⟨result, s, .refl⟩

end ExportLedger.Retention
