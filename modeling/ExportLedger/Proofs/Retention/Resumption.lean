import ExportLedger.Proofs.Retention.Superseded
/-!
Passes over one store, one after the other. Each can be interrupted, and deletes can fail; the next
one takes up what is left, keeps the same member, and ends where a single pass without failures
would have ended.
-/
namespace ExportLedger.Retention

/-- The member that a pass has decided to keep. -/
def Progress.kept? : Progress → Option String
  | ready => none
  | deleting _ kept _ => some kept
  | finished (.ok (.pruned kept _)) => some kept
  | finished (.error (.deletions _ kept _ _)) => some kept
  | finished _ => none

/-- One pass, as far as it came. -/
structure Visit where
  before : Memory
  progress : Progress
  after : Memory

variable [Ord κ] {rule : Rule κ} {s t u : Memory} {p : Progress} {kept : String}
  {visits : List Visit}

/-- Each pass begins with what the last one left, has its own failing deletes, and ends anywhere. -/
inductive Visits (rule : Rule κ) : Memory → List Visit → Prop
  | nil {s : Memory} : Visits rule s []
  | cons {s t u : Memory} {p : Progress} {failing : List String} {visits : List Visit} :
      t = { s with failingDeletes := failing } → Run rule (.ready, t) (p, u) →
        Visits rule u visits →
      Visits rule s (⟨t, p, u⟩ :: visits)

theorem Visits.of_append {earlier later : List Visit} {v : Visit}
    (h : Visits rule s (earlier ++ v :: later)) :
    Visits rule v.after later := by
  induction earlier generalizing s with
  | nil =>
    cases h with
    | cons _ _ hrest => exact hrest
  | cons w earlier ih =>
    cases h with
    | cons _ _ hrest => exact ih hrest

/-- What is left of `s`: nothing but superseded members is gone. -/
structure Remnant (rule : Rule κ) (s t : Memory) : Prop where
  lists : t.failsList = false
  held : ∀ n, t.objects.get? n = s.objects.get? n ∨
    n ∈ rule.doomed s.objects.names ∧ t.objects.get? n = none

theorem Remnant.refl (h : s.failsList = false) : Remnant rule s s where
  lists := h
  held _ := .inl rfl

theorem Remnant.mem_names (h : Remnant rule s t) {n : String} (hn : n ∈ t.objects.names) :
    n ∈ s.objects.names := by
  rcases h.held n with hsame | ⟨-, hgone⟩
  · rwa [NameMap.mem_names_iff, hsame, ← NameMap.mem_names_iff] at hn
  · exact absurd hn (NameMap.not_mem_names_iff.2 hgone)

variable [Std.TransOrd κ]

theorem Remnant.keeps (h : Remnant rule s t) (hkept : rule.Keeps s.objects.names kept) :
    rule.Keeps t.objects.names kept := by
  have hin := List.mem_filter.1 hkept.1
  have hheld : kept ∈ t.objects.names := by
    rcases h.held kept with hsame | ⟨hdoomed, -⟩
    · rw [NameMap.mem_names_iff, hsame, ← NameMap.mem_names_iff]
      exact hin.1
    · exact absurd hkept (Rule.mem_doomed_iff.1 hdoomed).2.2
  refine hkept.mono (fun n hn => ?_) (List.mem_filter.2 ⟨hheld, hin.2⟩)
  obtain ⟨hn, hmember⟩ := List.mem_filter.1 hn
  exact List.mem_filter.2 ⟨h.mem_names hn, hmember⟩

/-- What is left to be deleted of a remnant is what was to be deleted, as far as it is still
there. -/
theorem Remnant.mem_doomed_iff (h : Remnant rule s t) (hkept : rule.Keeps s.objects.names kept)
    {n : String} :
    n ∈ rule.doomed t.objects.names ↔ n ∈ rule.doomed s.objects.names ∧ n ∈ t.objects.names := by
  have hkeeps {m : List String} (hm : rule.Keeps m kept) : rule.Keeps m n ↔ n = kept :=
    ⟨fun hn => hn.unique hm, fun heq => heq ▸ hm⟩
  rw [Rule.mem_doomed_iff, Rule.mem_doomed_iff, hkeeps hkept, hkeeps (h.keeps hkept)]
  constructor
  · rintro ⟨hn, hmember, hne⟩
    exact ⟨⟨h.mem_names hn, hmember, hne⟩, hn⟩
  · rintro ⟨⟨-, hmember, hne⟩, hn⟩
    exact ⟨hn, hmember, hne⟩

/-- A pass asks for each deletion once, and only for those that are called for. -/
theorem Reached.exists_cleared (h : Reached rule s p t) :
    ∃ names, names.Nodup ∧ (∀ n ∈ names, n ∈ rule.targets s) ∧ Cleared s names t := by
  cases h with
  | ready => exact ⟨[], .nil, by simp, .refl s⟩
  | @deleting t kept deletions hlists hkept hnames hanswers hcleared =>
    have hsub := attempted_sublist deletions
    rw [hnames, ← Rule.targets_of_lists hlists] at hsub
    exact ⟨_, hsub.nodup (nodup_targets rule s), fun n hn => hsub.subset hn, hcleared⟩
  | finished hcleared => exact ⟨_, nodup_targets rule s, fun _ hn => hn, hcleared⟩

theorem Reached.kept?_eq (h : Reached rule s p t) (hlists : s.failsList = false)
    (hkept : rule.Keeps s.objects.names kept) : p = .ready ∨ p.kept? = some kept := by
  cases h with
  | ready => exact .inl rfl
  | deleting _ hkept' => exact .inr (congrArg some (hkept'.unique hkept))
  | finished =>
    rw [fst_prune_of_keeps hlists hkept, Retention.settle]
    right
    split <;> rfl

/-- A pass leaves a remnant, wherever it is interrupted. -/
theorem Remnant.pass (h : Remnant rule s t) (hkept : rule.Keeps s.objects.names kept)
    (hreached : Reached rule t p u) :
    Remnant rule s u := by
  obtain ⟨names, -, htargets, hcleared⟩ := hreached.exists_cleared
  refine ⟨hcleared.alike.failsList.trans h.lists, fun n => ?_⟩
  rw [hcleared.objects]
  split
  · rename_i hgone
    have hdoomed := htargets n hgone.1
    rw [Rule.targets_of_lists h.lists, h.mem_doomed_iff hkept] at hdoomed
    exact .inr ⟨hdoomed.1, rfl⟩
  · exact h.held n

/-- A pass that ends without failure takes away all that is superseded. -/
theorem Reached.get?_eq {result : PruneResult} (h : Reached rule s (.finished (.ok result)) t)
    (hlists : s.failsList = false) (hkept : rule.Keeps s.objects.names kept) (n : String) :
    t.objects.get? n = if n ∈ rule.doomed s.objects.names then none else s.objects.get? n := by
  obtain ⟨hresult, hcleared⟩ := h.result_eq
  have hthinned := thinned_of_cleared hlists hkept hcleared
  rw [← hresult] at hthinned
  have hnone : ∀ n ∈ rule.others s kept, n ∉ s.failingDeletes := by
    intro n hn hfail
    have herror := hthinned.incomplete ⟨n, hn, hfail⟩
    cases herror
  rw [hthinned.objects, doomed_eq_others hkept]
  by_cases hn : n ∈ rule.others s kept <;> simp [hn, hnone]

/-- A pass that ends without failure ends where a single one would have ended, had nothing
failed. -/
theorem Remnant.objects_eq {result : PruneResult} (h : Remnant rule s t)
    (hlists : s.failsList = false) (hkept : rule.Keeps s.objects.names kept)
    (hreached : Reached rule t (.finished (.ok result)) u) :
    u.objects = (prune rule { s with failingDeletes := [] }).2.objects := by
  have hsingle : (prune rule { s with failingDeletes := [] }).2 = _ :=
    prune_of_lists (s := { s with failingDeletes := [] }) hlists
  refine NameMap.ext_get? fun n => ?_
  rw [hsingle, get?_deleteAll, hreached.get?_eq h.lists (h.keeps hkept)]
  simp only [h.mem_doomed_iff hkept, List.not_mem_nil, not_false_eq_true, and_true]
  by_cases hdoomed : n ∈ rule.doomed s.objects.names
  · by_cases hn : n ∈ t.objects.names
    · simp [hdoomed, hn]
    · simp [hdoomed, hn, NameMap.not_mem_names_iff.1 hn]
  · have hsame := (h.held n).resolve_right fun hgone => hdoomed hgone.1
    simp [hdoomed, hsame]

/-- After it nothing is left to be deleted. -/
theorem Reached.doomed_eq_nil {result : PruneResult} (h : Reached rule s (.finished (.ok result)) t)
    (hlists : s.failsList = false) (hkept : rule.Keeps s.objects.names kept) :
    rule.doomed t.objects.names = [] := by
  have hremnant := (Remnant.refl hlists).pass hkept h
  refine List.eq_nil_iff_forall_not_mem.2 fun n hn => ?_
  obtain ⟨hdoomed, hheld⟩ := (hremnant.mem_doomed_iff hkept).1 hn
  have hgone : t.objects.get? n = none := by rw [h.get?_eq hlists hkept, if_pos hdoomed]
  exact NameMap.not_mem_names_iff.2 hgone hheld

/-- Where nothing is left to be deleted, a pass does nothing. -/
theorem Reached.idle (h : Reached rule s p t) (hlists : s.failsList = false)
    (hkept : rule.Keeps s.objects.names kept) (hdone : rule.doomed s.objects.names = []) :
    t = s ∧ ∀ result, p = .finished result → result = .ok (.pruned kept []) := by
  have htargets : rule.targets s = [] := (Rule.targets_of_lists hlists).trans hdone
  constructor
  · obtain ⟨names, -, hnames, hcleared⟩ := h.exists_cleared
    have hnone : names = [] := List.eq_nil_iff_forall_not_mem.2 fun n hn => by
      have htarget := hnames n hn
      rw [htargets] at htarget
      contradiction
    rw [hnone] at hcleared
    exact hcleared.eq
  · rintro result rfl
    rw [h.result_eq.1, fst_prune_of_keeps hlists hkept, hdone]
    rfl

theorem reached_of_visits (hr : Remnant rule s t) (hkept : rule.Keeps s.objects.names kept)
    (h : Visits rule t visits) :
    ∀ v ∈ visits, Remnant rule s v.before ∧ Reached rule v.before v.progress v.after := by
  induction h with
  | nil => simp
  | @cons a b c p failing visits hbegins hrun hrest ih =>
    have hbefore : Remnant rule s b := by
      subst hbegins
      exact ⟨hr.lists, hr.held⟩
    have hreached := reached_of_run hrun
    intro v hv
    rcases List.mem_cons.1 hv with rfl | hv
    · exact ⟨hbefore, hreached⟩
    · exact ih (hbefore.pass hkept hreached) v hv

theorem idle_of_visits (hlists : s.failsList = false) (hkept : rule.Keeps s.objects.names kept)
    (hdone : rule.doomed s.objects.names = []) (h : Visits rule s visits) :
    ∀ w ∈ visits, w.before = { s with failingDeletes := w.before.failingDeletes } ∧
      w.after = w.before ∧
      ∀ result, w.progress = .finished result → result = .ok (.pruned kept []) := by
  induction h with
  | nil => simp
  | @cons a b c p failing visits hbegins hrun hrest ih =>
    subst hbegins
    obtain ⟨hsame, hresult⟩ := (reached_of_run hrun).idle hlists hkept hdone
    subst hsame
    intro w hw
    rcases List.mem_cons.1 hw with rfl | hw
    · exact ⟨rfl, rfl, hresult⟩
    · exact ih hlists hkept hdone w hw

/-- What comes of some passes, one after the other, over a store that held `s` at first. -/
structure Converges (rule : Rule κ) (s : Memory) (visits : List Visit) (kept : String) : Prop where
  keeps : rule.Keeps s.objects.names kept
  /-- A pass that has not listed the names yet has not decided. -/
  agree : ∀ v ∈ visits, v.progress = .ready ∨ v.progress.kept? = some kept
  attempts : ∀ v ∈ visits, ∃ attempts,
    v.after.deletesAttempted = v.before.deletesAttempted ++ attempts ∧
      attempts.Nodup ∧ ∀ n ∈ attempts, n ∈ v.before.objects.names ∧ rule.isMember n ∧ n ≠ kept
  /-- A pass that comes to its end fails only where deletes do. -/
  succeeds : ∀ v ∈ visits, v.before.failingDeletes = [] → ∀ result, v.progress = .finished result →
    ∃ deleted, result = .ok (.pruned kept deleted)
  complete : ∀ earlier v later result, visits = earlier ++ v :: later →
    v.progress = .finished (.ok result) →
    v.after.objects = (prune rule { s with failingDeletes := [] }).2.objects
  idle : ∀ earlier v later result, visits = earlier ++ v :: later →
    v.progress = .finished (.ok result) →
    ∀ w ∈ later, w.before = { v.after with failingDeletes := w.before.failingDeletes } ∧
      w.after = w.before ∧
      ∀ result, w.progress = .finished result → result = .ok (.pruned kept [])

theorem exists_attempts (h : Remnant rule s t) (hkept : rule.Keeps s.objects.names kept)
    (hreached : Reached rule t p u) :
    ∃ attempts, u.deletesAttempted = t.deletesAttempted ++ attempts ∧ attempts.Nodup ∧
      ∀ n ∈ attempts, n ∈ t.objects.names ∧ rule.isMember n ∧ n ≠ kept := by
  obtain ⟨names, hnodup, htargets, hcleared⟩ := hreached.exists_cleared
  obtain ⟨attempts, hperm, hlatest⟩ := hcleared.attempts
  refine ⟨attempts.reverse, ?_, ?_, fun n hn => ?_⟩
  · rw [Memory.deletesAttempted, hlatest, List.reverse_append]
    rfl
  · exact List.nodup_reverse.2 (hperm.nodup_iff.2 hnodup)
  · have htarget := htargets n (hperm.mem_iff.1 (List.mem_reverse.1 hn))
    rw [Rule.targets_of_lists h.lists] at htarget
    obtain ⟨hheld, hmember, hsuperseded⟩ := Rule.mem_doomed_iff.1 htarget
    exact ⟨hheld, hmember, fun heq => hsuperseded (heq ▸ h.keeps hkept)⟩

/-- Passes converge, however many of them are interrupted or fail: as soon as one has ended without
failure, the store is as a single pass would have left it, and no later one changes it. -/
theorem visits_converge (rule : Rule κ) (s : Memory) (visits : List Visit)
    (h : Visits rule s visits) (hlists : s.failsList = false)
    (hmember : ∃ n ∈ s.objects.names, rule.isMember n) :
    ∃ kept, Converges rule s visits kept := by
  obtain ⟨n, hn, hmember⟩ := hmember
  obtain ⟨kept, hkept⟩ := Rule.exists_keeps hn hmember
  have hvisits := reached_of_visits (Remnant.refl hlists) hkept h
  refine ⟨kept, hkept, fun v hv => ?_, fun v hv => ?_,
    fun v hv hnone result hfinished => ?_, ?_, ?_⟩
  · obtain ⟨hremnant, hreached⟩ := hvisits v hv
    exact hreached.kept?_eq hremnant.lists (hremnant.keeps hkept)
  · obtain ⟨hremnant, hreached⟩ := hvisits v hv
    exact exists_attempts hremnant hkept hreached
  · obtain ⟨hremnant, hreached⟩ := hvisits v hv
    rw [hfinished] at hreached
    obtain ⟨rfl, hcleared⟩ := hreached.result_eq
    have hthinned := thinned_of_cleared hremnant.lists (hremnant.keeps hkept) hcleared
    exact ⟨_, hthinned.complete (by simp [hnone])⟩
  · rintro earlier v later result rfl hfinished
    obtain ⟨hremnant, hreached⟩ := hvisits v (List.mem_append_right earlier List.mem_cons_self)
    rw [hfinished] at hreached
    exact hremnant.objects_eq hlists hkept hreached
  · rintro earlier v later result rfl hfinished
    obtain ⟨hremnant, hreached⟩ := hvisits v (List.mem_append_right earlier List.mem_cons_self)
    have hafter := hremnant.pass hkept hreached
    rw [hfinished] at hreached
    have hdone := hreached.doomed_eq_nil hremnant.lists (hremnant.keeps hkept)
    exact idle_of_visits hafter.lists (hafter.keeps hkept) hdone h.of_append

/-- After a pass that was interrupted between two deletions. -/
def interruptedFiles : Memory := (Container.delete tiedFiles "processed-TARS-7.xml").2

/-- After another one, in which a delete failed. -/
def failedFiles : Memory := (prune (.processedFiles "processed-") interruptedFiles).2

def mendedFiles : Memory := { failedFiles with failingDeletes := [] }

def tiedVisits : List Visit :=
  [⟨tiedFiles, .deleting "results" "processed-TARS7.xml"
      [("processed-TARS-7.xml", some (.ok ())), ("processed-TARS6.xml", none)], interruptedFiles⟩,
    ⟨interruptedFiles, .finished (prune (.processedFiles "processed-") interruptedFiles).1,
      failedFiles⟩,
    ⟨mendedFiles, .finished (prune (.processedFiles "processed-") mendedFiles).1,
      (prune (.processedFiles "processed-") mendedFiles).2⟩]

theorem run_interruptedFiles : Run (.processedFiles "processed-") (.ready, tiedFiles)
    (.deleting "results" "processed-TARS7.xml"
      [("processed-TARS-7.xml", some (.ok ())), ("processed-TARS6.xml", none)],
      interruptedFiles) := by
  have hsurvey : (Rule.processedFiles "processed-").survey tiedFiles.objects.names =
      .plan "processed-TARS7.xml" ["processed-TARS-7.xml", "processed-TARS6.xml"] := by
    decide +kernel
  have hlisted : Step (.processedFiles "processed-") (.ready, tiedFiles) _ :=
    .lists (Memory.list_eq rfl)
  rw [hsurvey] at hlisted
  have hdelete : Container.delete tiedFiles "processed-TARS-7.xml" =
      (.ok (), interruptedFiles) := by
    have hok : (Container.delete tiedFiles "processed-TARS-7.xml").1 = .ok () := by decide +kernel
    rw [← hok]
    rfl
  have hasked : ["processed-TARS-7.xml", "processed-TARS6.xml"].map (·, none) =
      ([] : List Deletion) ++ ("processed-TARS-7.xml", none) :: [("processed-TARS6.xml", none)] :=
        rfl
  exact .head hlisted (.single (.deletes hdelete hasked rfl))

theorem visits_converge_tied : Visits (.processedFiles "processed-") tiedFiles tiedVisits ∧
    (∃ n ∈ tiedFiles.objects.names, (Rule.processedFiles "processed-").isMember n) ∧
    (∃ kept, Converges (.processedFiles "processed-") tiedFiles tiedVisits kept) ∧
    (prune (.processedFiles "processed-") mendedFiles).2.objects.names =
      ["TARS8.xml", "processed-TARS7.xml"] := by
  have hvisits : Visits (.processedFiles "processed-") tiedFiles tiedVisits :=
    .cons rfl run_interruptedFiles (.cons rfl (run_prune _ _) (.cons rfl (run_prune _ _) .nil))
  have hmember : ∃ n ∈ tiedFiles.objects.names, (Rule.processedFiles "processed-").isMember n :=
    ⟨"processed-TARS7.xml", by decide +kernel, by decide +kernel⟩
  exact ⟨hvisits, hmember, visits_converge _ _ _ hvisits rfl hmember, by decide +kernel⟩

end ExportLedger.Retention
