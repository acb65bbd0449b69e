import ExportLedger.Proofs.Calendar.DayNumber
import ExportLedger.Proofs.Export.Template
/-!
It does not matter in which order the kinds of places are filled: every order comes to filling all
places at once, and none of them is left in the name.
-/
namespace ExportLedger.Template

/-- The places are filled one kind after the other, in the given order. -/
def fillInTurn (v : Place → List Char) (order : List Place) (template : List Char) : List Char :=
  order.foldl (fun cs p => Text.replaceAll p.chars (v p) cs) template

variable {v filled : Place → List Char}

/-- What is filled in turn may also be filled at once, as long as no kind has its turn twice. -/
theorem fillInTurn_expand (hv : ∀ p, Inert (v p)) (hvalues : Partial filled) {order : List Place}
    (hnodup : order.Nodup) (hopen : ∀ p ∈ order, filled p = p.chars) (cs : List Char) :
    fillInTurn v order (expand filled cs) = expand
      (fun p => if p ∈ order then v p else filled p) cs := by
  induction order generalizing filled with
  | nil =>
    unfold fillInTurn
    simp only [List.foldl_nil, List.not_mem_nil, if_false]
  | cons p order ih =>
    obtain ⟨hp, hnodup⟩ := List.nodup_cons.1 hnodup
    have hfirst := replaceAll_expand hvalues (hopen p List.mem_cons_self) (v p) cs
    have hstill : ∀ q ∈ order, Function.update filled p (v p) q = q.chars := by
      intro q hq
      have hne : q ≠ p := fun heq => hp (heq ▸ hq)
      rw [Function.update_of_ne hne]
      exact hopen q (List.mem_cons_of_mem p hq)
    have hrest := ih (hvalues.update p (hv p)) hnodup hstill
    have hturn : fillInTurn v (p :: order) (expand filled cs) =
        fillInTurn v order (Text.replaceAll p.chars (v p) (expand filled cs)) := List.foldl_cons ..
    have hall : (fun q => if q ∈ order then v q else Function.update filled p (v p) q) =
        fun q => if q ∈ p :: order then v q else filled q := by
      funext q
      by_cases hq : q = p
      · subst hq
        simp only [hp, if_false, Function.update_self, List.mem_cons_self, if_true]
      · simp only [List.mem_cons, hq, false_or, Function.update_of_ne hq]
    rw [hturn, hfirst, hrest, hall]

/-- In any order of the three kinds, the places are filled as if at once. -/
theorem fillInTurn_eq_expand (hv : ∀ p, Inert (v p)) {order : List Place}
    (horder : order.Perm Place.all) (cs : List Char) : fillInTurn v order cs = expand v cs := by
  have hnodup : order.Nodup := horder.nodup_iff.2 (by decide)
  have hpartial : Partial Place.chars := fun p => .inl rfl
  have hfilled := fillInTurn_expand hv hpartial hnodup (fun _ _ => rfl) cs
  have hall : (fun p => if p ∈ order then v p else p.chars) = v := by
    funext p
    have hp : p ∈ order := horder.mem_iff.2 (Place.mem_all p)
    rw [if_pos hp]
  rw [expand_chars, hall] at hfilled
  exact hfilled

/-- Inert values do not make up a place, neither alone nor with what stands around them. -/
theorem not_infix_expand (hv : ∀ p, Inert (v p)) (p : Place) (cs : List Char) :
    ¬p.chars <:+: expand v cs := by
  have hpartial : Partial v := fun p => .inr (hv p)
  induction cs using reading_induction with
  | nil =>
    rw [expand_nil, List.infix_nil]
    exact Place.chars_ne_nil p
  | place q cs ih =>
    intro h
    have hbrace : '\x7b' ∉ v q := by
      intro hmem
      apply (hv q).apart _ hmem p
      rw [Place.chars_eq]
      exact List.mem_cons_self
    rw [expand_place, Place.chars_eq] at h
    have hrest := infix_of_infix_append hbrace h
    rw [← Place.chars_eq] at hrest
    exact ih hrest
  | plain c cs hat ih =>
    intro h
    rw [expand_plain hat, List.infix_cons_iff] at h
    rcases h with hprefix | hinfix
    · exact not_prefix_cons_expand hpartial hat p hprefix
    · exact ih hinfix

/-- A template is expanded by one simultaneous substitution: in a single pass from left to right
every place is filled with its value of the draft. Filling one kind after the other gives the same
name in each of the six orders, and the name has no place left. -/
theorem render_simultaneous (template : String) (d : Draft) :
    (render template d).toList = expand (values d) template.toList ∧
      (∀ order : List Place, order.Perm Place.all →
        fillInTurn (values d) order template.toList = (render template d).toList) ∧
      ∀ p : Place, ¬Mentions (render template d) p := by
  have hinert := inert_values d
  have hrender := toList_render template d
  refine ⟨hrender, ?_, ?_⟩
  · intro order horder
    rw [hrender]
    exact fillInTurn_eq_expand hinert horder template.toList
  · intro p hmentions
    unfold Mentions at hmentions
    rw [hrender] at hmentions
    exact not_infix_expand hinert p template.toList hmentions

/-- One place stands inside what looks like another. -/
def nested : String := "\x7bda\x7bsequence\x7dily\x7d-\x7bdaily\x7d-\x7bdate\x7d"

theorem render_simultaneous_nested :
    [Place.date, .daily, .sequence].Perm Place.all ∧
      fillInTurn (values ⟨7, ⟨3⟩, .noonOf 19849⟩) [.date, .daily, .sequence] nested.toList =
        (render nested ⟨7, ⟨3⟩, .noonOf 19849⟩).toList ∧
      render nested ⟨7, ⟨3⟩, .noonOf 19849⟩ = "\x7bda7ily\x7d-003-20240506" := by
  have horder : [Place.date, .daily, .sequence].Perm Place.all := by decide
  have hrender : render nested ⟨7, ⟨3⟩, .noonOf 19849⟩ = "\x7bda7ily\x7d-003-20240506" := by
    decide +kernel
  have hsimultaneous := render_simultaneous nested ⟨7, ⟨3⟩, .noonOf 19849⟩
  exact ⟨horder, hsimultaneous.2.1 _ horder, hrender⟩

end ExportLedger.Template
