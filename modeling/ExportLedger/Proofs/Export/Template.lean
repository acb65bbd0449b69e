import Mathlib.Data.List.Infix
import ExportLedger.Export.Template
import ExportLedger.Proofs.Text.Decimal
import ExportLedger.Proofs.Text.Substitution
/-!
A template read from left to right, once. Filling its places one kind after the other comes to the
same as filling all of them at once, because no value looks like a part of a place.
-/
namespace ExportLedger.Template

inductive Place where
  | sequence
  | daily
  | date
  deriving DecidableEq

namespace Place

def text : Place → String
  | sequence => sequencePlace
  | daily => dailyPlace
  | date => datePlace

def chars (p : Place) : List Char := p.text.toList

def all : List Place := [sequence, daily, date]

/-- The place that stands at the front. -/
def at? (cs : List Char) : Option Place := all.find? fun p => p.chars.isPrefixOf cs

theorem mem_all (p : Place) : p ∈ all := by
  cases p <;> decide

/-- What follows the opening brace. -/
def rest (p : Place) : List Char := p.chars.tail

theorem chars_eq (p : Place) : p.chars = '\x7b' :: p.rest := by
  cases p <;> rfl

theorem chars_ne_nil (p : Place) : p.chars ≠ [] := by
  rw [chars_eq]
  exact List.cons_ne_nil _ _

theorem brace_not_mem_rest (p : Place) : '\x7b' ∉ p.rest := by
  cases p <;> decide

theorem not_isDigit_of_mem_chars {p : Place} {c : Char} (h : c ∈ p.chars) : c.isDigit = false := by
  have hall : p.chars.all (fun c => !c.isDigit) = true := by
    cases p <;> rfl
  simpa using List.all_eq_true.1 hall c h

theorem at?_eq_some {p : Place} {cs : List Char} (h : at? cs = some p) : p.chars <+: cs :=
  List.isPrefixOf_iff_prefix.1 (by simpa using List.find?_some h)

theorem not_prefix_of_at? {cs : List Char} (h : at? cs = none) (p : Place) : ¬p.chars <+: cs :=
  fun hprefix => List.find?_eq_none.1 h p (mem_all p) (List.isPrefixOf_iff_prefix.2 hprefix)

/-- No place is the beginning of another. -/
theorem eq_of_starts {p q : Place} {cs : List Char} (hp : p.chars <+: cs) (hq : q.chars <+: cs) :
    p = q := by
  rcases List.prefix_or_prefix_of_prefix hp hq with h | h
  · revert h
    cases p <;> cases q <;> decide
  · revert h
    cases p <;> cases q <;> decide

theorem at?_chars_append (p : Place) (cs : List Char) : at? (p.chars ++ cs) = some p := by
  have hprefix : p.chars <+: p.chars ++ cs := List.prefix_append _ _
  cases h : at? (p.chars ++ cs) with
  | none => exact absurd hprefix (not_prefix_of_at? h p)
  | some q => rw [eq_of_starts (at?_eq_some h) hprefix]

end Place

/-- A template is made of places and of characters that stand for themselves. -/
inductive Part where
  | place (p : Place)
  | plain (c : Char)
  deriving DecidableEq

def Part.fill (values : Place → List Char) : Part → List Char
  | place p => values p
  | plain c => [c]

def parts : List Char → List Part
  | [] => []
  | c :: cs =>
    match Place.at? (c :: cs) with
    | some p => .place p :: parts (cs.drop (p.chars.length - 1))
    | none => .plain c :: parts cs
termination_by cs => cs.length
decreasing_by
  · simp only [List.length_drop, List.length_cons]
    omega
  · simp

theorem parts_nil : parts [] = [] := by
  rw [parts]

theorem parts_place (p : Place) (cs : List Char) :
    parts (p.chars ++ cs) = .place p :: parts cs := by
  have hat := Place.at?_chars_append p cs
  have hlen : p.rest.length = p.chars.length - 1 := by
    rw [Place.chars_eq, List.length_cons, Nat.add_sub_cancel]
  rw [Place.chars_eq, List.cons_append] at hat ⊢
  rw [parts]
  simp only [hat]
  rw [← hlen, List.drop_left]

theorem parts_plain {c : Char} {cs : List Char} (h : Place.at? (c :: cs) = none) :
    parts (c :: cs) = .plain c :: parts cs := by
  rw [parts]
  simp only [h]

/-- Any template is read part by part. -/
@[elab_as_elim]
theorem reading_induction {motive : List Char → Prop} (nil : motive [])
    (place : ∀ (p : Place) cs, motive cs → motive (p.chars ++ cs))
    (plain : ∀ c cs, Place.at? (c :: cs) = none → motive cs → motive (c :: cs)) (cs : List Char) :
    motive cs := by
  induction cs using parts.induct with
  | case1 => exact nil
  | case2 c cs p hat ih =>
    obtain ⟨back, hback⟩ := Place.at?_eq_some hat
    have hdrop : cs.drop (p.chars.length - 1) = back := by
      rw [Place.chars_eq, List.cons_append, List.cons.injEq] at hback
      rw [Place.chars_eq, List.length_cons, Nat.add_sub_cancel, ← hback.2, List.drop_left]
    rw [hdrop] at ih
    rw [← hback]
    exact place p back ih
  | case3 c cs hat ih => exact plain c cs hat ih

/-- All places are filled at once. -/
def expand (values : Place → List Char) (template : List Char) : List Char :=
  (parts template).flatMap (Part.fill values)

section Expand

variable {values : Place → List Char}

theorem expand_nil : expand values [] = [] := by
  rw [expand, parts_nil, List.flatMap_nil]

theorem expand_place (p : Place) (cs : List Char) :
    expand values (p.chars ++ cs) = values p ++ expand values cs := by
  rw [expand, parts_place, List.flatMap_cons]
  rfl

theorem expand_plain {c : Char} {cs : List Char} (h : Place.at? (c :: cs) = none) :
    expand values (c :: cs) = c :: expand values cs := by
  rw [expand, parts_plain h, List.flatMap_cons]
  rfl

theorem expand_chars (cs : List Char) : expand Place.chars cs = cs := by
  induction cs using reading_induction with
  | nil => exact expand_nil
  | place p cs ih => rw [expand_place, ih]
  | plain c cs h ih => rw [expand_plain h, ih]

/-- A value that cannot be taken for a piece of a place. -/
structure Inert (v : List Char) : Prop where
  ne_nil : v ≠ []
  apart : ∀ c ∈ v, ∀ p : Place, c ∉ p.chars

/-- Every place is filled with an inert value, or not filled yet. -/
def Partial (values : Place → List Char) : Prop := ∀ p, values p = p.chars ∨ Inert (values p)

/-- No value ends a place that the template has only begun. -/
theorem prefix_of_prefix_expand (hvalues : Partial values) (p : Place) {w cs : List Char}
    (hw : ∀ c ∈ w, c ∈ p.rest) (h : w <+: expand values cs) : w <+: cs := by
  induction cs using reading_induction generalizing w with
  | nil => rwa [expand_nil] at h
  | place q cs ih =>
    cases w with
    | nil => exact List.nil_prefix
    | cons x w =>
      have hx : x ∈ p.rest := hw x List.mem_cons_self
      rw [expand_place] at h
      rcases hvalues q with hunfilled | hinert
      · rw [hunfilled, Place.chars_eq, List.cons_append, List.cons_prefix_cons] at h
        rw [h.1] at hx
        exact absurd hx (Place.brace_not_mem_rest p)
      · obtain ⟨v, vs, hv⟩ := List.exists_cons_of_ne_nil hinert.ne_nil
        rw [hv, List.cons_append, List.cons_prefix_cons] at h
        have hchars : x ∈ p.chars := by
          rw [Place.chars_eq]
          exact List.mem_cons_of_mem _ hx
        refine absurd hchars (hinert.apart x ?_ p)
        rw [hv, h.1]
        exact List.mem_cons_self
  | plain c cs hat ih =>
    cases w with
    | nil => exact List.nil_prefix
    | cons x w =>
      rw [expand_plain hat, List.cons_prefix_cons] at h
      rw [List.cons_prefix_cons]
      exact ⟨h.1, ih (fun c hc => hw c (List.mem_cons_of_mem _ hc)) h.2⟩

/-- Where the template has no place, filling others makes none. -/
theorem not_prefix_cons_expand (hvalues : Partial values) {c : Char} {cs : List Char}
    (hat : Place.at? (c :: cs) = none) (p : Place) : ¬p.chars <+: c :: expand values cs := by
  intro h
  rw [Place.chars_eq, List.cons_prefix_cons] at h
  have hrest := prefix_of_prefix_expand hvalues p (fun _ hc => hc) h.2
  apply Place.not_prefix_of_at? hat p
  rw [Place.chars_eq, List.cons_prefix_cons]
  exact ⟨h.1, hrest⟩

/-- A place that is not filled is passed over when another is filled. -/
theorem replaceAll_other_append {p q : Place} (hne : p ≠ q) (v cs : List Char) :
    Text.replaceAll p.chars v (q.chars ++ cs) = q.chars ++ Text.replaceAll p.chars v cs := by
  have hprefix : ¬p.chars <+: q.chars ++ cs :=
    fun h => hne (Place.eq_of_starts h (List.prefix_append _ _))
  rw [Place.chars_eq q, List.cons_append] at hprefix ⊢
  rw [Text.replaceAll_cons_of_not_prefix hprefix, Place.chars_eq p,
    Text.replaceAll_append_of_not_mem (Place.brace_not_mem_rest q), List.cons_append]

theorem replaceAll_inert_append {u : List Char} (hu : Inert u) (p : Place) (v cs : List Char) :
    Text.replaceAll p.chars v (u ++ cs) = u ++ Text.replaceAll p.chars v cs := by
  rw [Place.chars_eq p]
  refine Text.replaceAll_append_of_not_mem fun hmem => hu.apart _ hmem p ?_
  rw [Place.chars_eq]
  exact List.mem_cons_self

/-- Replacing the occurrences of one place fills this place wherever the template has it, and does
nothing else. -/
theorem replaceAll_expand (hvalues : Partial values) {p : Place} (hp : values p = p.chars)
    (v cs : List Char) :
    Text.replaceAll p.chars v (expand values cs) = expand (Function.update values p v) cs := by
  induction cs using reading_induction with
  | nil =>
    rw [expand_nil, expand_nil]
    rfl
  | place q cs ih =>
    rw [expand_place, expand_place]
    by_cases hq : q = p
    · rw [hq, hp, Text.replaceAll_pattern_append (Place.chars_ne_nil p), Function.update_self, ih]
    · rw [Function.update_of_ne hq]
      rcases hvalues q with hunfilled | hinert
      · rw [hunfilled, replaceAll_other_append (Ne.symm hq), ih]
      · rw [replaceAll_inert_append hinert, ih]
  | plain c cs hat ih =>
    rw [expand_plain hat, expand_plain hat]
    have hprefix := not_prefix_cons_expand hvalues hat p
    rw [Text.replaceAll_cons_of_not_prefix hprefix, ih]

end Expand

/-- What the places stand for. -/
def values (d : Draft) : Place → List Char
  | .sequence => Decimal.digits d.sequence.toNat
  | .daily => d.daily.text.toList
  | .date => d.created.date.compact

theorem inert_of_numeric {v : List Char} (hne : v ≠ [])
    (h : ∀ c ∈ v, c.isDigit ∨ c = '-' ∨ c = '+') : Inert v := by
  constructor
  · exact hne
  · intro c hc p hmem
    have hsigns : '-' ∉ p.chars ∧ '+' ∉ p.chars := by
      cases p <;> decide
    rcases h c hc with hdigit | rfl | rfl
    · rw [Place.not_isDigit_of_mem_chars hmem] at hdigit
      contradiction
    · exact hsigns.1 hmem
    · exact hsigns.2 hmem

theorem isDigit_of_mem_padded {width n : Nat} {c : Char} (h : c ∈ Decimal.padded width n) :
    c.isDigit :=
  List.all_eq_true.1 (Decimal.all_isDigit_padded width n) c h

theorem numeric_yearText {year : Int} {c : Char} (h : c ∈ Date.yearText year) :
    c.isDigit ∨ c = '-' ∨ c = '+' := by
  unfold Date.yearText at h
  split at h
  · exact .inl (isDigit_of_mem_padded h)
  · rcases List.mem_cons.1 h with rfl | h
    · right
      split
      · exact .inl rfl
      · exact .inr rfl
    · exact .inl (isDigit_of_mem_padded h)

theorem inert_values (d : Draft) (p : Place) : Inert (values d p) := by
  cases p with
  | sequence =>
    exact inert_of_numeric (Decimal.digits_ne_nil _) fun c hc =>
      .inl (Decimal.isDigit_of_mem_digits hc)
  | daily =>
    have htext : d.daily.text.toList = Decimal.padded 3 d.daily.value.toNat := String.toList_ofList
    refine inert_of_numeric (v := d.daily.text.toList) ?_ ?_
    · rw [htext]
      exact Decimal.padded_ne_nil _ _
    · intro c hc
      rw [htext] at hc
      exact .inl (isDigit_of_mem_padded hc)
  | date =>
    refine inert_of_numeric (v := d.created.date.compact) ?_ ?_
    · simp [Date.compact]
    · intro c hc
      rcases List.mem_append.1 hc with hc | hc
      · rcases List.mem_append.1 hc with hc | hc
        · exact numeric_yearText hc
        · exact .inl (isDigit_of_mem_padded hc)
      · exact .inl (isDigit_of_mem_padded hc)

theorem Partial.update {values : Place → List Char} (h : Partial values) (p : Place) {v : List Char}
    (hv : Inert v) :
    Partial (Function.update values p v) := by
  intro q
  by_cases hq : q = p
  · right
    rw [hq, Function.update_self]
    exact hv
  · rw [Function.update_of_ne hq]
    exact h q

/-- One kind after the other, all places are filled as if at once. -/
theorem toList_render (template : String) (d : Draft) :
    (render template d).toList = expand (values d) template.toList := by
  have h0 : Partial Place.chars := fun p => .inl rfl
  have h1 := h0.update .sequence (inert_values d .sequence)
  have h2 := h1.update .daily (inert_values d .daily)
  have hvalues :
      Function.update (Function.update (Function.update Place.chars .sequence (values d .sequence))
      .daily (values d .daily)) .date (values d .date) = values d := by
    funext p
    cases p <;> rfl
  have hrender : (render template d).toList = Text.replaceAll Place.date.chars (values d .date)
      (Text.replaceAll Place.daily.chars (values d .daily)
        (Text.replaceAll Place.sequence.chars (values d .sequence) template.toList)) :=
          String.toList_ofList
  have hfirst := replaceAll_expand h0 (p := .sequence) rfl (values d .sequence) template.toList
  rw [expand_chars] at hfirst
  rw [hrender, hfirst, replaceAll_expand h1 (p := .daily) rfl,
    replaceAll_expand h2 (p := .date) rfl, hvalues]

/-- The template has the place somewhere. -/
def Mentions (template : String) (p : Place) : Prop := p.chars <:+: template.toList

instance (template : String) (p : Place) : Decidable (Mentions template p) :=
  inferInstanceAs (Decidable (_ <:+: _))

theorem infix_of_infix_append {c : Char} {w front cs : List Char} (hc : c ∉ front)
    (h : (c :: w) <:+: front ++ cs) :
    (c :: w) <:+: cs := by
  induction front with
  | nil => exact h
  | cons x front ih =>
    rw [List.mem_cons, not_or] at hc
    rw [List.cons_append, List.infix_cons_iff] at h
    rcases h with hprefix | hinfix
    · exact absurd (List.cons_prefix_cons.1 hprefix).1 hc.1
    · exact ih hc.2 hinfix

/-- A place that is there is also read, because no place overlaps another. -/
theorem place_mem_parts_iff {p : Place} {cs : List Char} :
    .place p ∈ parts cs ↔ p.chars <:+: cs := by
  induction cs using reading_induction with
  | nil => simp [parts_nil, Place.chars_ne_nil]
  | place q cs ih =>
    rw [parts_place, List.mem_cons, ih, Part.place.injEq]
    constructor
    · rintro (rfl | h)
      · exact (List.prefix_append _ _).isInfix
      · exact h.trans (List.suffix_append _ _).isInfix
    · intro h
      by_cases hprefix : p.chars <+: q.chars ++ cs
      · left
        exact Place.eq_of_starts hprefix (List.prefix_append _ _)
      · right
        rw [Place.chars_eq q, List.cons_append] at h hprefix
        have hinfix := (List.infix_cons_iff.1 h).resolve_left hprefix
        rw [Place.chars_eq p] at hinfix ⊢
        exact infix_of_infix_append (Place.brace_not_mem_rest q) hinfix
  | plain c cs hat ih =>
    rw [parts_plain hat, List.mem_cons, ih, List.infix_cons_iff]
    simp [Place.not_prefix_of_at? hat p]

end ExportLedger.Template
