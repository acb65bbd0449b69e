import Mathlib.Algebra.Order.BigOperators.Group.List
import ExportLedger.Proofs.Calendar.Rfc3339
import ExportLedger.Proofs.Export.Attempts
import ExportLedger.Proofs.Export.Footprint
import ExportLedger.Proofs.Export.Template
/-!
Result files with different numbers have different names, if the template asks for the number. Dates
and daily numbers are of one width, so names that differ in length differ in the number, and in
names of one length the numbers stand in the same places.
-/
namespace ExportLedger

namespace Decimal

/-- The last digits decide on the remainder. -/
theorem mod_ten_eq_of_getLast? {m n : Nat} (h : (digits m).getLast? = (digits n).getLast?) :
    m % 10 = n % 10 := by
  have hsplit (k : Nat) : ∃ c, (digits k).getLast? = some c ∧ k % 10 = value [c] % 10 := by
    have hlast := List.dropLast_append_getLast (digits_ne_nil k)
    refine ⟨_, List.getLast?_eq_some_getLast (digits_ne_nil k), ?_⟩
    have hvalue := value_digits k
    rw [← hlast, value_append, List.length_singleton, Nat.pow_one] at hvalue
    omega
  obtain ⟨c, hc, hm⟩ := hsplit m
  obtain ⟨c', hc', hn⟩ := hsplit n
  rw [hc, hc', Option.some.injEq] at h
  rw [hm, hn, h]

end Decimal

namespace Template

/-- The date has eight digits, and the daily number has three if the template asks for it. -/
structure Fits (template : String) (d : Draft) : Prop where
  year : 0 ≤ d.created.date.year ∧ d.created.date.year ≤ 9999
  daily : Mentions template .daily → d.daily.value.toNat ≤ 999

variable {template : String} {d e : Draft}

theorem length_date (h : 0 ≤ d.created.date.year ∧ d.created.date.year ≤ 9999) :
    (values d .date).length = 8 := by
  obtain ⟨-, hmonth, -, hday⟩ :=
    Rfc3339.bounds_of_isValid (Date.isValid_ofDayNumber (d.created.localSeconds / 86400))
  rw [← Timestamp.date] at hmonth hday
  have hyear : Date.yearText d.created.date.year = Decimal.padded 4 d.created.date.year.toNat :=
    if_pos h
  show (Date.yearText _ ++ Decimal.padded 2 _ ++ Decimal.padded 2 _).length = 8
  rw [hyear, List.length_append, List.length_append, Decimal.length_padded (by decide) (by omega),
    Decimal.length_padded (by decide) (by omega), Decimal.length_padded (by decide) (by omega)]

theorem length_daily (h : d.daily.value.toNat ≤ 999) : (values d .daily).length = 3 := by
  have htext : values d .daily = Decimal.padded 3 d.daily.value.toNat := String.toList_ofList
  rw [htext, Decimal.length_padded (by decide) (by omega)]

/-- Of all parts of the template only the sequence number can differ in length. -/
theorem length_fill_eq (hd : Fits template d) (he : Fits template e) {part : Part}
    (hpart : part ∈ parts template.toList) (hne : part ≠ .place .sequence) :
    (part.fill (values d)).length = (part.fill (values e)).length := by
  cases part with
  | plain c => rfl
  | place p =>
    cases p with
    | sequence => contradiction
    | daily =>
      have hmentions := place_mem_parts_iff.1 hpart
      exact (length_daily (hd.daily hmentions)).trans (length_daily (he.daily hmentions)).symm
    | date => exact (length_date hd.year).trans (length_date he.year).symm

theorem length_render_lt (hd : Fits template d) (he : Fits template e)
    (hmentions : Mentions template .sequence)
    (h : (values d .sequence).length < (values e .sequence).length) :
    (render template d).toList.length < (render template e).toList.length := by
  rw [toList_render, toList_render, expand, expand, List.length_flatMap, List.length_flatMap]
  apply List.sum_lt_sum
  · intro part hpart
    by_cases hne : part = .place .sequence
    · rw [hne]
      exact Nat.le_of_lt h
    · exact Nat.le_of_eq (length_fill_eq hd he hpart hne)
  · exact ⟨.place .sequence, place_mem_parts_iff.2 hmentions, h⟩

/-- Pieces of equal lengths can be told apart in what they are joined to. -/
theorem eq_of_flatMap_eq {ps : List α} {f g : α → List β}
    (hlen : ∀ p ∈ ps, (f p).length = (g p).length) (h : ps.flatMap f = ps.flatMap g) :
    ∀ p ∈ ps, f p = g p := by
  induction ps with
  | nil => simp
  | cons p ps ih =>
    rw [List.flatMap_cons, List.flatMap_cons] at h
    obtain ⟨hhead, htail⟩ := List.append_inj h (hlen p List.mem_cons_self)
    intro q hq
    rcases List.mem_cons.1 hq with rfl | hq
    · exact hhead
    · exact ih (fun r hr => hlen r (List.mem_cons_of_mem _ hr)) htail q hq

theorem render_ne (hmentions : Mentions template .sequence) (hd : Fits template d)
    (he : Fits template e) (hne : d.sequence ≠ e.sequence) :
    render template d ≠ render template e := by
  intro h
  have hlist := congrArg String.toList h
  rcases Nat.lt_trichotomy (values d .sequence).length (values e .sequence).length with
    hlt | heq | hgt
  · have hlength := length_render_lt hd he hmentions hlt
    rw [h] at hlength
    exact Nat.lt_irrefl _ hlength
  · rw [toList_render, toList_render] at hlist
    have hparts : ∀ part ∈ parts template.toList,
        (part.fill (values d)).length = (part.fill (values e)).length := by
      intro part hpart
      by_cases hplace : part = .place .sequence
      · rw [hplace]
        exact heq
      · exact length_fill_eq hd he hpart hplace
    have hdigits := eq_of_flatMap_eq hparts hlist _ (place_mem_parts_iff.2 hmentions)
    exact hne (UInt64.toNat_inj.1 (Decimal.digits_injective hdigits))
  · have hlength := length_render_lt he hd hmentions hgt
    rw [h] at hlength
    exact Nat.lt_irrefl _ hlength

/-- Seen from the end, the last digits stand in the same place, whatever one of the names has in
front. -/
theorem mod_ten_eq_of_render_eq (hmentions : Mentions template .sequence) (hd : Fits template d)
    (he : Fits template e) {mark : String} (h : render template d = mark ++ render template e) :
    d.sequence.toNat % 10 = e.sequence.toNat % 10 := by
  have hlist := congrArg String.toList h
  rw [String.toList_append, toList_render, toList_render, expand, expand] at hlist
  have hwidths (part : Part) (hpart : part ∈ parts template.toList) := length_fill_eq hd he hpart
  have hmem := place_mem_parts_iff.2 hmentions
  revert hlist hmem
  generalize parts template.toList = ps at hwidths
  induction ps using List.reverseRecOn with
  | nil => simp
  | append_singleton ps part ih =>
    intro hlist hmem
    rw [List.flatMap_append, List.flatMap_append, List.flatMap_singleton, List.flatMap_singleton,
      ← List.append_assoc] at hlist
    by_cases hplace : part = .place .sequence
    · rw [hplace] at hlist
      have hlast := congrArg List.getLast? hlist
      have hdne : (Part.place .sequence).fill (values d) ≠ [] := Decimal.digits_ne_nil _
      have hene : (Part.place .sequence).fill (values e) ≠ [] := Decimal.digits_ne_nil _
      rw [List.getLast?_append_of_ne_nil _ hdne, List.getLast?_append_of_ne_nil _ hene] at hlast
      exact Decimal.mod_ten_eq_of_getLast? hlast
    · have hrest := (List.append_inj' hlist (hwidths part (by simp) hplace)).1
      refine ih (fun q hq => hwidths q (by simp [hq])) hrest ?_
      rcases List.mem_append.1 hmem with hmem | hmem
      · exact hmem
      · exact absurd (List.mem_singleton.1 hmem).symm hplace

end Template

namespace Export

open Template (Mentions Fits render)

section Attempts

variable [Container σ] [Container τ] {setup : Setup} {template : String}

theorem fileName_ne_render {a : Attempt σ τ} {o : Outcome} {d : Draft} {fileName : String}
    (hmentions : Mentions setup.template .sequence)
    (ha : ∀ d, a.draft setup = .ok d → Fits setup.template d) (hd : Fits setup.template d)
    (hresult : a.result setup = .ok o) (hfile : o.record.fileName = some fileName)
    (hne : d.sequence ≠ o.record.sequence) : fileName ≠ render setup.template d := by
  obtain ⟨e, halloc, rfl, -⟩ := draft_of_run (Attempt.run_eq hresult)
  cases hfile
  exact Template.render_ne hmentions (ha e halloc) hd hne.symm

variable [Visible σ] [Visible τ]

/-- An export leaves a file alone that it has no name for. -/
theorem Attempt.look_after_of_ne {a : Attempt σ τ} {d : Draft} {fileName : String}
    (hdraft : a.draft setup = .ok d) (hne : fileName ≠ render setup.template d) :
    look (a.after setup).share fileName = look a.share fileName := by
  have hleaves := leaves_of_allocate hdraft a.content a.rows
  have hafter : (run setup a.now a.content a.rows a.stores).2 = a.after setup := rfl
  generalize run setup a.now a.content a.rows a.stores = left at hleaves hafter
  rw [← hafter]
  cases hleaves with
  | unallocated halloc => rfl
  | notUploaded halloc hshare => exact congrFun hshare fileName
  | notPersisted halloc hshare _ =>
    cases hdraft.symm.trans halloc
    exact (congrFun hshare fileName).trans (Function.update_of_ne hne _ _)
  | written halloc hwritten =>
    cases hdraft.symm.trans halloc
    exact (congrFun hwritten.share fileName).trans (Function.update_of_ne hne _ _)

/-- If the template asks for the sequence number, names of different numbers differ. So no export
ever touches the result file of an earlier export that has another number, whatever becomes of the
share. -/
theorem distinct_names (hmentions : Mentions template .sequence) :
    (∀ d e, Fits template d → Fits template e → d.sequence ≠ e.sequence →
      render template d ≠ render template e) ∧
    ∀ (setup : Setup) (blobs : τ) (turns : List (Turn σ)), setup.template = template →
      (∀ a ∈ attempts setup blobs turns, ∀ d, a.draft setup = .ok d → Fits template d) →
      (attempts setup blobs turns).Pairwise fun a b => ∀ o fileName d, a.result setup = .ok o →
        o.record.fileName = some fileName → b.draft setup = .ok d → d.sequence ≠ o.record.sequence →
        fileName ≠ render template d ∧ look (b.after setup).share fileName =
          look b.share fileName := by
  constructor
  · intro d e hd he hne
    exact Template.render_ne hmentions hd he hne
  · rintro setup blobs turns rfl hfits
    apply List.pairwise_of_forall_mem_list
    intro a ha b hb o fileName d hresult hfile hdraft hne
    have hname := fileName_ne_render hmentions (hfits a ha) (hfits b hb d hdraft) hresult hfile hne
    exact ⟨hname, Attempt.look_after_of_ne hdraft hname⟩

end Attempts

theorem distinct_names_seven_eight :
    Template.render Template.standard seventhDraft ≠ Template.render Template.standard eighthDraft ∧
      look (eighth.after sampleSetup).share "TARS7.xml" = look eighth.share "TARS7.xml" := by
  have hmentions : Mentions Template.standard .sequence := by decide
  have hseventh : Fits Template.standard seventhDraft := ⟨by decide, fun _ => by decide⟩
  have heighth : Fits Template.standard eighthDraft := ⟨by decide, fun _ => by decide⟩
  have hmain := distinct_names (σ := Memory) (τ := Memory) hmentions
  have hruns := hmain.2 sampleSetup (.new "blobs") [seventhTurn, eighthTurn] rfl
  rw [attempts_sample, List.pairwise_pair] at hruns
  have hfits : ∀ a ∈ [seventh, eighth], ∀ d, a.draft sampleSetup = .ok d →
      Fits Template.standard d := by
    intro a ha d hdraft
    rcases List.mem_pair.1 ha with rfl | rfl
    · cases hdraft.symm.trans draft_seventh
      exact hseventh
    · cases hdraft.symm.trans draft_eighth
      exact heighth
  have hpair := hruns hfits _ _ _ result_seventh rfl draft_eighth (by decide)
  exact ⟨hmain.1 _ _ hseventh heighth (by decide), hpair.2⟩

end Export

end ExportLedger
