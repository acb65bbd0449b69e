import ExportLedger.Proofs.Catalog
import ExportLedger.Proofs.Catalog.Failure
import ExportLedger.Proofs.Retention.ConfirmedFile
/-!
Two families of numbered names in one container. If the suffix of one ends the suffix of the other,
it takes the records of the other for its own.
-/
namespace ExportLedger

namespace Family

variable {a b : String}

theorem toList_fileName (a : String) (n : UInt64) :
    ((sequenced a).fileName n).toList = Decimal.digits n.toNat ++ a.toList := by
  rw [fileName, String.toList_append, Decimal.toList_text]

/-- There is no dash among the digits, so a suffix that begins with one does not reach into the
number. -/
theorem suffix_fileName_iff (hb : (sequenced b).Dashed) (n : UInt64) :
    b.toList <:+ ((sequenced a).fileName n).toList ↔ b.toList <:+ a.toList := by
  rw [toList_fileName]
  refine ⟨fun h => ?_, fun h => h.trans (List.suffix_append _ _)⟩
  rcases List.suffix_or_suffix_of_suffix h (List.suffix_append _ _) with hshort | ⟨front, hfront⟩
  · exact hshort
  · cases front with
    | nil => exact ⟨[], hfront.symm⟩
    | cons c cs =>
      rw [Dashed, ← hfront, List.cons_append, List.head?_cons, Option.some.injEq] at hb
      rw [← hfront, List.suffix_append_self_iff] at h
      have hdigit := Decimal.isDigit_of_mem_digits (h.mem List.mem_cons_self)
      rw [hb] at hdigit
      contradiction

theorem key_fileName_of_dashed (ha : (sequenced a).Dashed) (hb : (sequenced b).Dashed)
    (n : UInt64) :
    (sequenced b).key ((sequenced a).fileName n) = if b.toList <:+ a.toList then some n
      else none := by
  have hnumber : Naming.leadingNumber ((sequenced a).fileName n) = some n := by
    exact (key_fileName_eq a n).symm.trans (key_fileName ha n)
  rw [key, hnumber]
  simp only [List.isSuffixOf_iff_suffix, suffix_fileName_iff hb]

/-- Which of the other family's names a family takes for its own does not depend on the numbers. -/
theorem owns_fileName_iff (ha : (sequenced a).Dashed) (hb : (sequenced b).Dashed) (n : UInt64) :
    (sequenced b).owns ((sequenced a).fileName n) ↔ b.toList <:+ a.toList := by
  rw [owns, key_fileName_of_dashed ha hb]
  split <;> simp_all

theorem fileName_ne_fileName (ha : (sequenced a).Dashed) (hb : (sequenced b).Dashed) (hne : a ≠ b)
    (n m : UInt64) :
    (sequenced a).fileName n ≠ (sequenced b).fileName m := by
  intro hsame
  have hab : a.toList <:+ b.toList :=
    (suffix_fileName_iff ha m).1 (hsame ▸ (suffix_fileName_iff ha n).2 List.suffix_rfl)
  have hba : b.toList <:+ a.toList :=
    (suffix_fileName_iff hb n).1 (hsame ▸ (suffix_fileName_iff hb m).2 List.suffix_rfl)
  exact hne (String.toList_inj.1 (hab.eq_of_length_le hba.length_le))

/-- Between names of one number the suffixes decide. -/
theorem fileName_lt_fileName_iff {n : UInt64} :
    (sequenced b).fileName n < (sequenced a).fileName n ↔ b < a := by
  rw [String.lt_iff, toList_fileName, toList_fileName, Decimal.append_lt_append_left_iff,
    String.lt_iff]

theorem isAfter_fileName_iff {n m : UInt64} :
    Naming.isAfter (n, (sequenced a).fileName n) (m, (sequenced b).fileName m) ↔
      m < n ∨ m = n ∧ b < a := by
  rw [Naming.isAfter_uint64_iff]
  refine or_congr_right ⟨?_, ?_⟩
  · rintro ⟨rfl, hlt⟩
    exact ⟨rfl, fileName_lt_fileName_iff.1 hlt⟩
  · rintro ⟨rfl, hlt⟩
    exact ⟨rfl, fileName_lt_fileName_iff.2 hlt⟩

end Family

namespace Catalog

variable [Container σ] {s : σ} {a b name : String} {ofA ofB : List Record}

/-- Of the names that one of the families knows, those listed are the ones under which they have
saved these records. What else is listed does not matter. -/
def Comprises (names : List String) (a b : String) (ofA ofB : List Record) : Prop :=
  ∀ name, (Family.sequenced a).owns name ∨ (Family.sequenced b).owns name →
    (name ∈ names ↔ (∃ r ∈ ofA, name = (Family.sequenced a).fileName r.sequence) ∨
      ∃ r ∈ ofB, name = (Family.sequenced b).fileName r.sequence)

/-- The container holds the records that the two families have saved. -/
def SharedBy (s : σ) (a b : String) (ofA ofB : List Record) : Prop :=
  ∃ names, Container.list s = .ok names ∧ Comprises names a b ofA ofB

theorem SharedBy.symm (h : SharedBy s a b ofA ofB) : SharedBy s b a ofB ofA := by
  obtain ⟨names, hlist, hnames⟩ := h
  exact ⟨names, hlist, fun name hname => (hnames name hname.symm).trans or_comm⟩

/-- Both families have saved records, in whatever order. -/
inductive Saved (a b : String) : Memory → List Record → List Record → Prop where
  | start {s : Memory} : s.failsList = false →
    (∀ name ∈ s.objects.names, (Family.sequenced a).owns name = false ∧
      (Family.sequenced b).owns name = false) →
      Saved a b s [] []
  | one {s : Memory} {ofA ofB : List Record} (r : Record) :
    Saved a b s ofA ofB → Saved a b (save (.sequenced a) s r).2 (r :: ofA) ofB
  | other {s : Memory} {ofA ofB : List Record} (r : Record) :
    Saved a b s ofA ofB → Saved a b (save (.sequenced b) s r).2 ofA (r :: ofB)

theorem mem_names_save_iff {family : Family} {s : Memory} {r : Record} :
    name ∈ (save family s r).2.objects.names ↔ name = family.fileName r.sequence ∨
      name ∈ s.objects.names :=
  NameMap.mem_names_insert_iff

theorem Saved.sharedBy {s : Memory} (h : Saved a b s ofA ofB) : SharedBy s a b ofA ofB := by
  suffices hsaved : s.failsList = false ∧ Comprises s.objects.names a b ofA ofB from
    ⟨_, Memory.list_eq hsaved.1, hsaved.2⟩
  induction h with
  | start hlist hnone =>
    refine ⟨hlist, fun name howned => ?_⟩
    simp only [List.not_mem_nil, false_and, exists_false, or_self, iff_false]
    intro hname
    obtain ⟨ha, hb⟩ := hnone name hname
    rw [ha, hb] at howned
    simp at howned
  | one r _ ih =>
    refine ⟨ih.1, fun name howned => ?_⟩
    rw [mem_names_save_iff, ih.2 name howned, List.exists_mem_cons_iff, or_assoc]
  | other r _ ih =>
    refine ⟨ih.1, fun name howned => ?_⟩
    rw [mem_names_save_iff, ih.2 name howned, List.exists_mem_cons_iff, or_left_comm]

/-- A name of the other family is resolved to exactly if the family takes it for its own and none of
the family's own records comes after it. -/
theorem latestName_neighbours (ha : (Family.sequenced a).Dashed) (hb : (Family.sequenced b).Dashed)
    (hne : a ≠ b) (h : SharedBy s a b ofA ofB) :
    (∀ n, (Family.sequenced b).owns ((Family.sequenced a).fileName n) ↔ b.toList <:+ a.toList) ∧
    ((∃ name, latestName (.sequenced b) s = .ok name ∧
        ∀ r ∈ ofB, name ≠ (Family.sequenced b).fileName r.sequence) ↔
      b.toList <:+ a.toList ∧ ∃ r ∈ ofA, ∀ own ∈ ofB,
        own.sequence < r.sequence ∨ own.sequence = r.sequence ∧ b < a) := by
  refine ⟨Family.owns_fileName_iff ha hb, ?_⟩
  obtain ⟨names, hlist, hnames⟩ := h
  have hlisted {name : String} {k : UInt64} (hk : (Family.sequenced b).key name = some k) :=
    hnames name (.inr (Option.isSome_iff_exists.2 ⟨k, hk⟩))
  have hlatest : (∃ name, latestName (.sequenced b) s = .ok name ∧
      ∀ r ∈ ofB, name ≠ (Family.sequenced b).fileName r.sequence) ↔
        ∃ name, Naming.IsNewest (Family.sequenced b).key names name ∧
          ¬∃ r ∈ ofB, name = (Family.sequenced b).fileName r.sequence := by
    simp only [latestName_sequenced_eq_ok_iff, hlist, Except.ok.injEq, exists_eq_left',
      Family.latest?, Naming.newest?_eq_some_iff, not_exists, not_and, ne_eq]
  rw [hlatest, Naming.exists_isNewest_not_iff]
  swap
  · rintro _ ⟨own, hown, rfl⟩
    exact (hlisted (Family.key_fileName hb _)).2 (.inr ⟨own, hown, rfl⟩)
  constructor
  · rintro ⟨name, hmem, hforeign, k, hk, hlast⟩
    obtain ⟨r, hr, rfl⟩ | ⟨own, hown, heq⟩ := (hlisted hk).1 hmem
    · rw [Family.key_fileName_of_dashed ha hb, Option.ite_none_right_eq_some, Option.some.injEq]
        at hk
      obtain ⟨hsuffix, rfl⟩ := hk
      refine ⟨hsuffix, r, hr, fun own hown => ?_⟩
      exact Family.isAfter_fileName_iff.1 (hlast _ ⟨own, hown, rfl⟩ _ (Family.key_fileName hb _))
    · exact absurd ⟨own, hown, heq⟩ hforeign
  · rintro ⟨hsuffix, r, hr, hlast⟩
    have hk : (Family.sequenced b).key ((Family.sequenced a).fileName r.sequence) =
        some r.sequence := by
      rw [Family.key_fileName_of_dashed ha hb, if_pos hsuffix]
    refine ⟨_, (hlisted hk).2 (.inl ⟨r, hr, rfl⟩), ?_, r.sequence, hk, ?_⟩
    · rintro ⟨own, -, heq⟩
      exact Family.fileName_ne_fileName ha hb hne _ _ heq
    · rintro _ ⟨own, hown, rfl⟩ j hj
      rw [Family.key_fileName hb, Option.some.injEq] at hj
      rw [← hj]
      exact Family.isAfter_fileName_iff.2 (hlast own hown)

open Retention (sampleRecord)

/-- The standard family has saved a record of the one number, and its neighbour a record of the
other. -/
def sharedContainer (own other : UInt64) : Memory :=
  let s := (save .standard (Memory.new "metadata") (sampleRecord own)).2
  (save (.sequenced "-DVA-TARS.json") s (sampleRecord other)).2

theorem sharedBy_sharedContainer (own other : UInt64) :
    SharedBy (sharedContainer own other) "-DVA-TARS.json" "-TARS.json" [sampleRecord other]
      [sampleRecord own] := by
  have hempty : Saved "-DVA-TARS.json" "-TARS.json" (.new "metadata") [] [] := .start rfl nofun
  exact ((hempty.other (sampleRecord own)).one (sampleRecord other)).sharedBy

/-- The neighbour's names are taken for the family's own, but as yet none of them is the latest. The
neighbour never finds a name of the family. -/
theorem latestName_neighbours_nine_seven :
    SharedBy (sharedContainer 9 7) "-DVA-TARS.json" "-TARS.json" [sampleRecord 7] [sampleRecord 9] ∧
      Family.standard.owns ((Family.sequenced "-DVA-TARS.json").fileName 7) ∧
      (¬∃ name, latestName .standard (sharedContainer 9 7) = .ok name ∧
        ∀ r ∈ [sampleRecord 9], name ≠ Family.standard.fileName r.sequence) ∧
      ¬∃ name, latestName (.sequenced "-DVA-TARS.json") (sharedContainer 9 7) = .ok name ∧
        ∀ r ∈ [sampleRecord 7], name ≠ (Family.sequenced "-DVA-TARS.json").fileName r.sequence := by
  have hother : (Family.sequenced "-DVA-TARS.json").Dashed := rfl
  have hown : (Family.sequenced "-TARS.json").Dashed := rfl
  have hshared := sharedBy_sharedContainer 9 7
  obtain ⟨howns, hforeign⟩ := latestName_neighbours hother hown (by decide) hshared
  refine ⟨hshared, (howns 7).2 (by decide +kernel), hforeign.not.2 ?_, ?_⟩
  · rintro ⟨-, r, hr, hlast⟩
    rw [List.mem_singleton.1 hr] at hlast
    exact absurd (hlast _ (List.mem_singleton_self _)) (by decide +kernel)
  · refine (latestName_neighbours hown hother (by decide) hshared.symm).2.not.2 ?_
    rintro ⟨hsuffix, -⟩
    exact absurd hsuffix (by decide +kernel)

/-- The standard family has saved nothing but its fifth record, and finds the seventh of its
neighbour. -/
theorem neighbour_found_as_latest :
    Family.standard.owns ((Family.sequenced "-DVA-TARS.json").fileName 7) ∧
      latestName .standard (sharedContainer 5 7) = .ok "7-DVA-TARS.json" ∧
      Family.standard.fileName 5 = "5-TARS.json" := by
  decide +kernel

end Catalog

end ExportLedger
