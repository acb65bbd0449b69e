import ExportLedger.Proofs.Catalog
import ExportLedger.Proofs.Catalog.Failure
/-!
A record that is saved among others. Its name decides whether it is the latest from then on; what
the others tell about themselves does not matter.
-/
namespace ExportLedger.Catalog

variable {family : Family} {s : Memory} {name : String} {r : Record}

theorem responds_of_latestName (h : ∀ e, latestName family s ≠ .error (.store e)) :
    Responds family s := by
  have hanswered (e : StoreError) : ¬Unanswered family s e :=
    fun he => h e (latestName_eq_error_iff.2 (.inl ⟨e, he, rfl⟩))
  cases family with
  | sequenced suffix =>
    cases hlist : s.failsList with
    | false => exact hlist
    | true => exact absurd (if_pos hlist) (hanswered (s.injected .list ""))
  | fixed fileName => exact fun hfails => hanswered _ (Memory.exists?_eq_error hfails)

/-- The name is one of the family's, and the latest name so far does not come after it. -/
def Supersedes (family : Family) (s : Memory) (name : String) : Prop :=
  ∃ k, family.key name = some k ∧
    ∀ m j, latestName family s = .ok m → family.key m = some j →
    Naming.isAfter (j, m) (k, name) = false

theorem latestName_insert_iff (h : Responds family s) (content : ByteArray) :
    latestName family { s with objects := s.objects.insert name content } = .ok name ↔
      Supersedes family s name := by
  rw [latestName_eq_ok_iff_of_responds (responds_objects_iff.2 h), Family.latest?,
    Naming.newest?_insert_iff fun n => NameMap.mem_names_insert_iff]
  simp only [Supersedes, latestName_eq_ok_iff_of_responds h, Family.latest?]

theorem latestName_insert_of_not_supersedes (h : Responds family s)
    (hnot : ¬Supersedes family s name) (content : ByteArray) :
    latestName family { s with objects := s.objects.insert name content } =
      latestName family s := by
  rw [← latestName_insert_iff h content,
    latestName_eq_ok_iff_of_responds (responds_objects_iff.2 h)] at hnot
  rw [latestName_of_responds h, latestName_of_responds (responds_objects_iff.2 h)]
  exact congrArg (Option.elim · _ _)
    (Naming.newest?_insert_of_ne (fun n => NameMap.mem_names_insert_iff) hnot)

theorem load_insert_of_ne {other : String} (hne : other ≠ name) (content : ByteArray) :
    load family { s with objects := s.objects.insert name content } other =
      load family s other := by
  simp only [load, Container.download, Memory.download, NameMap.get?_insert, if_neg hne]
  rfl

/-- An object that does not become the latest makes no difference. -/
theorem latestRecord_insert_of_not_supersedes (h : Responds family s)
    (hnot : ¬Supersedes family s name) (content : ByteArray) :
    latestRecord family { s with objects := s.objects.insert name content } =
      latestRecord family s := by
  have hne := (latestName_insert_iff h content).not.2 hnot
  have hsame := latestName_insert_of_not_supersedes h hnot content
  rw [hsame] at hne
  rw [latestRecord, latestRecord, hsame]
  cases hlatest : latestName family s with
  | error cause => rfl
  | ok other =>
    refine load_insert_of_ne ?_ content
    rintro rfl
    exact hne hlatest

/-- A record that becomes the latest can be read back, unless the store has been told to fail there.
Where it does not become the latest, it may still happen to equal the record that was and stays the
latest. -/
theorem latestRecord_save_iff (h : Responds family s) (hr : r.Storable family.detail) :
    latestRecord family (save family s r).2 = .ok r ↔
      Supersedes family s (family.fileName r.sequence) ∧
      family.fileName r.sequence ∉ s.failingDownloads ∨
        ¬Supersedes family s (family.fileName r.sequence) ∧ latestRecord family s = .ok r := by
  rw [save_eq]
  dsimp only
  by_cases hsup : Supersedes family s (family.fileName r.sequence)
  · have hname := (latestName_insert_iff h r.text.toUTF8).2 hsup
    simp only [hsup, true_and, not_true_eq_false, false_and, or_false]
    rw [latestRecord, hname]
    simp only [bind, Except.bind]
    constructor
    · intro hload hfails
      obtain ⟨bytes, hbytes, -⟩ := load_eq_ok_iff.1 hload
      cases hbytes.symm.trans (Memory.download_eq_error hfails)
    · intro hreadable
      refine load_eq_ok_iff.2 ⟨r.text.toUTF8, Memory.download_eq hreadable ?_, Record.parse_text hr⟩
      rw [NameMap.get?_insert, if_pos rfl]
  · rw [latestRecord_insert_of_not_supersedes h hsup]
    simp only [hsup, false_and, not_false_eq_true, true_and, false_or]

end ExportLedger.Catalog
