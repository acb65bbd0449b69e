import ExportLedger.Proofs.Store.Memory
import ExportLedger.Store.Share
/-!
What a share says of single names, compared with its listing. A directory that is gone cannot be
listed, but a name in it is looked up like one in an empty directory.
-/
namespace ExportLedger

namespace Share

variable {s : Share} {name : String}

theorem resolve_of_valid (h : isInvalidName name = false) : s.resolve name = .ok () := by
  rw [resolve, h]
  rfl

theorem resolve_of_invalid (h : isInvalidName name = true) :
    s.resolve name = .error (.unavailable s.name .resolve (.invalidName name)) := if_pos h

theorem exists?_of_valid (h : isInvalidName name = false) : Container.exists? s name =
    match s.directory.find name with
    | .ok e => .ok e.isFile
    | .error .missing => .ok false
    | .error e => .error (.unavailable s.name .probe (obstacle e)) := by
  show (s.resolve name >>= fun _ => _) = _
  rw [resolve_of_valid h]
  rfl

theorem exists?_of_invalid (h : isInvalidName name = true) :
    Container.exists? s name = .error (.unavailable s.name .resolve (.invalidName name)) := by
  simp only [Container.exists?, exists?, resolve_of_invalid h, bind, Except.bind]

theorem download_of_valid (h : isInvalidName name = false) :
    Container.download s name = (s.directory.read name).mapError (s.fault .download name) := by
  simp only [Container.download, download, resolve_of_valid h, bind, Except.bind]

theorem download_of_invalid (h : isInvalidName name = true) :
    Container.download s name = .error (.unavailable s.name .resolve (.invalidName name)) := by
  simp only [Container.download, download, resolve_of_invalid h, bind, Except.bind]

/-- Nothing about the name itself keeps it from being looked up. -/
structure Takes (s : Share) (name : String) : Prop where
  valid : isInvalidName name = false
  noNul : '\x00' ∉ name.toList
  /-- A directory that is not there does not ask for the length of a name. -/
  short : s.directory.entries? ≠ none → name.utf8ByteSize ≤ Directory.nameLimit

theorem list_eq_error_iff {e : StoreError} : Container.list s = .error e ↔
    s.directory.entries? = none ∧ e = .unavailable s.name .list .operatingSystem := by
  simp only [Container.list, list]
  cases s.directory.entries? <;> simp [@eq_comm _ e]

theorem list_of_entries {entries : NameMap Entry} (h : s.directory.entries? = some entries) :
    Container.list s =
      .ok ((entries.entries.filter fun e => e.2.isFile && !isPartial e.1).map (·.1)) := by
  simp only [Container.list, list, h]

theorem isPartial_of_valid (h : isInvalidName name = false) : isPartial name = false := by
  simp only [isInvalidName, Bool.or_eq_false_iff] at h
  exact h.2

/-- What is listed is a file, and no partial one. -/
theorem mem_list_iff {entries : NameMap Entry} {names : List String}
    (hentries : s.directory.entries? = some entries) (hlist : Container.list s = .ok names) :
    name ∈ names ↔
      isPartial name = false ∧ ∃ content, entries.get? name = some (.file content) := by
  obtain rfl := Except.ok.inj ((list_of_entries hentries).symm.trans hlist)
  simp only [List.mem_map, List.mem_filter, Bool.and_eq_true, Bool.not_eq_true',
    NameMap.get?_eq_some_iff]
  constructor
  · rintro ⟨⟨n, entry⟩, ⟨hmem, hfile, hpartial⟩, rfl⟩
    cases entry with
    | file content => exact ⟨hpartial, content, hmem⟩
    | folder => contradiction
  · rintro ⟨hpartial, content, hmem⟩
    exact ⟨_, ⟨hmem, rfl, hpartial⟩, rfl⟩

theorem exists?_of_absent (h : s.Takes name) (habsent : s.directory.entries? = none) :
    Container.exists? s name = .ok false := by
  simp [exists?_of_valid h.valid, Directory.find, Directory.reach, h.noNul, habsent, bind,
    Except.bind]

theorem exists?_of_entries {entries : NameMap Entry} (h : s.Takes name)
    (hentries : s.directory.entries? = some entries) :
    Container.exists? s name = .ok ((entries.get? name).any Entry.isFile) := by
  have hshort : ¬Directory.nameLimit < name.utf8ByteSize :=
    Nat.not_lt.2 (h.short (by simp [hentries]))
  simp only [exists?_of_valid h.valid, Directory.find, Directory.reach, h.noNul, hentries, hshort,
    bind, Except.bind, if_false]
  cases entries.get? name <;> rfl

theorem exists_held_of_takes (h : s.Takes name) : ∃ held, Container.exists? s name = .ok held := by
  cases hentries : s.directory.entries? with
  | none => exact ⟨_, exists?_of_absent h hentries⟩
  | some entries => exact ⟨_, exists?_of_entries h hentries⟩

theorem exists?_of_not_takes (h : ¬s.Takes name) : ∃ e, Container.exists? s name = .error e := by
  by_cases hinvalid : isInvalidName name = true
  · exact ⟨_, exists?_of_invalid hinvalid⟩
  have hvalid := Bool.eq_false_iff.2 hinvalid
  simp only [exists?_of_valid hvalid, Directory.find, Directory.reach]
  by_cases hnul : '\x00' ∈ name.toList
  · exact ⟨_, by rw [if_pos hnul]; rfl⟩
  rw [if_neg hnul]
  cases hentries : s.directory.entries? with
  | none => exact absurd ⟨hvalid, hnul, fun hne => absurd hentries hne⟩ h
  | some entries =>
    have hlong : Directory.nameLimit < name.utf8ByteSize := by
      by_contra hshort
      exact h ⟨hvalid, hnul, fun _ => Nat.not_lt.1 hshort⟩
    exact ⟨_, by simp only [if_pos hlong]; rfl⟩

/-- A file is there if it is listed. -/
theorem exists?_eq_true_iff : Container.exists? s name = .ok true ↔
    s.Takes name ∧ ∃ names, Container.list s = .ok names ∧ name ∈ names := by
  by_cases h : s.Takes name
  · cases hentries : s.directory.entries? with
    | none =>
      have hlist : Container.list s = .error _ := list_eq_error_iff.2 ⟨hentries, rfl⟩
      simp [exists?_of_absent h hentries, hlist]
    | some entries =>
      have hlist := list_of_entries hentries
      simp only [exists?_of_entries h hentries, h, true_and, hlist, Except.ok.injEq,
        exists_eq_left']
      rw [mem_list_iff hentries hlist]
      simp only [isPartial_of_valid h.valid, true_and]
      cases entries.get? name with
      | none => simp
      | some entry => cases entry <;> simp [Entry.isFile]
  · obtain ⟨e, he⟩ := exists?_of_not_takes h
    simp [he, h]

/-- No file is said to be there if none is listed, and also if there is no listing. -/
theorem exists?_eq_false_iff : Container.exists? s name = .ok false ↔
    s.Takes name ∧ ∀ names, Container.list s = .ok names → name ∉ names := by
  have htrue : Container.exists? s name = .ok true ↔ _ := exists?_eq_true_iff
  by_cases h : s.Takes name
  · obtain ⟨b, hb⟩ := exists_held_of_takes h
    rw [hb, Except.ok.injEq] at htrue ⊢
    rw [← Bool.not_eq_true, htrue]
    simp only [h, true_and, not_exists, not_and]
  · obtain ⟨e, he⟩ := exists?_of_not_takes h
    simp [he, h]

end Share

end ExportLedger
