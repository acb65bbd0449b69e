import ExportLedger.Proofs.Store.Directory
/-!
A directory that is there and holds nothing but files. Asked for a name that the file system takes,
it answers what its files say, and every change takes effect.
-/
namespace ExportLedger

namespace Directory

variable {d : Directory} {name part : String} {content start : ByteArray}

structure Plain (d : Directory) : Prop where
  there : d.entries? ≠ none
  files : ∀ name, d.entries.get? name ≠ some .folder

theorem plain_of_all_isFile (hthere : d.entries? ≠ none)
    (hfiles : d.entries.entries.all (·.2.isFile)) : d.Plain := by
  refine ⟨hthere, fun name hfolder => ?_⟩
  have hfile := List.all_eq_true.1 hfiles _ (NameMap.get?_eq_some_iff.1 hfolder)
  contradiction

/-- The file system takes the name. -/
structure Admits (name : String) : Prop where
  noNul : '\x00' ∉ name.toList
  short : name.utf8ByteSize ≤ nameLimit

theorem Admits.of_append {mark : String} (h : Admits (name ++ mark)) : Admits name := by
  obtain ⟨hnul, hshort⟩ := h
  rw [String.toList_append, List.mem_append, not_or] at hnul
  rw [String.utf8ByteSize_append] at hshort
  exact ⟨hnul.1, Nat.le_of_add_right_le hshort⟩

namespace Plain

theorem reach_eq (h : d.Plain) (hname : Admits name) : d.reach name = .ok d.entries := by
  obtain ⟨entries, hentries⟩ := Option.ne_none_iff_exists'.1 h.there
  exact reach_eq_ok_iff.2 ⟨hname.noNul, by rw [hentries, entries_eq hentries], hname.short⟩

theorem get?_eq (h : d.Plain) (name : String) : d.entries.get? name = (d.file? name).map .file := by
  have hfile := h.files name
  rw [file?]
  cases hget : d.entries.get? name with
  | none => rfl
  | some entry =>
    cases entry with
    | file content => rfl
    | folder => exact absurd hget hfile

theorem find_eq (h : d.Plain) (hname : Admits name) :
    d.find name = (d.file? name).elim (.error .missing) fun content => .ok (.file content) := by
  simp only [find, h.reach_eq hname, bind, Except.bind, h.get?_eq]
  cases d.file? name <;> rfl

theorem read_eq (h : d.Plain) (hname : Admits name) :
    d.read name = (d.file? name).elim (.error .missing) .ok := by
  simp only [read, h.find_eq hname, bind, Except.bind]
  cases d.file? name <;> rfl

theorem put_eq (h : d.Plain) (hname : Admits name) (content : ByteArray) :
    d.put name content = .ok (.ofEntries (d.entries.insert name (.file content))) := by
  simp only [put, h.reach_eq hname, bind, Except.bind, h.get?_eq]
  cases d.file? name <;> rfl

theorem remove_eq (h : d.Plain) (hname : Admits name) :
    d.remove name = (d.file? name).elim (.error .missing) fun _ =>
      .ok (.ofEntries (d.entries.erase name)) := by
  simp only [remove, h.reach_eq hname, bind, Except.bind, h.get?_eq]
  cases d.file? name <;> rfl

theorem insert (h : d.Plain) (name : String) (content : ByteArray) :
    (ofEntries (d.entries.insert name (.file content))).Plain := by
  constructor
  · exact Option.some_ne_none _
  · intro n
    show (d.entries.insert name (.file content)).get? n ≠ _
    rw [NameMap.get?_insert]
    split
    · simp
    · exact h.files n

theorem erase (h : d.Plain) (name : String) : (ofEntries (d.entries.erase name)).Plain := by
  constructor
  · exact Option.some_ne_none _
  · intro n
    show (d.entries.erase name).get? n ≠ _
    rw [NameMap.get?_erase]
    split
    · simp
    · exact h.files n

theorem exists_apply_create (h : d.Plain) (hname : Admits name) :
    ∃ after, d.apply (.create name) = .ok after ∧ after.Plain :=
  ⟨_, h.put_eq hname .empty, h.insert name .empty⟩

theorem exists_apply_append (h : d.Plain) (hname : Admits name) (hfile : d.file? name = some start)
    (content : ByteArray) : ∃ after, d.apply (.append name content) = .ok after ∧ after.Plain := by
  have hread : d.read name = .ok start := by
    rw [h.read_eq hname, hfile]
    rfl
  simp only [apply, hread, bind, Except.bind]
  exact ⟨_, h.put_eq hname _, h.insert name _⟩

theorem exists_apply_rename {source target : String} (h : d.Plain) (hsource : Admits source)
    (htarget : Admits target) (hfile : d.file? source = some content) :
    ∃ after, d.apply (.rename source target) = .ok after ∧ after.Plain := by
  have hread : d.read source = .ok content := by
    rw [h.read_eq hsource, hfile]
    rfl
  have hremove : d.remove source = .ok (.ofEntries (d.entries.erase source)) := by
    rw [h.remove_eq hsource, hfile]
    rfl
  simp only [apply, hread, hremove, bind, Except.bind]
  exact ⟨_, (h.erase source).put_eq htarget content, (h.erase source).insert target content⟩

theorem exists_run_append (h : d.Plain) (hpart : Admits part) (hstart : d.file? part = some start)
    (pieces : List ByteArray) :
    ∃ after, d.run (pieces.map (.append part)) = (.ok (), after) ∧ after.Plain := by
  induction pieces generalizing d start with
  | nil => exact ⟨d, rfl, h⟩
  | cons piece pieces ih =>
    obtain ⟨next, hnext, hplain⟩ := h.exists_apply_append hpart hstart piece
    obtain ⟨old, -, hfiles⟩ := file?_of_append hnext
    have hgrown : next.file? part = some (old ++ piece) := by rw [hfiles, Function.update_self]
    simp only [List.map_cons, run, hnext]
    exact ih hplain hgrown

end Plain

end Directory

namespace Share

variable {s : Share} {name : String} {content : ByteArray}

/-- The name may be used, and leaves room for the partial mark. -/
structure Fits (name : String) : Prop where
  valid : isInvalidName name = false
  marked : Directory.Admits (name ++ partialMark)

theorem Fits.admits (h : Fits name) : Directory.Admits name := h.marked.of_append

theorem shown_eq (h : Fits name) : s.shown name = s.directory.file? name := by
  rw [shown, isPartial_of_valid h.valid]
  rfl

section Answers

variable (hplain : s.directory.Plain)

include hplain

theorem list_of_plain : ∃ names, Container.list s = .ok names ∧ names.Nodup := by
  obtain ⟨entries, hentries⟩ := Option.ne_none_iff_exists'.1 hplain.there
  exact ⟨_, list_of_entries hentries, entries.nodup_names.sublist (List.filter_sublist.map _)⟩

theorem download_of_plain (h : Fits name) :
    Container.download s name = (s.shown name).elim (.error (.notFound s.name name)) .ok := by
  rw [download_of_valid h.valid, hplain.read_eq h.admits, shown_eq h]
  cases s.directory.file? name <;> rfl

theorem exists?_of_plain (h : Fits name) :
    Container.exists? s name = .ok (s.shown name).isSome := by
  rw [exists?_of_valid h.valid, hplain.find_eq h.admits, shown_eq h]
  cases s.directory.file? name <;> rfl

theorem delete_of_plain (h : Fits name) : Container.delete s name = (s.shown name).elim
    (.error (.notFound s.name name), s)
    fun _ => (.ok (), { s with directory := .ofEntries (s.directory.entries.erase name) }) := by
  simp only [Container.delete, delete, resolve_of_valid h.valid,
    hplain.remove_eq h.admits, shown_eq h]
  cases s.directory.file? name <;> rfl

/-- No step of the upload fails. -/
theorem upload_of_plain (h : Fits name) (content : ByteArray) : ∃ directory : Directory,
    Container.upload s name content = (.ok (), { s with directory }) ∧ directory.Plain := by
  obtain ⟨created, hcreate, hcreated⟩ := hplain.exists_apply_create h.marked
  have hempty : created.file? (name ++ partialMark) = some .empty := by
    rw [Directory.file?_of_put hcreate, Function.update_self]
  obtain ⟨written, happend, hwritten⟩ := hcreated.exists_run_append h.marked hempty
    ((chunks s.chunkBytes content.toList).map List.toByteArray)
  have hpartial : s.directory.run (s.partialSteps name content) = (.ok (), written) := by
    simp only [partialSteps, Directory.run, hcreate, happend]
  obtain ⟨renamed, hrename, hrenamed⟩ :=
    hwritten.exists_apply_rename h.marked h.admits (file?_run_partialSteps hpartial)
  have hrun : s.directory.run (s.uploadSteps name content) = (.ok (), renamed) := by
    rw [uploadSteps_eq, Directory.run_append, hpartial]
    simp only [Directory.run, hrename]
  refine ⟨renamed, ?_, hrenamed⟩
  simp only [Container.upload, upload, resolve_of_valid h.valid, hrun]
  rfl

end Answers

end Share

end ExportLedger
