import ExportLedger.Proofs.Export.ResultName
import ExportLedger.Proofs.Store.Truthful
/-!
Result files that are looked up in a share. Under its own name a result file can be looked up in
every directory, under a marked name only if the file system takes the mark.
-/
namespace ExportLedger

namespace Share

variable {s : Share} {mark name : String} {front : List Char} {n : Nat}

/-- Whatever is in front of it, a name with this ending is neither one of the reserved names nor a
partial one. -/
theorem isInvalidName_of_xml (hname : name.toList = front ++ ".xml".toList) :
    isInvalidName name = false ↔ '/' ∉ front ∧ '\\' ∉ front := by
  have hne {other : String} (hlen : other.toList.length < 4) : (name == other) = false := by
    rw [beq_eq_false_iff_ne]
    rintro rfl
    rw [hname, List.length_append] at hlen
    exact absurd hlen (by simp)
  have hcontains {c : Char} (hc : c ∉ ".xml".toList) : name.toList.contains c = false ↔
      c ∉ front := by
    rw [← Bool.not_eq_true, List.contains_iff_mem, hname, List.mem_append, or_iff_left hc]
  have hpartial : isPartial name = false := by
    rw [isPartial, ← Bool.not_eq_true, List.isSuffixOf_iff_suffix, hname]
    intro hsuffix
    rcases List.suffix_or_suffix_of_suffix hsuffix (List.suffix_append _ _) with h | h
    · exact absurd h (by decide)
    · exact absurd h (by decide)
  rw [isInvalidName, hne (by decide), hne (by decide), hne (by decide), hpartial]
  simp only [Bool.or_eq_false_iff, hcontains (c := '/') (by decide),
    hcontains (c := '\\') (by decide), true_and, and_true]

/-- Result files can be marked so, as far as the file system is concerned. -/
structure Markable (mark fileName : String) : Prop where
  noSeparator : '/' ∉ mark.toList ∧ '\\' ∉ mark.toList
  noNul : '\x00' ∉ mark.toList
  short : mark.utf8ByteSize + fileName.utf8ByteSize ≤ Directory.nameLimit

theorem takes_marked_iff (hthere : s.directory.entries? ≠ none) :
    s.Takes (mark ++ Template.standardName n) ↔ Markable mark (Template.standardName n) := by
  have hdigits {c : Char} (hc : c.isDigit = false) : c ∉ Decimal.digits n := by
    intro hmem
    rw [Decimal.isDigit_of_mem_digits hmem] at hc
    contradiction
  have hlist : (mark ++ Template.standardName n).toList =
      (mark.toList ++ ("TARS".toList ++ Decimal.digits n)) ++ ".xml".toList := by
    rw [String.toList_append, Template.toList_standardName, List.append_assoc, List.append_assoc]
  have hmem {c : Char} (hfixed : c ∉ "TARS".toList) (hc : c.isDigit = false) :
      c ∉ mark.toList ++ ("TARS".toList ++ Decimal.digits n) ↔ c ∉ mark.toList := by
    simp only [List.mem_append, hfixed, hdigits hc, or_false]
  have hnul : '\x00' ∉ (mark ++ Template.standardName n).toList ↔ '\x00' ∉ mark.toList := by
    rw [hlist, List.mem_append, or_iff_left (by decide), hmem (by decide) (by decide)]
  have hvalid : isInvalidName (mark ++ Template.standardName n) = false ↔
      '/' ∉ mark.toList ∧ '\\' ∉ mark.toList := by
    rw [isInvalidName_of_xml hlist, hmem (by decide) (by decide), hmem (by decide) (by decide)]
  constructor
  · rintro ⟨hok, hno, hshort⟩
    exact ⟨hvalid.1 hok, hnul.1 hno, String.utf8ByteSize_append ▸ hshort hthere⟩
  · rintro ⟨hsep, hno, hshort⟩
    exact ⟨hvalid.2 hsep, hnul.2 hno, fun _ => String.utf8ByteSize_append ▸ hshort⟩

/-- Its own name can always be looked up. -/
theorem takes_standardName (hthere : s.directory.entries? ≠ none) (hn : n < UInt64.size) :
    s.Takes (Template.standardName n) := by
  have hlength := Template.utf8ByteSize_standardName_le hn
  rw [← String.empty_append (s := Template.standardName n)]
  refine (takes_marked_iff hthere).2 ⟨⟨nofun, nofun⟩, nofun, ?_⟩
  show 0 + _ ≤ 255
  omega

theorem exists?_of_takes (h : s.Takes name) : Container.exists? s name = .ok (look s name).isSome :=
  (truthful s).exists?_eq_isSome (exists_held_of_takes h)

/-- What is said to be there can be fetched. -/
theorem download_of_exists? (h : Container.exists? s name = .ok true) :
    ∃ content, Container.download s name = .ok content := by
  have hvalid := (exists?_eq_true_iff.1 h).1.valid
  rw [exists?_of_valid hvalid] at h
  rw [download_of_valid hvalid, Directory.read]
  cases hfind : s.directory.find name with
  | error e =>
    rw [hfind] at h
    cases e <;> cases h
  | ok entry =>
    rw [hfind] at h
    cases entry with
    | file content => exact ⟨content, rfl⟩
    | folder => cases h

end Share

namespace Directory

variable {d after : Directory}

theorem there_of_put {name : String} {content : ByteArray} (h : d.put name content = .ok after) :
    after.entries? ≠ none := by
  obtain ⟨entries, -, rfl⟩ := entries_of_put h
  exact Option.some_ne_none _

theorem there_of_apply {step : Step} (h : d.apply step = .ok after) : after.entries? ≠ none := by
  cases step with
  | create name => exact there_of_put h
  | append name content =>
    simp only [apply, bind, Except.bind] at h
    split at h
    · contradiction
    · exact there_of_put h
  | rename source target =>
    simp only [apply, bind, Except.bind] at h
    split at h
    · contradiction
    · split at h
      · contradiction
      · exact there_of_put h

theorem there_run (h : d.entries? ≠ none) (steps : List Step) :
    (d.run steps).2.entries? ≠ none := by
  induction steps generalizing d with
  | nil => exact h
  | cons step steps ih =>
    simp only [run]
    cases happly : d.apply step with
    | error e => exact h
    | ok next => exact ih (there_of_apply happly)

end Directory

theorem Share.there_upload {s : Share} (h : s.directory.entries? ≠ none) (name : String)
    (content : ByteArray) :
    (Container.upload s name content).2.directory.entries? ≠ none := by
  simp only [Container.upload, upload]
  cases s.resolve name with
  | error e => exact h
  | ok => exact Directory.there_run h _

end ExportLedger
