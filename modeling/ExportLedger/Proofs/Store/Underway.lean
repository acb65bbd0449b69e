import ExportLedger.Proofs.Store.Plain
/-!
What readers see while an upload is under way, or has been broken off. Whatever becomes of the
upload, a reader finds everything as before until the partial file has been renamed, and then the
new file complete.
-/
namespace ExportLedger

namespace Directory

variable {d found after written : Directory} {name part source target : String}
  {content : ByteArray} {entries : NameMap Entry} {steps left : List Step}

/-- The directories have the same entries under all the names that count. -/
structure Agrees (counts : String → Prop) (d after : Directory) : Prop where
  there : after.entries? = none ↔ d.entries? = none
  get?_eq : ∀ n, counts n → after.entries.get? n = d.entries.get? n

namespace Agrees

variable {counts : String → Prop}

theorem refl (counts : String → Prop) (d : Directory) : Agrees counts d d :=
  ⟨Iff.rfl, fun _ _ => rfl⟩

theorem trans {first second third : Directory} (h : Agrees counts first second)
    (h' : Agrees counts second third) :
    Agrees counts first third :=
  ⟨h'.there.trans h.there, fun n hn => (h'.get?_eq n hn).trans (h.get?_eq n hn)⟩

theorem mono {fewer : String → Prop} (h : Agrees counts d after)
    (hfewer : ∀ n, fewer n → counts n) :
    Agrees fewer d after :=
  ⟨h.there, fun n hn => h.get?_eq n (hfewer n hn)⟩

theorem find_eq (h : Agrees counts d after) {n : String} (hn : counts n) :
    after.find n = d.find n := by
  have hget := h.get?_eq n hn
  have hthere := h.there
  unfold find reach
  by_cases hnul : '\x00' ∈ n.toList
  · rw [if_pos hnul, if_pos hnul]
  rw [if_neg hnul, if_neg hnul]
  cases hd : d.entries? with
  | none => rw [hthere.2 hd]
  | some entries =>
    cases hafter : after.entries? with
    | none => rw [hthere.1 hafter] at hd; contradiction
    | some others =>
      rw [entries_eq hd, entries_eq hafter] at hget
      dsimp only
      by_cases hlong : nameLimit < n.utf8ByteSize
      · rw [if_pos hlong, if_pos hlong]
      · rw [if_neg hlong, if_neg hlong]
        simp only [bind, Except.bind, hget]

theorem read_eq (h : Agrees counts d after) {n : String} (hn : counts n) :
    after.read n = d.read n := by
  rw [read, read, h.find_eq hn]

theorem of_put (h : d.put name content = .ok after) : Agrees (· ≠ name) d after := by
  obtain ⟨entries, hreach, rfl⟩ := entries_of_put h
  have hentries := (reach_eq_ok_iff.1 hreach).2.1
  constructor
  · rw [hentries]
    exact Iff.intro nofun nofun
  · intro n hn
    rw [entries_eq hentries]
    exact (NameMap.get?_insert entries name _ n).trans (if_neg hn)

theorem of_remove (h : d.remove name = .ok after) : Agrees (· ≠ name) d after := by
  obtain ⟨entries, hreach, rfl⟩ := entries_of_remove h
  have hentries := (reach_eq_ok_iff.1 hreach).2.1
  constructor
  · rw [hentries]
    exact Iff.intro nofun nofun
  · intro n hn
    rw [entries_eq hentries]
    exact (NameMap.get?_erase entries name n).trans (if_neg hn)

theorem of_append (h : d.apply (.append name content) = .ok after) : Agrees (· ≠ name) d after := by
  simp only [apply, bind, Except.bind] at h
  cases hread : d.read name with
  | error e => simp [hread] at h
  | ok old =>
    simp only [hread] at h
    exact of_put h

theorem of_rename (h : d.apply (.rename source target) = .ok after) :
    Agrees (fun n => n ≠ source ∧ n ≠ target) d after := by
  simp only [apply, bind, Except.bind] at h
  cases hremove : d.remove source with
  | error e => simp [hremove] at h
  | ok rest =>
    cases hread : d.read source with
    | error e => simp [hremove, hread] at h
    | ok content =>
      simp only [hremove, hread] at h
      exact ((of_remove hremove).mono fun n hn => hn.1).trans ((of_put h).mono fun n hn => hn.2)

theorem of_keeps {step : Step} (hstep : step.Keeps part) (h : d.apply step = .ok after) :
    Agrees (· ≠ part) d after := by
  cases step with
  | create name =>
    cases hstep
    exact of_put h
  | append name content =>
    cases hstep
    exact of_append h
  | rename source target => exact hstep.elim

theorem of_run (hsteps : ∀ step ∈ steps, step.Keeps part) (d : Directory) :
    Agrees (· ≠ part) d (d.run steps).2 := by
  induction steps generalizing d with
  | nil => exact refl _ d
  | cons step steps ih =>
    have hrest := fun s hs => hsteps s (List.mem_cons_of_mem _ hs)
    unfold run
    cases happly : d.apply step with
    | error e => exact refl _ d
    | ok next => exact (of_keeps (hsteps step List.mem_cons_self) happly).trans (ih hrest next)

end Agrees

/-- A directory as it may be found while the steps are taken, with the steps that have not been
completed by then. A step that fails, for whatever reason, is the last that is begun, and of an
append that fails a part may be there. -/
inductive Moment : Directory → List Step → Directory → List Step → Prop where
  | now (d : Directory) (steps : List Step) : Moment d steps d steps
  | torn {d found : Directory} {name : String} {front back : ByteArray} {steps : List Step}
      (h : d.apply (.append name front) = .ok found) :
      Moment d (.append name (front ++ back) :: steps) found (.append name (front ++ back) :: steps)
  | later {d next found : Directory} {step : Step} {steps left : List Step}
      (h : d.apply step = .ok next)
      (hfound : Moment next steps found left) : Moment d (step :: steps) found left

/-- Where a run ends, successful or not, is one of its moments. -/
theorem moment_run (d : Directory) (steps : List Step) :
    ∃ left, Moment d steps (d.run steps).2 left ∧ (left = [] ↔ (d.run steps).1 = .ok ()) := by
  induction steps generalizing d with
  | nil => exact ⟨[], .now d [], iff_of_true rfl rfl⟩
  | cons step steps ih =>
    unfold run
    cases happly : d.apply step with
    | error e => exact ⟨step :: steps, .now d (step :: steps), by simp only [reduceCtorEq]⟩
    | ok next =>
      obtain ⟨left, hmoment, hleft⟩ := ih next
      exact ⟨left, .later happly hmoment, hleft⟩

/-- Up to the renaming only the partial file is touched. -/
theorem Moment.agrees_or_renamed (hsteps : ∀ step ∈ steps, step.Keeps part)
    (h : Moment d (steps ++ [.rename source target]) found left) :
    (left ≠ [] ∧ Agrees (· ≠ part) d found) ∨
      (left = [] ∧ ∃ written, d.run steps = (.ok (), written) ∧
        written.apply (.rename source target) = .ok found) := by
  induction steps generalizing d with
  | nil =>
    cases h with
    | now => exact .inl ⟨nofun, .refl _ _⟩
    | later happly hfound =>
      cases hfound
      exact .inr ⟨rfl, d, rfl, happly⟩
  | cons step steps ih =>
    have hstep := hsteps step List.mem_cons_self
    have hrest := fun s hs => hsteps s (List.mem_cons_of_mem _ hs)
    cases h with
    | now => exact .inl ⟨nofun, .refl _ _⟩
    | torn happly =>
      refine .inl ⟨nofun, ?_⟩
      cases hstep
      exact .of_append happly
    | later happly hfound =>
      obtain ⟨hleft, hagrees⟩ | ⟨hleft, written, hrun, hrename⟩ := ih hrest hfound
      · exact .inl ⟨hleft, (Agrees.of_keeps hstep happly).trans hagrees⟩
      · refine .inr ⟨hleft, written, ?_, hrename⟩
        rw [run, happly]
        exact hrun

/-- What has been moved stands under its new name, and the file system takes that name. -/
theorem renamed_get? (h : d.apply (.rename source target) = .ok found)
    (hsource : d.file? source = some content) :
    ∃ entries, found.reach target = .ok entries ∧ entries.get? target = some (.file content) := by
  simp only [apply, bind, Except.bind] at h
  cases hremove : d.remove source with
  | error e => simp [hremove] at h
  | ok rest =>
    cases hread : d.read source with
    | error e => simp [hremove, hread] at h
    | ok moved =>
      simp only [hremove, hread] at h
      have hmoved : moved = content := Option.some.inj ((file?_of_read hread).symm.trans hsource)
      obtain ⟨entries, hreach, rfl⟩ := entries_of_put h
      obtain ⟨hnul, -, hshort⟩ := reach_eq_ok_iff.1 hreach
      refine ⟨entries.insert target (.file moved), reach_eq_ok_iff.2 ⟨hnul, rfl, hshort⟩, ?_⟩
      rw [NameMap.get?_insert, if_pos rfl, hmoved]

end Directory

namespace Share

open Directory (Moment Agrees)

variable {s after : Share} {name n : String} {content : ByteArray} {found : Directory}
  {left : List Directory.Step}

/-- Nothing that can be asked tells the shares apart. -/
structure AnswersAlike (s after : Share) : Prop where
  list : Container.list after = Container.list s
  exists? : ∀ n, Container.exists? after n = Container.exists? s n
  download : ∀ n, Container.download after n = Container.download s n

/-- The share has the whole content under the name, and is otherwise as before. -/
structure Delivered (s : Share) (name : String) (content : ByteArray) (after : Share) : Prop where
  exists?_name : Container.exists? after name = .ok true
  download_name : Container.download after name = .ok content
  exists?_other : ∀ n, n ≠ name → Container.exists? after n = Container.exists? s n
  download_other : ∀ n, n ≠ name → Container.download after n = Container.download s n
  list : ∃ before names, Container.list s = .ok before ∧ Container.list after = .ok names ∧
    ∀ n, n ∈ names ↔ n = name ∨ n ∈ before

/-- A partial name is neither listed nor to be had. -/
structure Hides (s : Share) (n : String) : Prop where
  unlisted : ∀ names, Container.list s = .ok names → n ∉ names
  unprobed : ∃ e, Container.exists? s n = .error e
  unfetched : ∃ e, Container.download s n = .error e

theorem invalid_of_partial (h : isPartial n = true) : isInvalidName n = true := by
  simp only [isInvalidName, h, Bool.or_true]

theorem hides_of_partial (s : Share) (h : isPartial n = true) : s.Hides n where
  unlisted := by
    intro names hlist hmem
    cases hentries : s.directory.entries? with
    | none =>
      have hfails : Container.list s = .error _ := list_eq_error_iff.2 ⟨hentries, rfl⟩
      cases hlist.symm.trans hfails
    | some entries =>
      have hshown := ((mem_list_iff hentries hlist).1 hmem).1
      rw [h] at hshown
      contradiction
  unprobed := ⟨_, exists?_of_invalid (invalid_of_partial h)⟩
  unfetched := ⟨_, download_of_invalid (invalid_of_partial h)⟩

theorem exists?_of_agrees {counts : String → Prop} (h : Agrees counts s.directory found)
    (hn : isInvalidName n = false → counts n) :
    Container.exists? { s with directory := found } n = Container.exists? s n := by
  cases hvalid : isInvalidName n with
  | true => rw [exists?_of_invalid hvalid, exists?_of_invalid hvalid]
  | false => rw [exists?_of_valid hvalid, exists?_of_valid hvalid, h.find_eq (hn hvalid)]

theorem download_of_agrees {counts : String → Prop} (h : Agrees counts s.directory found)
    (hn : isInvalidName n = false → counts n) :
    Container.download { s with directory := found } n = Container.download s n := by
  cases hvalid : isInvalidName n with
  | true => rw [download_of_invalid hvalid, download_of_invalid hvalid]
  | false =>
    rw [download_of_valid hvalid, download_of_valid hvalid, h.read_eq (hn hvalid)]
    rfl

/-- A partial file makes no difference to the listing. -/
theorem filter_erase_of_partial {part : String} (hpart : isPartial part = true)
    (entries : NameMap Entry) :
    (entries.erase part).entries.filter (fun e => e.2.isFile && !isPartial e.1) =
      entries.entries.filter fun e => e.2.isFile && !isPartial e.1 := by
  unfold NameMap.erase
  rw [List.filter_filter]
  refine List.filter_congr fun e _ => ?_
  by_cases he : e.1 = part
  · simp only [he, hpart, Bool.not_true, Bool.and_false, Bool.false_and]
  · simp only [ne_eq, he, not_false_eq_true, decide_true, Bool.and_true]

theorem list_of_agrees {part : String} (hpart : isPartial part = true)
    (h : Agrees (· ≠ part) s.directory found) :
    Container.list { s with directory := found } = Container.list s := by
  have hget := h.get?_eq
  have hthere := h.there
  simp only [Container.list, list]
  cases hd : s.directory.entries? with
  | none => rw [hthere.2 hd]
  | some entries =>
    cases hfound : found.entries? with
    | none =>
      rw [hthere.1 hfound] at hd
      contradiction
    | some others =>
      rw [Directory.entries_eq hd, Directory.entries_eq hfound] at hget
      have herase : others.erase part = entries.erase part := by
        apply NameMap.ext_get?
        intro n
        rw [NameMap.get?_erase, NameMap.get?_erase]
        split
        · rfl
        · rename_i hn
          exact hget n hn
      dsimp only
      rw [← filter_erase_of_partial hpart others, herase, filter_erase_of_partial hpart]

theorem ne_of_valid (h : isInvalidName n = false) (name : String) : n ≠ name ++ partialMark := by
  rintro rfl
  rw [invalid_of_partial (isPartial_append name)] at h
  contradiction

theorem answersAlike_of_agrees (h : Agrees (· ≠ name ++ partialMark) s.directory found) :
    s.AnswersAlike { s with directory := found } where
  list := list_of_agrees (isPartial_append name) h
  exists? _ := exists?_of_agrees h fun hn => ne_of_valid hn name
  download _ := download_of_agrees h fun hn => ne_of_valid hn name

/-- The new name is listed, if it was not before, and that is all. -/
theorem exists_list_of_agrees (hname : isInvalidName name = false)
    (h : Agrees (fun n => n ≠ name ++ partialMark ∧ n ≠ name) s.directory found)
    {entries : NameMap Entry} (hentries : found.entries? = some entries)
    (hget : entries.get? name = some (.file content)) :
    ∃ before names, Container.list s = .ok before ∧
      Container.list { s with directory := found } = .ok names ∧
      ∀ n, n ∈ names ↔ n = name ∨ n ∈ before := by
  obtain ⟨olds, holds⟩ := Option.ne_none_iff_exists'.1 (mt h.there.2 (by rw [hentries]; nofun))
  have hlist := list_of_entries (s := { s with directory := found }) hentries
  refine ⟨_, _, list_of_entries holds, hlist, fun n => ?_⟩
  rw [mem_list_iff hentries hlist, mem_list_iff holds (list_of_entries holds)]
  by_cases hn : n = name
  · rw [hn, hget]
    exact iff_of_true ⟨isPartial_of_valid hname, content, rfl⟩ (.inl rfl)
  · rw [or_iff_right hn]
    refine and_congr_right fun hpartial => ?_
    have hne : n ≠ name ++ partialMark := by
      rintro rfl
      rw [isPartial_append] at hpartial
      contradiction
    have hsame := h.get?_eq n ⟨hne, hn⟩
    rw [Directory.entries_eq holds, Directory.entries_eq hentries] at hsame
    rw [hsame]

theorem delivered_of_renamed (hname : isInvalidName name = false) {written : Directory}
    (hrun : s.directory.run (s.partialSteps name content) = (.ok (), written))
    (hrename : written.apply (.rename (name ++ partialMark) name) = .ok found) :
    s.Delivered name content { s with directory := found } := by
  obtain ⟨entries, hreach, hget⟩ := Directory.renamed_get? hrename (file?_run_partialSteps hrun)
  obtain ⟨hnul, hentries, hshort⟩ := Directory.reach_eq_ok_iff.1 hreach
  have hwritten := Agrees.of_run (keeps_partialSteps s name content) s.directory
  rw [hrun] at hwritten
  have hagrees := (hwritten.mono fun n hn => hn.1).trans (Agrees.of_rename hrename)
  have hother (n : String) (hne : n ≠ name) (hvalid : isInvalidName n = false) :
      n ≠ name ++ partialMark ∧ n ≠ name := ⟨ne_of_valid hvalid name, hne⟩
  have hfind : found.find name = .ok (.file content) := by
    simp only [Directory.find, hreach, bind, Except.bind, hget]
  exact
    { exists?_name := by
        rw [exists?_of_valid hname, hfind]
        rfl
      download_name := by
        rw [download_of_valid hname, Directory.read, hfind]
        rfl
      exists?_other := fun n hne => exists?_of_agrees hagrees (hother n hne)
      download_other := fun n hne => download_of_agrees hagrees (hother n hne)
      list := exists_list_of_agrees hname hagrees hentries hget }

theorem answers_of_moment (hname : isInvalidName name = false)
    (h : Moment s.directory (s.uploadSteps name content) found left) :
    (left ≠ [] → s.AnswersAlike { s with directory := found }) ∧
      (left = [] → s.Delivered name content { s with directory := found }) := by
  rw [uploadSteps_eq] at h
  obtain ⟨hleft, hagrees⟩ | ⟨hleft, written, hrun, hrename⟩ :=
    h.agrees_or_renamed (keeps_partialSteps s name content)
  · exact ⟨fun _ => answersAlike_of_agrees hagrees, fun hnil => absurd hnil hleft⟩
  · exact ⟨fun hne => absurd hleft hne, fun _ => delivered_of_renamed hname hrun hrename⟩

/-- How an upload ends is one of its moments. -/
theorem moment_of_upload (hname : isInvalidName name = false) {result : Except StoreError Unit}
    (h : Container.upload s name content = (result, after)) : ∃ found left,
      Moment s.directory (s.uploadSteps name content) found left ∧
      after = { s with directory := found } ∧
        (left = [] ↔ result = .ok ()) := by
  obtain ⟨left, hmoment, hleft⟩ := Directory.moment_run s.directory (s.uploadSteps name content)
  simp only [Container.upload, upload, resolve_of_valid hname, Prod.mk.injEq] at h
  refine ⟨_, left, hmoment, h.2.symm, hleft.trans ?_⟩
  rw [← h.1]
  cases (s.directory.run (s.uploadSteps name content)).1 with
  | ok _ => exact iff_of_true rfl rfl
  | error e => simp only [Except.mapError, reduceCtorEq]

/-- At every moment of an upload readers find everything as before, or else the new file complete
and everything else as before, and no partial file. An upload that fails has changed nothing that
they find. -/
theorem upload_atomic (s : Share) (hname : isInvalidName name = false) (content : ByteArray) :
    (∀ found left, Moment s.directory (s.uploadSteps name content) found left →
      (left ≠ [] → s.AnswersAlike { s with directory := found }) ∧
        (left = [] → s.Delivered name content { s with directory := found }) ∧
        ∀ n, isPartial n = true → Hides { s with directory := found } n) ∧
      (∀ after, Container.upload s name content = (.ok (), after) →
        s.Delivered name content after) ∧
      ∀ e after, Container.upload s name content = (.error e, after) → s.AnswersAlike after := by
  refine ⟨?_, ?_, ?_⟩
  · intro found left h
    have hanswers := answers_of_moment hname h
    exact ⟨hanswers.1, hanswers.2, fun n hn => hides_of_partial _ hn⟩
  · intro after h
    obtain ⟨found, left, hmoment, rfl, hleft⟩ := moment_of_upload hname h
    exact (answers_of_moment hname hmoment).2 (hleft.2 rfl)
  · intro e after h
    obtain ⟨found, left, hmoment, rfl, hleft⟩ := moment_of_upload hname h
    exact (answers_of_moment hname hmoment).1 (mt hleft.1 nofun)

/-- Holds an older file, and what is left of an upload of it that was broken off. -/
def republishing : Share where
  name := "results"
  directory := .ofEntries
    (.ofList [("TARS1.xml", .file "old".toUTF8), ("TARS1.xml.partial", .file "le".toUTF8)])
  chunkBytes := 2

/-- One byte of the new file has been written. -/
def begun : Directory :=
  .ofEntries (.ofList [("TARS1.xml", .file "old".toUTF8), ("TARS1.xml.partial", .file "n".toUTF8)])

/-- What is left to do then. -/
def unwritten : List Directory.Step :=
  [.append "TARS1.xml.partial" ([110].toByteArray ++ [101].toByteArray),
    .append "TARS1.xml.partial" [119].toByteArray, .rename "TARS1.xml.partial" "TARS1.xml"]

theorem upload_atomic_republishing :
    Moment republishing.directory (republishing.uploadSteps "TARS1.xml" "new".toUTF8)
      begun unwritten ∧
      Container.download { republishing with directory := begun } "TARS1.xml" = .ok "old".toUTF8 ∧
      ∃ after, Container.upload republishing "TARS1.xml" "new".toUTF8 = (.ok (), after) ∧
        Container.download after "TARS1.xml" = .ok "new".toUTF8 := by
  have hname : isInvalidName "TARS1.xml" = false := by decide +kernel
  have hpieces : chunks republishing.chunkBytes "new".toUTF8.toList =
      [[110, 101], [119]] := by decide +kernel
  have hsteps : republishing.uploadSteps "TARS1.xml" "new".toUTF8 = .create "TARS1.xml.partial" ::
      unwritten := by
    rw [uploadSteps, hpieces]
    rfl
  have hmoment :
      Moment republishing.directory (republishing.uploadSteps "TARS1.xml" "new".toUTF8) begun
        unwritten := by
    rw [hsteps]
    exact .later rfl (.torn rfl)
  have hplain : republishing.directory.Plain :=
    Directory.plain_of_all_isFile (by decide) (by decide +kernel)
  have hfits : Fits "TARS1.xml" := ⟨hname, by decide +kernel, by decide +kernel⟩
  obtain ⟨directory, hupload, -⟩ := upload_of_plain hplain hfits "new".toUTF8
  obtain ⟨hmoments, hdone, -⟩ := upload_atomic republishing hname "new".toUTF8
  refine ⟨hmoment, ?_, _, hupload, (hdone _ hupload).download_name⟩
  rw [((hmoments begun unwritten hmoment).1 nofun).download]
  rfl

end Share

end ExportLedger
