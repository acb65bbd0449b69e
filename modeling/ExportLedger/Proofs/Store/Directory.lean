import ExportLedger.Proofs.Store.Share
import ExportLedger.Proofs.Store.Visible
/-!
Uploads into a directory. Until its last step an upload touches nothing but a partial file, which is
not seen; the last step puts all of the content in place at once.
-/
namespace ExportLedger

def Entry.content? : Entry → Option ByteArray
  | file content => some content
  | folder => none

namespace Directory

variable {d after : Directory} {name n part : String} {content : ByteArray}
  {entries : NameMap Entry}

/-- What stands in the file of that name, if there is one. -/
def file? (d : Directory) (name : String) : Option ByteArray :=
  (d.entries.get? name).bind Entry.content?

theorem file?_eq_some_iff :
    d.file? name = some content ↔ d.entries.get? name = some (.file content) := by
  rw [file?]
  cases d.entries.get? name with
  | none => simp
  | some entry => cases entry <;> simp [Entry.content?]

theorem reach_eq_ok_iff : d.reach name = .ok entries ↔
    '\x00' ∉ name.toList ∧ d.entries? = some entries ∧ name.utf8ByteSize ≤ nameLimit := by
  unfold reach
  split
  · rename_i hnul
    simp only [reduceCtorEq, hnul, not_true_eq_false, false_and]
  · rename_i hnul
    cases d.entries? with
    | none => simp only [reduceCtorEq, false_and, and_false]
    | some found =>
      dsimp only
      split
      · rename_i hlong
        simp only [reduceCtorEq, Nat.not_le.2 hlong, and_false]
      · rename_i hlong
        simp only [Except.ok.injEq, Option.some.injEq, hnul, not_false_eq_true, true_and,
          Nat.not_lt.1 hlong, and_true]

theorem entries_eq (h : d.entries? = some entries) : d.entries = entries := by
  rw [Directory.entries, h]
  rfl

theorem file?_of_entries (h : d.entries? = some entries) : d.file? = (ofEntries entries).file? := by
  funext n
  rw [file?, entries_eq h]
  rfl

/-- The file system takes the name, and the file is all that changes. -/
theorem entries_of_put (h : d.put name content = .ok after) :
    ∃ entries, d.reach name = .ok entries ∧
      after = .ofEntries (entries.insert name (.file content)) := by
  simp only [put, bind, Except.bind] at h
  cases hreach : d.reach name with
  | error e => simp [hreach] at h
  | ok entries =>
    simp only [hreach] at h
    split at h
    · cases h
    · exact ⟨entries, rfl, (Except.ok.inj h).symm⟩

theorem entries_of_remove (h : d.remove name = .ok after) : ∃ entries, d.reach name = .ok entries ∧
    after = .ofEntries (entries.erase name) := by
  simp only [remove, bind, Except.bind] at h
  cases hreach : d.reach name with
  | error e => simp [hreach] at h
  | ok entries =>
    simp only [hreach] at h
    split at h
    · exact ⟨entries, rfl, (Except.ok.inj h).symm⟩
    · cases h
    · cases h

theorem file?_insert (entries : NameMap Entry) (name : String) (content : ByteArray) :
    (ofEntries (entries.insert name (.file content))).file? =
      Function.update (ofEntries entries).file? name (some content) := by
  funext n
  rw [Function.update_apply]
  show ((entries.insert name (.file content)).get? n).bind _ = _
  rw [NameMap.get?_insert]
  split <;> rfl

theorem file?_erase (entries : NameMap Entry) (name : String) :
    (ofEntries (entries.erase name)).file? = Function.update
      (ofEntries entries).file? name none := by
  funext n
  rw [Function.update_apply]
  show ((entries.erase name).get? n).bind _ = _
  rw [NameMap.get?_erase]
  split <;> rfl

theorem file?_of_read (h : d.read name = .ok content) : d.file? name = some content := by
  simp only [read, find, bind, Except.bind] at h
  cases hreach : d.reach name with
  | error e => simp [hreach] at h
  | ok entries =>
    rw [file?_of_entries (reach_eq_ok_iff.1 hreach).2.1]
    show (entries.get? name).bind _ = _
    simp only [hreach] at h
    cases hget : entries.get? name with
    | none => simp [hget] at h
    | some e =>
      cases e with
      | file found =>
        simp only [hget, Except.ok.injEq] at h
        rw [← h]
        rfl
      | folder => simp [hget] at h

theorem file?_of_put (h : d.put name content = .ok after) :
    after.file? = Function.update d.file? name (some content) := by
  obtain ⟨entries, hreach, rfl⟩ := entries_of_put h
  rw [file?_of_entries (reach_eq_ok_iff.1 hreach).2.1]
  exact file?_insert entries name content

theorem file?_of_remove (h : d.remove name = .ok after) :
    after.file? = Function.update d.file? name none := by
  obtain ⟨entries, hreach, rfl⟩ := entries_of_remove h
  rw [file?_of_entries (reach_eq_ok_iff.1 hreach).2.1]
  exact file?_erase entries name

theorem file?_of_append (h : d.apply (.append name content) = .ok after) :
    ∃ old, d.file? name = some old ∧ after.file? =
      Function.update d.file? name (some (old ++ content)) := by
  simp only [apply, bind, Except.bind] at h
  cases hread : d.read name with
  | error e => simp [hread] at h
  | ok old =>
    simp only [hread] at h
    exact ⟨old, file?_of_read hread, file?_of_put h⟩

theorem file?_of_rename {source target : String} (h : d.apply (.rename source target) = .ok after) :
    ∃ content, d.file? source = some content ∧
      after.file? = Function.update (Function.update d.file? source none) target
        (some content) := by
  simp only [apply, bind, Except.bind] at h
  cases hremove : d.remove source with
  | error e => simp [hremove] at h
  | ok rest =>
    cases hread : d.read source with
    | error e => simp [hremove, hread] at h
    | ok content =>
      simp only [hremove, hread] at h
      refine ⟨content, file?_of_read hread, ?_⟩
      rw [file?_of_put h, file?_of_remove hremove]

/-- Only the file of this name may change. -/
def Step.Keeps (part : String) : Step → Prop
  | .create name | .append name _ => name = part
  | .rename _ _ => False

theorem file?_of_keeps {step : Step} (hstep : step.Keeps part) (h : d.apply step = .ok after)
    (hne : n ≠ part) :
    after.file? n = d.file? n := by
  cases step with
  | create name =>
    cases hstep
    rw [file?_of_put h, Function.update_of_ne hne]
  | append name content =>
    cases hstep
    obtain ⟨old, -, hafter⟩ := file?_of_append h
    rw [hafter, Function.update_of_ne hne]
  | rename source target => exact hstep.elim

theorem file?_run_of_keeps {steps : List Step} (hsteps : ∀ step ∈ steps, step.Keeps part)
    (hne : n ≠ part) :
    (d.run steps).2.file? n = d.file? n := by
  induction steps generalizing d with
  | nil => rfl
  | cons step steps ih =>
    have hrest := fun s hs => hsteps s (List.mem_cons_of_mem _ hs)
    simp only [run]
    cases happly : d.apply step with
    | error e => rfl
    | ok next => exact (ih hrest).trans (file?_of_keeps (hsteps step List.mem_cons_self) happly hne)

/-- The pieces are put one after the other to what the file holds already. -/
theorem file?_run_append {pieces : List ByteArray} {start : ByteArray}
    (hstart : d.file? part = some start) (h : d.run (pieces.map (.append part)) = (.ok (), after)) :
    after.file? part = some (pieces.foldl (· ++ ·) start) := by
  induction pieces generalizing d start with
  | nil =>
    cases h
    exact hstart
  | cons piece pieces ih =>
    simp only [List.map_cons, run] at h
    cases happly : d.apply (.append part piece) with
    | error e => simp [happly] at h
    | ok next =>
      simp only [happly] at h
      obtain ⟨old, hold, hnext⟩ := file?_of_append happly
      cases hstart.symm.trans hold
      exact ih (by rw [hnext, Function.update_self]) h

theorem run_append (d : Directory) (first rest : List Step) :
    d.run (first ++ rest) =
      match d.run first with
      | (.ok (), d) => d.run rest
      | (.error e, d) => (.error e, d) := by
  induction first generalizing d with
  | nil => rfl
  | cons step first ih =>
    simp only [List.cons_append, run]
    cases d.apply step with
    | error e => rfl
    | ok next => exact ih next

end Directory

namespace Share

variable {s after : Share} {name n : String} {content : ByteArray}

theorem isPartial_append (name : String) : isPartial (name ++ partialMark) = true := by
  rw [isPartial, String.toList_append]
  exact List.isSuffixOf_iff_suffix.2 (List.suffix_append _ _)

/-- The bytes left to read, behind those that have been read. -/
theorem toList_loop (content : ByteArray) (i : Nat) (front : List UInt8) :
    ByteArray.toList.loop content i front = front.reverse ++ content.data.toList.drop i := by
  fun_induction ByteArray.toList.loop content i front with
  | case1 i front hlt ih =>
    have hbound : i < content.data.toList.length := hlt
    have hget : content.get! i = content.data.toList[i] := by
      show content.data[i]! = _
      rw [getElem!_pos content.data i hlt, Array.getElem_toList]
    rw [ih, List.reverse_cons, List.append_assoc, hget, List.singleton_append,
      List.getElem_cons_drop]
  | case2 i front hge =>
    have hlen : content.data.toList.length ≤ i := Nat.not_lt.1 hge
    rw [List.drop_eq_nil_of_le hlen, List.append_nil]

theorem toByteArray_toList (content : ByteArray) : content.toList.toByteArray = content := by
  have hlist : content.toList = content.data.toList := toList_loop content 0 []
  rw [hlist]
  ext1
  rw [List.data_toByteArray, Array.toArray_toList]

theorem foldl_chunks (size : Nat) (bytes : List UInt8) (start : ByteArray) :
    ((chunks size bytes).map List.toByteArray).foldl (· ++ ·) start = start ++
      bytes.toByteArray := by
  induction bytes using chunks.induct size generalizing start with
  | case1 => simp [chunks]
  | case2 b bytes ih =>
    have hwhole : b :: bytes = (b :: bytes.take (size - 1)) ++ bytes.drop (size - 1) := by
      rw [List.cons_append, List.take_append_drop]
    rw [chunks, List.map_cons, List.foldl_cons, ih, ByteArray.append_assoc,
      ← List.toByteArray_append, ← hwhole]

/-- All but the last step of an upload. -/
def partialSteps (s : Share) (name : String) (content : ByteArray) : List Directory.Step :=
  .create (name ++ partialMark) ::
    ((chunks s.chunkBytes content.toList).map List.toByteArray).map (.append (name ++ partialMark))

theorem uploadSteps_eq (s : Share) (name : String) (content : ByteArray) :
    s.uploadSteps name content = s.partialSteps name content ++
      [.rename (name ++ partialMark) name] := by
  rw [uploadSteps, partialSteps, List.map_map, List.cons_append]
  rfl

theorem keeps_partialSteps (s : Share) (name : String) (content : ByteArray) :
    ∀ step ∈ s.partialSteps name content, step.Keeps (name ++ partialMark) := by
  intro step hstep
  rcases List.mem_cons.1 hstep with rfl | hstep
  · rfl
  · obtain ⟨piece, -, rfl⟩ := List.mem_map.1 hstep
    rfl

/-- Before the last step the partial file holds all of the content. -/
theorem file?_run_partialSteps {directory written : Directory}
    (h : directory.run (s.partialSteps name content) = (.ok (), written)) :
    written.file? (name ++ partialMark) = some content := by
  simp only [partialSteps, Directory.run] at h
  cases hcreate : directory.apply (.create (name ++ partialMark)) with
  | error e => simp [hcreate] at h
  | ok created =>
    simp only [hcreate] at h
    have hempty : created.file? (name ++ partialMark) = some .empty := by
      rw [Directory.file?_of_put hcreate, Function.update_self]
    rw [Directory.file?_run_append hempty h, foldl_chunks, toByteArray_toList,
      ByteArray.empty_append]

/-- The files that are not partial. -/
def shown (s : Share) (name : String) : Option ByteArray :=
  if isPartial name then none else s.directory.file? name

/-- What the steps of an upload make of a file that is not partial. -/
theorem file?_run_uploadSteps (s : Share) (name : String) (content : ByteArray)
    (hn : isPartial n = false) :
    (s.directory.run (s.uploadSteps name content)).2.file? n =
      match (s.directory.run (s.uploadSteps name content)).1 with
      | .ok () => Function.update s.directory.file? name (some content) n
      | .error _ => s.directory.file? n := by
  have hne : n ≠ name ++ partialMark := by
    rintro rfl
    rw [isPartial_append] at hn
    contradiction
  have hsame :=
    Directory.file?_run_of_keeps (d := s.directory) (keeps_partialSteps s name content) hne
  rw [uploadSteps_eq, Directory.run_append]
  cases hwrite : s.directory.run (s.partialSteps name content) with
  | mk result written =>
    rw [hwrite] at hsame
    dsimp only at hsame
    cases result with
    | error e => exact hsame
    | ok =>
      simp only [Directory.run]
      cases hrename : written.apply (.rename (name ++ partialMark) name) with
      | error e => exact hsame
      | ok renamed =>
        obtain ⟨moved, hmoved, hafter⟩ := Directory.file?_of_rename hrename
        cases (file?_run_partialSteps hwrite).symm.trans hmoved
        show renamed.file? n = Function.update s.directory.file? name (some content) n
        rw [hafter, Function.update_apply, Function.update_of_ne hne, hsame, Function.update_apply]

theorem shown_of_uploaded (h : Container.upload s name content = (.ok (), after)) :
    after.shown = Function.update s.shown name (some content) := by
  simp only [Container.upload, upload, resolve] at h
  cases hvalid : isInvalidName name with
  | true => simp [hvalid] at h
  | false =>
    simp only [hvalid, Bool.false_eq_true, if_false] at h
    cases hrun : s.directory.run (s.uploadSteps name content) with
    | mk result directory =>
      rw [hrun] at h
      cases result with
      | error e => cases h
      | ok =>
        cases h
        funext n
        rw [Function.update_apply, shown, shown]
        split
        · rename_i hpartial
          have hne : n ≠ name := by
            rintro rfl
            rw [isPartial_of_valid hvalid] at hpartial
            contradiction
          rw [if_neg hne]
        · rename_i hpartial
          have hafter := file?_run_uploadSteps s name content (Bool.eq_false_iff.2 hpartial)
          rw [hrun] at hafter
          exact hafter.trans (Function.update_apply _ _ _ _)

theorem shown_of_refused {e : StoreError}
    (h : Container.upload s name content = (.error e, after)) :
    after.shown = s.shown := by
  simp only [Container.upload, upload, resolve] at h
  cases hvalid : isInvalidName name with
  | true =>
    simp only [hvalid, if_true] at h
    cases h
    rfl
  | false =>
    simp only [hvalid, Bool.false_eq_true, if_false] at h
    cases hrun : s.directory.run (s.uploadSteps name content) with
    | mk result directory =>
      rw [hrun] at h
      cases result with
      | ok => cases h
      | error fault =>
        cases h
        funext n
        rw [shown, shown]
        split
        · rfl
        · rename_i hpartial
          have hafter := file?_run_uploadSteps s name content (Bool.eq_false_iff.2 hpartial)
          rw [hrun] at hafter
          exact hafter

instance : Visible Share where
  look := shown
  look_of_uploaded := shown_of_uploaded
  look_of_refused := shown_of_refused

end Share

end ExportLedger
