import ExportLedger.Proofs.Export.Counter
import ExportLedger.Proofs.Retention.ConfirmedFile
import ExportLedger.Proofs.Retention.CurrentRecord
import ExportLedger.Retention.Housekeeping
/-!
Histories of exports, of what recipients do with result files, and of housekeeping. As long as the
numbers have one length, the exports do not notice the housekeeping.
-/
namespace ExportLedger.History

open Retention

/-- What a recipient does with a result file, as it is or marked as processed. -/
inductive Deed where
  /-- The file is marked as processed. -/
  | mark
  /-- The content of a file that is there is replaced. -/
  | overwrite (marked : Bool) (content : ByteArray)
  /-- The file is replaced, or created where there is none. -/
  | put (marked : Bool) (content : ByteArray)
  | remove (marked : Bool)

inductive Action where
  | cycle (now : LocalTime) (content : ByteArray) (rows : UInt64)
  /-- On the result file with the number. -/
  | recipient (number : Nat) (deed : Deed)
  | housekeeping

def Action.isHousekeeping : Action → Bool
  | housekeeping => true
  | _ => false

/-- The standard family, template and mark, and any numbers to start from. -/
def setup (firstSequence : UInt64) (firstDaily : DailyNumber) : Export.Setup where
  family := .standard
  settings := ⟨firstSequence, firstDaily, "processed-"⟩

def resultFile (marked : Bool) (number : Nat) : String :=
  if marked then "processed-" ++ Template.standardName number else Template.standardName number

/-- A file that is not there is not created. -/
def replace (files : NameMap ByteArray) (name : String) (content : ByteArray) : NameMap ByteArray :=
  if files.contains name then files.insert name content else files

def Deed.apply (number : Nat) (files : NameMap ByteArray) : Deed → NameMap ByteArray
  | mark =>
    match files.get? (resultFile false number) with
    | some content =>
        (files.erase (resultFile false number)).insert (resultFile true number) content
    | none => files
  | overwrite marked content => replace files (resultFile marked number) content
  | put marked content => files.insert (resultFile marked number) content
  | remove marked => files.erase (resultFile marked number)

section Run

variable (setup : Export.Setup) (suffix : Option String)

/-- An action, with the result if it is an export. -/
def act (s : Stores Memory Memory) :
    Action → Option (Except ExportError Export.Outcome) × Stores Memory Memory
  | .cycle now content rows =>
    let (result, after) := Export.run setup now content rows s
    (some result, after)
  | .recipient number deed =>
    (none, { s with share := { s.share with objects := deed.apply number s.share.objects } })
  | .housekeeping => (none, (Housekeeping.pass ⟨setup.settings.processedMark, suffix⟩ s).2)

def outcomes : Stores Memory Memory → List Action → List (Except ExportError Export.Outcome)
  | _, [] => []
  | s, a :: as =>
    let (result, after) := act setup suffix s a
    result.toList ++ outcomes after as

/-- A file that is created has a number of this length. -/
def Deed.Fits (length number : Nat) : Deed → Prop
  | put _ _ => (Decimal.digits number).length = length
  | _ => True

/-- The clock shows a time that can be written, the export's number has this length, and recipients
keep to numbers up to the current one. -/
def Permits (length : Nat) (current : Option UInt64) (s : Stores Memory Memory) : Action → Prop
  | .cycle now content rows =>
    now.Writable ∧
      ∀ o, (Export.run setup now content rows s).1 = .ok o →
        (Decimal.digits o.record.sequence.toNat).length = length
  | .recipient number deed => (∃ n ∈ current, number ≤ n.toNat) ∧ deed.Fits length number
  | .housekeeping => True

/-- The number of the latest export. -/
def currentAfter (current : Option UInt64) :
    Option (Except ExportError Export.Outcome) → Option UInt64
  | some (.ok o) => some o.record.sequence
  | _ => current

/-- Every action is permitted when it is taken. -/
def Admissible (length : Nat) : Option UInt64 → Stores Memory Memory → List Action → Prop
  | _, _, [] => True
  | current, s, a :: as =>
    Permits setup length current s a ∧
      Admissible length (currentAfter current (act setup suffix s a).1) (act setup suffix s a).2 as

instance decidableForallOk {x : Except ε α} {p : α → Prop} [DecidablePred p] :
    Decidable (∀ a, x = .ok a → p a) :=
  match x with
  | .ok a => decidable_of_iff (p a) ⟨fun h _ heq => Except.ok.inj heq ▸ h, fun h => h a rfl⟩
  | .error _ => isTrue fun _ heq => nomatch heq

instance (length number : Nat) (deed : Deed) : Decidable (deed.Fits length number) :=
  match deed with
  | .put _ _ => inferInstanceAs (Decidable (_ = _))
  | .mark | .overwrite _ _ | .remove _ => isTrue trivial

instance (length : Nat) (current : Option UInt64) (s : Stores Memory Memory) (a : Action) :
    Decidable (Permits setup length current s a) :=
  match a with
  | .cycle _ _ _ => inferInstanceAs (Decidable (_ ∧ _))
  | .recipient _ _ => inferInstanceAs (Decidable (_ ∧ _))
  | .housekeeping => isTrue trivial

def decidableAdmissible (length : Nat) :
    ∀ (current : Option UInt64) (s : Stores Memory Memory) (actions : List Action),
      Decidable (Admissible setup suffix length current s actions)
  | _, _, [] => isTrue trivial
  | current, s, a :: as =>
    have :=
      decidableAdmissible length (currentAfter current (act setup suffix s a).1)
        (act setup suffix s a).2 as
    inferInstanceAs (Decidable (_ ∧ _))

instance (length : Nat) (current : Option UInt64) (s : Stores Memory Memory)
    (actions : List Action) :
    Decidable (Admissible setup suffix length current s actions) :=
  decidableAdmissible setup suffix length current s actions

end Run

theorem resultFile_injective {m n : Bool} {j k : Nat} (h : resultFile m j = resultFile n k) :
    m = n ∧ j = k := by
  cases m with
  | false =>
    cases n with
    | false => exact ⟨rfl, Template.standardName_injective h⟩
    | true => exact absurd h (Template.apart_processed.ne_marked j k)
  | true =>
    cases n with
    | false => exact absurd h.symm (Template.apart_processed.ne_marked k j)
    | true => exact ⟨rfl, Template.marked_injective h⟩

/-- Nothing but result files with numbers up to `n` of one length. -/
def Within (length n : Nat) (files : NameMap ByteArray) : Prop :=
  ∀ name ∈ files.names, ∃ k ≤ n, (Decimal.digits k).length = length ∧
  ∃ marked, name = resultFile marked k

/-- The same apart from marked files with numbers below `n`. -/
def Same (n : Nat) (files others : NameMap ByteArray) : Prop :=
  ∀ name, (∀ k < n, name ≠ resultFile true k) → files.get? name = others.get? name

variable {length n number : Nat} {files others : NameMap ByteArray} {deed : Deed}

theorem Within.insert {m k : Nat} (h : Within length n files) (hle : n ≤ m) (hk : k ≤ m)
    (hlen : (Decimal.digits k).length = length) (marked : Bool) (content : ByteArray) :
    Within length m (files.insert (resultFile marked k) content) := by
  intro name hname
  rcases NameMap.mem_names_insert_iff.1 hname with rfl | hold
  · exact ⟨k, hk, hlen, marked, rfl⟩
  · obtain ⟨j, hj, hrest⟩ := h name hold
    exact ⟨j, Nat.le_trans hj hle, hrest⟩

theorem Within.erase (h : Within length n files) (name : String) :
    Within length n (files.erase name) :=
  fun other hother => h other (NameMap.mem_names_erase_iff.1 hother).2

/-- The length of a number is known from any file that has it. -/
theorem Within.length_digits {marked : Bool} (h : Within length n files)
    (hheld : ∃ content, files.get? (resultFile marked number) = some content) :
    (Decimal.digits number).length = length := by
  obtain ⟨k, -, hlen, m, heq⟩ := h _ (NameMap.mem_names_iff.2 hheld)
  obtain ⟨-, rfl⟩ := resultFile_injective heq
  exact hlen

theorem Within.apply (h : Within length n files) (hn : number ≤ n)
    (hfits : deed.Fits length number) :
    Within length n (deed.apply number files) := by
  cases deed with
  | mark =>
    dsimp only [Deed.apply]
    split
    · rename_i content hget
      exact (h.erase _).insert (Nat.le_refl n) hn (h.length_digits ⟨content, hget⟩) true content
    · exact h
  | overwrite marked content =>
    dsimp only [Deed.apply, replace]
    split
    · rename_i hheld
      have hlen := h.length_digits (NameMap.contains_eq_true_iff.1 hheld)
      exact h.insert (Nat.le_refl n) hn hlen marked content
    · exact h
  | put marked content => exact h.insert (Nat.le_refl n) hn hfits marked content
  | remove marked => exact h.erase _

theorem Same.insert {m : Nat} (h : Same n files others) (hle : n ≤ m) (name : String)
    (content : ByteArray) :
    Same m (files.insert name content) (others.insert name content) := by
  intro other hother
  rw [NameMap.get?_insert, NameMap.get?_insert,
    h other fun k hk => hother k (Nat.lt_of_lt_of_le hk hle)]

theorem Same.erase (h : Same n files others) (name : String) :
    Same n (files.erase name) (others.erase name) := by
  intro other hother
  rw [NameMap.get?_erase, NameMap.get?_erase, h other hother]

theorem Same.get?_plain (h : Same n files others) (k : Nat) :
    files.get? (resultFile false k) = others.get? (resultFile false k) :=
  h _ fun _ _ heq => Bool.false_ne_true (resultFile_injective heq).1

theorem Same.get?_marked (h : Same n files others) :
    files.get? (resultFile true n) = others.get? (resultFile true n) :=
  h _ fun _ hk heq => Nat.ne_of_gt hk (resultFile_injective heq).2

theorem get?_replace (name other : String) (content : ByteArray) :
    (replace files name content).get? other =
      if other = name ∧ files.contains name then some content else files.get? other := by
  unfold replace
  split
  · rename_i h
    simp only [NameMap.get?_insert, h, and_true]
  · rename_i h
    simp only [h, Bool.false_eq_true, and_false, if_false]

theorem Same.replace (h : Same n files others) (name : String) (content : ByteArray) :
    Same n (replace files name content) (replace others name content) := by
  intro other hother
  have hsame := h other hother
  rw [get?_replace, get?_replace, hsame]
  by_cases heq : other = name
  · subst heq
    rw [NameMap.contains, NameMap.contains, hsame]
  · simp only [heq, false_and]

theorem Same.apply (h : Same n files others) (number : Nat) (deed : Deed) :
    Same n (deed.apply number files) (deed.apply number others) := by
  cases deed with
  | mark =>
    dsimp only [Deed.apply]
    rw [← h.get?_plain number]
    cases files.get? (resultFile false number) with
    | none => exact h
    | some content => exact (h.erase _).insert (Nat.le_refl n) _ _
  | overwrite marked content => exact h.replace _ _
  | put marked content => exact h.insert (Nat.le_refl n) _ _
  | remove marked => exact h.erase _

theorem Within.holdsResults {share : Memory} (h : Within length n share.objects)
    (hn : (Decimal.digits n).length = length) : HoldsResults "processed-" share n := by
  intro name hname
  obtain ⟨k, hk, hlen, marked, heq⟩ := h name hname
  cases marked with
  | false => exact .inl ⟨k, heq⟩
  | true => exact .inr ⟨k, hk, hlen.trans hn.symm, heq⟩

/-- Of the files that matter a pass over the share takes none. -/
theorem Same.prune {share : Memory} (h : Same n share.objects others)
    (hwithin : Within length n share.objects) (hn : (Decimal.digits n).length = length) :
    Same n (prune (.processedFiles "processed-") share).2.objects others := by
  intro name hname
  rw [← h name hname]
  by_cases hheld : name ∈ share.objects.names
  · refine get?_prune_of_spares ((spares_iff_outlasts hheld).2 ?_)
    obtain ⟨k, hk, -, marked, rfl⟩ := hwithin name hheld
    cases marked with
    | false => exact .inr (.inr (.inl (Template.apart_processed k)))
    | true =>
      have hlatest : k = n := by
        rcases Nat.lt_or_eq_of_le hk with hlt | heq
        · exact absurd rfl (hname k hlt)
        · exact heq
      subst hlatest
      exact outlasts_marked Template.apart_processed (hwithin.holdsResults hn)
  · have hgone : name ∉ (Retention.prune (.processedFiles "processed-") share).2.objects.names :=
      fun hafter => hheld (mem_names_prune_iff.1 hafter).1
    rw [NameMap.not_mem_names_iff.1 hheld, NameMap.not_mem_names_iff.1 hgone]

/-- Two runs are at one record, and the first one may have been kept clean. -/
structure Agree (length : Nat) (r : Record) (s t : Stores Memory Memory) : Prop where
  storable : r.Storable .full
  fileName : r.fileName = some (resultFile false r.sequence.toNat)
  digits : (Decimal.digits r.sequence.toNat).length = length
  held : Catalog.Holds .standard r s.blobs.objects
  held' : Catalog.Holds .standard r t.blobs.objects
  blobs : ∀ name ∈ s.blobs.objects.names, ∃ k, name = Family.standard.fileName k ∧
    (Decimal.digits k.toNat).length = length
  files : Within length r.sequence.toNat s.share.objects
  same : Same r.sequence.toNat s.share.objects t.share.objects

/-- Before the first export there is nothing at all. -/
def Related (length : Nat) (s t : Stores Memory Memory) : Option Record → Prop
  | none => (s.share.objects.names = [] ∧ s.blobs.objects.names = []) ∧
      t.share.objects.names = [] ∧ t.blobs.objects.names = []
  | some r => Agree length r s t

/-- No operation has been told to fail. -/
def Healthy (s : Stores Memory Memory) : Prop := s.share.Healthy ∧ s.blobs.Healthy

variable {first : UInt64} {firstDaily : DailyNumber} {suffix : Option String}
  {s t : Stores Memory Memory} {last : Option Record} {now : LocalTime}

/-- A number that goes down has run over, and then it has fewer digits. -/
theorem sequence_le_of_length {r : Record} {confirmed sameDay : Bool}
    (h : (Decimal.digits (Allocation.advance r confirmed sameDay now).sequence.toNat).length =
      (Decimal.digits r.sequence.toNat).length) :
    r.sequence ≤ (Allocation.advance r confirmed sameDay now).sequence := by
  by_cases hfit : Export.nextSequence r.sequence.toNat confirmed < UInt64.size
  · exact Export.sequence_le_advance hfit
  cases confirmed with
  | false => exact absurd r.sequence.toNat_lt hfit
  | true =>
    have hlt : r.sequence.toNat < 2 ^ 64 := r.sequence.toNat_lt
    have hmax : r.sequence.toNat = 2 ^ 64 - 1 := by
      have hge : ¬r.sequence.toNat + 1 < 2 ^ 64 := hfit
      omega
    have hlast : r.sequence = .ofNat (2 ^ 64 - 1) := by rw [← hmax, UInt64.ofNat_toNat]
    have hstep : (Allocation.advance r true sameDay now).sequence = r.sequence + 1 := rfl
    rw [hstep, hlast] at h
    exact absurd h (by decide)

/-- Both runs give the same numbers: they read the same record, and look at files that are the
same. -/
theorem allocate_of_related (first : UInt64) (firstDaily : DailyNumber) (now : LocalTime)
    (hs : Healthy s) (ht : Healthy t) (h : Related length s t last) :
    ∃ d, Allocation.allocate .standard (setup first firstDaily).settings now s = .ok d ∧
      Allocation.allocate .standard (setup first firstDaily).settings now t = .ok d ∧
      d.created = now ∧
      ((Decimal.digits d.sequence.toNat).length = length →
        ∀ r ∈ last, r.sequence ≤ d.sequence) := by
  cases last with
  | none =>
    refine ⟨_, Allocation.allocate_of_no_names _ now hs.2 h.1.2,
      Allocation.allocate_of_no_names _ now ht.2 h.2.2, rfl, fun _ r hr => ?_⟩
    contradiction
  | some r =>
    have hd : Family.standard.Dashed := rfl
    obtain ⟨checksum, hsum⟩ : ∃ checksum, r.checksum = some checksum :=
      Option.ne_none_iff_exists'.1 (h.storable.checksum_of_fileName (h.storable.complete rfl).1)
    have hconfirmed :
        Allocation.isConfirmed "processed-" s.share.objects
          (resultFile false r.sequence.toNat) checksum =
          Allocation.isConfirmed "processed-" t.share.objects
            (resultFile false r.sequence.toNat) checksum := by
      have hmarked : s.share.objects.get? ("processed-" ++ resultFile false r.sequence.toNat) =
          t.share.objects.get? ("processed-" ++ resultFile false r.sequence.toNat) :=
            h.same.get?_marked
      rw [Allocation.isConfirmed, Allocation.isConfirmed, hmarked, h.same.get?_plain]
    have hallocs := Allocation.allocate_of_holds (setup first firstDaily).settings now hd hs.1 hs.2
      h.storable h.held h.fileName hsum
    have halloct := Allocation.allocate_of_holds (setup first firstDaily).settings now hd ht.1 ht.2
      h.storable h.held' h.fileName hsum
    refine ⟨_, hallocs, ?_, rfl, fun hlen r' hr' => ?_⟩
    · rw [halloct]
      exact congrArg (fun confirmed => Except.ok (Allocation.advance r confirmed _ now))
        hconfirmed.symm
    · cases hr'
      exact sequence_le_of_length (hlen.trans h.digits.symm)

theorem within_of_no_names (h : files.names = []) : Within length n files := by
  intro name hname
  rw [h] at hname
  contradiction

theorem same_of_no_names (h : files.names = []) (h' : others.names = []) : Same n files others := by
  intro name _
  rw [NameMap.not_mem_names_iff.1 (h ▸ List.not_mem_nil),
    NameMap.not_mem_names_iff.1 (h' ▸ List.not_mem_nil)]

/-- What matters for a later number is less than what matters for an earlier one. -/
theorem files_of_related {m : UInt64} (h : Related length s t last)
    (hle : ∀ r ∈ last, r.sequence ≤ m) :
    ∃ n ≤ m.toNat, Within length n s.share.objects ∧ Same n s.share.objects t.share.objects := by
  cases last with
  | none => exact ⟨0, Nat.zero_le _, within_of_no_names h.1.1, same_of_no_names h.1.1 h.2.1⟩
  | some r => exact ⟨_, UInt64.le_iff_toNat_le.1 (hle r rfl), h.files, h.same⟩

theorem blobs_of_related {r : Record} (h : Related length s t last)
    (hle : ∀ r' ∈ last, r'.sequence ≤ r.sequence) :
    Catalog.Holds .standard r
        (s.blobs.objects.insert (Family.standard.fileName r.sequence) r.text.toUTF8) ∧
      Catalog.Holds .standard r
        (t.blobs.objects.insert (Family.standard.fileName r.sequence) r.text.toUTF8) ∧
      ∀ name ∈ s.blobs.objects.names, ∃ k, name = Family.standard.fileName k ∧
        (Decimal.digits k.toNat).length = length := by
  cases last with
  | none =>
    obtain ⟨⟨-, hs⟩, -, ht⟩ := h
    refine ⟨Catalog.holds_insert ?_, Catalog.holds_insert ?_, ?_⟩
    all_goals
      intro name hname
      simp [hs, ht] at hname
  | some r' =>
    have hd : Family.standard.Dashed := rfl
    exact ⟨h.held.insert hd (hle r' rfl), h.held'.insert hd (hle r' rfl), h.blobs⟩

/-- An export has the same result in both runs. -/
theorem cycle_of_related (hs : Healthy s) (ht : Healthy t) (h : Related length s t last)
    (hwritable : now.Writable) (content : ByteArray) (rows : UInt64)
    (hlen : ∀ o, (Export.run (setup first firstDaily) now content rows s).1 = .ok o →
      (Decimal.digits o.record.sequence.toNat).length = length) :
    ∃ o s' t', Export.run (setup first firstDaily) now content rows s = (.ok o, s') ∧
      Export.run (setup first firstDaily) now content rows t = (.ok o, t') ∧ Healthy s' ∧
      Healthy t' ∧
      Related length s' t' (some o.record) := by
  obtain ⟨d, hallocs, halloct, hnow, hle⟩ := allocate_of_related first firstDaily now hs ht h
  have hruns : Export.run (setup first firstDaily) now content rows s = _ :=
    Export.run_of_allocate hallocs content rows
  have hrunt : Export.run (setup first firstDaily) now content rows t = _ :=
    Export.run_of_allocate halloct content rows
  have hname : Template.render (setup first firstDaily).template d =
      Template.standardName d.sequence.toNat :=
    Template.render_standard d
  have hdigits : (Decimal.digits d.sequence.toNat).length = length :=
    hlen _ (congrArg Prod.fst hruns)
  rw [hname] at hruns hrunt
  have hcreated : d.created.Writable := by
    rw [hnow]
    exact hwritable
  have hstorable := Draft.storable_record content rows hcreated
    (Template.standardName_ne_empty d.sequence.toNat) .full
  obtain ⟨n, hn, hwithin, hsame⟩ := files_of_related h (hle hdigits)
  obtain ⟨helds, heldt, hblobs⟩ := blobs_of_related
    (r := d.record (Template.standardName d.sequence.toNat) content rows) h (hle hdigits)
  refine ⟨_, _, _, hruns, hrunt, ?_, ?_, hstorable, rfl, hdigits, helds, heldt, ?_, ?_, ?_⟩
  · exact ⟨hs.1.alike (Memory.alike_objects _ _), hs.2.alike (Memory.alike_objects _ _)⟩
  · exact ⟨ht.1.alike (Memory.alike_objects _ _), ht.2.alike (Memory.alike_objects _ _)⟩
  · intro name hmem
    rcases NameMap.mem_names_insert_iff.1 hmem with rfl | hold
    · exact ⟨d.sequence, rfl, hdigits⟩
    · exact hblobs name hold
  · exact hwithin.insert hn (Nat.le_refl _) hdigits false content
  · exact hsame.insert hn _ content

/-- Recipients act on both shares alike. -/
theorem deed_of_related (h : Related length s t last)
    (hle : ∃ m ∈ last.map (·.sequence), number ≤ m.toNat) (hfits : deed.Fits length number) :
    Related length { s with share := { s.share with objects := deed.apply number s.share.objects } }
      { t with share := { t.share with objects := deed.apply number t.share.objects } } last := by
  obtain ⟨m, hm, hle⟩ := hle
  obtain ⟨r, rfl, rfl⟩ := Option.map_eq_some_iff.1 hm
  exact { h with
    files := h.files.apply hle hfits
    same := h.same.apply number deed }

/-- The record that both runs are at is the greatest name among the blobs. -/
theorem Agree.spares {r : Record} (h : Agree length r s t) (hs : Healthy s)
    (hsuffix : suffix = none ∨ suffix = some "-TARS.json") :
    (Rule.metadataBlobs suffix).Spares s.blobs (Family.standard.fileName r.sequence) := by
  have hd : Family.standard.Dashed := rfl
  have hnewest := (latestName_eq_ok_iff.1 (Catalog.latestName_of_holds hd hs.2 h.held)).2
  have hmember := isMember_of_key hsuffix (Family.key_fileName hd r.sequence)
  have hgreatest := le_of_isNewest hd hnewest hmember fun name hname _ => h.blobs name hname
  exact .inr (.inr (.inr (keeps_metadataBlobs_iff.2 ⟨hnewest.1, hmember, hgreatest⟩)))

theorem names_prune_eq_nil [Ord κ] [Std.TransOrd κ] (rule : Rule κ) {store : Memory}
    (h : store.objects.names = []) : (prune rule store).2.objects.names = [] := by
  refine List.eq_nil_iff_forall_not_mem.2 fun name hname => ?_
  have hbefore := (mem_names_prune_iff.1 hname).1
  rw [h] at hbefore
  contradiction

/-- Housekeeping on the one side takes nothing that matters. -/
theorem pass_of_related (hs : Healthy s) (h : Related length s t last)
    (hsuffix : suffix = none ∨ suffix = some "-TARS.json") :
    Healthy (Housekeeping.pass ⟨"processed-", suffix⟩ s).2 ∧
      Related length (Housekeeping.pass ⟨"processed-", suffix⟩ s).2 t last := by
  have hpass : (Housekeeping.pass ⟨"processed-", suffix⟩ s).2 =
      ⟨(prune (.processedFiles "processed-") s.share).2,
        (prune (.metadataBlobs suffix) s.blobs).2⟩ := rfl
  rw [hpass]
  refine ⟨⟨hs.1.alike (alike_prune _ _), hs.2.alike (alike_prune _ _)⟩, ?_⟩
  cases last with
  | none => exact ⟨⟨names_prune_eq_nil _ h.1.1, names_prune_eq_nil _ h.1.2⟩, h.2⟩
  | some r =>
    have hspares := h.spares hs hsuffix
    exact { h with
      held := {
        document := (get?_prune_of_spares hspares).trans h.held.document
        latest := fun name hname => h.held.latest name (mem_names_prune_iff.1 hname).1 }
      blobs := fun name hname => h.blobs name (mem_names_prune_iff.1 hname).1
      files := fun name hname => h.files name (mem_names_prune_iff.1 hname).1
      same := h.same.prune h.files h.digits }

theorem outcomes_of_related {actions : List Action} (hs : Healthy s) (ht : Healthy t)
    (h : Related length s t last) (hsuffix : suffix = none ∨ suffix = some "-TARS.json")
    (hadm : Admissible (setup first firstDaily) suffix length (last.map (·.sequence)) s actions) :
    outcomes (setup first firstDaily) suffix t (actions.filter (!·.isHousekeeping)) =
      outcomes (setup first firstDaily) suffix s actions := by
  induction actions generalizing s t last with
  | nil => rfl
  | cons a as ih =>
    obtain ⟨hpermits, hrest⟩ := hadm
    cases a with
    | cycle now content rows =>
      obtain ⟨o, s', t', hruns, hrunt, hs', ht', h'⟩ :=
        cycle_of_related hs ht h hpermits.1 content rows hpermits.2
      have hact : act (setup first firstDaily) suffix s (.cycle now content rows) =
          (some (.ok o), s') := by
        simp only [act, hruns]
      have hact' : act (setup first firstDaily) suffix t (.cycle now content rows) =
          (some (.ok o), t') := by
        simp only [act, hrunt]
      rw [hact] at hrest
      have hnext := ih hs' ht' h' hrest
      rw [List.filter_cons_of_pos rfl, outcomes, outcomes, hact, hact']
      exact congrArg ([Except.ok o] ++ ·) hnext
    | recipient number deed =>
      have hs' : Healthy (act (setup first firstDaily) suffix s (.recipient number deed)).2 :=
        ⟨hs.1.alike (Memory.alike_objects _ _), hs.2⟩
      have ht' : Healthy (act (setup first firstDaily) suffix t (.recipient number deed)).2 :=
        ⟨ht.1.alike (Memory.alike_objects _ _), ht.2⟩
      have hnext := ih hs' ht' (deed_of_related h hpermits.1 hpermits.2) hrest
      rw [List.filter_cons_of_pos rfl, outcomes, outcomes]
      exact hnext
    | housekeeping =>
      obtain ⟨hs', h'⟩ := pass_of_related hs h hsuffix
      rw [List.filter_cons_of_neg (by decide), ih hs' ht h' hrest]
      rfl

/-- Without the housekeeping the exports have the same results. -/
theorem outcomes_filter_housekeeping (first : UInt64) (firstDaily : DailyNumber)
    (s : Stores Memory Memory) (length : Nat) (actions : List Action)
    (hsuffix : suffix = none ∨ suffix = some "-TARS.json") (hshare : s.share.Healthy)
    (hblobs : s.blobs.Healthy) (hnofiles : s.share.objects.names = [])
    (hnoblobs : s.blobs.objects.names = [])
    (hadm : Admissible (setup first firstDaily) suffix length none s actions) :
    outcomes (setup first firstDaily) suffix s (actions.filter (!·.isHousekeeping)) =
      outcomes (setup first firstDaily) suffix s actions := by
  have hempty : Related length s s none := ⟨⟨hnofiles, hnoblobs⟩, hnofiles, hnoblobs⟩
  exact outcomes_of_related ⟨hshare, hblobs⟩ ⟨hshare, hblobs⟩ hempty hsuffix hadm

/-- A confirmed export, an older marked file that housekeeping takes away, and the next export. -/
def sampleActions : List Action :=
  [.cycle (.noonOf 19737) "a".toUTF8 1, .recipient 7 .mark, .recipient 6 (.put true "?".toUTF8),
    .housekeeping, .cycle (.noonOf 19738) "b".toUTF8 2]

theorem outcomes_filter_housekeeping_sample :
    outcomes (setup 7 .first) none ⟨.new "results", .new "metadata"⟩
        (sampleActions.filter (!·.isHousekeeping)) =
      outcomes (setup 7 .first) none ⟨.new "results", .new "metadata"⟩ sampleActions := by
  have hadm :
      Admissible (setup 7 .first) none 1 none ⟨.new "results", .new "metadata"⟩ sampleActions := by
    decide +kernel
  exact outcomes_filter_housekeeping 7 .first
    ⟨.new "results", .new "metadata"⟩ 1 sampleActions (.inl rfl)
    (Memory.healthy_new _) (Memory.healthy_new _) rfl rfl hadm

end ExportLedger.History
