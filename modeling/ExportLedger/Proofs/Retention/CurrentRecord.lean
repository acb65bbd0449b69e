import ExportLedger.Proofs.Catalog
import ExportLedger.Proofs.Retention.Rule
/-!
The latest record and a pass over the blobs. Numbers tell which record is the latest, but whole
names tell which blob is kept.
-/
namespace ExportLedger.Retention

variable {suffix current : String} {filter : Option String} {s : Memory}

theorem latestName_eq_ok_iff : Catalog.latestName (.sequenced suffix) s = .ok current ↔
    s.failsList = false ∧
    Naming.IsNewest (Family.sequenced suffix).key s.objects.names current := by
  cases hlist : s.failsList with
  | true =>
    have hfails : Container.list s = .error (s.injected .list "") := if_pos hlist
    simp only [Catalog.latestName, hfails, Except.mapError, bind, Except.bind,
      reduceCtorEq, false_and]
  | false =>
    have hresponds : Catalog.Responds (.sequenced suffix) s := hlist
    rw [Catalog.latestName_eq_ok_iff_of_responds hresponds, eq_self, true_and]
    exact Naming.newest?_eq_some_iff

/-- What a sequenced family owns is a member, whether or not the rule asks for the family's
suffix. -/
theorem isMember_of_key (hfilter : filter = none ∨ filter = some suffix) {name : String}
    {k : UInt64} (h : (Family.sequenced suffix).key name = some k) :
    (Rule.metadataBlobs filter).isMember name := by
  rcases hfilter with rfl | rfl
  · rfl
  · rw [Family.key] at h
    split at h
    · rename_i hsuffix
      exact hsuffix
    · contradiction

/-- A latest record that is not deleted is the latest among what is left. -/
theorem latestName_prune_of_spares
    (hlatest : Catalog.latestName (.sequenced suffix) s = .ok current)
    (h : (Rule.metadataBlobs filter).Spares s current) :
    Catalog.latestName (.sequenced suffix) (prune (.metadataBlobs filter) s).2 = .ok current := by
  obtain ⟨hlist, hnewest⟩ := latestName_eq_ok_iff.1 hlatest
  refine latestName_eq_ok_iff.2 ⟨(alike_prune _ s).failsList.trans hlist, ?_⟩
  refine hnewest.mono (fun n hn => (mem_names_prune_iff.1 hn).1) ?_
  exact mem_names_prune_iff.2 ⟨hnewest.1, h⟩

/-- Of numbers of one length the greatest is also the greatest name. -/
theorem le_of_isNewest (hd : (Family.sequenced suffix).Dashed) {length : Nat}
    (hnewest : Naming.IsNewest (Family.sequenced suffix).key s.objects.names current)
    (hmember : (Rule.metadataBlobs filter).isMember current)
    (hshape : ∀ n ∈ s.objects.names, (Rule.metadataBlobs filter).isMember n →
      ∃ k, n = (Family.sequenced suffix).fileName k ∧ (Decimal.digits k.toNat).length = length) :
    ∀ n ∈ s.objects.names, (Rule.metadataBlobs filter).isMember n → n ≤ current := by
  intro n hn hm
  obtain ⟨hcurrent, c, hc, hmax⟩ := hnewest
  obtain ⟨j, rfl, hj⟩ := hshape current hcurrent hmember
  obtain ⟨k, rfl, hk⟩ := hshape n hn hm
  have hle := hmax _ hn k (Family.key_fileName hd k)
  rw [Family.key_fileName hd] at hc
  cases hc
  rw [← Bool.not_eq_true, Naming.isAfter_uint64_iff, not_or, UInt64.not_lt, UInt64.le_iff_toNat_le]
    at hle
  have hname (i : UInt64) : (Family.sequenced suffix).fileName i =
      String.ofList ([] ++ (Decimal.digits i.toNat ++ suffix.toList)) := by
    rw [Family.fileName, List.nil_append, String.ofList_append, String.ofList_toList]
    rfl
  rw [hname, hname, Decimal.affixed_le_iff (hk.trans hj.symm)]
  exact hle.1

/-- The latest record stays the latest exactly if it is the greatest name that the rule covers, or
cannot be deleted. Numbers of one length make it the greatest name. -/
theorem latestName_prune_iff (hd : (Family.sequenced suffix).Dashed)
    (hfilter : filter = none ∨ filter = some suffix)
    (hlatest : Catalog.latestName (.sequenced suffix) s = .ok current) :
    (Catalog.latestName (.sequenced suffix) (prune (.metadataBlobs filter) s).2 = .ok current ↔
      current ∈ s.failingDeletes ∨
        ∀ n ∈ s.objects.names, (Rule.metadataBlobs filter).isMember n → n ≤ current) ∧
    ((∃ length, ∀ n ∈ s.objects.names, (Rule.metadataBlobs filter).isMember n →
        ∃ k, n = (Family.sequenced suffix).fileName k ∧ (Decimal.digits k.toNat).length = length) →
      Catalog.latestName (.sequenced suffix) (prune (.metadataBlobs filter) s).2 =
        .ok current) := by
  obtain ⟨hlist, hnewest⟩ := latestName_eq_ok_iff.1 hlatest
  obtain ⟨hcurrent, c, hc, -⟩ := id hnewest
  have hmember := isMember_of_key hfilter hc
  have hgreatest (h : ∀ n ∈ s.objects.names, (Rule.metadataBlobs filter).isMember n → n ≤ current) :
      (Rule.metadataBlobs filter).Spares s current :=
    .inr (.inr (.inr (keeps_metadataBlobs_iff.2 ⟨hcurrent, hmember, h⟩)))
  refine ⟨⟨fun hafter => ?_, fun h => ?_⟩, ?_⟩
  · have hstays := (latestName_eq_ok_iff.1 hafter).2.1
    rcases (mem_names_prune_iff.1 hstays).2 with h | h | h | h
    · rw [hlist] at h
      contradiction
    · exact .inl h
    · rw [hmember] at h
      contradiction
    · exact .inr (keeps_metadataBlobs_iff.1 h).2.2
  · refine latestName_prune_of_spares hlatest ?_
    rcases h with h | h
    · exact .inr (.inl h)
    · exact hgreatest h
  · rintro ⟨length, hshape⟩
    exact latestName_prune_of_spares hlatest (hgreatest (le_of_isNewest hd hnewest hmember hshape))

/-- Blobs of these names. -/
def blobsNamed (names : List String) : Memory :=
  { name := "metadata", objects := .ofList (names.map fun name => (name, "\x7b\x7d".toUTF8)) }

theorem latestName_prune_iff_ten_eleven :
    Catalog.latestName .standard (blobsNamed ["10-TARS.json", "11-TARS.json"]) =
      .ok "11-TARS.json" ∧
      Catalog.latestName .standard
        (prune (.metadataBlobs none) (blobsNamed ["10-TARS.json", "11-TARS.json"])).2 =
        .ok "11-TARS.json" := by
  have hlatest :
      Catalog.latestName .standard (blobsNamed ["10-TARS.json", "11-TARS.json"]) =
        .ok "11-TARS.json" := by
    decide +kernel
  have hd : Family.standard.Dashed := rfl
  refine ⟨hlatest, (latestName_prune_iff hd (.inl rfl) hlatest).1.2 (.inr ?_)⟩
  decide +kernel

/-- Ten comes after nine, but not as a text: the pass deletes the latest record. -/
theorem latestName_prune_nine_ten :
    Catalog.latestName .standard (blobsNamed ["9-TARS.json", "10-TARS.json"]) = .ok "10-TARS.json" ∧
      (prune (.metadataBlobs none) (blobsNamed ["9-TARS.json", "10-TARS.json"])).1 =
        .ok (.pruned "9-TARS.json" ["10-TARS.json"]) ∧
      Catalog.latestName .standard
        (prune (.metadataBlobs none) (blobsNamed ["9-TARS.json", "10-TARS.json"])).2 =
        .ok "9-TARS.json" := by
  decide +kernel

end ExportLedger.Retention
