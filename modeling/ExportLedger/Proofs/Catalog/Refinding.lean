import ExportLedger.Proofs.Catalog.Superseding
/-!
Which file names a family knows again as its own, and what becomes of a container that nobody else
writes to.
-/
namespace ExportLedger

namespace Family

/-- In a file name this follows the number, up to the first dash. -/
def front (suffix : String) : List Char := suffix.toList.takeWhile (· ≠ '-')

/-- The file name of the number has a number in front of its first dash. It is the same number only
if nothing follows it there. -/
structure Recognised (suffix : String) (n : UInt64) : Prop where
  dash : '-' ∈ suffix.toList
  digits : (front suffix).all Char.isDigit
  fits : Decimal.value (Decimal.digits n.toNat ++ front suffix) < UInt64.size

variable {suffix : String} {m n j k : UInt64}

theorem key_fileName_eq_some_iff : (sequenced suffix).key ((sequenced suffix).fileName n) = some k ↔
    Recognised suffix n ∧ k.toNat = Decimal.value (Decimal.digits n.toNat ++ front suffix) := by
  have hall : (Decimal.digits n.toNat ++ front suffix).all Char.isDigit =
      (front suffix).all Char.isDigit := by
    rw [List.all_append, Decimal.all_isDigit_digits, Bool.true_and]
  rw [key_fileName_eq, Naming.leadingNumber_text_append_eq]
  change (if _ then (Decimal.natural? _ (_ ++ front suffix)).map _ else _) = _ ↔ _
  split
  · rename_i hdash
    rw [Decimal.natural?_eq, hall]
    split
    · rename_i h
      rw [Option.map_some, Option.some.injEq, ← UInt64.toNat_inj, UInt64.toNat_ofNat_of_lt' h.2.2]
      exact ⟨fun hk => ⟨⟨hdash, h.2.1, h.2.2⟩, hk.symm⟩, fun hk => hk.2.symm⟩
    · rename_i h
      simp only [Option.map_none, reduceCtorEq, false_iff]
      exact fun hk => h ⟨by simp, hk.1.digits, hk.1.fits⟩
  · rename_i hdash
    simp only [reduceCtorEq, false_iff]
    exact fun hk => hdash hk.1.dash

theorem recognised_of_dashed (hd : (sequenced suffix).Dashed) (n : UInt64) : Recognised suffix n :=
  (key_fileName_eq_some_iff.1 (key_fileName hd n)).1

/-- What follows the number up to the dash makes the keys greater, but leaves them in the order of
the numbers. -/
theorem key_fileName_lt_iff (hj : (sequenced suffix).key ((sequenced suffix).fileName m) = some j)
    (hk : (sequenced suffix).key ((sequenced suffix).fileName n) = some k) : j < k ↔ m < n := by
  have hscale : 0 < 10 ^ (front suffix).length := Nat.pow_pos (by decide)
  rw [UInt64.lt_iff_toNat_lt, UInt64.lt_iff_toNat_lt, (key_fileName_eq_some_iff.1 hj).2,
    (key_fileName_eq_some_iff.1 hk).2, Decimal.value_append, Decimal.value_append,
    Decimal.value_digits, Decimal.value_digits, Nat.add_lt_add_iff_right,
    Nat.mul_lt_mul_left hscale]

theorem isAfter_fileName_eq_false_iff
    (hj : (sequenced suffix).key ((sequenced suffix).fileName m) = some j)
    (hk : (sequenced suffix).key ((sequenced suffix).fileName n) = some k) :
    Naming.isAfter (j, (sequenced suffix).fileName m) (k, (sequenced suffix).fileName n) = false ↔
      m ≤ n := by
  rw [← Bool.not_eq_true, Naming.isAfter_uint64_iff, key_fileName_lt_iff hk hj, not_or,
    UInt64.not_lt, and_iff_left_iff_imp]
  rintro hle ⟨rfl, hgt⟩
  have hsame : m = n := by
    refine UInt64.le_antisymm hle (UInt64.not_lt.1 fun hlt => ?_)
    exact UInt64.lt_irrefl j ((key_fileName_lt_iff hj hk).2 hlt)
  rw [hsame] at hgt
  exact String.lt_irrefl _ hgt

end Family

namespace Catalog

variable {family : Family} {s : Memory} {suffix name : String} {r : Record}

theorem supersedes_fixed (fileName : String) : Supersedes (.fixed fileName) s fileName := by
  refine ⟨0, if_pos rfl, fun m j _ hj => ?_⟩
  obtain ⟨rfl, rfl⟩ := Family.key_fixed_eq_some_iff.1 hj
  exact Naming.isAfter_self _

/-- The latest name is not after itself. -/
theorem supersedes_of_latestName (h : latestName family s = .ok name) :
    Supersedes family s name := by
  have hresponds : Responds family s := responds_of_latestName fun e he => by
    rw [h] at he
    contradiction
  obtain ⟨-, k, hk, -⟩ :=
    Naming.isNewest_of_newest? ((latestName_eq_ok_iff_of_responds hresponds).1 h)
  refine ⟨k, hk, fun m j hm hj => ?_⟩
  rw [h] at hm
  cases hm
  cases hk.symm.trans hj
  exact Naming.isAfter_self _

/-- Every object is the document of a record with a result file, and is kept where the family keeps
that record. -/
def Tidy (family : Family) (objects : NameMap ByteArray) : Prop :=
  ∀ name bytes, objects.get? name = some bytes →
    ∃ r : Record, r.Storable family.detail ∧ r.fileName ≠ none ∧
      name = family.fileName r.sequence ∧ bytes = r.text.toUTF8

theorem tidy_of_no_names {objects : NameMap ByteArray} (h : objects.names = []) :
    Tidy family objects := by
  intro name bytes hget
  have hmem := NameMap.mem_names_iff.2 ⟨bytes, hget⟩
  rw [h] at hmem
  contradiction

theorem Tidy.insert {objects : NameMap ByteArray} (h : Tidy family objects)
    (hr : r.Storable family.detail) (hfile : r.fileName ≠ none) :
    Tidy family (objects.insert (family.fileName r.sequence) r.text.toUTF8) := by
  intro name bytes hget
  rw [NameMap.get?_insert] at hget
  split at hget
  · rename_i hname
    cases hget
    exact ⟨r, hr, hfile, hname, rfl⟩
  · exact h name bytes hget

theorem Tidy.exists_latestRecord (h : Tidy family s.objects) (hs : s.Healthy)
    (hname : latestName family s = .ok name) :
    ∃ r : Record, latestRecord family s = .ok r ∧ r.fileName ≠ none ∧
      name = family.fileName r.sequence := by
  have hlatest := (latestName_eq_ok_iff_of_responds (responds_of_healthy hs family)).1 hname
  obtain ⟨bytes, hget⟩ := NameMap.mem_names_iff.1 (Naming.isNewest_of_newest? hlatest).1
  obtain ⟨r, hr, hfile, hown, rfl⟩ := h name bytes hget
  have hdownload := Memory.download_eq (by simp [hs.downloads]) hget
  have hload := load_eq_ok_iff.2 ⟨_, hdownload, Record.parse_text hr⟩
  exact ⟨r, latestRecord_eq_ok_iff.2 ⟨name, hname, hload⟩, hfile, hown⟩

/-- The latest record is kept under its own number. -/
theorem Tidy.of_latestRecord (h : Tidy family s.objects) (hs : s.Healthy)
    (hr : latestRecord family s = .ok r) :
    latestName family s = .ok (family.fileName r.sequence) ∧ r.fileName ≠ none := by
  obtain ⟨name, hname, -⟩ := latestRecord_eq_ok_iff.1 hr
  obtain ⟨r', hr', hfile, hown⟩ := h.exists_latestRecord hs hname
  cases hr.symm.trans hr'
  exact ⟨hown ▸ hname, hfile⟩

/-- A record is found again exactly if its name supersedes the others. -/
theorem Tidy.latestRecord_save_eq_iff (h : Tidy family s.objects) (hs : s.Healthy)
    (hr : r.Storable family.detail) :
    latestRecord family (save family s r).2 = .ok r ↔
      Supersedes family s (family.fileName r.sequence) := by
  rw [latestRecord_save_iff (responds_of_healthy hs family) hr]
  constructor
  · rintro (⟨hsup, -⟩ | ⟨-, hsame⟩)
    · exact hsup
    · exact supersedes_of_latestName (h.of_latestRecord hs hsame).1
  · exact fun hsup => .inl ⟨hsup, by simp [hs.downloads]⟩

theorem Tidy.supersedes_iff (h : Tidy (.sequenced suffix) s.objects) (hs : s.Healthy) {n : UInt64} :
    Supersedes (.sequenced suffix) s ((Family.sequenced suffix).fileName n) ↔
      Family.Recognised suffix n ∧
        ∀ prior, latestRecord (.sequenced suffix) s = .ok prior → prior.sequence ≤ n := by
  constructor
  · rintro ⟨k, hk, hmax⟩
    refine ⟨(Family.key_fileName_eq_some_iff.1 hk).1, fun prior hprior => ?_⟩
    have hname := (h.of_latestRecord hs hprior).1
    obtain ⟨j, hj, -⟩ := supersedes_of_latestName hname
    exact (Family.isAfter_fileName_eq_false_iff hj hk).1 (hmax _ j hname hj)
  · rintro ⟨hknown, hmax⟩
    have hk := Family.key_fileName_eq_some_iff.2 ⟨hknown, UInt64.toNat_ofNat_of_lt' hknown.fits⟩
    refine ⟨_, hk, fun m j hm hj => ?_⟩
    obtain ⟨prior, hprior, -, rfl⟩ := h.exists_latestRecord hs hm
    exact (Family.isAfter_fileName_eq_false_iff hj hk).2 (hmax prior hprior)

/-- Numbers that do not go back are found again. -/
theorem Tidy.latestRecord_save (h : Tidy family s.objects) (hs : s.Healthy) (hd : family.Dashed)
    (hr : r.Storable family.detail)
    (hmax : ∀ prior, latestRecord family s = .ok prior → prior.sequence ≤ r.sequence) :
    latestRecord family (save family s r).2 = .ok r := by
  apply (h.latestRecord_save_eq_iff hs hr).2
  cases family with
  | sequenced suffix => exact (h.supersedes_iff hs).2 ⟨Family.recognised_of_dashed hd _, hmax⟩
  | fixed fileName => exact supersedes_fixed fileName

end Catalog

end ExportLedger
