import ExportLedger.Proofs.Record.Conformance
import ExportLedger.Proofs.Record.RoundTrip
/-!
The texts of daily numbers. Reading is open to leading zeros; of all the texts that are read as one
number, exactly one is written.
-/
namespace ExportLedger.DailyNumber

variable {s : String} {n : DailyNumber}

theorem length_text (n : DailyNumber) :
    n.text.length = max 3 (Decimal.digits n.value.toNat).length := by
  rw [← String.length_toList, text, String.toList_ofList, Decimal.length_padded_eq]

section Read

variable (h : ofText? s = some n)

include h

theorem digits_of_ofText? :
    s.toList ≠ [] ∧ s.toList.all Char.isDigit ∧ Decimal.value s.toList = n.value.toNat := by
  obtain ⟨hne, hd, hvalue, -⟩ := Decimal.natural?_eq_some_iff.1 (ofText?_eq_some_iff_natural?.1 h)
  exact ⟨hne, hd, hvalue⟩

theorem length_digits_le_of_ofText? : (Decimal.digits n.value.toNat).length ≤ s.length := by
  obtain ⟨hne, hd, hvalue⟩ := digits_of_ofText? h
  rw [← hvalue, ← String.length_toList]
  exact Decimal.length_digits_value_le hne hd

/-- A text is the number that is read from it, padded to the text's own length. -/
theorem padded_of_ofText? : Decimal.padded s.length n.value.toNat = s.toList := by
  obtain ⟨hne, hd, hvalue⟩ := digits_of_ofText? h
  rw [← hvalue, ← String.length_toList, Decimal.padded_value hne hd]

/-- Of the texts that are read as one number, the length tells which one is written. -/
theorem text_eq_iff_length : n.text = s ↔ n.text.length = s.length := by
  constructor
  · exact congrArg String.length
  · intro hlen
    apply String.toList_injective
    rw [← padded_of_ofText? h, text, String.toList_ofList, Decimal.padded_eq_padded_iff,
      padded_of_ofText? h, String.length_toList, ← hlen, text, String.length_ofList]

/-- What is written has no zero in front that it could do without. -/
theorem text_eq_iff_leading :
    n.text = s ↔ s.length = 3 ∨ 3 < s.length ∧ s.toList.head? ≠ some '0' := by
  obtain ⟨-, hd, hvalue⟩ := digits_of_ofText? h
  have hle := length_digits_le_of_ofText? h
  rw [text_eq_iff_length h, length_text]
  by_cases hlong : 3 < s.length
  · have htwo : 1 < s.toList.length := by
      rw [String.length_toList]
      omega
    have hlead := Decimal.length_digits_value_lt_iff htwo hd
    rw [hvalue, String.length_toList] at hlead
    rw [ne_eq, ← hlead]
    omega
  · omega

theorem length_text_lt (hlen : 3 ≤ s.length) (hne : s ≠ n.text) : n.text.length < s.length := by
  have hle := length_digits_le_of_ofText? h
  refine Nat.lt_of_le_of_ne ?_ fun heq => hne ((text_eq_iff_length h).2 heq).symm
  rw [length_text]
  omega

end Read

theorem exists_ofText?_iff : (∃ n, ofText? s = some n) ↔
    s ≠ "" ∧ (∀ c ∈ s.toList, '0' ≤ c ∧ c ≤ '9') ∧ Decimal.value s.toList < 2 ^ 32 := by
  constructor
  · rintro ⟨n, h⟩
    obtain ⟨hne, hdigits, hvalue⟩ := Schema.ofText?_eq_some_iff.1 h
    exact ⟨hne, hdigits, hvalue ▸ n.value.toNat_lt⟩
  · rintro ⟨hne, hdigits, hlt⟩
    have hvalue : (UInt32.ofNat (Decimal.value s.toList)).toNat = Decimal.value s.toList :=
      UInt32.toNat_ofNat_of_lt' hlt
    exact ⟨⟨.ofNat (Decimal.value s.toList)⟩,
      Schema.ofText?_eq_some_iff.2 ⟨hne, hdigits, hvalue.symm⟩⟩

/-- Reading takes every digit string whose value fits 32 bits, and writing chooses the shortest of
them that has three digits. -/
theorem ofText?_inverts_text :
    (∀ s, (∃ n, ofText? s = some n) ↔
      s ≠ "" ∧ (∀ c ∈ s.toList, '0' ≤ c ∧ c ≤ '9') ∧ Decimal.value s.toList < 2 ^ 32) ∧
    (∀ s n, ofText? s = some n → n.value.toNat = Decimal.value s.toList) ∧
    (∀ n : DailyNumber, ofText? n.text = some n ∧ 3 ≤ n.text.length ∧
      ∀ s, ofText? s = some n → 3 ≤ s.length → s ≠ n.text → n.text.length < s.length) ∧
    ∀ s n, ofText? s = some n →
    (n.text = s ↔ s.length = 3 ∨ 3 < s.length ∧ s.toList.head? ≠ some '0') := by
  refine ⟨fun s => exists_ofText?_iff, fun s n h => ?_,
    fun n => ⟨ofText?_text n, ?_, fun s h => length_text_lt h⟩,
    fun s n h => text_eq_iff_leading h⟩
  · exact (Schema.ofText?_eq_some_iff.1 h).value.symm
  · rw [length_text]
    exact Nat.le_max_left _ _

/-- The greatest number behind many zeros, and the number after it. -/
theorem ofText?_inverts_text_greatest :
    ofText? "0000000004294967295" = some ⟨4294967295⟩ ∧
      (⟨4294967295⟩ : DailyNumber).text ≠ "0000000004294967295" ∧
      (⟨4294967295⟩ : DailyNumber).text.length < "0000000004294967295".length ∧
      ofText? "4294967296" = none := by
  obtain ⟨haccepts, -, hwrites, hback⟩ := ofText?_inverts_text
  have hread : ofText? "0000000004294967295" = some ⟨4294967295⟩ := by decide +kernel
  have hother : (⟨4294967295⟩ : DailyNumber).text ≠ "0000000004294967295" := by
    rw [ne_eq, hback _ _ hread]
    decide
  refine ⟨hread, hother, (hwrites _).2.2 _ hread (by decide) hother.symm, ?_⟩
  rw [Option.eq_none_iff_forall_ne_some]
  intro n hn
  exact absurd ((haccepts _).1 ⟨n, hn⟩).2.2 (by decide)

end ExportLedger.DailyNumber
