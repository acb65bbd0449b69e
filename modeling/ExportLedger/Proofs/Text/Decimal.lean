import Mathlib.Algebra.Order.Ring.Int
import Mathlib.Data.String.Basic
import ExportLedger.Text.Decimal
/-!
Decimal digits: what is written can be read back, and digit strings of one length are in the order
of their values.
-/
namespace ExportLedger.Decimal

theorem isDigit_of_mem_digits {n : Nat} {c : Char} (h : c ∈ digits n) : c.isDigit :=
  Nat.isDigit_of_mem_toDigits (by decide) (by decide) h

@[simp] theorem digits_ne_nil (n : Nat) : digits n ≠ [] := Nat.toDigits_ne_nil

theorem digits_injective {m n : Nat} (h : digits m = digits n) : m = n := by
  rw [← value_digits m, h, value_digits]

@[simp] theorem toList_text (n : Nat) : (text n).toList = digits n := String.toList_ofList

theorem length_digits_le_iff {n k : Nat} (hk : 0 < k) : (digits n).length ≤ k ↔ n < 10 ^ k :=
  Nat.length_toDigits_le_iff (by decide) hk

theorem all_isDigit_digits (n : Nat) : (digits n).all Char.isDigit :=
  List.all_eq_true.2 fun _ hc => isDigit_of_mem_digits hc

/-- No leading zeros: zero itself is the only number whose digits start with one. -/
theorem length_digits_of_head_zero {n : Nat} (h : (digits n).head? = some '0') :
    (digits n).length = 1 := by
  induction n using Nat.strongRecOn with
  | ind n ih =>
    rw [digits, Nat.toDigits_eq_if (by decide)] at h ⊢
    split
    · rfl
    · rename_i hn
      obtain ⟨d, ds, hds⟩ := List.exists_cons_of_ne_nil (digits_ne_nil (n / 10))
      rw [if_neg hn, ← digits, hds, List.cons_append, List.head?_cons] at h
      have hlen := ih (n / 10) (by omega) (by rw [hds, List.head?_cons, h])
      have hten : n / 10 < 10 := by
        simpa using (length_digits_le_iff (n := n / 10) (k := 1) (by decide)).1 (Nat.le_of_eq hlen)
      rw [digits, Nat.toDigits_of_lt_base hten, List.cons.injEq] at hds
      rw [← hds.1, Option.some.injEq, Nat.digitChar_eq_zero] at h
      omega

/-- Further digits make no number smaller. -/
theorem le_ofDigitChars (m : Nat) (cs : List Char) : m ≤ Nat.ofDigitChars 10 cs m := by
  rw [Nat.ofDigitChars_eq_ofDigitChars_zero]
  exact Nat.le_trans (Nat.le_mul_of_pos_left _ (Nat.pow_pos (by decide))) (Nat.le_add_right _ _)

/-- The loop gives up at the first digit with which the number reaches the bound, and further digits
could not bring it back below. -/
theorem readDigits_eq_ok_iff {bound acc n : Nat} {cs : List Char} (hacc : cs = [] → acc < bound) :
    readDigits bound acc cs = .ok n ↔
      cs.all Char.isDigit ∧ Nat.ofDigitChars 10 cs acc = n ∧ n < bound := by
  induction cs generalizing acc with
  | nil =>
    have hbound := hacc rfl
    rw [readDigits, Except.ok.injEq, Nat.ofDigitChars_nil, List.all_nil]
    constructor
    · rintro rfl
      exact ⟨rfl, rfl, hbound⟩
    · exact fun h => h.2.1
  | cons c cs ih =>
    rw [readDigits, List.all_cons, Nat.ofDigitChars_cons, Nat.mul_comm 10 acc]
    by_cases hc : c.isDigit
    · rw [if_pos hc, hc, Bool.true_and]
      dsimp only
      split
      · rename_i hlt
        exact ih fun _ => hlt
      · rename_i hge
        simp only [reduceCtorEq, false_iff]
        rintro ⟨-, rfl, hn⟩
        exact hge (Nat.lt_of_le_of_lt (le_ofDigitChars _ cs) hn)
    · rw [if_neg hc]
      simp [hc]

theorem readUnsigned_of_isDigit {bound : Nat} {c : Char} (hc : c.isDigit) (cs : List Char) :
    readUnsigned bound (c :: cs) = readDigits bound 0 (c :: cs) := by
  unfold readUnsigned
  split
  · contradiction
  · rename_i h
    rw [List.cons.injEq] at h
    rw [h.1] at hc
    contradiction
  · rename_i h
    rw [List.cons.injEq] at h
    rw [h.1] at hc
    contradiction
  · rfl

theorem natural?_eq_some_iff {bound n : Nat} {cs : List Char} :
    natural? bound cs = some n ↔ cs ≠ [] ∧ cs.all Char.isDigit ∧ value cs = n ∧ n < bound := by
  have htold {r : Except ReadError Nat} : r.toOption = some n ↔ r = .ok n := by
    cases r <;> simp [Except.toOption]
  unfold natural?
  split
  · rename_i h
    obtain ⟨c, cs, rfl⟩ := List.exists_cons_of_ne_nil h.1
    have hc : c.isDigit := List.all_eq_true.1 h.2 c List.mem_cons_self
    rw [htold, readUnsigned_of_isDigit hc, readDigits_eq_ok_iff fun hnil => absurd hnil h.1, value]
    exact (and_iff_right h.1).symm
  · rename_i h
    simp only [reduceCtorEq, false_iff]
    exact fun hn => h ⟨hn.1, hn.2.1⟩

theorem natural?_eq (bound : Nat) (cs : List Char) : natural? bound cs =
    if cs ≠ [] ∧ cs.all Char.isDigit ∧ value cs < bound then some (value cs) else none := by
  apply Option.ext
  intro n
  rw [natural?_eq_some_iff, Option.ite_none_right_eq_some, Option.some.injEq]
  constructor
  · rintro ⟨hne, hd, rfl, hn⟩
    exact ⟨⟨hne, hd, hn⟩, rfl⟩
  · rintro ⟨⟨hne, hd, hn⟩, rfl⟩
    exact ⟨hne, hd, rfl, hn⟩

theorem natural?_eq_some {bound : Nat} {cs : List Char} (hne : cs ≠ []) (hd : cs.all Char.isDigit)
    (hb : value cs < bound) : natural? bound cs = some (value cs) :=
  natural?_eq_some_iff.2 ⟨hne, hd, rfl, hb⟩

theorem natural?_digits {bound n : Nat} (h : n < bound) : natural? bound (digits n) = some n := by
  have hv := value_digits n
  rw [natural?_eq_some (digits_ne_nil n) (all_isDigit_digits n) (hv.symm ▸ h), hv]

/-- Digits are single bytes. -/
theorem utf8ByteSize_ofList {cs : List Char} (h : cs.all Char.isDigit) :
    (String.ofList cs).utf8ByteSize = cs.length := by
  induction cs with
  | nil => rfl
  | cons c cs ih =>
    rw [List.all_cons, Bool.and_eq_true] at h
    have hsize : c.utf8Size = 1 := by
      rw [Char.utf8Size_eq_one_iff, UInt32.le_iff_toNat_le]
      exact (Char.isDigit_iff_toNat.1 h.1).2.trans (by decide)
    rw [← List.singleton_append, String.ofList_append, String.utf8ByteSize_append, ih h.2,
      ← String.singleton_eq_ofList, String.utf8ByteSize_singleton, hsize, List.length_append,
      List.length_singleton]

theorem takeWhile_isDigit_append {ds rest : List Char} (hd : ds.all Char.isDigit)
    (hr : ∀ c, rest.head? = some c → ¬c.isDigit) : (ds ++ rest).takeWhile Char.isDigit = ds := by
  rw [List.takeWhile_append_of_pos (List.all_eq_true.1 hd)]
  cases rest with
  | nil => rw [List.takeWhile_nil, List.append_nil]
  | cons c rest => rw [List.takeWhile_cons_of_neg (hr c rfl), List.append_nil]

theorem dropWhile_isDigit_append {ds rest : List Char} (hd : ds.all Char.isDigit)
    (hr : ∀ c, rest.head? = some c → ¬c.isDigit) : (ds ++ rest).dropWhile Char.isDigit = rest := by
  rw [List.dropWhile_append_of_pos (List.all_eq_true.1 hd)]
  cases rest with
  | nil => rfl
  | cons c rest => rw [List.dropWhile_cons_of_neg (hr c rfl)]

@[simp] theorem padded_ne_nil (width n : Nat) : padded width n ≠ [] := by
  simp [padded]

theorem all_isDigit_padded (width n : Nat) : (padded width n).all Char.isDigit := by
  rw [padded, List.all_append, all_isDigit_digits, Bool.and_true, List.all_eq_true]
  intro c hc
  rw [List.eq_of_mem_replicate hc]
  decide

@[simp] theorem value_padded (width n : Nat) : value (padded width n) = n := by
  have h := value_digits n
  rw [value] at h
  rw [value, padded, Nat.ofDigitChars_append, Nat.ofDigitChars_replicate_zero, Nat.mul_zero, h]

theorem length_padded_eq (width n : Nat) :
    (padded width n).length = max width (digits n).length := by
  rw [padded, List.length_append, List.length_replicate]
  omega

theorem length_padded {width n : Nat} (hw : 0 < width) (h : n < 10 ^ width) :
    (padded width n).length = width := by
  rw [length_padded_eq, Nat.max_eq_left ((length_digits_le_iff hw).2 h)]

theorem natural?_padded {width bound n : Nat} (h : n < bound) :
    natural? bound (padded width n) = some n := by
  have hv := value_padded width n
  rw [natural?_eq_some (padded_ne_nil width n) (all_isDigit_padded width n) (hv.symm ▸ h), hv]

theorem value_cons (c : Char) (cs : List Char) :
    value (c :: cs) = 10 ^ cs.length * (c.toNat - '0'.toNat) + value cs := by
  rw [value, Nat.ofDigitChars_cons, Nat.ofDigitChars_eq_ofDigitChars_zero, Nat.mul_zero,
    Nat.zero_add, value]

theorem value_append (cs ds : List Char) :
    value (cs ++ ds) = 10 ^ ds.length * value cs + value ds := by
  rw [value, Nat.ofDigitChars_append, Nat.ofDigitChars_eq_ofDigitChars_zero, value, value]

theorem value_lt {cs : List Char} (h : cs.all Char.isDigit) : value cs < 10 ^ cs.length := by
  induction cs with
  | nil => decide
  | cons c cs ih =>
    rw [List.all_cons, Bool.and_eq_true] at h
    have hc := Char.isDigit_iff_toNat.1 h.1
    have hcs := ih h.2
    rw [value_cons, List.length_cons, Nat.pow_succ]
    have hdigit : c.toNat - '0'.toNat ≤ 9 := by
      simp only [Char.reduceToNat] at hc ⊢
      omega
    have := Nat.mul_le_mul_left (10 ^ cs.length) hdigit
    omega

/-- Digit strings of one length are compared like the numbers that they stand for. -/
theorem lt_iff_value_lt {cs ds : List Char} (hc : cs.all Char.isDigit) (hd : ds.all Char.isDigit)
    (hlen : cs.length = ds.length) : cs < ds ↔ value cs < value ds := by
  induction cs generalizing ds with
  | nil => simp [List.eq_nil_of_length_eq_zero hlen.symm]
  | cons c cs ih =>
    cases ds with
    | nil => simp at hlen
    | cons d ds =>
      rw [List.all_cons, Bool.and_eq_true] at hc hd
      simp only [List.length_cons, Nat.add_right_cancel_iff] at hlen
      have hvc := value_lt hc.2
      have hvd := value_lt hd.2
      have hcn := Char.isDigit_iff_toNat.1 hc.1
      have hdn := Char.isDigit_iff_toNat.1 hd.1
      have hlt : c < d ↔ c.toNat < d.toNat := Iff.rfl
      have heq : c = d ↔ c.toNat = d.toNat := Char.toNat_inj.symm
      rw [List.cons_lt_cons_iff, ih hc.2 hd.2 hlen, value_cons, value_cons, hlt, heq, hlen]
      rw [hlen] at hvc
      simp only [Char.reduceToNat] at hcn hdn ⊢
      rcases Nat.lt_trichotomy c.toNat d.toNat with h | h | h
      · have := Nat.mul_le_mul_left (10 ^ ds.length) (show c.toNat - 48 + 1 ≤ d.toNat - 48 by omega)
        rw [Nat.mul_add_one] at this
        simp only [h, true_or, true_iff]
        omega
      · simp only [h, Nat.lt_irrefl, true_and, false_or]
        omega
      · have := Nat.mul_le_mul_left (10 ^ ds.length) (show d.toNat - 48 + 1 ≤ c.toNat - 48 by omega)
        rw [Nat.mul_add_one] at this
        simp only [show ¬c.toNat < d.toNat by omega, show ¬c.toNat = d.toNat by omega, false_and,
          or_self, false_iff]
        omega

theorem digits_lt_digits_iff {m n : Nat} (h : (digits m).length = (digits n).length) :
    digits m < digits n ↔ m < n := by
  rw [lt_iff_value_lt (all_isDigit_digits m) (all_isDigit_digits n) h, value_digits, value_digits]

theorem append_lt_append_left_iff (front : List Char) {cs ds : List Char} :
    front ++ cs < front ++ ds ↔ cs < ds := by
  induction front with
  | nil => rfl
  | cons c front ih => rw [List.cons_append, List.cons_append, List.cons_lt_cons_self, ih]

theorem append_lt_append_right_iff {cs ds : List Char} (h : cs.length = ds.length)
    (back : List Char) :
    cs ++ back < ds ++ back ↔ cs < ds := by
  induction cs generalizing ds with
  | nil =>
    rw [List.eq_nil_of_length_eq_zero h.symm]
    simp
  | cons c cs ih =>
    cases ds with
    | nil => contradiction
    | cons d ds =>
      rw [List.cons_append, List.cons_append, List.cons_lt_cons_iff, List.cons_lt_cons_iff,
        ih (Nat.succ.inj h)]

/-- Among texts with numbers of one length in the same place, the order of the texts is that of the
numbers. -/
theorem affixed_lt_iff {m n : Nat} (h : (digits m).length = (digits n).length)
    (front back : List Char) :
    String.ofList (front ++ (digits m ++ back)) < String.ofList (front ++ (digits n ++ back)) ↔
      m < n := by
  rw [String.lt_iff, String.toList_ofList, String.toList_ofList, append_lt_append_left_iff,
    append_lt_append_right_iff h, digits_lt_digits_iff h]

theorem affixed_le_iff {m n : Nat} (h : (digits m).length = (digits n).length)
    (front back : List Char) :
    String.ofList (front ++ (digits m ++ back)) ≤ String.ofList (front ++ (digits n ++ back)) ↔
      m ≤ n := by
  rw [← String.not_lt, affixed_lt_iff h.symm, Nat.not_lt]

theorem eq_of_value_eq {cs ds : List Char} (hc : cs.all Char.isDigit) (hd : ds.all Char.isDigit)
    (hlen : cs.length = ds.length) (h : value cs = value ds) : cs = ds := by
  have hlt : ¬cs < ds := fun hlt => Nat.ne_of_lt ((lt_iff_value_lt hc hd hlen).1 hlt) h
  have hgt : ¬ds < cs := fun hgt => Nat.ne_of_gt ((lt_iff_value_lt hd hc hlen.symm).1 hgt) h
  exact List.le_antisymm (List.not_lt.1 hgt) (List.not_lt.1 hlt)

theorem length_digits_value_le {cs : List Char} (hne : cs ≠ []) (hd : cs.all Char.isDigit) :
    (digits (value cs)).length ≤ cs.length :=
  (length_digits_le_iff (List.length_pos_iff.2 hne)).2 (value_lt hd)

/-- A digit string is the number that it stands for, padded to the string's own length. -/
theorem padded_value {cs : List Char} (hne : cs ≠ []) (hd : cs.all Char.isDigit) :
    padded cs.length (value cs) = cs := by
  have hlen : (padded cs.length (value cs)).length = cs.length := by
    rw [length_padded_eq, Nat.max_eq_left (length_digits_value_le hne hd)]
  exact eq_of_value_eq (all_isDigit_padded _ _) hd hlen (value_padded _ _)

/-- Of the ways to pad a number, the length tells which. -/
theorem padded_eq_padded_iff {v w n : Nat} :
    padded v n = padded w n ↔ (padded v n).length = (padded w n).length := by
  constructor
  · exact congrArg List.length
  · intro h
    rw [length_padded_eq, length_padded_eq] at h
    rw [padded, padded, show v - (digits n).length = w - (digits n).length by omega]

/-- Digits are wasted exactly where a zero leads. -/
theorem length_digits_value_lt_iff {cs : List Char} (hlen : 1 < cs.length)
    (hd : cs.all Char.isDigit) :
    (digits (value cs)).length < cs.length ↔ cs.head? = some '0' := by
  have hne : cs ≠ [] := List.length_pos_iff.1 (by omega)
  have hcs := padded_value hne hd
  constructor
  · intro hlt
    obtain ⟨k, hk⟩ : ∃ k, cs.length - (digits (value cs)).length = k + 1 :=
      ⟨_, (Nat.succ_pred (by omega)).symm⟩
    rw [← hcs, padded, hk, List.replicate_succ, List.cons_append, List.head?_cons]
  · intro hzero
    refine Nat.lt_of_le_of_ne (length_digits_value_le hne hd) fun heq => ?_
    rw [padded, heq, Nat.sub_self, List.replicate_zero, List.nil_append] at hcs
    have hone := length_digits_of_head_zero (n := value cs) (hcs.symm ▸ hzero)
    omega

end ExportLedger.Decimal
