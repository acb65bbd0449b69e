import ExportLedger.Naming
import ExportLedger.Proofs.Text.Decimal
/-!
The newest of several names is the greatest by key and name, in whatever order the names are listed.
-/
namespace ExportLedger.Naming

theorem mem_candidates {key : String → Option κ} {names : List String} {c : κ × String} :
    c ∈ names.filterMap (fun name => (key name).map (·, name)) ↔
      c.2 ∈ names ∧ key c.2 = some c.1 := by
  obtain ⟨k, n⟩ := c
  simp only [List.mem_filterMap, Option.map_eq_some_iff, Prod.mk.injEq]
  constructor
  · rintro ⟨name, hname, j, hj, rfl, rfl⟩
    exact ⟨hname, hj⟩
  · rintro ⟨hn, hk⟩
    exact ⟨n, hn, k, hk, rfl, rfl⟩

section Newest

variable [Ord κ]

/-- Keys first, then names. -/
def order : κ × String → κ × String → Ordering :=
  compareLex (compareOn Prod.fst) (compareOn Prod.snd)

theorem isAfter_eq_false_iff {a b : κ × String} : isAfter a b = false ↔ (order a b).isLE := by
  have h : isAfter a b = decide (order a b = .gt) := rfl
  rw [h, decide_eq_false_iff_not]
  cases order a b <;> decide

/-- No name with a key comes after it. -/
def IsNewest (key : String → Option κ) (names : List String) (m : String) : Prop :=
  m ∈ names ∧ ∃ k, key m = some k ∧ ∀ n ∈ names, ∀ j, key n = some j → isAfter (j, n) (k, m) = false

/-- A name that was the newest of many stays the newest of fewer. -/
theorem IsNewest.mono {key : String → Option κ} {names fewer : List String} {m : String}
    (h : IsNewest key names m) (hsub : ∀ n ∈ fewer, n ∈ names) (hm : m ∈ fewer) :
    IsNewest key fewer m := by
  obtain ⟨-, k, hk, hmax⟩ := h
  exact ⟨hm, k, hk, fun n hn => hmax n (hsub n hn)⟩

theorem newest?_eq_none_iff {key : String → Option κ} {names : List String} :
    newest? key names = none ↔ ∀ n ∈ names, key n = none := by
  unfold newest?
  split
  · rename_i hnil
    rw [List.filterMap_eq_nil_iff] at hnil
    simpa using hnil
  · rename_i c cs hcons
    have hc := mem_candidates.1 (hcons ▸ List.mem_cons_self (a := c) (l := cs))
    simp only [reduceCtorEq, false_iff]
    intro h
    rw [h c.2 hc.1] at hc
    exact absurd hc.2 (by simp)

variable [Std.TransOrd κ]

instance : Std.TransCmp (order (κ := κ)) := inferInstanceAs (Std.TransCmp (compareLex _ _))

theorem isAfter_self (a : κ × String) : isAfter a a = false := by
  have h : order a a = .eq := Std.ReflCmp.compare_self
  rw [isAfter_eq_false_iff, h]
  rfl

theorem isAfter_eq_false_trans {a b c : κ × String} (hab : isAfter a b = false)
    (hbc : isAfter b c = false) : isAfter a c = false := by
  rw [isAfter_eq_false_iff] at hab hbc ⊢
  exact Std.TransCmp.isLE_trans hab hbc

theorem isAfter_eq_false_of_isAfter {a b : κ × String} (h : isAfter a b) : isAfter b a = false := by
  have hgt : order a b = .gt := of_decide_eq_true h
  rw [isAfter_eq_false_iff, show order b a = (order a b).swap from Std.OrientedCmp.eq_swap, hgt]
  rfl

/-- Names tell apart what keys do not. -/
theorem name_eq_of_isAfter_eq_false {a b : κ × String} (hab : isAfter a b = false)
    (hba : isAfter b a = false) :
    a.2 = b.2 := by
  rw [isAfter_eq_false_iff] at hab hba
  have heq := Std.OrientedCmp.isLE_antisymm hab hba
  simp only [order, compareLex_eq_eq, compareOn] at heq
  exact Std.LawfulEqOrd.eq_of_compare heq.2

theorem isAfter_of_eq_false {a b : κ × String} (h : isAfter a b = false) (hne : a.2 ≠ b.2) :
    isAfter b a := by
  rw [← Bool.not_eq_false]
  exact fun hle => hne (name_eq_of_isAfter_eq_false h hle)

theorem isAfter_left_later (a b : κ × String) : isAfter a (later a b) = false := by
  unfold later
  split
  · rename_i h
    exact isAfter_eq_false_of_isAfter h
  · exact isAfter_self a

theorem isAfter_right_later (a b : κ × String) : isAfter b (later a b) = false := by
  unfold later
  split
  · exact isAfter_self b
  · rename_i h
    simpa using h

/-- The fold ends with a candidate that no candidate comes after. -/
theorem foldl_later_max (c : κ × String) (cs : List (κ × String)) :
    cs.foldl later c ∈ c :: cs ∧ ∀ x ∈ c :: cs, isAfter x (cs.foldl later c) = false := by
  induction cs generalizing c with
  | nil => simp [isAfter_self]
  | cons d ds ih =>
    obtain ⟨hmem, hmax⟩ := ih (later c d)
    have hlater := hmax (later c d) List.mem_cons_self
    rw [List.foldl_cons]
    constructor
    · rcases List.mem_cons.1 hmem with heq | hin
      · rw [heq]
        unfold later
        split <;> simp
      · simp [hin]
    · intro x hx
      rcases List.mem_cons.1 hx with rfl | hx
      · exact isAfter_eq_false_trans (isAfter_left_later x d) hlater
      · rcases List.mem_cons.1 hx with rfl | hx
        · exact isAfter_eq_false_trans (isAfter_right_later c x) hlater
        · exact hmax x (List.mem_cons_of_mem _ hx)

theorem isNewest_of_newest? {key : String → Option κ} {names : List String} {m : String}
    (h : newest? key names = some m) : IsNewest key names m := by
  unfold newest? at h
  split at h
  · contradiction
  · rename_i c cs hcons
    obtain ⟨hmem, hmax⟩ := foldl_later_max c cs
    rw [← hcons] at hmem hmax
    cases h
    obtain ⟨hin, hkey⟩ := mem_candidates.1 hmem
    exact ⟨hin, _, hkey, fun n hn j hj => hmax (j, n) (mem_candidates.2 ⟨hn, hj⟩)⟩

theorem IsNewest.unique {key : String → Option κ} {names : List String} {m n : String}
    (hm : IsNewest key names m) (hn : IsNewest key names n) : m = n := by
  obtain ⟨hm, k, hk, hmaxk⟩ := hm
  obtain ⟨hn, j, hj, hmaxj⟩ := hn
  exact name_eq_of_isAfter_eq_false (hmaxj m hm k hk) (hmaxk n hn j hj)

theorem newest?_eq_some_iff {key : String → Option κ} {names : List String}
    {m : String} : newest? key names = some m ↔ IsNewest key names m := by
  constructor
  · exact isNewest_of_newest?
  · intro h
    cases hnew : newest? key names with
    | none =>
      obtain ⟨hm, k, hk, -⟩ := h
      rw [newest?_eq_none_iff.1 hnew m hm] at hk
      contradiction
    | some n => rw [(isNewest_of_newest? hnew).unique h]

/-- Only which names have a key matters, not where or how often they are listed. -/
theorem newest?_congr {key : String → Option κ} {names others : List String}
    (h : ∀ n, key n ≠ none → (n ∈ names ↔ n ∈ others)) :
    newest? key names = newest? key others := by
  have hkeyed {n : String} {k : κ} (hk : key n = some k) : n ∈ names ↔ n ∈ others := by
    apply h
    rw [hk]
    exact Option.some_ne_none k
  apply Option.ext
  intro m
  rw [newest?_eq_some_iff, newest?_eq_some_iff]
  constructor
  · rintro ⟨hm, k, hk, hmax⟩
    exact ⟨(hkeyed hk).1 hm, k, hk, fun n hn j hj => hmax n ((hkeyed hj).2 hn) j hj⟩
  · rintro ⟨hm, k, hk, hmax⟩
    exact ⟨(hkeyed hk).2 hm, k, hk, fun n hn j hj => hmax n ((hkeyed hj).1 hn) j hj⟩

/-- The newest name is not one of these exactly if another one comes after all of them. -/
theorem exists_isNewest_not_iff {key : String → Option κ} {names : List String}
    (own : String → Prop) (hown : ∀ n, own n → n ∈ names) : (∃ m, IsNewest key names m ∧ ¬own m) ↔
      ∃ m ∈ names, ¬own m ∧ ∃ k, key m = some k ∧ ∀ n, own n → ∀ j, key n = some j →
      isAfter (k, m) (j, n) := by
  constructor
  · rintro ⟨m, ⟨hm, k, hk, hmax⟩, hother⟩
    refine ⟨m, hm, hother, k, hk, fun n hn j hj => isAfter_of_eq_false (hmax n (hown n hn) j hj) ?_⟩
    rintro rfl
    exact hother hn
  · rintro ⟨m, hm, -, k, hk, hlast⟩
    cases hnew : newest? key names with
    | none =>
      rw [newest?_eq_none_iff.1 hnew m hm] at hk
      contradiction
    | some n =>
      have hnewest := isNewest_of_newest? hnew
      refine ⟨n, hnewest, fun hn => ?_⟩
      obtain ⟨-, j, hj, hmax⟩ := hnewest
      have hle := hmax m hm k hk
      rw [hlast n hn j hj] at hle
      contradiction

/-- It is the newest if it has a key and the newest name so far does not come after it. -/
theorem newest?_insert_iff {key : String → Option κ} {names more : List String} {name : String}
    (hmore : ∀ n, n ∈ more ↔ n = name ∨ n ∈ names) :
    newest? key more = some name ↔ ∃ k, key name = some k ∧
      ∀ m j, newest? key names = some m → key m = some j → isAfter (j, m) (k, name) = false := by
  rw [newest?_eq_some_iff]
  constructor
  · rintro ⟨-, k, hk, hmax⟩
    refine ⟨k, hk, fun m j hm hj => ?_⟩
    exact hmax m ((hmore m).2 (.inr (isNewest_of_newest? hm).1)) j hj
  · rintro ⟨k, hk, hlast⟩
    refine ⟨(hmore name).2 (.inl rfl), k, hk, fun n hn j hj => ?_⟩
    rcases (hmore n).1 hn with rfl | hn
    · rw [hk] at hj
      cases hj
      exact isAfter_self _
    · cases hnew : newest? key names with
      | none =>
        rw [newest?_eq_none_iff.1 hnew n hn] at hj
        contradiction
      | some m =>
        obtain ⟨-, i, hi, hmax⟩ := isNewest_of_newest? hnew
        exact isAfter_eq_false_trans (hmax n hn j hj) (hlast m i hnew hi)

/-- If it is not the newest, it makes no difference. -/
theorem newest?_insert_of_ne {key : String → Option κ} {names more : List String} {name : String}
    (hmore : ∀ n, n ∈ more ↔ n = name ∨ n ∈ names) (hne : newest? key more ≠ some name) :
    newest? key more = newest? key names := by
  cases hnew : newest? key more with
  | none =>
    rw [newest?_eq_none_iff] at hnew
    exact (newest?_eq_none_iff.2 fun n hn => hnew n ((hmore n).2 (.inr hn))).symm
  | some m =>
    rw [hnew, ne_eq, Option.some.injEq] at hne
    have hnewest := isNewest_of_newest? hnew
    refine (newest?_eq_some_iff.2 (hnewest.mono (fun n hn => (hmore n).2 (.inr hn)) ?_)).symm
    exact ((hmore m).1 hnewest.1).resolve_left hne

end Newest

theorem compare_string_eq_gt_iff {a b : String} : compare a b = .gt ↔ b < a := by
  have h : compare a b = compareOfLessAndEq a b := rfl
  rw [h, compareOfLessAndEq]
  split
  · rename_i hlt
    simp only [reduceCtorEq, false_iff]
    exact fun hgt => String.lt_irrefl a (String.lt_trans hlt hgt)
  · split
    · rename_i heq
      simp only [reduceCtorEq, false_iff, heq]
      exact String.lt_irrefl b
    · rename_i hlt hne
      simp only [true_iff]
      exact Decidable.byContradiction fun hgt =>
        hne (String.le_antisymm (String.not_lt.1 hgt) (String.not_lt.1 hlt))

theorem isAfter_iff [Ord κ] [Std.LawfulEqOrd κ] {j k : κ} {n m : String} :
    isAfter (j, n) (k, m) ↔ compare j k = .gt ∨ j = k ∧ m < n := by
  simp only [isAfter, decide_eq_true_eq]
  cases h : compare j k with
  | lt =>
    simp only [Ordering.then, reduceCtorEq, false_or, false_iff]
    rintro ⟨rfl, -⟩
    rw [Std.ReflOrd.compare_self] at h
    contradiction
  | eq =>
    simp only [Ordering.then, reduceCtorEq, false_or, Std.LawfulEqOrd.eq_of_compare h, true_and,
      compare_string_eq_gt_iff]
  | gt => simp [Ordering.then]

theorem isAfter_uint64_iff {j k : UInt64} {n m : String} :
    isAfter (j, n) (k, m) ↔ k < j ∨ j = k ∧ m < n := by
  rw [isAfter_iff, Std.compare_eq_gt]

theorem isAfter_name_iff {n m : String} : isAfter (n, n) (m, m) ↔ m < n := by
  rw [isAfter_iff, compare_string_eq_gt_iff]
  constructor
  · rintro (h | ⟨-, h⟩) <;> exact h
  · exact Or.inl

theorem leadingNumber_text_append_eq (n : Nat) (suffix : String) :
    leadingNumber (Decimal.text n ++ suffix) =
      if '-' ∈ suffix.toList then
        (Decimal.natural? UInt64.size (Decimal.digits n ++ suffix.toList.takeWhile (· ≠ '-'))).map
          .ofNat
      else none := by
  have hlist : (Decimal.text n ++ suffix).toList = Decimal.digits n ++ suffix.toList := by
    rw [String.toList_append, Decimal.toList_text]
  have hdigits : ∀ c ∈ Decimal.digits n, decide (c ≠ '-') = true := by
    intro c hc
    have hd := Decimal.isDigit_of_mem_digits hc
    rw [decide_eq_true_eq]
    rintro rfl
    exact absurd hd (by decide)
  have hmem : '-' ∈ Decimal.digits n ++ suffix.toList ↔ '-' ∈ suffix.toList := by
    rw [List.mem_append, or_iff_right]
    exact fun hdash => absurd (hdigits _ hdash) (by decide)
  rw [leadingNumber, hlist, List.takeWhile_append_of_pos hdigits]
  simp only [hmem]

theorem leadingNumber_text_append {n : Nat} (hn : n < UInt64.size) {suffix : String}
    (hs : suffix.toList.head? = some '-') :
    leadingNumber (Decimal.text n ++ suffix) = some (.ofNat n) := by
  obtain ⟨rest, hrest⟩ := List.head?_eq_some_iff.1 hs
  rw [leadingNumber_text_append_eq, hrest, if_pos List.mem_cons_self,
    List.takeWhile_cons_of_neg (by simp), List.append_nil, Decimal.natural?_digits hn,
    Option.map_some]

theorem startsWithIgnoringCase_iff {start cs : List Char} : startsWithIgnoringCase start cs ↔
    ∃ front rest, cs = front ++ rest ∧ front.map Char.toLower = start.map Char.toLower := by
  induction start generalizing cs with
  | nil => simp [startsWithIgnoringCase]
  | cons s start ih =>
    cases cs with
    | nil => simp [startsWithIgnoringCase]
    | cons c cs =>
      rw [startsWithIgnoringCase, Bool.and_eq_true, beq_iff_eq, ih]
      constructor
      · rintro ⟨hc, front, rest, rfl, hfront⟩
        exact ⟨c :: front, rest, rfl, by rw [List.map_cons, List.map_cons, hc, hfront]⟩
      · rintro ⟨front, rest, hcs, hfront⟩
        obtain ⟨d, front, rfl⟩ :=
          List.exists_cons_of_ne_nil (l := front) (by rintro rfl; cases hfront)
        rw [List.map_cons, List.map_cons, List.cons.injEq] at hfront
        rw [List.cons_append, List.cons.injEq] at hcs
        exact ⟨hcs.1 ▸ hfront.1.symm, front, rest, hcs.2, hfront.2⟩

end ExportLedger.Naming
