import Mathlib.Data.List.TakeWhile
import ExportLedger.Json.Numeral
import ExportLedger.Proofs.Text.Decimal
/-!
The grammar of numbers, and that the reader takes exactly what follows it.
-/
namespace ExportLedger.Json.Numeral

open Decimal (takeWhile_isDigit_append dropWhile_isDigit_append)

/-- At least one digit. -/
def Digits (cs : List Char) : Prop := cs ≠ [] ∧ cs.all Char.isDigit

theorem Digits.head {c : Char} {cs : List Char} (h : Digits (c :: cs)) : c.isDigit := by
  have hall := h.2
  rw [List.all_cons, Bool.and_eq_true] at hall
  exact hall.1

/-- Whether a sign makes a number negative. -/
def signs : List (Bool × List Char) := [(false, []), (false, ['+']), (true, ['-'])]

/-- A mark, a sign that may be left out, and digits; or nothing at all. -/
inductive ExponentSpelling : Option (Bool × List Char) → List Char → Prop where
  | absent : ExponentSpelling none []
  | present {mark : Char} {negative : Bool} {sign ds : List Char} (hmark : mark = 'e' ∨ mark = 'E')
      (hsign : (negative, sign) ∈ signs) (hds : Digits ds) :
      ExponentSpelling (some (negative, ds)) (mark :: (sign ++ ds))

theorem not_isDigit_sign {c : Char} (h : c = '+' ∨ c = '-') : c.isDigit = false := by
  rcases h with rfl | rfl <;> decide

theorem exponent?_eq_some_iff {cs : List Char} {x : Option (Bool × List Char)} :
    exponent? cs = some x ↔ ExponentSpelling x cs := by
  constructor
  · intro h
    unfold exponent? at h
    split at h
    · cases h
      exact .absent
    · rename_i mark cs
      split at h
      · rename_i hmark
        split at h
        rename_i x negative ds hx
        split at h
        · rename_i hds
          obtain rfl := Option.some.inj h
          split at hx <;> cases hx
          · exact .present hmark (show (true, ['-']) ∈ signs by decide) hds
          · exact .present hmark (show (false, ['+']) ∈ signs by decide) hds
          · exact .present hmark (show (false, []) ∈ signs by decide) hds
        · contradiction
      · contradiction
  · intro h
    cases h with
    | absent => rfl
    | @present mark negative sign ds hmark hsign hds =>
      simp only [signs, List.mem_cons, Prod.mk.injEq, List.not_mem_nil, or_false] at hsign
      obtain ⟨rfl, rfl⟩ | ⟨rfl, rfl⟩ | ⟨rfl, rfl⟩ := hsign
      · have hplain (c : Char) (hc : c = '+' ∨ c = '-') (rest : List Char) : ds ≠ c :: rest := by
          rintro rfl
          exact absurd hds.head (by rw [not_isDigit_sign hc]; decide)
        rw [List.nil_append, exponent?, if_pos hmark]
        · exact if_pos hds
        · exact fun rest => hplain '-' (.inr rfl) rest
        · exact fun rest => hplain '+' (.inl rfl) rest
      · rw [List.singleton_append, exponent?, if_pos hmark]
        exact if_pos hds
      · rw [List.singleton_append, exponent?, if_pos hmark]
        exact if_pos hds

/-- A number without its sign. -/
inductive UnsignedSpelling (negative : Bool) : Numeral → List Char → Prop where
  | integer {whole back : List Char} {exponent : Option (Bool × List Char)} (hwhole : Digits whole)
      (hzero : whole.head? = some '0' → whole.length = 1)
        (hexponent : ExponentSpelling exponent back) :
      UnsignedSpelling negative ⟨negative, whole, [], exponent⟩ (whole ++ back)
  | fraction {whole fraction back : List Char} {exponent : Option (Bool × List Char)}
      (hwhole : Digits whole)
      (hzero : whole.head? = some '0' → whole.length = 1) (hfraction : Digits fraction)
      (hexponent : ExponentSpelling exponent back) :
      UnsignedSpelling negative ⟨negative, whole, fraction, exponent⟩
        (whole ++ '.' :: (fraction ++ back))

theorem ExponentSpelling.head {x : Option (Bool × List Char)} {cs : List Char}
    (h : ExponentSpelling x cs) {c : Char} (hc : cs.head? = some c) : c = 'e' ∨ c = 'E' := by
  cases h with
  | absent => contradiction
  | present hmark => exact Option.some.inj hc ▸ hmark

theorem ExponentSpelling.not_isDigit_head {x : Option (Bool × List Char)} {cs : List Char}
    (h : ExponentSpelling x cs) (c : Char) (hc : cs.head? = some c) : ¬c.isDigit := by
  rcases h.head hc with rfl | rfl <;> decide

theorem digits_takeWhile {cs : List Char} (h : cs.takeWhile Char.isDigit ≠ []) :
    Digits (cs.takeWhile Char.isDigit) :=
  ⟨h, List.all_takeWhile⟩

theorem unsigned?_eq_some_iff {negative : Bool} {cs : List Char} {n : Numeral} :
    unsigned? negative cs = some n ↔ UnsignedSpelling negative n cs := by
  constructor
  · intro h
    have hsplit : cs.takeWhile Char.isDigit ++ cs.dropWhile Char.isDigit = cs :=
      List.takeWhile_append_dropWhile
    simp only [unsigned?] at h
    split at h
    · contradiction
    · rename_i hwhole
      simp only [not_or, not_and, not_not] at hwhole
      rw [← hsplit]
      split at h
      · rename_i rest hrest
        rw [hrest]
        split at h
        · contradiction
        · rename_i hfraction
          obtain ⟨exponent, hexponent, rfl⟩ := Option.map_eq_some_iff.1 h
          have hread : UnsignedSpelling negative _ _ :=
            .fraction (digits_takeWhile hwhole.1) hwhole.2
            (digits_takeWhile hfraction) (exponent?_eq_some_iff.1 hexponent)
          rwa [List.takeWhile_append_dropWhile (p := Char.isDigit) (l := rest)] at hread
      · obtain ⟨exponent, hexponent, rfl⟩ := Option.map_eq_some_iff.1 h
        exact .integer (digits_takeWhile hwhole.1) hwhole.2 (exponent?_eq_some_iff.1 hexponent)
  · intro h
    have hkeep {whole : List Char} (hwhole : Digits whole)
        (hzero : whole.head? = some '0' → whole.length = 1) :
        ¬(whole = [] ∨ (whole.head? = some '0' ∧ whole.length ≠ 1)) := by
      rintro (hnil | ⟨hhead, hlength⟩)
      · exact hwhole.1 hnil
      · exact hlength (hzero hhead)
    cases h with
    | @integer whole back exponent hwhole hzero hexponent =>
      have htake := takeWhile_isDigit_append hwhole.2 hexponent.not_isDigit_head
      have hdrop := dropWhile_isDigit_append hwhole.2 hexponent.not_isDigit_head
      simp only [unsigned?, htake, hdrop, if_neg (hkeep hwhole hzero)]
      split
      · rename_i rest hrest
        rcases hexponent.head rfl with h | h <;> cases h
      · rw [exponent?_eq_some_iff.2 hexponent, Option.map_some]
    | @fraction whole fraction back exponent hwhole hzero hfraction hexponent =>
      have hpoint (c : Char) (hc : ('.' :: (fraction ++ back)).head? = some c) : ¬c.isDigit := by
        cases hc
        decide
      have htake := takeWhile_isDigit_append hwhole.2 hpoint
      have hdrop := dropWhile_isDigit_append hwhole.2 hpoint
      have htake' := takeWhile_isDigit_append hfraction.2 hexponent.not_isDigit_head
      have hdrop' := dropWhile_isDigit_append hfraction.2 hexponent.not_isDigit_head
      simp only [unsigned?, htake, hdrop, if_neg (hkeep hwhole hzero), htake', hdrop',
        if_neg hfraction.1]
      rw [exponent?_eq_some_iff.2 hexponent, Option.map_some]

/-- The grammar of numbers: no leading zeros, and digits on either side of a point. -/
inductive Spelling : Numeral → List Char → Prop where
  | unsigned {n : Numeral} {cs : List Char} (h : UnsignedSpelling false n cs) : Spelling n cs
  | signed {n : Numeral} {cs : List Char} (h : UnsignedSpelling true n cs) : Spelling n ('-' :: cs)

theorem UnsignedSpelling.head {negative : Bool} {n : Numeral} {cs : List Char}
    (h : UnsignedSpelling negative n cs) :
    ∃ c rest, cs = c :: rest ∧ c.isDigit = true := by
  have hfront {whole : List Char} (hwhole : Digits whole) (back : List Char) :
      ∃ c rest, whole ++ back = c :: rest ∧ c.isDigit = true := by
    cases whole with
    | nil => exact absurd rfl hwhole.1
    | cons c whole => exact ⟨c, whole ++ back, rfl, hwhole.head⟩
  cases h with
  | integer hwhole => exact hfront hwhole _
  | fraction hwhole => exact hfront hwhole _

theorem ofChars?_eq_some_iff {cs : List Char} {n : Numeral} :
    ofChars? cs = some n ↔ n.Spelling cs := by
  unfold ofChars?
  constructor
  · intro h
    split at h
    · exact .signed (unsigned?_eq_some_iff.1 h)
    · exact .unsigned (unsigned?_eq_some_iff.1 h)
  · intro h
    cases h with
    | unsigned h =>
      obtain ⟨c, rest, rfl, hc⟩ := h.head
      split
      · rename_i hminus
        rw [(List.cons.inj hminus).1] at hc
        contradiction
      · exact unsigned?_eq_some_iff.2 h
    | signed h => exact unsigned?_eq_some_iff.2 h

theorem Spelling.head {n : Numeral} {cs : List Char} (h : n.Spelling cs) :
    ∃ c rest, cs = c :: rest ∧ (c = '-' ∨ c.isDigit = true) := by
  cases h with
  | unsigned h =>
    obtain ⟨c, rest, rfl, hc⟩ := h.head
    exact ⟨c, rest, rfl, .inr hc⟩
  | signed h => exact ⟨'-', _, rfl, .inl rfl⟩

end ExportLedger.Json.Numeral
