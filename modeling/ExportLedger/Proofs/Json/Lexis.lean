import Mathlib.Data.List.Forall2
import ExportLedger.Proofs.Json.Numeral
import ExportLedger.Proofs.Json.Scan
/-!
How the tokens of a JSON document may be written, and that the scanner finds exactly the tokens that
are written.
-/
namespace ExportLedger.Json

namespace Piece

/-- The characters that may follow a backslash, and what they stand for. -/
def escapes : List (Char × Char) :=
  [('"', '"'), ('\\', '\\'), ('/', '/'), ('b', '\x08'), ('f', '\x0c'), ('n', '\n'), ('r', '\r'),
    ('t', '\t')]

/-- The digits write the number, the most significant first. -/
def HexSpelling (cs : List Char) (n : Nat) : Prop :=
  ∃ ds, List.Forall₂ (fun c d => Text.hexValue? c = some d) cs ds ∧
  n = ds.foldl (fun v d => v * 16 + d) 0

inductive Spelling : Piece → List (Option Char) → Prop where
  | char {c : Char} (hquote : c ≠ '"') (hbackslash : c ≠ '\\') (hcontrol : 0x20 ≤ c.toNat) :
    Spelling (.char c) [some c]
  | escape {c d : Char} (h : (c, d) ∈ escapes) : Spelling (.char d) [some '\\', some c]
  | codeUnit {cs : List Char} {n : Nat} (hlength : cs.length = 4) (h : HexSpelling cs n) :
    Spelling (.codeUnit n) (some '\\' :: some 'u' :: cs.map some)
  | stray : Spelling .stray [none]

theorem escaped?_eq_some_iff {c d : Char} : Token.escaped? c = some d ↔ (c, d) ∈ escapes := by
  constructor
  · intro h
    unfold Token.escaped? at h
    split at h
    · rename_i hc
      obtain rfl := Option.some.inj h
      rcases hc with rfl | rfl | rfl <;> decide
    iterate 5
      split at h
      · rename_i hc
        obtain rfl := Option.some.inj h
        subst hc
        decide
    contradiction
  · intro h
    simp only [escapes, List.mem_cons, Prod.mk.injEq, List.not_mem_nil, or_false] at h
    rcases h with h | h | h | h | h | h | h | h <;>
      · obtain ⟨rfl, rfl⟩ := h
        rfl

end Piece

/-- The pieces of a string, one after the other. -/
inductive Literal.Spelling : Literal → List (Option Char) → Prop where
  | nil : Literal.Spelling [] []
  | cons {p : Piece} {l : Literal} {front back : List (Option Char)} (hp : p.Spelling front)
      (hl : Literal.Spelling l back) : Literal.Spelling (p :: l) (front ++ back)

namespace Token

/-- The tokens of a single character. -/
def punctuation : List (Char × Token) :=
  [('[', .openArray), (']', .closeArray), ('\x7b', .openObject), ('\x7d', .closeObject),
    (',', .comma), (':', .colon)]

inductive WordSpelling : Token → List Char → Prop where
  | null : WordSpelling .null "null".toList
  | true : WordSpelling (.bool true) "true".toList
  | false : WordSpelling (.bool false) "false".toList
  | number {n : Numeral} {cs : List Char} (h : n.Spelling cs) : WordSpelling (.number n) cs

/-- The text consists of the tokens, with white space wherever no token is. A word or number goes as
far as it can. -/
inductive Spells : List (Option Char) → List Token → Prop where
  | nil : Spells [] []
  | space {c : Char} {marks : List (Option Char)} {ts : List Token}
      (hc : c ∈ [' ', '\t', '\n', '\r'])
      (h : Spells marks ts) : Spells (some c :: marks) ts
  | mark {c : Char} {t : Token} {marks : List (Option Char)} {ts : List Token}
      (hc : (c, t) ∈ punctuation)
      (h : Spells marks ts) : Spells (some c :: marks) (t :: ts)
  | word {t : Token} {cs : List Char} {marks : List (Option Char)} {ts : List Token}
      (ht : WordSpelling t cs)
      (hend : EndsWord marks) (h : Spells marks ts) : Spells (cs.map some ++ marks) (t :: ts)
  | text {l : Literal} {body marks : List (Option Char)} {ts : List Token} (hl : l.Spelling body)
      (h : Spells marks ts) : Spells (some '"' :: (body ++ some '"' :: marks)) (.text l :: ts)

variable {marks : List (Option Char)} {ts : List Token}

theorem ofWord?_eq_some_iff {cs : List Char} {t : Token} :
    ofWord? cs = some t ↔ WordSpelling t cs := by
  constructor
  · intro h
    unfold ofWord? at h
    split at h
    · rename_i hcs
      obtain rfl := Option.some.inj h
      exact hcs ▸ .null
    split at h
    · rename_i hcs
      obtain rfl := Option.some.inj h
      exact hcs ▸ .true
    split at h
    · rename_i hcs
      obtain rfl := Option.some.inj h
      exact hcs ▸ .false
    obtain ⟨n, hn, rfl⟩ := Option.map_eq_some_iff.1 h
    exact .number (Numeral.ofChars?_eq_some_iff.1 hn)
  · intro h
    cases h with
    | null => rfl
    | true => rfl
    | false => rfl
    | number h =>
      obtain ⟨c, rest, rfl, hc⟩ := h.head
      have hletter (d : Char) (back : List Char) (hd : d.isDigit = false ∧ d ≠ '-') :
          c :: rest ≠ d :: back := by
        intro heq
        rw [(List.cons.inj heq).1] at hc
        rcases hc with hc | hc
        · exact hd.2 hc
        · rw [hd.1] at hc
          contradiction
      rw [ofWord?, if_neg (hletter 'n' _ (by decide)), if_neg (hletter 't' _ (by decide)),
        if_neg (hletter 'f' _ (by decide)), Numeral.ofChars?_eq_some_iff.2 h, Option.map_some]

theorem all_isWordChar_of_digits {cs : List Char} (h : Numeral.Digits cs) : cs.all isWordChar :=
  List.all_eq_true.2 fun c hc => isWordChar_of_isDigit (List.all_eq_true.1 h.2 c hc)

theorem all_isWordChar_of_exponent {x : Option (Bool × List Char)} {cs : List Char}
    (h : Numeral.ExponentSpelling x cs) : cs.all isWordChar := by
  cases h with
  | absent => rfl
  | present hmark hsign hds =>
    simp only [Numeral.signs, List.mem_cons, Prod.mk.injEq, List.not_mem_nil, or_false] at hsign
    rw [List.all_cons, List.all_append, all_isWordChar_of_digits hds, Bool.and_true]
    rcases hmark with rfl | rfl <;> rcases hsign with ⟨rfl, rfl⟩ | ⟨rfl, rfl⟩ | ⟨rfl, rfl⟩ <;> rfl

theorem all_isWordChar_of_unsigned {negative : Bool} {n : Numeral} {cs : List Char}
    (h : n.UnsignedSpelling negative cs) : cs.all isWordChar := by
  cases h with
  | integer hwhole hzero hexponent =>
    rw [List.all_append, all_isWordChar_of_digits hwhole, all_isWordChar_of_exponent hexponent]
    rfl
  | fraction hwhole hzero hfraction hexponent =>
    rw [List.all_append, List.all_cons, List.all_append, all_isWordChar_of_digits hwhole,
      all_isWordChar_of_digits hfraction, all_isWordChar_of_exponent hexponent]
    rfl

theorem WordSpelling.all_isWordChar {t : Token} {cs : List Char} (h : WordSpelling t cs) :
    cs.all isWordChar := by
  cases h with
  | null => rfl
  | true => rfl
  | false => rfl
  | number h =>
    cases h with
    | unsigned h => exact all_isWordChar_of_unsigned h
    | signed h =>
      rw [List.all_cons, all_isWordChar_of_unsigned h]
      rfl

theorem WordSpelling.ne_nil {t : Token} {cs : List Char} (h : WordSpelling t cs) : cs ≠ [] := by
  rintro rfl
  have hnone := ofWord?_eq_some_iff.2 h
  contradiction

theorem scanFrom_hex {cs : List Char} {ds : List Nat}
    (h : List.Forall₂ (fun c d => Text.hexValue? c = some d) cs ds) (hne : cs ≠ []) (done : Literal)
    (value : Nat) (out : List Token) (marks : List (Option Char)) :
    scanFrom (.hex done cs.length value) out (cs.map some ++ marks) =
      scanFrom (.text (.codeUnit (ds.foldl (fun v d => v * 16 + d) value) :: done)) out marks := by
  induction h generalizing value with
  | nil => exact absurd rfl hne
  | @cons c d cs ds hd hds ih =>
    cases cs with
    | nil =>
      have hstep : scanChar (.hex done 1 value) (some c) =
          some (.text (.codeUnit (value * 16 + d) :: done), []) := by
        simp only [scanChar, hd, Option.bind_eq_bind, Option.bind_some, Nat.le_refl, if_true]
      obtain rfl := List.forall₂_nil_left_iff.1 hds
      exact scanFrom_cons_of_eq hstep out marks
    | cons c' cs =>
      have hstep : scanChar (.hex done (c :: c' :: cs).length value) (some c) =
          some (.hex done (c' :: cs).length (value * 16 + d), []) := by
        have hlength : ¬(c :: c' :: cs).length ≤ 1 := by simp only [List.length_cons]; omega
        simp only [scanChar, hd, Option.bind_eq_bind, Option.bind_some, if_neg hlength]
        rfl
      rw [List.map_cons, List.cons_append, scanFrom_cons_of_eq hstep]
      exact ih (List.cons_ne_nil c' cs) _

theorem scanFrom_piece {p : Piece} {front : List (Option Char)} (h : p.Spelling front)
    (done : Literal) (out : List Token) (marks : List (Option Char)) :
    scanFrom (.text done) out (front ++ marks) = scanFrom (.text (p :: done)) out marks := by
  cases h with
  | char hquote hbackslash hcontrol =>
    simp only [List.singleton_append, scanFrom, scanChar, if_neg hquote, if_neg hbackslash,
      if_neg (Nat.not_lt.2 hcontrol), List.reverse_nil, List.nil_append]
  | @escape c d h =>
    have hd := Piece.escaped?_eq_some_iff.2 h
    have hu : c ≠ 'u' := by
      rintro rfl
      contradiction
    simp only [List.cons_append, List.nil_append, scanFrom, scanChar,
      if_neg (show ¬('\\' : Char) = '"' by decide), if_true, if_neg hu, hd, Option.map_some,
      List.reverse_nil]
  | @codeUnit cs n hlength h =>
    obtain ⟨ds, hds, rfl⟩ := h
    have hbackslash : scanChar (.text done) (some '\\') = some (.escape done, []) := rfl
    have hu : scanChar (.escape done) (some 'u') = some (.hex done 4 0, []) := rfl
    have hne : cs ≠ [] := List.ne_nil_of_length_pos (by omega)
    rw [List.cons_append, scanFrom_cons_of_eq hbackslash, List.cons_append,
      scanFrom_cons_of_eq hu, ← hlength]
    exact scanFrom_hex hds hne done 0 out marks
  | stray => rfl

theorem scanFrom_literal {l : Literal} {body : List (Option Char)} (h : l.Spelling body)
    (done : Literal) (out : List Token) (marks : List (Option Char)) :
    scanFrom (.text done) out (body ++ marks) = scanFrom (.text (l.reverse ++ done)) out marks := by
  induction h generalizing done with
  | nil => rfl
  | cons hp hl ih =>
    rw [List.append_assoc, scanFrom_piece hp, ih, List.reverse_cons, List.append_assoc,
      List.singleton_append]

theorem finish_scanFrom_of_spells (h : Spells marks ts) (out : List Token) :
    (scanFrom .ground out marks).bind finish = some (out.reverse ++ ts) := by
  induction h generalizing out with
  | nil =>
    rw [List.append_nil]
    rfl
  | @space c marks ts hc h ih =>
    have hstep : scanChar .ground (some c) = some (.ground, []) := by
      simp only [List.mem_cons, List.not_mem_nil, or_false] at hc
      rcases hc with rfl | rfl | rfl | rfl <;> rfl
    rw [scanFrom_cons_of_eq hstep]
    exact ih out
  | @mark c t marks ts hc h ih =>
    have hstep : scanChar .ground (some c) = some (.ground, [t]) := by
      simp only [punctuation, List.mem_cons, Prod.mk.injEq, List.not_mem_nil, or_false] at hc
      rcases hc with h | h | h | h | h | h <;>
        · obtain ⟨rfl, rfl⟩ := h
          rfl
    rw [scanFrom_cons_of_eq hstep, ih, List.reverse_append, List.reverse_reverse, List.append_assoc,
      List.singleton_append]
  | word ht hend h ih =>
    rw [emits_word ht.ne_nil ht.all_isWordChar (ofWord?_eq_some_iff.2 ht) out _ hend, ih,
      List.reverse_append, List.reverse_reverse, List.append_assoc, List.singleton_append]
  | text hl h ih =>
    have hopen : scanChar .ground (some '"') = some (.text [], []) := rfl
    have hclose (done : Literal) : scanChar (.text done) (some '"') =
        some (.ground, [.text done.reverse]) := rfl
    rw [scanFrom_cons_of_eq hopen, scanFrom_literal hl, scanFrom_cons_of_eq (hclose _), ih,
      List.append_nil, List.reverse_reverse, List.reverse_append, List.reverse_reverse,
      List.append_assoc, List.singleton_append]
    rfl

/-- A string that began with the pieces goes on with the text, and then come the other tokens. -/
def SpellsText (done : Literal) (marks : List (Option Char)) (ts : List Token) : Prop :=
  ∃ l body rest us, marks = body ++ some '"' :: rest ∧ l.Spelling body ∧ Spells rest us ∧
    ts = .text (done.reverse ++ l) :: us

/-- What the text has to be for the tokens to follow from the state. An unfinished escape counts as
if it were put back. -/
def Resumes : Scan → List (Option Char) → List Token → Prop
  | .ground, marks, ts => Spells marks ts
  | .word done, marks, ts =>
    ∃ cs t rest us, marks = cs.map some ++ rest ∧ EndsWord rest ∧
    WordSpelling t (done.reverse ++ cs) ∧ Spells rest us ∧
      ts = t :: us
  | .text done, marks, ts => SpellsText done marks ts
  | .escape done, marks, ts => SpellsText done (some '\\' :: marks) ts
  | .hex done left value, marks, ts =>
    ∀ given ds, 0 < left → given.length + left = 4 →
    List.Forall₂ (fun c d => Text.hexValue? c = some d) given ds →
      ds.foldl (fun v d => v * 16 + d) 0 = value →
        SpellsText done (some '\\' :: some 'u' :: (given.map some ++ marks)) ts

theorem SpellsText.cons {p : Piece} {front : List (Option Char)} {done : Literal}
    (hp : p.Spelling front) (h : SpellsText (p :: done) marks ts) :
    SpellsText done (front ++ marks) ts := by
  obtain ⟨l, body, rest, us, rfl, hl, hrest, rfl⟩ := h
  refine ⟨p :: l, front ++ body, rest, us, (List.append_assoc ..).symm, .cons hp hl, hrest, ?_⟩
  rw [List.reverse_cons, List.append_assoc, List.singleton_append]

theorem spells_of_scanGround {c : Char} {next : Scan} {emitted : List Token}
    (h : scanGround c = some (next, emitted)) (hr : Resumes next marks ts) :
    Spells (some c :: marks) (emitted ++ ts) := by
  unfold scanGround at h
  split at h
  · rename_i hspace
    cases h
    refine .space ?_ hr
    simp only [isSpace, Bool.or_eq_true, beq_iff_eq] at hspace
    simp only [List.mem_cons, List.not_mem_nil, or_false]
    tauto
  split at h
  · rename_i hquote
    cases h
    obtain ⟨l, body, rest, us, rfl, hl, hrest, rfl⟩ := hr
    exact hquote ▸ .text hl hrest
  split at h
  · cases h
    obtain ⟨cs, t, rest, us, rfl, hend, ht, hrest, rfl⟩ := hr
    have hword : WordSpelling t (c :: cs) := ht
    exact .word hword hend hrest
  iterate 6
    split at h
    · rename_i hc
      cases h
      subst hc
      exact .mark (by decide) hr
  contradiction

theorem resumes_word {c : Char} {done : List Char} {next : Scan} {emitted : List Token}
    (h : scanChar (.word done) (some c) = some (next, emitted)) (hr : Resumes next marks ts) :
    Resumes (.word done) (some c :: marks) (emitted ++ ts) := by
  simp only [scanChar] at h
  split at h
  · cases h
    obtain ⟨cs, t, rest, us, rfl, hend, ht, hrest, rfl⟩ := hr
    rw [List.reverse_cons, List.append_assoc] at ht
    exact ⟨c :: cs, t, rest, us, rfl, hend, ht, hrest, rfl⟩
  · rename_i hc
    simp only [Option.bind_eq_bind, Option.bind_eq_some_iff, Option.some.injEq, Prod.mk.injEq] at h
    obtain ⟨t, ht, ⟨state, tokens⟩, hground, rfl, rfl⟩ := h
    have hend : EndsWord (some c :: marks) := by
      intro d hd
      cases hd
      exact Bool.eq_false_of_not_eq_true hc
    refine ⟨[], t, some c :: marks, tokens ++ ts, rfl, hend, ?_,
      spells_of_scanGround hground hr, rfl⟩
    rw [List.append_nil]
    exact ofWord?_eq_some_iff.1 ht

theorem resumes_text {c : Char} {done : Literal} {next : Scan} {emitted : List Token}
    (h : scanChar (.text done) (some c) = some (next, emitted)) (hr : Resumes next marks ts) :
    Resumes (.text done) (some c :: marks) (emitted ++ ts) := by
  simp only [scanChar] at h
  split at h
  · rename_i hquote
    cases h
    refine ⟨[], [], marks, ts, hquote ▸ rfl, .nil, hr, ?_⟩
    rw [List.append_nil]
    rfl
  split at h
  · rename_i hbackslash
    cases h
    exact hbackslash ▸ hr
  split at h
  · contradiction
  · rename_i hquote hbackslash hcontrol
    cases h
    exact SpellsText.cons (.char hquote hbackslash (Nat.not_lt.1 hcontrol)) hr

theorem resumes_escape {c : Char} {done : Literal} {next : Scan} {emitted : List Token}
    (h : scanChar (.escape done) (some c) = some (next, emitted)) (hr : Resumes next marks ts) :
    Resumes (.escape done) (some c :: marks) (emitted ++ ts) := by
  simp only [scanChar] at h
  split at h
  · rename_i hu
    cases h
    exact hu ▸ hr [] [] (by decide) rfl .nil rfl
  · obtain ⟨d, hd, heq⟩ := Option.map_eq_some_iff.1 h
    cases heq
    exact SpellsText.cons (.escape (Piece.escaped?_eq_some_iff.1 hd)) hr

theorem resumes_hex {c : Char} {done : Literal} {left value : Nat} {next : Scan}
    {emitted : List Token} (h : scanChar (.hex done left value) (some c) = some (next, emitted))
    (hr : Resumes next marks ts) :
    Resumes (.hex done left value) (some c :: marks) (emitted ++ ts) := by
  simp only [scanChar, Option.bind_eq_bind, Option.bind_eq_some_iff] at h
  obtain ⟨d, hd, h⟩ := h
  intro given ds hpos hlength hds hvalue
  have hmore : List.Forall₂ (fun c d => Text.hexValue? c = some d) (given ++ [c]) (ds ++ [d]) :=
    List.rel_append hds (.cons hd .nil)
  have hfold : (ds ++ [d]).foldl (fun v d => v * 16 + d) 0 = value * 16 + d := by
    rw [List.foldl_append, hvalue]
    rfl
  have hput : given.map some ++ some c :: marks = (given ++ [c]).map some ++ marks := by
    rw [List.map_append, List.append_assoc]
    rfl
  rw [hput]
  split at h
  · rename_i hlast
    cases h
    have hfour : (given ++ [c]).length = 4 := by
      rw [List.length_append, List.length_singleton]
      omega
    exact SpellsText.cons (.codeUnit hfour ⟨ds ++ [d], hmore, hfold.symm⟩) hr
  · cases h
    refine hr (given ++ [c]) (ds ++ [d]) (by omega) ?_ hmore hfold
    rw [List.length_append, List.length_singleton]
    omega

theorem resumes_of_scanChar {state next : Scan} {mark : Option Char} {emitted : List Token}
    (h : scanChar state mark = some (next, emitted)) (hr : Resumes next marks ts) :
    Resumes state (mark :: marks) (emitted ++ ts) := by
  cases mark with
  | none =>
    cases state with
    | text done =>
      cases h
      exact SpellsText.cons .stray hr
    | _ => contradiction
  | some c =>
    cases state with
    | ground => exact spells_of_scanGround h hr
    | word done => exact resumes_word h hr
    | text done => exact resumes_text h hr
    | escape done => exact resumes_escape h hr
    | hex done left value => exact resumes_hex h hr

theorem resumes_of_finish {state : Scan} {out us : List Token} (h : finish (state, out) = some us) :
    ∃ ts, us = out.reverse ++ ts ∧ Resumes state [] ts := by
  cases state with
  | ground =>
    cases h
    exact ⟨[], (List.append_nil _).symm, .nil⟩
  | word done =>
    obtain ⟨t, ht, rfl⟩ := Option.map_eq_some_iff.1 h
    refine ⟨[t], List.reverse_cons, [], t, [], [], rfl, fun c hc => by contradiction, ?_, .nil, rfl⟩
    rw [List.append_nil]
    exact ofWord?_eq_some_iff.1 ht
  | _ => contradiction

theorem resumes_of_scanFrom {state : Scan} {out us : List Token}
    (h : (scanFrom state out marks).bind finish = some us) :
    ∃ ts, us = out.reverse ++ ts ∧ Resumes state marks ts := by
  induction marks generalizing state out with
  | nil => exact resumes_of_finish h
  | cons mark marks ih =>
    rw [scanFrom] at h
    split at h
    · contradiction
    · rename_i next emitted hstep
      obtain ⟨ts, rfl, hts⟩ := ih h
      refine ⟨emitted ++ ts, ?_, resumes_of_scanChar hstep hts⟩
      rw [List.reverse_append, List.reverse_reverse, List.append_assoc]

/-- The scanner gives the tokens that the text consists of. -/
theorem scan_eq_some_iff : scan marks = some ts ↔ Spells marks ts := by
  rw [scan_eq_finish]
  constructor
  · intro h
    obtain ⟨us, rfl, hus⟩ := resumes_of_scanFrom h
    exact hus
  · intro h
    exact finish_scanFrom_of_spells h []

end Token

end ExportLedger.Json
