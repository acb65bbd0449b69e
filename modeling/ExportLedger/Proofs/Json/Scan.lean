import Mathlib.Data.List.TakeWhile
import ExportLedger.Json.Token
import ExportLedger.Proofs.Text.Decimal
/-!
What the scanner makes of printed text. A word ends only where another character comes, so a text is
judged together with what follows it.
-/
namespace ExportLedger.Json

namespace Literal

/-- How a printed character is scanned: control characters without an escape of their own come back
as code units. -/
def piece (c : Char) : Piece :=
  if c.toNat < 0x20 ∧ c ∉ ['\x08', '\x0c', '\n', '\r', '\t'] then .codeUnit c.toNat else .char c

def ofString (s : String) : Literal := s.toList.map piece

theorem decode?_codeUnit {n : Nat} (hhigh : isHighSurrogate n = false)
    (hlow : isLowSurrogate n = false) (l : Literal) :
    decode? (.codeUnit n :: l) = (decode? l).map (Char.ofNat n :: ·) := by
  rw [decode?.eq_def]
  simp only [hhigh, hlow, Bool.false_eq_true, if_false]

theorem decode?_map_piece (cs : List Char) : decode? (cs.map piece) = some cs := by
  induction cs with
  | nil => rfl
  | cons c cs ih =>
    rw [List.map_cons]
    by_cases hc : c.toNat < 0x20 ∧ c ∉ ['\x08', '\x0c', '\n', '\r', '\t']
    · have hhigh : isHighSurrogate c.toNat = false := by
        simp only [isHighSurrogate, Bool.and_eq_false_iff, decide_eq_false_iff_not]
        omega
      have hlow : isLowSurrogate c.toNat = false := by
        simp only [isLowSurrogate, Bool.and_eq_false_iff, decide_eq_false_iff_not]
        omega
      rw [piece, if_pos hc, decode?_codeUnit hhigh hlow, ih, Option.map_some, Char.ofNat_toNat]
    · rw [piece, if_neg hc]
      rw [decode?, ih, Option.map_some]

@[simp] theorem text?_ofString (s : String) : text? (ofString s) = some s := by
  rw [text?, ofString, decode?_map_piece, Option.map_some, String.ofList_toList]

end Literal

namespace Token

/-- What a scan amounts to at the end of the text. -/
def finish : Scan × List Token → Option (List Token)
  | (.ground, done) => some done.reverse
  | (.word cs, done) => (ofWord? cs.reverse).map fun t => (t :: done).reverse
  | _ => none

theorem scan_eq_finish (marks : List (Option Char)) :
    scan marks = (scanFrom .ground [] marks).bind finish := by
  unfold scan finish
  cases scanFrom .ground [] marks with
  | none => rfl
  | some r =>
    obtain ⟨state, done⟩ := r
    cases state <;> rfl

theorem scanFrom_cons_of_eq {state next : Scan} {mark : Option Char} {ts : List Token}
    (h : scanChar state mark = some (next, ts)) (out : List Token) (marks : List (Option Char)) :
    scanFrom state out (mark :: marks) = scanFrom next (ts.reverse ++ out) marks := by
  rw [scanFrom, h]

/-- No word goes on here. -/
def EndsWord (marks : List (Option Char)) : Prop :=
  ∀ c, marks.head? = some (some c) → isWordChar c = false

/-- Between tokens, the text is scanned as these tokens, whatever follows that does not go on with a
word. -/
def Emits (cs : List Char) (ts : List Token) : Prop :=
  ∀ out marks, EndsWord marks →
    (scanFrom .ground out (cs.map some ++ marks)).bind finish =
      (scanFrom .ground (ts.reverse ++ out) marks).bind finish

theorem scan_of_emits {cs : List Char} {ts : List Token} (h : Emits cs ts) :
    scan (cs.map some) = some ts := by
  have hend := h [] [] fun c hc => by simp at hc
  rw [List.append_nil] at hend
  rw [scan_eq_finish, hend, List.append_nil, scanFrom, Option.bind_some, finish,
    List.reverse_reverse]

theorem Emits.append {cs ds : List Char} {ts us : List Token} (hc : Emits cs ts) (hd : Emits ds us)
    (hword : ∀ c, ds.head? = some c → isWordChar c = false) : Emits (cs ++ ds) (ts ++ us) := by
  intro out marks hm
  have hnext : EndsWord (ds.map some ++ marks) := by
    intro c hh
    cases ds with
    | nil => exact hm c hh
    | cons d ds => exact hword c (by simpa using hh)
  rw [List.map_append, List.append_assoc, hc _ _ hnext, hd _ _ hm, List.reverse_append,
    List.append_assoc]

theorem emits_nil : Emits [] [] := fun _ _ _ => rfl

/-- A single character that leaves the scanner between tokens. -/
theorem Emits.mark_cons {c : Char} {t us : List Token} {cs : List Char}
    (hc : scanGround c = some (.ground, t)) (h : Emits cs us) : Emits (c :: cs) (t ++ us) := by
  intro out marks hm
  have hstep : scanChar .ground (some c) = some (.ground, t) := hc
  rw [List.map_cons, List.cons_append, scanFrom_cons_of_eq hstep, h _ _ hm, List.reverse_append,
    List.append_assoc]

theorem Emits.spaces_append {us : List Token} {cs : List Char} (h : Emits cs us) (n : Nat) :
    Emits (List.replicate n ' ' ++ cs) us := by
  induction n with
  | zero => exact h
  | succ n ih => exact Emits.mark_cons (c := ' ') (t := []) rfl ih

theorem isWordChar_of_isDigit {c : Char} (h : c.isDigit) : isWordChar c := by
  simp [isWordChar, Char.isAlphanum, h]

theorem scanGround_of_isWordChar {c : Char} (h : isWordChar c) :
    scanGround c = some (.word [c], []) := by
  have hspace : isSpace c = false := by
    simp only [isSpace, Bool.or_eq_false_iff, beq_eq_false_iff_ne]
    refine ⟨⟨⟨?_, ?_⟩, ?_⟩, ?_⟩ <;> · rintro rfl; revert h; decide
  have hquote : c ≠ '"' := by
    rintro rfl
    revert h
    decide
  simp only [scanGround, hspace, Bool.false_eq_true, if_false, hquote, h, if_true]

theorem scanFrom_word {cs : List Char} (hcs : cs.all isWordChar) (done : List Char)
    (out : List Token) (marks : List (Option Char)) :
    scanFrom (.word done) out (cs.map some ++ marks) =
      scanFrom (.word (cs.reverse ++ done)) out marks := by
  induction cs generalizing done with
  | nil => rfl
  | cons c cs ih =>
    rw [List.all_cons, Bool.and_eq_true] at hcs
    have hstep : scanChar (.word done) (some c) = some (.word (c :: done), []) := by
      simp only [scanChar, hcs.1, if_true]
    rw [List.map_cons, List.cons_append, scanFrom_cons_of_eq hstep, List.reverse_nil,
      List.nil_append, ih hcs.2, List.reverse_cons, List.append_assoc, List.singleton_append]

/-- The character after a word completes it, and is then scanned as if it stood between tokens. -/
theorem finish_scanFrom_word {w : List Char} {t : Token} (ht : ofWord? w = some t)
    {out : List Token} {marks : List (Option Char)} (hm : EndsWord marks) :
    (scanFrom (.word w.reverse) out marks).bind finish =
      (scanFrom .ground (t :: out) marks).bind finish := by
  cases marks with
  | nil =>
    simp only [scanFrom, Option.bind_some, finish, List.reverse_reverse, ht, Option.map_some]
  | cons mark marks =>
    cases mark with
    | none => rfl
    | some c =>
      have hc := hm c rfl
      simp only [scanFrom, scanChar, hc, Bool.false_eq_true, if_false, List.reverse_reverse, ht,
        Option.bind_eq_bind, Option.bind_some]
      cases scanGround c with
      | none => rfl
      | some r => simp

theorem emits_word {w : List Char} {t : Token} (hne : w ≠ []) (hw : w.all isWordChar)
    (ht : ofWord? w = some t) : Emits w [t] := by
  intro out marks hm
  cases w with
  | nil => exact absurd rfl hne
  | cons c cs =>
    have hcs := hw
    rw [List.all_cons, Bool.and_eq_true] at hcs
    have hstep : scanChar .ground (some c) = some (.word [c], []) := scanGround_of_isWordChar hcs.1
    rw [List.map_cons, List.cons_append, scanFrom_cons_of_eq hstep, List.reverse_nil,
      List.nil_append, scanFrom_word hcs.2, ← List.reverse_cons, finish_scanFrom_word ht hm,
      List.reverse_singleton, List.singleton_append]

theorem hexValue?_digitChar : ∀ n < 16, Text.hexValue? (Nat.digitChar n) = some n := by decide

theorem scanFrom_escapeChar (c : Char) (done : Literal) (out : List Token)
    (marks : List (Option Char)) :
    scanFrom (.text done) out ((escapeChar c).map some ++ marks) =
      scanFrom (.text (Literal.piece c :: done)) out marks := by
  unfold escapeChar
  split
  · subst_vars; rfl
  split
  · subst_vars; rfl
  split
  · subst_vars; rfl
  split
  · subst_vars; rfl
  split
  · subst_vars; rfl
  split
  · subst_vars; rfl
  split
  · subst_vars; rfl
  rename_i hquote hbackslash hb hf hn hr ht
  have hshort : c ∉ ['\x08', '\x0c', '\n', '\r', '\t'] := by
    simp only [List.mem_cons, List.not_mem_nil, or_false, not_or]
    exact ⟨hb, hf, hn, hr, ht⟩
  split
  · rename_i hcontrol
    have hhigh := hexValue?_digitChar (c.toNat / 16) (by omega)
    have hlow := hexValue?_digitChar (c.toNat % 16) (by omega)
    have hunit : (0 * 16 + c.toNat / 16) * 16 + c.toNat % 16 = c.toNat := by omega
    have hzero : Text.hexValue? '0' = some 0 := rfl
    simp only [List.map_cons, List.map_nil, List.cons_append, List.nil_append, scanFrom, scanChar,
      if_neg (show ¬('\\' : Char) = '"' by decide), if_true, hzero, hhigh, hlow,
      Option.bind_eq_bind, Option.bind_some, Nat.reduceLeDiff, if_false, Nat.reduceSub, Nat.le_refl,
      List.reverse_nil, Nat.reduceMul, Nat.reduceAdd, Literal.piece,
      if_pos (And.intro hcontrol hshort), hunit]
  · rename_i hcontrol
    have hpiece : Literal.piece c = .char c := if_neg fun h => hcontrol h.1
    simp only [List.map_cons, List.map_nil, List.cons_append, List.nil_append, scanFrom, scanChar,
      if_neg hquote, if_neg hbackslash, if_neg hcontrol, hpiece, List.reverse_nil]

theorem scanFrom_escaped (cs : List Char) (done : Literal) (out : List Token)
    (marks : List (Option Char)) :
    scanFrom (.text done) out ((cs.flatMap escapeChar).map some ++ marks) =
      scanFrom (.text ((cs.map Literal.piece).reverse ++ done)) out marks := by
  induction cs generalizing done with
  | nil => rfl
  | cons c cs ih =>
    rw [List.flatMap_cons, List.map_append, List.append_assoc, scanFrom_escapeChar, ih,
      List.map_cons, List.reverse_cons, List.append_assoc, List.singleton_append]

theorem emits_quote (s : String) : Emits (quote s) [.text (Literal.ofString s)] := by
  intro out marks _
  have hopen : scanChar .ground (some '"') = some (.text [], []) := rfl
  have hclose (done : Literal) :
      scanChar (.text done) (some '"') = some (.ground, [.text done.reverse]) := rfl
  rw [quote, List.cons_append, List.map_cons, List.cons_append, scanFrom_cons_of_eq hopen,
    List.reverse_nil, List.nil_append, List.map_append, List.append_assoc, scanFrom_escaped,
    List.append_nil, List.map_cons, List.map_nil, List.cons_append, scanFrom_cons_of_eq (hclose _),
    List.reverse_reverse, List.nil_append, Literal.ofString]

theorem ofChars?_digits (n : Nat) : Numeral.ofChars? (Decimal.digits n) = some (.ofNat n) := by
  have hall := Decimal.all_isDigit_digits n
  have htake : (Decimal.digits n).takeWhile Char.isDigit = Decimal.digits n :=
    List.takeWhile_eq_self_iff.2 (List.all_eq_true.1 hall)
  have hdrop : (Decimal.digits n).dropWhile Char.isDigit = [] :=
    List.dropWhile_eq_nil_iff.2 (List.all_eq_true.1 hall)
  have hzero : ¬(Decimal.digits n = [] ∨
      ((Decimal.digits n).head? = some '0' ∧ (Decimal.digits n).length ≠ 1)) := by
    rintro (h | ⟨h, hlen⟩)
    · exact Decimal.digits_ne_nil n h
    · exact hlen (Decimal.length_digits_of_head_zero h)
  have hread : Numeral.unsigned? false (Decimal.digits n) = some (.ofNat n) := by
    simp only [Numeral.unsigned?, htake, hdrop, if_neg hzero, Numeral.exponent?, Option.map_some,
      Numeral.ofNat]
  unfold Numeral.ofChars?
  split
  · rename_i cs hcs
    have : ('-' : Char).isDigit := Decimal.isDigit_of_mem_digits (n := n) (hcs ▸ List.mem_cons_self)
    exact absurd this (by decide)
  · exact hread

theorem text_ofNat (n : Nat) : (Numeral.ofNat n).text = Decimal.digits n := by
  simp [Numeral.text, Numeral.ofNat]

theorem ofWord?_digits (n : Nat) : ofWord? (Decimal.digits n) = some (.number (.ofNat n)) := by
  have hdigit (c : Char) (cs : List Char) (hc : c.isDigit = false) :
      Decimal.digits n ≠ c :: cs := by
    intro h
    have := Decimal.isDigit_of_mem_digits (n := n) (h ▸ List.mem_cons_self)
    rw [hc] at this
    contradiction
  rw [ofWord?, if_neg (hdigit _ _ rfl), if_neg (hdigit _ _ rfl), if_neg (hdigit _ _ rfl),
    ofChars?_digits, Option.map_some]

theorem emits_number (n : Nat) : Emits (Numeral.ofNat n).text [.number (.ofNat n)] := by
  rw [text_ofNat]
  refine emits_word (Decimal.digits_ne_nil n) ?_ (ofWord?_digits n)
  exact List.all_eq_true.2 fun c hc => isWordChar_of_isDigit (Decimal.isDigit_of_mem_digits hc)

end Token

end ExportLedger.Json
