import ExportLedger.Proofs.Json.Fields
import ExportLedger.Proofs.Json.Lexis
import ExportLedger.Proofs.Json.Parse
import ExportLedger.Proofs.Text.Utf8
/-!
Which bytes are read as a JSON value: those of a text that spells a document with this value, and no
others. Bytes that are part of no character can stand in a string only, and then the string has no
value.
-/
namespace ExportLedger.Json

theorem Literal.stray_not_mem {l : Literal} {s : String} (h : l.text? = some s) :
    Piece.stray ∉ l := by
  obtain ⟨cs, hcs, -⟩ := Option.map_eq_some_iff.1 h
  clear h
  fun_induction decode? l generalizing cs with
  | case1 => exact List.not_mem_nil
  | case3 c rest ih =>
    obtain ⟨ds, hds, -⟩ := Option.map_eq_some_iff.1 hcs
    exact List.not_mem_cons_of_ne_of_not_mem nofun (ih ds hds)
  | case4 high hhigh low rest hlow ih =>
    obtain ⟨ds, hds, -⟩ := Option.map_eq_some_iff.1 hcs
    exact List.not_mem_cons_of_ne_of_not_mem nofun
      (List.not_mem_cons_of_ne_of_not_mem nofun (ih ds hds))
  | case8 n rest hhigh hlow ih =>
    obtain ⟨ds, hds, -⟩ := Option.map_eq_some_iff.1 hcs
    exact List.not_mem_cons_of_ne_of_not_mem nofun (ih ds hds)
  | _ => contradiction

namespace Token

variable {marks : List (Option Char)} {ts : List Token}

theorem exists_chars_of_piece {p : Piece} (h : p.Spelling marks) (hp : p ≠ .stray) :
    ∃ cs : List Char, marks = cs.map some := by
  cases h with
  | @char c => exact ⟨[c], rfl⟩
  | @escape c d => exact ⟨['\\', c], rfl⟩
  | @codeUnit cs n => exact ⟨'\\' :: 'u' :: cs, rfl⟩
  | stray => exact absurd rfl hp

theorem exists_chars_of_literal {l : Literal} (h : l.Spelling marks) (hl : Piece.stray ∉ l) :
    ∃ cs : List Char, marks = cs.map some := by
  induction h with
  | nil => exact ⟨[], rfl⟩
  | cons hp _ ih =>
    rw [List.mem_cons, not_or] at hl
    obtain ⟨front, rfl⟩ := exists_chars_of_piece hp (Ne.symm hl.1)
    obtain ⟨back, rfl⟩ := ih hl.2
    exact ⟨front ++ back, List.map_append.symm⟩

/-- Only strings can hold stray bytes. -/
theorem exists_chars_of_spells (h : Spells marks ts) (hts : ∀ l, text l ∈ ts → Piece.stray ∉ l) :
    ∃ cs : List Char, marks = cs.map some := by
  induction h with
  | nil => exact ⟨[], rfl⟩
  | @space c _ _ _ _ ih =>
    obtain ⟨cs, rfl⟩ := ih hts
    exact ⟨c :: cs, rfl⟩
  | @mark c _ _ _ _ _ ih =>
    obtain ⟨cs, rfl⟩ := ih fun l hl => hts l (List.mem_cons_of_mem _ hl)
    exact ⟨c :: cs, rfl⟩
  | @word _ front _ _ _ _ _ ih =>
    obtain ⟨cs, rfl⟩ := ih fun l hl => hts l (List.mem_cons_of_mem _ hl)
    exact ⟨front ++ cs, List.map_append.symm⟩
  | @text l _ _ _ hl _ ih =>
    obtain ⟨body, rfl⟩ := exists_chars_of_literal hl (hts l List.mem_cons_self)
    obtain ⟨cs, rfl⟩ := ih fun l hl => hts l (List.mem_cons_of_mem _ hl)
    refine ⟨'"' :: (body ++ '"' :: cs), ?_⟩
    rw [List.map_cons, List.map_append, List.map_cons]

end Token

namespace Document

theorem mem_itemTokens {l : Literal} {ds : List Document} (h : Token.text l ∈ itemTokens ds) :
    ∃ d ∈ ds, Token.text l ∈ d.tokens := by
  induction ds with
  | nil => contradiction
  | cons d ds ih =>
    cases ds with
    | nil => exact ⟨d, List.mem_cons_self, h⟩
    | cons e es =>
      rw [itemTokens.eq_3 _ _ (List.cons_ne_nil e es), List.mem_append, List.mem_cons] at h
      rcases h with h | h | h
      · exact ⟨d, List.mem_cons_self, h⟩
      · contradiction
      · obtain ⟨x, hx, hl⟩ := ih h
        exact ⟨x, List.mem_cons_of_mem d hx, hl⟩

theorem mem_memberTokens {l : Literal} {ms : List (Literal × Document)}
    (h : Token.text l ∈ memberTokens ms) :
    ∃ m ∈ ms, l = m.1 ∨ Token.text l ∈ m.2.tokens := by
  induction ms with
  | nil => contradiction
  | cons m ms ih =>
    obtain ⟨k, d⟩ := m
    cases ms with
    | nil =>
      rw [memberTokens, List.mem_cons, List.mem_cons, Token.text.injEq] at h
      rcases h with h | h | h
      · exact ⟨_, List.mem_cons_self, .inl h⟩
      · contradiction
      · exact ⟨_, List.mem_cons_self, .inr h⟩
    | cons e es =>
      rw [memberTokens.eq_3 _ _ _ (List.cons_ne_nil e es)] at h
      simp only [List.mem_cons, List.mem_append, List.cons_append, Token.text.injEq, reduceCtorEq,
        false_or] at h
      rcases h with h | h | h
      · exact ⟨_, List.mem_cons_self, .inl h⟩
      · exact ⟨_, List.mem_cons_self, .inr h⟩
      · obtain ⟨x, hx, hl⟩ := ih h
        exact ⟨x, List.mem_cons_of_mem _ hx, hl⟩

theorem exists_of_mapM {f : α → Option β} {l : List α} {bs : List β} (h : l.mapM f = some bs)
    {a : α} (ha : a ∈ l) :
    ∃ b, f a = some b := by
  induction mapM_eq_some_iff.1 h with
  | nil => contradiction
  | cons hb hbs ih =>
    rcases List.mem_cons.1 ha with rfl | ha
    · exact ⟨_, hb⟩
    · exact ih (mapM_eq_some_iff.2 hbs) ha

theorem exists_text?_of_value? {limit : Nat} {d : Document} {v : Value}
    (h : value? limit d = some v) {l : Literal} (hl : Token.text l ∈ d.tokens) :
    ∃ s, l.text? = some s := by
  cases d with
  | null => contradiction
  | bool b => contradiction
  | number n => contradiction
  | text m =>
    obtain rfl := Token.text.inj (List.mem_singleton.1 hl)
    have htext : value? limit (.text l) = l.text?.map .text := by cases limit <;> rfl
    rw [htext] at h
    obtain ⟨s, hs, -⟩ := Option.map_eq_some_iff.1 h
    exact ⟨s, hs⟩
  | array items =>
    cases limit with
    | zero => contradiction
    | succ limit =>
      obtain ⟨values, hvalues, -⟩ := Option.map_eq_some_iff.1 h
      simp only [tokens, List.mem_append, List.mem_cons, List.not_mem_nil, reduceCtorEq, false_or,
        or_false] at hl
      obtain ⟨d, hd, hl⟩ := mem_itemTokens hl
      obtain ⟨v, hv⟩ := exists_of_mapM hvalues hd
      exact exists_text?_of_value? hv hl
  | object members =>
    cases limit with
    | zero => contradiction
    | succ limit =>
      obtain ⟨values, hvalues, -⟩ := Option.map_eq_some_iff.1 h
      simp only [tokens, List.mem_append, List.mem_cons, List.not_mem_nil, reduceCtorEq, false_or,
        or_false] at hl
      obtain ⟨m, hm, hl⟩ := mem_memberTokens hl
      obtain ⟨named, hnamed⟩ := exists_of_mapM hvalues hm
      simp only [Option.bind_eq_bind, Option.bind_eq_some_iff] at hnamed
      obtain ⟨name, hname, v, hv, -⟩ := hnamed
      rcases hl with rfl | hl
      · exact ⟨name, hname⟩
      · exact exists_text?_of_value? hv hl
termination_by limit

/-- The text consists of the tokens of the document, with white space anywhere between them. -/
def SpelledBy (s : String) (d : Document) : Prop := Token.Spells (s.toList.map some) d.tokens

theorem ofBytes?_eq_some_iff {bytes : ByteArray} {d : Document} :
    ofBytes? bytes = some d ↔ Token.Spells (Text.characters bytes) d.tokens := by
  simp only [ofBytes?, Option.bind_eq_some_iff, Token.scan_eq_some_iff, ofTokens?_eq_some_iff]
  constructor
  · rintro ⟨ts, hts, rfl⟩
    exact hts
  · intro h
    exact ⟨d.tokens, h, rfl⟩

theorem decode?_value?_eq_some_iff {limit : Nat} {bytes : ByteArray} {v : Value} :
    decode? (value? limit) bytes = some v ↔
      ∃ s d, bytes = s.toUTF8 ∧ SpelledBy s d ∧ value? limit d = some v := by
  simp only [decode?, Option.bind_eq_some_iff, ofBytes?_eq_some_iff]
  constructor
  · intro h
    obtain ⟨d, hd, hv⟩ := h
    have hstray (l : Literal) (hl : Token.text l ∈ d.tokens) : Piece.stray ∉ l := by
      obtain ⟨s, hs⟩ := exists_text?_of_value? hv hl
      exact Literal.stray_not_mem hs
    obtain ⟨cs, hcs⟩ := Token.exists_chars_of_spells hd hstray
    have hs : Text.characters bytes =
        (String.ofList cs).toList.map some := by rw [String.toList_ofList, hcs]
    refine ⟨String.ofList cs, d, Text.characters_eq_map_some_iff.1 hs, ?_, hv⟩
    rw [SpelledBy, ← hs]
    exact hd
  · intro h
    obtain ⟨s, d, rfl, hd, hv⟩ := h
    refine ⟨d, ?_, hv⟩
    rw [Text.characters_toUTF8]
    exact hd

end Document

end ExportLedger.Json
