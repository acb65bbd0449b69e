import ExportLedger.Json.Fields
import ExportLedger.Json.Printer
import ExportLedger.Proofs.Json.Parse
import ExportLedger.Proofs.Json.Scan
/-!
JSON values survive printing: both printed forms of a value are read back as that value. The way
leads through the document that the value is written as, whose strings are still in pieces.
-/
namespace ExportLedger.Json

namespace Value

mutual

def written : Value → Document
  | .null => .null
  | .bool b => .bool b
  | .number n => .number n
  | .text s => .text (Literal.ofString s)
  | .array items => .array (writtenItems items)
  | .object members => .object (writtenMembers members)

def writtenItems : List Value → List Document
  | [] => []
  | v :: vs => written v :: writtenItems vs

def writtenMembers : List (String × Value) → List (Literal × Document)
  | [] => []
  | (k, v) :: ms => (Literal.ofString k, written v) :: writtenMembers ms

end

/-- Values that a program writes: nested no deeper than `limit`, and with no numbers but naturals of
64 bits. -/
inductive Plain : Nat → Value → Prop where
  | null (limit : Nat) : Plain limit .null
  | bool (limit : Nat) (b : Bool) : Plain limit (.bool b)
  | number (limit : Nat) {n : Nat} (hn : n < UInt64.size) : Plain limit (.number (.ofNat n))
  | text (limit : Nat) (s : String) : Plain limit (.text s)
  | array {limit : Nat} {items : List Value} (h : ∀ v ∈ items, Plain limit v) :
    Plain (limit + 1) (.array items)
  | object {limit : Nat} {members : List (String × Value)} (h : ∀ m ∈ members, Plain limit m.2) :
    Plain (limit + 1) (.object members)

theorem writtenItems_eq_map (vs : List Value) : writtenItems vs = vs.map written := by
  induction vs with
  | nil => rfl
  | cons v vs ih => rw [writtenItems, ih, List.map_cons]

theorem writtenMembers_eq_map (ms : List (String × Value)) :
    writtenMembers ms = ms.map fun m => (Literal.ofString m.1, written m.2) := by
  induction ms with
  | nil => rfl
  | cons m ms ih => rw [writtenMembers, ih, List.map_cons]

theorem absorb_eq {cs : List Char} (hcs : cs.all Char.isDigit) {m : Nat}
    (hm : Nat.ofDigitChars 10 cs m < UInt64.size) :
    Numeral.absorb m cs = (Nat.ofDigitChars 10 cs m, []) := by
  induction cs generalizing m with
  | nil => rfl
  | cons c cs ih =>
    rw [List.all_cons, Bool.and_eq_true] at hcs
    rw [Nat.ofDigitChars_cons] at hm ⊢
    have hgrow := Decimal.le_ofDigitChars (10 * m + (c.toNat - '0'.toNat)) cs
    rw [Numeral.absorb, Nat.mul_comm m 10, if_pos (Nat.lt_of_le_of_lt hgrow hm), ih hcs.2 hm]

/-- Rounding adds at most one unit of the last place. -/
theorem roundToDouble_le {n : Nat} (hn : n < UInt64.size) : Numeral.roundToDouble n ≤ 2 ^ 65 := by
  have hsize : UInt64.size = 2 ^ 64 := rfl
  unfold Numeral.roundToDouble
  split
  · rename_i h
    exact Nat.le_trans (Nat.le_of_lt h) (by decide)
  · rename_i h
    have hpos : n ≠ 0 := by
      rintro rfl
      exact h (by decide)
    have hlog : n.log2 < 64 := (Nat.log2_lt hpos).2 hn
    have hunit : Nat.pow 2 (n.log2 - 52) ≤ 2 ^ 11 := Nat.pow_le_pow_right (by decide) (by omega)
    have hdiv := Nat.div_mul_le_self n (Nat.pow 2 (n.log2 - 52))
    dsimp only
    split
    · rw [Nat.add_mul, Nat.one_mul]
      omega
    · omega

theorem lt_infinite : 2 ^ 65 < Numeral.infinite := by decide +kernel

theorem overflows_ofNat {n : Nat} (hn : n < UInt64.size) : (Numeral.ofNat n).overflows = false := by
  have hvalue : Nat.ofDigitChars 10 (Decimal.digits n) 0 = n := Decimal.value_digits n
  have hwhole := absorb_eq (Decimal.all_isDigit_digits n) (m := 0) (hvalue.symm ▸ hn)
  have hlimit : ¬Numeral.infinite ≤ Numeral.roundToDouble n *
      Numeral.roundToDouble (Nat.pow 10 0) := by
    have hone : Numeral.roundToDouble (Nat.pow 10 0) = 1 := by decide
    rw [hone, Nat.mul_one]
    exact Nat.not_le.2 (Nat.lt_of_le_of_lt (roundToDouble_le hn) lt_infinite)
  rw [hvalue] at hwhole
  simp only [Numeral.overflows, Numeral.ofNat, hwhole, Numeral.absorb, List.length_nil]
  simpa using fun _ => hlimit

/-- What reads back each element reads back the list. -/
theorem mapM_map_eq_some {g : α → β} {f : β → Option α} {l : List α}
    (h : ∀ a ∈ l, f (g a) = some a) :
    (l.map g).mapM f = some l := by
  induction l with
  | nil => rfl
  | cons a l ih =>
    rw [List.map_cons, List.mapM_cons, h a List.mem_cons_self, Option.bind_eq_bind,
      Option.bind_some, ih fun b hb => h b (List.mem_cons_of_mem a hb)]
    rfl

theorem Plain.value?_written {limit : Nat} {v : Value} (h : Plain limit v) :
    Document.value? limit (written v) = some v := by
  induction h with
  | null limit => cases limit <;> rfl
  | bool limit b => cases limit <;> rfl
  | number limit hn =>
    have hn := overflows_ofNat hn
    cases limit <;> simp only [written, Document.value?, hn, Bool.false_eq_true, if_false]
  | text limit s =>
    cases limit <;> simp only [written, Document.value?, Literal.text?_ofString, Option.map_some]
  | array h ih =>
    rw [written, writtenItems_eq_map, Document.value?, mapM_map_eq_some ih, Option.map_some]
  | object h ih =>
    rw [written, writtenMembers_eq_map, Document.value?, mapM_map_eq_some, Option.map_some]
    intro m hm
    simp only [Literal.text?_ofString, ih m hm, Option.bind_eq_bind, Option.bind_some]

open Token (Emits)

theorem emits_scalarText_null : Emits (scalarText .null) [.null] :=
  Token.emits_word (w := "null".toList) (by decide) (by decide) rfl

theorem emits_scalarText_bool (b : Bool) : Emits (scalarText (.bool b)) [.bool b] := by
  cases b with
  | false => exact Token.emits_word (w := "false".toList) (by decide) (by decide) rfl
  | true => exact Token.emits_word (w := "true".toList) (by decide) (by decide) rfl

/-- Both layouts put commas between items; they differ in what stands around each of them. -/
theorem emits_items (text : List Value → List Char) {chars : Value → List Char}
    (hnil : text [] = []) (hone : ∀ v, text [v] = chars v)
    (hmore : ∀ v w vs, text (v :: w :: vs) = chars v ++ ',' :: text (w :: vs)) {vs : List Value}
    (h : ∀ v ∈ vs, Emits (chars v) (written v).tokens) :
    Emits (text vs) (Document.itemTokens (writtenItems vs)) := by
  induction vs with
  | nil =>
    rw [hnil]
    exact Token.emits_nil
  | cons v vs ih =>
    have hv := h v List.mem_cons_self
    cases vs with
    | nil =>
      rw [hone]
      exact hv
    | cons w ws =>
      have hrest := ih fun x hx => h x (List.mem_cons_of_mem v hx)
      rw [hmore]
      exact hv.append (Emits.mark_cons (t := [.comma]) rfl hrest) fun c hc => by cases hc; rfl

theorem emits_members (text : List (String × Value) → List Char)
    (chars : String × Value → List Char) (hnil : text [] = []) (hone : ∀ m, text [m] = chars m)
    (hmore : ∀ m n ms, text (m :: n :: ms) = chars m ++ ',' :: text (n :: ms))
    {ms : List (String × Value)}
    (h : ∀ m ∈ ms,
      Emits (chars m) (.text (Literal.ofString m.1) :: .colon :: (written m.2).tokens)) :
    Emits (text ms) (Document.memberTokens (writtenMembers ms)) := by
  induction ms with
  | nil =>
    rw [hnil]
    exact Token.emits_nil
  | cons m ms ih =>
    have hm := h m List.mem_cons_self
    cases ms with
    | nil =>
      rw [hone]
      exact hm
    | cons n ns =>
      have hrest := ih fun x hx => h x (List.mem_cons_of_mem m hx)
      rw [hmore]
      exact hm.append (Emits.mark_cons (c := ',') (t := [.comma]) rfl hrest)
        fun c hc => by cases hc; rfl

theorem emits_quote_colon {key : String} {cs : List Char} {ts : List Token} (h : Emits cs ts) :
    Emits (quote key ++ ':' :: cs) (.text (Literal.ofString key) :: .colon :: ts) :=
  (Token.emits_quote key).append (Emits.mark_cons (t := [.colon]) rfl h)
    fun c hc => by cases hc; rfl

theorem emits_brackets {cs : List Char} {ts : List Token} (h : Emits cs (ts ++ [.closeArray])) :
    Emits ('[' :: cs) (.openArray :: ts ++ [.closeArray]) :=
  Emits.mark_cons (c := '[') (t := [.openArray]) rfl h

theorem emits_braces {cs : List Char} {ts : List Token} (h : Emits cs (ts ++ [.closeObject])) :
    Emits ('\x7b' :: cs) (.openObject :: ts ++ [.closeObject]) :=
  Emits.mark_cons (c := '\x7b') (t := [.openObject]) rfl h

theorem Plain.emits_compact {limit : Nat} {v : Value} (h : Plain limit v) :
    Emits (compactChars v) (written v).tokens := by
  induction h with
  | null => exact emits_scalarText_null
  | bool limit b => exact emits_scalarText_bool b
  | number => exact Token.emits_number _
  | text limit s => exact Token.emits_quote s
  | array h ih =>
    have hclose : Emits [']'] [.closeArray] :=
      Emits.mark_cons (t := [.closeArray]) rfl Token.emits_nil
    have hitems := emits_items compactItems rfl (fun _ => rfl) (fun _ _ _ => rfl) ih
    exact emits_brackets (hitems.append hclose fun c hc => by cases hc; rfl)
  | object h ih =>
    have hclose : Emits ['\x7d'] [.closeObject] :=
      Emits.mark_cons (t := [.closeObject]) rfl Token.emits_nil
    have hmembers :=
      emits_members compactMembers (fun m => quote m.1 ++ ':' :: compactChars m.2) rfl
      (fun _ => rfl) (fun _ _ _ => by simp [compactMembers]) fun m hm => emits_quote_colon (ih m hm)
    exact emits_braces (hmembers.append hclose fun c hc => by cases hc; rfl)

theorem emits_lineBreak_append {cs : List Char} {ts : List Token} (h : Emits cs ts) (level : Nat) :
    Emits (lineBreak level ++ cs) ts :=
  Emits.mark_cons (c := '\n') (t := []) rfl (h.spaces_append _)

theorem Plain.emits_pretty {limit : Nat} {v : Value} (h : Plain limit v) (level : Nat) :
    Emits (prettyChars level v) (written v).tokens := by
  induction h generalizing level with
  | null => exact emits_scalarText_null
  | bool limit b => exact emits_scalarText_bool b
  | number => exact Token.emits_number _
  | text limit s => exact Token.emits_quote s
  | array h ih =>
    rename_i items
    have hclose : Emits [']'] [.closeArray] :=
      Emits.mark_cons (t := [.closeArray]) rfl Token.emits_nil
    cases items with
    | nil => exact emits_brackets hclose
    | cons v vs =>
      have hitems := emits_items (prettyItems (level + 1)) rfl (fun _ => rfl)
        (fun _ _ _ => by simp [prettyItems]) fun w hw =>
          emits_lineBreak_append (ih w hw (level + 1)) (level + 1)
      have hbody := hitems.append (emits_lineBreak_append hclose level) fun c hc => by cases hc; rfl
      simpa only [prettyChars, written, Document.tokens, List.append_assoc, List.cons_append]
        using emits_brackets hbody
  | object h ih =>
    rename_i members
    have hclose : Emits ['\x7d'] [.closeObject] :=
      Emits.mark_cons (t := [.closeObject]) rfl Token.emits_nil
    cases members with
    | nil => exact emits_braces hclose
    | cons m ms =>
      have hmember (m' : String × Value) (hm : m' ∈ m :: ms) :
          Emits (lineBreak (level + 1) ++
            (quote m'.1 ++ ':' :: ' ' :: prettyChars (level + 1) m'.2)) _ :=
        emits_lineBreak_append
          (emits_quote_colon (Emits.mark_cons (c := ' ') (t := []) rfl (ih m' hm (level + 1))))
            (level + 1)
      have hmembers :=
        emits_members (prettyMembers (level + 1)) _ rfl (fun _ => by simp [prettyMembers])
        (fun _ _ _ => by simp [prettyMembers]) hmember
      have hbody :=
        hmembers.append (emits_lineBreak_append hclose level) fun c hc => by cases hc; rfl
      simpa only [prettyChars, written, Document.tokens, List.append_assoc, List.cons_append]
        using emits_braces hbody

theorem ofBytes?_of_emits {v : Value} {cs : List Char} (h : Emits cs (written v).tokens) :
    Document.ofBytes? (String.ofList cs).toUTF8 = some (written v) := by
  rw [Document.ofBytes?, Text.characters_toUTF8, String.toList_ofList, Token.scan_of_emits h,
    Option.bind_some, Document.ofTokens?_tokens]

theorem Plain.ofBytes?_compact {limit : Nat} {v : Value} (h : Plain limit v) :
    Document.ofBytes? v.compact.toUTF8 = some (written v) := ofBytes?_of_emits h.emits_compact

theorem Plain.ofBytes?_pretty {limit : Nat} {v : Value} (h : Plain limit v) :
    Document.ofBytes? v.pretty.toUTF8 = some (written v) := ofBytes?_of_emits (h.emits_pretty 0)

/-- Reading takes back what printing made of a value. -/
theorem decode?_pretty {limit : Nat} {v : Value} (h : Plain limit v) :
    Document.decode? (Document.value? limit) v.pretty.toUTF8 = some v := by
  rw [Document.decode?, h.ofBytes?_pretty, Option.bind_some, h.value?_written]

end Value

end ExportLedger.Json
