import ExportLedger.Export.Template
import ExportLedger.Proofs.Naming
import ExportLedger.Proofs.Text.Substitution
/-!
The names that the standard template gives to result files, and where these stand once dashes and
letter case are dropped.
-/
namespace ExportLedger

namespace Text

theorem lowerChar_of_isDigit {c : Char} (h : c.isDigit) : lowerChar c = [c] := by
  have hle : c.toNat ≤ 57 := by
    simp only [Char.isDigit, Bool.and_eq_true, decide_eq_true_eq, UInt32.le_iff_toNat_le] at h
    exact h.2
  have hlower : c.toLower = c := by
    unfold Char.toLower
    split
    · rename_i hupper
      have hge : 65 ≤ c.toNat := by
        exact hupper.1
      omega
    · rfl
  rw [lowerChar, if_pos (by omega), hlower]

theorem lowercase_append (cs ds : List Char) :
    lowercase (cs ++ ds) = lowercase cs ++ lowercase ds :=
  List.flatMap_append

theorem lowercase_of_all_isDigit {cs : List Char} (h : cs.all Char.isDigit) :
    lowercase cs = cs := by
  induction cs with
  | nil => rfl
  | cons c cs ih =>
    rw [List.all_cons, Bool.and_eq_true] at h
    have hcs : List.flatMap lowerChar cs = cs := ih h.2
    rw [lowercase, List.flatMap_cons, lowerChar_of_isDigit h.1, hcs, List.singleton_append]

end Text

namespace Template

/-- The result file of an export, by its number. -/
def standardName (n : Nat) : String := "TARS" ++ Decimal.text n ++ ".xml"

theorem toList_standardName (n : Nat) :
    (standardName n).toList = "TARS".toList ++ (Decimal.digits n ++ ".xml".toList) := by
  rw [standardName, String.toList_append, String.toList_append, Decimal.toList_text,
    List.append_assoc]

theorem standardName_ne_empty (n : Nat) : standardName n ≠ "" := by
  intro h
  have hlist := congrArg String.toList h
  rw [toList_standardName] at hlist
  contradiction

theorem standardName_injective {m n : Nat} (h : standardName m = standardName n) : m = n := by
  have hlist := congrArg String.toList h
  rw [toList_standardName, toList_standardName] at hlist
  exact Decimal.digits_injective (List.append_cancel_right (List.append_cancel_left hlist))

theorem utf8ByteSize_standardName (n : Nat) :
    (standardName n).utf8ByteSize = (Decimal.digits n).length + 8 := by
  have hdigits : (Decimal.text n).utf8ByteSize = (Decimal.digits n).length :=
    Decimal.utf8ByteSize_ofList (Decimal.all_isDigit_digits n)
  rw [standardName, String.utf8ByteSize_append, String.utf8ByteSize_append, hdigits]
  show 4 + _ + 4 = _
  omega

theorem utf8ByteSize_standardName_le {n : Nat} (hn : n < UInt64.size) :
    (standardName n).utf8ByteSize ≤ 28 := by
  have hlength :=
    (Decimal.length_digits_le_iff (n := n) (k := 20) (by decide)).2 (hn.trans (by decide))
  rw [utf8ByteSize_standardName]
  omega

theorem render_standard (d : Draft) : render standard d = standardName d.sequence.toNat := by
  have hfill :
      Text.replaceAll sequencePlace.toList (Decimal.digits d.sequence.toNat) standard.toList =
      (standardName d.sequence.toNat).toList := by
    rw [toList_standardName]
    rfl
  have hplain : '\x7b' ∉ (standardName d.sequence.toNat).toList := by
    rw [toList_standardName]
    intro hmem
    rcases List.mem_append.1 hmem with h | h
    · revert h
      decide
    · rcases List.mem_append.1 h with h | h
      · exact absurd (Decimal.isDigit_of_mem_digits h) (by decide)
      · revert h
        decide
  have hdaily : dailyPlace.toList = '\x7b' :: "daily\x7d".toList := rfl
  have hdate : datePlace.toList = '\x7b' :: "date\x7d".toList := rfl
  simp only [render, hfill, hdaily, hdate, Text.replaceAll_of_not_mem hplain, String.ofList_toList]

end Template

namespace Naming

theorem folded_append (a b : String) : folded (a ++ b) = folded a ++ folded b := by
  rw [folded, String.toList_append, List.filter_append, Text.lowercase_append, String.ofList_append]
  rfl

theorem folded_standardName (n : Nat) : folded (Template.standardName n) =
    String.ofList ("tars".toList ++ (Decimal.digits n ++ ".xml".toList)) := by
  have hdigits : (Decimal.digits n).filter (· ≠ '-') = Decimal.digits n := by
    rw [List.filter_eq_self]
    intro c hc
    have hd := Decimal.isDigit_of_mem_digits hc
    rw [decide_eq_true_eq]
    rintro rfl
    contradiction
  rw [folded, Template.toList_standardName, List.filter_append, List.filter_append, hdigits,
    Text.lowercase_append, Text.lowercase_append,
    Text.lowercase_of_all_isDigit (Decimal.all_isDigit_digits n)]
  rfl

/-- Under one mark and with numbers of one length, the later number comes later. -/
theorem folded_marked_lt_iff {m n : Nat} (h : (Decimal.digits m).length = (Decimal.digits n).length)
    (mark : String) :
    folded (mark ++ Template.standardName m) < folded (mark ++ Template.standardName n) ↔
      m < n := by
  have hmarked (k : Nat) : folded (mark ++ Template.standardName k) =
      String.ofList (((folded mark).toList ++ "tars".toList) ++
        (Decimal.digits k ++ ".xml".toList)) := by
    rw [folded_append, folded_standardName, ← String.toList_inj]
    simp only [String.toList_append, String.toList_ofList, List.append_assoc]
  rw [hmarked, hmarked, Decimal.affixed_lt_iff h]

theorem startsWithIgnoringCase_append (start cs : List Char) :
    startsWithIgnoringCase start (start ++ cs) := by
  induction start with
  | nil => rfl
  | cons s start ih =>
    rw [List.cons_append, startsWithIgnoringCase, beq_self_eq_true, Bool.true_and, ih]

end Naming

namespace Template

/-- A mark that no result file has by its own name. -/
def Apart (mark : String) : Prop :=
  ∀ n, Naming.startsWithIgnoringCase mark.toList (standardName n).toList = false

theorem apart_processed : Apart "processed-" := by
  intro n
  rw [toList_standardName]
  rfl

theorem Apart.ne_marked {mark : String} (h : Apart mark) (m n : Nat) :
    standardName m ≠ mark ++ standardName n := by
  intro heq
  have hstarts := Naming.startsWithIgnoringCase_append mark.toList (standardName n).toList
  rw [← String.toList_append, ← heq, h m] at hstarts
  contradiction

theorem marked_injective {mark : String} {m n : Nat}
    (h : mark ++ standardName m = mark ++ standardName n) :
    m = n := by
  have hlist := congrArg String.toList h
  rw [String.toList_append, String.toList_append] at hlist
  exact standardName_injective (String.toList_injective (List.append_cancel_left hlist))

end Template

end ExportLedger
