import ExportLedger.Record.Basic
import ExportLedger.Text.Substitution
/-!
Templates for the names of result files.
-/
namespace ExportLedger.Template

def sequencePlace : String := "\x7bsequence\x7d"

def dailyPlace : String := "\x7bdaily\x7d"

def datePlace : String := "\x7bdate\x7d"

def standard : String := "TARS" ++ sequencePlace ++ ".xml"

/-- The places are filled one kind after the other. -/
def render (template : String) (d : Draft) : String :=
  let fill (place : String) (v : List Char) := Text.replaceAll place.toList v
  String.ofList
    (fill datePlace d.created.date.compact
      (fill dailyPlace d.daily.text.toList
        (fill sequencePlace (Decimal.digits d.sequence.toNat) template.toList)))

end ExportLedger.Template
