import ExportLedger.Text.Extending
import ExportLedger.Text.Hexadecimal
import ExportLedger.Text.Unprintable
/-!
Text as messages quote it: in double quotes, with whatever a terminal would not show as itself
escaped.
-/
namespace ExportLedger.Text

/-- A single quote stays as it is, because the quotes around the text are double ones. -/
def quotedChar (c : Char) : List Char :=
  if c = '\x00' then ['\\', '0']
  else if c = '\t' then ['\\', 't']
  else if c = '\r' then ['\\', 'r']
  else if c = '\n' then ['\\', 'n']
  else if c = '\\' then ['\\', '\\']
  else if c = '"' then ['\\', '"']
  else if isExtending c || isUnprintable c then
    ['\\', 'u', '\x7b'] ++ hexDigits c.toNat ++ ['\x7d']
  else [c]

def quoted (s : String) : String :=
  String.ofList ('"' :: s.toList.flatMap quotedChar ++ ['"'])

end ExportLedger.Text
