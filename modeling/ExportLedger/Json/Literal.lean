import ExportLedger.Text.Quoted
/-!
The strings of a JSON document: as written, where an escape may name half of a surrogate pair, and
as the text that they stand for.
-/
namespace ExportLedger.Json

inductive Piece where
  | char (c : Char)
  /-- Four hexadecimal digits after `\u`. -/
  | codeUnit (n : Nat)
  /-- A byte that is part of no character. -/
  | stray
  deriving DecidableEq, Repr

/-- What stands between the quotes. -/
abbrev Literal := List Piece

namespace Literal

def isHighSurrogate (n : Nat) : Bool := 0xD800 ≤ n && n < 0xDC00

def isLowSurrogate (n : Nat) : Bool := 0xDC00 ≤ n && n < 0xE000

/-- Surrogates must come in pairs, and every byte must be part of a character. -/
def decode? : Literal → Option (List Char)
  | [] => some []
  | .stray :: _ => none
  | .char c :: rest => (decode? rest).map (c :: ·)
  | .codeUnit high :: rest =>
    if isHighSurrogate high then
      match rest with
      | .codeUnit low :: rest =>
        if isLowSurrogate low then
          (decode? rest).map (Char.ofNat (0x10000 + (high - 0xD800) * 0x400 + (low - 0xDC00)) :: ·)
        else none
      | _ => none
    else if isLowSurrogate high then none
    else (decode? rest).map (Char.ofNat high :: ·)

def text? (l : Literal) : Option String := (decode? l).map String.ofList

end Literal

/-- Control characters, the quote and the backslash cannot stand for themselves. -/
def escapeChar (c : Char) : List Char :=
  if c = '"' then ['\\', '"']
  else if c = '\\' then ['\\', '\\']
  else if c = '\x08' then ['\\', 'b']
  else if c = '\x0c' then ['\\', 'f']
  else if c = '\n' then ['\\', 'n']
  else if c = '\r' then ['\\', 'r']
  else if c = '\t' then ['\\', 't']
  else if c.toNat < 0x20 then
    ['\\', 'u', '0', '0', Nat.digitChar (c.toNat / 16), Nat.digitChar (c.toNat % 16)]
  else [c]

def quote (s : String) : List Char := '"' :: s.toList.flatMap escapeChar ++ ['"']

end ExportLedger.Json
