import ExportLedger.Json.Numeral
import ExportLedger.Json.Literal
/-!
The tokens of a JSON document. The scanner looks at one character at a time, so it is a fold over
the document; a word or number ends where a character comes that it cannot contain.
-/
namespace ExportLedger.Json

inductive Token where
  | openArray
  | closeArray
  | openObject
  | closeObject
  | comma
  | colon
  | null
  | bool (b : Bool)
  | number (n : Numeral)
  | text (l : Literal)
  deriving DecidableEq, Repr

namespace Token

/-- What the scanner is in the middle of. Pieces and characters so far are kept latest first. -/
inductive Scan where
  | ground
  | word (done : List Char)
  | text (done : Literal)
  | escape (done : Literal)
  /-- `left` more hexadecimal digits are due. -/
  | hex (done : Literal) (left : Nat) (value : Nat)
  deriving DecidableEq, Repr

def ofWord? (cs : List Char) : Option Token :=
  if cs = ['n', 'u', 'l', 'l'] then some .null
  else if cs = ['t', 'r', 'u', 'e'] then some (.bool true)
  else if cs = ['f', 'a', 'l', 's', 'e'] then some (.bool false)
  else (Numeral.ofChars? cs).map .number

def isWordChar (c : Char) : Bool := c.isAlphanum || c == '-' || c == '+' || c == '.'

def isSpace (c : Char) : Bool := c == ' ' || c == '\t' || c == '\n' || c == '\r'

/-- The characters that a backslash may come before, other than `u`. -/
def escaped? (c : Char) : Option Char :=
  if c = '"' ∨ c = '\\' ∨ c = '/' then some c
  else if c = 'b' then some '\x08'
  else if c = 'f' then some '\x0c'
  else if c = 'n' then some '\n'
  else if c = 'r' then some '\r'
  else if c = 't' then some '\t'
  else none

/-- A character between tokens. -/
def scanGround (c : Char) : Option (Scan × List Token) :=
  if isSpace c then some (.ground, [])
  else if c = '"' then some (.text [], [])
  else if isWordChar c then some (.word [c], [])
  else if c = '[' then some (.ground, [.openArray])
  else if c = ']' then some (.ground, [.closeArray])
  else if c = '\x7b' then some (.ground, [.openObject])
  else if c = '\x7d' then some (.ground, [.closeObject])
  else if c = ',' then some (.ground, [.comma])
  else if c = ':' then some (.ground, [.colon])
  else none

/-- The next state, and the tokens that the character completes. -/
def scanChar (state : Scan) (mark : Option Char) : Option (Scan × List Token) :=
  match state, mark with
  | .ground, some c => scanGround c
  | .word done, some c =>
    if isWordChar c then some (.word (c :: done), [])
    else do
      let token ← ofWord? done.reverse
      let (next, tokens) ← scanGround c
      some (next, token :: tokens)
  | .text done, some c =>
    if c = '"' then some (.ground, [.text done.reverse])
    else if c = '\\' then some (.escape done, [])
    else if c.toNat < 0x20 then none
    else some (.text (.char c :: done), [])
  | .text done, none => some (.text (.stray :: done), [])
  | .escape done, some c =>
    if c = 'u' then some (.hex done 4 0, [])
    else (escaped? c).map fun e => (.text (.char e :: done), [])
  | .hex done left value, some c => do
    let digit ← Text.hexValue? c
    let value := value * 16 + digit
    if left ≤ 1 then some (.text (.codeUnit value :: done), [])
      else some (.hex done (left - 1) value, [])
  | _, none => none

/-- The state and the tokens, latest first, after the characters. -/
def scanFrom : Scan → List Token → List (Option Char) → Option (Scan × List Token)
  | state, done, [] => some (state, done)
  | state, done, mark :: marks =>
    match scanChar state mark with
    | none => none
    | some (next, tokens) => scanFrom next (tokens.reverse ++ done) marks

/-- A document may end in a word, but not inside a string. -/
def scan (marks : List (Option Char)) : Option (List Token) :=
  match scanFrom .ground [] marks with
  | some (.ground, done) => some done.reverse
  | some (.word cs, done) => (ofWord? cs.reverse).map fun t => (t :: done).reverse
  | _ => none

end Token

end ExportLedger.Json
