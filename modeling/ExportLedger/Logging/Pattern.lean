import ExportLedger.Text.Blank
import ExportLedger.Text.Hexadecimal
import ExportLedger.Text.Numeric
/-!
Patterns that a directive may compare the value of a field with. Here it only matters which texts
are patterns, not what they match. A pattern matches characters unless its flags say that it matches
bytes; tables of Unicode are not at hand, so classes by name and the folding of letter case are for
bytes alone, and bytes must be ASCII. No closing brace occurs in the text, so nothing that an
opening brace begins is ever complete.
-/
namespace ExportLedger.Logging.Pattern

/-- What flags change about the rest of a pattern. -/
structure Mode where
  foldsCase : Bool := false
  /-- Matches characters rather than bytes. -/
  unicode : Bool := true
  /-- Blanks and comments do not count. -/
  spaced : Bool := false
  deriving DecidableEq, Repr

/-- Something finished, in a sequence of such. -/
structure Part where
  /-- How deep groups, classes, repetitions, sequences and alternatives are nested in it. -/
  depth : Nat
  /-- Whether it can be repeated. -/
  repeatable : Bool
  deriving DecidableEq, Repr

/-- The depth of several things together. -/
def joinDepth : List Nat → Nat
  | [] => 0
  | [d] => d
  | ds => ds.foldl max 0 + 1

/-- What stands in a group so far, the latest first. -/
structure Branches where
  parts : List Part := []
  /-- The depths of the alternatives before. -/
  earlier : List Nat := []
  deriving DecidableEq, Repr

namespace Branches

def depth (b : Branches) : Nat := joinDepth (joinDepth (b.parts.map (·.depth)) :: b.earlier)

def add (b : Branches) (p : Part) : Branches := { b with parts := p :: b.parts }

def next (b : Branches) : Branches := ⟨[], joinDepth (b.parts.map (·.depth)) :: b.earlier⟩

end Branches

/-- A class in brackets that is still open. -/
structure Bracket where
  /-- Nothing but dashes so far. -/
  atStart : Bool := true
  /-- The depth of what stands before an operator. -/
  left : Option Nat := none
  items : List Nat := []
  deriving DecidableEq, Repr

namespace Bracket

def depth (b : Bracket) : Nat :=
  match b.left with
  | none => joinDepth b.items
  | some d => max d (joinDepth b.items) + 1

def add (b : Bracket) (depth : Nat) : Bracket :=
  { b with atStart := false, items := depth :: b.items }

/-- After an operator between two classes. -/
def operator (b : Bracket) : Bracket := { atStart := false, left := some b.depth }

end Bracket

structure Reading where
  mode : Mode := {}
  branches : Branches := {}
  /-- The groups around, innermost first, each with the mode that holds after it. -/
  groups : List (Branches × Mode) := []
  /-- The open classes, innermost first. -/
  brackets : List Bracket := []
  /-- The names of groups. -/
  names : List (List Char) := []
  deriving DecidableEq, Repr

/-- Passes over blanks, and over comments up to the end of their lines. -/
def skipFrom (inComment : Bool) : List Char → List Char
  | [] => []
  | c :: cs =>
    if inComment then skipFrom (c ≠ '\n') cs
    else if Text.isBlank c then skipFrom false cs
    else if c = '#' then skipFrom true cs
    else c :: cs

def skip (spaced : Bool) (cs : List Char) : List Char := if spaced then skipFrom false cs else cs

theorem length_skipFrom_le (inComment : Bool) (cs : List Char) :
    (skipFrom inComment cs).length ≤ cs.length := by
  induction cs generalizing inComment with
  | nil => simp [skipFrom]
  | cons c cs ih =>
    have := ih (c ≠ '\n')
    have := ih false
    have := ih true
    unfold skipFrom
    split
    · simp only [List.length_cons]; omega
    · split
      · simp only [List.length_cons]; omega
      · split
        · simp only [List.length_cons]; omega
        · exact Nat.le_refl _

theorem length_skip_le (spaced : Bool) (cs : List Char) : (skip spaced cs).length ≤ cs.length := by
  unfold skip
  split
  · exact length_skipFrom_le false cs
  · exact Nat.le_refl _

/-- The character after blanks and the sign of a comment. -/
def peek? (spaced : Bool) (cs : List Char) : Option Char :=
  if spaced then
    match cs.dropWhile Text.isBlank with
    | '#' :: cs => (cs.dropWhile Text.isBlank).head?
    | cs => cs.head?
  else cs.head?

/-- What a single character or an escape stands for. -/
inductive Atom where
  | char (c : Char)
  /-- By two hexadecimal digits. -/
  | byte (c : Char)
  /-- Digits, blanks or the characters of words. -/
  | namedClass (negated : Bool)
  | anchor
  | wordBoundary
  deriving DecidableEq, Repr

def Atom.char? : Atom → Option Char
  | char c | byte c => some c
  | _ => none

namespace Mode

def allows (m : Mode) : Atom → Bool
  | .char c => if m.unicode then !m.foldsCase else !m.foldsCase || c.toNat < 0x80
  | .byte c => if m.unicode then !m.foldsCase else c.toNat < 0x80
  | .namedClass negated => !m.unicode && !negated
  | .anchor => true
  | .wordBoundary => !m.unicode

/-- In brackets. -/
def allowsItem (m : Mode) : Atom → Bool
  | .char c | .byte c => if m.unicode then !m.foldsCase else c.toNat < 0x80
  | .namedClass negated => !m.unicode && !negated
  | .anchor | .wordBoundary => false

/-- What is left out of a class of bytes goes beyond ASCII. -/
def allowsBracket (m : Mode) (negated : Bool) : Bool := m.unicode || !negated

def allowsAsciiClass (m : Mode) (negated : Bool) : Bool :=
  if m.unicode then !m.foldsCase else !negated

/-- A flag after a dash is switched off. -/
def flag? (flags : List Char) (c : Char) : Option Bool :=
  if c ∈ flags then some (decide ('-' ∉ flags.takeWhile (· ≠ c))) else none

def set (m : Mode) (flags : List Char) : Mode where
  foldsCase := (flag? flags 'i').getD m.foldsCase
  unicode := (flag? flags 'u').getD m.unicode
  spaced := (flag? flags 'x').getD m.spaced

end Mode

def isFlags (flags : List Char) : Bool :=
  flags.all ['-', 'i', 'm', 's', 'U', 'u', 'R', 'x'].contains && flags.eraseDups == flags &&
    flags.getLast? != some '-'

/-- Letters, digits, underscores, dots and brackets, and of these only a letter or an underscore at
first. -/
def isGroupName : List Char → Bool
  | [] => false
  | c :: cs =>
    (c == '_' || Text.isAlphabetic c) &&
      cs.all fun c => c == '_' || c == '.' || c == '[' || c == ']' || Text.isAlphanumeric c

/-- A character by its number, in `left` more digits. -/
def hexChar? (spaced : Bool) (value : Nat) : (left : Nat) → List Char → Option (Char × List Char)
  | 0, cs => if value.isValidChar then some (Char.ofNat value, cs) else none
  | left + 1, cs =>
    match skip spaced cs with
    | [] => none
    | c :: cs => do hexChar? spaced (value * 16 + (← Text.hexValue? c)) left cs

def controls : List (Char × Char) :=
  [('a', '\x07'), ('f', '\x0c'), ('n', '\n'), ('r', '\r'), ('t', '\t'), ('v', '\x0b')]

/-- After a backslash. Whatever is neither letter nor digit in ASCII stands for itself. -/
def escape? (spaced : Bool) : List Char → Option (Atom × List Char)
  | [] => none
  | c :: cs =>
    if c = 'x' then (hexChar? spaced 0 2 cs).map fun r => (.byte r.1, r.2)
    else if c = 'u' then (hexChar? spaced 0 4 cs).map fun r => (.char r.1, r.2)
    else if c = 'U' then (hexChar? spaced 0 8 cs).map fun r => (.char r.1, r.2)
    else if c = 'd' ∨ c = 's' ∨ c = 'w' then some (.namedClass false, cs)
    else if c = 'D' ∨ c = 'S' ∨ c = 'W' then some (.namedClass true, cs)
    else if c = 'A' ∨ c = 'z' then some (.anchor, cs)
    else if c = 'b' ∨ c = 'B' ∨ c = '<' ∨ c = '>' then some (.wordBoundary, cs)
    else match controls.lookup c with
      | some control => some (.char control, cs)
      | none => if c.toNat < 0x80 ∧ c.isAlphanum = false then some (.char c, cs) else none

def asciiClasses : List String :=
  ["alnum", "alpha", "ascii", "blank", "cntrl", "digit", "graph", "lower", "print",
    "punct", "space", "upper", "word", "xdigit"]

/-- After a bracket inside of brackets: the name of a class between colons, and whether it is
negated. -/
def asciiClass? : List Char → Option (Bool × List Char)
  | ':' :: cs =>
    let (negated, cs) := match cs with
      | '^' :: cs => (true, cs)
      | cs => (false, cs)
    let name := cs.takeWhile (· ≠ ':')
    match cs.drop name.length with
    | ':' :: ']' :: cs =>
      if asciiClasses.contains (String.ofList name) then some (negated, cs) else none
    | _ => none
  | _ => none

namespace Reading

def add (r : Reading) (depth : Nat) : Reading := { r with branches := r.branches.add ⟨depth, true⟩ }

def addAtom (r : Reading) (a : Atom) : Option Reading :=
  if r.mode.allows a then some (r.add 0) else none

def enter (r : Reading) (mode : Mode) : Reading :=
  { r with mode, branches := {}, groups := (r.branches, r.mode) :: r.groups }

def leave : Reading → Option Reading
  | ⟨_, _, [], _, _⟩ => none
  | ⟨_, inner, (outer, mode) :: groups, brackets, names⟩ =>
    some ⟨mode, outer.add ⟨inner.depth + 1, true⟩, groups, brackets, names⟩

def repeatLast (r : Reading) : Option Reading :=
  match r.branches.parts with
  | ⟨depth, true⟩ :: parts =>
    some { r with branches.parts := ⟨depth + 1, true⟩ :: parts }
  | _ => none

/-- After the opening bracket. -/
def openBracket (r : Reading) (cs : List Char) : Option (Reading × List Char) :=
  let (negated, cs) := match skip r.mode.spaced cs with
    | '^' :: cs => (true, cs)
    | cs => (false, cs)
  if r.mode.allowsBracket negated then some ({ r with brackets := {} :: r.brackets }, cs) else none

def openNamed (r : Reading) (cs : List Char) : Option (Reading × List Char) :=
  let name := cs.takeWhile (· ≠ '>')
  match cs.drop name.length with
  | _ :: cs =>
    if isGroupName name ∧ name ∉ r.names then
      some ({ r with names := name :: r.names }.enter r.mode, cs)
    else none
  | [] => none

/-- Flags stand alone or open a group. -/
def openFlags (r : Reading) (cs : List Char) : Option (Reading × List Char) :=
  let flags := cs.takeWhile fun c => c ≠ ':' ∧ c ≠ ')'
  if isFlags flags then
    match cs.drop flags.length with
    | ':' :: cs => some (r.enter (r.mode.set flags), cs)
    | ')' :: cs =>
      if flags = [] then none
      else some ({ r with
        mode := r.mode.set flags
        branches := r.branches.add ⟨0, false⟩ }, cs)
    | _ => none
  else none

def openGroup (r : Reading) : List Char → Option (Reading × List Char)
  | '?' :: 'P' :: '<' :: cs => r.openNamed cs
  | '?' :: '<' :: cs => r.openNamed cs
  | '?' :: cs => r.openFlags cs
  | cs => some (r.enter r.mode, cs)

/-- A part outside of brackets. -/
def outside (r : Reading) (c : Char) (cs : List Char) : Option (Reading × List Char) :=
  if c = '(' then r.openGroup (skip r.mode.spaced cs)
  else if c = ')' then r.leave.map (·, cs)
  else if c = '|' then some ({ r with branches := r.branches.next }, cs)
  else if c = '[' then r.openBracket cs
  else if c = '?' ∨ c = '*' ∨ c = '+' then
    r.repeatLast.map (·, match cs with
      | '?' :: cs => cs
      | cs => cs)
  else if c = '\x7b' then none
  else if c = '\\' then do
    let (a, cs) ← escape? r.mode.spaced cs
    some (← r.addAtom a, cs)
  else if c = '.' then if r.mode.unicode then some (r.add 0, cs) else none
  else if c = '^' ∨ c = '$' then some (r.add 0, cs)
  else do some (← r.addAtom (.char c), cs)

/-- The innermost bracket, the ones around it, and what has become of them. -/
def addItem (r : Reading) (b : Bracket) (outer : List Bracket) (a : Atom) : Option Reading :=
  if r.mode.allowsItem a then some { r with brackets := b.add 0 :: outer } else none

def addRange (r : Reading) (b : Bracket) (outer : List Bracket) (first last : Atom) :
    Option Reading :=
  match first.char?, last.char? with
  | some f, some l =>
    if f ≤ l ∧ r.mode.allowsItem last then r.addItem b outer first else none
  | _, _ => none

def item? (spaced : Bool) (c : Char) (cs : List Char) : Option (Atom × List Char) :=
  if c = '\\' then escape? spaced cs else some (.char c, cs)

/-- A dash makes a range, unless it is the last item or a part of an operator. -/
def rangeOrItem (r : Reading) (b : Bracket) (outer : List Bracket) (c : Char) (cs : List Char) :
    Option (Reading × List Char) := do
  let spaced := r.mode.spaced
  let (first, cs) ← item? spaced c cs
  match skip spaced cs with
  | '-' :: after =>
    if peek? spaced after = some ']' ∨ peek? spaced after = some '-' then
      some (← r.addItem b outer first, '-' :: after)
    else
      match skip spaced after with
      | [] => none
      | c :: cs => do
        let (last, cs) ← item? spaced c cs
        some (← r.addRange b outer first last, cs)
  | cs => some (← r.addItem b outer first, cs)

def closeBracket (r : Reading) (b : Bracket) : List Bracket → Reading
  | [] => { r with brackets := [] }.add (b.depth + 1)
  | o :: outer => { r with brackets := o.add (b.depth + 1) :: outer }

/-- An item of the innermost class. A dash at the start is an item, and so is a bracket in the first
place. -/
def inside (r : Reading) (b : Bracket) (outer : List Bracket) (c : Char) (cs : List Char) :
    Option (Reading × List Char) :=
  if c = '-' ∧ b.atStart then do
    let r ← r.addItem b outer (.char c)
    some ({ r with brackets := { b with items := 0 :: b.items } :: outer }, cs)
  else if c = ']' ∧ b.atStart ∧ b.items = [] then do some (← r.addItem b outer (.char c), cs)
  else if c = ']' then some (r.closeBracket b outer, cs)
  else if c = '[' then
    match asciiClass? cs with
    | some (negated, cs) =>
      if r.mode.allowsAsciiClass negated then some ({ r with brackets := b.add 0 :: outer }, cs)
      else none
    | none => { r with brackets := { b with atStart := false } :: outer }.openBracket cs
  else if (c = '&' ∨ c = '-' ∨ c = '~') ∧ cs.head? = some c then
    some ({ r with brackets := b.operator :: outer }, cs.tail)
  else r.rangeOrItem b outer c cs

def step (r : Reading) (c : Char) (cs : List Char) : Option (Reading × List Char) :=
  match r.brackets with
  | [] => r.outside c cs
  | b :: outer => r.inside b outer c cs

/-- Every step goes on with no more than it was given. -/
def readFrom (r : Reading) (cs : List Char) : Option Reading :=
  match h : skip r.mode.spaced cs with
  | [] => some r
  | c :: rest =>
    have : rest.length < cs.length := by
      have := length_skip_le r.mode.spaced cs
      simp only [h, List.length_cons] at this
      omega
    match r.step c rest with
    | none => none
    | some (next, after) => if after.length ≤ rest.length then next.readFrom after else none
termination_by cs.length

end Reading

def nestLimit : Nat := 250

end ExportLedger.Logging.Pattern

namespace ExportLedger.Logging

open Pattern in
/-- All groups and classes are closed, and they are not nested too deep. -/
def isPattern (cs : List Char) : Bool :=
  match ({} : Reading).readFrom cs with
  | some r => r.groups.isEmpty && r.brackets.isEmpty && r.branches.depth ≤ nestLimit
  | none => false

/-- Digits with a point among them and an exponent after them, or the words for infinity and for no
number. -/
def isUnsignedNumber (cs : List Char) : Bool :=
  let whole := cs.takeWhile Char.isDigit
  let (fraction, rest) := match cs.drop whole.length with
    | '.' :: rest => (rest.takeWhile Char.isDigit, rest.dropWhile Char.isDigit)
    | rest => ([], rest)
  let exponent := match rest with
    | [] => true
    | e :: ds =>
      let ds := match ds with
        | '-' :: ds | '+' :: ds => ds
        | ds => ds
      (e == 'e' || e == 'E') && !ds.isEmpty && ds.all Char.isDigit
  ["inf", "infinity", "nan"].contains (String.ofList (cs.map Char.toLower)) ||
    ((!whole.isEmpty || !fraction.isEmpty) && exponent)

def isNumber : List Char → Bool
  | '+' :: cs | '-' :: cs => isUnsignedNumber cs
  | cs => isUnsignedNumber cs

/-- What a field can be compared with. -/
def isFieldValue (cs : List Char) : Bool := isNumber cs || isPattern cs

end ExportLedger.Logging
