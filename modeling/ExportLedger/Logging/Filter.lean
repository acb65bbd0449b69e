import ExportLedger.Logging.Pattern
import ExportLedger.Logging.Settings
import ExportLedger.Text.Alphanumeric
/-!
Filters for log events. A filter is a list of directives, each for the events of some targets; of
those for an event's target the most specific one decides, and of equally specific ones the last.
-/
namespace ExportLedger.Logging

/-- A level up to which events pass, or `none` if none pass. -/
abbrev Threshold := Option Level

structure Directive where
  /-- The events of this target and of those whose names it begins. -/
  target : Option String
  /-- Names of fields that an event must have. -/
  fields : List String
  /-- Whether the directive is about what happens inside of certain spans. -/
  inSpan : Bool
  threshold : Threshold
  deriving DecidableEq, Repr

structure Event where
  target : String
  level : Level
  fields : List String := ["message"]
  deriving DecidableEq, Repr

namespace Threshold

def words : List (String × Threshold) :=
  [("off", none), ("error", some .error), ("warn", some .warn), ("info", some .info),
    ("debug", some .debug), ("trace", some .trace)]

/-- A word in any letter case of ASCII, or its place in the list of words. -/
def ofChars? (cs : List Char) : Option Threshold :=
  match Decimal.readUnsigned UInt64.size cs with
  | .ok n => (words[n]?).map (·.2)
  | .error _ => words.lookup (String.ofList (cs.map Char.toLower))

def allows (t : Threshold) (level : Level) : Bool :=
  t.any fun most => level.verbosity ≤ most.verbosity

end Threshold

namespace Directive

/-- What a directive without a level allows. -/
def everything : Threshold := some .trace

/-- After the target and the span: nothing but blanks, or an equals sign and a level. -/
def threshold? : List Char → Option Threshold
  | ['='] => some everything
  | '=' :: cs => Threshold.ofChars? cs
  | cs => if cs.all Text.isBlank then some everything else none

/-- The name of a field, and what it is compared with. A second equals sign ends that. -/
def field? (cs : List Char) : Option (String × Option (List Char)) :=
  match cs.splitOn '=' with
  | [] | [[]] => none
  | [name] => some (String.ofList name, none)
  | name :: value :: _ => if isFieldValue value then some (String.ofList name, some value) else none

/-- After an opening bracket: the span's name and perhaps a field, which may have a value. -/
def afterBracket? (target : Option String) (cs : List Char) : Option Directive :=
  let name := cs.takeWhile fun c => c ≠ ']' ∧ c ≠ '\x7b'
  match cs.drop name.length with
  | ']' :: rest => do some ⟨target, [], true, ← threshold? rest⟩
  | '\x7b' :: rest =>
    let field := rest.takeWhile (· ≠ '\x7d')
    match rest.drop field.length with
    | '\x7d' :: ']' :: rest => do
      let (fieldName, value) ← field? field
      some ⟨target, [fieldName], name ≠ [] ∨ value.isSome, ← threshold? rest⟩
    | _ => none
  | _ => none

def startsTarget (c : Char) : Bool := c == '-' || c == ':' || c == '_' || Text.isAlphanumeric c

/-- A level, a target, a span, or a target or a span with a level. -/
def ofChars? : List Char → Option Directive
  | '[' :: cs => afterBracket? none cs
  | c :: cs =>
    if startsTarget c then
      let word := (c :: cs).takeWhile fun c => c ≠ '=' ∧ c ≠ '['
      let target := some (String.ofList word)
      match (c :: cs).drop word.length with
      | [] =>
        match Threshold.ofChars? word with
        | some threshold => some ⟨none, [], false, threshold⟩
        | none => some ⟨target, [], false, everything⟩
      | '[' :: rest => afterBracket? target rest
      | rest => (threshold? rest).map (⟨target, [], false, ·⟩)
    else none
  | [] => none

/-- Outside of all spans. -/
def concerns (d : Directive) (e : Event) : Bool :=
  !d.inSpan && d.target.all (fun t => t.toList.isPrefixOf e.target.toList) &&
    d.fields.all e.fields.contains

/-- A longer target is more specific, and after that a directive with a field. -/
def specificity (d : Directive) : Nat :=
  2 * d.target.elim 0 (fun t => t.length + 1) + d.fields.length

end Directive

abbrev Filter := List Directive

namespace Filter

def moreSpecific (best : Option Directive) (d : Directive) : Option Directive :=
  if best.any fun b => d.specificity < b.specificity then best else some d

/-- The directive that decides about an event. -/
def deciding? (filter : Filter) (e : Event) : Option Directive :=
  (filter.filter (·.concerns e)).foldl moreSpecific none

def allows (filter : Filter) (e : Event) : Bool :=
  (filter.deciding? e).any fun d => Threshold.allows d.threshold e.level

def parts (s : String) : List (List Char) := s.toList.splitOn ','

/-- Directives from outside of the settings. A part that is none is passed over. -/
def lenient (s : String) : Filter := (parts s).filterMap Directive.ofChars?

/-- All parts that are not blank must be directives, with or without blanks around them. -/
def strict? (s : String) : Option Filter :=
  ((parts s).filter fun cs => !cs.all Text.isBlank).mapM fun cs => Directive.ofChars? (Text.trim cs)

/-- First what comes from outside, then the level of the settings, then their directives. -/
def ofSettings? (outside : Option String) (s : Settings) : Option Filter := do
  let directives ← s.directives.elim (some []) strict?
  lenient (outside.getD "") ++ ⟨none, [], false, some s.level⟩ :: directives

end Filter

end ExportLedger.Logging
