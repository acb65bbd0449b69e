import ExportLedger.Json.Token
import ExportLedger.Text.Utf8
/-!
JSON documents as trees. A document's strings are kept as they are written until someone asks for
their text, because a reader may skip a value without ever decoding it.
-/
namespace ExportLedger.Json

/-- Members of an object stay in their order, repeated names included. -/
inductive Tree (τ : Type) where
  | null
  | bool (b : Bool)
  | number (n : Numeral)
  | text (t : τ)
  | array (items : List (Tree τ))
  | object (members : List (τ × Tree τ))

/-- What the grammar alone accepts. -/
abbrev Document := Tree Literal

/-- A document whose strings and numbers all have a meaning. -/
abbrev Value := Tree String

namespace Document

/-- An unfinished array or object, its contents so far latest first. -/
inductive Frame where
  | items (done : List Document)
  | members (done : List (Literal × Document))
  | member (done : List (Literal × Document)) (key : Literal)

/-- What may come next. `orClose` allows the end of an array or object that is still empty. -/
inductive Expect where
  | value (orClose : Bool)
  | key (orClose : Bool)
  | colon
  | next
  | finished (result : Document)

structure Parse where
  stack : List Frame
  expect : Expect

/-- A value ends up in the innermost unfinished array or object. -/
def Parse.complete (v : Document) : List Frame → Option Parse
  | [] => some ⟨[], .finished v⟩
  | .items done :: stack => some ⟨.items (v :: done) :: stack, .next⟩
  | .member done key :: stack => some ⟨.members ((key, v) :: done) :: stack, .next⟩
  | .members _ :: _ => none

/-- A token where a value is due. -/
def Parse.value (stack : List Frame) (orClose : Bool) : Token → Option Parse
  | .null => complete .null stack
  | .bool b => complete (.bool b) stack
  | .number n => complete (.number n) stack
  | .text l => complete (.text l) stack
  | .openArray => some ⟨.items [] :: stack, .value true⟩
  | .openObject => some ⟨.members [] :: stack, .key true⟩
  | .closeArray =>
    match orClose, stack with
    | true, .items done :: stack => complete (.array done.reverse) stack
    | _, _ => none
  | _ => none

def Parse.step (p : Parse) (t : Token) : Option Parse :=
  match p.expect, t with
  | .value orClose, t => value p.stack orClose t
  | .key _, .text l =>
    match p.stack with
    | .members done :: stack => some ⟨.member done l :: stack, .colon⟩
    | _ => none
  | .key true, .closeObject =>
    match p.stack with
    | .members done :: stack => complete (.object done.reverse) stack
    | _ => none
  | .colon, .colon => some ⟨p.stack, .value false⟩
  | .next, .comma =>
    match p.stack with
    | .items _ :: _ => some ⟨p.stack, .value false⟩
    | .members _ :: _ => some ⟨p.stack, .key false⟩
    | _ => none
  | .next, .closeArray =>
    match p.stack with
    | .items done :: stack => complete (.array done.reverse) stack
    | _ => none
  | .next, .closeObject =>
    match p.stack with
    | .members done :: stack => complete (.object done.reverse) stack
    | _ => none
  | _, _ => none

def ofTokens? (tokens : List Token) : Option Document :=
  match tokens.foldlM Parse.step ⟨[], .value false⟩ with
  | some ⟨_, .finished result⟩ => some result
  | _ => none

/-- The document that the bytes write down, if they follow the grammar. -/
def ofBytes? (bytes : ByteArray) : Option Document :=
  (Token.scan (Text.characters bytes)).bind ofTokens?

/-- `limit` is how many arrays and objects may be nested in one another. -/
def value? : Nat → Document → Option Value
  | _, .null => some .null
  | _, .bool b => some (.bool b)
  | _, .number n => if n.overflows then none else some (.number n)
  | _, .text l => l.text?.map .text
  | 0, .array _ => none
  | 0, .object _ => none
  | limit + 1, .array items => (items.mapM (value? limit)).map .array
  | limit + 1, .object members =>
    (members.mapM fun (m : Literal × Document) => do
      some ((← m.1.text?), ← value? limit m.2)).map .object

/-- Arrays and objects may be nested 127 deep. -/
def nestingLimit : Nat := 127

end Document

end ExportLedger.Json
