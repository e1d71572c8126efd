import JsonSeek.Binary64.Decimal
import JsonSeek.Json.Writer
import JsonSeek.Text.Alphanumeric
import JsonSeek.Text.Numeral
import JsonSeek.Value.Basic

/-!
# Conditions on elements

A condition compares a property of an element with a literal, as in `@.price < 10`. Equality
compares texts and order compares numbers. An element that is no object or lacks the property
never meets a condition.
-/

namespace JsonSeek.Query

/-- How a property is compared with a literal. -/
inductive Relation
  | equal
  | different
  | greater
  | less
  | atLeast
  | atMost
deriving DecidableEq

/-- The usual spelling of a relation. -/
def Relation.symbol : Relation → String
  | equal => "=="
  | different => "!="
  | greater => ">"
  | less => "<"
  | atLeast => ">="
  | atMost => "<="

/-- The spellings of relations, in the order in which they are tried. -/
def Relation.spellings : List (List Char × Relation) :=
  [(['=', '='], equal), (['!', '='], different), (['>', '='], atLeast), (['<', '='], atMost),
    (['='], equal), (['>'], greater), (['<'], less)]

/-- A condition on a property; the literal is without its quotes. -/
structure Comparison where
  property : String
  relation : Relation
  literal : String
deriving DecidableEq

/-- An integer was compared by size that lies beyond the range of doubles. -/
inductive Overflow
  | integerTooLarge
deriving DecidableEq

/-- The wording of an overflow. -/
def Overflow.message : Overflow → String
  | integerTooLarge => "int too large to convert to float"

/-- The text that equality compares. Strings stand for themselves, whole doubles are written
without a point, containers as compact JSON. -/
def textOf : Value → String
  | .null => "null"
  | .bool b => if b then "true" else "false"
  | .int n => toString n
  | .float x =>
    match x.toInt? with
    | some n => toString n
    | none => x.text
  | .str s => s
  | v => v.write .compact

/-- The number that a text means to an ordering: zero if it is blank, and no number if it cannot be
read. -/
def numberOfText (s : String) : Binary64 :=
  let chars := Text.strip s.toList
  if chars.isEmpty then .zero else (Text.readBinary64? chars).getD .nan

/-- The number that an ordering compares. Containers are no numbers. -/
def numberOf : Value → Except Overflow Binary64
  | .null => .ok .zero
  | .bool b => .ok (if b then .ofInt 1 else .zero)
  | .int n =>
    match Binary64.ofInt? n with
    | some x => .ok x
    | none => .error .integerTooLarge
  | .float x => .ok x
  | .str s => .ok (numberOfText s)
  | _ => .ok .nan

/-- Whether an ordering relation holds between two numbers. The equality relations do not reach
it. -/
def Relation.orders (r : Relation) (left right : Binary64) : Bool :=
  match r with
  | greater => Binary64.blt right left
  | less => Binary64.blt left right
  | atLeast => Binary64.ble right left
  | _ => Binary64.ble left right

/-- Whether a relation holds between the value of a property and a literal. -/
def Relation.holds (r : Relation) (actual : Value) (literal : String) : Except Overflow Bool :=
  match r with
  | equal => .ok (textOf actual == literal)
  | different => .ok (textOf actual != literal)
  | _ =>
    match numberOf actual with
    | .error e => .error e
    | .ok left => .ok (r.orders left (numberOfText literal))

/-- Whether an element meets the condition. -/
def Comparison.test (c : Comparison) (item : Value) : Except Overflow Bool :=
  match item with
  | .obj fields =>
    match Value.field? c.property fields with
    | some actual => c.relation.holds actual c.literal
    | none => .ok false
  | _ => .ok false

/-- The text inside enclosing parentheses, stripped at every layer. A layer takes two characters, so
that the length bounds the layers. -/
def withoutParentheses : (fuel : Nat) → List Char → List Char
  | 0, s => s
  | fuel + 1, s =>
    match s with
    | '(' :: rest =>
      if rest.getLast? = some ')' then withoutParentheses fuel (Text.strip rest.dropLast) else s
    | _ => s

/-- The literal without its quotes. -/
def unquoted (literal : List Char) : List Char :=
  match literal with
  | quote :: rest =>
    if (quote = '\'' || quote = '"') && rest.getLast? = some quote then rest.dropLast else literal
  | [] => []

/-- The relation at the front of a text, and the text behind it. -/
def readRelation (s : List Char) : Option (Relation × List Char) :=
  Relation.spellings.findSome? fun (spelling, relation) =>
    if spelling.isPrefixOf s then some (relation, s.drop spelling.length) else none

/-- Reads a condition such as `?(@.price < 10)`. Whatever is no single condition on a direct
property means nothing. -/
def Comparison.read? (expression : List Char) : Option Comparison :=
  let body := match Text.strip expression with
    | '?' :: rest => Text.strip rest
    | s => s
  match withoutParentheses body.length body with
  | '@' :: '.' :: rest =>
    let (property, rest) := Text.span Text.isWordChar rest
    if property.isEmpty then none
    else
      match readRelation (Text.trimStart Text.isBlank rest) with
      | none => none
      | some (relation, rest) =>
        let literal := Text.strip rest
        if literal.isEmpty then none
        else some ⟨String.ofList property, relation, String.ofList (unquoted literal)⟩
  | _ => none

end JsonSeek.Query
