import Vigil.Decimal.Reading
import Vigil.Yaml.Document

/-!
What YAML nodes denote. Only plain scalars are numbers, apart from literal blocks with the tag of
the type.
-/

namespace Vigil.Yaml

/-- Whether a scalar of this form may denote a value of a type with the given tag. -/
def mayDenote (type : String) (style : Style) (tag : Option Tag) : Bool :=
  match style with
  | .plain => true
  | .literal => tag == some (.standard type)
  | _ => false

def startsWithSign : List Char → Bool
  | c :: _ => c == '+' || c == '-'
  | [] => false

/-- More than one digit of which the first is a zero: not a number but a text. -/
def isZeroPadded (cs : List Char) : Bool :=
  let digits :=
    match cs with
    | '+' :: ds => ds
    | '-' :: ds => ds
    | ds => ds
  match digits with
  | '0' :: rest => !rest.isEmpty && rest.all fun c => (Text.digitIn? 10 c).isSome
  | _ => false

/-- Digits in a base, for a value below a limit. -/
def based? (base limit : Nat) (cs : List Char) : Option Nat :=
  (Text.digits? base cs).bind fun n => if n < limit then some n else none

/-- A whole number below a limit, with an optional plus sign: decimal, or with a base. -/
def natural? (limit : Nat) (cs : List Char) : Option Nat :=
  match Text.dropPlus cs with
  | '0' :: 'x' :: rest => based? 16 limit rest
  | '0' :: 'o' :: rest => based? 8 limit rest
  | '0' :: 'b' :: rest => based? 2 limit rest
  | rest =>
    if isZeroPadded cs then none else based? 10 limit rest

def isInfinityWord (text : String) : Bool := text == ".inf" || text == ".Inf" || text == ".INF"

def isNanWord (text : String) : Bool := text == ".nan" || text == ".NaN" || text == ".NAN"

/-- A floating-point number: a word, which has a sign of its own only where it is an infinity, or
digits for a finite number. -/
def floating? (cs : List Char) : Option Float :=
  if isNanWord (String.ofList cs) then some (0.0 / 0.0)
  else
    match cs with
    | '+' :: rest => if startsWithSign rest then none else unsigned? rest
    | '-' :: rest =>
      if isInfinityWord (String.ofList rest) then some (-(1.0 / 0.0)) else number? cs
    | cs => unsigned? cs
where
  number? (cs : List Char) : Option Float := (Decimal.float? cs).filter Float.isFinite
  unsigned? (cs : List Char) : Option Float :=
    if isInfinityWord (String.ofList cs) then some (1.0 / 0.0) else number? cs

/-- Whether a text is one of the words for nothing. -/
def isNullWord (text : String) : Bool :=
  text == "null" || text == "Null" || text == "NULL" || text == "~"

namespace Node

def nat? (limit : Nat) : Node → Option Nat
  | scalar text style p => if mayDenote "int" style p.tag then natural? limit text.toList else none
  | _ => none

def float? : Node → Option Float
  | scalar text style p => if mayDenote "float" style p.tag then floating? text.toList else none
  | _ => none

/-- Whether nothing stands where a collection may stand. -/
def isLeftOut : Node → Bool
  | scalar text .plain _ => text.isEmpty
  | _ => false

def items? : Node → Option (List Node)
  | sequence items _ => some items
  | node => if node.isLeftOut then some [] else none

def entries? : Node → Option (List (Node × Node))
  | mapping entries _ => some entries
  | node => if node.isLeftOut then some [] else none

/-- The text of a scalar, however it is written. -/
def text? : Node → Option String
  | scalar text _ _ => some text
  | _ => none

/-- A name out of a fixed choice: a scalar, or a local tag on nothing. -/
def name? (node : Node) : Option String :=
  match node.tag?.bind Tag.localName? with
  | some name =>
    match node with
    | scalar text .plain _ => if text.isEmpty || isNullWord text then some name else none
    | _ => none
  | none => node.text?

end Node

namespace Document

variable (d : Document)

/-- Read what the node that is meant at `node` denotes. -/
def value {α : Type} (denoted? : Node → Option α) (node : Node) : Reading α := do
  StateT.lift (denoted? (← d.follow node))

def nat (limit : Nat) : Node → Reading Nat := d.value (Node.nat? limit)

def float : Node → Reading Float := d.value Node.float?

def text : Node → Reading String := d.value Node.text?

def name : Node → Reading String := d.value Node.name?

def entries : Node → Reading (List (Node × Node)) := d.value Node.entries?

/-- Read all items of a collection. -/
def items {α : Type} (item : Node → Reading α) (node : Node) : Reading (List α) := do
  (← d.value Node.items? node).mapM item

end Document

end Vigil.Yaml
