import Vigil.Yaml.Scalar
import Vigil.Yaml.Tag

/-!
The tokens of a YAML text. Indentation becomes tokens that open and close block collections, and a
colon makes a key of the node before it, whose token then comes in front of that node.
-/

namespace Vigil.Yaml

inductive Token where
  | version (major minor : Nat)
  | tagShort (handle : String) (start : Tag)
  | documentStart
  | documentEnd
  | blockSequence
  | blockMapping
  | blockEnd
  | flowSequence
  | flowSequenceEnd
  | flowMapping
  | flowMappingEnd
  | blockEntry
  | flowEntry
  | key
  | value
  | alias (name : String)
  | anchor (name : String)
  | tag (handle : String) (suffix : Tag)
  | scalar (text : String) (style : Style)
  deriving DecidableEq, Repr

/-- A node that a colon may yet turn into a key. Where it is the first on the indentation of a block
it has to be one. -/
structure MaybeKey where
  required : Bool
  /-- How many tokens come before the node. -/
  position : Nat
  index : Nat
  line : Nat
  column : Nat
  deriving Repr

/-- The state of going through a text. -/
structure Scan where
  cursor : Cursor
  /-- The column of the innermost block collection; -1 outside of all. -/
  indent : Int
  outerIndents : List Int
  /-- For the block and each flow collection that is open, innermost first, what may be a key. -/
  keys : List (Option MaybeKey)
  keyAllowed : Bool
  tokens : Array Token

namespace Scan

def start (text : List Char) : Scan := ⟨.start text, -1, [], [none], true, #[]⟩

/-- Whether a flow collection is open. -/
def inFlow (s : Scan) : Bool := !(s.keys.drop 1).isEmpty

def emit (s : Scan) (t : Token) : Scan := { s with tokens := s.tokens.push t }

def skip (s : Scan) (count : Nat) : Scan := { s with cursor := s.cursor.skip count }

def allowKey (s : Scan) (b : Bool) : Scan := { s with keyAllowed := b }

/-- Go over blanks, comments and line ends. At the start of a line of a block a tab is no blank. -/
def skipGap : Nat → Scan → Scan
  | 0, s => s
  | fuel + 1, s =>
    let tabs := s.inFlow || !s.keyAllowed
    let c := (s.cursor.skipMark.takeWhile fun d => d == ' ' || (tabs && d == '\t')).2
    let c := c.skipComment
    if !c.rest.isEmpty && atLineEnd c.rest then
      let s := { s with cursor := c.takeBreak.2 }
      skipGap fuel (if s.inFlow then s else s.allowKey true)
    else { s with cursor := c }

/-- A key does not go over the end of a line, nor over 1024 octets. -/
def isStale (s : Scan) (k : MaybeKey) : Bool :=
  k.line < s.cursor.line || k.index + 1024 < s.cursor.index

/-- Give up on nodes that can no longer be keys. It is an error if one has to be. -/
def dropStale? (s : Scan) : Option Scan :=
  let stale := s.keys.filterMap fun k => k.filter s.isStale
  if stale.any MaybeKey.required then none
  else some { s with keys := s.keys.map fun k => k.filter fun k => !s.isStale k }

/-- Nothing before here can be a key any more. -/
def dropKey? (s : Scan) : Option Scan :=
  match s.keys with
  | some k :: rest => if k.required then none else some { s with keys := none :: rest }
  | _ => some s

/-- The node that starts here may be a key, if keys are allowed here. -/
def saveKey? (s : Scan) : Option Scan :=
  if s.keyAllowed then
    let c := s.cursor
    let required := !s.inFlow && s.indent == (c.column : Int)
    s.dropKey?.map fun s =>
      { s with keys := some ⟨required, s.tokens.size, c.index, c.line, c.column⟩ :: s.keys.drop 1 }
  else some s

/-- Close the block collections that are indented more than `column`. -/
def unroll (column : Int) : List Int → Scan → Scan
  | [], s => s
  | outer :: rest, s =>
    if column < s.indent then
      unroll column rest
        { s with indent := outer, outerIndents := rest, tokens := s.tokens.push .blockEnd }
    else s

def unrollTo (s : Scan) (column : Int) : Scan :=
  if s.inFlow then s else unroll column s.outerIndents s

/-- Open a block collection at a column, if it is indented more than the one it is in. Its token
goes to the given place among the tokens. -/
def roll (s : Scan) (column : Nat) (position : Nat) (t : Token) : Scan :=
  if !s.inFlow && s.indent < (column : Int) then
    { s with
      indent := column
      outerIndents := s.indent :: s.outerIndents
      tokens := s.tokens.insertIdxIfInBounds position t }
  else s

/-- A sign that ends all open block collections. -/
def breakOff? (s : Scan) : Option Scan := (s.unrollTo (-1)).dropKey?.map (allowKey · false)

def openFlow? (s : Scan) (t : Token) : Option Scan :=
  s.saveKey?.map fun s => (({ s with keys := none :: s.keys }.allowKey true).skip 1).emit t

def closeFlow? (s : Scan) (t : Token) : Option Scan :=
  s.dropKey?.map fun s =>
    let keys := if s.inFlow then s.keys.drop 1 else s.keys
    (({ s with keys }.allowKey false).skip 1).emit t

def blockEntry? (s : Scan) : Option Scan := do
  if !s.inFlow && !s.keyAllowed then none
  let s ← (s.roll s.cursor.column s.tokens.size .blockSequence).dropKey?
  return ((s.allowKey true).skip 1).emit .blockEntry

def key? (s : Scan) : Option Scan := do
  if !s.inFlow && !s.keyAllowed then none
  let s ← (s.roll s.cursor.column s.tokens.size .blockMapping).dropKey?
  return ((s.allowKey (!s.inFlow)).skip 1).emit .key

def value? (s : Scan) : Option Scan :=
  match s.keys with
  | some k :: rest =>
    let s := { s with keys := none :: rest, tokens := s.tokens.insertIdxIfInBounds k.position .key }
    some ((((s.roll k.column k.position .blockMapping).allowKey false).skip 1).emit .value)
  | _ =>
    if !s.inFlow && !s.keyAllowed then none
    else
      let s := s.roll s.cursor.column s.tokens.size .blockMapping
      some (((s.allowKey (!s.inFlow)).skip 1).emit .value)

/-- Take the name of an anchor or alias after its sign. -/
def name? (s : Scan) (make : String → Token) : Option Scan := do
  let s ← s.saveKey?
  let (name, c) := (s.cursor.skip 1).takeWhile isWordChar
  let ended := atGap c.rest || (c.rest.head?.any fun d => "?:,]\x7d%@\x60".toList.contains d)
  if name.isEmpty || !ended then none
  return ({ s with cursor := c }.allowKey false).emit (make (String.ofList name))

/-- Take the tag characters that follow. -/
def tagText? (verbatim : Bool) (c : Cursor) : Option (Tag × Cursor) :=
  let (taken, c) := c.takeWhile (Tag.isTagChar verbatim)
  (Tag.ofWritten? taken).map fun tag => (tag, c)

/-- Take one tag character or more. -/
def properTagText? (verbatim : Bool) (c : Cursor) : Option (Tag × Cursor) :=
  if c.rest.head?.any (Tag.isTagChar verbatim) then tagText? verbatim c else none

/-- Take a tag from its exclamation mark on, as a handle and what follows the handle: in angle
brackets, where there is no handle, with a handle between exclamation marks, or local. A lone
exclamation mark is a tag without a handle. -/
def tagParts? (c : Cursor) : Option (String × Tag × Cursor) := do
  match c.rest with
  | '!' :: '<' :: _ =>
    let (tag, c) ← properTagText? true (c.skip 2)
    if c.rest.head? != some '>' then none
    return ("", tag, c.skip 1)
  | _ =>
    let (word, d) := (c.skip 1).takeWhile isWordChar
    if d.rest.head? == some '!' then
      let (tag, d) ← properTagText? false (d.skip 1)
      return (String.ofList ('!' :: word ++ ['!']), tag, d)
    else
      let (tag, d) ← tagText? false (c.skip 1)
      if tag.octets.isEmpty then return ("", .ofText "!", d)
      return ("!", tag, d)

def tag? (s : Scan) : Option Scan := do
  let s ← s.saveKey?
  let (handle, suffix, c) ← tagParts? s.cursor
  if !atGap c.rest && !(s.inFlow && c.rest.head? == some ',') then none
  return ({ s with cursor := c }.allowKey false).emit (.tag handle suffix)

def blockScalar? (s : Scan) (fuel : Nat) (folded : Bool) : Option Scan := do
  let s ← s.dropKey?
  let (text, c) ← Block.take? folded s.indent fuel (s.cursor.skip 1)
  let style := if folded then Style.folded else .literal
  return ({ s with cursor := c }.allowKey true).emit (.scalar (String.ofList text) style)

def quotedScalar? (s : Scan) (fuel : Nat) (double : Bool) : Option Scan := do
  let s ← s.saveKey?
  let (text, c) ← Quoted.take? double fuel [] (s.cursor.skip 1)
  return ({ s with cursor := c }.allowKey false).emit (.scalar (String.ofList text) .quoted)

def plainScalar? (s : Scan) (fuel : Nat) : Option Scan := do
  let s ← s.saveKey?
  let (text, broken, c) ←
    Plain.take? s.inFlow (s.indent + 1).toNat fuel [] Gap.empty s.cursor
  return ({ s with cursor := c }.allowKey broken).emit (.scalar (String.ofList text) .plain)

/-- Take the rest of a directive's line, which holds nothing but a comment. -/
def endDirective? (c : Cursor) : Option Cursor :=
  let c := c.skipBlanks.skipComment
  if atLineEnd c.rest then some c.takeBreak.2 else none

/-- A number of at most nine digits. -/
def versionNumber? (cs : List Char) : Option Nat :=
  if cs.length ≤ 9 then Text.digits? 10 cs else none

def isDigit (c : Char) : Bool := (Text.digitIn? 10 c).isSome

/-- Take a directive: the version of YAML, or a handle that is short for the start of tags. -/
def directive? (s : Scan) : Option Scan := do
  let s ← s.breakOff?
  let (name, c) := (s.cursor.skip 1).takeWhile isWordChar
  if !atGap c.rest then none
  let c := c.skipBlanks
  if name = ['Y', 'A', 'M', 'L'] then
    let (major, c) := c.takeWhile isDigit
    if c.rest.head? != some '.' then none
    let (minor, c) := (c.skip 1).takeWhile isDigit
    let c ← endDirective? c
    return { s with cursor := c }.emit (.version (← versionNumber? major) (← versionNumber? minor))
  else if name = ['T', 'A', 'G'] then
    if c.rest.head? != some '!' then none
    let (word, c) := (c.skip 1).takeWhile isWordChar
    let (handle, c) ←
      if c.rest.head? == some '!' then some ('!' :: word ++ ['!'], c.skip 1)
      else if word.isEmpty then some (['!'], c) else none
    if c.rest.isEmpty || !isBlank (c.rest.headD ' ') then none
    let (start, c) ← properTagText? true c.skipBlanks
    if !atGap c.rest then none
    let c ← endDirective? c
    return { s with cursor := c }.emit (.tagShort (String.ofList handle) start)
  else none

/-- The characters that do not start a plain scalar, gaps apart. -/
def isSign (c : Char) : Bool :=
  "-?:,[]\x7b\x7d#&*!|>'\"%@\x60".toList.contains c

/-- Take the next token at a character. The fuel exceeds the number of characters that are left. -/
def next? (s : Scan) (fuel : Nat) (d : Char) (rest : List Char) : Option Scan :=
  let c := s.cursor
  if c.column == 0 && d == '%' then s.directive?
  else if c.atMark '-' then s.breakOff?.map fun s => (s.skip 3).emit .documentStart
  else if c.atMark '.' then s.breakOff?.map fun s => (s.skip 3).emit .documentEnd
  else if d == '[' then s.openFlow? .flowSequence
  else if d == '\x7b' then s.openFlow? .flowMapping
  else if d == ']' then s.closeFlow? .flowSequenceEnd
  else if d == '\x7d' then s.closeFlow? .flowMappingEnd
  else if d == ',' then s.dropKey?.map fun s => ((s.allowKey true).skip 1).emit .flowEntry
  else if d == '-' && atGap rest then s.blockEntry?
  else if d == '?' && (s.inFlow || atGap rest) then s.key?
  else if d == ':' && (s.inFlow || atGap rest) then s.value?
  else if d == '*' then s.name? .alias
  else if d == '&' then s.name? .anchor
  else if d == '!' then s.tag?
  else if d == '|' && !s.inFlow then s.blockScalar? fuel false
  else if d == '>' && !s.inFlow then s.blockScalar? fuel true
  else if d == '\'' then s.quotedScalar? fuel false
  else if d == '"' then s.quotedScalar? fuel true
  else if !(isBlank d || isBreak d || isSign d)
      || (d == '-' && !(rest.head?.any isBlank))
      || (!s.inFlow && (d == '?' || d == ':') && !atGap rest) then s.plainScalar? fuel
  else none

/-- Take all tokens up to the end of the text. Every token costs one unit of fuel and takes up one
character at least. -/
def all? : Nat → Scan → Option (Array Token)
  | 0, _ => none
  | fuel + 1, s =>
    let s := skipGap fuel s
    s.dropStale?.bind fun s =>
      let s := s.unrollTo s.cursor.column
      match s.cursor.rest with
      | [] => (s.unrollTo (-1)).dropKey?.map Scan.tokens
      | d :: rest => (s.next? fuel d rest).bind fun s => all? fuel s

end Scan

def Token.scan? (text : String) : Option (List Token) :=
  let cs := text.toList
  if cs.all isAllowed then (Scan.all? (cs.length + 2) (.start cs)).map Array.toList else none

end Vigil.Yaml
