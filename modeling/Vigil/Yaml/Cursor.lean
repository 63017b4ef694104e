/-!
A place in a YAML text, and the classes of characters on which YAML's layout rests.
-/

namespace Vigil.Yaml

/-- The characters that a text may contain. -/
def isAllowed (c : Char) : Bool :=
  let n := c.toNat
  n == 9 || n == 10 || n == 13 || (32 ≤ n && n ≤ 126) || n == 0x85 || (0xA0 ≤ n && n ≤ 0xFFFD) ||
    0x10000 ≤ n

/-- Space or tab. -/
def isBlank (c : Char) : Bool := c == ' ' || c == '\t'

/-- A character that ends a line. -/
def isBreak (c : Char) : Bool :=
  c == '\n' || c == '\r' || c.toNat == 0x85 || c.toNat == 0x2028 || c.toNat == 0x2029

/-- A letter or digit of ASCII, a hyphen or an underscore. -/
def isWordChar (c : Char) : Bool := c.isAlphanum || c == '-' || c == '_'

/-- At a blank, a line end or the end of the text. -/
def atGap : List Char → Bool
  | [] => true
  | c :: _ => isBlank c || isBreak c

/-- At a line end or the end of the text. -/
def atLineEnd : List Char → Bool
  | [] => true
  | c :: _ => isBreak c

/-- How many octets a text takes in UTF-8. -/
def octets (cs : List Char) : Nat := cs.foldr (fun c n => c.utf8Size + n) 0

/-- The rest of a text, and how far it is from the start of the text and of its line. -/
structure Cursor where
  rest : List Char
  /-- The octets in front of here. -/
  index : Nat
  line : Nat
  /-- The characters of the line in front of here. -/
  column : Nat
  deriving Repr

namespace Cursor

def start (text : List Char) : Cursor := ⟨text, 0, 0, 0⟩

/-- Go over some characters of one line. -/
def skip (c : Cursor) (count : Nat) : Cursor :=
  ⟨c.rest.drop count, c.index + octets (c.rest.take count), c.line, c.column + count⟩

/-- Go over a line end, if there is one; the answer is what it stands for in a scalar. -/
def takeBreak (c : Cursor) : List Char × Cursor :=
  match c.rest with
  | '\r' :: '\n' :: rest => (['\n'], ⟨rest, c.index + 2, c.line + 1, 0⟩)
  | d :: rest =>
    let next := ⟨rest, c.index + d.utf8Size, c.line + 1, 0⟩
    if d.toNat == 0x2028 || d.toNat == 0x2029 then ([d], next)
    else if isBreak d then (['\n'], next)
    else ([], c)
  | [] => ([], c)

/-- Take the characters that satisfy `p`, which holds of no line end. -/
def takeWhile (c : Cursor) (p : Char → Bool) : List Char × Cursor :=
  let taken := c.rest.takeWhile p
  (taken, c.skip taken.length)

def skipBlanks (c : Cursor) : Cursor := (c.takeWhile isBlank).2

/-- Go over a mark of the byte order, which may stand at the start of every line. It is no content,
but it takes up a column. -/
def skipMark (c : Cursor) : Cursor :=
  match c.rest with
  | d :: _ => if c.column == 0 && d.toNat == 0xFEFF then c.skip 1 else c
  | [] => c

/-- Go over a comment, if there is one. -/
def skipComment (c : Cursor) : Cursor :=
  match c.rest with
  | '#' :: _ => (c.takeWhile fun d => !isBreak d).2
  | _ => c

/-- At three equal characters `mark` at the start of a line, alone or before a gap. -/
def atMark (c : Cursor) (mark : Char) : Bool :=
  c.column == 0 && c.rest.take 3 == [mark, mark, mark] && atGap (c.rest.drop 3)

/-- At the start or the end of a document. -/
def atDocumentMark (c : Cursor) : Bool := c.atMark '-' || c.atMark '.'

end Cursor

/-- White space inside a scalar: blanks on one line, or one line end and more. The characters that
were taken last come first. -/
structure Gap where
  blanks : List Char
  /-- Whether there is a line end. -/
  broken : Bool
  first : List Char
  more : List Char

namespace Gap

def empty : Gap := ⟨[], false, [], []⟩

/-- Append white space to a text, which is given backwards: one line end is a blank, and of several
the first does not count. -/
def appendTo (text : List Char) (g : Gap) : List Char :=
  if g.broken then
    if g.first = ['\n'] then if g.more.isEmpty then ' ' :: text else g.more ++ text
    else g.more ++ (g.first ++ text)
  else g.blanks ++ text

/-- Take white space. A tab in front of column `indent` of a new line is an error. -/
def take? (indent : Nat) : Nat → Gap → Cursor → Option (Gap × Cursor)
  | 0, g, c => some (g, c)
  | fuel + 1, g, c =>
    match c.rest with
    | d :: _ =>
      if isBlank d then
        if g.broken then
          if c.column < indent && d == '\t' then none else take? indent fuel g (c.skip 1)
        else take? indent fuel { g with blanks := d :: g.blanks } (c.skip 1)
      else if isBreak d then
        let (ends, c) := c.takeBreak
        if g.broken then take? indent fuel { g with more := ends ++ g.more } c
        else take? indent fuel ⟨[], true, ends, g.more⟩ c
      else some (g, c)
    | [] => some (g, c)

end Gap

end Vigil.Yaml
