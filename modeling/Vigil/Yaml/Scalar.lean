import Vigil.Text.Numeral
import Vigil.Yaml.Cursor

/-!
Taking scalars from a YAML text: plain ones, ones in quotes, and blocks of lines.
-/

namespace Vigil.Yaml

/-- How a scalar is written. -/
inductive Style where
  | plain
  | quoted
  | literal
  | folded
  deriving DecidableEq, Repr

namespace Plain

/-- At the end of a plain scalar: a colon before a gap or, in a flow collection, a flow sign. -/
def atEnd (inFlow : Bool) (cs : List Char) : Bool :=
  match cs with
  | [] => true
  | c :: rest =>
    isBlank c || isBreak c || (c == ':' && atGap rest) ||
      (inFlow && (c == ',' || c == '[' || c == ']' || c == '\x7b' || c == '\x7d'))

/-- At a colon before a flow sign, which has no meaning in a flow collection. -/
def atStrayColon : List Char → Bool
  | ':' :: c :: _ =>
    c == ',' || c == '?' || c == '[' || c == ']' || c == '\x7b' || c == '\x7d'
  | _ => false

/-- Characters up to the next gap or end, backwards. -/
def run? (inFlow : Bool) : Nat → List Char → Cursor → Option (List Char × Cursor)
  | 0, taken, c => some (taken, c)
  | fuel + 1, taken, c =>
    if inFlow && atStrayColon c.rest then none
    else if atEnd inFlow c.rest then some (taken, c)
    else
      match c.rest with
      | d :: _ => run? inFlow fuel (d :: taken) (c.skip 1)
      | [] => some (taken, c)

/-- Take a plain scalar whose lines, in a block, are indented to `indent` at least. The answer also
tells whether a line end follows the scalar. The fuel exceeds the number of characters that are
left, and `text` is what was taken, backwards. -/
def take? (inFlow : Bool) (indent : Nat) :
    Nat → List Char → Gap → Cursor → Option (List Char × Bool × Cursor)
  | 0, _, _, _ => none
  | fuel + 1, text, gap, c =>
    if c.atDocumentMark || c.rest.head? == some '#' then some (text.reverse, gap.broken, c)
    else
      match run? inFlow fuel [] c with
      | none => none
      | some (taken, c) =>
        let text := if taken.isEmpty then text else taken ++ gap.appendTo text
        let gap := if taken.isEmpty then gap else Gap.empty
        if c.rest.isEmpty || !atGap c.rest then some (text.reverse, gap.broken, c)
        else
          match Gap.take? indent fuel gap c with
          | none => none
          | some (gap, c) =>
            if !inFlow && c.column < indent then some (text.reverse, gap.broken, c)
            else take? inFlow indent fuel text gap c

end Plain

namespace Quoted

/-- The character of a code point with that many hexadecimal digits. -/
def codePoint? (digits : Nat) (cs : List Char) : Option Char :=
  let hex := cs.take digits
  if hex.length < digits then none
  else
    (Text.digits? 16 hex).bind fun n =>
      if n < 0xD800 ∨ (0xE000 ≤ n ∧ n < 0x110000) then some (Char.ofNat n) else none

/-- The character that an escape stands for, and the length of the escape after its backslash. -/
def escape? : List Char → Option (Char × Nat)
  | [] => none
  | c :: rest =>
    match c with
    | '0' => some (Char.ofNat 0, 1)
    | 'a' => some (Char.ofNat 7, 1)
    | 'b' => some (Char.ofNat 8, 1)
    | 't' => some ('\t', 1)
    | '\t' => some ('\t', 1)
    | 'n' => some ('\n', 1)
    | 'v' => some (Char.ofNat 11, 1)
    | 'f' => some (Char.ofNat 12, 1)
    | 'r' => some ('\r', 1)
    | 'e' => some (Char.ofNat 27, 1)
    | ' ' => some (' ', 1)
    | '"' => some ('"', 1)
    | '/' => some ('/', 1)
    | '\\' => some ('\\', 1)
    | 'N' => some (Char.ofNat 0x85, 1)
    | '_' => some (Char.ofNat 0xA0, 1)
    | 'L' => some (Char.ofNat 0x2028, 1)
    | 'P' => some (Char.ofNat 0x2029, 1)
    | 'x' => (codePoint? 2 rest).map fun d => (d, 3)
    | 'u' => (codePoint? 4 rest).map fun d => (d, 5)
    | 'U' => (codePoint? 8 rest).map fun d => (d, 9)
    | _ => none

/-- Take a scalar up to and with its closing quote. The fuel exceeds the number of characters that
are left, and `text` is what was taken, backwards. -/
def take? (double : Bool) : Nat → List Char → Cursor → Option (List Char × Cursor)
  | 0, _, _ => none
  | fuel + 1, text, c =>
    if c.atDocumentMark then none
    else
      match c.rest with
      | [] => none
      | d :: rest =>
        if isBlank d || isBreak d then
          match Gap.take? 0 fuel Gap.empty c with
          | none => none
          | some (gap, c) => take? double fuel (gap.appendTo text) c
        else if !double && d == '\'' then
          if rest.head? == some '\'' then take? double fuel ('\'' :: text) (c.skip 2)
          else some (text.reverse, c.skip 1)
        else if double && d == '"' then some (text.reverse, c.skip 1)
        else if double && d == '\\' then
          if !rest.isEmpty && atLineEnd rest then
            let (_, c) := (c.skip 1).takeBreak
            match Gap.take? 0 fuel ⟨[], true, [], []⟩ c with
            | none => none
            | some (gap, c) => take? double fuel (gap.appendTo text) c
          else
            match escape? rest with
            | none => none
            | some (e, length) => take? double fuel (e :: text) (c.skip (length + 1))
        else take? double fuel (d :: text) (c.skip 1)

end Quoted

namespace Block

/-- What becomes of the line ends after the last line. -/
inductive Chomping where
  | strip
  | clip
  | keep
  deriving DecidableEq, Repr

def chomping? : Char → Option Chomping
  | '-' => some .strip
  | '+' => some .keep
  | _ => none

/-- An indentation from one to nine. -/
def increment? (c : Char) : Option Nat :=
  (Text.digitIn? 10 c).bind fun d => if d = 0 then none else some d

/-- The signs after the indicator, in either order. A zero is an error. -/
def header? (c : Cursor) : Option (Chomping × Option Nat × Cursor) :=
  match c.rest with
  | d :: rest =>
    match chomping? d with
    | some chomping =>
      match rest with
      | e :: _ =>
        if e == '0' then none
        else
          match increment? e with
          | some n => some (chomping, some n, c.skip 2)
          | none => some (chomping, none, c.skip 1)
      | [] => some (chomping, none, c.skip 1)
    | none =>
      if d == '0' then none
      else
        match increment? d with
        | some n =>
          match rest.head?.bind chomping? with
          | some chomping => some (chomping, some n, c.skip 2)
          | none => some (.clip, some n, c.skip 1)
        | none => some (.clip, none, c)
  | [] => some (.clip, none, c)

/-- Take empty lines and the indentation of the next line. Where the indentation is not known, it is
that of the most indented of these lines. A tab in its place is an error. The line ends are given
backwards. -/
def breaks? (indent : Option Nat) : Nat → Nat → List Char → Cursor →
    Option (Nat × List Char × Cursor)
  | 0, deepest, ends, c => some (deepest, ends, c)
  | fuel + 1, deepest, ends, c =>
    let line :=
      match indent with
      | some n => c.rest.take (n - c.column)
      | none => c.rest
    let c := c.skip (line.takeWhile (· == ' ')).length
    let deepest := max deepest c.column
    let inside :=
      match indent with
      | some n => decide (c.column < n)
      | none => true
    if inside && c.rest.head? == some '\t' then none
    else if c.rest.isEmpty || !atLineEnd c.rest then some (deepest, ends, c)
    else
      let (more, c) := c.takeBreak
      breaks? indent fuel deepest (more ++ ends) c

/-- Take the lines that are indented to `indent`. The answer has the text, the line end after the
last line and the ends of the empty lines after it, all of them backwards. The fuel exceeds the
number of characters that are left. -/
def lines? (folded : Bool) (indent : Nat) :
    Nat → List Char → List Char → List Char → Bool → Cursor →
      Option (List Char × List Char × List Char × Cursor)
  | 0, _, _, _, _, _ => none
  | fuel + 1, text, lastEnd, emptyEnds, wasBlank, c =>
    if c.column == indent && !c.rest.isEmpty then
      let nowBlank :=
        match c.rest with
        | d :: _ => isBlank d
        | [] => false
      let lead :=
        if folded && lastEnd == ['\n'] && !wasBlank && !nowBlank then
          if emptyEnds.isEmpty then [' '] else []
        else lastEnd
      let (line, c) := c.takeWhile fun d => !isBreak d
      let (ends, c) := c.takeBreak
      match breaks? (some indent) fuel 0 [] c with
      | none => none
      | some (_, more, c) =>
        let text := line.reverse ++ (emptyEnds ++ (lead ++ text))
        lines? folded indent fuel text ends more nowBlank c
    else some (text, lastEnd, emptyEnds, c)

/-- Take a block scalar after its indicator. The lines around it are indented to `parent`, and the
fuel exceeds the number of characters that are left. -/
def take? (folded : Bool) (parent : Int) (fuel : Nat) (c : Cursor) :
    Option (List Char × Cursor) := do
  let (chomping, increment, c) ← header? c
  let c := c.skipBlanks.skipComment
  if !atLineEnd c.rest then none
  let (_, c) := c.takeBreak
  let given := increment.map fun n => if parent < 0 then n else parent.toNat + n
  let (deepest, ends, c) ← breaks? given fuel 0 [] c
  let indent := given.getD (max deepest (max (parent + 1).toNat 1))
  let (text, lastEnd, emptyEnds, c) ← lines? folded indent fuel [] [] ends false c
  match chomping with
  | .strip => return (text.reverse, c)
  | .clip => return ((lastEnd ++ text).reverse, c)
  | .keep => return ((emptyEnds ++ (lastEnd ++ text)).reverse, c)

end Block

end Vigil.Yaml
