import Vigil.Yaml.Token

/-!
The nodes of a YAML document, read from its tokens. Anchors become numbers, and an alias is a node
of its own that has the number of its anchor.
-/

namespace Vigil.Yaml

/-- The number of its anchor and its tag, as far as a node has them. -/
structure Properties where
  anchor : Option Nat
  tag : Option Tag
  deriving DecidableEq, Repr

inductive Node where
  | scalar (text : String) (style : Style) (properties : Properties)
  | sequence (items : List Node) (properties : Properties)
  | mapping (entries : List (Node × Node)) (properties : Properties)
  | alias (anchor : Nat)
  deriving Inhabited

namespace Node

/-- What stands for a node that is left out. -/
def blank : Node := scalar "" .plain ⟨none, none⟩

/-- The tag of a node. -/
def tag? : Node → Option Tag
  | scalar _ _ p => p.tag
  | sequence _ p => p.tag
  | mapping _ p => p.tag
  | .alias _ => none

end Node

/-- What is known when a node is read: the number of the last anchor of each name, and what tag
handles are short for. -/
structure Scope where
  anchors : List (String × Nat)
  handles : List (String × Tag)

namespace Scope

def fresh : Scope := ⟨[], []⟩

/-- The number of the last anchor of a name. -/
def resolve? (s : Scope) (name : String) : Option Nat :=
  (s.anchors.find? fun a => a.1 == name).map Prod.snd

/-- Give an anchor its number, which is how many names anchors have had before. So it is no new
number if no anchor has had a new name since the last anchor whose name was not new. -/
def mark (s : Scope) (name : String) : Nat × Scope :=
  let number := s.anchors.length
  (number, { s with anchors := (name, number) :: s.anchors.filter fun a => a.1 != name })

/-- The full tag. -/
def fullTag? (s : Scope) (handle : String) (suffix : Tag) : Option Tag :=
  if handle.isEmpty then some suffix
  else
    match s.handles.find? fun h => h.1 == handle with
    | some (_, start) => some (start.append suffix)
    | none =>
      if handle = "!" then some ((Tag.ofText "!").append suffix)
      else if handle = "!!" then some ((Tag.standard "").append suffix)
      else none

end Scope

/-- Take an anchor and a tag, in either order, as far as they are there. -/
def Properties.take? (s : Scope) : List Token → Option (Properties × Scope × List Token)
  | .anchor name :: .tag handle suffix :: rest => both name handle suffix rest
  | .tag handle suffix :: .anchor name :: rest => both name handle suffix rest
  | .anchor name :: rest => let (number, s) := s.mark name; some (⟨some number, none⟩, s, rest)
  | .tag handle suffix :: rest =>
    (s.fullTag? handle suffix).map fun tag => (⟨none, some tag⟩, s, rest)
  | rest => some (⟨none, none⟩, s, rest)
where
  both (name handle : String) (suffix : Tag) (rest : List Token) :
      Option (Properties × Scope × List Token) :=
    (s.fullTag? handle suffix).map fun tag =>
      let (number, s) := s.mark name
      (⟨some number, some tag⟩, s, rest)

/-- Whether there is an anchor or a tag. -/
def Properties.any (p : Properties) : Bool := p.anchor.isSome || p.tag.isSome

/-- Where a node stands, which decides what collections may start there. -/
inductive Place where
  | flow
  | block
  /-- Below a key of a block, where a sequence need not be indented. -/
  | belowKey
  deriving DecidableEq, Repr

/-- The tokens with which a value below a key, or an item of an unindented sequence, is left out. -/
def endsBlockValue : Token → Bool
  | .key | .value | .blockEnd => true
  | _ => false

def endsFlowPair : Token → Bool
  | .value | .flowEntry | .flowSequenceEnd => true
  | _ => false

def endsFlowKey : Token → Bool
  | .value | .flowEntry | .flowMappingEnd => true
  | _ => false

def endsFlowSequenceValue : Token → Bool
  | .flowEntry | .flowSequenceEnd => true
  | _ => false

def endsFlowMappingValue : Token → Bool
  | .flowEntry | .flowMappingEnd => true
  | _ => false

/-- A node, the scope after it, and the tokens that follow. -/
abbrev Taken (α : Type) := Option (α × Scope × List Token)

/-- Whether the tokens start with one that satisfies `p`; where they end, it is so. -/
def startsWith (p : Token → Bool) : List Token → Bool
  | [] => true
  | t :: _ => p t

mutual

/-- Take a node. Every node and every step inside a collection costs one unit of fuel. -/
def takeNode (place : Place) : Nat → Scope → List Token → Taken Node
  | 0, _, _ => none
  | fuel + 1, s, ts =>
    match ts with
    | .alias name :: rest => (s.resolve? name).map fun number => (.alias number, s, rest)
    | ts =>
      match Properties.take? s ts with
      | none => none
      | some (p, s, ts) =>
        let blank : Taken Node := if p.any then some (.scalar "" .plain p, s, ts) else none
        match ts with
        | .scalar text style :: rest => some (.scalar text style p, s, rest)
        | .flowSequence :: rest =>
          (takeFlowItems true fuel s rest).map fun (items, r) => (.sequence items p, r)
        | .flowMapping :: rest =>
          (takeFlowEntries true fuel s rest).map fun (entries, r) => (.mapping entries p, r)
        | .blockEntry :: rest =>
          if place = .belowKey then
            (takeItems false fuel s (.blockEntry :: rest)).map fun (items, r) =>
              (.sequence items p, r)
          else blank
        | .blockSequence :: rest =>
          if place = .flow then blank
          else (takeItems true fuel s rest).map fun (items, r) => (.sequence items p, r)
        | .blockMapping :: rest =>
          if place = .flow then blank
          else (takeEntries fuel s rest).map fun (entries, r) => (.mapping entries p, r)
        | _ => blank

/-- Take the items of a block sequence; one that is indented has a closing token. -/
def takeItems (indented : Bool) : Nat → Scope → List Token → Taken (List Node)
  | 0, _, _ => none
  | fuel + 1, s, ts =>
    match ts with
    | .blockEntry :: rest =>
      let leftOut := startsWith (fun t =>
        t == .blockEntry || t == .blockEnd || (!indented && endsBlockValue t)) rest
      let item : Taken Node :=
        if leftOut then some (.blank, s, rest) else takeNode .block fuel s rest
      match item with
      | none => none
      | some (node, s, rest) =>
        (takeItems indented fuel s rest).map fun (items, s, rest) => (node :: items, s, rest)
    | .blockEnd :: rest => if indented then some ([], s, rest) else some ([], s, ts)
    | ts => if indented then none else some ([], s, ts)

/-- Take the entries of a block mapping and its closing token. -/
def takeEntries : Nat → Scope → List Token → Taken (List (Node × Node))
  | 0, _, _ => none
  | fuel + 1, s, ts =>
    match ts with
    | .blockEnd :: rest => some ([], s, rest)
    | ts =>
      let key : Taken Node :=
        match ts with
        | .key :: rest =>
          if startsWith endsBlockValue rest then some (.blank, s, rest)
          else takeNode .belowKey fuel s rest
        | _ => none
      match key with
      | none => none
      | some (key, s, ts) =>
        let value : Taken Node :=
          match ts with
          | .value :: rest =>
            if startsWith endsBlockValue rest then some (.blank, s, rest)
            else takeNode .belowKey fuel s rest
          | ts => some (.blank, s, ts)
        match value with
        | none => none
        | some (value, s, rest) =>
          (takeEntries fuel s rest).map fun (entries, s, rest) => ((key, value) :: entries, s, rest)

/-- Take the items of a flow sequence and its closing token. A pair among them is a mapping. -/
def takeFlowItems (first : Bool) : Nat → Scope → List Token → Taken (List Node)
  | 0, _, _ => none
  | fuel + 1, s, ts =>
    let start : Option (List Token) :=
      match ts with
      | .flowEntry :: rest => if first then some ts else some rest
      | .flowSequenceEnd :: _ => some ts
      | _ => if first then some ts else none
    match start with
    | none => none
    | some (.flowSequenceEnd :: rest) => some ([], s, rest)
    | some ts =>
      let item : Taken Node :=
        match ts with
        | .key :: rest => takePair fuel s rest
        | ts => takeNode .flow fuel s ts
      match item with
      | none => none
      | some (node, s, rest) =>
        (takeFlowItems false fuel s rest).map fun (items, s, rest) => (node :: items, s, rest)

/-- Take key and value of a pair in a flow sequence. -/
def takePair : Nat → Scope → List Token → Taken Node
  | 0, _, _ => none
  | fuel + 1, s, ts =>
    let key : Taken Node :=
      if startsWith endsFlowPair ts then some (.blank, s, ts.drop 1) else takeNode .flow fuel s ts
    match key with
    | none => none
    | some (key, s, ts) =>
      let value : Taken Node :=
        match ts with
        | .value :: rest =>
          if startsWith endsFlowSequenceValue rest then some (.blank, s, rest)
          else takeNode .flow fuel s rest
        | ts => some (.blank, s, ts)
      value.map fun (value, r) => (.mapping [(key, value)] ⟨none, none⟩, r)

/-- Take the entries of a flow mapping and its closing token. -/
def takeFlowEntries (first : Bool) : Nat → Scope → List Token → Taken (List (Node × Node))
  | 0, _, _ => none
  | fuel + 1, s, ts =>
    let start : Option (List Token) :=
      match ts with
      | .flowEntry :: rest => if first then some ts else some rest
      | .flowMappingEnd :: _ => some ts
      | _ => if first then some ts else none
    match start with
    | none => none
    | some (.flowMappingEnd :: rest) => some ([], s, rest)
    | some ts =>
      let key : Option (Bool × Node × Scope × List Token) :=
        match ts with
        | .key :: rest =>
          if startsWith endsFlowKey rest then some (true, .blank, s, rest)
          else (takeNode .flow fuel s rest).map fun r => (true, r)
        | ts => (takeNode .flow fuel s ts).map fun r => (false, r)
      match key with
      | none => none
      | some (hasValue, key, s, ts) =>
        let value : Taken Node :=
          match hasValue, ts with
          | true, .value :: rest =>
            if startsWith endsFlowMappingValue rest then some (.blank, s, rest)
            else takeNode .flow fuel s rest
          | _, ts => some (.blank, s, ts)
        match value with
        | none => none
        | some (value, s, rest) =>
          (takeFlowEntries false fuel s rest).map fun (entries, s, rest) =>
            ((key, value) :: entries, s, rest)

end

/-- Take directives. A version may be given once, and a handle may be given a meaning once. -/
def takeDirectives (versioned : Bool) (s : Scope) : List Token → Option (Scope × List Token)
  | .version major minor :: rest =>
    if versioned || major != 1 || (minor != 1 && minor != 2) then none
    else takeDirectives true s rest
  | .tagShort handle start :: rest =>
    if s.handles.any fun h => h.1 == handle then none
    else takeDirectives versioned { s with handles := (handle, start) :: s.handles } rest
  | rest => some (s, rest)

def isDirective : Token → Bool
  | .version _ _ | .tagShort _ _ => true
  | _ => false

/-- The tokens with which a document without a node ends. -/
def endsDocument : Token → Bool
  | .documentStart | .documentEnd => true
  | t => isDirective t

/-- Take the node of a document, which may be left out after the mark of its start. -/
def takeDocument (ts : List Token) : Option (Node × List Token) := do
  let explicit := startsWith (fun t => t == .documentStart || isDirective t) ts
  let fuel := 2 * ts.length + 2
  if explicit then
    let (s, ts) ← takeDirectives false .fresh ts
    match ts with
    | .documentStart :: rest =>
      if startsWith endsDocument rest then return (.blank, rest)
      let (node, _, rest) ← takeNode .block fuel s rest
      return (node, rest)
    | _ => none
  else
    let (node, _, rest) ← takeNode .block fuel .fresh ts
    return (node, rest)

/-- The node of a text that has at most one document, or none if the text has none. -/
def Node.ofTokens? (ts : List Token) : Option (Option Node) :=
  match ts with
  | [] => some none
  | ts =>
    (takeDocument ts).bind fun (node, rest) =>
      if rest.all (· == .documentEnd) then some (some node) else none

/-- Read a text that has at most one document. -/
def Node.parse? (text : String) : Option (Option Node) :=
  (Token.scan? text).bind Node.ofTokens?

end Vigil.Yaml
