import Vigil.Duration
import Vigil.Sorted.Map
import Vigil.Text.Quoted

/-!
Messages of a protocol in addressed envelopes. The recipient is a header: an envelope without one
is internal, made and consumed by one instance, and a star addresses everybody.
-/

namespace Vigil

/-- Headers by name. -/
abbrev Headers := SortedMap String String

namespace Header

/-- The recipient; internal envelopes have none. -/
def recipient : String := "to"

def sender : String := "from"

/-- Ties replies and timeouts to what caused them. -/
def conversation : String := "conversation-id"

/-- The instance that started the conversation. -/
def creator : String := "created-by"

/-- The recipient of an envelope for every member. -/
def everybody : String := "*"

end Header

/-- The name of a header that an envelope does not have. -/
structure MissingHeader where
  name : String
  deriving DecidableEq, Repr

def MissingHeader.message (e : MissingHeader) : String :=
  "Message has no header named " ++ Text.quote e.name

/-- Contents of one of several kinds, each with a name of its own. -/
class HasKind (α : Type) where
  kind : α → String
  /-- How long a timer with these contents waits if they decide it themselves. -/
  wait : α → Duration := fun _ => .ofMillis 0

structure Envelope (α : Type) where
  content : α
  headers : Headers
  deriving DecidableEq, Repr

namespace Envelope

variable {α β : Type}

instance [HasKind α] : HasKind (Envelope α) where
  kind e := HasKind.kind e.content
  wait e := HasKind.wait e.content

/-- An envelope for nobody else. -/
def internal (content : α) : Envelope α := ⟨content, ∅⟩

/-- Set a header, replacing any value it has. -/
def setHeader (e : Envelope α) (name value : String) : Envelope α :=
  { e with headers := e.headers.insert name value }

def header? (e : Envelope α) (name : String) : Option String := e.headers.get? name

def header (e : Envelope α) (name : String) : Except MissingHeader String :=
  match e.header? name with
  | some value => .ok value
  | none => .error ⟨name⟩

def hasHeader (e : Envelope α) (name : String) : Bool := (e.header? name).isSome

def sendTo (content : α) (recipient : String) : Envelope α :=
  (internal content).setHeader Header.recipient recipient

def broadcast (content : α) : Envelope α := sendTo content Header.everybody

/-- Copy those of the named headers that `source` has. -/
def copyHeaders (target : Envelope α) (source : Envelope β) (names : List String) : Envelope α :=
  names.foldl (fun e name =>
    match source.header? name with
    | some value => e.setHeader name value
    | none => e) target

/-- The headers that stay the same throughout a conversation. -/
def conversationHeaders : List String := [Header.conversation, Header.creator]

/-- What a timer armed while handling `cause` delivers: it belongs to the same conversation. -/
def timeout (content : α) (cause : Envelope β) : Envelope α :=
  (internal content).copyHeaders cause conversationHeaders

/-- An answer to the sender of `request`, or to everybody if the request names no sender. -/
def respond (content : α) (request : Envelope β) : Envelope α :=
  let answer :=
    match request.header? Header.sender with
    | some sender => sendTo content sender
    | none => broadcast content
  answer.copyHeaders request conversationHeaders

def recipient? (e : Envelope α) : Option String := e.header? Header.recipient

def isInternal (e : Envelope α) : Bool := e.recipient?.isNone

def isBroadcast (e : Envelope α) : Bool := e.recipient? == some Header.everybody

@[simp] theorem header?_setHeader (e : Envelope α) (name value other : String) :
    (e.setHeader name value).header? other = if other = name then some value else e.header? other :=
  SortedMap.get?_insert e.headers name other value

@[simp] theorem content_setHeader (e : Envelope α) (name value : String) :
    (e.setHeader name value).content = e.content := rfl

@[simp] theorem header?_internal (content : α) (name : String) :
    (internal content).header? name = none := rfl

end Envelope

end Vigil
