import Vigil.Warning

/-!
A registry of listeners. Listeners are known by name and are notified in the order of their
registrations. A pass of notifications calls the registrations that are present when it starts,
whatever the callbacks do to the registry, and a callback that breaks off does not stop it.
-/

namespace Vigil

/-- Registrations by the names of their listeners, oldest first. A listener may be registered more
than once. -/
structure Registry where
  toList : List String
  deriving DecidableEq, Repr

namespace Registry

instance : EmptyCollection Registry := ⟨⟨[]⟩⟩

def add (r : Registry) (name : String) : Registry := ⟨r.toList ++ [name]⟩

/-- Drop every registration of a listener. The answer tells whether there was one. -/
def remove (r : Registry) (name : String) : Registry × Bool :=
  (⟨r.toList.filter (· != name)⟩, r.toList.contains name)

def size (r : Registry) : Nat := r.toList.length

def isEmpty (r : Registry) : Bool := r.toList.isEmpty

/-- Call listeners one after the other, handing a state on, and collect the warnings about those
that break off. -/
def callEach {σ : Type} (call : String → σ → σ × Option Panic) :
    List String → σ → σ × List Warning
  | [], s => (s, [])
  | name :: names, s =>
    let (s, panic) := call name s
    let (s, warnings) := callEach call names s
    (s, (panic.map Warning.listenerPanicked).toList ++ warnings)

end Registry

/-- How a callback may break off. -/
inductive Breakdown where
  /-- With a text that is always the same. -/
  | fixedText
  /-- With a text that names the listener and what it was told. -/
  | madeText
  /-- With something that is no text. -/
  | noText
  deriving DecidableEq, Repr

/-- What a listener does when it is told a text, after noting that: it may add a listener, then
remove one, then break off. -/
structure Callback where
  add : Option String
  remove : Option String
  breakdown : Option Breakdown
  deriving DecidableEq, Repr

/-- A listener that only notes what it is told. -/
def Callback.quiet : Callback := ⟨none, none, none⟩

/-- Listeners that are told texts: the registry, what each listener does, and what they noted. -/
structure Audience where
  registry : Registry
  callbacks : SortedMap String Callback
  log : List String
  deriving DecidableEq, Repr

namespace Audience

def callbackOf (a : Audience) (name : String) : Callback :=
  (a.callbacks.get? name).getD .quiet

/-- Tell one listener a text. -/
def call (text name : String) (a : Audience) : Audience × Option Panic :=
  let callback := a.callbackOf name
  let registry :=
    match callback.add with
    | some other => a.registry.add other
    | none => a.registry
  let registry :=
    match callback.remove with
    | some other => (registry.remove other).1
    | none => registry
  let panic := callback.breakdown.map fun
    | .fixedText => Panic.text "static panic"
    | .madeText => Panic.text (name ++ " on " ++ text)
    | .noText => Panic.other
  ({ a with registry, log := a.log ++ [name ++ ":" ++ text] }, panic)

/-- Tell every listener that is registered now a text. -/
def notify (a : Audience) (text : String) : Audience × List Warning :=
  Registry.callEach (call text) a.registry.toList a

end Audience

end Vigil
