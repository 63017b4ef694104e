import Vigil.Detector.Operation
import Vigil.Listeners
import Vigil.Machine

/-!
A machine together with its outlet and with the listeners that are told of the transitions of its
detector. A listener may call the machine back from inside its callback, a limited number of
times; such a call is handled to its end, with all notifications of its own, before the other
listeners hear of the transition at hand.
-/

namespace Vigil

inductive TransitionKind where
  | failed
  | alive
  deriving DecidableEq, Repr

namespace TransitionKind

def name : TransitionKind → String
  | failed => "failed"
  | alive => "alive"

end TransitionKind

namespace Transition

def kind : Transition → TransitionKind
  | failed _ => .failed
  | alive _ => .alive

def subject : Transition → InstanceId
  | failed id => id
  | alive id => id

end Transition

/-- What a listener does about a transition after noting it. -/
inductive WatcherAct where
  | nothing
  | breakDown (b : Breakdown)
  /-- Ask the machine whether the instance is failed by quorum and whether to take over. -/
  | query
  /-- Let the machine handle messages: each time those of the next turn, and after the last turn
  none. -/
  | call (turns : List (List (Envelope Signal)))
  deriving DecidableEq, Repr

/-- Let the machine handle a message, at most `times` times. -/
def WatcherAct.handle (message : Envelope Signal) (times : Nat) : WatcherAct :=
  .call (List.replicate times [message])

/-- A listener for transitions; it may act on those of one kind only. -/
structure Watcher where
  only : Option TransitionKind
  act : WatcherAct
  deriving DecidableEq, Repr

namespace Watcher

def quiet : Watcher := ⟨none, .nothing⟩

/-- What a listener does about a transition of some kind. -/
def actOn (w : Watcher) (kind : TransitionKind) : WatcherAct :=
  if w.only = none ∨ w.only = some kind then w.act else .nothing

/-- How often a listener may still call the machine. -/
def calls (w : Watcher) : Nat :=
  match w.act with
  | .call turns => turns.flatten.length
  | _ => 0

/-- The listener after a turn of calling the machine. -/
def called (w : Watcher) : Watcher :=
  match w.act with
  | .call turns => { w with act := .call turns.tail }
  | _ => w

end Watcher

/-- What an instance does, in order. Others see what it sends, and what it tells its listeners. -/
inductive Effect where
  /-- It begins to handle a message. -/
  | took (e : Envelope Signal)
  /-- Transitions have come of what it has just done, and the listeners are yet to be told. -/
  | arose (ts : List Transition)
  | sent (e : Envelope Signal)
  | warned (w : Warning)
  | told (listener : String) (t : Transition)
  | queried (listener : String) (id : InstanceId) (failed promote : Bool)
  | handled (listener : String)
  deriving DecidableEq, Repr

def Handed.effect (h : Handed) : Effect :=
  match h.refusal with
  | none => .sent h.envelope
  | some r => .warned (.sendingRefused r)

/-- The effects of an outcome, its notifications apart. -/
def Outcome.effects (o : Outcome) : List Effect :=
  o.handed.map Handed.effect ++ o.warnings.map Effect.warned

structure Participant where
  machine : Machine
  outlet : Outlet
  registry : Registry
  watchers : SortedMap String Watcher

namespace Participant

def watcher (p : Participant) (name : String) : Watcher :=
  (p.watchers.get? name).getD .quiet

/-- How often listeners may still call the machine. -/
def calls (p : Participant) : Nat := (p.watchers.values.map Watcher.calls).foldr (· + ·) 0

/-- How a listener breaks off that was told of an instance. -/
def panicOf (name : String) (id : InstanceId) : Breakdown → Panic
  | .fixedText => .text "static panic"
  | .madeText => .text (name ++ " cannot handle " ++ id.text)
  | .noText => .other

/-- Handle what a listener calls the machine for, one message after the other. -/
def callEach (callBack : Participant → Envelope Signal → Participant × List Effect)
    (name : String) : List (Envelope Signal) → Participant → Participant × List Effect
  | [], p => (p, [])
  | e :: es, p =>
    let (p, fs) := callBack p e
    let (p, fs') := callEach callBack name es p
    (p, fs ++ .handled name :: fs')

/-- Tell one listener of a transition. Its calls of the machine go to `callBack`. -/
def tell (callBack : Participant → Envelope Signal → Participant × List Effect) (t : Transition)
    (p : Participant) (name : String) : Participant × List Effect :=
  let w := p.watcher name
  match w.actOn t.kind with
  | .nothing => (p, [.told name t])
  | .breakDown b => (p, [.told name t, .warned (.listenerPanicked (panicOf name t.subject b))])
  | .query =>
    let d := p.machine.detector
    (p, [.told name t, .queried name t.subject (d.isFailed t.subject) d.shouldPromote])
  | .call [] => (p, [.told name t])
  | .call (turn :: _) =>
    let (p, es) :=
      callEach callBack name turn { p with watchers := p.watchers.insert name w.called }
    (p, .told name t :: es)

/-- Tell listeners of a transition one after the other. -/
def tellEach (callBack : Participant → Envelope Signal → Participant × List Effect)
    (t : Transition) : List String → Participant → Participant × List Effect
  | [], p => (p, [])
  | name :: names, p =>
    let (p, es) := tell callBack t p name
    let (p, es') := tellEach callBack t names p
    (p, es ++ es')

/-- Tell the listeners registered at the time of each transition. -/
def tellAll (callBack : Participant → Envelope Signal → Participant × List Effect) :
    List Transition → Participant → Participant × List Effect
  | [], p => (p, [])
  | t :: ts, p =>
    let (p, es) := tellEach callBack t p.registry.toList p
    let (p, es') := tellAll callBack ts p
    (p, es ++ es')

/-- Handle a message, with calls back going to `callBack`. -/
def handleWith (callBack : Participant → Envelope Signal → Participant × List Effect)
    (p : Participant) (e : Envelope Signal) : Participant × List Effect :=
  let (machine, o) := p.machine.handle p.outlet e
  let (p, es) := tellAll callBack o.transitions { p with machine }
  (p, .took e :: .arose o.transitions :: o.effects ++ es)

/-- Handle a message with calls back nested at most `depth` deep. -/
def handleWithin : Nat → Participant → Envelope Signal → Participant × List Effect
  | 0 => handleWith fun p _ => (p, [])
  | depth + 1 => handleWith (handleWithin depth)

/-- Handle a message. A call back costs its listener one of its calls, so calls are nested no
deeper than there are calls. -/
def handle (p : Participant) (e : Envelope Signal) : Participant × List Effect :=
  handleWithin p.calls p e

/-- Tell the listeners of transitions. -/
def notify (p : Participant) (ts : List Transition) : Participant × List Effect :=
  tellAll (handleWithin p.calls) ts p

def handleAll (p : Participant) : List (Envelope Signal) → Participant × List Effect
  | [] => (p, [])
  | e :: es =>
    let (p, fs) := p.handle e
    let (p, fs') := p.handleAll es
    (p, fs ++ fs')

/-- Move the clock and handle the messages of the timers that expire. -/
def tick (p : Participant) (time : Nat) : Participant × List Effect :=
  let (machine, due) := p.machine.expire time
  { p with machine }.handleAll due

/-- Perform an operation on the detector and tell the listeners of what comes of it. -/
def perform (p : Participant) (op : DetectorOperation) :
    Participant × DetectorAnswer × List Effect :=
  let (machine, answer, ts) := p.machine.withDetector fun d => d.perform op
  let (p, es) := { p with machine }.notify ts
  (p, answer, .arose ts :: es)

/-- Let `f` change the detector while nobody looks. -/
def updateDetector (p : Participant) (f : Detector → Detector) : Participant :=
  { p with machine := { p.machine with detector := f p.machine.detector } }

end Participant

end Vigil
