import Vigil.Timers.Logical
import Vigil.Timers.RealTime

/-!
Timers whose messages go to a scripted receiver: for each kind of message it performs a fixed list
of acts, as long as its budget lasts. The same steps run on either sort of timers.
-/

namespace Vigil

/-- A message that knows the key it was armed under. -/
structure Note where
  key : String
  kind : String
  text : String
  deriving DecidableEq, Repr

instance : HasKind Note where
  kind := Note.kind

inductive ScriptAct where
  /-- Arm a timer with a new message. -/
  | set (note : Note)
  /-- Arm the timer of the message anew. -/
  | again
  | cancel (key : String)
  | cancelAll
  /-- Refuse the message and stop. -/
  | refuse (r : Refusal)
  deriving DecidableEq, Repr

/-- A receiver that performs acts for each kind of message. Every act costs one unit of the
budget. -/
structure Script where
  acts : SortedMap String (List ScriptAct)
  budget : Nat
  deriving DecidableEq, Repr

namespace Script

/-- Perform acts about a message as long as the budget lasts; the answer has the budget left. -/
def perform (note : Note) : Nat → List ScriptAct → Nat × TimerReply String Note
  | 0, _ => (0, ⟨[], none⟩)
  | budget, [] => (budget, ⟨[], none⟩)
  | budget + 1, act :: acts =>
    match act with
    | .refuse r => (budget, ⟨[], some r⟩)
    | .set other => followedBy (.set other.key other) (perform note budget acts)
    | .again => followedBy (.set note.key note) (perform note budget acts)
    | .cancel key => followedBy (.cancel key) (perform note budget acts)
    | .cancelAll => followedBy .cancelAll (perform note budget acts)
where
  /-- Put a command in front of a reply. -/
  followedBy (c : TimerCommand String Note) (r : Nat × TimerReply String Note) :
      Nat × TimerReply String Note :=
    (r.1, ⟨c :: r.2.commands, r.2.refusal⟩)

def reply (s : Script) (note : Note) : Script × TimerReply String Note :=
  let (budget, r) := perform note s.budget ((s.acts.get? note.kind).getD [])
  ({ s with budget }, r)

/-- The receiver that a script is, if there is one. -/
def receive : TimerReceiver (Option Script) String Note
  | none, _, _ => (none, none)
  | some s, _, note => let (s, r) := s.reply note; (some s, some r)

end Script

/-- Timers of either sort together with their receiver. -/
inductive ScriptedTimers where
  | logical (timers : LogicalTimers String Note) (script : Option Script)
  | realTime (timers : RealTimers String Note) (script : Option Script)

namespace ScriptedTimers

def now : ScriptedTimers → Nat
  | logical t _ => t.now
  | realTime t _ => t.now

def count : ScriptedTimers → Nat
  | logical t _ => t.count
  | realTime t _ => t.count

def isPending (key : String) : ScriptedTimers → Bool
  | logical t _ => t.isPending key
  | realTime t _ => t.isPending key

/-- How long a timer armed with a message would wait. -/
def delayOf (note : Note) : ScriptedTimers → Duration
  | logical t _ => t.delay.of note
  | realTime t _ => t.delay.of note

/-- Register a receiver in place of the one before. -/
def register (script : Script) : ScriptedTimers → ScriptedTimers
  | logical t _ => logical t (some script)
  | realTime t _ => realTime t (some script)

/-- Move the clock of logical timers; real time passes on its own. -/
def tick (time : Nat) : ScriptedTimers → ScriptedTimers × List (TimerEvent String Note)
  | logical t s => let (t, s, es) := t.tick Script.receive s time; (logical t s, es)
  | realTime t s => (realTime t s, [])

/-- Let `ms` milliseconds pass. -/
def advance (ms : Nat) : ScriptedTimers → ScriptedTimers × List (TimerEvent String Note)
  | logical t s => let (t, s, es) := t.tick Script.receive s (t.now + ms); (logical t s, es)
  | realTime t s =>
    let budget := (s.map Script.budget).getD 0
    let (t, s, es) := t.pass Script.receive budget s (t.now + ms)
    (realTime t s, es)

/-- Change the timers. Sleepers that need not sleep wake up at once. -/
def command (c : TimerCommand String Note) :
    ScriptedTimers → ScriptedTimers × List (TimerEvent String Note)
  | logical t s => let (t, es) := t.apply c; (logical t s, es)
  | realTime t s =>
    let (t, es) := t.apply c
    let (timers, es') := advance 0 (realTime t s)
    (timers, es ++ es')

end ScriptedTimers

end Vigil
