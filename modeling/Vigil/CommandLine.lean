import Vigil.Scenario.Yaml
import Vigil.Simulation.Report
import Vigil.Json.Printer

/-!
The command line: which scenario to simulate, how to change it, and how to write the report. A
scenario file comes first and the other settings change what it says.
-/

namespace Vigil

/-- Options with a value. -/
inductive Setting where
  | file
  | members
  | duration
  | seed
  /-- May be given any number of times; the others once. -/
  | crash
  deriving DecidableEq, Repr

/-- Options without a value. -/
inductive Switch where
  | json
  | verbose
  deriving DecidableEq, Repr

inductive UsageError where
  | unexpected (argument : String)
  | valueMissing (s : Setting)
  | badValue (s : Setting) (value : String)
  | repeatedSetting (s : Setting)
  | repeatedSwitch (s : Switch)
  deriving DecidableEq, Repr

def Setting.name : Setting → String
  | file => "config"
  | members => "members"
  | duration => "duration-ms"
  | seed => "seed"
  | crash => "crash"

def Switch.name : Switch → String
  | json => "json"
  | verbose => "verbose"

def UsageError.message : UsageError → String
  | unexpected argument => "unexpected argument " ++ Text.quote argument
  | valueMissing s => "--" ++ s.name ++ " needs a value"
  | badValue s value => Text.quote value ++ " is no value for --" ++ s.name
  | repeatedSetting s => "--" ++ s.name ++ " was given more than once"
  | repeatedSwitch s => "--" ++ s.name ++ " was given more than once"

structure CommandLine where
  /-- The path of the scenario file. -/
  file : Option String
  memberCount : Option Nat
  duration : Option Nat
  seed : Option Nat
  crashes : List ScheduledEvent
  json : Bool
  verbose : Bool
  deriving DecidableEq, Repr

/-- What one argument is. -/
inductive Argument where
  | switch (s : Switch)
  | setting (s : Setting) (value : Option String)
  /-- Nothing that follows is an option. -/
  | separator
  /-- Anything else. -/
  | other
  deriving DecidableEq, Repr

namespace Argument

/-- A long option, whose value may follow an equals sign. -/
def ofLong (name : List Char) (value : Option (List Char)) : Argument :=
  let setting (s : Setting) := Argument.setting s (value.map String.ofList)
  match String.ofList name with
  | "config" => setting .file
  | "members" => setting .members
  | "duration-ms" => setting .duration
  | "seed" => setting .seed
  | "crash" => setting .crash
  | "json" => if value.isNone then .switch .json else .other
  | "verbose" => if value.isNone then .switch .verbose else .other
  | _ => .other

/-- The value that follows the letter of a short option, with or without an equals sign. -/
def attached : List Char → Option String
  | [] => none
  | '=' :: value => some (String.ofList value)
  | value => some (String.ofList value)

def ofText (text : String) : Argument :=
  match text.toList with
  | ['-', '-'] => .separator
  | '-' :: '-' :: long =>
    match splitAtFirst? '=' long with
    | some (name, value) => ofLong name (some value)
    | none => ofLong long none
  | '-' :: 'c' :: value => .setting .file (attached value)
  | '-' :: 'm' :: value => .setting .members (attached value)
  | _ => .other

/-- Whether an argument can be the value of the option in front of it. A lone hyphen can. -/
def isValue (text : String) : Bool :=
  match text.toList with
  | '-' :: _ :: _ => false
  | _ => true

end Argument

namespace CommandLine

def empty : CommandLine := ⟨none, none, none, none, [], false, false⟩

instance : EmptyCollection CommandLine := ⟨empty⟩

/-- How many members to simulate: a number of 32 bits, of which zero may have a minus sign. -/
def memberCount? (value : String) : Option Nat :=
  match value.toList with
  | '-' :: digits => (Text.digits? 10 digits).bind fun n => if n = 0 then some 0 else none
  | cs => Text.numeral? Text.limit32 cs

def number? (value : String) : Option Nat := Text.numeral? Text.limit64 value.toList

/-- Use a value that could be read, if the option does not have one yet. -/
def once {α : Type} (s : Setting) (old : Option α) (value : String) (new : Option α)
    (use : α → CommandLine) : Except UsageError CommandLine :=
  match new, old with
  | none, _ => .error (.badValue s value)
  | some _, some _ => .error (.repeatedSetting s)
  | some a, none => .ok (use a)

def set (c : CommandLine) (s : Setting) (value : String) : Except UsageError CommandLine :=
  match s with
  | .file =>
    once s c.file value (if value.isEmpty then none else some value) fun path =>
      { c with file := some path }
  | .members =>
    once s c.memberCount value (memberCount? value) fun n => { c with memberCount := some n }
  | .duration => once s c.duration value (number? value) fun n => { c with duration := some n }
  | .seed => once s c.seed value (number? value) fun n => { c with seed := some n }
  | .crash =>
    match ScheduledEvent.parse value with
    | .ok e => .ok { c with crashes := c.crashes ++ [e] }
    | .error _ => .error (.badValue s value)

def turnOn (c : CommandLine) (s : Switch) : Except UsageError CommandLine :=
  match s with
  | .json => if c.json then .error (.repeatedSwitch s) else .ok { c with json := true }
  | .verbose => if c.verbose then .error (.repeatedSwitch s) else .ok { c with verbose := true }

/-- Read arguments on top of what was read before them. -/
def readAll (c : CommandLine) : List String → Except UsageError CommandLine
  | [] => .ok c
  | [arg] =>
    match Argument.ofText arg with
    | .separator => .ok c
    | .switch s => c.turnOn s
    | .setting s (some value) => c.set s value
    | .setting s none => .error (.valueMissing s)
    | .other => .error (.unexpected arg)
  | arg :: next :: rest =>
    match Argument.ofText arg with
    | .separator => .error (.unexpected next)
    | .switch s => (c.turnOn s).bind fun c => readAll c (next :: rest)
    | .setting s (some value) => (c.set s value).bind fun c => readAll c (next :: rest)
    | .setting s none =>
      if Argument.isValue next then (c.set s next).bind fun c => readAll c rest
      else .error (.valueMissing s)
    | .other => .error (.unexpected arg)

def parse (arguments : List String) : Except UsageError CommandLine := readAll ∅ arguments

end CommandLine

/-- Why there is no report. -/
inductive RunError where
  | unreadableFile (path : String)
  | invalidFile (path : String)
  | scenario (e : ScenarioError)

def RunError.message : RunError → String
  | unreadableFile path => "Failed to read config file: " ++ Text.quote path
  | invalidFile path => "Invalid config file: " ++ Text.quote path
  | scenario e => e.message

namespace CommandLine

/-- The scenario before the other settings change it; `contents` are those of the scenario file,
if it could be read. -/
def baseScenario (c : CommandLine) (contents : Option String) : Except RunError Scenario :=
  match c.file, contents with
  | none, _ => .ok .standard
  | some path, none => .error (.unreadableFile path)
  | some path, some text => (Scenario.parse text).mapError fun _ => .invalidFile path

/-- The instances with the numbers from 1 up to `count`. -/
def firstMembers (count : Nat) : List InstanceId := (List.range count).map fun i => .ofNat (i + 1)

def change (c : CommandLine) (s : Scenario) : Scenario :=
  { s with
    members := (c.memberCount.map firstMembers).getD s.members
    duration := c.duration.getD s.duration
    seed := (c.seed.map UInt64.ofNat).getD s.seed
    events := s.events ++ c.crashes }

/-- The report on the scenario that was asked for. -/
def report (c : CommandLine) (contents : Option String) : Except RunError Report := do
  let base ← c.baseScenario contents
  (c.change base).simulate.mapError .scenario

/-- How a report is written. -/
def write (c : CommandLine) (r : Report) : String := if c.json then r.toJson.pretty else r.text

def output (c : CommandLine) (contents : Option String) : Except RunError String :=
  (c.report contents).map c.write

end CommandLine

end Vigil
