import Vigil.InstanceId
import Vigil.Json

/-!
Instances in JSON: an identifier is the string of its decimal text, and a set of instances is an
array of such strings. Reading takes whatever text `InstanceId.parse` takes, in any order and with
repetitions.
-/

namespace Vigil

/-- Why a JSON value does not denote what was expected of it. -/
inductive DecodeError where
  /-- A value of another form. -/
  | form
  /-- A string that is no identifier. -/
  | badInstance (e : BadInstanceId)
  deriving DecidableEq, Repr

/-- The message that an error carries, if it carries one. -/
def DecodeError.message? : DecodeError → Option String
  | form => none
  | badInstance e => some e.message

namespace InstanceId

def toJson (id : InstanceId) : Json := .string id.text

def ofJson : Json → Except DecodeError InstanceId
  | .string s => (parse s).mapError .badInstance
  | _ => .error .form

/-- Read identifiers up to the first failure. -/
def listOfJson : List Json → Except DecodeError (List InstanceId)
  | [] => .ok []
  | j :: js =>
    match ofJson j with
    | .error e => .error e
    | .ok id => (listOfJson js).map (id :: ·)

end InstanceId

namespace InstanceSet

def toJson (s : InstanceSet) : Json := .array (s.toList.map InstanceId.toJson)

def ofJson : Json → Except DecodeError InstanceSet
  | .array items => (InstanceId.listOfJson items).map SortedSet.ofList
  | _ => .error .form

end InstanceSet

end Vigil
