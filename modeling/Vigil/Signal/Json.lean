import Vigil.InstanceId.Json
import Vigil.Signal

/-!
Signals and envelopes in JSON. A signal is an object whose member `type` names its kind, beside
the members that the kind has; an envelope is an object with a signal and its headers. Reading
takes both in array form too, skips members it does not know and takes missing headers for none.
-/

namespace Vigil

namespace Signal

/-- The signals that name one server, by their kind. -/
def serverSignal? : String → Option (InstanceId → Signal)
  | "i_am_alive" => some iAmAlive
  | "timed_out" => some timedOut
  | "send_heartbeat" => some sendHeartbeat
  | "reset_send_heartbeat" => some resetSendHeartbeat
  | _ => none

def toJson (s : Signal) : Json :=
  let tag := ("type", Json.string s.kind)
  match s with
  | join | leave => .object [tag]
  | iAmAlive server | timedOut server | sendHeartbeat server | resetSendHeartbeat server =>
    .object [tag, ("server", server.toJson)]
  | suspicions suspects => .object [tag, ("suspects", suspects.toJson)]

/-- Build the signal of a kind from the values of its members, of which it has at most one. -/
def ofMembers (kind : String) (server suspects : Except DecodeError Json) :
    Except DecodeError Signal :=
  match kind with
  | "join" => .ok join
  | "leave" => .ok leave
  | "suspicions" => (suspects.bind InstanceSet.ofJson).map suspicions
  | kind =>
    match serverSignal? kind with
    | some signal => (server.bind InstanceId.ofJson).map signal
    | none => .error .form

/-- Whether a kind has a member beside its name. -/
def hasMember (kind : String) : Bool := kind != "join" && kind != "leave"

def member (name : String) (members : List (String × Json)) : Except DecodeError Json :=
  match Json.find name members with
  | some j => .ok j
  | none => .error .form

def ofJson : Json → Except DecodeError Signal
  | .object members =>
    match Json.find "type" members with
    | some (.string kind) => ofMembers kind (member "server" members) (member "suspects" members)
    | _ => .error .form
  | .array [.string kind] => ofMembers kind (.error .form) (.error .form)
  | .array (.string kind :: j :: more) => do
    let signal ← ofMembers kind (.ok j) (.ok j)
    if hasMember kind && more.isEmpty then return signal else .error .form
  | _ => .error .form

end Signal

namespace Headers

def toJson (h : Headers) : Json := .object (h.toList.map fun e => (e.1, .string e.2))

/-- Read the headers in the order of the members; of one name the last value counts. -/
def ofMembers (h : Headers) : List (String × Json) → Except DecodeError Headers
  | [] => .ok h
  | (name, .string value) :: ms => ofMembers (h.insert name value) ms
  | _ => .error .form

def ofJson : Json → Except DecodeError Headers
  | .object members => ofMembers ∅ members
  | _ => .error .form

end Headers

namespace Envelope

def toJson (e : Envelope Signal) : Json :=
  .object [("type", e.content.toJson), ("headers", Headers.toJson e.headers)]

/-- Headers are read before the signal, except in the array form, where the signal comes first and
what is too much comes last. -/
def ofJson : Json → Except DecodeError (Envelope Signal)
  | .object members => do
    let headers ←
      match Json.find "headers" members with
      | some j => Headers.ofJson j
      | none => .ok ∅
    let content ← (Signal.member "type" members).bind Signal.ofJson
    return ⟨content, headers⟩
  | .array [signal] => (Signal.ofJson signal).map internal
  | .array (signal :: headers :: more) => do
    let content ← Signal.ofJson signal
    let headers ← Headers.ofJson headers
    if more.isEmpty then return ⟨content, headers⟩ else .error .form
  | _ => .error .form

end Envelope

end Vigil
