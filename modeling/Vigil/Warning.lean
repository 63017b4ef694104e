import Vigil.Envelope
import Vigil.InstanceId

/-!
What goes wrong without stopping anything, and the words for it.
-/

namespace Vigil

/-- Why a receiver does not take a message. -/
inductive Refusal where
  | rejected (reason : String)
  | closed
  deriving DecidableEq, Repr

def Refusal.message : Refusal → String
  | rejected reason => "Message rejected: " ++ reason
  | closed => "Processor closed"

/-- What a callback leaves behind when it breaks off: a text, or something else. -/
inductive Panic where
  | text (s : String)
  | other
  deriving DecidableEq, Repr

def Panic.message : Panic → String
  | text s => s
  | other => "<non-string panic>"

inductive Warning where
  /-- A listener broke off; the others are notified all the same. -/
  | listenerPanicked (p : Panic)
  /-- The receiver of a fired timer did not take its message. -/
  | timeoutRefused (r : Refusal)
  /-- A timer fired while there was no receiver. -/
  | timeoutUnclaimed
  /-- An outgoing message was not taken. -/
  | sendingRefused (r : Refusal)
  /-- A report of suspicions names no sender. -/
  | senderMissing
  /-- A report of suspicions names a sender that is no instance. -/
  | senderMalformed (e : BadInstanceId)
  /-- Follows either of the two warnings before. -/
  | suspicionsDropped
  /-- A message is addressed to what is no instance. -/
  | recipientMalformed (e : BadInstanceId)
  deriving DecidableEq, Repr

def Warning.message : Warning → String
  | listenerPanicked p => "Listener panicked during notification: " ++ p.message
  | timeoutRefused r => "Timeout delivery failed: " ++ r.message
  | timeoutUnclaimed => "Timeout fired with no processor registered, dropping"
  | sendingRefused r => "Failed to send heartbeat message: " ++ r.message
  | senderMissing => (MissingHeader.mk Header.sender).message
  | senderMalformed e => "Invalid sender header: " ++ e.message
  | suspicionsDropped => "Dropping suspicions without a valid sender"
  | recipientMalformed e => "Dropping message with bad recipient: " ++ e.message

end Vigil
