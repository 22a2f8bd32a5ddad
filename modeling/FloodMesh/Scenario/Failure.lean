/-
How a failure is told in a scenario: by its kind and, unless the words are not
ours to choose, by its message.
-/

import FloodMesh.Cache
import FloodMesh.Config
import FloodMesh.Json
import FloodMesh.Node
import FloodMesh.Poll.Request

namespace FloodMesh.Scenario

structure Failure where
  kind : String
  message : Option String
  /-- What else is told beside kind and message. -/
  details : List (String × Json) := []

namespace Failure

def toJson (failure : Failure) : Json :=
  .object
    (("error", .string failure.kind) ::
      ((match failure.message with
        | some text => [("message", .string text)]
        | none => []) ++ failure.details))

def of (kind message : String) : Failure := { kind, message := some message }

def ofKind (kind : String) : Failure := { kind, message := none }

def badInput (what : String) : Failure := of "BadInput" what

def detailed (failure : Failure) (details : List (String × Json)) : Failure :=
  { failure with details := failure.details ++ details }

def frame (error : FrameError) : Failure :=
  of
    (match error with
      | .empty => "Empty"
      | .unknownKind _ => "UnknownKind"
      | .lengthMismatch _ _ _ => "LengthMismatch"
      | .bufferTooSmall _ _ => "BufferTooSmall"
      | .invalidAddress _ => "InvalidAddress")
    error.message

def radio (fault : RadioFault) : Failure :=
  of
    (match fault with
      | .busy => "Busy"
      | .frameTooLarge _ => "FrameTooLarge"
      | .driver _ => "Driver")
    fault.message

def file (_ : FileError) : Failure := ofKind "Io"

def store : StoreError → Failure
  | .unreachable => ofKind "Io"
  | .encoding => ofKind "Encoding"

def forward (kind : Kind) (fault : RadioFault) : Failure :=
  of "Forward" (forwardFailureMessage kind fault)

def reply (failure : ReplyFailure) : Failure :=
  of "Reply" (failure.message ++ " [" ++ failure.fingerprint.hex ++ "]")

def send (dest : Address) (fault : RadioFault) : Failure :=
  of "Send" (requestFailureMessage dest fault)

def config (error : ConfigError) : Failure :=
  match error with
  | .unreadable _ _ => of "ReadFailed" error.message
  | .unparsable _ => ofKind "ParseFailed"
  | .unwritable _ _ => of "WriteFailed" error.message
  | .invalidAddress _ _ => of "InvalidAddress" error.message
  | .zeroTtl => of "ZeroTtl" error.message

end Failure

end FloodMesh.Scenario
