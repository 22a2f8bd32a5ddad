/-
What the operator of a mesh is told about a node: it kept silent, it answered
with a fault, or the request to it could not be sent.
-/

import FloodMesh.Bytes
import FloodMesh.Json

namespace FloodMesh

inductive Notice
  | noResponse
  | faultReported (code : UInt8)
  | sendFailed
  deriving DecidableEq

namespace Notice

def text : Notice → String
  | .noResponse => "no response"
  | .faultReported code => "error response 0x" ++ Bytes.hexText [code]
  | .sendFailed => "request send failed"

def toJson : Notice → Json
  | .noResponse => .object [("kind", .string "no_response")]
  | .faultReported code =>
      .object [("kind", .string "error_response"), ("code", .ofNat code.toNat)]
  | .sendFailed => .object [("kind", .string "send_failed")]

end Notice

end FloodMesh
