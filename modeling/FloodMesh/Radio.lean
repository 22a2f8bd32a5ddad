/-
What a radio answers to a send.

The driver's verdict is none when it takes the frame. A node hands frames to
its driver through `vet`, which refuses any frame longer than a packet can be
before the driver sees it.
-/

import FloodMesh.Packet

namespace FloodMesh

inductive RadioFault
  | busy
  | frameTooLarge (length : Nat)
  | driver (text : String)
  deriving DecidableEq

def RadioFault.message : RadioFault → String
  | .busy => "radio busy"
  | .frameTooLarge length =>
      "frame of " ++ toString length ++ " bytes exceeds radio payload limit"
  | .driver text => "radio driver failure: " ++ text

/-- A driver's answer to a send: a fault, or none if the frame went out. -/
abbrev Verdict := Option RadioFault

def Verdict.vet (verdict : Verdict) (frame : Bytes) : Verdict :=
  if longestFrame < frame.length then some (.frameTooLarge frame.length) else verdict

end FloodMesh
