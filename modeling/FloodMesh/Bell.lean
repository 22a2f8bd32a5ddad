/-
The signal that wakes the one receiver of a radio.

Ringing wakes a receiver that listens and is otherwise remembered once, for
the next time it starts to listen. A receiver that stops listening after it
was rung and before it noticed passes the ring on, so none is lost.
-/

namespace FloodMesh

inductive Bell.Ear
  | away
  | listening
  /-- Rung while listening, not yet noticed. -/
  | rung
  /-- A remembered ring was taken up when listening began. -/
  | answered
  deriving DecidableEq

structure Bell where
  remembered : Bool := false
  ear : Bell.Ear := .away
  deriving DecidableEq

namespace Bell

def ring (bell : Bell) : Bell :=
  match bell.ear with
  | .listening => { bell with ear := .rung }
  | _ => { bell with remembered := true }

def listen (bell : Bell) : Bell :=
  if bell.remembered then { remembered := false, ear := .answered }
  else { bell with ear := .listening }

def heard (bell : Bell) : Bool :=
  match bell.ear with
  | .rung => true
  | .answered => true
  | _ => false

def finish (bell : Bell) : Bell := { bell with ear := .away }

def leave (bell : Bell) : Bell :=
  match bell.ear with
  | .rung => { remembered := true, ear := .away }
  | _ => { bell with ear := .away }

end Bell

end FloodMesh
