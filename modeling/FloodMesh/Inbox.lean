/-
Frames that have arrived at a radio and wait to be taken.

An inbox may be limited: it then cuts each frame to its first bytes and, when
full, drops the oldest frame for a new one. Taking a frame into a buffer cuts
it to the buffer's length and loses the rest.
-/

import FloodMesh.Packet

namespace FloodMesh

structure Inbox.Limits where
  /-- How many frames may wait. -/
  frames : Nat
  /-- How many bytes of a frame are kept. -/
  length : Nat
  deriving DecidableEq

structure Inbox where
  frames : List Bytes := []
  limits : Option Inbox.Limits := none
  deriving DecidableEq

namespace Inbox

def cut (inbox : Inbox) (frame : Bytes) : Bytes :=
  match inbox.limits with
  | none => frame
  | some limits => frame.take limits.length

def keptForArrival (inbox : Inbox) : List Bytes :=
  match inbox.limits with
  | none => inbox.frames
  | some limits =>
      if limits.frames ≤ inbox.frames.length then inbox.frames.drop 1 else inbox.frames

def arrive (inbox : Inbox) (frame : Bytes) : Inbox :=
  { inbox with frames := inbox.keptForArrival ++ [inbox.cut frame] }

def isEmpty (inbox : Inbox) : Bool := inbox.frames.isEmpty

def take? (inbox : Inbox) (length : Nat) : Option (Bytes × Inbox) :=
  match inbox.frames with
  | [] => none
  | frame :: rest => some (frame.take length, { inbox with frames := rest })

/-- A buffer one byte longer than any packet, so that a frame that is too long
still shows as such. -/
def bufferLength : Nat := longestFrame + 1

end Inbox

end FloodMesh
