/-
A shared broadcast channel with chosen links.

A frame that a station sends arrives at every station linked to it and never
at the sender. A station whose radio refuses to send reaches nobody and leaves
no trace. Links join two different stations and hold in both directions.
-/

import FloodMesh.Bell
import FloodMesh.Inbox
import FloodMesh.Radio

namespace FloodMesh

structure Station where
  inbox : Inbox := {}
  /-- Frames this station has put on the air, in order. -/
  sent : List Bytes := []
  verdict : Verdict := none
  bell : Bell := {}
  deriving DecidableEq

namespace Station

def store (station : Station) (frame : Bytes) : Station :=
  { station with inbox := station.inbox.arrive frame }

def ring (station : Station) : Station := { station with bell := station.bell.ring }

def arrive (station : Station) (frame : Bytes) : Station := (station.store frame).ring

end Station

structure Medium where
  stations : List Station := []
  /-- Each link stands here in both directions. -/
  links : List (Nat × Nat) := []
  deriving DecidableEq

namespace Medium

def attach (medium : Medium) (station : Station) : Medium :=
  { medium with stations := medium.stations ++ [station] }

def ofCount (count : Nat) : Medium := { stations := List.replicate count {} }

def linked (medium : Medium) (first second : Nat) : Bool :=
  medium.links.contains (first, second)

def link (medium : Medium) (first second : Nat) : Medium :=
  if first = second ∨ medium.linked first second then medium
  else { medium with links := (first, second) :: (second, first) :: medium.links }

def unlink (medium : Medium) (first second : Nat) : Medium :=
  { medium with
    links := medium.links.filter fun pair =>
      pair ≠ (first, second) && pair ≠ (second, first) }

def chain (medium : Medium) (stations : List Nat) : Medium :=
  (stations.zip stations.tail).foldl (fun medium pair => medium.link pair.1 pair.2) medium

def change (medium : Medium) (index : Nat) (edit : Station → Station) : Medium :=
  { medium with stations := medium.stations.modify index edit }

def setVerdict (medium : Medium) (index : Nat) (verdict : Verdict) : Medium :=
  medium.change index fun station => { station with verdict }

def inject (medium : Medium) (index : Nat) (frame : Bytes) : Medium :=
  medium.change index fun station => station.arrive frame

/-- The frame is on the air: it is in its sender's log and at every neighbour. -/
def broadcast (medium : Medium) (sender : Nat) (frame : Bytes) : Medium :=
  { medium with
    stations := medium.stations.mapIdx fun index station =>
      if index = sender then { station with sent := station.sent ++ [frame] }
      else if medium.linked sender index then station.arrive frame
      else station }

/-- What a station's radio answers to a send. There is no radio beyond the
attached stations. -/
def verdictOf (medium : Medium) (index : Nat) : Verdict :=
  match medium.stations[index]? with
  | some station => station.verdict
  | none => some (.driver "station detached")

/-- The radio's answer to a send, and the medium after it. -/
def transmit (medium : Medium) (sender : Nat) (frame : Bytes) : Verdict × Medium :=
  match medium.verdictOf sender with
  | some fault => (some fault, medium)
  | none => (none, medium.broadcast sender frame)

/-- A node's send: the frame's length is checked before the radio sees it. -/
def send (medium : Medium) (sender : Nat) (frame : Bytes) : Verdict × Medium :=
  match (medium.verdictOf sender).vet frame with
  | some fault => (some fault, medium)
  | none => (none, medium.broadcast sender frame)

def hasWaiting (medium : Medium) (index : Nat) : Bool :=
  match medium.stations[index]? with
  | some station => !station.inbox.isEmpty
  | none => false

/-- A station takes its oldest waiting frame into a buffer of this length. -/
def receive? (medium : Medium) (index length : Nat) : Option (Bytes × Medium) := do
  let station ← medium.stations[index]?
  let (frame, inbox) ← station.inbox.take? length
  pure (frame, medium.change index fun station => { station with inbox })

def transmissions (medium : Medium) (index : Nat) : List Bytes :=
  ((medium.stations[index]?).map Station.sent).getD []

end Medium

end FloodMesh
