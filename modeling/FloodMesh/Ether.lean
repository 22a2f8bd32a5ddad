/-
A medium with receivers that wait.

A receiver listens for its station's bell, looks into the inbox and sleeps if
it is empty, no longer than it was told to. Frames may be arranged to arrive at
later times.
-/

import FloodMesh.Medium
import FloodMesh.Timeline

namespace FloodMesh

/-- A receiver at a station, with room for this many bytes of a frame. -/
structure Ether.Receiver where
  index : Nat
  length : Nat
  deadline : Nat
  listening : Bool := false
  asleep : Bool := false

inductive Ether.Reception
  | waiting (receiver : Ether.Receiver)
  | done (frame : Option Bytes)

structure Ether where
  now : Nat := 0
  medium : Medium
  reception : Ether.Reception := .done none
  agenda : Agenda (Nat × Bytes) := {}

namespace Ether

def change (ether : Ether) (edit : Medium → Medium) : Ether :=
  { ether with medium := edit ether.medium }

def arrange (ether : Ether) (delay index : Nat) (frame : Bytes) : Ether :=
  { ether with agenda := ether.agenda.add (ether.now + Timeline.pause delay) (index, frame) }

def editBell (ether : Ether) (index : Nat) (edit : Bell → Bell) : Ether :=
  ether.change fun medium =>
    medium.change index fun station => { station with bell := edit station.bell }

def finish (ether : Ether) (receiver : Receiver) (frame : Option Bytes) : Ether :=
  { ether.editBell receiver.index Bell.leave with reception := .done frame }

def turn? (ether : Ether) : Option Ether :=
  match ether.reception with
  | .done _ => none
  | .waiting receiver =>
      if receiver.asleep then
        let heard :=
          ((ether.medium.stations[receiver.index]?).map fun station => station.bell.heard).getD
            false
        if heard then
          some
            { ether.editBell receiver.index Bell.finish with
              reception := .waiting { receiver with listening := false, asleep := false } }
        else if receiver.deadline ≤ ether.now then some (ether.finish receiver none)
        else none
      else if receiver.listening then
        match ether.medium.receive? receiver.index receiver.length with
        | some (frame, medium) => some ({ ether with medium }.finish receiver (some frame))
        | none => some { ether with reception := .waiting { receiver with asleep := true } }
      else
        some
          { ether.editBell receiver.index Bell.listen with
            reception := .waiting { receiver with listening := true } }

def step? (ether : Ether) : Option Ether :=
  match ether.turn? with
  | some later => some later
  | none =>
      (ether.agenda.take? ether.now).map fun due =>
        { ether with agenda := due.2 }.change fun medium => medium.inject due.1.1 due.1.2

def due? (ether : Ether) : Option Nat :=
  match ether.reception with
  | .waiting receiver => earlier? (some receiver.deadline) ether.agenda.due?
  | .done _ => ether.agenda.due?

instance : Timed Ether where
  now ether := ether.now
  setNow now ether := { ether with now }
  step? := step?
  due? := due?

def isDone (ether : Ether) : Bool :=
  match ether.reception with
  | .waiting _ => false
  | .done _ => true

/-- Waits at a station for a frame, no longer than a pause of `timeout`. -/
def await (ether : Ether) (index length timeout : Nat) : Option Bytes × Ether :=
  let deadline := ether.now + Timeline.pause timeout
  let waiting := { ether with reception := .waiting { index, length, deadline } }
  let final := Timeline.complete isDone waiting
  match final.reception with
  | .done frame => (frame, final)
  | .waiting _ => (none, final)

end Ether

end FloodMesh
