/-
The receiving task of a node.

In each turn the task minds three things: shutdown, a change of the known
nodes, and a frame at its radio. For a frame it starts to listen for the bell,
looks into the inbox, and sleeps only if nothing waits there. A turn that goes
to one of the other two stops listening, and the frames stay where they are.
If several are due, `turn` goes to the first of them; a `Branch` is a turn that
goes to whichever it names.
-/

import FloodMesh.Node
import FloodMesh.Watch

namespace FloodMesh

inductive RelayLoop.Phase
  | ready
  /-- Listening, and about to look into the inbox. -/
  | listening
  | asleep
  deriving DecidableEq

structure RelayLoop where
  phase : RelayLoop.Phase := .ready
  /-- The version of the known nodes that was acted on last, if they are
  watched. -/
  seen : Option Nat := none
  stopping : Bool := false
  deriving DecidableEq

namespace RelayLoop

structure Place where
  loop : RelayLoop
  node : Node
  station : Station

inductive Turn
  | goesOn (place : Place) (effects : List Effect)
  | ends (place : Place)
  | sleeps

/-- Drops the pending wait for a frame. -/
def interrupt (place : Place) : Place :=
  { place with
    loop := { place.loop with phase := .ready }
    station := { place.station with bell := place.station.bell.leave } }

def minds (known : Watch (List Address)) (loop : RelayLoop) : Bool :=
  match loop.seen with
  | none => false
  | some seen => known.changedSince seen || known.closed

/-- Acts on a change of the known nodes, or stops watching when no more can come. -/
def update (known : Watch (List Address)) (place : Place) : Turn :=
  let place := interrupt place
  match place.loop.seen with
  | none => .sleeps
  | some seen =>
      if known.changedSince seen then
        let (node, effects) := place.node.setKnownCount known.value.length
        .goesOn
          { place with node, loop := { place.loop with seen := some known.version } } effects
      else if known.closed then
        .goesOn { place with loop := { place.loop with seen := none } } []
      else .sleeps

def receive (now : Nat) (place : Place) : Turn :=
  let station := place.station
  match place.loop.phase with
  | .ready =>
      .goesOn
        { place with
          loop := { place.loop with phase := .listening }
          station := { station with bell := station.bell.listen } }
        []
  | .listening =>
      match station.inbox.take? Inbox.bufferLength with
      | none => .goesOn { place with loop := { place.loop with phase := .asleep } } []
      | some (frame, inbox) =>
          let place := interrupt { place with station := { station with inbox } }
          let reaction := place.node.process { verdict := station.verdict, now } frame
          .goesOn { place with node := reaction.node } reaction.effects
  | .asleep =>
      if station.bell.heard then
        .goesOn
          { place with
            loop := { place.loop with phase := .ready }
            station := { station with bell := station.bell.finish } }
          []
      else .sleeps

/-- Shutdown first, then the known nodes, then frames. -/
def turn (known : Watch (List Address)) (now : Nat) (place : Place) : Turn :=
  if place.loop.stopping then .ends (interrupt place)
  else if minds known place.loop then update known place
  else receive now place

/-- What the task may mind in a turn. -/
inductive Branch
  | shutdown
  | known
  | frame

def Branch.turn (known : Watch (List Address)) (now : Nat) (place : Place) : Branch → Turn
  | .shutdown => if place.loop.stopping then .ends (interrupt place) else .sleeps
  | .known => if minds known place.loop then update known place else .sleeps
  | .frame => receive now place

end RelayLoop

end FloodMesh
