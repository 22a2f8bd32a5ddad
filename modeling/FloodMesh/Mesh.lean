/-
Nodes on a shared medium, stepped one frame at a time.

The node at a position uses the station at the same position. A node takes one
waiting frame, handles it, and what it sends is on the air before any other
node goes on.
-/

import FloodMesh.Poll.Request

namespace FloodMesh

structure Mesh where
  medium : Medium := {}
  nodes : List Node := []

namespace Mesh

def join (mesh : Mesh) (node : Node) : Mesh :=
  { medium := mesh.medium.attach {}, nodes := mesh.nodes ++ [node] }

def surroundings (mesh : Mesh) (index now : Nat) : Surroundings :=
  { verdict := mesh.medium.verdictOf index, now }

def carry (medium : Medium) (sender : Nat) (effects : List Effect) : Medium :=
  effects.foldl
    (fun medium effect =>
      match effect with
      | .sent frame => medium.broadcast sender frame
      | _ => medium)
    medium

def commit (mesh : Mesh) (index : Nat) (node : Node) (effects : List Effect) : Mesh :=
  { medium := carry mesh.medium index effects, nodes := mesh.nodes.set index node }

structure Event where
  index : Nat
  outcome : Outcome
  effects : List Effect

def process? (mesh : Mesh) (index now : Nat) (frame : Bytes) : Option (Event × Mesh) := do
  let node ← mesh.nodes[index]?
  let reaction := node.process (mesh.surroundings index now) frame
  pure
    ({ index, outcome := reaction.outcome, effects := reaction.effects },
      mesh.commit index reaction.node reaction.effects)

def receive? (mesh : Mesh) (index now : Nat) : Option (Event × Mesh) := do
  let (frame, medium) ← mesh.medium.receive? index Inbox.bufferLength
  process? { mesh with medium } index now frame

def request? (mesh : Mesh) (index : Nat) (errand : Errand) :
    Option (Except RadioFault Fingerprint × List Effect × Mesh) := do
  let node ← mesh.nodes[index]?
  let (result, node, effects) := node.request errand (mesh.medium.verdictOf index)
  pure (result, effects, mesh.commit index node effects)

/-- The listed nodes each take at most one waiting frame, in order. -/
def receiveAll (mesh : Mesh) (now : Nat) : List Nat → List Event × Mesh
  | [] => ([], mesh)
  | index :: rest =>
      match mesh.receive? index now with
      | none => mesh.receiveAll now rest
      | some (event, later) =>
          let (events, final) := later.receiveAll now rest
          (event :: events, final)

def round (mesh : Mesh) (now : Nat) : List Event × Mesh :=
  mesh.receiveAll now (List.range mesh.nodes.length)

/-- Rounds until one does nothing, at most `limit`; says how many did something. -/
def settle (mesh : Mesh) (now : Nat) : Nat → Nat × List Event × Mesh
  | 0 => (0, [], mesh)
  | limit + 1 =>
      match mesh.round now with
      | ([], _) => (0, [], mesh)
      | (events, later) =>
          let (rounds, more, final) := later.settle now limit
          (rounds + 1, events ++ more, final)

/-- Every node fits its memory to the number of known nodes. -/
def setKnownCount (mesh : Mesh) (count : Nat) : Mesh :=
  { mesh with nodes := mesh.nodes.map fun node => (node.setKnownCount count).1 }

end Mesh

end FloodMesh
