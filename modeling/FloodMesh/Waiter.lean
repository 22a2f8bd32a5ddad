/-
Waiting for a reading between two nodes to be queued.

A waiter first asks to be told of arrivals, then looks through the queue, and
sleeps only if nothing matches. An arrival between asking and sleeping is told
to it all the same, so it looks again instead of sleeping through. A sleeper
that was told looks before it minds its deadline.
-/

import FloodMesh.Queue

namespace FloodMesh

inductive Waiter.Phase
  | asking
  | looking
  | asleep
  deriving DecidableEq

structure Waiter where
  dest : Address
  src : Address
  deadline : Nat
  phase : Waiter.Phase := .asking
  /-- Whether an arrival was told since the waiter asked. -/
  told : Bool := false
  deriving DecidableEq

namespace Waiter

inductive Turn
  | goesOn (waiter : Waiter)
  | found (entry : Entry)
  | expired
  | sleeps

/-- What the waiter does when it runs. -/
def turn (waiter : Waiter) (queue : Queue) (now : Nat) : Turn :=
  match waiter.phase with
  | .asking => .goesOn { waiter with phase := .looking, told := false }
  | .looking =>
      match queue.find? waiter.dest waiter.src with
      | some entry => .found entry
      | none => .goesOn { waiter with phase := .asleep }
  | .asleep =>
      if waiter.told then .goesOn { waiter with phase := .asking, told := false }
      else if waiter.deadline ≤ now then .expired
      else .sleeps

def tell (waiter : Waiter) : Waiter :=
  match waiter.phase with
  | .asking => waiter
  | _ => { waiter with told := true }

def canRun (waiter : Waiter) (now : Nat) : Bool :=
  waiter.phase ≠ .asleep || waiter.told || waiter.deadline ≤ now

end Waiter

end FloodMesh
