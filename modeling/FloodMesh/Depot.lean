/-
A queue whose readings are handed on to a collector, on a clock.

The collector takes every batch unless it is down. Batches it took and calls it
had are kept.
-/

import FloodMesh.Forwarder
import FloodMesh.Timeline

namespace FloodMesh

structure Depot where
  now : Nat := 0
  queue : Queue
  forwarder : Option Forwarder := none
  /-- The collector refuses batches. -/
  down : Bool := false
  batches : List (List Entry) := []
  calls : Nat := 0

namespace Depot

def push (depot : Depot) (dest src : Address) (data : Reading) : Entry × Depot :=
  let (entry, queue) := depot.queue.push dest src data 0
  (entry, { depot with queue })

/-- Hands on what is queued and says how many readings were taken. -/
def flush (depot : Depot) : Nat × Depot :=
  let (batch, queue) := depot.queue.flush
  let taken := !depot.down
  let offered :=
    match batch with
    | none => { depot with queue }
    | some entries =>
        { depot with
          queue
          calls := depot.calls + 1
          batches := if taken then depot.batches ++ [entries] else depot.batches }
  (flushedCount batch taken, offered)

def step? (depot : Depot) : Option Depot := do
  let forwarder ← depot.forwarder
  match forwarder.turn depot.now with
  | .sleeps => none
  | .flushes later => some { depot with forwarder := some later }.flush.2
  | .ends => some { depot with forwarder := none }.flush.2

def due? (depot : Depot) : Option Nat := depot.forwarder.map Forwarder.due

instance : Timed Depot where
  now depot := depot.now
  setNow now depot := { depot with now }
  step? := step?
  due? := due?

/-- Ends the loop, if one is running, and says whether there was one. -/
def shutdown (depot : Depot) : Bool × Depot :=
  match depot.forwarder with
  | none => (false, depot)
  | some forwarder =>
      (true,
        Timeline.settle { depot with forwarder := some { forwarder with stopping := true } })

end Depot

end FloodMesh
