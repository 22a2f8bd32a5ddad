/-
Handing queued readings on to the collector.

A flush takes everything that is queued and offers it as one batch; nothing is
offered when nothing is queued. A batch that is refused is lost. The loop
flushes at every tick and once more at shutdown; its schedule never moves.
-/

import FloodMesh.Queue

namespace FloodMesh

/-- A queue after a flush and the batch it gave, if any. -/
def Queue.flush (queue : Queue) : Option (List Entry) × Queue :=
  let (batch, drained) := queue.drain
  (if batch.isEmpty then none else some batch, drained)

def flushedCount (batch : Option (List Entry)) (taken : Bool) : Nat :=
  match batch with
  | some entries => if taken then entries.length else 0
  | none => 0

structure Forwarder where
  period : Nat
  due : Nat
  stopping : Bool := false
  deriving DecidableEq

namespace Forwarder

/-- The first tick comes at once and finds nothing to do. -/
def start (period clock : Nat) : Forwarder := { period, due := clock + period }

inductive Turn
  | flushes (later : Forwarder)
  | ends
  | sleeps

def turn (forwarder : Forwarder) (clock : Nat) : Turn :=
  if forwarder.stopping then .ends
  else if forwarder.due ≤ clock then
    .flushes { forwarder with due := forwarder.due + forwarder.period }
  else .sleeps

end Forwarder

end FloodMesh
