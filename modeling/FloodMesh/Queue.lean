/-
Readings that a controller has received and not yet handed on.

Entries are numbered from one in order of arrival. A full queue drops its
oldest entry to take a new one; a queue always has room for at least one.
Finding an entry leaves it in place, taking removes it from the front.

The numbers have no bound here. A controller keeps them in 64 bits, so what is
said of them holds of one that has queued fewer than 2^64 readings; times are
seconds in 64 bits alike.
-/

import FloodMesh.Packet

namespace FloodMesh

/-- A reading addressed to this node. -/
structure Entry where
  id : Nat
  dest : Address
  src : Address
  data : Reading
  /-- Seconds since the epoch. -/
  receivedAt : Nat
  deriving DecidableEq

def Entry.isFor (entry : Entry) (dest src : Address) : Bool :=
  entry.dest = dest && entry.src = src

structure Queue where
  capacity : Nat
  entries : List Entry
  /-- The number of the last entry that was added. -/
  lastId : Nat
  deriving DecidableEq

namespace Queue

def new (capacity : Nat) : Queue := { capacity := max capacity 1, entries := [], lastId := 0 }

/-- The entries that stay when a new one is about to be added. -/
def keptForPush (queue : Queue) : List Entry :=
  if queue.capacity ≤ queue.entries.length then queue.entries.drop 1 else queue.entries

def push (queue : Queue) (dest src : Address) (data : Reading) (receivedAt : Nat) :
    Entry × Queue :=
  let entry : Entry := { id := queue.lastId + 1, dest, src, data, receivedAt }
  (entry, { queue with entries := queue.keptForPush ++ [entry], lastId := entry.id })

def find? (queue : Queue) (dest src : Address) : Option Entry :=
  queue.entries.find? fun entry => entry.isFor dest src

def pop (queue : Queue) : Option Entry × Queue :=
  (queue.entries.head?, { queue with entries := queue.entries.drop 1 })

def drain (queue : Queue) : List Entry × Queue :=
  (queue.entries, { queue with entries := [] })

end Queue

end FloodMesh
