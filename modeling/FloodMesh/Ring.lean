/-
The duplicate memory: a set of fingerprints of bounded size that forgets the
oldest first.

The slots form a ring. `head` is the slot of the oldest fingerprint, `count`
says how many slots are in use, and the next fingerprint goes behind them or,
when all are in use, over the oldest. `entries` reads the ring off in order of
age. A ring without slots remembers nothing.
-/

import FloodMesh.Snapshot

namespace FloodMesh

structure Ring where
  slots : Array Fingerprint
  head : Nat
  count : Nat
  count_le : count ≤ slots.size
  head_lt : 0 < slots.size → head < slots.size

namespace Ring

/-- However large the mesh, no more than this many fingerprints are kept. -/
def greatestCapacity : Nat := 10

/-- One slot per known node, within the limit. -/
def capacityFor (knownNodes : Nat) : Nat := min knownNodes greatestCapacity

def capacity (ring : Ring) : Nat := ring.slots.size

def empty (capacity : Nat) : Ring :=
  { slots := Array.replicate capacity Fingerprint.blank
    head := 0
    count := 0
    count_le := Nat.zero_le _
    head_lt := fun room => room }

theorem position_lt (ring : Ring) (age : Fin ring.count) :
    (ring.head + age.val) % ring.slots.size < ring.slots.size := by
  have inUse := age.isLt
  have bounded := ring.count_le
  exact Nat.mod_lt _ (by omega)

/-- The remembered fingerprints, oldest first. -/
def entries (ring : Ring) : List Fingerprint :=
  List.ofFn fun age : Fin ring.count =>
    have inside := ring.position_lt age
    ring.slots[(ring.head + age.val) % ring.slots.size]

def contains (ring : Ring) (fingerprint : Fingerprint) : Bool :=
  ring.entries.contains fingerprint

/-- Puts a fingerprint behind the others, over the oldest if no slot is free. -/
def push (ring : Ring) (room : 0 < ring.slots.size) (fingerprint : Fingerprint) : Ring :=
  if free : ring.count < ring.slots.size then
    { slots := ring.slots.set ((ring.head + ring.count) % ring.slots.size) fingerprint
        (Nat.mod_lt _ room)
      head := ring.head
      count := ring.count + 1
      count_le := by simpa using Nat.succ_le_of_lt free
      head_lt := by simpa using ring.head_lt }
  else
    { slots := ring.slots.set ring.head fingerprint (ring.head_lt room)
      head := (ring.head + 1) % ring.slots.size
      count := ring.count
      count_le := by simpa using ring.count_le
      head_lt := by simpa using fun room => Nat.mod_lt _ room }

/-- The ring after a new fingerprint, or none if nothing changes, because it is
known already or there is no slot. -/
def insert? (ring : Ring) (fingerprint : Fingerprint) : Option Ring :=
  if room : 0 < ring.slots.size then
    if ring.contains fingerprint then none else some (ring.push room fingerprint)
  else none

def insert (ring : Ring) (fingerprint : Fingerprint) : Ring :=
  (ring.insert? fingerprint).getD ring

def refill (ring : Ring) (fingerprints : List Fingerprint) : Ring :=
  (fingerprints.drop (fingerprints.length - ring.capacity)).foldl insert ring

/-- A ring of another capacity with the newest fingerprints that fit, or none
if the capacity stays as it is. -/
def resize? (ring : Ring) (capacity : Nat) : Option Ring :=
  if capacity = ring.capacity then none else some ((empty capacity).refill ring.entries)

def resize (ring : Ring) (capacity : Nat) : Ring := (ring.resize? capacity).getD ring

def snapshot (ring : Ring) : Snapshot :=
  { capacity := ring.capacity, entries := ring.entries.map Fingerprint.hex }

def restore (capacity : Nat) (saved : Option Snapshot) : Ring :=
  (empty capacity).refill ((saved.map Snapshot.fingerprints).getD [])

theorem length_entries (ring : Ring) : ring.entries.length = ring.count := by
  simp [entries]

end Ring

end FloodMesh
