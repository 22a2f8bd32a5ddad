/-
The saved form of a duplicate memory: its capacity and its fingerprints as
hexadecimal text, oldest first.

The text is indented JSON. Reading wants both members exactly once, in an
object of any further members or in a list of just these two, the capacity
written as a whole number below 2^64. Entries that are no fingerprint are kept
in the snapshot and skipped where fingerprints are wanted.
-/

import FloodMesh.Fingerprint
import FloodMesh.Json.Printer
import FloodMesh.Json.Reader

namespace FloodMesh

structure Snapshot where
  capacity : Nat
  entries : List String
  deriving DecidableEq

namespace Snapshot

def fingerprints (snapshot : Snapshot) : List Fingerprint :=
  snapshot.entries.filterMap Fingerprint.ofHex?

def toJson (snapshot : Snapshot) : Json :=
  .object [("capacity", .ofNat snapshot.capacity), ("entries", .strings snapshot.entries)]

def only? (name : String) (members : List (String × Json)) : Option Json :=
  match members.filter (fun member => member.1 = name) with
  | [(_, value)] => some value
  | _ => none

def capacityLimit : Nat := Nat.pow 2 64

def ofParts? (capacity entries : Json) : Option Snapshot := do
  let capacity ← capacity.nat?
  let items ← entries.items?
  let entries ← items.mapM Json.text?
  if capacity < capacityLimit then pure { capacity, entries } else none

def ofJson? : Json → Option Snapshot
  | .object members => do
      let capacity ← only? "capacity" members
      let entries ← only? "entries" members
      ofParts? capacity entries
  | .array [capacity, entries] => ofParts? capacity entries
  | _ => none

def toBytes (snapshot : Snapshot) : Bytes := Utf8.encode snapshot.toJson.pretty

def ofBytes? (data : Bytes) : Option Snapshot := (Json.ofBytes? data).bind ofJson?

end Snapshot

end FloodMesh
