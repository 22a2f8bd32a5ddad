/-
A duplicate memory that is saved as a whole whenever it changes.

A store answers to a save and to a load and may refuse either. A refused save
costs nothing but the saved copy: the memory goes on as if it had succeeded.
A refused load starts empty.
-/

import FloodMesh.Ring

namespace FloodMesh

inductive StoreError
  | unreachable
  | encoding
  deriving DecidableEq

/-- How snapshots are kept in a state of type `σ`. A save may change the state
even when it fails. -/
structure Store (σ : Type) where
  save : Snapshot → σ → Except StoreError Unit × σ
  load : σ → Except StoreError (Option Snapshot)

def Store.none : Store Unit :=
  { save := fun _ state => (.ok (), state)
    load := fun _ => .ok Option.none }

/-- A place in memory for one snapshot, which can be told to refuse. -/
structure Slot where
  saved : Option Snapshot := Option.none
  /-- Counts refused saves too. -/
  saves : Nat := 0
  refusesSave : Bool := false
  refusesLoad : Bool := false
  deriving DecidableEq

def Store.slot : Store Slot :=
  { save := fun snapshot slot =>
      let counted := { slot with saves := slot.saves + 1 }
      if slot.refusesSave then (.error .unreachable, counted)
      else (.ok (), { counted with saved := some snapshot })
    load := fun slot =>
      if slot.refusesLoad then .error .unreachable else .ok slot.saved }

structure Cache (σ : Type) where
  ring : Ring
  kept : σ

namespace Cache

variable {σ : Type}

def new (capacity : Nat) (kept : σ) : Cache σ := { ring := Ring.empty capacity, kept }

def restore (store : Store σ) (capacity : Nat) (kept : σ) : Cache σ :=
  let saved :=
    match store.load kept with
    | .ok saved => saved
    | .error _ => none
  { ring := Ring.restore capacity saved, kept }

def adopt (store : Store σ) (cache : Cache σ) (ring : Ring) : Cache σ :=
  { ring, kept := (store.save ring.snapshot cache.kept).2 }

def insert (store : Store σ) (cache : Cache σ) (fingerprint : Fingerprint) : Bool × Cache σ :=
  match cache.ring.insert? fingerprint with
  | some ring => (true, cache.adopt store ring)
  | none => (false, cache)

def resize (store : Store σ) (cache : Cache σ) (capacity : Nat) : Cache σ :=
  match cache.ring.resize? capacity with
  | some ring => cache.adopt store ring
  | none => cache

def clear (cache : Cache σ) (capacity : Nat) : Cache σ :=
  { cache with ring := Ring.empty capacity }

end Cache

end FloodMesh
