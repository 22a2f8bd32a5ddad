/-
A published value that others watch for changes.

Publishing counts a version up. A watcher keeps the version that it has seen
and may see only the latest. A closed watch keeps its last value and changes no
more.
-/

namespace FloodMesh

structure Watch (α : Type) where
  value : α
  version : Nat := 0
  closed : Bool := false

namespace Watch

variable {α : Type}

def publish (watch : Watch α) (value : α) : Watch α :=
  if watch.closed then watch else { watch with value, version := watch.version + 1 }

def close (watch : Watch α) : Watch α := { watch with closed := true }

/-- Whether there is a value that a watcher at this version has not seen. -/
def changedSince (watch : Watch α) (seen : Nat) : Bool := watch.version ≠ seen

end Watch

end FloodMesh
