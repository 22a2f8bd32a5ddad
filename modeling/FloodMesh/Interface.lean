/-
Network interfaces, found by name.
-/

import FloodMesh.Text.Utf8

namespace FloodMesh

inductive InterfaceError
  /-- The name holds a zero byte at this position. -/
  | nulByte (position : Nat)
  | absent (name : String)
  deriving DecidableEq

def InterfaceError.causes : InterfaceError → List String
  | .nulByte position =>
      [ "interface name contains null byte",
        "nul byte found in provided data at position: " ++ toString position ]
  | .absent name => ["interface '" ++ name ++ "' not found"]

namespace Interface

def loopback : String := "lo"

/-- The position of a name among the interfaces of a host. -/
def find (present : List String) (name : String) : Except InterfaceError Nat :=
  match (Utf8.ofString name).idxOf? 0 with
  | some position => .error (.nulByte position)
  | none =>
      match present.idxOf? name with
      | some index => .ok index
      | none => .error (.absent name)

end Interface

end FloodMesh
