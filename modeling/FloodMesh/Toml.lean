/-
TOML values.

Floats and moments in time are told apart from other values and not kept,
since no setting has their type. The members of a table stand in the order in
which they were first written.
-/

namespace FloodMesh

inductive Toml
  | string (text : String)
  | integer (value : Int)
  | float
  | boolean (value : Bool)
  | moment
  | array (items : List Toml)
  | table (members : List (String × Toml))

namespace Toml

def text? : Toml → Option String
  | .string text => some text
  | _ => none

def texts? : Toml → Option (List String)
  | .array items => items.mapM text?
  | _ => none

def below? (bound : Nat) : Toml → Option Nat
  | .integer (.ofNat value) => if value < bound then some value else none
  | _ => none

def isEmpty : Toml → Bool
  | .array [] => true
  | .table [] => true
  | _ => false

end Toml

end FloodMesh
