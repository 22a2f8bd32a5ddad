/-
JSON values.

Members of an object keep their written order and may repeat. A number keeps
whether it was written as a whole number, because readers of counts take only
those. A string may be well delimited and still stand for no text, for a lone
half of a surrogate pair or for bytes that are no characters: it is kept as
`garbled`, which only a reader that skips it accepts. An object with such a
name among its members is garbled as a whole.
-/

namespace FloodMesh

namespace Json

inductive Number
  | whole (value : Int)
  /-- The digits times a power of ten. -/
  | scaled (negative : Bool) (digits : Nat) (exponent : Int)
  deriving DecidableEq

end Json

inductive Json
  | null
  | bool (value : Bool)
  | number (value : Json.Number)
  | string (text : String)
  | garbled
  | array (items : List Json)
  | object (members : List (String × Json))

namespace Json

def ofNat (value : Nat) : Json := .number (.whole value)

def strings (texts : List String) : Json := .array (texts.map .string)

def ofOption {α : Type} (write : α → Json) : Option α → Json
  | none => .null
  | some value => write value

def members? : Json → Option (List (String × Json))
  | .object members => some members
  | _ => none

def get? (name : String) : Json → Option Json
  | .object members => members.lookup name
  | _ => none

def items? : Json → Option (List Json)
  | .array items => some items
  | _ => none

def text? : Json → Option String
  | .string text => some text
  | _ => none

def bool? : Json → Option Bool
  | .bool value => some value
  | _ => none

def nat? : Json → Option Nat
  | .number (.whole (.ofNat value)) => some value
  | _ => none

mutual

def mapText (edit : String → String) : Json → Json
  | .string text => .string (edit text)
  | .array items => .array (mapTexts edit items)
  | .object members => .object (mapMembers edit members)
  | other => other

def mapTexts (edit : String → String) : List Json → List Json
  | [] => []
  | item :: rest => item.mapText edit :: mapTexts edit rest

def mapMembers (edit : String → String) : List (String × Json) → List (String × Json)
  | [] => []
  | (name, value) :: rest => (name, value.mapText edit) :: mapMembers edit rest

end

def appended (value : Json) (more : List (String × Json)) : Json :=
  match value with
  | .object members => .object (members ++ more)
  | other => other

end Json

end FloodMesh
