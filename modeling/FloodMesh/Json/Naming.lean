/-
How a value is named to someone who expected another.

Whole numbers of up to sixty-four bits are integers. Any other number is shown
as the floating point number that it is read as.
-/

import FloodMesh.Decimal.Double
import FloodMesh.Json

namespace FloodMesh.Json

/-- A decimal that is not negative, as the floating point number it is read
as. -/
def floatingText (digits : Nat) (exponent : Int) : String :=
  match Double.ofDecimal? { digits, exponent } with
  | none => "inf"
  | some double =>
      if double.mantissa = 0 then "0.0" else String.ofList double.shortest.text

def signed (negative : Bool) (text : String) : String := if negative then "-" ++ text else text

def isInteger (value : Int) : Bool :=
  -(Nat.pow 2 63 : Nat) ≤ value && value < (Nat.pow 2 64 : Nat)

def Number.naming : Number → String
  | .whole value =>
      if isInteger value then "integer `" ++ toString value ++ "`"
      else "floating point `" ++ signed (value < 0) (floatingText value.natAbs 0) ++ "`"
  | .scaled negative digits exponent =>
      "floating point `" ++ signed negative (floatingText digits exponent) ++ "`"

def naming : Json → String
  | .null => "null"
  | .bool value => "boolean `" ++ toString value ++ "`"
  | .number value => value.naming
  | .string _ => "string"
  | .garbled => "string"
  | .array _ => "sequence"
  | .object _ => "map"

end FloodMesh.Json
