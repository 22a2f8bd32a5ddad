/-
Soil readings: seven bytes, numbers with their high byte first.

Moisture in thousandths, temperature in hundredths of a degree with a sign,
conductivity in microsiemens per centimetre, and the battery in percent.
-/

import FloodMesh.Packet

namespace FloodMesh

structure Soil where
  moisture : Nat
  temperature : Int
  conductivity : Nat
  battery : Nat
  deriving DecidableEq

namespace Soil

def pair (value : Nat) : Bytes := [UInt8.ofNat (value / 256), UInt8.ofNat (value % 256)]

def ofPair (high low : UInt8) : Nat := 256 * high.toNat + low.toNat

def signed (value : Nat) : Int := if value < 32768 then value else value - 65536

def toReading (soil : Soil) : Reading :=
  { bytes :=
      pair soil.moisture ++ pair (soil.temperature % 65536).toNat ++ pair soil.conductivity ++
        [UInt8.ofNat soil.battery]
    length_eq := rfl }

def ofReading (reading : Reading) : Soil :=
  let byte := fun index => reading.bytes.getD index 0
  { moisture := ofPair (byte 0) (byte 1)
    temperature := signed (ofPair (byte 2) (byte 3))
    conductivity := ofPair (byte 4) (byte 5)
    battery := (byte 6).toNat }

def saturation : Nat := 1000

def inRange (soil : Soil) : Bool :=
  soil.moisture ≤ saturation && -500 ≤ soil.temperature && soil.temperature ≤ 4500 &&
    50 ≤ soil.conductivity && soil.conductivity ≤ 3000 && 20 ≤ soil.battery &&
    soil.battery ≤ 100

end Soil

end FloodMesh
