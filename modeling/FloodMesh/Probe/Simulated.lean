/-
A probe that makes its readings up.

A read fails with given odds as if the probe were off its bus, and sometimes
gives a moisture above saturation, which is out of bounds. The values are drawn
from a stream of mixed counters, so a read depends only on the seed and on how
many were made before.
-/

import FloodMesh.Json
import FloodMesh.Probe
import FloodMesh.Soil

namespace FloodMesh

/-- Odds as how many of all 2^64 draws count. -/
structure Odds where
  hits : Nat
  deriving DecidableEq

namespace Odds

def draws : Nat := Nat.pow 2 64

/-- Odds given as a number; what is below zero or above one counts as that.
Odds too small to count a draw are none. -/
def ofNumber : Json.Number → Odds
  | .whole value => { hits := if value ≤ 0 then 0 else draws }
  | .scaled negative digits exponent =>
      if negative ∨ digits = 0 then { hits := 0 }
      else if 0 ≤ exponent then { hits := draws }
      else
        let places := (-exponent).toNat
        if (Nat.toDigits 10 digits).length + 20 < places then { hits := 0 }
        else { hits := min draws (digits * draws / Nat.pow 10 places) }

end Odds

namespace Probe.Simulated

/-- Spreads a counter over all 64 bits. -/
def mix (counter : UInt64) : UInt64 :=
  let first := (counter ^^^ (counter >>> 30)) * 0xBF58476D1CE4E5B9
  let second := (first ^^^ (first >>> 27)) * 0x94D049BB133111EB
  second ^^^ (second >>> 31)

/-- The draw at a position of the stream of a seed. -/
def draw (seed : UInt64) (position : Nat) : Nat :=
  (mix (seed + UInt64.ofNat (position + 1) * 0x9E3779B97F4A7C15)).toNat

def drawsPerRead : Nat := 5

def excess : Nat := Soil.saturation / 20

def answer (seed : UInt64) (faults : Odds) (index : Nat) : ProbeAnswer :=
  let drawn := fun offset => draw seed (drawsPerRead * index + offset)
  if drawn 0 < faults.hits then .error .noConnection
  else
    let moisture := drawn 1 % (Soil.saturation + excess + 1)
    if Soil.saturation < moisture then .error .outOfBounds
    else
      .ok
        (Soil.toReading
          { moisture
            temperature := (drawn 2 % 5001 : Nat) - 500
            conductivity := drawn 3 % 2951 + 50
            battery := drawn 4 % 81 + 20 })

def probe (seed : UInt64) (faults : Odds) : Probe := Probe.ofAnswers (answer seed faults)

def usualFaults : Odds := { hits := Odds.draws / 50 }

end Probe.Simulated

end FloodMesh
