/-
The sixteen-bit checksum that closes every frame.

The register starts with all bits set, takes each byte at its high end and is
shifted bit by bit, most significant first, with the polynomial
x^16 + x^12 + x^5 + 1. The sum is written as two bytes, high byte first,
behind the bytes it covers. Nothing is added at the end, so the sum over a
sealed frame is zero and no trailer needs to be cut off to check one.
-/

import FloodMesh.Bytes

namespace FloodMesh.Checksum

/-- How many bytes the sum takes at the end of a frame. -/
def trailerLength : Nat := 2

def shift (register : UInt16) : UInt16 :=
  if register &&& 0x8000 = 0 then register <<< 1 else (register <<< 1) ^^^ 0x1021

def absorb (register : UInt16) (byte : UInt8) : UInt16 :=
  Nat.repeat shift 8 (register ^^^ (byte.toUInt16 <<< 8))

def compute (data : Bytes) : UInt16 := data.foldl absorb 0xFFFF

def trailer (sum : UInt16) : Bytes := [(sum >>> 8).toUInt8, sum.toUInt8]

/-- A body with its sum behind it. -/
def sealed (body : Bytes) : Bytes := body ++ trailer (compute body)

/-- Whether the last two bytes are the sum of those before them. A string too
short to hold a sum is not sealed. -/
def isSealed (frame : Bytes) : Bool :=
  trailerLength ≤ frame.length &&
    frame.drop (frame.length - trailerLength) ==
      trailer (compute (frame.take (frame.length - trailerLength)))

end FloodMesh.Checksum
