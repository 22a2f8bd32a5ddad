/-
Percent encoding.

Encoding writes every byte but letters, digits and four marks as a percent sign
and two digits. Decoding takes each percent sign with two hexadecimal digits
behind it for a byte and leaves any other as it is.
-/

import FloodMesh.Bytes

namespace FloodMesh.Percent

def sign : UInt8 := 0x25

def hexValue? (byte : UInt8) : Option Nat := Bytes.hexValue? (Char.ofNat byte.toNat)

def isUnreserved (byte : UInt8) : Bool :=
  (0x30 ≤ byte && byte ≤ 0x39) || (0x41 ≤ byte && byte ≤ 0x5A) ||
    (0x61 ≤ byte && byte ≤ 0x7A) || byte = 0x2D || byte = 0x2E || byte = 0x5F || byte = 0x7E

def hexByte (value : Nat) : UInt8 := UInt8.ofNat (Bytes.hexDigit value).toNat

def encode : Bytes → Bytes
  | [] => []
  | byte :: rest =>
      if isUnreserved byte then byte :: encode rest
      else sign :: hexByte (byte.toNat / 16) :: hexByte (byte.toNat % 16) :: encode rest

/-- The byte that a percent sign and two digits stand for. -/
def escaped? (byte high low : UInt8) : Option UInt8 :=
  if byte = sign then do
    let first ← hexValue? high
    let second ← hexValue? low
    pure (UInt8.ofNat (16 * first + second))
  else none

def decode : Bytes → Bytes
  | byte :: high :: low :: rest =>
      match escaped? byte high low with
      | some decoded => decoded :: decode rest
      | none => byte :: decode (high :: low :: rest)
  | short => short

end FloodMesh.Percent
