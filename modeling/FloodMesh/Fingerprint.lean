/-
Fingerprints name one origination: the digest of the originator's address
followed by its number at that moment in decimal. Relays carry a fingerprint
on unchanged, so every copy of a packet bears the same one.
-/

import FloodMesh.Address
import FloodMesh.Sha256

namespace FloodMesh

structure Fingerprint where
  bytes : Bytes
  length_eq : bytes.length = 32
  deriving DecidableEq

namespace Fingerprint

def byteLength : Nat := 32

def blank : Fingerprint := { bytes := List.replicate 32 0, length_eq := by simp }

def ofBytes? (data : Bytes) : Option Fingerprint :=
  if length_eq : data.length = 32 then some { bytes := data, length_eq } else none

theorem ofBytes?_bytes (fingerprint : Fingerprint) :
    ofBytes? fingerprint.bytes = some fingerprint := by
  simp [ofBytes?, fingerprint.length_eq]

def hex (fingerprint : Fingerprint) : String := fingerprint.bytes.hexText

def ofHex? (text : String) : Option Fingerprint :=
  (Bytes.ofHex? text.toList).bind ofBytes?

def short (fingerprint : Fingerprint) : String :=
  Bytes.hexText (fingerprint.bytes.take 8)

/-- What is digested for the packet that a node originates under a number. -/
def preimage (origin : Address) (number : UInt8) : Bytes :=
  origin.bytes ++ Utf8.encode (Nat.toDigits 10 number.toNat)

def generate (origin : Address) (number : UInt8) : Fingerprint :=
  { bytes := Sha256.digest (preimage origin number), length_eq := Sha256.length_digest _ }

theorem ofHex?_hex (fingerprint : Fingerprint) : ofHex? fingerprint.hex = some fingerprint := by
  simp [ofHex?, hex, Bytes.hexText, Bytes.ofHex?_hex, ofBytes?_bytes]

end Fingerprint

end FloodMesh
