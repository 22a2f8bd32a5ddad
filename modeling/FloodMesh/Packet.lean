/-
The three kinds of packet and what goes wrong when one is read or written.

Every packet says where it goes, where it came from, how many more hops it may
take and which origination it belongs to. A request also announces the size of
the mesh, a reading carries seven data bytes, a fault carries its code.
-/

import FloodMesh.Fingerprint
import FloodMesh.Text.Quoted

namespace FloodMesh

inductive Kind
  | request
  | reading
  | fault
  deriving DecidableEq

namespace Kind

def tag : Kind → UInt8
  | .request => 1
  | .reading => 2
  | .fault => 3

def ofTag? (tag : UInt8) : Option Kind :=
  if tag = 1 then some .request
  else if tag = 2 then some .reading
  else if tag = 3 then some .fault
  else none

def name : Kind → String
  | .request => "Request"
  | .reading => "SuccessResponse"
  | .fault => "ErrorResponse"

def fieldLength : Kind → Nat
  | .request => 1
  | .reading => 7
  | .fault => 1

def frameLength (kind : Kind) : Nat := 48 + kind.fieldLength

end Kind

/-- A frame shorter than this holds no packet. -/
def shortestFrame : Nat := 49

def longestFrame : Nat := 55

/-- Seven data bytes. -/
structure Reading where
  bytes : Bytes
  length_eq : bytes.length = 7
  deriving DecidableEq

namespace Reading

def zero : Reading := { bytes := List.replicate 7 0, length_eq := by simp }

def ofBytes? (data : Bytes) : Option Reading :=
  if length_eq : data.length = 7 then some { bytes := data, length_eq } else none

def hex (reading : Reading) : String := reading.bytes.hexText

end Reading

inductive Content
  | request (meshSize : UInt8)
  | reading (data : Reading)
  | fault (code : UInt8)
  deriving DecidableEq

def Content.kind : Content → Kind
  | .request _ => .request
  | .reading _ => .reading
  | .fault _ => .fault

def Content.bytes : Content → Bytes
  | .request meshSize => [meshSize]
  | .reading data => data.bytes
  | .fault code => [code]

structure Packet where
  dest : Address
  src : Address
  content : Content
  /-- How many more times the packet may be sent on. -/
  hops : UInt8
  fingerprint : Fingerprint
  deriving DecidableEq

def Packet.kind (packet : Packet) : Kind := packet.content.kind

inductive FrameError
  | empty
  | unknownKind (tag : UInt8)
  | lengthMismatch (kind : Kind) (expected actual : Nat)
  | bufferTooSmall (needed available : Nat)
  | invalidAddress (text : String)
  deriving DecidableEq

def FrameError.message : FrameError → String
  | .empty => "empty frame"
  | .unknownKind tag => "unknown packet kind: 0x" ++ Bytes.hexText [tag]
  | .lengthMismatch kind expected actual =>
      kind.name ++ " frame must be " ++ toString expected ++ " bytes, got " ++ toString actual
  | .bufferTooSmall needed available =>
      "buffer too small: need " ++ toString needed ++ " bytes, have " ++ toString available
  | .invalidAddress text => "invalid node address: " ++ Quoted.quote text

/-- An address from six bytes; refused bytes are shown as lossily read text. -/
def Address.ofBytes (data : Bytes) : Except FrameError Address :=
  match Address.ofBytes? data with
  | some address => .ok address
  | none => .error (.invalidAddress (String.ofList (Utf8.decodeLossy data)))

def Address.ofString (text : String) : Except FrameError Address :=
  match Address.ofString? text with
  | some address => .ok address
  | none => .error (.invalidAddress text)

end FloodMesh
