/-
The frame of a packet.

    tag          1 byte   at 0
    destination  6 bytes  at 1
    source       6 bytes  at 7
    own field    1 or 7   at 13
    hop budget   1 byte   at 14 or 20
    fingerprint  32 bytes at 15 or 21
    checksum     2 bytes  at 47 or 53

Reading a frame checks tag, length and addresses in this order and leaves the
checksum to its caller. Writing seals the body, so what is written is accepted
by the checksum and reads back as the packet. A buffer gets the body first and
then the checksum over it.
-/

import FloodMesh.Checksum
import FloodMesh.Packet.Filling

namespace FloodMesh.Checksum

/-- Writes the sum of the first `count` bytes of a buffer just behind them, or
leaves a buffer without room for it alone. -/
def closeAt (count : Nat) : Filling Unit := do
  Filling.demand (count + trailerLength)
  let buffer ← get
  Filling.copy count (trailer (compute (buffer.take count)))

def stamp (buffer : Bytes) (count : Nat) : Except FrameError Bytes :=
  ((closeAt count).result buffer).map Prod.snd

theorem on_closeAt (count : Nat) (buffer : Bytes) :
    (closeAt count).on buffer =
      if buffer.length < count + trailerLength then
        (.error (.bufferTooSmall (count + trailerLength) buffer.length), buffer)
      else (.ok (), sealed (buffer.take count) ++ buffer.drop (count + trailerLength)) := by
  unfold closeAt
  rw [Filling.on_demand_bind, Filling.on_bind, Filling.on_get]
  dsimp only
  rw [Filling.on_copy]
  rfl

theorem stamp_eq (buffer : Bytes) (count : Nat) :
    stamp buffer count =
      if buffer.length < count + trailerLength then
        .error (.bufferTooSmall (count + trailerLength) buffer.length)
      else .ok (sealed (buffer.take count) ++ buffer.drop (count + trailerLength)) := by
  unfold stamp
  rw [Filling.result_of_on (on_closeAt count buffer)]
  split <;> rfl

end FloodMesh.Checksum

namespace FloodMesh.Packet

def body (packet : Packet) : Bytes :=
  packet.kind.tag :: (packet.dest.bytes ++ packet.src.bytes ++ packet.content.bytes ++
    [packet.hops] ++ packet.fingerprint.bytes)

def frame (packet : Packet) : Bytes := Checksum.sealed packet.body

def contentOffset : Nat := 13

def hopsOffset (kind : Kind) : Nat := contentOffset + kind.fieldLength

def fingerprintOffset (kind : Kind) : Nat := hopsOffset kind + 1

def contentOf (kind : Kind) (data : Bytes) (fits : data.length = kind.frameLength) : Content :=
  match kind with
  | .request => .request (data.getD contentOffset 0)
  | .reading =>
      .reading
        { bytes := data.slice contentOffset 7
          length_eq := Bytes.length_slice (by rw [fits]; decide) }
  | .fault => .fault (data.getD contentOffset 0)

def fingerprintOf (kind : Kind) (data : Bytes) (fits : data.length = kind.frameLength) :
    Fingerprint :=
  { bytes := data.slice (fingerprintOffset kind) 32
    length_eq := Bytes.length_slice (by rw [fits]; cases kind <;> decide) }

def decode (data : Bytes) : Except FrameError Packet :=
  match data with
  | [] => .error .empty
  | tag :: _ =>
      match Kind.ofTag? tag with
      | none => .error (.unknownKind tag)
      | some kind =>
          if fits : data.length = kind.frameLength then do
            let dest ← Address.ofBytes (data.slice 1 6)
            let src ← Address.ofBytes (data.slice 7 6)
            pure
              { dest, src
                content := contentOf kind data fits
                hops := data.getD (hopsOffset kind) 0
                fingerprint := fingerprintOf kind data fits }
          else .error (.lengthMismatch kind kind.frameLength data.length)

def unsealed (packet : Packet) : Bytes :=
  packet.body ++ List.replicate Checksum.trailerLength 0

/-- Writes the frame at the start of a buffer, or leaves a short one alone. -/
def fill (packet : Packet) : Filling Nat := do
  let length := packet.kind.frameLength
  Filling.demand length
  Filling.copy 0 packet.unsealed
  Checksum.closeAt (length - Checksum.trailerLength)
  pure length

def writeTo (packet : Packet) (buffer : Bytes) : Except FrameError (Nat × Bytes) :=
  packet.fill.result buffer

theorem length_body (packet : Packet) :
    packet.body.length + Checksum.trailerLength = packet.kind.frameLength := by
  cases packet with
  | mk dest src content hops fingerprint =>
      cases content <;>
        simp [body, kind, Content.kind, Content.bytes, Kind.frameLength, Kind.fieldLength,
          Checksum.trailerLength, dest.length_eq, src.length_eq, fingerprint.length_eq,
          Reading.length_eq]

theorem length_frame (packet : Packet) : packet.frame.length = packet.kind.frameLength := by
  have trailerLength : ∀ sum, (Checksum.trailer sum).length = Checksum.trailerLength :=
    fun _ => rfl
  rw [← length_body packet, frame, Checksum.sealed, List.length_append, trailerLength]

theorem length_unsealed (packet : Packet) : packet.unsealed.length = packet.kind.frameLength := by
  rw [unsealed, List.length_append, List.length_replicate, length_body]

/-- Closing the body that was copied makes it the frame. -/
theorem on_closeAt_unsealed (packet : Packet) (rest : Bytes) :
    (Checksum.closeAt (packet.kind.frameLength - Checksum.trailerLength)).on
        (packet.unsealed ++ rest) =
      (.ok (), packet.frame ++ rest) := by
  have bodyLength : packet.kind.frameLength - Checksum.trailerLength = packet.body.length := by
    have whole := packet.length_body
    omega
  have room : ¬ (packet.unsealed ++ rest).length <
      packet.body.length + Checksum.trailerLength := by
    rw [List.length_append, length_unsealed, length_body]
    omega
  have body : (packet.unsealed ++ rest).take packet.body.length = packet.body := by
    rw [unsealed, List.append_assoc, List.take_left]
  have behind :
      (packet.unsealed ++ rest).drop (packet.body.length + Checksum.trailerLength) = rest := by
    rw [length_body, ← length_unsealed, List.drop_left]
  rw [bodyLength, Checksum.on_closeAt, if_neg room, body, behind]
  rfl

theorem on_fill (packet : Packet) (buffer : Bytes) :
    packet.fill.on buffer =
      if buffer.length < packet.kind.frameLength then
        (.error (.bufferTooSmall packet.kind.frameLength buffer.length), buffer)
      else
        (.ok packet.kind.frameLength,
          packet.frame ++ buffer.drop packet.kind.frameLength) := by
  unfold fill
  dsimp only
  rw [Filling.on_demand_bind, Filling.on_bind, Filling.on_copy]
  dsimp only
  rw [List.take_zero, List.nil_append, Nat.zero_add, length_unsealed, Filling.on_bind,
    on_closeAt_unsealed]
  rfl

theorem writeTo_eq (packet : Packet) (buffer : Bytes) :
    packet.writeTo buffer =
      if buffer.length < packet.kind.frameLength then
        .error (.bufferTooSmall packet.kind.frameLength buffer.length)
      else
        .ok (packet.kind.frameLength,
          packet.frame ++ buffer.drop packet.kind.frameLength) :=
  Filling.result_of_on (packet.on_fill buffer)

end FloodMesh.Packet
