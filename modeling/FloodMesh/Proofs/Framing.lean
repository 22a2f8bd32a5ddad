/-
Packets and frames are one to one.

A packet's frame is written at the front of any buffer that has room, and reads
back as the packet. What reads as a packet is, but for the checksum, that
packet's frame; where the checksum holds, it is the frame. So no packet has two
frames that pass, and no frame stands for two packets.
-/

import FloodMesh.Proofs.Codec
import Mathlib.Data.Set.Function

namespace FloodMesh

namespace Checksum

theorem drop_sealed (body : Bytes) :
    (Checksum.sealed body).drop body.length = trailer (compute body) :=
  List.drop_left

theorem take_sealed (body : Bytes) : (Checksum.sealed body).take body.length = body :=
  List.take_left

/-- A string passes the check exactly if it is its own front part, sealed. -/
theorem isSealed_iff {frame : Bytes} :
    isSealed frame = true ↔
      trailerLength ≤ frame.length ∧
        frame = Checksum.sealed (frame.take (frame.length - trailerLength)) := by
  unfold isSealed Checksum.sealed
  rw [Bool.and_eq_true, decide_eq_true_iff, beq_iff_eq]
  constructor
  · rintro ⟨longEnough, closes⟩
    refine ⟨longEnough, ?_⟩
    rw [← closes, List.take_append_drop]
  · rintro ⟨longEnough, closes⟩
    refine ⟨longEnough, ?_⟩
    have split := List.take_append_drop (frame.length - trailerLength) frame
    exact List.append_cancel_left (split.trans closes)

end Checksum

namespace Packet

/-- All of a laid out packet but the checksum is its body. -/
theorem take_of_laidOut {packet : Packet} {data : Bytes} (laidOut : packet.LaidOut data) :
    data.take (data.length - Checksum.trailerLength) = packet.body := by
  have bodyLength : data.length - Checksum.trailerLength =
      1 + 6 + 6 + packet.kind.fieldLength + 1 + 32 := by
    rw [laidOut.fits, Kind.frameLength, Checksum.trailerLength]
    omega
  have tag : data.take 1 = [packet.kind.tag] := by
    rw [List.take_one, laidOut.tag]
    rfl
  have dest : (data.drop 1).take 6 = packet.dest.bytes := laidOut.dest
  have src : (data.drop (1 + 6)).take 6 = packet.src.bytes := laidOut.src
  have content : (data.drop (1 + 6 + 6)).take packet.kind.fieldLength = packet.content.bytes :=
    laidOut.content
  have hops : (data.drop (1 + 6 + 6 + packet.kind.fieldLength)).take 1 = [packet.hops] :=
    laidOut.hops
  have fingerprint : (data.drop (1 + 6 + 6 + packet.kind.fieldLength + 1)).take 32 =
      packet.fingerprint.bytes := laidOut.fingerprint
  rw [bodyLength, List.take_add, List.take_add, List.take_add, List.take_add, List.take_add,
    tag, dest, src, content, hops, fingerprint]
  simp [body]

/-- What reads as a packet differs from its frame in the checksum at most. -/
theorem take_of_decode {data : Bytes} {packet : Packet} (reads : decode data = .ok packet) :
    packet.frame.length = data.length ∧
      packet.frame.take (data.length - Checksum.trailerLength) =
        data.take (data.length - Checksum.trailerLength) := by
  have sameLength : packet.frame.length = data.length := by
    rw [length_frame, (laidOut_of_decode reads).fits]
  refine ⟨sameLength, ?_⟩
  rw [take_of_laidOut (laidOut_of_decode reads), ← sameLength,
    take_of_laidOut (laidOut_frame packet)]

/-- What reads as a packet and passes the check is its frame. -/
theorem frame_of_decode {data : Bytes} {packet : Packet} (reads : decode data = .ok packet)
    (closes : Checksum.isSealed data = true) : packet.frame = data := by
  obtain ⟨_, sealedData⟩ := Checksum.isSealed_iff.mp closes
  rw [sealedData, take_of_laidOut (laidOut_of_decode reads)]
  rfl

/-- A buffer of just the right length is filled with the frame. -/
theorem writeTo_exact (packet : Packet) {buffer : Bytes}
    (exact : buffer.length = packet.kind.frameLength) :
    packet.writeTo buffer = .ok (packet.kind.frameLength, packet.frame) := by
  rw [writeTo_eq, if_neg (by omega), List.drop_of_length_le (by omega), List.append_nil]

def frames : Set Bytes :=
  {data | Checksum.isSealed data = true ∧ ∃ packet, decode data = .ok packet}

private theorem bijOn_frame : Set.BijOn frame Set.univ frames := by
  refine ⟨?_, ?_, ?_⟩
  · intro packet _
    exact ⟨isSealed_frame packet, packet, decode_frame packet⟩
  · intro first _ second _ same
    have reads := decode_frame first
    rw [same, decode_frame] at reads
    exact (Except.ok.inj reads).symm
  · rintro data ⟨closes, packet, reads⟩
    exact ⟨packet, Set.mem_univ packet, frame_of_decode reads closes⟩

/-- Writing a packet gives a frame of its length that passes the check and reads
back as the packet. What reads as a packet agrees with its frame up to the
checksum, and wholly if it passes the check. -/
theorem frames_one_to_one :
    (∀ packet : Packet,
      packet.writeTo (List.replicate packet.kind.frameLength 0) =
          .ok (packet.kind.frameLength, packet.frame) ∧
        packet.frame.length = packet.kind.frameLength ∧
        Checksum.isSealed packet.frame = true ∧ decode packet.frame = .ok packet) ∧
      (∀ data packet, decode data = .ok packet →
        packet.frame.length = data.length ∧
          packet.frame.take (data.length - 2) = data.take (data.length - 2) ∧
          (Checksum.isSealed data = true → packet.frame = data)) ∧
      Set.BijOn frame Set.univ frames := by
  refine ⟨?_, ?_, bijOn_frame⟩
  · intro packet
    have filled := writeTo_exact packet (List.length_replicate (a := (0 : UInt8)))
    exact ⟨filled, length_frame packet, isSealed_frame packet, decode_frame packet⟩
  · intro data packet reads
    obtain ⟨sameLength, sameBody⟩ := take_of_decode reads
    exact ⟨sameLength, sameBody, frame_of_decode reads⟩

def report : Packet :=
  { dest := .numbered 0
    src := .numbered 7
    content := .fault 0x0B
    hops := 4
    fingerprint := Fingerprint.blank }

/-- The report reads without its checksum, and the check tells. -/
theorem frames_one_to_one_report :
    decode (report.body ++ [0, 0]) = .ok report ∧
      report.frame.take 47 = (report.body ++ [0, 0]).take 47 ∧
      Checksum.isSealed (report.body ++ [0, 0]) = false ∧
      Checksum.isSealed report.frame = true ∧ decode report.frame = .ok report := by
  have reads : decode (report.body ++ [0, 0]) = .ok report := by decide +kernel
  have written := frames_one_to_one.1 report
  exact ⟨reads, (frames_one_to_one.2.1 _ report reads).2.1, by decide +kernel, written.2.2⟩

end Packet

end FloodMesh
