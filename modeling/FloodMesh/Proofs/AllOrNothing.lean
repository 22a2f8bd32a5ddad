/-
A buffer is written whole or not at all.

Two fillings look at the length of a buffer, each for itself: the one that writes a packet,
and the one that closes it with the sum, which runs after the packet was copied. The second
finds the buffer that the first has let through, so it never fails in the middle. Whatever
the kind of the packet, the length of the buffer and the place of the sum, either the
buffer is as it was or all that was to be written is there, and nothing else has changed.
-/

import FloodMesh.Proofs.Codec

namespace FloodMesh

/-- A filling refuses a buffer that is shorter than it needs and leaves it alone. Any other
it fills without changing the length, as described. -/
structure Filling.AllOrNothing {α : Type} (filling : Filling α) (needed : Nat)
    (Fills : Bytes → α → Bytes → Prop) : Prop where
  refuses : ∀ buffer, buffer.length < needed →
    filling.on buffer = (.error (.bufferTooSmall needed buffer.length), buffer)
  fills : ∀ buffer, needed ≤ buffer.length →
    ∃ answer after, filling.on buffer = (.ok answer, after) ∧
      after.length = buffer.length ∧ Fills buffer answer after

namespace Filling.AllOrNothing

variable {α : Type} {filling : Filling α} {needed : Nat} {Fills : Bytes → α → Bytes → Prop}

private theorem refused_iff (sound : filling.AllOrNothing needed Fills) (buffer : Bytes) :
    filling.on buffer = (.error (.bufferTooSmall needed buffer.length), buffer) ↔
      buffer.length < needed := by
  constructor
  · intro refused
    apply Nat.lt_of_not_ge
    intro room
    obtain ⟨answer, after, filled, _, _⟩ := sound.fills buffer room
    rw [filled] at refused
    cases refused
  · exact sound.refuses buffer

end Filling.AllOrNothing

/-! ### The sum -/

namespace Checksum

private theorem length_sealed (body : Bytes) :
    (Checksum.sealed body).length = body.length + trailerLength := by
  unfold Checksum.sealed
  rw [List.length_append, length_trailer]

variable {buffer : Bytes} {count : Nat}

section Closed

variable (room : count + trailerLength ≤ buffer.length)
include room

private theorem length_sealed_take :
    (Checksum.sealed (buffer.take count)).length = count + trailerLength := by
  rw [length_sealed, List.length_take, Nat.min_eq_left (by omega)]

private theorem length_closed :
    (Checksum.sealed (buffer.take count) ++ buffer.drop (count + trailerLength)).length =
      buffer.length := by
  rw [List.length_append, length_sealed_take room, List.length_drop]
  omega

private theorem take_closed :
    (Checksum.sealed (buffer.take count) ++ buffer.drop (count + trailerLength)).take
        (count + trailerLength) =
      Checksum.sealed (buffer.take count) := by
  rw [← length_sealed_take room, List.take_left]

/-- All places but the two of the sum hold what they held. -/
theorem getElem?_closed {place : Nat} (notHigh : place ≠ count) (notLow : place ≠ count + 1) :
    (Checksum.sealed (buffer.take count) ++ buffer.drop (count + trailerLength))[place]? =
      buffer[place]? := by
  have sealedLength := length_sealed_take room
  have two : trailerLength = 2 := rfl
  rcases Nat.lt_or_ge place count with before | behind
  · have inBody : place < (buffer.take count).length := by
      rw [List.length_take]
      omega
    rw [List.getElem?_append_left (by omega)]
    unfold Checksum.sealed
    rw [List.getElem?_append_left inBody, List.getElem?_take_of_lt before]
  · rw [List.getElem?_append_right (by omega), List.getElem?_drop, sealedLength]
    congr 1
    omega

end Closed

/-- At most the two places of the sum change, and the check passes up to there. -/
theorem closeAt_allOrNothing (count : Nat) :
    (closeAt count).AllOrNothing (count + trailerLength) fun buffer _ after =>
      (∀ place, place ≠ count → place ≠ count + 1 → after[place]? = buffer[place]?) ∧
        isSealed (after.take (count + trailerLength)) = true where
  refuses := by
    intro buffer short
    rw [on_closeAt, if_pos short]
  fills := by
    intro buffer room
    refine ⟨(), Checksum.sealed (buffer.take count) ++ buffer.drop (count + trailerLength),
      ?_, length_closed room, ?_, ?_⟩
    · rw [on_closeAt, if_neg (by omega)]
    · intro place notHigh notLow
      exact getElem?_closed room notHigh notLow
    · rw [take_closed room]
      exact isSealed_sealed (buffer.take count)

end Checksum

/-! ### The packet and its sum -/

namespace Packet

private theorem fill_allOrNothing (packet : Packet) :
    packet.fill.AllOrNothing packet.kind.frameLength fun buffer answer after =>
      answer = packet.kind.frameLength ∧
        after.take packet.kind.frameLength = packet.frame ∧
        after.drop packet.kind.frameLength = buffer.drop packet.kind.frameLength where
  refuses := by
    intro buffer short
    rw [on_fill, if_pos short]
  fills := by
    intro buffer room
    have frameLength := length_frame packet
    refine ⟨packet.kind.frameLength, packet.frame ++ buffer.drop packet.kind.frameLength,
      ?_, ?_, rfl, ?_, ?_⟩
    · rw [on_fill, if_neg (by omega)]
    · rw [List.length_append, List.length_drop]
      omega
    · rw [← frameLength, List.take_left]
    · rw [← frameLength, List.drop_left]

/-- A buffer of just the length of the frame becomes the frame, whatever was in it. -/
theorem on_fill_exact (packet : Packet) {buffer : Bytes}
    (exact : buffer.length = packet.kind.frameLength) :
    packet.fill.on buffer = (.ok packet.kind.frameLength, packet.frame) := by
  rw [on_fill, if_neg (by omega), ← exact, List.drop_length, List.append_nil]

/-- A packet is written to a buffer that has room for its frame: the frame stands in front,
as in a buffer of its own, and what lies behind it is as it was. A sum is written to a
buffer that has room for it behind the bytes it covers: no other place changes, and the
check passes up to there. A buffer without room is refused with both lengths and is as it
was. -/
theorem whole_or_untouched :
    (∀ (packet : Packet) (buffer : Bytes),
      let length := packet.kind.frameLength
      let written := packet.fill.on buffer
      (written = (.error (.bufferTooSmall length buffer.length), buffer) ↔
          buffer.length < length) ∧
        (length ≤ buffer.length →
          written.1 = .ok length ∧ written.2.take length = packet.frame ∧
            written.2.drop length = buffer.drop length) ∧
        packet.fill.on (List.replicate length 0) = (.ok length, packet.frame)) ∧
      ∀ (buffer : Bytes) (count : Nat),
        let closed := (Checksum.closeAt count).on buffer
        (closed = (.error (.bufferTooSmall (count + 2) buffer.length), buffer) ↔
            buffer.length < count + 2) ∧
          (count + 2 ≤ buffer.length →
            closed.1 = .ok () ∧ closed.2.length = buffer.length ∧
              (∀ place, place ≠ count → place ≠ count + 1 →
                closed.2[place]? = buffer[place]?) ∧
              Checksum.isSealed (closed.2.take (count + 2)) = true) := by
  constructor
  · intro packet buffer length written
    have sound := packet.fill_allOrNothing
    refine ⟨sound.refused_iff buffer, ?_, packet.on_fill_exact List.length_replicate⟩
    intro room
    obtain ⟨answer, after, filled, _, returned, front, behind⟩ := sound.fills buffer room
    have writtenEq : written = (.ok answer, after) := filled
    rw [writtenEq, returned]
    exact ⟨rfl, front, behind⟩
  · intro buffer count closed
    have sound := Checksum.closeAt_allOrNothing count
    refine ⟨sound.refused_iff buffer, ?_⟩
    intro room
    obtain ⟨answer, after, filled, sameLength, others, closes⟩ := sound.fills buffer room
    have closedEq : closed = (.ok answer, after) := filled
    rw [closedEq]
    exact ⟨rfl, sameLength, others, closes⟩

def fiveHops : Packet where
  dest := .numbered 0
  src := .numbered 7
  content := .reading { bytes := [9, 8, 7, 6, 5, 4, 3], length_eq := rfl }
  hops := 5
  fingerprint := .blank

/-- One byte too few and nothing is written; with room to spare, the rest stays. A sum is
written into the middle of a buffer as well. -/
theorem whole_or_untouched_fiveHops :
    fiveHops.fill.on (List.replicate 54 0xEE) =
        (.error (.bufferTooSmall 55 54), List.replicate 54 0xEE) ∧
      (fiveHops.fill.on (List.replicate 60 0xEE)).1 = .ok 55 ∧
      (fiveHops.fill.on (List.replicate 60 0xEE)).2.take 55 = fiveHops.frame ∧
      (fiveHops.fill.on (List.replicate 60 0xEE)).2.drop 55 = List.replicate 5 0xEE ∧
      ((Checksum.closeAt 1).on [7, 8, 9, 10]).2[3]? = some 10 ∧
      Checksum.isSealed (((Checksum.closeAt 1).on [7, 8, 9, 10]).2.take 3) = true := by
  obtain ⟨packets, sums⟩ := whole_or_untouched
  have short := (packets fiveHops (List.replicate 54 0xEE)).1.mpr (by decide)
  obtain ⟨returned, front, behind⟩ :=
    (packets fiveHops (List.replicate 60 0xEE)).2.1 (by decide)
  obtain ⟨_, _, others, closes⟩ := (sums [7, 8, 9, 10] 1).2 (by decide)
  exact ⟨short, returned, front, behind, others 3 (by decide) (by decide), closes⟩

end Packet

end FloodMesh
