/-
A relay changes three bytes of what it sends on.

It reads the frame as a packet, lowers the hop budget and writes a frame anew. Because
reading and writing lose nothing, this comes to the same as counting the budget down where
it lies in the heard frame and stamping the checksum over it. On this way nothing can fail
but the radio itself: the budget is not zero, the buffer has room for any packet, and no
packet's frame is too long for the radio.
-/

import FloodMesh.Proofs.Course
import FloodMesh.Proofs.Framing

namespace FloodMesh

namespace Packet

def front (packet : Packet) : Bytes :=
  [packet.kind.tag] ++ packet.dest.bytes ++ packet.src.bytes ++ packet.content.bytes

private theorem body_eq_front (packet : Packet) :
    packet.body = packet.front ++ packet.hops :: packet.fingerprint.bytes := by
  simp [body, front]

private theorem length_front (packet : Packet) : packet.front.length = hopsOffset packet.kind := by
  simp only [front, List.length_append, List.length_singleton, packet.dest.length_eq,
    packet.src.length_eq, length_contentBytes, hopsOffset, contentOffset, kind]

private theorem body_passedOn (packet : Packet) :
    packet.passedOn.body = packet.body.set (hopsOffset packet.kind) (packet.hops - 1) := by
  rw [body_eq_front, body_eq_front, ← length_front, List.set_append_right _ _ (Nat.le_refl _),
    Nat.sub_self]
  rfl

private theorem hops_of_body (packet : Packet) :
    packet.body[hopsOffset packet.kind]? = some packet.hops := by
  rw [body_eq_front, ← length_front, List.getElem?_append_right (Nat.le_refl _), Nat.sub_self]
  rfl

private theorem length_body_eq (packet : Packet) :
    packet.body.length = packet.frame.length - 2 := by
  have sealedLength := length_body packet
  rw [Checksum.trailerLength] at sealedLength
  rw [length_frame]
  omega

private theorem take_frame_body (packet : Packet) :
    packet.frame.take (packet.frame.length - 2) = packet.body := by
  rw [← length_body_eq]
  exact Checksum.take_sealed packet.body

private theorem drop_frame_body (packet : Packet) :
    packet.frame.drop (packet.frame.length - 2) =
      Checksum.trailer (Checksum.compute packet.body) := by
  rw [← length_body_eq]
  exact Checksum.drop_sealed packet.body

private theorem getElem?_frame (packet : Packet) {place : Nat}
    (within : place < packet.frame.length - 2) :
    packet.frame[place]? = packet.body[place]? := by
  rw [← take_frame_body, List.getElem?_take_of_lt within]

private theorem length_passedOn (packet : Packet) :
    packet.passedOn.frame.length = packet.frame.length := by
  rw [length_frame, length_frame]
  rfl

private theorem hopsOffset_lt (packet : Packet) :
    hopsOffset packet.kind < packet.frame.length - 2 := by
  rw [length_frame]
  cases packet.kind <;> decide

private theorem hopsOffset_eq (kind : Kind) :
    hopsOffset kind = if kind = .reading then 20 else 14 := by
  cases kind <;> rfl

end Packet

structure CountsDown (place : Nat) (heard frame : Bytes) : Prop where
  length : frame.length = heard.length
  others : ∀ other, other < heard.length - 2 → other ≠ place → frame[other]? = heard[other]?
  counted : ∃ hops left, heard[place]? = some hops ∧ frame[place]? = some left ∧
    hops.toNat = left.toNat + 1
  closes : frame.drop (heard.length - 2) =
    Checksum.trailer (Checksum.compute (frame.take (heard.length - 2)))

namespace Packet

private theorem countsDown_passedOn {packet : Packet} (alive : packet.hops ≠ 0) :
    CountsDown (hopsOffset packet.kind) packet.frame packet.passedOn.frame where
  length := packet.length_passedOn
  others other within apart := by
    rw [getElem?_frame _ within, getElem?_frame _ (by rw [length_passedOn]; exact within),
      body_passedOn, List.getElem?_set_ne (Ne.symm apart)]
  counted := by
    have inside := packet.hopsOffset_lt
    refine ⟨packet.hops, packet.hops - 1, ?_, ?_, ?_⟩
    · rw [getElem?_frame _ inside, hops_of_body]
    · rw [getElem?_frame _ (by rw [length_passedOn]; exact inside)]
      exact packet.passedOn.hops_of_body
    · have positive : packet.hops.toNat ≠ 0 := fun zero => alive (UInt8.toNat_inj.mp zero)
      have one : (1 : UInt8).toNat = 1 := rfl
      have enough : (1 : UInt8) ≤ packet.hops := by
        rw [UInt8.le_iff_toNat_le]
        omega
      rw [UInt8.toNat_sub_of_le _ _ enough]
      omega
  closes := by
    rw [← length_passedOn, drop_frame_body, take_frame_body]

private theorem stamp_frame (packet : Packet) :
    Checksum.stamp (packet.frame.set (hopsOffset packet.kind) (packet.hops - 1))
        (packet.frame.length - 2) =
      .ok packet.passedOn.frame := by
  have long := packet.hopsOffset_lt
  rw [Checksum.stamp_eq, List.length_set, if_neg (by rw [Checksum.trailerLength]; omega),
    List.take_set, take_frame_body, ← body_passedOn, List.drop_of_length_le, List.append_nil]
  · rfl
  · rw [List.length_set, Checksum.trailerLength]
    omega

end Packet

namespace Node

/-- The frames a node hands to its radio while it handles a frame: those that go out if the
radio takes all it is handed. -/
def handed (node : Node) (surroundings : Surroundings) (frame : Bytes) : List Bytes :=
  sentFrames (node.process { surroundings with verdict := none } frame).effects

variable {node : Node} {surroundings : Surroundings} {heard : Bytes} {packet : Packet}

/-- An admitted frame for another node is handed to the radio as it was heard, with the hop
budget counted down in its place and the sum renewed. -/
theorem forwarding_counts_down (admitted : examine node.absorbedRing heard = .ok packet)
    (foreign : packet.dest ≠ node.address) :
    let place := if packet.kind = .reading then 20 else 14
    ∃ frame,
      node.handed surroundings heard = [frame] ∧ CountsDown place heard frame ∧
        Checksum.stamp (heard.set place (packet.hops - 1)) (heard.length - 2) = .ok frame ∧
        Checksum.isSealed frame = true ∧
        Packet.decode frame = .ok { packet with hops := packet.hops - 1 } ∧
        (∃ rest,
          Packet.writeTo { packet with hops := packet.hops - 1 } (List.replicate 55 0) =
            .ok (frame.length, frame ++ rest)) ∧
        surroundings.verdict.vet frame = surroundings.verdict ∧
        match surroundings.verdict with
        | none =>
            (node.process surroundings heard).outcome =
                .forwarded packet.kind (packet.hops - 1) ∧
              sentFrames (node.process surroundings heard).effects = [frame]
        | some fault =>
            (node.process surroundings heard).outcome = .forwardFailed packet.kind fault ∧
              sentFrames (node.process surroundings heard).effects = [] := by
  intro place
  obtain ⟨_, closes, reads, alive, _⟩ := examine_eq_ok_iff.mp admitted
  have heardEq : packet.frame = heard := Packet.frame_of_decode reads closes
  have placeEq : Packet.hopsOffset packet.kind = place := Packet.hopsOffset_eq packet.kind
  subst heardEq
  rw [← placeEq]
  have taken : node.handed surroundings packet.frame = [packet.passedOn.frame] :=
    (@process_of_foreign node { surroundings with verdict := none } _ _ admitted foreign).2
  refine ⟨packet.passedOn.frame, taken, Packet.countsDown_passedOn alive, packet.stamp_frame,
    Packet.isSealed_frame _, Packet.decode_frame _, ?_, vet_frame _ _,
    process_of_foreign admitted foreign⟩
  exact ⟨_, Packet.writeTo_longest packet.passedOn⟩

def passerBy : Node where
  address := .numbered 3
  duty := .controller
  ring := Ring.empty 2
  queue := Queue.new 1

def lastHop : Packet where
  dest := .numbered 0
  src := .numbered 7
  content := .reading { bytes := [1, 2, 3, 4, 5, 6, 7], length_eq := rfl }
  hops := 1
  fingerprint := .blank

/-- The radio is handed the reading with its budget at zero, and refuses it. -/
theorem forwarding_counts_down_lastHop :
    (examine passerBy.absorbedRing lastHop.frame = .ok lastHop ∧
        lastHop.dest ≠ passerBy.address) ∧
      ∃ frame,
        passerBy.handed { verdict := some .busy, now := 0 } lastHop.frame = [frame] ∧
          CountsDown 20 lastHop.frame frame ∧
          Packet.decode frame = .ok { lastHop with hops := 0 } ∧
          (passerBy.process { verdict := some .busy, now := 0 } lastHop.frame).outcome =
            .forwardFailed .reading .busy := by
  have admitted : examine passerBy.absorbedRing lastHop.frame = .ok lastHop :=
    examine_eq_ok_iff.mpr ⟨Packet.shortestFrame_le _, Packet.isSealed_frame _,
      Packet.decode_frame _, by decide, by decide⟩
  have foreign : lastHop.dest ≠ passerBy.address := by decide
  obtain ⟨frame, handed, counted, _, _, reads, _, _, refused, _⟩ :=
    @forwarding_counts_down passerBy { verdict := some .busy, now := 0 } _ _ admitted foreign
  exact ⟨⟨admitted, foreign⟩, frame, handed, counted, reads, refused⟩

end Node

end FloodMesh
