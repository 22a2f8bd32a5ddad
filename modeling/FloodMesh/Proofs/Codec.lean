/-
Frames and packets answer each other.

A body with its sum behind it passes the checksum, and the frame of a packet
reads back as that packet. What is left of a packet's frame after it was cut
reads as no packet, because the tag fixes the length.
-/

import FloodMesh.Packet.Frame

namespace FloodMesh

/-! ### Slices of joined byte strings -/

private theorem Bytes.slice_of_prefix {data before middle : Bytes} {offset count : Nat}
    (begins : before ++ middle <+: data)
    (offsetEq : before.length = offset) (countEq : middle.length = count) :
    data.slice offset count = middle := by
  obtain ⟨after, split⟩ := begins
  subst split offsetEq countEq
  unfold Bytes.slice
  rw [List.append_assoc, List.drop_left, List.take_left]

private theorem Bytes.getD_of_slice {data : Bytes} {offset : Nat} {byte : UInt8}
    (alone : data.slice offset 1 = [byte]) : data.getD offset 0 = byte := by
  unfold Bytes.slice at alone
  have first : (data.drop offset).head? = some byte := by
    cases rest : data.drop offset with
    | nil =>
        rw [rest] at alone
        cases alone
    | cons head tail =>
        rw [rest] at alone
        cases alone
        rfl
  rw [List.head?_drop] at first
  rw [List.getD_eq_getElem?_getD, first, Option.getD_some]

/-! ### The checksum -/

namespace Checksum

theorem length_trailer (sum : UInt16) : (trailer sum).length = trailerLength := rfl

/-- A sealed body passes the check. -/
theorem isSealed_sealed (body : Bytes) : isSealed (Checksum.sealed body) = true := by
  unfold Checksum.sealed isSealed
  have total :
      (body ++ trailer (compute body)).length = body.length + trailerLength := by
    rw [List.length_append, length_trailer]
  rw [total, Nat.add_sub_cancel, List.drop_left, List.take_left]
  simp

end Checksum

namespace Packet

theorem isSealed_frame (packet : Packet) : Checksum.isSealed packet.frame = true :=
  Checksum.isSealed_sealed packet.body

/-! ### Where the fields of a frame lie -/

theorem length_contentBytes (content : Content) :
    content.bytes.length = content.kind.fieldLength := by
  cases content with
  | request meshSize => rfl
  | reading data => exact data.length_eq
  | fault code => rfl

/-- The fields of a frame in order. -/
theorem frame_eq_fields (packet : Packet) :
    packet.frame =
      [packet.kind.tag] ++ packet.dest.bytes ++ packet.src.bytes ++ packet.content.bytes ++
        [packet.hops] ++ packet.fingerprint.bytes ++
        Checksum.trailer (Checksum.compute packet.body) := by
  simp [frame, Checksum.sealed, body]

private theorem slice_dest (packet : Packet) : packet.frame.slice 1 6 = packet.dest.bytes := by
  have begins : [packet.kind.tag] ++ packet.dest.bytes <+: packet.frame := by
    rw [frame_eq_fields]
    simp
  exact Bytes.slice_of_prefix begins rfl packet.dest.length_eq

private theorem slice_src (packet : Packet) : packet.frame.slice 7 6 = packet.src.bytes := by
  have begins :
      [packet.kind.tag] ++ packet.dest.bytes ++ packet.src.bytes <+: packet.frame := by
    rw [frame_eq_fields]
    simp
  refine Bytes.slice_of_prefix begins ?_ packet.src.length_eq
  simp [packet.dest.length_eq]

private theorem slice_content (packet : Packet) :
    packet.frame.slice contentOffset packet.kind.fieldLength = packet.content.bytes := by
  have begins :
      [packet.kind.tag] ++ packet.dest.bytes ++ packet.src.bytes ++ packet.content.bytes <+:
        packet.frame := by
    rw [frame_eq_fields]
    simp
  refine Bytes.slice_of_prefix begins ?_ (length_contentBytes packet.content)
  simp [packet.dest.length_eq, packet.src.length_eq, contentOffset]

private theorem slice_hops (packet : Packet) :
    packet.frame.slice (hopsOffset packet.kind) 1 = [packet.hops] := by
  have begins :
      [packet.kind.tag] ++ packet.dest.bytes ++ packet.src.bytes ++ packet.content.bytes ++
        [packet.hops] <+: packet.frame := by
    rw [frame_eq_fields]
    simp
  refine Bytes.slice_of_prefix begins ?_ rfl
  simp [packet.dest.length_eq, packet.src.length_eq, length_contentBytes, hopsOffset,
    contentOffset, kind]
  omega

private theorem slice_fingerprint (packet : Packet) :
    packet.frame.slice (fingerprintOffset packet.kind) 32 = packet.fingerprint.bytes := by
  have begins :
      [packet.kind.tag] ++ packet.dest.bytes ++ packet.src.bytes ++ packet.content.bytes ++
        [packet.hops] ++ packet.fingerprint.bytes <+: packet.frame := by
    rw [frame_eq_fields]
    simp
  refine Bytes.slice_of_prefix begins ?_ packet.fingerprint.length_eq
  simp [packet.dest.length_eq, packet.src.length_eq, length_contentBytes, fingerprintOffset,
    hopsOffset, contentOffset, kind]
  omega

/-! ### Reading a frame -/

theorem ofTag?_tag (kind : Kind) : Kind.ofTag? kind.tag = some kind := by
  cases kind <;> rfl

private theorem ofBytes_bytes (address : Address) :
    Address.ofBytes address.bytes = .ok address := by
  unfold Address.ofBytes
  rw [Address.ofBytes?_bytes]

private theorem contentOf_of_slice {data : Bytes} {content : Content}
    (fits : data.length = content.kind.frameLength)
    (own : data.slice contentOffset content.kind.fieldLength = content.bytes) :
    contentOf content.kind data fits = content := by
  cases content with
  | request meshSize => exact congrArg Content.request (Bytes.getD_of_slice own)
  | reading reading =>
      cases reading with
      | mk bytes length_eq =>
          simp only [Content.kind, contentOf, Content.reading.injEq, Reading.mk.injEq]
          exact own
  | fault code => exact congrArg Content.fault (Bytes.getD_of_slice own)

private theorem fingerprintOf_of_slice {data : Bytes} {kind : Kind} {fingerprint : Fingerprint}
    (fits : data.length = kind.frameLength)
    (own : data.slice (fingerprintOffset kind) 32 = fingerprint.bytes) :
    fingerprintOf kind data fits = fingerprint := by
  cases fingerprint with
  | mk bytes length_eq =>
      unfold fingerprintOf
      simp only [Fingerprint.mk.injEq]
      exact own

/-- What is left of the reader once tag and length are right. -/
theorem decode_of_fits {data : Bytes} {kind : Kind} (begins : data.head? = some kind.tag)
    (fits : data.length = kind.frameLength) :
    decode data =
      (do
        let dest ← Address.ofBytes (data.slice 1 6)
        let src ← Address.ofBytes (data.slice 7 6)
        pure
          { dest, src
            content := contentOf kind data fits
            hops := data.getD (hopsOffset kind) 0
            fingerprint := fingerprintOf kind data fits }) := by
  cases data with
  | nil => cases begins
  | cons tag rest =>
      cases begins
      simp only [decode, ofTag?_tag]
      rw [dif_pos fits]

/-- A byte string has the length of a packet's frame and holds its fields in
their places, whatever its last two bytes are. -/
structure LaidOut (packet : Packet) (data : Bytes) : Prop where
  tag : data.head? = some packet.kind.tag
  fits : data.length = packet.kind.frameLength
  dest : data.slice 1 6 = packet.dest.bytes
  src : data.slice 7 6 = packet.src.bytes
  content : data.slice contentOffset packet.kind.fieldLength = packet.content.bytes
  hops : data.slice (hopsOffset packet.kind) 1 = [packet.hops]
  fingerprint : data.slice (fingerprintOffset packet.kind) 32 = packet.fingerprint.bytes

theorem laidOut_frame (packet : Packet) : packet.LaidOut packet.frame where
  tag := rfl
  fits := length_frame packet
  dest := slice_dest packet
  src := slice_src packet
  content := slice_content packet
  hops := slice_hops packet
  fingerprint := slice_fingerprint packet

theorem decode_of_laidOut {packet : Packet} {data : Bytes} (laidOut : packet.LaidOut data) :
    decode data = .ok packet := by
  have content : contentOf packet.kind data laidOut.fits = packet.content :=
    contentOf_of_slice laidOut.fits laidOut.content
  rw [decode_of_fits laidOut.tag laidOut.fits, laidOut.dest, laidOut.src, ofBytes_bytes,
    ofBytes_bytes, content, fingerprintOf_of_slice laidOut.fits laidOut.fingerprint,
    Bytes.getD_of_slice laidOut.hops]
  rfl

/-- Reading a packet's frame gives the packet. -/
theorem decode_frame (packet : Packet) : decode packet.frame = .ok packet :=
  decode_of_laidOut (laidOut_frame packet)

/-! ### What reads as a packet -/

theorem eq_tag_of_ofTag? {tag : UInt8} {kind : Kind} (known : Kind.ofTag? tag = some kind) :
    tag = kind.tag := by
  unfold Kind.ofTag? at known
  split at known
  · cases known
    assumption
  · split at known
    · cases known
      assumption
    · split at known
      · cases known
        assumption
      · cases known

private theorem kind_contentOf (kind : Kind) (data : Bytes)
    (fits : data.length = kind.frameLength) :
    (contentOf kind data fits).kind = kind := by
  cases kind <;> rfl

private theorem slice_one {data : Bytes} {offset : Nat} (within : offset < data.length) :
    data.slice offset 1 = [data.getD offset 0] := by
  unfold Bytes.slice
  rw [List.take_one, List.head?_drop, List.getD_eq_getElem?_getD,
    List.getElem?_eq_getElem within]
  rfl

private theorem bytes_contentOf (kind : Kind) (data : Bytes)
    (fits : data.length = kind.frameLength) :
    (contentOf kind data fits).bytes = data.slice contentOffset kind.fieldLength := by
  cases kind with
  | request => exact (slice_one (by rw [fits]; decide)).symm
  | reading => rfl
  | fault => exact (slice_one (by rw [fits]; decide)).symm

private theorem bytes_of_ofBytes {data : Bytes} {address : Address}
    (accepted : Address.ofBytes data = .ok address) : data = address.bytes := by
  unfold Address.ofBytes at accepted
  cases found : Address.ofBytes? data with
  | none =>
      rw [found] at accepted
      cases accepted
  | some known =>
      rw [found] at accepted
      cases accepted
      exact (Address.ofBytes?_eq_some_iff.mp found).symm

/-- A reader that accepts has found the fields of its packet. -/
theorem laidOut_of_decode {data : Bytes} {packet : Packet} (reads : decode data = .ok packet) :
    packet.LaidOut data := by
  cases data with
  | nil => cases reads
  | cons tag rest =>
      cases known : Kind.ofTag? tag with
      | none =>
          simp only [decode, known] at reads
          cases reads
      | some kind =>
          by_cases fits : (tag :: rest).length = kind.frameLength
          · have begins : (tag :: rest).head? = some kind.tag :=
              congrArg some (eq_tag_of_ofTag? known)
            rw [decode_of_fits begins fits] at reads
            cases toDest : Address.ofBytes (Bytes.slice (tag :: rest) 1 6) with
            | error failure =>
                rw [toDest] at reads
                cases reads
            | ok dest =>
                cases toSrc : Address.ofBytes (Bytes.slice (tag :: rest) 7 6) with
                | error failure =>
                    rw [toDest, toSrc] at reads
                    cases reads
                | ok src =>
                    rw [toDest, toSrc] at reads
                    cases reads
                    have sameKind := kind_contentOf kind (tag :: rest) fits
                    have inside : hopsOffset kind < (tag :: rest).length := by
                      rw [fits]
                      cases kind <;> decide
                    constructor
                    · rw [Packet.kind, sameKind]
                      exact begins
                    · rw [Packet.kind, sameKind]
                      exact fits
                    · exact bytes_of_ofBytes toDest
                    · exact bytes_of_ofBytes toSrc
                    · rw [Packet.kind, sameKind]
                      exact (bytes_contentOf kind _ fits).symm
                    · rw [Packet.kind, sameKind]
                      exact slice_one inside
                    · rw [Packet.kind, sameKind]
                      rfl
          · simp only [decode, known] at reads
            rw [dif_neg fits] at reads
            cases reads

/-- What reads as a packet begins with the tag of its kind and has its length. -/
theorem shape_of_decode {data : Bytes} {packet : Packet} (reads : decode data = .ok packet) :
    data.head? = some packet.kind.tag ∧ data.length = packet.kind.frameLength :=
  ⟨(laidOut_of_decode reads).tag, (laidOut_of_decode reads).fits⟩

theorem length_le_of_decode {data : Bytes} {packet : Packet} (reads : decode data = .ok packet) :
    data.length ≤ longestFrame := by
  rw [(shape_of_decode reads).2]
  cases packet.kind <;> decide

theorem frameLength_le (packet : Packet) : packet.frame.length ≤ longestFrame :=
  length_le_of_decode (decode_frame packet)

/-- The buffer of a relay has room for any packet. -/
theorem writeTo_longest (packet : Packet) :
    packet.writeTo (List.replicate longestFrame 0) =
      .ok (packet.frame.length,
        packet.frame ++ (List.replicate longestFrame 0).drop packet.frame.length) := by
  have roomy := frameLength_le packet
  rw [length_frame] at roomy ⊢
  rw [writeTo_eq, List.length_replicate, if_neg (by omega)]

theorem shortestFrame_le (packet : Packet) : shortestFrame ≤ packet.frame.length := by
  rw [length_frame]
  cases packet.kind <;> decide

/-! ### Frames that were cut -/

/-- Where a packet's frame was cut, nothing can be read. -/
theorem take_frame_eq_of_decode {sent heard : Packet} {room : Nat}
    (reads : decode (sent.frame.take room) = .ok heard) : sent.frame.take room = sent.frame := by
  obtain ⟨begins, fits⟩ := shape_of_decode reads
  have sameKind : heard.kind = sent.kind := by
    cases room with
    | zero => cases begins
    | succ rest =>
        have sameTag : sent.kind.tag = heard.kind.tag := Option.some.inj begins
        have known := ofTag?_tag heard.kind
        rw [← sameTag, ofTag?_tag] at known
        exact (Option.some.inj known).symm
  rw [List.length_take, sameKind, ← length_frame] at fits
  exact List.take_of_length_le (by omega)

end Packet

/-! ### Addresses for examples -/

def Address.numbered (digit : Nat) : Address :=
  { bytes := [110, 111, 100, 101, 48, UInt8.ofNat (48 + digit % 10)]
    length_eq := rfl
    ascii := by
      have fits : ∀ last < 10, ∀ byte ∈ [110, 111, 100, 101, 48, UInt8.ofNat (48 + last)],
          byte ≠ 0 ∧ byte < 0x80 := by decide +kernel
      exact fits _ (Nat.mod_lt _ (by decide)) }

end FloodMesh
