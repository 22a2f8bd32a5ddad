/-
Which byte strings are packets, and what is reported of the others.

The first byte names the kind, and the kind fixes the length of the frame and where its
fields lie. A reader looks at the first byte, at the length, at the destination and at the
source in this order, and reports what it first finds wrong. So a byte string comes to
exactly one of six ends, each under a condition of its own on the bytes. A reader that
checks every place before it looks there comes to the same end, so none is past the last
byte.
-/

import FloodMesh.Proofs.Codec

namespace FloodMesh

/-! ### The places of a frame -/

structure Layout where
  tag : UInt8
  length : Nat
  hops : Nat
  fingerprint : Nat

/-- The addresses lie at 1 and 7 and the own field at 13, whatever the kind. -/
def Kind.layout : Kind → Layout
  | .request => { tag := 1, length := 49, hops := 14, fingerprint := 15 }
  | .reading => { tag := 2, length := 55, hops := 20, fingerprint := 21 }
  | .fault => { tag := 3, length := 49, hops := 14, fingerprint := 15 }

def Bytes.MisfitsIn (data : Bytes) (first last : Nat) : Prop :=
  ∃ place byte, first ≤ place ∧ place < last ∧ data[place]? = some byte ∧
    (byte = 0 ∨ 0x80 ≤ byte)

def Content.LiesIn (data : Bytes) : Content → Prop
  | .request meshSize => data[13]? = some meshSize
  | .reading seven => data.slice 13 7 = seven.bytes
  | .fault code => data[13]? = some code

structure Packet.LiesIn (packet : Packet) (data : Bytes) : Prop where
  dest : data.slice 1 6 = packet.dest.bytes
  src : data.slice 7 6 = packet.src.bytes
  content : packet.content.LiesIn data
  hops : data[packet.kind.layout.hops]? = some packet.hops
  fingerprint : data.slice packet.kind.layout.fingerprint 32 = packet.fingerprint.bytes

/-- What a byte string reads as. -/
inductive Reads (data : Bytes) : Except FrameError Packet → Prop
  | empty (nothing : data = []) : Reads data (.error .empty)
  | unknownKind {tag : UInt8} (begins : data[0]? = some tag)
      (unknown : tag ≠ 1 ∧ tag ≠ 2 ∧ tag ≠ 3) : Reads data (.error (.unknownKind tag))
  | lengthMismatch {kind : Kind} (begins : data[0]? = some kind.layout.tag)
      (misfits : data.length ≠ kind.layout.length) :
      Reads data (.error (.lengthMismatch kind kind.layout.length data.length))
  | invalidDest {kind : Kind} (begins : data[0]? = some kind.layout.tag)
      (fits : data.length = kind.layout.length) (misfits : data.MisfitsIn 1 7) :
      Reads data
        (.error (.invalidAddress (String.ofList (Utf8.decodeLossy (data.slice 1 6)))))
  | invalidSrc {kind : Kind} (begins : data[0]? = some kind.layout.tag)
      (fits : data.length = kind.layout.length) (sound : ¬ data.MisfitsIn 1 7)
      (misfits : data.MisfitsIn 7 13) :
      Reads data
        (.error (.invalidAddress (String.ofList (Utf8.decodeLossy (data.slice 7 6)))))
  | packet {packet : Packet} (begins : data[0]? = some packet.kind.layout.tag)
      (fits : data.length = packet.kind.layout.length) (lies : packet.LiesIn data) :
      Reads data (.ok packet)

private theorem Kind.layout_tag (kind : Kind) : kind.layout.tag = kind.tag := by
  cases kind <;> rfl

private theorem Kind.layout_length (kind : Kind) : kind.layout.length = kind.frameLength := by
  cases kind <;> rfl

private theorem Kind.layout_hops (kind : Kind) : kind.layout.hops = Packet.hopsOffset kind := by
  cases kind <;> rfl

private theorem Kind.layout_fingerprint (kind : Kind) :
    kind.layout.fingerprint = Packet.fingerprintOffset kind := by
  cases kind <;> rfl

private theorem Kind.ofTag?_eq_none_iff {tag : UInt8} :
    Kind.ofTag? tag = none ↔ tag ≠ 1 ∧ tag ≠ 2 ∧ tag ≠ 3 := by
  unfold Kind.ofTag?
  by_cases one : tag = 1
  · simp [one]
  · by_cases two : tag = 2
    · simp [two]
    · by_cases three : tag = 3 <;> simp [one, two, three]

private theorem Kind.inside_of_fits {data : Bytes} (kind : Kind)
    (fits : data.length = kind.frameLength) :
    1 + 6 ≤ data.length ∧ 7 + 6 ≤ data.length := by
  rw [fits]
  cases kind <;> decide

/-! ### Addresses -/

private theorem Bytes.mem_slice_iff {data : Bytes} {offset count : Nat} {byte : UInt8} :
    byte ∈ data.slice offset count ↔
      ∃ place, offset ≤ place ∧ place < offset + count ∧ data[place]? = some byte := by
  unfold Bytes.slice
  rw [List.mem_iff_getElem?]
  constructor
  · rintro ⟨index, found⟩
    rw [List.getElem?_take, List.getElem?_drop] at found
    split at found
    · exact ⟨offset + index, by omega, by omega, found⟩
    · cases found
  · rintro ⟨place, after, before, found⟩
    refine ⟨place - offset, ?_⟩
    rw [List.getElem?_take, List.getElem?_drop, if_pos (by omega), Nat.add_sub_cancel' after]
    exact found

private theorem Bytes.slice_one_iff {data : Bytes} {offset : Nat} {byte : UInt8} :
    data.slice offset 1 = [byte] ↔ data[offset]? = some byte := by
  unfold Bytes.slice
  rw [List.take_one, List.head?_drop]
  cases data[offset]? <;> simp

private theorem Address.fits_eq_false_iff {byte : UInt8} :
    Address.fits byte = false ↔ byte = 0 ∨ 0x80 ≤ byte := by
  rw [Address.fits, Bool.and_eq_false_iff, decide_eq_false_iff_not, decide_eq_false_iff_not,
    Decidable.not_not, UInt8.not_lt]

private theorem Bytes.misfitsIn_iff {data : Bytes} {offset count : Nat} :
    data.MisfitsIn offset (offset + count) ↔
      (data.slice offset count).all Address.fits = false := by
  rw [List.all_eq_false]
  constructor
  · rintro ⟨place, byte, after, before, found, misfit⟩
    exact ⟨byte, Bytes.mem_slice_iff.mpr ⟨place, after, before, found⟩,
      ne_true_of_eq_false (Address.fits_eq_false_iff.mpr misfit)⟩
  · rintro ⟨byte, member, misfit⟩
    obtain ⟨place, after, before, found⟩ := Bytes.mem_slice_iff.mp member
    exact ⟨place, byte, after, before, found,
      Address.fits_eq_false_iff.mp (eq_false_of_ne_true misfit)⟩

private theorem Address.ofBytes_slice {data : Bytes} {offset : Nat}
    (inside : offset + 6 ≤ data.length) :
    (¬ data.MisfitsIn offset (offset + 6) ∧
        ∃ address, Address.ofBytes (data.slice offset 6) = .ok address) ∨
      data.MisfitsIn offset (offset + 6) ∧
        Address.ofBytes (data.slice offset 6) =
          .error (.invalidAddress (String.ofList (Utf8.decodeLossy (data.slice offset 6)))) := by
  have length_eq : (data.slice offset 6).length = 6 := Bytes.length_slice inside
  rw [Bytes.misfitsIn_iff]
  cases fit : (data.slice offset 6).all Address.fits with
  | true =>
      let address : Address := ⟨data.slice offset 6, length_eq, Address.ascii_of_fits fit⟩
      have accepted : Address.ofBytes? (data.slice offset 6) = some address :=
        Address.ofBytes?_eq_some_iff.mpr rfl
      refine .inl ⟨Bool.noConfusion, address, ?_⟩
      rw [Address.ofBytes, accepted]
  | false =>
      have refused : Address.ofBytes? (data.slice offset 6) = none := by
        rw [Address.ofBytes?, dif_pos length_eq, dif_neg (ne_true_of_eq_false fit)]
      refine .inr ⟨rfl, ?_⟩
      rw [Address.ofBytes, refused]

/-! ### The six ends -/

namespace Packet

private theorem liesIn_content_iff {data : Bytes} {content : Content} :
    content.LiesIn data ↔
      data.slice contentOffset content.kind.fieldLength = content.bytes := by
  cases content with
  | request meshSize => exact Bytes.slice_one_iff.symm
  | reading seven => exact Iff.rfl
  | fault code => exact Bytes.slice_one_iff.symm

private theorem laidOut_iff {packet : Packet} {data : Bytes} :
    packet.LaidOut data ↔
      data[0]? = some packet.kind.layout.tag ∧ data.length = packet.kind.layout.length ∧
        packet.LiesIn data := by
  rw [Kind.layout_tag, Kind.layout_length, ← List.head?_eq_getElem?]
  constructor
  · intro laid
    refine ⟨laid.tag, laid.fits, laid.dest, laid.src, liesIn_content_iff.mpr laid.content, ?_, ?_⟩
    · rw [Kind.layout_hops]
      exact Bytes.slice_one_iff.mp laid.hops
    · rw [Kind.layout_fingerprint]
      exact laid.fingerprint
  · rintro ⟨tag, fits, lies⟩
    refine ⟨tag, fits, lies.dest, lies.src, liesIn_content_iff.mp lies.content, ?_, ?_⟩
    · rw [← Kind.layout_hops]
      exact Bytes.slice_one_iff.mpr lies.hops
    · rw [← Kind.layout_fingerprint]
      exact lies.fingerprint

private theorem decode_of_invalidDest {data : Bytes} {kind : Kind}
    (begins : data[0]? = some kind.tag)
    (fits : data.length = kind.frameLength) (misfits : data.MisfitsIn 1 7) :
    decode data =
      .error (.invalidAddress (String.ofList (Utf8.decodeLossy (data.slice 1 6)))) := by
  rw [← List.head?_eq_getElem?] at begins
  rcases Address.ofBytes_slice (kind.inside_of_fits fits).1 with ⟨sound, _⟩ | ⟨_, refused⟩
  · exact absurd misfits sound
  · rw [decode_of_fits begins fits, refused]
    rfl

private theorem decode_of_invalidSrc {data : Bytes} {kind : Kind}
    (begins : data[0]? = some kind.tag)
    (fits : data.length = kind.frameLength) (sound : ¬ data.MisfitsIn 1 7)
    (misfits : data.MisfitsIn 7 13) :
    decode data =
      .error (.invalidAddress (String.ofList (Utf8.decodeLossy (data.slice 7 6)))) := by
  rw [← List.head?_eq_getElem?] at begins
  rcases Address.ofBytes_slice (kind.inside_of_fits fits).1 with ⟨_, dest, toDest⟩ | ⟨unsound, _⟩
  · rcases Address.ofBytes_slice (kind.inside_of_fits fits).2 with ⟨soundSrc, _⟩ | ⟨_, refused⟩
    · exact absurd misfits soundSrc
    · rw [decode_of_fits begins fits, toDest, refused]
      rfl
  · exact absurd unsound sound

private theorem decode_of_reads {data : Bytes} {result : Except FrameError Packet}
    (reads : Reads data result) : decode data = result := by
  cases reads with
  | empty nothing =>
      subst nothing
      rfl
  | unknownKind begins unknown =>
      cases data with
      | nil => cases begins
      | cons first rest =>
          cases begins
          simp only [decode, Kind.ofTag?_eq_none_iff.mpr unknown]
  | @lengthMismatch kind begins misfits =>
      rw [Kind.layout_tag] at begins
      rw [Kind.layout_length] at misfits ⊢
      cases data with
      | nil => cases begins
      | cons first rest =>
          cases begins
          simp only [decode, ofTag?_tag]
          rw [dif_neg misfits]
  | @invalidDest kind begins fits misfits =>
      exact decode_of_invalidDest (kind.layout_tag ▸ begins) (kind.layout_length ▸ fits) misfits
  | @invalidSrc kind begins fits sound misfits =>
      exact decode_of_invalidSrc (kind.layout_tag ▸ begins) (kind.layout_length ▸ fits) sound
        misfits
  | packet begins fits lies =>
      exact decode_of_laidOut (laidOut_iff.mpr ⟨begins, fits, lies⟩)

private theorem reads_of_decode {data : Bytes} {packet : Packet}
    (reads : decode data = .ok packet) :
    Reads data (.ok packet) := by
  obtain ⟨begins, fits, lies⟩ := laidOut_iff.mp (laidOut_of_decode reads)
  exact .packet begins fits lies

private theorem exists_reads (data : Bytes) : ∃ result, Reads data result := by
  -- The cases are the reader's checks, in its order: each check that fails is an end.
  cases data with
  | nil => exact ⟨_, .empty rfl⟩
  | cons tag rest =>
      cases known : Kind.ofTag? tag with
      | none => exact ⟨_, .unknownKind rfl (Kind.ofTag?_eq_none_iff.mp known)⟩
      | some kind =>
          have heads : (tag :: rest).head? = some kind.tag :=
            congrArg some (eq_tag_of_ofTag? known)
          have begins : (tag :: rest)[0]? = some kind.layout.tag :=
            heads.trans (congrArg some kind.layout_tag.symm)
          by_cases fits : (tag :: rest).length = kind.layout.length
          · have fitsFrame := fits.trans kind.layout_length
            have inside := kind.inside_of_fits fitsFrame
            rcases Address.ofBytes_slice inside.1 with ⟨sound, dest, toDest⟩ | ⟨misfits, _⟩
            · rcases Address.ofBytes_slice inside.2 with ⟨_, src, toSrc⟩ | ⟨misfits, _⟩
              · have reads := decode_of_fits heads fitsFrame
                rw [toDest, toSrc] at reads
                exact ⟨_, reads_of_decode reads⟩
              · exact ⟨_, .invalidSrc begins fits sound misfits⟩
            · exact ⟨_, .invalidDest begins fits misfits⟩
          · exact ⟨_, .lengthMismatch begins fits⟩

private theorem decode_eq_iff {data : Bytes} {result : Except FrameError Packet} :
    decode data = result ↔ Reads data result := by
  constructor
  · intro same
    obtain ⟨found, reads⟩ := exists_reads data
    rw [← same, decode_of_reads reads]
    exact reads
  · exact decode_of_reads

-- Too short and ill addressed: of the two the length is reported.
example : decode [3, 0, 0] = .error (.lengthMismatch .fault 49 3) := rfl

/-! ### A reader that checks -/

end Packet

/-- The bytes from a place on, or none if they run past the end. -/
def Bytes.slice? (data : Bytes) (offset count : Nat) : Option Bytes :=
  if offset + count ≤ data.length then some (data.slice offset count) else none

namespace Packet

def content? (kind : Kind) (data : Bytes) : Option Content :=
  match kind with
  | .request => data[contentOffset]?.map .request
  | .reading => ((data.slice? contentOffset 7).bind Reading.ofBytes?).map .reading
  | .fault => data[contentOffset]?.map .fault

/-- Reads a frame and looks at no place without knowing it inside. None means that a place
was asked for that is past the end. -/
def decode? (data : Bytes) : Option (Except FrameError Packet) :=
  match data.head? with
  | none => some (.error .empty)
  | some tag =>
      match Kind.ofTag? tag with
      | none => some (.error (.unknownKind tag))
      | some kind =>
          if data.length = kind.frameLength then do
            let dest ← data.slice? 1 6
            let src ← data.slice? 7 6
            let content ← content? kind data
            let hops ← data[hopsOffset kind]?
            let fingerprint ← (data.slice? (fingerprintOffset kind) 32).bind Fingerprint.ofBytes?
            pure do
              let dest ← Address.ofBytes dest
              let src ← Address.ofBytes src
              pure { dest, src, content, hops, fingerprint }
          else some (.error (.lengthMismatch kind kind.frameLength data.length))

private theorem slice?_of_inside {data : Bytes} {offset count : Nat}
    (inside : offset + count ≤ data.length) :
    data.slice? offset count = some (data.slice offset count) :=
  if_pos inside

private theorem getElem?_of_inside {data : Bytes} {place : Nat} (inside : place < data.length) :
    data[place]? = some (data.getD place 0) := by
  rw [List.getD_eq_getElem?_getD, List.getElem?_eq_getElem inside]
  rfl

private theorem content?_of_fits {data : Bytes} {kind : Kind}
    (fits : data.length = kind.frameLength) :
    content? kind data = some (contentOf kind data fits) := by
  cases kind with
  | request =>
      rw [content?, getElem?_of_inside (by rw [fits]; decide)]
      rfl
  | reading =>
      have inside : contentOffset + 7 ≤ data.length := by rw [fits]; decide
      rw [content?, slice?_of_inside inside, Option.bind_some, Reading.ofBytes?,
        dif_pos (Bytes.length_slice inside)]
      rfl
  | fault =>
      rw [content?, getElem?_of_inside (by rw [fits]; decide)]
      rfl

private theorem fingerprint?_of_fits {data : Bytes} {kind : Kind}
    (fits : data.length = kind.frameLength) :
    (data.slice? (fingerprintOffset kind) 32).bind Fingerprint.ofBytes? =
      some (fingerprintOf kind data fits) := by
  have inside : fingerprintOffset kind + 32 ≤ data.length := by
    rw [fits]
    cases kind <;> decide
  rw [slice?_of_inside inside, Option.bind_some, Fingerprint.ofBytes?,
    dif_pos (Bytes.length_slice inside)]
  rfl

/-- No place past the end is asked for, and the checks change nothing. -/
theorem decode?_eq (data : Bytes) : decode? data = some (decode data) := by
  cases data with
  | nil => rfl
  | cons tag rest =>
      cases known : Kind.ofTag? tag with
      | none => simp only [decode?, decode, List.head?_cons, known]
      | some kind =>
          by_cases fits : (tag :: rest).length = kind.frameLength
          · have inside := kind.inside_of_fits fits
            have hops : hopsOffset kind < (tag :: rest).length := by
              rw [fits]
              cases kind <;> decide
            simp only [decode?, decode, List.head?_cons, known]
            rw [if_pos fits, dif_pos fits, slice?_of_inside inside.1, slice?_of_inside inside.2,
              content?_of_fits fits, getElem?_of_inside hops, fingerprint?_of_fits fits]
            rfl
          · simp only [decode?, decode, List.head?_cons, known]
            rw [if_neg fits, dif_neg fits]

/-- What a byte string reads as is settled by its bytes, for every byte string and every
end, and nothing past the last byte is looked at. -/
theorem reads_exactly (data : Bytes) :
    (∀ result, decode data = result ↔ Reads data result) ∧ decode? data = some (decode data) :=
  ⟨fun _ => decode_eq_iff, decode?_eq data⟩

end Packet

end FloodMesh
