/-
Which damage the checksum tells.

The register is linear: bits that are added to a string add to the register what they alone
would leave in it, their residue. A sealed string leaves nothing in the register, so a
damaged one passes only if the residue of the damage is zero. Shifting loses nothing and
keeps the parity of the register, and a lone top bit does not come round to its place again
within the length of any frame. Hence an odd number of wrong bits, wrong bits within sixteen
places and two wrong bits anywhere in a frame all leave a residue.
-/

import FloodMesh.Proofs.Framing
import Mathlib.Data.List.GetD
import Mathlib.Data.List.Iterate
import Mathlib.Logic.Function.Iterate

namespace FloodMesh

namespace Bytes

def bitsOf (byte : UInt8) : List Bool := List.ofFn fun place : Fin 8 => byte.toBitVec.getMsbD place

def bits (data : Bytes) : List Bool := data.flatMap bitsOf

@[simp] theorem length_bitsOf (byte : UInt8) : (bitsOf byte).length = 8 := List.length_ofFn

private theorem length_bits (data : Bytes) : data.bits.length = 8 * data.length := by
  induction data with
  | nil => rfl
  | cons byte rest ih =>
      rw [bits, List.flatMap_cons, List.length_append, ← bits, ih, length_bitsOf, List.length_cons]
      omega

private theorem getD_bitsOf (byte : UInt8) (place : Nat) :
    (bitsOf byte).getD place false = byte.toBitVec.getMsbD place := by
  unfold bitsOf
  rw [List.getD_eq_getElem?_getD, List.getElem?_ofFn]
  by_cases inside : place < 8
  · rw [dif_pos inside]
    rfl
  · rw [dif_neg inside, BitVec.getMsbD_of_ge _ _ (Nat.not_lt.mp inside)]
    rfl

private theorem eq_zero_of_unset {data : Bytes} (unset : true ∉ data.bits) :
    ∀ byte ∈ data, byte = 0 := by
  intro byte mem
  have clear : true ∉ bitsOf byte := fun set => unset (List.mem_flatMap.mpr ⟨byte, mem, set⟩)
  apply UInt8.toBitVec_inj.mp
  apply BitVec.eq_of_getMsbD_eq
  intro place _
  rw [← getD_bitsOf, List.getD_eq_getElem?_getD]
  cases found : (bitsOf byte)[place]? with
  | none => simp
  | some bit =>
      cases bit with
      | false => simp
      | true => exact absurd (List.mem_of_getElem? found) clear

/-- The bytes once the bits that are set in a pattern were turned over. -/
def damaged (data pattern : Bytes) : Bytes := List.zipWith (· ^^^ ·) data pattern

end Bytes

namespace Checksum

/-! ### The bits of the register -/

/-- A bit of the register, counted from the top. Past the last there are only zeros. -/
def bitAt (register : UInt16) (place : Nat) : Bool := register.toBitVec.getMsbD place

private theorem eq_of_bitAt {first second : UInt16}
    (same : ∀ place < 16, bitAt first place = bitAt second place) : first = second :=
  UInt16.toBitVec_inj.mp (BitVec.eq_of_getMsbD_eq same)

@[simp] theorem bitAt_zero (place : Nat) : bitAt 0 place = false := BitVec.getMsbD_zero

@[simp] theorem bitAt_xor (first second : UInt16) (place : Nat) :
    bitAt (first ^^^ second) place = (bitAt first place ^^ bitAt second place) := by
  rw [bitAt, UInt16.toBitVec_xor, BitVec.getMsbD_xor]
  rfl

private theorem bitAt_of_le (register : UInt16) {place : Nat} (past : 16 ≤ place) :
    bitAt register place = false :=
  BitVec.getMsbD_of_ge _ _ past

private theorem bitAt_shiftLeft (register : UInt16) (place : Nat) :
    bitAt (register <<< 1) place = bitAt register (place + 1) := by
  rw [bitAt, UInt16.toBitVec_shiftLeft]
  exact BitVec.getMsbD_shiftLeft register.toBitVec 1

private theorem bitAt_shiftRight_zero (register : UInt16) : bitAt (register >>> 1) 0 = false := by
  rw [bitAt, UInt16.toBitVec_shiftRight]
  exact BitVec.getMsbD_ushiftRight.trans rfl

private theorem bitAt_shiftRight_succ (register : UInt16) {place : Nat} (inside : place + 1 < 16) :
    bitAt (register >>> 1) (place + 1) = bitAt register place := by
  rw [bitAt, UInt16.toBitVec_shiftRight]
  refine (BitVec.getMsbD_ushiftRight (n := 1)).trans ?_
  simp [inside, bitAt]

def lead (bit : Bool) : UInt16 := if bit then 0x8000 else 0

private theorem bitAt_lead (bit : Bool) (place : Nat) :
    bitAt (lead bit) place = (decide (place = 0) && bit) := by
  cases bit with
  | false => simp [lead]
  | true =>
      show (BitVec.twoPow 16 15).getMsbD place = _
      rw [BitVec.getMsbD_twoPow]
      simp

/-! ### Shifting -/

/-- What a shift adds to the register when it pushes a bit out. -/
def taps (bit : Bool) : UInt16 := if bit then 0x1021 else 0

private theorem bitAt_taps (bit : Bool) {place : Nat} (inside : place < 16) :
    bitAt (taps bit) place = (bit && (place == 3 || place == 10 || place == 15)) := by
  have every : ∀ bit : Bool, ∀ place < 16,
      bitAt (taps bit) place = (bit && (place == 3 || place == 10 || place == 15)) := by
    decide
  exact every bit place inside

private theorem and_top (register : UInt16) : register &&& 0x8000 = lead (bitAt register 0) := by
  have masked : register.toBitVec &&& BitVec.twoPow 16 15 = _ :=
    BitVec.and_twoPow register.toBitVec 15
  apply UInt16.toBitVec_inj.mp
  refine masked.trans ?_
  show _ = (lead (register.toBitVec.getMsbD 0)).toBitVec
  rw [show register.toBitVec.getMsbD 0 = register.toBitVec.getLsbD 15 from rfl]
  cases register.toBitVec.getLsbD 15 <;> rfl

private theorem shift_eq (register : UInt16) :
    shift register = (register <<< 1) ^^^ taps (bitAt register 0) := by
  unfold shift
  rw [and_top]
  cases bitAt register 0 <;> simp [lead, taps]

private theorem bitAt_shift (register : UInt16) {place : Nat} (inside : place < 16) :
    bitAt (shift register) place =
      (bitAt register (place + 1) ^^
        (bitAt register 0 && (place == 3 || place == 10 || place == 15))) := by
  rw [shift_eq, bitAt_xor, bitAt_shiftLeft, bitAt_taps _ inside]

private theorem shift_xor (first second : UInt16) :
    shift (first ^^^ second) = shift first ^^^ shift second := by
  apply eq_of_bitAt
  intro place inside
  rw [bitAt_xor, bitAt_shift _ inside, bitAt_shift _ inside, bitAt_shift _ inside, bitAt_xor,
    bitAt_xor, Bool.and_xor_distrib_right]
  simp only [Bool.xor_assoc, Bool.xor_left_comm]

private theorem shift_eq_zero_iff {register : UInt16} : shift register = 0 ↔ register = 0 := by
  constructor
  · intro gone
    have bitGone : ∀ place < 16, bitAt (shift register) place = false := by
      intro place _
      rw [gone, bitAt_zero]
    -- The lowest bit of a shifted register tells what was pushed out.
    have topGone : bitAt register 0 = false := by
      have last := bitGone 15 (by decide)
      rw [bitAt_shift _ (by decide), bitAt_of_le _ (Nat.le_refl 16)] at last
      simpa using last
    apply eq_of_bitAt
    intro place inside
    cases place with
    | zero => rw [topGone, bitAt_zero]
    | succ place =>
        have here := bitGone place (by omega)
        rw [bitAt_shift _ (by omega), topGone] at here
        simpa using here
  · intro zero
    rw [zero]
    rfl

private theorem shift_shiftRight {register : UInt16} (free : bitAt register 15 = false) :
    shift (register >>> 1) = register := by
  apply eq_of_bitAt
  intro place inside
  rw [bitAt_shift _ inside, bitAt_shiftRight_zero]
  by_cases last : place = 15
  · rw [last, free, bitAt_of_le _ (Nat.le_refl 16)]
    rfl
  · rw [bitAt_shiftRight_succ _ (by omega)]
    simp

private theorem iterate_shift_xor (count : Nat) (first second : UInt16) :
    shift^[count] (first ^^^ second) = shift^[count] first ^^^ shift^[count] second := by
  induction count generalizing first second with
  | zero => rfl
  | succ count ih =>
      simp only [Function.iterate_succ_apply]
      rw [shift_xor, ih]

private theorem iterate_shift_eq_zero_iff {count : Nat} {register : UInt16} :
    shift^[count] register = 0 ↔ register = 0 := by
  induction count generalizing register with
  | zero => exact Iff.rfl
  | succ count ih => rw [Function.iterate_succ_apply, ih, shift_eq_zero_iff]

/-! ### Parity -/

def isOdd (bits : List Bool) : Bool := bits.foldr (· ^^ ·) false

private theorem isOdd_eq (bits : List Bool) : isOdd bits = decide (bits.count true % 2 = 1) := by
  induction bits with
  | nil => rfl
  | cons bit rest ih =>
      rw [isOdd, List.foldr_cons, ← isOdd, ih]
      cases bit with
      | false => rw [List.count_cons_of_ne Bool.false_ne_true, Bool.false_xor]
      | true =>
          rw [List.count_cons_self, Bool.true_xor, ← decide_not, decide_eq_decide]
          omega

def registerIsOdd (register : UInt16) : Bool := isOdd ((List.range 16).map (bitAt register))

private theorem registerIsOdd_xor (first second : UInt16) :
    registerIsOdd (first ^^^ second) = (registerIsOdd first ^^ registerIsOdd second) := by
  unfold registerIsOdd
  induction List.range 16 with
  | nil => rfl
  | cons place rest ih =>
      simp only [isOdd, List.map_cons, List.foldr_cons, bitAt_xor] at ih ⊢
      rw [ih]
      simp only [Bool.xor_assoc, Bool.xor_left_comm]

private theorem registerIsOdd_shift (register : UInt16) :
    registerIsOdd (shift register) = registerIsOdd register := by
  -- One bit is pushed out and comes back at three places, which is as odd.
  have places : List.range 16 = [0, 1, 2, 3, 4, 5, 6, 7, 8, 9, 10, 11, 12, 13, 14, 15] := rfl
  have past := bitAt_of_le register (Nat.le_refl 16)
  simp [registerIsOdd, isOdd, places, bitAt_shift, past]
  cases bitAt register 0 <;> simp

private theorem registerIsOdd_lead (bit : Bool) : registerIsOdd (lead bit) = bit := by
  cases bit <;> decide

/-! ### Feeding bit by bit -/

def feed (register : UInt16) (bit : Bool) : UInt16 := shift (register ^^^ lead bit)

private theorem foldl_feed_replicate (register : UInt16) (count : Nat) :
    (List.replicate count false).foldl feed register = shift^[count] register := by
  induction count generalizing register with
  | zero => rfl
  | succ count ih =>
      rw [List.replicate_succ, List.foldl_cons, ih, Function.iterate_succ_apply, feed]
      simp [lead]

private theorem registerIsOdd_foldl_feed (register : UInt16) (bits : List Bool) :
    registerIsOdd (bits.foldl feed register) = (registerIsOdd register ^^ isOdd bits) := by
  induction bits generalizing register with
  | nil => simp [isOdd]
  | cons bit rest ih =>
      rw [List.foldl_cons, ih, feed, registerIsOdd_shift, registerIsOdd_xor, registerIsOdd_lead,
        Bool.xor_assoc]
      rfl

def spell : List Bool → UInt16
  | [] => 0
  | bit :: rest => lead bit ^^^ (spell rest >>> 1)

private theorem bitAt_spell (bits : List Bool) {place : Nat} (inside : place < 16) :
    bitAt (spell bits) place = bits.getD place false := by
  induction bits generalizing place with
  | nil => simp [spell]
  | cons bit rest ih =>
      rw [spell, bitAt_xor, bitAt_lead]
      cases place with
      | zero => simp [bitAt_shiftRight_zero]
      | succ place =>
          rw [bitAt_shiftRight_succ _ inside, ih (by omega)]
          simp

/-- No more bits than the register has may as well be added all at once. -/
theorem foldl_feed_eq {bits : List Bool} (few : bits.length ≤ 16) (register : UInt16) :
    bits.foldl feed register = shift^[bits.length] (register ^^^ spell bits) := by
  induction bits generalizing register with
  | nil => simp [spell]
  | cons bit rest ih =>
      rw [List.length_cons] at few
      have free : bitAt (spell rest) 15 = false := by
        rw [bitAt_spell rest (by decide), List.getD_eq_getElem?_getD,
          List.getElem?_eq_none (by omega)]
        rfl
      rw [List.foldl_cons, ih (by omega), feed, List.length_cons, Function.iterate_succ_apply,
        spell, ← UInt16.xor_assoc, shift_xor _ (spell rest >>> 1), shift_shiftRight free]

private theorem eq_false_of_spell {bits : List Bool} (few : bits.length ≤ 16)
    (zero : spell bits = 0) :
    true ∉ bits := by
  intro set
  obtain ⟨place, found⟩ := List.mem_iff_getElem?.mp set
  have inside : place < bits.length := (List.getElem?_eq_some_iff.mp found).1
  have bit := bitAt_spell bits (by omega : place < 16)
  rw [zero, bitAt_zero, List.getD_eq_getElem?_getD, found] at bit
  cases bit

/-! ### Feeding byte by byte -/

private theorem spell_bitsOf (byte : UInt8) : spell (Bytes.bitsOf byte) = byte.toUInt16 <<< 8 := by
  apply eq_of_bitAt
  intro place inside
  rw [bitAt_spell _ inside, Bytes.getD_bitsOf, bitAt, UInt16.toBitVec_shiftLeft]
  refine Eq.symm ((BitVec.getMsbD_shiftLeft _ 8).trans ?_)
  rw [UInt8.toBitVec_toUInt16, BitVec.getMsbD_setWidth]
  simp

private theorem absorb_iterate (register : UInt16) (byte : UInt8) :
    absorb register byte = shift^[8] (register ^^^ byte.toUInt16 <<< 8) := rfl

private theorem absorb_eq (register : UInt16) (byte : UInt8) :
    absorb register byte = (Bytes.bitsOf byte).foldl feed register := by
  rw [absorb_iterate, foldl_feed_eq (by simp), spell_bitsOf, Bytes.length_bitsOf]

private theorem foldl_absorb_eq (register : UInt16) (data : Bytes) :
    data.foldl absorb register = data.bits.foldl feed register := by
  induction data generalizing register with
  | nil => rfl
  | cons byte rest ih =>
      rw [List.foldl_cons, ih, absorb_eq, ← List.foldl_append]
      rfl

/-! ### What is left in the register -/

private theorem spell_trailer (sum : UInt16) : spell (Bytes.bits (trailer sum)) = sum := by
  have split : Bytes.bits (trailer sum) =
      Bytes.bitsOf (sum >>> 8).toUInt8 ++ Bytes.bitsOf sum.toUInt8 := by
    simp [Bytes.bits, trailer]
  apply eq_of_bitAt
  intro place inside
  rw [bitAt_spell _ inside, split]
  by_cases high : place < 8
  · rw [List.getD_append _ _ _ _ (by simpa using high), Bytes.getD_bitsOf,
      UInt16.toBitVec_toUInt8, BitVec.getMsbD_setWidth, UInt16.toBitVec_shiftRight]
    have inside' : place + 8 < 16 := by omega
    simp [bitAt, inside']
  · rw [List.getD_append_right _ _ _ _ (by simpa using high), Bytes.getD_bitsOf,
      UInt16.toBitVec_toUInt8, BitVec.getMsbD_setWidth, Bytes.length_bitsOf]
    have back : place - 8 + 8 = place := by omega
    simp [bitAt, back]

private theorem compute_of_isSealed {frame : Bytes} (closes : isSealed frame = true) :
    compute frame = 0 := by
  obtain ⟨_, sealedFrame⟩ := isSealed_iff.mp closes
  rw [sealedFrame, Checksum.sealed, compute, List.foldl_append, ← compute, foldl_absorb_eq,
    foldl_feed_eq (by simp [Bytes.length_bits, trailer]), spell_trailer, UInt16.xor_self,
    iterate_shift_eq_zero_iff]

def residue (data : Bytes) : UInt16 := data.foldl absorb 0

private theorem absorb_xor (first second : UInt16) (byte error : UInt8) :
    absorb (first ^^^ second) (byte ^^^ error) = absorb first byte ^^^ absorb second error := by
  have regroup : first ^^^ second ^^^ (byte.toUInt16 <<< 8 ^^^ error.toUInt16 <<< 8) =
      first ^^^ byte.toUInt16 <<< 8 ^^^ (second ^^^ error.toUInt16 <<< 8) := by
    ac_rfl
  rw [absorb_iterate, absorb_iterate, absorb_iterate, UInt8.toUInt16_xor, UInt16.shiftLeft_xor,
    regroup, iterate_shift_xor]

private theorem foldl_absorb_damaged {data pattern : Bytes}
    (sameLength : pattern.length = data.length)
    (first second : UInt16) :
    (data.damaged pattern).foldl absorb (first ^^^ second) =
      data.foldl absorb first ^^^ pattern.foldl absorb second := by
  induction data generalizing pattern first second with
  | nil =>
      rw [List.length_eq_zero_iff.mp sameLength]
      rfl
  | cons byte rest ih =>
      cases pattern with
      | nil => cases sameLength
      | cons error errors =>
          have shorter : errors.length = rest.length := Nat.succ.inj sameLength
          simp only [List.foldl_cons, ← ih shorter, ← absorb_xor]
          rfl

private theorem residue_of_passed {data pattern : Bytes} (closes : isSealed data = true)
    (sameLength : pattern.length = data.length)
    (passed : isSealed (data.damaged pattern) = true) : residue pattern = 0 := by
  have left := foldl_absorb_damaged sameLength 0xFFFF 0
  rw [UInt16.xor_zero, ← compute, ← compute, compute_of_isSealed closes,
    compute_of_isSealed passed, UInt16.zero_xor] at left
  exact left.symm

private theorem residue_eq (pattern : Bytes) : residue pattern = pattern.bits.foldl feed 0 :=
  foldl_absorb_eq 0 pattern

/-! ### Damage that leaves a residue -/

private theorem residue_ne_zero_of_odd {pattern : Bytes} (odd : pattern.bits.count true % 2 = 1) :
    residue pattern ≠ 0 := by
  intro gone
  have parity := registerIsOdd_foldl_feed 0 pattern.bits
  rw [← residue_eq, gone, isOdd_eq, decide_eq_true odd] at parity
  cases parity

private theorem foldl_feed_of_unset {bits : List Bool} (unset : true ∉ bits) (register : UInt16) :
    bits.foldl feed register = shift^[bits.length] register := by
  have plain : bits = List.replicate bits.length false :=
    List.eq_replicate_iff.mpr ⟨rfl, fun bit mem => by
      cases bit with
      | false => rfl
      | true => exact absurd mem unset⟩
  rw [plain, foldl_feed_replicate, List.length_replicate]

private theorem unset_of_foldl_feed {front window back : List Bool} (few : window.length ≤ 16)
    (frontUnset : true ∉ front) (backUnset : true ∉ back)
    (gone : (front ++ (window ++ back)).foldl feed 0 = 0) : true ∉ window := by
  rw [List.foldl_append, List.foldl_append, foldl_feed_of_unset frontUnset,
    foldl_feed_eq few, foldl_feed_of_unset backUnset, iterate_shift_eq_zero_iff,
    iterate_shift_eq_zero_iff, iterate_shift_eq_zero_iff.mpr rfl, UInt16.zero_xor] at gone
  exact eq_false_of_spell few gone

private theorem residue_ne_zero_of_burst {pattern : Bytes} {start : Nat} (set : true ∈ pattern.bits)
    (within : ∀ place, pattern.bits[place]? = some true → start ≤ place ∧ place < start + 16) :
    residue pattern ≠ 0 := by
  intro gone
  rw [residue_eq] at gone
  generalize pattern.bits = bits at set within gone
  have frontUnset : true ∉ bits.take start := by
    intro mem
    obtain ⟨place, early, found⟩ := List.mem_take_iff_getElem.mp mem
    have := within place (List.getElem?_eq_some_iff.mpr ⟨by omega, found⟩)
    omega
  have backUnset : true ∉ (bits.drop start).drop 16 := by
    intro mem
    obtain ⟨place, found⟩ := List.mem_iff_getElem?.mp mem
    rw [List.drop_drop, List.getElem?_drop] at found
    have := within _ found
    omega
  have pieces : bits.take start ++ ((bits.drop start).take 16 ++ (bits.drop start).drop 16) =
      bits := by
    rw [List.take_append_drop, List.take_append_drop]
  rw [← pieces] at gone set
  have windowUnset := unset_of_foldl_feed (List.length_take_le 16 _) frontUnset backUnset gone
  rcases List.mem_append.mp set with early | later
  · exact frontUnset early
  · rcases List.mem_append.mp later with inside | late
    · exact windowUnset inside
    · exact backUnset late

/-- A lone top bit does not come round within the bits of a frame. -/
theorem iterate_shift_ne_top {count : Nat} (short : count < 439) :
    shift^[count] (shift 0x8000) ≠ 0x8000 := by
  -- A frame has at most 440 bits, so between two of them stand at most 438.
  have away : 0x8000 ∉ List.iterate shift (shift 0x8000) 439 := by decide +kernel
  intro round
  exact away (List.mem_iterate.mpr ⟨count, short, round.symm⟩)

private theorem residue_ne_zero_of_pair {pattern : Bytes} (two : pattern.bits.count true = 2)
    (short : pattern.length ≤ 55) : residue pattern ≠ 0 := by
  intro gone
  have length := Bytes.length_bits pattern
  rw [residue_eq] at gone
  generalize pattern.bits = bits at two gone length
  obtain ⟨front, rest, rfl, frontUnset⟩ := List.eq_append_cons_of_mem
    (List.count_pos_iff.mp (by omega : 0 < bits.count true))
  rw [List.count_append, List.count_eq_zero.mpr frontUnset, List.count_cons_self] at two
  obtain ⟨gap, back, rfl, gapUnset⟩ := List.eq_append_cons_of_mem
    (List.count_pos_iff.mp (by omega : 0 < rest.count true))
  rw [List.count_append, List.count_eq_zero.mpr gapUnset, List.count_cons_self] at two
  have backUnset : true ∉ back := List.count_eq_zero.mp (by omega)
  have near : gap.length < 439 := by
    simp only [List.length_append, List.length_cons] at length
    omega
  simp only [List.foldl_append, List.foldl_cons, foldl_feed_of_unset frontUnset,
    foldl_feed_of_unset gapUnset, foldl_feed_of_unset backUnset, iterate_shift_eq_zero_iff,
    iterate_shift_eq_zero_iff.mpr rfl, feed, shift_eq_zero_iff, UInt16.zero_xor,
    UInt16.xor_eq_zero_iff] at gone
  exact iterate_shift_ne_top near gone

/-- Damage is told if an odd number of bits is wrong, if all that are wrong lie within sixteen
places, or if two are wrong in a string that fits a frame. -/
theorem damage_told {data pattern : Bytes} (closes : isSealed data = true)
    (sameLength : pattern.length = data.length) (wrong : ∃ byte ∈ pattern, byte ≠ 0)
    (kind : pattern.bits.count true % 2 = 1 ∨
      (∃ start, ∀ place, pattern.bits[place]? = some true →
        start ≤ place ∧ place < start + 16) ∨
      (pattern.bits.count true = 2 ∧ data.length ≤ 55)) :
    isSealed (data.damaged pattern) = false := by
  have set : true ∈ pattern.bits := by
    obtain ⟨byte, mem, nonzero⟩ := wrong
    exact Decidable.byContradiction fun unset => nonzero (Bytes.eq_zero_of_unset unset byte mem)
  have left : residue pattern ≠ 0 := by
    rcases kind with odd | ⟨_, within⟩ | ⟨two, short⟩
    · exact residue_ne_zero_of_odd odd
    · exact residue_ne_zero_of_burst set within
    · exact residue_ne_zero_of_pair two (sameLength ▸ short)
  exact Bool.eq_false_iff.mpr fun passed => left (residue_of_passed closes sameLength passed)

/-- Three bits apart, sixteen in a row, and the first bit with the last. -/
theorem damage_told_oneByte :
    isSealed (Bytes.damaged [0x31, 0xc7, 0x82] [0x80, 0x40, 0x20]) = false ∧
      isSealed (Bytes.damaged [0x31, 0xc7, 0x82] [0x01, 0xff, 0xfe]) = false ∧
      isSealed (Bytes.damaged [0x31, 0xc7, 0x82] [0x80, 0x00, 0x01]) = false :=
  have closes : isSealed [0x31, 0xc7, 0x82] = true := by decide
  have within : ∀ place, (Bytes.bits [0x01, 0xff, 0xfe])[place]? = some true →
      7 ≤ place ∧ place < 7 + 16 := by
    have inside : ∀ place < 24, (Bytes.bits [0x01, 0xff, 0xfe])[place]? = some true →
        7 ≤ place ∧ place < 7 + 16 := by decide
    intro place set
    exact inside place (List.getElem?_eq_some_iff.mp set).1 set
  ⟨damage_told closes rfl ⟨0x80, by decide⟩ (.inl (by decide)),
    damage_told closes rfl ⟨0x01, by decide⟩ (.inr (.inl ⟨7, within⟩)),
    damage_told closes rfl ⟨0x80, by decide⟩ (.inr (.inr (by decide)))⟩

end Checksum

end FloodMesh
