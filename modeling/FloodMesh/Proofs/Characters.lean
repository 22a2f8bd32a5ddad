/-
Text survives its encoding as bytes.

Each character starts with a byte that tells how many follow, and the reader takes
exactly those. The bounds on the second byte, which keep out longer forms, surrogates and
codes above the last character, do not touch what was written, since a character has a
valid code.

A count is written without leading zeros.
-/

import FloodMesh.Text.Utf8
import Mathlib

namespace FloodMesh.Utf8

private theorem ofNat_lt_iff {value : Nat} {bound : UInt8} (small : value < 256) :
    UInt8.ofNat value < bound ↔ value < bound.toNat := by
  rw [UInt8.lt_iff_toNat_lt, UInt8.toNat_ofNat_of_lt' small]

private theorem ofNat_le_iff {value : Nat} {bound : UInt8} (small : value < 256) :
    UInt8.ofNat value ≤ bound ↔ value ≤ bound.toNat := by
  rw [UInt8.le_iff_toNat_le, UInt8.toNat_ofNat_of_lt' small]

private theorem le_ofNat_iff {value : Nat} {bound : UInt8} (small : value < 256) :
    bound ≤ UInt8.ofNat value ↔ bound.toNat ≤ value := by
  rw [UInt8.le_iff_toNat_le, UInt8.toNat_ofNat_of_lt' small]

private theorem ofNat_eq_iff {value : Nat} {byte : UInt8} (small : value < 256) :
    UInt8.ofNat value = byte ↔ value = byte.toNat := by
  rw [← UInt8.toNat_inj, UInt8.toNat_ofNat_of_lt' small]

/-- One more byte of a character. -/
theorem continued_ofNat {more code value : Nat} {low high : UInt8} {rest : Bytes}
    (small : value < 256) (above : low.toNat ≤ value) (below : value ≤ high.toNat) :
    continued (more + 1) low high code (UInt8.ofNat value :: rest) =
      continued more 0x80 0xBF (64 * code + value % 64) rest := by
  rw [continued, if_pos ⟨(le_ofNat_iff small).mpr above, (ofNat_le_iff small).mpr below⟩,
    UInt8.toNat_ofNat_of_lt' small]

private theorem next_ofNat {value : Nat} (small : value < 256) (rest : Bytes) :
    next (UInt8.ofNat value) rest =
      if value < 0x80 then (some value, rest)
      else if value < 0xC2 then (none, rest)
      else if value < 0xE0 then continued 1 0x80 0xBF (value % 32) rest
      else if value < 0xF0 then
        continued 2 (if value = 0xE0 then 0xA0 else 0x80) (if value = 0xED then 0x9F else 0xBF)
          (value % 16) rest
      else if value < 0xF5 then
        continued 3 (if value = 0xF0 then 0x90 else 0x80) (if value = 0xF4 then 0x8F else 0xBF)
          (value % 8) rest
      else (none, rest) := by
  simp only [next, ofNat_lt_iff small, ofNat_eq_iff small, UInt8.toNat_ofNat_of_lt' small]
  rfl

/-- Where the codes of characters lie. -/
theorem code_bounds (char : Char) :
    char.toNat < 0xD800 ∨ 0xDFFF < char.toNat ∧ char.toNat < 0x110000 := char.valid

/-- A character of more than one byte: what is read off its bytes one by one. -/
theorem next_encodeChar (char : Char) :
    ∃ lead tail, encodeChar char = lead :: tail ∧
      ∀ rest, next lead (tail ++ rest) = (some char.toNat, rest) := by
  have bounds := code_bounds char
  generalize code_eq : char.toNat = code at bounds
  unfold encodeChar
  simp only [code_eq]
  by_cases one : code < 0x80
  · refine ⟨_, _, if_pos one, fun rest => ?_⟩
    rw [next_ofNat (by omega), if_pos one]
    rfl
  by_cases two : code < 0x800
  · refine ⟨_, _, (if_neg one).trans (if_pos two), fun rest => ?_⟩
    rw [next_ofNat (by omega), if_neg (by omega), if_neg (by omega), if_pos (by omega),
      List.singleton_append, continued_ofNat (by omega) (by simp) (by simp; omega), continued]
    congr 2
    omega
  by_cases three : code < 0x10000
  · refine ⟨_, _, (if_neg one).trans ((if_neg two).trans (if_pos three)), fun rest => ?_⟩
    have second : (if 0xE0 + code / 4096 = 0xE0 then (0xA0 : UInt8) else 0x80).toNat ≤
        0x80 + code / 64 % 64 := by
      split
      · simp
        omega
      · simp
    have within : 0x80 + code / 64 % 64 ≤
        (if 0xE0 + code / 4096 = 0xED then (0x9F : UInt8) else 0xBF).toNat := by
      split <;> simp <;> omega
    rw [next_ofNat (by omega), if_neg (by omega), if_neg (by omega), if_neg (by omega),
      if_pos (by omega), List.cons_append, List.singleton_append,
      continued_ofNat (by omega) second within,
      continued_ofNat (by omega) (by simp) (by simp; omega), continued]
    congr 2
    omega
  · refine ⟨_, _, (if_neg one).trans ((if_neg two).trans (if_neg three)), fun rest => ?_⟩
    have second : (if 0xF0 + code / 262144 = 0xF0 then (0x90 : UInt8) else 0x80).toNat ≤
        0x80 + code / 4096 % 64 := by
      split
      · simp
        omega
      · simp
    have within : 0x80 + code / 4096 % 64 ≤
        (if 0xF0 + code / 262144 = 0xF4 then (0x8F : UInt8) else 0xBF).toNat := by
      split <;> simp <;> omega
    rw [next_ofNat (by omega), if_neg (by omega), if_neg (by omega), if_neg (by omega),
      if_neg (by omega), if_pos (by omega), List.cons_append, List.cons_append,
      List.singleton_append, continued_ofNat (by omega) second within,
      continued_ofNat (by omega) (by simp) (by simp; omega),
      continued_ofNat (by omega) (by simp) (by simp; omega), continued]
    congr 2
    omega

private theorem symbols_encodeChar (char : Char) (rest : Bytes) :
    symbols (encodeChar char ++ rest) = some char :: symbols rest := by
  obtain ⟨lead, tail, written, reads⟩ := next_encodeChar char
  rw [written, List.cons_append, symbols, reads]
  simp only [Option.map_some, Char.ofNat_toNat]

/-- Every character is read back, and no part is ill-formed. -/
theorem symbols_encode (text : List Char) : symbols (encode text) = text.map some := by
  induction text with
  | nil => simp [encode, symbols]
  | cons char rest ih =>
      rw [encode, List.flatMap_cons, symbols_encodeChar, List.map_cons]
      exact congrArg (some char :: ·) ih

/-- Bytes below the first that is no character of its own are the text that they spell. -/
theorem encode_of_ascii {data : Bytes} (ascii : ∀ byte ∈ data, byte.toNat < 0x80) :
    encode (data.map fun byte => Char.ofNat byte.toNat) = data := by
  have single : ∀ byte ∈ data, encodeChar (Char.ofNat byte.toNat) = [byte] := by
    intro byte among
    have code : (Char.ofNat byte.toNat).toNat = byte.toNat := by
      rw [Char.toNat_ofNat, if_pos (.inl (Nat.lt_trans (ascii byte among) (by decide)))]
    rw [encodeChar, code, if_pos (ascii byte among), UInt8.ofNat_toNat]
  rw [encode, List.flatMap_map]
  calc data.flatMap (fun byte => encodeChar (Char.ofNat byte.toNat))
      = data.flatMap (fun byte => [byte]) := List.flatMap_congr single
    _ = data := List.flatMap_singleton' _

/-- Items that are read back one by one are read back together. -/
theorem mapM_map_eq_some {α β : Type} {write : α → β} {read : β → Option α}
    (reads : ∀ item, read (write item) = some item) (items : List α) :
    (items.map write).mapM read = some items := by
  induction items with
  | nil => rfl
  | cons item rest ih =>
      rw [List.map_cons, List.mapM_cons, reads, ih]
      rfl

private theorem decode?_encode (text : List Char) : decode? (encode text) = some text := by
  rw [decode?, symbols_encode]
  exact @mapM_map_eq_some _ _ some id (fun _ => rfl) text

theorem toString?_ofString (text : String) : toString? (ofString text) = some text := by
  rw [toString?, ofString, decode?_encode, Option.map_some, String.ofList_toList]

end FloodMesh.Utf8

namespace FloodMesh.Numeral

private theorem digitChar_ne_zero :
    ∀ digit : Fin 10, digit.val ≠ 0 → digit.val.digitChar ≠ '0' := by
  decide

private theorem head_toDigits_ne_zero {number : Nat} (positive : number ≠ 0) :
    (Nat.toDigits 10 number).head? ≠ some '0' := by
  induction number using Nat.strongRecOn with
  | ind number ih =>
      by_cases single : number < 10
      · rw [Nat.toDigits_of_lt_base single]
        intro zero
        exact digitChar_ne_zero ⟨number, single⟩ positive (Option.some.inj zero)
      · rw [Nat.toDigits_of_base_le (by decide) (Nat.le_of_not_lt single),
          List.head?_append_of_ne_nil _ Nat.toDigits_ne_nil]
        exact ih (number / 10) (by omega) (by omega)

/-- A zero stands first only if it stands alone. -/
theorem toDigits_of_leading_zero {number : Nat}
    (leading : (Nat.toDigits 10 number).head? = some '0') : Nat.toDigits 10 number = ['0'] := by
  by_cases positive : number = 0
  · rw [positive, Nat.toDigits_zero]
  · exact absurd leading (head_toDigits_ne_zero positive)

end FloodMesh.Numeral
