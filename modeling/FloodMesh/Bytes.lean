/-
Byte strings and their hexadecimal text.

Two digits stand for one byte, high half first. Digits are written in lower
case and read in either case; an odd count or any other character is refused.
Reading what was written gives the bytes back (`ofHex?_hex`).
-/

namespace FloodMesh

abbrev Bytes := List UInt8

namespace Bytes

def hexDigit (value : Nat) : Char :=
  if value < 10 then Char.ofNat (48 + value) else Char.ofNat (87 + value)

def hexValue? (digit : Char) : Option Nat :=
  if '0' ≤ digit ∧ digit ≤ '9' then some (digit.toNat - 48)
  else if 'a' ≤ digit ∧ digit ≤ 'f' then some (digit.toNat - 87)
  else if 'A' ≤ digit ∧ digit ≤ 'F' then some (digit.toNat - 55)
  else none

def hexPair (byte : UInt8) : List Char :=
  [hexDigit (byte.toNat / 16), hexDigit (byte.toNat % 16)]

def hex (data : Bytes) : List Char := data.flatMap hexPair

def hexText (data : Bytes) : String := String.ofList data.hex

def ofHex? : List Char → Option Bytes
  | [] => some []
  | [_] => none
  | high :: low :: rest => do
      let upper ← hexValue? high
      let lower ← hexValue? low
      let others ← ofHex? rest
      pure (UInt8.ofNat (16 * upper + lower) :: others)

private theorem hexValue?_hexDigit : ∀ value : Fin 16,
    hexValue? (hexDigit value.val) = some value.val := by decide

theorem ofHex?_hex (data : Bytes) : ofHex? data.hex = some data := by
  induction data with
  | nil => rfl
  | cons byte rest ih =>
      have below : byte.toNat < 256 := byte.toNat_lt
      have upper := hexValue?_hexDigit ⟨byte.toNat / 16, by omega⟩
      have lower := hexValue?_hexDigit ⟨byte.toNat % 16, by omega⟩
      have joined : UInt8.ofNat (16 * (byte.toNat / 16) + byte.toNat % 16) = byte := by
        rw [Nat.div_add_mod, UInt8.ofNat_toNat]
      simp only [hex, List.flatMap_cons, hexPair, List.cons_append, List.nil_append] at ih ⊢
      simp only [ofHex?] at *
      rw [upper, lower, ih]
      exact congrArg (fun first => some (first :: rest)) joined

theorem length_hex (data : Bytes) : data.hex.length = 2 * data.length := by
  induction data with
  | nil => rfl
  | cons byte rest ih =>
      simp only [hex, List.flatMap_cons, hexPair, List.cons_append, List.nil_append,
        List.length_cons] at ih ⊢
      omega

/-- The bytes from `offset` on, at most `count` of them. -/
def slice (data : Bytes) (offset count : Nat) : Bytes := (data.drop offset).take count

theorem length_slice {data : Bytes} {offset count : Nat}
    (fits : offset + count ≤ data.length) : (data.slice offset count).length = count := by
  simp [slice]
  omega

end Bytes

end FloodMesh
