/-
UTF-8 as a sequence of characters and ill-formed parts.

`symbols` cuts any byte string into characters and maximal ill-formed parts:
a part is the longest start of a character that the bytes leave unfinished, or
a single byte that starts none. Strict decoding wants no such part, lossy
decoding puts the replacement character for each.
-/

import FloodMesh.Bytes

namespace FloodMesh.Utf8

def encodeChar (char : Char) : Bytes :=
  let code := char.toNat
  if code < 0x80 then [UInt8.ofNat code]
  else if code < 0x800 then
    [UInt8.ofNat (0xC0 + code / 64), UInt8.ofNat (0x80 + code % 64)]
  else if code < 0x10000 then
    [UInt8.ofNat (0xE0 + code / 4096), UInt8.ofNat (0x80 + code / 64 % 64),
      UInt8.ofNat (0x80 + code % 64)]
  else
    [UInt8.ofNat (0xF0 + code / 262144), UInt8.ofNat (0x80 + code / 4096 % 64),
      UInt8.ofNat (0x80 + code / 64 % 64), UInt8.ofNat (0x80 + code % 64)]

def encode (text : List Char) : Bytes := text.flatMap encodeChar

/-- Reads `more` further bytes of a character, the first of them between `low`
and `high`, and stops before the first byte that cannot continue it. -/
def continued : Nat → UInt8 → UInt8 → Nat → Bytes → Option Nat × Bytes
  | 0, _, _, code, rest => (some code, rest)
  | _ + 1, _, _, _, [] => (none, [])
  | more + 1, low, high, code, byte :: rest =>
      if low ≤ byte ∧ byte ≤ high then
        continued more 0x80 0xBF (64 * code + byte.toNat % 64) rest
      else (none, byte :: rest)

/-- The code that a byte string starts with, or none for an ill-formed part,
and what follows it. The second byte is confined where a shorter form, a
surrogate or a code above the last character would arise. -/
def next (lead : UInt8) (rest : Bytes) : Option Nat × Bytes :=
  if lead < 0x80 then (some lead.toNat, rest)
  else if lead < 0xC2 then (none, rest)
  else if lead < 0xE0 then continued 1 0x80 0xBF (lead.toNat % 32) rest
  else if lead < 0xF0 then
    continued 2 (if lead = 0xE0 then 0xA0 else 0x80) (if lead = 0xED then 0x9F else 0xBF)
      (lead.toNat % 16) rest
  else if lead < 0xF5 then
    continued 3 (if lead = 0xF0 then 0x90 else 0x80) (if lead = 0xF4 then 0x8F else 0xBF)
      (lead.toNat % 8) rest
  else (none, rest)

theorem length_continued_le (more : Nat) (low high : UInt8) (code : Nat) (data : Bytes) :
    (continued more low high code data).2.length ≤ data.length := by
  induction more generalizing low high code data with
  | zero => simp [continued]
  | succ more ih =>
      cases data with
      | nil => simp [continued]
      | cons byte rest =>
          simp only [continued]
          split
          · exact Nat.le_succ_of_le (ih _ _ _ _)
          · exact Nat.le_refl _

theorem length_next_le (lead : UInt8) (rest : Bytes) :
    (next lead rest).2.length ≤ rest.length := by
  simp only [next]
  repeat' split
  all_goals first
    | exact Nat.le_refl _
    | exact length_continued_le _ _ _ _ _

def symbols : Bytes → List (Option Char)
  | [] => []
  | lead :: rest =>
      (next lead rest).1.map Char.ofNat :: symbols (next lead rest).2
  termination_by data => data.length
  decreasing_by
    have shorter := length_next_le lead rest
    simp only [List.length_cons]
    omega

def decode? (data : Bytes) : Option (List Char) := (symbols data).mapM id

def replacement : Char := Char.ofNat 0xFFFD

def decodeLossy (data : Bytes) : List Char :=
  (symbols data).map (·.getD replacement)

def ofString (text : String) : Bytes := encode text.toList

def toString? (data : Bytes) : Option String := (decode? data).map String.ofList

end FloodMesh.Utf8
