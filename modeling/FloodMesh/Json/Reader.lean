/-
Reading JSON, strictly.

The input is a sequence of characters with gaps where the bytes were none.
Gaps may stand inside strings only, where they make the string garbled. Blanks
are the space, the tab and the two line characters; numbers have no leading
zeros and no plus sign; strings hold no raw controls. The whole input must be
one value between blanks.

A step of the reader spends one unit of its allowance, and the length of the
input is allowance enough, because every step consumes a character.
-/

import FloodMesh.Bytes
import FloodMesh.Json
import FloodMesh.Text.Utf8

namespace FloodMesh.Json

abbrev Symbols := List (Option Char)

def isBlank (char : Char) : Bool := char = ' ' || char = '\t' || char = '\n' || char = '\r'

def skipBlanks : Symbols → Symbols
  | some char :: rest => if isBlank char then skipBlanks rest else some char :: rest
  | input => input

/-- What one step inside a string stands for. -/
inductive Piece
  | char (value : Char)
  /-- Half of a surrogate pair. -/
  | half (code : Nat)
  | gap
  deriving DecidableEq

def Piece.ofCode (code : Nat) : Piece :=
  if 0xD800 ≤ code ∧ code < 0xE000 then .half code else .char (Char.ofNat code)

def hexValue? : Option Char → Option Nat
  | some digit => Bytes.hexValue? digit
  | none => none

def shortEscape? (char : Char) : Option Char :=
  if char = '"' ∨ char = '\\' ∨ char = '/' then some char
  else if char = 'b' then some (Char.ofNat 8)
  else if char = 'f' then some (Char.ofNat 12)
  else if char = 'n' then some '\n'
  else if char = 'r' then some '\r'
  else if char = 't' then some '\t'
  else none

def pieces : Symbols → Option (List Piece × Symbols)
  | [] => none
  | none :: rest => do
      let (more, after) ← pieces rest
      pure (.gap :: more, after)
  | some '\\' :: some 'u' :: first :: second :: third :: fourth :: rest => do
      let a ← hexValue? first
      let b ← hexValue? second
      let c ← hexValue? third
      let d ← hexValue? fourth
      let (more, after) ← pieces rest
      pure (Piece.ofCode (((a * 16 + b) * 16 + c) * 16 + d) :: more, after)
  | some '\\' :: some escape :: rest => do
      let char ← shortEscape? escape
      let (more, after) ← pieces rest
      pure (.char char :: more, after)
  | some '"' :: rest => some ([], rest)
  | some char :: rest =>
      if char = '\\' ∨ char.toNat < 0x20 then none
      else do
        let (more, after) ← pieces rest
        pure (.char char :: more, after)

/-- The text of a string's pieces: the halves of a pair must stand together. -/
def joined : List Piece → Option (List Char)
  | [] => some []
  | .char char :: rest => (joined rest).map (char :: ·)
  | .half high :: .half low :: rest =>
      if high < 0xDC00 ∧ 0xDC00 ≤ low then
        (joined rest).map (Char.ofNat (0x10000 + (high - 0xD800) * 0x400 + (low - 0xDC00)) :: ·)
      else none
  | .half _ :: _ => none
  | .gap :: _ => none

def digits : Symbols → List Char × Symbols
  | some char :: rest =>
      if '0' ≤ char ∧ char ≤ '9' then
        let (more, after) := digits rest
        (char :: more, after)
      else ([], some char :: rest)
  | input => ([], input)

def digitsValue (text : List Char) : Nat :=
  text.foldl (fun value digit => 10 * value + (digit.toNat - 48)) 0

def fraction? : Symbols → Option (Option (List Char) × Symbols)
  | some '.' :: rest =>
      match digits rest with
      | ([], _) => none
      | (places, after) => some (some places, after)
  | input => some (none, input)

def signedDigits? (negative : Bool) (input : Symbols) : Option (Option Int × Symbols) :=
  match digits input with
  | ([], _) => none
  | (places, after) =>
      let value : Int := digitsValue places
      some (some (if negative then -value else value), after)

def exponent? : Symbols → Option (Option Int × Symbols)
  | some 'e' :: some '+' :: rest => signedDigits? false rest
  | some 'E' :: some '+' :: rest => signedDigits? false rest
  | some 'e' :: some '-' :: rest => signedDigits? true rest
  | some 'E' :: some '-' :: rest => signedDigits? true rest
  | some 'e' :: rest => signedDigits? false rest
  | some 'E' :: rest => signedDigits? false rest
  | input => some (none, input)

def Number.of (negative : Bool) (units : List Char) (places : Option (List Char))
    (exponent : Option Int) : Number :=
  match places, exponent with
  | none, none =>
      let value := digitsValue units
      if negative then
        if value = 0 then .scaled true 0 0 else .whole (-value)
      else .whole value
  | _, _ =>
      let behind := places.getD []
      .scaled negative (digitsValue (units ++ behind)) (exponent.getD 0 - behind.length)

def number? (negative : Bool) (input : Symbols) : Option (Number × Symbols) :=
  match digits input with
  | ([], _) => none
  | (units, afterUnits) =>
      if units.length > 1 ∧ units.head? = some '0' then none
      else do
        let (places, afterPlaces) ← fraction? afterUnits
        let (exponent, rest) ← exponent? afterPlaces
        pure (.of negative units places exponent, rest)

def string? (input : Symbols) : Option (Json × Symbols) := do
  let (parts, rest) ← pieces input
  match joined parts with
  | some text => pure (.string (String.ofList text), rest)
  | none => pure (.garbled, rest)

/-- A member's name, unless it stands for no text, and the colon behind it. -/
def name? (input : Symbols) : Option (Option String × Symbols) :=
  match skipBlanks input with
  | some '"' :: rest => do
      let (parts, after) ← pieces rest
      match skipBlanks after with
      | some ':' :: value => pure ((joined parts).map String.ofList, value)
      | _ => none
  | _ => none

/-- Puts a member before those of an object. An object with a name that stands
for no text is garbled as a whole. -/
def withMember (name : Option String) (value : Json) : Json → Json
  | .object members =>
      match name with
      | some name => .object ((name, value) :: members)
      | none => .garbled
  | _ => .garbled

mutual

def value? : Nat → Symbols → Option (Json × Symbols)
  | 0, _ => none
  | allowance + 1, input =>
      match skipBlanks input with
      | some 'n' :: some 'u' :: some 'l' :: some 'l' :: rest => some (.null, rest)
      | some 't' :: some 'r' :: some 'u' :: some 'e' :: rest => some (.bool true, rest)
      | some 'f' :: some 'a' :: some 'l' :: some 's' :: some 'e' :: rest =>
          some (.bool false, rest)
      | some '"' :: rest => string? rest
      | some '[' :: rest =>
          match skipBlanks rest with
          | some ']' :: after => some (.array [], after)
          | inside => do
              let (items, after) ← itemsOf? allowance inside
              pure (.array items, after)
      | some '\x7b' :: rest =>
          match skipBlanks rest with
          | some '\x7d' :: after => some (.object [], after)
          | inside => membersOf? allowance inside
      | some '-' :: rest => do
          let (read, after) ← number? true rest
          pure (.number read, after)
      | rest => do
          let (read, after) ← number? false rest
          pure (.number read, after)

def itemsOf? : Nat → Symbols → Option (List Json × Symbols)
  | 0, _ => none
  | allowance + 1, input => do
      let (item, afterItem) ← value? allowance input
      match skipBlanks afterItem with
      | some ',' :: rest => do
          let (more, after) ← itemsOf? allowance rest
          pure (item :: more, after)
      | some ']' :: rest => pure ([item], rest)
      | _ => none

def membersOf? : Nat → Symbols → Option (Json × Symbols)
  | 0, _ => none
  | allowance + 1, input => do
      let (name, afterName) ← name? input
      let (value, afterValue) ← value? allowance afterName
      match skipBlanks afterValue with
      | some ',' :: rest => do
          let (more, after) ← membersOf? allowance rest
          pure (withMember name value more, after)
      | some '\x7d' :: rest => pure (withMember name value (.object []), rest)
      | _ => none

end

def read? (input : Symbols) : Option Json := do
  let (value, rest) ← value? (2 * input.length + 2) input
  match skipBlanks rest with
  | [] => pure value
  | _ => none

def ofBytes? (data : Bytes) : Option Json := read? (Utf8.symbols data)

def ofString? (text : String) : Option Json := read? (text.toList.map some)

end FloodMesh.Json
