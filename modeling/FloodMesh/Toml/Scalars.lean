/-
Reading numbers, truth values and moments of TOML.

Digits may have single underscores between them. A whole number has no leading
zeros; it is decimal with an optional sign, or hexadecimal, octal or binary
without one, and must fit sixty-four bits with sign. A number with a fraction
or exponent must not be too large for a double. A moment is a date, a time or
both; its fields must be in range.
-/

import FloodMesh.Toml
import FloodMesh.Toml.Strings

namespace FloodMesh.Toml

def isDecimal (char : Char) : Bool := '0' ≤ char && char ≤ '9'

def isOctal (char : Char) : Bool := '0' ≤ char && char ≤ '7'

def isBinary (char : Char) : Bool := char = '0' || char = '1'

def isHexadecimal (char : Char) : Bool := (Bytes.hexValue? char).isSome

def moreDigits (isDigit : Char → Bool) : List Char → List Char × List Char
  | '_' :: char :: rest =>
      if isDigit char then
        let (digits, after) := moreDigits isDigit rest
        (char :: digits, after)
      else ([], '_' :: char :: rest)
  | char :: rest =>
      if isDigit char then
        let (digits, after) := moreDigits isDigit rest
        (char :: digits, after)
      else ([], char :: rest)
  | [] => ([], [])

def digits? (isDigit : Char → Bool) : List Char → Taken (List Char)
  | char :: rest =>
      if isDigit char then
        let (digits, after) := moreDigits isDigit rest
        some (char :: digits, after)
      else none
  | [] => none

def wholeDigits? : List Char → Taken (List Char)
  | '0' :: rest => some (['0'], rest)
  | input => digits? isDecimal input

def valueIn (base : Nat) (digits : List Char) : Nat :=
  digits.foldl (fun value digit => base * value + (Bytes.hexValue? digit).getD 0) 0

/-- A sign, or none; the first component says whether it was a minus. -/
def sign : List Char → Bool × List Char
  | '-' :: rest => (true, rest)
  | '+' :: rest => (false, rest)
  | input => (false, input)

def greatestInteger : Nat := Nat.pow 2 63 - 1

def integerOf? (negative : Bool) (value : Nat) : Option Toml :=
  if negative then
    if value ≤ greatestInteger + 1 then some (.integer (-value)) else none
  else if value ≤ greatestInteger then some (.integer value)
  else none

def based? (base : Nat) (isDigit : Char → Bool) (input : List Char) :
    Option (Toml × List Char) := do
  let (digits, rest) ← digits? isDigit input
  let value ← integerOf? false (valueIn base digits)
  pure (value, rest)

def integer? : List Char → Option (Toml × List Char)
  | '0' :: 'x' :: rest => based? 16 isHexadecimal rest
  | '0' :: 'o' :: rest => based? 8 isOctal rest
  | '0' :: 'b' :: rest => based? 2 isBinary rest
  | input => do
      let (negative, unsigned) := sign input
      let (digits, rest) ← wholeDigits? unsigned
      let value ← integerOf? negative (valueIn 10 digits)
      pure (value, rest)

/-- Whether digits times a power of ten round to no finite double. -/
def tooLarge (digits : List Char) (exponent : Int) : Bool :=
  let value := valueIn 10 digits
  if value = 0 then false
  else
    let magnitude := (Nat.toDigits 10 value).length + exponent
    if magnitude < 300 then false
    else if 320 < magnitude then true
    else
      let limit := Nat.pow 2 1024 - Nat.pow 2 970
      if 0 ≤ exponent then limit ≤ value * Nat.pow 10 exponent.toNat
      else limit * Nat.pow 10 (-exponent).toNat ≤ value

def fraction? : List Char → Taken (List Char)
  | '.' :: rest => digits? isDecimal rest
  | _ => none

def exponent? : List Char → Option (Int × List Char)
  | char :: rest =>
      if char = 'e' ∨ char = 'E' then do
        let (negative, unsigned) := sign rest
        let (digits, after) ← digits? isDecimal unsigned
        let value : Int := valueIn 10 digits
        pure (if negative then -value else value, after)
      else none
  | [] => none

def special? : List Char → Option (List Char)
  | 'i' :: 'n' :: 'f' :: rest => some rest
  | 'n' :: 'a' :: 'n' :: rest => some rest
  | _ => none

def float? (input : List Char) : Option (Toml × List Char) := do
  let (negative, unsigned) := sign input
  match special? unsigned with
  | some rest => pure (.float, rest)
  | none => do
      let (units, afterUnits) ← wholeDigits? unsigned
      let (places, afterPlaces) := (fraction? afterUnits).getD ([], afterUnits)
      let (exponent, rest) := (exponent? afterPlaces).getD (0, afterPlaces)
      if rest.length = afterUnits.length then none
      else if tooLarge (units ++ places) (exponent - places.length) ∧ ¬negative then none
      else pure (.float, rest)

def boolean? : List Char → Taken Toml
  | 't' :: 'r' :: 'u' :: 'e' :: rest => some (.boolean true, rest)
  | 'f' :: 'a' :: 'l' :: 's' :: 'e' :: rest => some (.boolean false, rest)
  | _ => none

def field? (width : Nat) (input : List Char) : Taken Nat :=
  let digits := input.take width
  if digits.length = width ∧ digits.all isDecimal then
    some (valueIn 10 digits, input.drop width)
  else none

/-- Exactly so many digits that make a number between two bounds. -/
def fieldWithin? (width low high : Nat) (input : List Char) : Option (Nat × List Char) := do
  let (value, rest) ← field? width input
  if low ≤ value ∧ value ≤ high then pure (value, rest) else none

def expect? (char : Char) : List Char → Option (List Char)
  | first :: rest => if first = char then some rest else none
  | [] => none

def isLeap (year : Nat) : Bool := year % 4 = 0 && (year % 100 ≠ 0 || year % 400 = 0)

def daysIn (year month : Nat) : Nat :=
  if month = 2 then if isLeap year then 29 else 28
  else if month = 4 ∨ month = 6 ∨ month = 9 ∨ month = 11 then 30
  else 31

def date? (input : List Char) : Option (List Char) := do
  let (year, afterYear) ← field? 4 input
  let (month, afterMonth) ← fieldWithin? 2 1 12 (← expect? '-' afterYear)
  let (_, rest) ← fieldWithin? 2 1 (daysIn year month) (← expect? '-' afterMonth)
  pure rest

def time? (input : List Char) : Option (List Char) := do
  let (_, afterHour) ← fieldWithin? 2 0 23 input
  let (_, afterMinute) ← fieldWithin? 2 0 59 (← expect? ':' afterHour)
  let (_, afterSecond) ← fieldWithin? 2 0 60 (← expect? ':' afterMinute)
  match afterSecond with
  | '.' :: next :: rest =>
      if isDecimal next then pure (rest.dropWhile isDecimal) else pure afterSecond
  | _ => pure afterSecond

def offset? : List Char → Option (List Char)
  | 'Z' :: rest => some rest
  | 'z' :: rest => some rest
  | char :: rest =>
      if char = '+' ∨ char = '-' then do
        let (_, afterHour) ← fieldWithin? 2 0 23 rest
        let (_, after) ← fieldWithin? 2 0 59 (← expect? ':' afterHour)
        pure after
      else none
  | [] => none

/-- Gives what follows a date, its time and the time's offset, as far as they
are there. -/
def dateAndTime? (input : List Char) : Option (List Char) := do
  let afterDate ← date? input
  match afterDate with
  | char :: rest =>
      if char = 'T' ∨ char = 't' ∨ char = ' ' then
        match time? rest with
        | some afterTime => pure ((offset? afterTime).getD afterTime)
        | none => pure afterDate
      else pure afterDate
  | [] => pure []

def moment? (input : List Char) : Taken Toml :=
  ((dateAndTime? input).orElse fun _ => time? input).map fun rest => (.moment, rest)

def scalar? (input : List Char) : Taken Toml :=
  boolean? input <|> moment? input <|> float? input <|> integer? input

end FloodMesh.Toml
