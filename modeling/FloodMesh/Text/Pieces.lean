/-
Lists and counts as people type them.

Text is cut at a character. There is one piece more than there are cuts, and
pieces may be empty. Joining the pieces with the character gives the text back.
A piece may have white space in any script at its ends. A count is given by its
decimal digits, perhaps behind a plus.
-/

namespace FloodMesh.Pieces

def split (separator : Char) : List Char → List (List Char)
  | [] => [[]]
  | char :: rest =>
      if char = separator then [] :: split separator rest
      else
        match split separator rest with
        | [] => [[char]]
        | first :: more => (char :: first) :: more

def join (separator : Char) : List (List Char) → List Char
  | [] => []
  | [piece] => piece
  | piece :: rest => piece ++ separator :: join separator rest

theorem split_ne_nil (separator : Char) (text : List Char) : split separator text ≠ [] := by
  cases text with
  | nil => simp [split]
  | cons char rest =>
      simp only [split]
      split
      · simp
      · split <;> simp

theorem join_split (separator : Char) (text : List Char) :
    join separator (split separator text) = text := by
  induction text with
  | nil => rfl
  | cons char rest ih =>
      have some_piece := split_ne_nil separator rest
      simp only [split]
      split
      · rename_i cut
        cases pieces : split separator rest with
        | nil => exact absurd pieces some_piece
        | cons first more => rw [pieces] at ih; simp [join, ih, cut]
      · cases pieces : split separator rest with
        | nil => exact absurd pieces some_piece
        | cons first more =>
            rw [pieces] at ih
            cases more with
            | nil => simpa [join] using ih
            | cons second others => simpa [join] using ih

end FloodMesh.Pieces

namespace FloodMesh.Blank

/-- The characters with the Unicode property White_Space. -/
def isBlank (char : Char) : Bool :=
  let code := char.toNat
  (0x09 ≤ code && code ≤ 0x0D) || code = 0x20 || code = 0x85 || code = 0xA0 || code = 0x1680 ||
    (0x2000 ≤ code && code ≤ 0x200A) || code = 0x2028 || code = 0x2029 || code = 0x202F ||
    code = 0x205F || code = 0x3000

def trim (text : List Char) : List Char :=
  ((text.dropWhile isBlank).reverse.dropWhile isBlank).reverse

end FloodMesh.Blank

namespace FloodMesh.Numeral

def isDigit (char : Char) : Bool := '0' ≤ char && char ≤ '9'

def value (digits : List Char) : Nat :=
  digits.foldl (fun value digit => 10 * value + (digit.toNat - '0'.toNat)) 0

def unsigned : List Char → List Char
  | '+' :: rest => rest
  | text => text

/-- The count a text stands for, if it is below a bound. -/
def below? (bound : Nat) (text : List Char) : Option Nat :=
  let digits := unsigned text
  if digits ≠ [] ∧ digits.all isDigit ∧ value digits < bound then some (value digits)
  else none

end FloodMesh.Numeral
