/-
Reading the four forms of TOML strings.

Between quotes a backslash starts an escape; between apostrophes every
character stands for itself. The triple forms may hold line breaks, drop one
right after their start, and may end with up to two more quotes or apostrophes
before the closing three. A backslash at the end of a line between triple
quotes drops the break and all blanks and breaks behind it.
-/

import FloodMesh.Bytes

namespace FloodMesh.Toml

abbrev Taken (α : Type) := Option (α × List Char)

def isSpace (char : Char) : Bool := char = ' ' || char = '\t'

/-- Characters that may stand anywhere but where they have a meaning. -/
def isPlain (char : Char) : Bool := char = '\t' || (0x20 ≤ char.toNat && char.toNat ≠ 0x7F)

def shortEscape? (char : Char) : Option Char :=
  if char = 'b' then some (Char.ofNat 8)
  else if char = 'f' then some (Char.ofNat 12)
  else if char = 'n' then some '\n'
  else if char = 'r' then some '\r'
  else if char = 't' then some '\t'
  else if char = '"' ∨ char = '\\' then some char
  else none

def hexNumber? (text : List Char) : Option Nat :=
  text.foldlM (fun value digit => (Bytes.hexValue? digit).map (16 * value + ·)) 0

def charOf? (code : Nat) : Option Char :=
  if code.isValidChar then some (Char.ofNat code) else none

def coded? (text : List Char) : Option Char := (hexNumber? text).bind charOf?

def before (char : Char) (taken : Taken (List Char)) : Taken (List Char) :=
  taken.map fun (text, rest) => (char :: text, rest)

/-- Puts the character of an escape, if it has one, before what a reader took. -/
def escapedBefore (char : Option Char) (taken : Taken (List Char)) : Taken (List Char) :=
  char.bind fun char => before char taken

def quotedRest : List Char → Taken (List Char)
  | [] => none
  | '"' :: rest => some ([], rest)
  | '\\' :: 'u' :: a :: b :: c :: d :: rest =>
      escapedBefore (coded? [a, b, c, d]) (quotedRest rest)
  | '\\' :: 'U' :: a :: b :: c :: d :: e :: f :: g :: h :: rest =>
      escapedBefore (coded? [a, b, c, d, e, f, g, h]) (quotedRest rest)
  | '\\' :: escape :: rest => escapedBefore (shortEscape? escape) (quotedRest rest)
  | char :: rest => if isPlain char ∧ char ≠ '\\' then before char (quotedRest rest) else none

def literalRest : List Char → Taken (List Char)
  | [] => none
  | '\'' :: rest => some ([], rest)
  | char :: rest => if isPlain char then before char (literalRest rest) else none

def lineEnds : List Char → Bool
  | '\n' :: _ => true
  | '\r' :: '\n' :: _ => true
  | char :: rest => isSpace char && lineEnds rest
  | [] => false

/-- The rest of a string in triple quotes. While `skipping`, blanks and line
breaks are dropped. -/
def tripleQuotedRest (skipping : Bool) : List Char → Taken (List Char)
  | [] => none
  | '"' :: '"' :: '"' :: '"' :: '"' :: rest => some (['"', '"'], rest)
  | '"' :: '"' :: '"' :: '"' :: rest => some (['"'], rest)
  | '"' :: '"' :: '"' :: rest => some ([], rest)
  | '\\' :: 'u' :: a :: b :: c :: d :: rest =>
      escapedBefore (coded? [a, b, c, d]) (tripleQuotedRest false rest)
  | '\\' :: 'U' :: a :: b :: c :: d :: e :: f :: g :: h :: rest =>
      escapedBefore (coded? [a, b, c, d, e, f, g, h]) (tripleQuotedRest false rest)
  | '\r' :: '\n' :: rest =>
      if skipping then tripleQuotedRest true rest else before '\n' (tripleQuotedRest false rest)
  | '\\' :: rest =>
      if lineEnds rest then tripleQuotedRest true rest
      else
        match rest with
        | escape :: rest => escapedBefore (shortEscape? escape) (tripleQuotedRest false rest)
        | [] => none
  | char :: rest =>
      if skipping ∧ (isSpace char ∨ char = '\n') then tripleQuotedRest true rest
      else if isPlain char ∨ char = '\n' then before char (tripleQuotedRest false rest)
      else none

def tripleLiteralRest : List Char → Taken (List Char)
  | [] => none
  | '\'' :: '\'' :: '\'' :: '\'' :: '\'' :: rest => some (['\'', '\''], rest)
  | '\'' :: '\'' :: '\'' :: '\'' :: rest => some (['\''], rest)
  | '\'' :: '\'' :: '\'' :: rest => some ([], rest)
  | '\r' :: '\n' :: rest => before '\n' (tripleLiteralRest rest)
  | char :: rest =>
      if isPlain char ∨ char = '\n' then before char (tripleLiteralRest rest) else none

def dropBreak : List Char → List Char
  | '\n' :: rest => rest
  | '\r' :: '\n' :: rest => rest
  | input => input

def string? : List Char → Taken (List Char)
  | '"' :: '"' :: '"' :: rest => tripleQuotedRest false (dropBreak rest)
  | '\'' :: '\'' :: '\'' :: rest => tripleLiteralRest (dropBreak rest)
  | '"' :: rest => quotedRest rest
  | '\'' :: rest => literalRest rest
  | _ => none

end FloodMesh.Toml
