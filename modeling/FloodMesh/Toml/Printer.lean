/-
Written TOML: sections of plain settings.

A string is written in the plainest of five forms that can hold it: between
quotes if nothing in it needs an escape, between apostrophes if it has quotes or
backslashes and no apostrophe, in a triple form if its quotes or apostrophes
come at most two in a row, and with escapes if nothing else will do. A triple
form starts on a new line if the text has a line break. A list of two or more
items has one item on each line.
-/

import FloodMesh.Bytes
import FloodMesh.Toml

namespace FloodMesh.Toml

def longestRun (wanted : Char) (text : List Char) : Nat :=
  (text.foldl
    (fun (best, current) char =>
      if char = wanted then (max best (current + 1), current + 1) else (best, 0))
    (0, 0)).1

def isControl (char : Char) : Bool :=
  (char.toNat < 0x20 && char ≠ '\t' && char ≠ '\n') || char.toNat = 0x7F

/-- What a text holds that a form must be able to write. -/
structure Needs where
  apostrophes : Nat
  quotes : Nat
  control : Bool
  backslash : Bool
  newline : Bool

def Needs.of (text : List Char) : Needs :=
  { apostrophes := longestRun '\'' text
    quotes := longestRun '"' text
    control := text.any isControl
    backslash := text.contains '\\'
    newline := text.contains '\n' }

/-- The forms of a string: how many delimiters, and whether it takes escapes. -/
inductive Form
  | quoted
  | literal
  | tripleQuoted
  | tripleLiteral
  deriving DecidableEq

def Needs.form (needs : Needs) : Form :=
  if !needs.control && !needs.backslash && needs.quotes = 0 && !needs.newline then .quoted
  else if !needs.control && needs.apostrophes = 0 && !needs.newline then .literal
  else if !needs.control && !needs.backslash && needs.quotes ≤ 2 then .tripleQuoted
  else if !needs.control && needs.apostrophes ≤ 2 then .tripleLiteral
  else if needs.newline then .tripleQuoted
  else .quoted

/-- One character between quotes. Line breaks stay in the triple form. -/
def escapedChar (triple : Bool) (char : Char) : List Char :=
  if char = '\\' then ['\\', '\\']
  else if char = '\t' then ['\\', 't']
  else if char = '\n' then if triple then ['\n'] else ['\\', 'n']
  else if char = '\r' then ['\\', 'r']
  else if char.toNat = 8 then ['\\', 'b']
  else if char.toNat = 12 then ['\\', 'f']
  else if char.toNat < 0x20 ∨ char.toNat = 0x7F then
    ['\\', 'u', '0', '0', Bytes.hexDigit (char.toNat / 16),
      (Bytes.hexDigit (char.toNat % 16)).toUpper]
  else [char]

/-- Text between quotes of which at most `limit` may stand in a row; `run` of
them have just been written. -/
def escaped (triple : Bool) (limit : Nat) : Nat → List Char → List Char
  | _, [] => []
  | run, char :: rest =>
      if char = '"' then
        if run < limit then '"' :: escaped triple limit (run + 1) rest
        else '\\' :: '"' :: escaped triple limit 0 rest
      else escapedChar triple char ++ escaped triple limit 0 rest

def opening (newline : Bool) : List Char := if newline then ['\n'] else []

def quotedText (text : List Char) : List Char :=
  let needs := Needs.of text
  match needs.form with
  | .quoted => '"' :: escaped false 0 0 text ++ ['"']
  | .literal => '\'' :: text ++ ['\'']
  | .tripleQuoted =>
      ['"', '"', '"'] ++ opening needs.newline ++ escaped true 2 0 text ++ ['"', '"', '"']
  | .tripleLiteral =>
      ['\'', '\'', '\''] ++ opening needs.newline ++ text ++ ['\'', '\'', '\'']

def printedInteger : Int → List Char
  | .ofNat value => Nat.toDigits 10 value
  | .negSucc value => '-' :: Nat.toDigits 10 (value + 1)

inductive Setting
  | text (value : String)
  | integer (value : Int)
  | texts (values : List String)

def Setting.print : Setting → List Char
  | .text value => quotedText value.toList
  | .integer value => printedInteger value
  | .texts [] => ['[', ']']
  | .texts [value] => '[' :: quotedText value.toList ++ [']']
  | .texts values =>
      '[' :: '\n' :: values.flatMap (fun value =>
        [' ', ' ', ' ', ' '] ++ quotedText value.toList ++ [',', '\n']) ++ [']']

structure Section where
  name : String
  settings : List (String × Setting)

def Section.print (part : Section) : List Char :=
  '[' :: part.name.toList ++ [']', '\n'] ++
    part.settings.flatMap fun (name, value) =>
      name.toList ++ [' ', '=', ' '] ++ value.print ++ ['\n']

def printSections : List Section → List Char
  | [] => []
  | [part] => part.print
  | part :: rest => part.print ++ '\n' :: printSections rest

end FloodMesh.Toml
