/-
Failures with their causes, as they are shown to an operator.

The first text says what failed; the others say why, each the cause of the one
before. Several causes are numbered from zero. Further lines of a cause are
indented like its first.
-/

import FloodMesh.Text.Pieces

namespace FloodMesh.Report

def spaces (count : Nat) : List Char := List.replicate count ' '

def counter (number : Nat) : List Char :=
  let digits := Nat.toDigits 10 number
  spaces (5 - digits.length) ++ digits ++ [':', ' ']

/-- A text whose first line stands behind `start` and the others behind
blanks. -/
def indented (start : List Char) (width : Nat) (text : String) : List Char :=
  match Pieces.split '\n' text.toList with
  | [] => start
  | first :: more => start ++ first ++ more.flatMap fun line => '\n' :: spaces width ++ line

def causes : List String → List Char
  | [] => []
  | [cause] => '\n' :: indented (spaces 4) 4 cause
  | several =>
      (several.zipIdx.map fun (cause, number) => '\n' :: indented (counter number) 7 cause).flatten

def text : List String → String
  | [] => ""
  | [failure] => "Error: " ++ failure ++ "\n"
  | failure :: why =>
      "Error: " ++ failure ++ "\n\nCaused by:" ++ String.ofList (causes why) ++ "\n"

def inOneLine (texts : List String) : String := String.intercalate ": " texts

end FloodMesh.Report
