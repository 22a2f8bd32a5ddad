/-
Written JSON, in one line or indented.

Strings escape the quote, the backslash and the controls below the space; all
other characters, DEL included, are written as they are. The indented form puts
each item on a line of its own, two spaces deeper than its container, and
writes empty containers without a line break.
-/

import FloodMesh.Bytes
import FloodMesh.Json

namespace FloodMesh.Json

def escapeChar (char : Char) : List Char :=
  if char = '"' then ['\\', '"']
  else if char = '\\' then ['\\', '\\']
  else if char = '\n' then ['\\', 'n']
  else if char = '\r' then ['\\', 'r']
  else if char = '\t' then ['\\', 't']
  else if char.toNat = 8 then ['\\', 'b']
  else if char.toNat = 12 then ['\\', 'f']
  else if char.toNat < 0x20 then
    ['\\', 'u', '0', '0', Bytes.hexDigit (char.toNat / 16), Bytes.hexDigit (char.toNat % 16)]
  else [char]

def quoted (text : String) : List Char := '"' :: text.toList.flatMap escapeChar ++ ['"']

def decimal (value : Nat) : List Char := Nat.toDigits 10 value

def Number.print : Number → List Char
  | .whole (.ofNat value) => decimal value
  | .whole (.negSucc value) => '-' :: decimal (value + 1)
  | .scaled negative digits exponent =>
      (if negative then ['-'] else []) ++ decimal digits ++ 'e' ::
        (match exponent with
          | .ofNat value => decimal value
          | .negSucc value => '-' :: decimal (value + 1))

mutual

def compact : Json → List Char
  | .null => ['n', 'u', 'l', 'l']
  | .bool true => ['t', 'r', 'u', 'e']
  | .bool false => ['f', 'a', 'l', 's', 'e']
  | .number value => value.print
  | .string text => quoted text
  | .garbled => quoted ""
  | .array [] => ['[', ']']
  | .array (first :: rest) => '[' :: compact first ++ compactItems rest
  | .object [] => ['\x7b', '\x7d']
  | .object ((name, value) :: rest) =>
      '\x7b' :: quoted name ++ ':' :: compact value ++ compactMembers rest

def compactItems : List Json → List Char
  | [] => [']']
  | item :: rest => ',' :: compact item ++ compactItems rest

def compactMembers : List (String × Json) → List Char
  | [] => ['\x7d']
  | (name, value) :: rest => ',' :: quoted name ++ ':' :: compact value ++ compactMembers rest

end

/-- A line break and the blanks that start a line at this depth. -/
def newLine (depth : Nat) : List Char := '\n' :: List.replicate (2 * depth) ' '

mutual

/-- The indented form of a value that stands at a depth. -/
def indented (depth : Nat) : Json → List Char
  | .array [] => ['[', ']']
  | .array (first :: rest) =>
      '[' :: newLine (depth + 1) ++ indented (depth + 1) first ++ indentedItems depth rest
  | .object [] => ['\x7b', '\x7d']
  | .object ((name, value) :: rest) =>
      '\x7b' :: newLine (depth + 1) ++ quoted name ++ ':' :: ' ' :: indented (depth + 1) value ++
        indentedMembers depth rest
  | .null => compact .null
  | .bool value => compact (.bool value)
  | .number value => compact (.number value)
  | .string text => compact (.string text)
  | .garbled => compact .garbled

def indentedItems (depth : Nat) : List Json → List Char
  | [] => newLine depth ++ [']']
  | item :: rest =>
      ',' :: newLine (depth + 1) ++ indented (depth + 1) item ++ indentedItems depth rest

def indentedMembers (depth : Nat) : List (String × Json) → List Char
  | [] => newLine depth ++ ['\x7d']
  | (name, value) :: rest =>
      ',' :: newLine (depth + 1) ++ quoted name ++ ':' :: ' ' :: indented (depth + 1) value ++
        indentedMembers depth rest

end

def pretty (value : Json) : List Char := indented 0 value

def line (value : Json) : String := String.ofList value.compact

end FloodMesh.Json
