/-
Reading a TOML document.

A line is empty, a comment, a header or a setting, each perhaps followed by a
comment. Lists may run over lines; tables in braces may not, and end without a
comma. Lists and tables may be nested and names dotted only so deep.

A step of the reader spends one unit of its allowance; the length of the input
is allowance enough, because every step consumes a character.
-/

import FloodMesh.Toml.Assembly
import FloodMesh.Toml.Scalars
import FloodMesh.Toml.Strings

namespace FloodMesh.Toml

def skipSpaces (input : List Char) : List Char := input.dropWhile isSpace

def skipLines (comment : Bool) : List Char → List Char
  | [] => []
  | '\n' :: rest => skipLines false rest
  | '\r' :: '\n' :: rest => skipLines false rest
  | char :: rest =>
      if comment then if isPlain char then skipLines true rest else char :: rest
      else if isSpace char then skipLines false rest
      else if char = '#' then skipLines true rest
      else char :: rest

def isBare (char : Char) : Bool :=
  ('A' ≤ char && char ≤ 'Z') || ('a' ≤ char && char ≤ 'z') || isDecimal char ||
    char = '_' || char = '-'

def simpleName? : List Char → Taken String
  | '"' :: rest => (quotedRest rest).map fun (text, rest) => (String.ofList text, rest)
  | '\'' :: rest => (literalRest rest).map fun (text, rest) => (String.ofList text, rest)
  | input =>
      match input.takeWhile isBare with
      | [] => none
      | text => some (String.ofList text, input.dropWhile isBare)

def names? : Nat → List Char → Option (List String × List Char)
  | 0, _ => none
  | allowance + 1, input => do
      let (name, afterName) ← simpleName? (skipSpaces input)
      match skipSpaces afterName with
      | '.' :: rest => do
          let (more, after) ← names? allowance rest
          pure (name :: more, after)
      | rest => pure ([name], rest)

/-- How deep lists and tables may be nested and names dotted. -/
def deepest : Nat := 80

/-- A dotted name, split into its path and its last part. -/
def dotted? (input : List Char) : Option ((List String × String) × List Char) := do
  let (names, rest) ← names? (input.length + 1) input
  let last ← names.getLast?
  if names.length < deepest then pure ((names.dropLast, last), rest) else none

mutual

def value? (depth : Nat) : Nat → List Char → Option (Toml × List Char)
  | 0, _ => none
  | allowance + 1, input =>
      match input with
      | '"' :: _ => (string? input).map fun (text, rest) => (.string (String.ofList text), rest)
      | '\'' :: _ =>
          (string? input).map fun (text, rest) => (.string (String.ofList text), rest)
      | '[' :: rest =>
          if depth + 1 < deepest then do
            let (items, after) ← items? (depth + 1) allowance rest
            pure (.array items, after)
          else none
      | '\x7b' :: rest =>
          if depth + 1 < deepest then
            match skipSpaces rest with
            | '\x7d' :: after => some (.table [], after)
            | inside => do
                let (branches, after) ← pairs? (depth + 1) allowance [] inside
                pure (.table (finishMembers branches), after)
          else none
      | _ => scalar? input

def items? (depth : Nat) : Nat → List Char → Option (List Toml × List Char)
  | 0, _ => none
  | allowance + 1, input =>
      match skipLines false input with
      | ']' :: rest => some ([], rest)
      | inside => do
          let (item, afterItem) ← value? depth allowance inside
          match skipLines false afterItem with
          | ',' :: rest => do
              let (more, after) ← items? depth allowance rest
              pure (item :: more, after)
          | ']' :: rest => pure ([item], rest)
          | _ => none

def pairs? (depth : Nat) : Nat → Branches → List Char → Option (Branches × List Char)
  | 0, _, _ => none
  | allowance + 1, branches, input => do
      let ((path, name), afterName) ← dotted? input
      let afterSign ← expect? '=' afterName
      let (value, afterValue) ← value? depth allowance (skipSpaces afterSign)
      let grown ← branches.insert? path name value
      match skipSpaces afterValue with
      | ',' :: rest => pairs? depth allowance grown rest
      | '\x7d' :: rest => pure (grown, rest)
      | _ => none

end

/-- What follows the end of a line, if only a comment stands before it. -/
def lineEnd? (input : List Char) : Option (List Char) :=
  let rest :=
    match skipSpaces input with
    | '#' :: comment => comment.dropWhile isPlain
    | rest => rest
  match rest with
  | [] => some []
  | '\n' :: after => some after
  | '\r' :: '\n' :: after => some after
  | _ => none

def header? (input : List Char) : Option (Line × List Char) :=
  match input with
  | '[' :: rest => do
      let ((path, name), afterName) ← dotted? rest
      let after ← expect? ']' (← expect? ']' afterName)
      pure (.listHeader path name, after)
  | rest => do
      let ((path, name), afterName) ← dotted? rest
      let after ← expect? ']' afterName
      pure (.header path name, after)

def setting? (input : List Char) : Option (Line × List Char) := do
  let ((path, name), afterName) ← dotted? input
  let afterSign ← expect? '=' afterName
  let (value, after) ← value? 0 (2 * input.length + 2) (skipSpaces afterSign)
  pure (.setting path name value, after)

def lines? : Nat → List Char → Option (List Line)
  | 0, _ => none
  | allowance + 1, input =>
      match skipSpaces input with
      | [] => some []
      | '\n' :: rest => lines? allowance rest
      | '\r' :: '\n' :: rest => lines? allowance rest
      | '#' :: rest => do lines? allowance (← lineEnd? ('#' :: rest))
      | '[' :: rest => do
          let (line, after) ← header? rest
          pure (line :: (← lines? allowance (← lineEnd? after)))
      | start => do
          let (line, after) ← setting? start
          pure (line :: (← lines? allowance (← lineEnd? after)))

def dropMark : List Char → List Char
  | '\ufeff' :: rest => rest
  | input => input

def read? (input : List Char) : Option Toml := do
  let text := dropMark input
  ofLines? (← lines? (text.length + 1) text)

end FloodMesh.Toml
