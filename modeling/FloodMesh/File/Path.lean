/-
Paths as text.

A path is kept as it was written. Its names are the parts between slashes
without empty ones and single dots. Parent, extension and joining work on the
text, so that a path that is shown looks like the one that was given.
-/

import FloodMesh.Text.Pieces

namespace FloodMesh

structure Path where
  text : String
  deriving DecidableEq

namespace Path

def names (path : Path) : List String :=
  ((Pieces.split '/' path.text.toList).filter fun part => part ≠ [] && part ≠ ['.']).map
    String.ofList

def isAbsolute (path : Path) : Bool := path.text.toList.head? = some '/'

def isEmpty (path : Path) : Bool := path.text.toList.isEmpty

/-- Whether the last part is a single dot, which names what stands before it. -/
def endsInDot (path : Path) : Bool :=
  match path.text.toList.reverse.dropWhile (· = '/') with
  | '.' :: '/' :: _ => true
  | ['.'] => true
  | _ => false

def wantsDirectory (path : Path) : Bool :=
  path.text.toList.getLast? = some '/' || path.endsInDot

/-- Drops slashes and single dots from the end; the text stands backwards. -/
def trimmed : List Char → List Char
  | '/' :: rest => trimmed rest
  | '.' :: '/' :: rest => trimmed ('/' :: rest)
  | backwards => backwards
  termination_by backwards => backwards.length

/-- The text without its last name, and that name, both backwards. -/
def splitLast (path : Path) : List Char × List Char :=
  let backwards := trimmed path.text.toList.reverse
  (backwards.dropWhile (· ≠ '/'), backwards.takeWhile (· ≠ '/'))

def parent? (path : Path) : Option Path :=
  let (before, name) := path.splitLast
  if name = [] then none
  else
    let kept := trimmed before
    if kept = [] ∧ path.isAbsolute then some { text := "/" }
    else some { text := String.ofList kept.reverse }

/-- The last name, backwards, unless it is a dot or two. -/
def lastName? (path : Path) : Option (List Char) :=
  let name := path.splitLast.2
  if name = [] ∨ name = ['.'] ∨ name = ['.', '.'] then none else some name

/-- A backwards name without its extension. A dot at its start makes none. -/
def stem (name : List Char) : List Char :=
  match name.dropWhile (· ≠ '.') with
  | [] => name
  | _ :: [] => name
  | _ :: before => before

/-- The path with another extension on its last name. The old one goes first, and
where two dots are left they name the directory above, which takes none. -/
def withExtension (path : Path) (extension : String) : Path :=
  match path.lastName? with
  | none => path
  | some name =>
      let kept := (stem name ++ path.splitLast.1).reverse
      if stem name = ['.'] ∧ ¬ path.wantsDirectory then { text := String.ofList (kept ++ ['.']) }
      else { text := String.ofList (kept ++ '.' :: extension.toList) }

def join (base below : Path) : Path :=
  if below.isAbsolute ∨ base.isEmpty then below
  else if base.text.toList.getLast? = some '/' then { text := base.text ++ below.text }
  else { text := base.text ++ "/" ++ below.text }

end Path

end FloodMesh
