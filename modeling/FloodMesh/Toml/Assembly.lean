/-
Putting settings together into tables.

A dotted name makes the tables on its way. Such a table may be added to by
further dotted names and by nothing else. A header names a table of its own,
once; the tables above it that no header has named yet may still be named. A
double header adds a table to a list of tables, and later headers below it mean
the last of them.
-/

import FloodMesh.Toml

namespace FloodMesh.Toml

/-- A part of a document that is not finished. -/
inductive Branch
  | leaf (value : Toml)
  /-- `isImplied` until a header names the table; `isDotted` if a dotted name
  made it. -/
  | table (isImplied isDotted : Bool) (members : List (String × Branch))
  | tables (items : List (List (String × Branch)))

abbrev Branches := List (String × Branch)

namespace Branches

def put (name : String) (branch : Branch) : Branches → Branches
  | [] => [(name, branch)]
  | first :: rest =>
      if first.1 = name then (name, branch) :: rest else first :: put name branch rest

def without (name : String) (branches : Branches) : Branches :=
  branches.filter fun member => member.1 ≠ name

variable {α : Type}

/-- Changes the table at the end of a path, making the tables on the way. The
edit is told whether a dotted name made its table. -/
def edit? (dotted : Bool) (change : Bool → Branches → Option (α × Branches)) :
    List String → Bool → Branches → Option (α × Branches)
  | [], isDotted, branches => change isDotted branches
  | name :: path, _, branches =>
      match branches.lookup name with
      | none => do
          let (result, inner) ← edit? dotted change path dotted []
          pure (result, branches.put name (.table true dotted inner))
      | some (.leaf _) => none
      | some (.tables items) => do
          let last ← items.getLast?
          let (result, inner) ← edit? dotted change path false last
          pure (result, branches.put name (.tables (items.dropLast ++ [inner])))
      | some (.table isImplied isDotted inner) =>
          if dotted ∧ ¬isImplied then none
          else do
            let (result, inner) ← edit? dotted change path isDotted inner
            pure (result, branches.put name (.table isImplied isDotted inner))

def insert? (path : List String) (name : String) (value : Toml) (branches : Branches) :
    Option Branches := do
  let addLeaf := fun (isDotted : Bool) (branches : Branches) =>
    if isDotted = path.isEmpty ∨ (branches.lookup name).isSome then none
    else some ((), branches ++ [(name, Branch.leaf value)])
  let (_, result) ← edit? true addLeaf path false branches
  pure result

end Branches

mutual

def Branch.finish : Branch → Toml
  | .leaf value => value
  | .table _ _ members => .table (finishMembers members)
  | .tables items => .array (finishTables items)

def finishMembers : List (String × Branch) → List (String × Toml)
  | [] => []
  | (name, branch) :: rest => (name, branch.finish) :: finishMembers rest

def finishTables : List (List (String × Branch)) → List Toml
  | [] => []
  | members :: rest => .table (finishMembers members) :: finishTables rest

end

/-- A line of a document that says something. -/
inductive Line
  | header (path : List String) (name : String)
  | listHeader (path : List String) (name : String)
  | setting (path : List String) (name : String) (value : Toml)

/-- A document up to some line: the finished tables and the one under way. -/
structure Draft where
  root : Branches := []
  /-- Path, name and whether the header was double; none before any header. -/
  heading : Option (List String × String × Bool) := none
  members : Branches := []

namespace Draft

def close? (draft : Draft) : Option Branches :=
  match draft.heading with
  | none => some draft.members
  | some (path, name, isList) => do
      let place := fun (_ : Bool) (branches : Branches) =>
        match isList, branches.lookup name with
        | true, none => some ((), branches.put name (.tables [draft.members]))
        | true, some (.tables items) =>
            some ((), branches.put name (.tables (items ++ [draft.members])))
        | false, none => some ((), branches.put name (.table false false draft.members))
        | _, _ => none
      let (_, root) ← Branches.edit? false place path false draft.root
      pure root

/-- Starts a table; one that was only implied so far is taken up. -/
def openTable? (root : Branches) (path : List String) (name : String) : Option Draft := do
  let take := fun (_ : Bool) (branches : Branches) =>
    match branches.lookup name with
    | none => some (([] : Branches), branches)
    | some (.table true false members) => some (members, branches.without name)
    | _ => none
  let (members, root) ← Branches.edit? false take path false root
  pure { root, heading := some (path, name, false), members }

def openList? (root : Branches) (path : List String) (name : String) : Option Draft := do
  let check := fun (_ : Bool) (branches : Branches) =>
    match branches.lookup name with
    | none => some ((), branches)
    | some (.tables _) => some ((), branches)
    | _ => none
  let (_, root) ← Branches.edit? false check path false root
  pure { root, heading := some (path, name, true), members := [] }

def add? (draft : Draft) : Line → Option Draft
  | .setting path name value => do
      pure { draft with members := ← draft.members.insert? path name value }
  | .header path name => do openTable? (← draft.close?) path name
  | .listHeader path name => do openList? (← draft.close?) path name

end Draft

def ofLines? (lines : List Line) : Option Toml := do
  let draft ← lines.foldlM Draft.add? {}
  let root ← draft.close?
  pure (.table (finishMembers root))

end FloodMesh.Toml
