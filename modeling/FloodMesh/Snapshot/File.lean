/-
A snapshot kept in a file.

A save writes the text beside the file, under the same name with another
extension, and then moves it into place, so the file never holds half a
snapshot. A missing file is no snapshot; a file that cannot be read or does not
hold one is an error.
-/

import FloodMesh.Cache
import FloodMesh.File.Tree

namespace FloodMesh

namespace Snapshot

/-- Where a snapshot is written before it is moved into place. -/
def draft (path : Path) : Path := path.withExtension "tmp"

def saveSteps (path : Path) (snapshot : Snapshot) : List FileStep :=
  path.parent?.toList.map FileStep.makeDirectories ++
    [.write (draft path) snapshot.toBytes, .rename (draft path) path]

def load (path : Path) (tree : FileTree) : Except StoreError (Option Snapshot) :=
  match tree.read path with
  | .error .missing => .ok none
  | .error _ => .error .unreachable
  | .ok content =>
      match ofBytes? content with
      | some snapshot => .ok (some snapshot)
      | none => .error .encoding

end Snapshot

def Store.file (path : Path) : Store FileTree :=
  { save := fun snapshot tree =>
      match FileStep.runAll (snapshot.saveSteps path) tree with
      | (.ok (), later) => (.ok (), later)
      | (.error _, later) => (.error .unreachable, later)
    load := Snapshot.load path }

end FloodMesh
