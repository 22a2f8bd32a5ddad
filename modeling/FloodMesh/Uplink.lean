/-
The collector that keeps readings in a file, one line of JSON each.

A delivery makes the directories above the file, opens the file and adds the
lines of the batch to its end. Only the last of these changes what the file
holds, and if it fails, a beginning of the lines may have been added.
-/

import FloodMesh.File.Tree
import FloodMesh.Json.Printer
import FloodMesh.Queue
import FloodMesh.Text.Utf8

namespace FloodMesh

def Entry.record (entry : Entry) : Json :=
  .object
    [ ("node", .string entry.src.text), ("controller", .string entry.dest.text),
      ("data", .string entry.data.hex), ("received_at", .ofNat entry.receivedAt) ]

namespace Uplink

inductive Failure
  | directory (path : Path) (cause : FileError)
  | opening (path : Path) (cause : FileError)
  | appending (path : Path) (cause : FileError)

def Failure.causes : Failure → List String
  | .directory path cause => ["failed to create " ++ path.text, cause.message]
  | .opening path cause => ["failed to open " ++ path.text, cause.message]
  | .appending path cause => ["failed to append to " ++ path.text, cause.message]

def line (entry : Entry) : List Char := entry.record.compact ++ ['\n']

def lines (batch : List Entry) : List Char := batch.flatMap line

def steps (path : Path) (batch : List Entry) : List FileStep :=
  path.parent?.toList.map FileStep.makeDirectories ++
    [.openToAppend path, .append path (Utf8.encode (lines batch))]

def failureOf (path : Path) : FileStep × FileError → Failure
  | (.makeDirectories parent, cause) => .directory parent cause
  | (.append _ _, cause) => .appending path cause
  | (_, cause) => .opening path cause

def deliver (path : Path) (batch : List Entry) (tree : FileTree) :
    Except Failure Unit × FileTree :=
  match FileStep.runAll (steps path batch) tree with
  | (.ok (), later) => (.ok (), later)
  | (.error failed, later) => (.error (failureOf path failed), later)

end Uplink

end FloodMesh
