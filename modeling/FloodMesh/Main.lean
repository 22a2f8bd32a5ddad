/-
The program: a node of this host, its files on this host's disk, the air at
the console. Times count from the start.
-/

import FloodMesh.Console
import FloodMesh.Text.Report

namespace FloodMesh.Console

def variableNames : List String :=
  [ "HOME", "XDG_CONFIG_HOME", "XDG_DATA_HOME", "AGROMESH_CONFIG", "AGROMESH_NODE__ADDRESS",
    "AGROMESH_NODE__ROLE", "AGROMESH_MESH__TTL", "AGROMESH_MESH__KNOWN_NODES",
    "AGROMESH_RADIO__INTERFACE", "AGROMESH_API__PORT" ]

def hostEnvironment : IO Environment := do
  let bindings ← variableNames.filterMapM fun name => do
    pure ((← IO.getEnv name).map fun value => (name, value))
  pure { bindings }

/-- A tree that holds what a file of the host holds. -/
def fetch (tree : FileTree) (path : Path) : IO FileTree := do
  try
    let content ← IO.FS.readBinFile path.text
    pure (tree.plant path content.toList).2
  catch _ => pure tree

def fetchAll (paths : List Path) (tree : FileTree) : IO FileTree := paths.foldlM fetch tree

def placeText (place : Place) : String := "/" ++ String.intercalate "/" place

/-- Puts on the host's disk what a tree holds that an earlier one did not. -/
def store (earlier later : FileTree) : IO Unit :=
  later.items.forM fun (place, item) =>
    match item with
    | .directory => pure ()
    | .file content => do
        if earlier.lookup place ≠ some item then
          IO.FS.createDirAll (placeText place.dropLast)
          IO.FS.writeBinFile (placeText place) (ByteArray.mk content.toArray)

/-- Shows answers and sent frames and brings the disk up to date. -/
def publish (answers : List String) (earlier : FileTree) (daemon : Daemon) : IO Daemon := do
  let (sent, told) := sentLines daemon
  (answers ++ sent).forM fun line => IO.println line
  store earlier told.tree
  pure told

/-- Takes commands until the input ends or one of them is to stop. -/
partial def serve (start : Nat) (input : IO.FS.Stream) (daemon : Daemon) : IO Unit := do
  let line ← input.getLine
  let current := daemon.pass ((← IO.monoMsNow) - start - daemon.field.now)
  match if line.isEmpty then some .stop else Command.ofLine? line with
  | none => serve start input (← publish ["?"] daemon.tree current)
  | some .stop => do
      let _ ← publish [] daemon.tree (perform current .stop).2
  | some command => do
      let (answers, later) := perform current command
      serve start input (← publish answers daemon.tree later)

/-- A tree of nothing but the directories down to a place. -/
def emptyTree (place : Place) : FileTree :=
  { items := (List.range (place.length + 1)).map fun depth => (place.take depth, .directory)
    home := place }

def run : IO UInt32 := do
  let environment ← hostEnvironment
  let here : Path := ⟨(← IO.currentDir).toString⟩
  let settled ← fetch (emptyTree here.names) environment.configPath
  let storage := (Daemon.settings environment settled).1.storage
  let tree ← fetchAll [storage.dedupPath, storage.uplinkPath] settled
  let seed := UInt64.ofNat (← IO.rand 0 (Nat.pow 2 64 - 1))
  match Daemon.start seed [Interface.loopback] environment tree with
  | (.error failure, written) => do
      store tree written
      IO.eprint (Report.text failure.causes)
      pure 1
  | (.ok daemon, _) => do
      let start ← IO.monoMsNow
      serve start (← IO.getStdin) (← publish [] tree daemon.settle)
      pure 0

end FloodMesh.Console

def main : IO UInt32 := FloodMesh.Console.run
