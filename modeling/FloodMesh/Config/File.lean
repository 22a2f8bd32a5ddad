/-
The file of settings: read over the defaults if it is there, written from them
if it is not.
-/

import FloodMesh.Config.Environment
import FloodMesh.Text.Utf8

namespace FloodMesh

def FileTree.readText (tree : FileTree) (path : Path) : Except ReadFault String :=
  match tree.read path with
  | .error cause => .error (.file cause)
  | .ok content =>
      match Utf8.toString? content with
      | some text => .ok text
      | none => .error .notText

namespace Environment

/-- Settings from the file, or the defaults if there is none. -/
def stored (environment : Environment) (tree : FileTree) : Except ConfigError Config :=
  let path := environment.configPath
  if tree.has path then
    match tree.readText path with
    | .error cause => .error (.unreadable path cause)
    | .ok text =>
        match environment.defaults.parse? text with
        | some config => .ok config
        | none => .error (.unparsable path)
  else .ok environment.defaults

def load (environment : Environment) (tree : FileTree) : Except ConfigError Config :=
  environment.override <$> environment.stored tree

def defaultSteps (environment : Environment) : List FileStep :=
  let path := environment.configPath
  path.parent?.toList.map FileStep.makeDirectories ++
    [.write path (Utf8.ofString environment.defaults.print)]

/-- Writes the defaults unless there is a file, and gives the file's path. -/
def writeDefaults (environment : Environment) (tree : FileTree) :
    Except ConfigError Path × FileTree :=
  let path := environment.configPath
  if tree.has path then (.ok path, tree)
  else
    match FileStep.runAll environment.defaultSteps tree with
    | (.ok (), written) => (.ok path, written)
    | (.error (_, cause), partly) => (.error (.unwritable path cause), partly)

end Environment

end FloodMesh
