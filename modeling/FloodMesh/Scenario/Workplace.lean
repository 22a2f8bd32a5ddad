/-
The directory a scenario works in.

Texts of a scenario name it by a sign in whose place its path stands while the
scenario runs. Answers show the sign again.
-/

import FloodMesh.Config.File
import FloodMesh.Scenario.Decode
import FloodMesh.Scenario.Encode

namespace FloodMesh.Scenario

def workplace : Place := ["tmp", "w0rkplace9a7c"]

def workplaceText : String := "/" ++ String.intercalate "/" workplace

def workplaceSign : String := "$TMP"

/-- Runs a scenario with the path of the workplace in the place of its sign. -/
def atWorkplace (run : Json → Read Json) (input : Json) : Read Json := do
  let answer ← run (input.mapText (·.replace workplaceSign workplaceText))
  pure (answer.mapText (·.replace workplaceText workplaceSign))

def inWorkplace (name : String) : Path := { text := workplaceText ++ "/" ++ name }

def emptyTree : FileTree :=
  { items := [(["tmp"], .directory), (workplace, .directory)], home := workplace }

def content (input : Json) : Read Bytes := do
  match input.get? "hex" with
  | some value => asHex value
  | none => Utf8.ofString <$> text "text" input

def path (name : String) (input : Json) : Read Path := Path.mk <$> text name input

def plantAll (tree : FileTree) (input : Json) : Read FileTree := do
  (← itemsOr "files" input).foldlM
    (fun tree file => do
      let (result, planted) := tree.plant (← path "path" file) (← content file)
      let _ ← result.mapError Failure.file
      pure planted)
    tree

def startTree (input : Json) : Read FileTree := do
  let withDirectories ← (← itemsOr "dirs" input).foldlM
    (fun tree directory => do
      let path : Path := ⟨← need "path" directory.text?⟩
      pure (FileStep.run (.makeDirectories path) tree).2)
    emptyTree
  plantAll withDirectories input

def environment (input : Json) : Read Environment := do
  let members ← need "env" (← member "env" input).members?
  let bindings ← members.mapM fun (name, value) => do
    pure (name, ← need "variable" value.text?)
  pure { bindings }

def textJson (tree : FileTree) (path : Path) : Json :=
  match tree.readText path with
  | .ok text => .string text
  | .error _ => .null

def filesJson (tree : FileTree) : Json := .strings (tree.listing workplace)

def resultJson {α : Type} (encode : α → Json) : Except ConfigError α → Json
  | .ok value => encode value
  | .error error => (Failure.config error).toJson

def settingsJson (config : Config) : Json :=
  .object
    [ ("node",
        .object
          [("address", .string config.node.address), ("role", .string config.node.role.name)]),
      ("mesh",
        .object
          [ ("known_nodes", .strings config.mesh.knownNodes), ("ttl", .ofNat config.mesh.ttl),
            ("response_timeout_secs", .ofNat config.mesh.responseTimeoutSecs),
            ("poll_interval_secs", .ofNat config.mesh.pollIntervalSecs),
            ("response_queue_capacity", .ofNat config.mesh.responseQueueCapacity) ]),
      ("radio",
        .object
          [ ("interface", .string config.radio.interface),
            ("port", .ofNat config.radio.port) ]),
      ("storage",
        .object
          [ ("dedup_path", .string config.storage.dedupPath.text),
            ("uplink_path", .string config.storage.uplinkPath.text) ]),
      ("uplink", .object [("interval_secs", .ofNat config.uplink.intervalSecs)]),
      ("api", .object [("port", .ofNat config.api.port)]) ]

/-- Settings, the document they make, and what can be read off them. -/
def configJson (environment : Environment) (config : Config) : Json :=
  let document := config.print
  .object
    [ ("config", settingsJson config), ("toml", .string document),
      ("round_trip", .bool (environment.defaults.parse? document = some config)),
      ("address", resultJson addressText config.address),
      ("known_nodes", resultJson (list addressText) config.knownNodes),
      ("validate", resultJson (fun _ => .string "ok") config.validate) ]

end FloodMesh.Scenario
