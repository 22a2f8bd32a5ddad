/-
Settings as a TOML document.

In a document each group of settings is a table, or a list of them in their
order. What is not given keeps its default, what is not known is passed over,
and what has another type or is out of range makes the document unfit. A moment
in place of a group gives no setting at all.
-/

import FloodMesh.Config
import FloodMesh.Toml.Printer
import FloodMesh.Toml.Reader

namespace FloodMesh

namespace Toml

def isGroup : Toml → Bool
  | .table _ => true
  | .array _ => true
  | .moment => true
  | _ => false

/-- A setting by its name, or by its position in a list. -/
def find? (group : Toml) (position : Nat) (name : String) : Option Toml :=
  match group with
  | .table members => members.lookup name
  | .array items => items[position]?
  | _ => none

def settingOr {α : Type} (group : Toml) (position : Nat) (name : String) (default : α)
    (read : Toml → Option α) : Option α :=
  match group.find? position name with
  | none => some default
  | some value => read value

/-- A role by its name, or as a table with an empty value under that name. -/
def role? : Toml → Option Role
  | .string name => Role.ofName? name
  | .table [(name, value)] => if value.isEmpty then Role.ofName? name else none
  | _ => none

def path? (value : Toml) : Option Path := value.text?.map Path.mk

end Toml

def byteBound : Nat := Nat.pow 2 8
def portBound : Nat := Nat.pow 2 16
def countBound : Nat := Nat.pow 2 64

def NodeSettings.ofToml? (default : NodeSettings) (group : Toml) : Option NodeSettings := do
  guard group.isGroup
  let address ← group.settingOr 0 "address" default.address Toml.text?
  let role ← group.settingOr 1 "role" default.role Toml.role?
  pure { address, role }

def MeshSettings.ofToml? (default : MeshSettings) (group : Toml) : Option MeshSettings := do
  guard group.isGroup
  let knownNodes ← group.settingOr 0 "known_nodes" default.knownNodes Toml.texts?
  let ttl ← group.settingOr 1 "ttl" default.ttl (Toml.below? byteBound)
  let responseTimeoutSecs ← group.settingOr 2 "response_timeout_secs"
    default.responseTimeoutSecs (Toml.below? countBound)
  let pollIntervalSecs ← group.settingOr 3 "poll_interval_secs"
    default.pollIntervalSecs (Toml.below? countBound)
  let responseQueueCapacity ← group.settingOr 4 "response_queue_capacity"
    default.responseQueueCapacity (Toml.below? countBound)
  pure { knownNodes, ttl, responseTimeoutSecs, pollIntervalSecs, responseQueueCapacity }

def RadioSettings.ofToml? (default : RadioSettings) (group : Toml) : Option RadioSettings := do
  guard group.isGroup
  let interface ← group.settingOr 0 "interface" default.interface Toml.text?
  let port ← group.settingOr 1 "port" default.port (Toml.below? portBound)
  pure { interface, port }

def StorageSettings.ofToml? (default : StorageSettings) (group : Toml) :
    Option StorageSettings := do
  guard group.isGroup
  let dedupPath ← group.settingOr 0 "dedup_path" default.dedupPath Toml.path?
  let uplinkPath ← group.settingOr 1 "uplink_path" default.uplinkPath Toml.path?
  pure { dedupPath, uplinkPath }

def UplinkSettings.ofToml? (default : UplinkSettings) (group : Toml) :
    Option UplinkSettings := do
  guard group.isGroup
  let intervalSecs ← group.settingOr 0 "interval_secs" default.intervalSecs
    (Toml.below? countBound)
  pure { intervalSecs }

def StatusSettings.ofToml? (default : StatusSettings) (group : Toml) :
    Option StatusSettings := do
  guard group.isGroup
  let port ← group.settingOr 0 "port" default.port (Toml.below? portBound)
  pure { port }

namespace Config

def ofToml? (default : Config) (document : Toml) : Option Config := do
  let node ← document.settingOr 0 "node" default.node default.node.ofToml?
  let mesh ← document.settingOr 1 "mesh" default.mesh default.mesh.ofToml?
  let radio ← document.settingOr 2 "radio" default.radio default.radio.ofToml?
  let storage ← document.settingOr 3 "storage" default.storage default.storage.ofToml?
  let uplink ← document.settingOr 4 "uplink" default.uplink default.uplink.ofToml?
  let api ← document.settingOr 5 "api" default.api default.api.ofToml?
  pure { node, mesh, radio, storage, uplink, api }

/-- Reads a document over the settings that hold where it says nothing. -/
def parse? (default : Config) (text : String) : Option Config :=
  (Toml.read? text.toList).bind default.ofToml?

def sections (config : Config) : List Toml.Section :=
  [ { name := "node"
      settings :=
        [("address", .text config.node.address), ("role", .text config.node.role.name)] },
    { name := "mesh"
      settings :=
        [ ("known_nodes", .texts config.mesh.knownNodes), ("ttl", .integer config.mesh.ttl),
          ("response_timeout_secs", .integer config.mesh.responseTimeoutSecs),
          ("poll_interval_secs", .integer config.mesh.pollIntervalSecs),
          ("response_queue_capacity", .integer config.mesh.responseQueueCapacity) ] },
    { name := "radio"
      settings :=
        [("interface", .text config.radio.interface), ("port", .integer config.radio.port)] },
    { name := "storage"
      settings :=
        [ ("dedup_path", .text config.storage.dedupPath.text),
          ("uplink_path", .text config.storage.uplinkPath.text) ] },
    { name := "uplink", settings := [("interval_secs", .integer config.uplink.intervalSecs)] },
    { name := "api", settings := [("port", .integer config.api.port)] } ]

def print (config : Config) : String := String.ofList (Toml.printSections config.sections)

end Config

end FloodMesh
