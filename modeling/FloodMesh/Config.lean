/-
The settings of a node.

Addresses are settings as text, since a file may name any; `validate` says
whether they are addresses and a request may travel at all.
-/

import FloodMesh.File.Tree
import FloodMesh.Packet
import FloodMesh.Text.Quoted

namespace FloodMesh

/-- What a node is for, chosen once at its start. -/
inductive Role
  | controller
  | sensor
  deriving DecidableEq

def Role.name : Role → String
  | .controller => "controller"
  | .sensor => "sensor"

def Role.ofName? (name : String) : Option Role :=
  if name = "controller" then some .controller
  else if name = "sensor" then some .sensor
  else none

structure NodeSettings where
  address : String := "sn0001"
  role : Role := .sensor
  deriving DecidableEq

structure MeshSettings where
  /-- A controller polls these; every node sizes its memory by their number. -/
  knownNodes : List String := []
  /-- Hop budget of a request. -/
  ttl : Nat := 3
  responseTimeoutSecs : Nat := 120
  pollIntervalSecs : Nat := 300
  /-- Readings held for the collector at most. -/
  responseQueueCapacity : Nat := 64
  deriving DecidableEq

structure RadioSettings where
  interface : String := "lo"
  port : Nat := 9700
  deriving DecidableEq

structure StorageSettings where
  dedupPath : Path
  uplinkPath : Path
  deriving DecidableEq

structure UplinkSettings where
  intervalSecs : Nat := 30
  deriving DecidableEq

structure StatusSettings where
  /-- Zero for no status server. -/
  port : Nat := 9780
  deriving DecidableEq

structure Config where
  node : NodeSettings := {}
  mesh : MeshSettings := {}
  radio : RadioSettings := {}
  storage : StorageSettings
  uplink : UplinkSettings := {}
  api : StatusSettings := {}
  deriving DecidableEq

inductive ReadFault
  | file (cause : FileError)
  | notText

def ReadFault.message : ReadFault → String
  | .file cause => cause.message
  | .notText => "stream did not contain valid UTF-8"

inductive ConfigError
  | unreadable (path : Path) (cause : ReadFault)
  | unparsable (path : Path)
  | unwritable (path : Path) (cause : FileError)
  | invalidAddress (field value : String)
  | zeroTtl

def ConfigError.message : ConfigError → String
  | .unreadable path cause => "failed to read " ++ path.text ++ ": " ++ cause.message
  | .unparsable path => "failed to parse " ++ path.text
  | .unwritable path cause => "failed to write " ++ path.text ++ ": " ++ cause.message
  | .invalidAddress field value =>
      "invalid " ++ field ++ ": " ++ Quoted.quote value ++ " is not a 6-character ASCII address"
  | .zeroTtl => "mesh.ttl must be at least 1"

namespace Config

def addressIn (field value : String) : Except ConfigError Address :=
  match Address.ofString value with
  | .ok address => .ok address
  | .error _ => .error (.invalidAddress field value)

def address (config : Config) : Except ConfigError Address :=
  addressIn "node.address" config.node.address

def knownNodes (config : Config) : Except ConfigError (List Address) :=
  config.mesh.knownNodes.mapM (addressIn "mesh.known_nodes")

def validate (config : Config) : Except ConfigError Unit := do
  let _ ← config.address
  let _ ← config.knownNodes
  if config.mesh.ttl = 0 then .error .zeroTtl else .ok ()

end Config

end FloodMesh
