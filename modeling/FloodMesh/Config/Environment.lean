/-
The variables a node is started with.

They say where settings and data are kept, and some of them override single
settings. An override that cannot be read is passed over.
-/

import FloodMesh.Config
import FloodMesh.Config.Document
import FloodMesh.Text.Pieces

namespace FloodMesh

structure Environment where
  bindings : List (String × String) := []

namespace Environment

def get? (environment : Environment) (name : String) : Option String :=
  environment.bindings.lookup name

def path? (environment : Environment) (name : String) : Option Path :=
  (environment.get? name).map Path.mk

def home (environment : Environment) : Path := (environment.path? "HOME").getD ⟨"/tmp"⟩

def configDirectory (environment : Environment) : Path :=
  ((environment.path? "XDG_CONFIG_HOME").getD (environment.home.join ⟨".config"⟩)).join
    ⟨"agromesh"⟩

def dataDirectory (environment : Environment) : Path :=
  ((environment.path? "XDG_DATA_HOME").getD
      ((environment.home.join ⟨".local"⟩).join ⟨"share"⟩)).join
    ⟨"agromesh"⟩

def configPath (environment : Environment) : Path :=
  (environment.path? "AGROMESH_CONFIG").getD (environment.configDirectory.join ⟨"config.toml"⟩)

def defaults (environment : Environment) : Config :=
  { storage :=
      { dedupPath := environment.dataDirectory.join ⟨"dedup.json"⟩
        uplinkPath := environment.dataDirectory.join ⟨"uplink.jsonl"⟩ } }

/-- Items between commas without blanks around them; empty ones do not count. -/
def listed (text : String) : List String :=
  (((Pieces.split ',' text.toList).map Blank.trim).filter (· ≠ [])).map String.ofList

def numberOr (environment : Environment) (name : String) (bound default : Nat) : Nat :=
  ((environment.get? name).bind fun text => Numeral.below? bound text.toList).getD default

def override (environment : Environment) (config : Config) : Config :=
  let role := (environment.get? "AGROMESH_NODE__ROLE").bind Role.ofName?
  let knownNodes := (environment.get? "AGROMESH_MESH__KNOWN_NODES").map listed
  { config with
    node :=
      { address := (environment.get? "AGROMESH_NODE__ADDRESS").getD config.node.address
        role := role.getD config.node.role }
    mesh :=
      { config.mesh with
        knownNodes := knownNodes.getD config.mesh.knownNodes
        ttl := environment.numberOr "AGROMESH_MESH__TTL" byteBound config.mesh.ttl }
    radio :=
      { config.radio with
        interface :=
          (environment.get? "AGROMESH_RADIO__INTERFACE").getD config.radio.interface }
    api := { port := environment.numberOr "AGROMESH_API__PORT" portBound config.api.port } }

end Environment

end FloodMesh
