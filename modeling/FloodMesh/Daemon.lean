/-
A node as it runs on a host.

Its settings come from the environment and a file; its memory comes from a
file and goes back there at every change; a controller hands its readings on
to another file. The tasks of the node run in a field of their own, and the air
around it is what it is given to hear. Asking for a reload takes over the list
of known nodes and nothing else.
-/

import FloodMesh.Config.File
import FloodMesh.Field
import FloodMesh.Interface
import FloodMesh.Probe.Simulated
import FloodMesh.Channel
import FloodMesh.Snapshot.File
import FloodMesh.StatusView
import FloodMesh.Uplink

namespace FloodMesh

structure Daemon where
  environment : Environment
  role : Role
  storage : StorageSettings
  /-- The node is the only one, at position zero. -/
  field : Field
  tree : FileTree
  /-- Frames put on the air and not yet told, in order. -/
  sent : List Bytes := []

namespace Daemon

inductive StartFailure
  | invalidSettings (cause : ConfigError)
  | noRadio (cause : InterfaceError)

def StartFailure.causes : StartFailure → List String
  | .invalidSettings cause => ["invalid configuration", cause.message]
  | .noRadio cause => "failed to open radio" :: cause.causes

/-- The settings a node starts with. The defaults are written first if there is
no file; if the file is of no use, the bare defaults hold. -/
def settings (environment : Environment) (tree : FileTree) : Config × FileTree :=
  let (_, written) := environment.writeDefaults tree
  match environment.load written with
  | .ok config => (config, written)
  | .error _ => (environment.defaults, written)

def millis (seconds : Nat) : Nat := 1000 * seconds

def period (seconds : Nat) : Nat := millis (max seconds 1)

/-- The relay runs at every node, polling and handing on at a controller. -/
def tasks (config : Config) : Tasks :=
  let relay : RelayLoop := { seen := some 0 }
  match config.node.role with
  | .sensor => { relay := some relay }
  | .controller =>
      let poller : Poller :=
        { hops := UInt8.ofNat config.mesh.ttl
          timeout := millis config.mesh.responseTimeoutSecs }
      { relay := some relay
        jobs := [.loop (PollLoop.start poller (period config.mesh.pollIntervalSecs) 0)]
        forwarder := some (Forwarder.start (period config.uplink.intervalSecs) 0) }

def duty (seed : UInt64) : Role → Duty
  | .controller => .controller
  | .sensor => .sensor (Probe.Simulated.probe seed Probe.Simulated.usualFaults)

def restored (path : Path) (known : List Address) (tree : FileTree) : Ring :=
  (Cache.restore (Store.file path) (Ring.capacityFor known.length) tree).ring

def assemble (seed : UInt64) (environment : Environment) (tree : FileTree) (config : Config)
    (address : Address) (known : List Address) : Daemon :=
  let node : Node :=
    { address
      duty := duty seed config.node.role
      ring := restored config.storage.dedupPath known tree
      queue := Queue.new config.mesh.responseQueueCapacity
      status := StatusTable.track {} known }
  let field := Field.join { known := { value := known } } node (tasks config)
  let inbox : Inbox := { limits := some Receiver.limits }
  { environment
    role := config.node.role
    storage := config.storage
    field := field.changeMedium fun medium =>
      medium.change 0 fun station => { station with inbox }
    tree }

/-- What keeps a node with these settings from starting, if anything does. -/
def check (present : List String) (config : Config) :
    Except StartFailure (Address × List Address) := do
  let _ ← config.validate.mapError .invalidSettings
  let address ← config.address.mapError .invalidSettings
  let known ← config.knownNodes.mapError .invalidSettings
  let _ ← (Interface.find present config.radio.interface).mapError .noRadio
  pure (address, known)

/-- Starts a node on a host with these interfaces. Its files may have changed
even if it does not start. -/
def start (seed : UInt64) (present : List String) (environment : Environment)
    (tree : FileTree) : Except StartFailure Daemon × FileTree :=
  let (config, written) := settings environment tree
  match check present config with
  | .error failure => (.error failure, written)
  | .ok (address, known) =>
      (.ok (assemble seed environment written config address known), written)

/-- What the files hold after something the node did. A file that cannot be
written stays as it is. -/
def keep (storage : StorageSettings) (tree : FileTree) : Effect → FileTree
  | .saved snapshot => ((Store.file storage.dedupPath).save snapshot tree).2
  | .delivered batch => (Uplink.deliver storage.uplinkPath batch tree).2
  | _ => tree

def frameOf? : Effect → Option Bytes
  | .sent frame => some frame
  | _ => none

/-- What the node did goes to its files and onto the air. -/
def settleLog (daemon : Daemon) : Daemon :=
  let (log, field) := daemon.field.takeLog
  let effects := log.map (·.2)
  { daemon with
    field
    tree := effects.foldl (keep daemon.storage) daemon.tree
    sent := daemon.sent ++ effects.filterMap frameOf? }

/-- Lets the tasks run as far as they can without waiting. -/
def settle (daemon : Daemon) : Daemon :=
  { daemon with field := Timeline.settle daemon.field }.settleLog

def pass (daemon : Daemon) (span : Nat) : Daemon :=
  { daemon with field := Timeline.pass span daemon.field }.settle

/-- Lets time pass until so many frames have been sent that are not yet told. -/
def awaitSent (daemon : Daemon) (count : Nat) : Daemon :=
  let enough := fun (field : Field) =>
    decide (count ≤ daemon.sent.length + (field.log.filterMap fun item => frameOf? item.2).length)
  { daemon with field := Timeline.complete enough daemon.field }.settleLog.settle

def hear (daemon : Daemon) (frame : Bytes) : Daemon :=
  { daemon with field := daemon.field.changeMedium fun medium => medium.inject 0 frame }

/-- Takes over the known nodes from the settings as they are now. -/
def reload (daemon : Daemon) : Except ConfigError Daemon := do
  let config ← daemon.environment.load daemon.tree
  let known ← config.knownNodes
  let tracking := daemon.field.changeNode 0 fun node =>
    { node with status := node.status.track known }
  pure { daemon with field := tracking.publish known }

/-- How long a node that is told to stop waits for its tasks. -/
def grace : Nat := 5000

def stop (daemon : Daemon) : Daemon :=
  let stopped := Timeline.await Field.allEnded grace daemon.field.signalStop
  { daemon with field := { stopped with tasks := [{}] } }.settleLog

/-- The frames sent since they were last told, and a node that has told them. -/
def takeSent (daemon : Daemon) : List Bytes × Daemon :=
  (daemon.sent, { daemon with sent := [] })

def view? (daemon : Daemon) : Option StatusView :=
  (daemon.field.mesh.nodes[0]?).map fun node =>
    node.statusView daemon.role daemon.field.known.value (daemon.field.now / 1000)

end Daemon

end FloodMesh
