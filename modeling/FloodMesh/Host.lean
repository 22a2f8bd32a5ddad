/-
A running node with its files, moment by moment.

Frames come, the relay and the poller take their turns, files change, and the
known nodes are reloaded, all in any order. An attempt to reload reads the
settings as the files have them at that moment. If they give a list, the status
table follows it first, and then it is published as a whole; if they do not, the
attempt is over.
-/

import FloodMesh.Daemon

namespace FloodMesh

def Environment.listing (environment : Environment) (tree : FileTree) :
    Except ConfigError (List Address) := do
  let config ← environment.load tree
  config.knownNodes

inductive Reload
  | idle
  /-- The settings were read. -/
  | listed (addresses : List Address)
  /-- The status table follows them, and they are yet to be published. -/
  | tracked (addresses : List Address)
  deriving DecidableEq

structure Host where
  environment : Environment
  tree : FileTree
  /-- The list as the relay and the poller see it. -/
  known : Watch (List Address)
  place : RelayLoop.Place
  relayEnded : Bool := false
  /-- None at a sensor, and once the poller has returned. -/
  poller : Option PollLoop := none
  reload : Reload := .idle

namespace Host

inductive Move
  /-- The two moments of an arrival. -/
  | stores (frame : Bytes)
  | rings
  /-- The relay minds one of the things that are due. -/
  | runs (branch : RelayLoop.Branch) (now : Nat)
  | tunes (verdict : Verdict)
  | polls (moment : Poll.Moment)
  | tells
  | flushes
  | edits (tree : FileTree)
  /-- The three moments of a reload; the first one is all of it if it fails. -/
  | attempts
  | tracks
  | publishes
  /-- No reload will come any more. -/
  | abandons
  | signals

/-- A node as it starts, with the memory that its files hold. -/
def opened (environment : Environment) (tree : FileTree) (memory : Path) (fresh : Node)
    (station : Station) (known : List Address) (poller : Option PollLoop) : Host where
  environment
  tree
  known := { value := known }
  place :=
    { loop := { seen := some 0 }
      node :=
        { fresh with
          ring := Daemon.restored memory known tree
          status := StatusTable.track {} known }
      station }
  poller

def atStation (host : Host) (edit : Station → Station) : Host :=
  { host with place := { host.place with station := edit host.place.station } }

def atNode (host : Host) (node : Node) : Host :=
  { host with place := { host.place with node } }

def step? (host : Host) : Move → Option Host
  | .stores frame => some (host.atStation fun station => station.store frame)
  | .rings => some (host.atStation Station.ring)
  | .runs branch now =>
      if host.relayEnded then none
      else
        match branch.turn host.known now host.place with
        | .goesOn place _ => some { host with place }
        | .ends place => some { host with place, relayEnded := true }
        | .sleeps => none
  | .tunes verdict => some (host.atStation fun station => { station with verdict })
  | .polls moment =>
      host.poller.bind fun loop =>
        match loop.turn host.known.value moment host.place.node with
        | .goesOn loop node _ => some { host.atNode node with poller := some loop }
        | .ends => some { host with poller := none }
        | .sleeps => none
  | .tells => some { host with poller := host.poller.map PollLoop.tell }
  | .flushes =>
      let node := host.place.node
      some (host.atNode { node with queue := node.queue.flush.2 })
  | .edits tree => some { host with tree }
  | .attempts =>
      match host.reload with
      | .idle =>
          match host.environment.listing host.tree with
          | .ok addresses => some { host with reload := .listed addresses }
          | .error _ => some host
      | _ => none
  | .tracks =>
      match host.reload with
      | .listed addresses =>
          let node := host.place.node
          some
            { host.atNode { node with status := node.status.track addresses } with
              reload := .tracked addresses }
      | _ => none
  | .publishes =>
      match host.reload with
      | .tracked addresses =>
          some { host with known := host.known.publish addresses, reload := .idle }
      | _ => none
  | .abandons =>
      match host.reload with
      | .idle => some { host with known := host.known.close }
      | _ => none
  | .signals =>
      some
        { host with
          place := { host.place with loop := { host.place.loop with stopping := true } }
          poller := host.poller.map fun loop => { loop with stopping := true } }

def follow? (host : Host) : List Move → Option Host
  | [] => some host
  | move :: rest => (host.step? move).bind fun later => later.follow? rest

/-- Whether there is a change of the list that the relay has not minded. -/
def hasUnseen (host : Host) : Bool := host.place.loop.seen.any host.known.changedSince

def ring (host : Host) : Ring := host.place.node.ring

end Host

end FloodMesh
