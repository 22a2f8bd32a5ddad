/-
A node of the mesh and what it does with a heard frame.

A frame passes five guards in this order: it is long enough for a packet, its
checksum holds, it reads as a packet, it has hops left, and its fingerprint is
not remembered. A packet that passes is remembered first. If it is addressed to
this node, the node's duty decides; otherwise it is sent on with one hop less.
A controller queues readings and reports faults, a sensor answers requests
with a read of its probe.

`process` is one pure step. It says what became of the frame, the node after
it, and the effects in the order in which the world sees them.

The counters of a tally have no bound here. A node keeps them in 64 bits, so what
is said of them holds of one that has heard fewer than 2^64 frames.
-/

import FloodMesh.Medium
import FloodMesh.Packet.Frame
import FloodMesh.Probe
import FloodMesh.Ring
import FloodMesh.StatusTable

namespace FloodMesh

inductive Duty
  | controller
  | sensor (probe : Probe)

/-- Why a frame was let go. -/
inductive DropReason
  | short
  | corrupt
  | malformed
  | expired
  | duplicate
  deriving DecidableEq

structure Tally where
  received : Nat := 0
  short : Nat := 0
  corrupt : Nat := 0
  malformed : Nat := 0
  expired : Nat := 0
  duplicate : Nat := 0
  delivered : Nat := 0
  forwarded : Nat := 0
  sendFailures : Nat := 0
  deriving DecidableEq

def Tally.drop (tally : Tally) : DropReason → Tally
  | .short => { tally with short := tally.short + 1 }
  | .corrupt => { tally with corrupt := tally.corrupt + 1 }
  | .malformed => { tally with malformed := tally.malformed + 1 }
  | .expired => { tally with expired := tally.expired + 1 }
  | .duplicate => { tally with duplicate := tally.duplicate + 1 }

def Tally.toJson (tally : Tally) : Json :=
  .object
    [ ("received", .ofNat tally.received), ("short", .ofNat tally.short),
      ("corrupt", .ofNat tally.corrupt), ("malformed", .ofNat tally.malformed),
      ("expired", .ofNat tally.expired), ("duplicate", .ofNat tally.duplicate),
      ("delivered", .ofNat tally.delivered), ("forwarded", .ofNat tally.forwarded),
      ("send_failures", .ofNat tally.sendFailures) ]

/-- What a node's duty made of a packet addressed to it. -/
inductive Handled
  | queued (src : Address) (id : Nat)
  | faultReported (src : Address) (code : UInt8)
  | replied (dest : Address) (kind : Kind) (fingerprint : Fingerprint)
  | ignored (kind : Kind)
  deriving DecidableEq

structure ReplyFailure where
  dest : Address
  fingerprint : Fingerprint
  fault : RadioFault
  deriving DecidableEq

def ReplyFailure.message (failure : ReplyFailure) : String :=
  "reply to " ++ failure.dest.text ++ " failed: " ++ failure.fault.message

/-- What became of a heard frame. -/
inductive Outcome
  | dropped (reason : DropReason)
  | delivered (handled : Handled)
  | forwarded (kind : Kind) (hops : UInt8)
  | forwardFailed (kind : Kind) (fault : RadioFault)
  | replyFailed (failure : ReplyFailure)
  deriving DecidableEq

def forwardFailureMessage (kind : Kind) (fault : RadioFault) : String :=
  "retransmit of " ++ kind.name ++ " failed: " ++ fault.message

/-- What the world sees of a node's work. -/
inductive Effect
  /-- The changed duplicate memory was handed to its store. -/
  | saved (snapshot : Snapshot)
  /-- The radio took a frame. -/
  | sent (frame : Bytes)
  | queued (entry : Entry)
  | notified (address : Address) (notice : Notice)
  | probed (answer : ProbeAnswer)
  | delivered (batch : List Entry)

structure Node where
  address : Address
  duty : Duty
  ring : Ring
  /-- Fingerprints of packets that this node's other tasks have sent and that
  are not yet remembered. -/
  announced : List Fingerprint := []
  tally : Tally := {}
  /-- The number of the next packet that this node originates. -/
  sequence : UInt8 := 0
  queue : Queue
  status : StatusTable := {}

/-- What a node finds around it while it handles a frame. -/
structure Surroundings where
  /-- The driver's answer if a frame is sent. -/
  verdict : Verdict
  /-- Seconds since the epoch. -/
  now : Nat

structure Handling where
  result : Except ReplyFailure Handled
  node : Node
  effects : List Effect

structure Reaction where
  outcome : Outcome
  node : Node
  effects : List Effect

namespace Node

/-- Remembers a fingerprint and saves the memory if that changed it. -/
def remember (node : Node) (fingerprint : Fingerprint) : Node × List Effect :=
  match node.ring.insert? fingerprint with
  | some ring => ({ node with ring }, [.saved ring.snapshot])
  | none => (node, [])

def rememberAll (node : Node) : List Fingerprint → Node × List Effect
  | [] => (node, [])
  | fingerprint :: rest =>
      let (remembered, effects) := node.remember fingerprint
      let (final, more) := remembered.rememberAll rest
      (final, effects ++ more)

def absorb (node : Node) : Node × List Effect :=
  rememberAll { node with announced := [] } node.announced

def setKnownCount (node : Node) (count : Nat) : Node × List Effect :=
  match node.ring.resize? (Ring.capacityFor count) with
  | some ring => ({ node with ring }, [.saved ring.snapshot])
  | none => (node, [])

/-- The five guards. -/
def examine (ring : Ring) (frame : Bytes) : Except DropReason Packet :=
  if frame.length < shortestFrame then .error .short
  else if ¬Checksum.isSealed frame then .error .corrupt
  else
    match Packet.decode frame with
    | .error _ => .error .malformed
    | .ok packet =>
        if packet.hops = 0 then .error .expired
        else if ring.contains packet.fingerprint then .error .duplicate
        else .ok packet

/-- The answer of a sensor to a request; it may take as many hops as the
request had left. -/
def reply (node : Node) (request : Packet) (answer : ProbeAnswer) : Packet :=
  { dest := request.src
    src := node.address
    content := answer.content
    hops := request.hops
    fingerprint := Fingerprint.generate node.address node.sequence }

/-- Answers a request. The number is used up only if the reply went out. -/
def answer (node : Node) (surroundings : Surroundings) (probe : Probe) (request : Packet) :
    Handling :=
  let (answer, probe) := probe.read
  let reply := node.reply request answer
  let node := { node with duty := .sensor probe }
  match surroundings.verdict.vet reply.frame with
  | some fault =>
      { result := .error { dest := request.src, fingerprint := reply.fingerprint, fault }
        node
        effects := [.probed answer] }
  | none =>
      { result := .ok (.replied request.src reply.kind reply.fingerprint)
        node := { node with sequence := node.sequence + 1 }
        effects := [.probed answer, .sent reply.frame] }

def dispatch (node : Node) (surroundings : Surroundings) (packet : Packet) : Handling :=
  match node.duty with
  | .controller =>
      match packet.content with
      | .reading data =>
          let (entry, queue) := node.queue.push packet.dest packet.src data surroundings.now
          { result := .ok (.queued packet.src entry.id)
            node := { node with queue }
            effects := [.queued entry] }
      | .fault code =>
          let notice := Notice.faultReported code
          { result := .ok (.faultReported packet.src code)
            node := { node with status := node.status.note packet.src notice }
            effects := [.notified packet.src notice] }
      | .request _ => { result := .ok (.ignored .request), node, effects := [] }
  | .sensor probe =>
      match packet.content with
      | .request _ => node.answer surroundings probe packet
      | _ => { result := .ok (.ignored packet.kind), node, effects := [] }

/-- Handles a packet for this node and remembers the reply it caused. -/
def deliver (node : Node) (surroundings : Surroundings) (packet : Packet) : Reaction :=
  let counted :=
    { node with tally := { node.tally with delivered := node.tally.delivered + 1 } }
  let handling := counted.dispatch surroundings packet
  match handling.result with
  | .error failure =>
      let failed := handling.node
      { outcome := .replyFailed failure
        node :=
          { failed with
            tally := { failed.tally with sendFailures := failed.tally.sendFailures + 1 } }
        effects := handling.effects }
  | .ok (.replied dest kind fingerprint) =>
      let (node, saves) := handling.node.remember fingerprint
      { outcome := .delivered (.replied dest kind fingerprint)
        node
        effects := handling.effects ++ saves }
  | .ok handled =>
      { outcome := .delivered handled, node := handling.node, effects := handling.effects }

/-- The frame of a packet, made in a buffer that has room for any. -/
def framed (packet : Packet) : Except FrameError Bytes :=
  (packet.writeTo (List.replicate longestFrame 0)).map fun written =>
    written.2.take written.1

/-- Sends a packet on with one hop less. A packet that makes no frame never comes to the
radio and is not counted. -/
def forward (node : Node) (surroundings : Surroundings) (packet : Packet) : Reaction :=
  let hops := packet.hops - 1
  match framed { packet with hops } with
  | .error error =>
      { outcome := .forwardFailed packet.kind (.driver error.message), node, effects := [] }
  | .ok frame =>
      match surroundings.verdict.vet frame with
      | some fault =>
          { outcome := .forwardFailed packet.kind fault
            node :=
              { node with
                tally := { node.tally with sendFailures := node.tally.sendFailures + 1 } }
            effects := [] }
      | none =>
          { outcome := .forwarded packet.kind hops
            node :=
              { node with tally := { node.tally with forwarded := node.tally.forwarded + 1 } }
            effects := [.sent frame] }

/-- Acts on an admitted packet: remembers it, then delivers it or sends it on. -/
def act (node : Node) (surroundings : Surroundings) (packet : Packet) : Reaction :=
  let (remembered, saves) := node.remember packet.fingerprint
  let reaction :=
    if packet.dest = node.address then remembered.deliver surroundings packet
    else remembered.forward surroundings packet
  { reaction with effects := saves ++ reaction.effects }

def process (node : Node) (surroundings : Surroundings) (frame : Bytes) : Reaction :=
  let (absorbed, saves) := node.absorb
  let counted :=
    { absorbed with tally := { absorbed.tally with received := absorbed.tally.received + 1 } }
  match examine counted.ring frame with
  | .error reason =>
      { outcome := .dropped reason
        node := { counted with tally := counted.tally.drop reason }
        effects := saves }
  | .ok packet =>
      let reaction := counted.act surroundings packet
      { reaction with effects := saves ++ reaction.effects }

/-- Another task tells that it has sent a packet with this fingerprint. -/
def announce (node : Node) (fingerprint : Fingerprint) : Node :=
  { node with announced := node.announced ++ [fingerprint] }

/-- Starts over with what other tasks tell: what was announced and not yet
remembered is lost. -/
def forgetAnnounced (node : Node) : Node := { node with announced := [] }

end Node

end FloodMesh
