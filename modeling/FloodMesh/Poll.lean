/-
Polling one node: a request is sent, counted, and answered in time or not.

A request that is not sent is noticed and the poll ends at once. Otherwise the
poll waits for a reading from the node to be queued; any matching entry
satisfies it, also one that was there before.
-/

import FloodMesh.Poll.Request
import FloodMesh.Waiter

namespace FloodMesh

structure Poller where
  hops : UInt8
  /-- Milliseconds to wait for an answer. -/
  timeout : Nat
  /-- Whether requests are announced to the node's relay. -/
  announces : Bool := true
  /-- Whether polls and replies are counted in the status table. -/
  records : Bool := true
  deriving DecidableEq

inductive Polled
  | answered (entry : Entry)
  | timedOut
  | sendFailed (fault : RadioFault)
  deriving DecidableEq

inductive Poll.Stage
  | sending (sending : Sending)
  | sent
  | waiting (waiter : Waiter)
  deriving DecidableEq

structure Poll where
  dest : Address
  meshSize : UInt8
  stage : Poll.Stage := .sending .starting
  deriving DecidableEq

namespace Poll

/-- The present: the radio's verdict and the clock in milliseconds. -/
structure Moment where
  verdict : Verdict
  clock : Nat

inductive Turn
  | goesOn (poll : Poll) (node : Node) (effects : List Effect)
  | ends (result : Polled) (node : Node) (effects : List Effect)
  | sleeps

def errand (poller : Poller) (poll : Poll) : Errand :=
  { dest := poll.dest
    meshSize := poll.meshSize
    hops := poller.hops
    announces := poller.announces }

def notify (node : Node) (address : Address) (notice : Notice) : Node × List Effect :=
  ({ node with status := node.status.note address notice }, [.notified address notice])

def turn (poller : Poller) (moment : Moment) (node : Node) (poll : Poll) : Turn :=
  match poll.stage with
  | .sending sending =>
      match sending.turn (errand poller poll) moment.verdict node with
      | .goesOn next node effects =>
          .goesOn { poll with stage := .sending next } node effects
      | .ends (.error fault) node =>
          let (node, effects) := notify node poll.dest .sendFailed
          .ends (.sendFailed fault) node effects
      | .ends (.ok _) node => .goesOn { poll with stage := .sent } node []
  | .sent =>
      let status :=
        if poller.records then node.status.recordPoll poll.dest else node.status
      let waiter : Waiter :=
        { dest := node.address, src := poll.dest, deadline := moment.clock + poller.timeout }
      .goesOn { poll with stage := .waiting waiter } { node with status } []
  | .waiting waiter =>
      match waiter.turn node.queue moment.clock with
      | .goesOn later => .goesOn { poll with stage := .waiting later } node []
      | .found entry =>
          let status :=
            if poller.records then node.status.recordReply entry else node.status
          .ends (.answered entry) { node with status } []
      | .expired =>
          let (node, effects) := notify node poll.dest .noResponse
          .ends .timedOut node effects
      | .sleeps => .sleeps

def tell (poll : Poll) : Poll :=
  match poll.stage with
  | .waiting waiter => { poll with stage := .waiting waiter.tell }
  | _ => poll

/-- Whether a poll has something to do before it waits for others. -/
def isBusy (poll : Poll) : Bool :=
  match poll.stage with
  | .waiting waiter => waiter.phase ≠ .asleep
  | _ => true

def due? (poll : Poll) : Option Nat :=
  match poll.stage with
  | .waiting waiter => some waiter.deadline
  | _ => none

end Poll

end FloodMesh
