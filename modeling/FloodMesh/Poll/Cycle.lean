/-
Polling every known node once, and doing so again and again.

A cycle takes the list of known nodes as it is when the cycle begins, leaves
out the controller itself and polls the others one at a time in list order.
The loop starts a cycle at each tick. Shutdown and ticks are minded between
cycles only. A tick that comes late by more than the slack moves the schedule;
otherwise the next tick is one period after the last was due.
-/

import FloodMesh.Poll

namespace FloodMesh

/-- Who answered, who did not, and who could not be asked, each in order. -/
structure PollReport where
  answered : List Address := []
  timedOut : List Address := []
  sendFailed : List Address := []
  deriving DecidableEq

namespace PollReport

def polled (report : PollReport) : Nat :=
  report.answered.length + report.timedOut.length + report.sendFailed.length

def add (report : PollReport) (address : Address) : Polled → PollReport
  | .answered _ => { report with answered := report.answered ++ [address] }
  | .timedOut => { report with timedOut := report.timedOut ++ [address] }
  | .sendFailed _ => { report with sendFailed := report.sendFailed ++ [address] }

end PollReport

structure PollCycle where
  /-- The size of the mesh as far as a request can tell it. -/
  meshSize : UInt8
  /-- Nodes to be polled after the current one. -/
  remaining : List Address
  current : Option Poll := none
  report : PollReport := {}
  deriving DecidableEq

namespace PollCycle

def announcedSize (known : List Address) : UInt8 := UInt8.ofNat (min known.length 255)

def start (own : Address) (known : List Address) : PollCycle :=
  { meshSize := announcedSize known
    remaining := known.filter fun address => address ≠ own }

inductive Turn
  | goesOn (cycle : PollCycle) (node : Node) (effects : List Effect)
  | ends (report : PollReport) (node : Node)
  | sleeps

def turn (poller : Poller) (moment : Poll.Moment) (node : Node) (cycle : PollCycle) : Turn :=
  match cycle.current with
  | some poll =>
      match poll.turn poller moment node with
      | .goesOn poll node effects => .goesOn { cycle with current := some poll } node effects
      | .ends result node effects =>
          .goesOn
            { cycle with current := none, report := cycle.report.add poll.dest result }
            node effects
      | .sleeps => .sleeps
  | none =>
      match cycle.remaining with
      | [] => .ends cycle.report node
      | dest :: remaining =>
          .goesOn
            { cycle with remaining, current := some { dest, meshSize := cycle.meshSize } }
            node []

def tell (cycle : PollCycle) : PollCycle :=
  { cycle with current := cycle.current.map Poll.tell }

/-- Whether a cycle has something to do before it waits for others. -/
def isBusy (cycle : PollCycle) : Bool := (cycle.current.map Poll.isBusy).getD true

def due? (cycle : PollCycle) : Option Nat := cycle.current.bind Poll.due?

end PollCycle

structure PollLoop where
  poller : Poller
  period : Nat
  due : Nat
  cycle : Option PollCycle := none
  stopping : Bool := false
  deriving DecidableEq

namespace PollLoop

/-- A tick may be this late without moving the schedule. -/
def slack : Nat := 5

def start (poller : Poller) (period clock : Nat) : PollLoop :=
  { poller, period, due := clock }

def nextDue (loop : PollLoop) (clock : Nat) : Nat :=
  if loop.due + slack < clock then clock + loop.period else loop.due + loop.period

inductive Turn
  | goesOn (loop : PollLoop) (node : Node) (effects : List Effect)
  | ends
  | sleeps

def turn (known : List Address) (moment : Poll.Moment) (node : Node) (loop : PollLoop) : Turn :=
  match loop.cycle with
  | some cycle =>
      match cycle.turn loop.poller moment node with
      | .goesOn cycle node effects => .goesOn { loop with cycle := some cycle } node effects
      | .ends _ node => .goesOn { loop with cycle := none } node []
      | .sleeps => .sleeps
  | none =>
      if loop.stopping then .ends
      else if loop.due ≤ moment.clock then
        .goesOn
          { loop with
            due := loop.nextDue moment.clock
            cycle := some (PollCycle.start node.address known) }
          node []
      else .sleeps

def tell (loop : PollLoop) : PollLoop := { loop with cycle := loop.cycle.map PollCycle.tell }

def isBusy (loop : PollLoop) : Bool := (loop.cycle.map PollCycle.isBusy).getD false

def due? (loop : PollLoop) : Option Nat :=
  match loop.cycle with
  | some cycle => cycle.due?
  | none => some loop.due

end PollLoop

end FloodMesh
