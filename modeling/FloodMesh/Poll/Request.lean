/-
Sending one request, step by step.

The sender reads its number, hands the frame to the radio, advances the number
and announces the fingerprint to its relay. Each step is a moment of its own:
other tasks of the node may run in between. A frame that the radio refuses ends
the attempt with the number and the announcements as they were.
-/

import FloodMesh.Node

namespace FloodMesh

structure Errand where
  dest : Address
  meshSize : UInt8
  hops : UInt8
  /-- Whether the fingerprint is announced to the node's relay. -/
  announces : Bool := true
  deriving DecidableEq

inductive Sending
  | starting
  | composed (request : Packet)
  | accepted (request : Packet)
  /-- The number is used up. -/
  | numbered (request : Packet)
  deriving DecidableEq

namespace Sending

inductive Turn
  | goesOn (sending : Sending) (node : Node) (effects : List Effect)
  | ends (result : Except RadioFault Fingerprint) (node : Node)

def compose (errand : Errand) (node : Node) : Packet :=
  { dest := errand.dest
    src := node.address
    content := .request errand.meshSize
    hops := errand.hops
    fingerprint := Fingerprint.generate node.address node.sequence }

def turn (errand : Errand) (verdict : Verdict) (node : Node) : Sending → Turn
  | .starting => .goesOn (.composed (compose errand node)) node []
  | .composed request =>
      match verdict.vet request.frame with
      | some fault => .ends (.error fault) node
      | none => .goesOn (.accepted request) node [.sent request.frame]
  | .accepted request =>
      .goesOn (.numbered request) { node with sequence := node.sequence + 1 } []
  | .numbered request =>
      .ends (.ok request.fingerprint)
        (if errand.announces then node.announce request.fingerprint else node)

def turnsLeft : Sending → Nat
  | .starting => 4
  | .composed _ => 3
  | .accepted _ => 2
  | .numbered _ => 1

theorem turnsLeft_lt {errand : Errand} {verdict : Verdict} {node later : Node}
    {sending next : Sending} {effects : List Effect}
    (went : sending.turn errand verdict node = .goesOn next later effects) :
    next.turnsLeft < sending.turnsLeft := by
  cases sending with
  | starting =>
      cases went
      simp [turnsLeft]
  | composed request =>
      simp only [turn] at went
      split at went
      · cases went
      · cases went
        simp [turnsLeft]
  | accepted request =>
      cases went
      simp [turnsLeft]
  | numbered request => cases went

/-- All turns in a row, with no other task in between. -/
def run (errand : Errand) (verdict : Verdict) (node : Node) (sending : Sending) :
    Except RadioFault Fingerprint × Node × List Effect :=
  match _went : sending.turn errand verdict node with
  | .ends result node => (result, node, [])
  | .goesOn next later effects =>
      let (result, final, more) := run errand verdict later next
      (result, final, effects ++ more)
  termination_by sending.turnsLeft
  decreasing_by exact turnsLeft_lt (by assumption)

end Sending

def Node.request (node : Node) (errand : Errand) (verdict : Verdict) :
    Except RadioFault Fingerprint × Node × List Effect :=
  Sending.run errand verdict node .starting

def requestFailureMessage (dest : Address) (fault : RadioFault) : String :=
  "request to " ++ dest.text ++ " not sent: " ++ fault.message

end FloodMesh
