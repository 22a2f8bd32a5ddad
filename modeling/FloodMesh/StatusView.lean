/-
What a node shows of itself to those who ask over the network.

Four resources can be read: the node with its counters, the status rows of
other nodes, one such row, and the queue. Their names are matched as they are
written, letter by letter, and the address of a row is decoded afterwards.
Anybody may ask.
-/

import FloodMesh.Config
import FloodMesh.Node
import FloodMesh.Text.Percent
import FloodMesh.Text.Quoted

namespace FloodMesh

structure StatusView where
  address : Address
  role : Role
  sequence : UInt8
  uptimeSecs : Nat
  knownNodes : List Address
  entries : List Entry
  nodes : StatusTable
  tally : Tally

def Node.statusView (node : Node) (role : Role) (knownNodes : List Address)
    (uptimeSecs : Nat) : StatusView :=
  { address := node.address
    role
    sequence := node.sequence
    uptimeSecs
    knownNodes
    entries := node.queue.entries
    nodes := node.status
    tally := node.tally }

namespace StatusView

inductive Resource
  | status
  | nodes
  /-- The row of a node, by its address as it was written. -/
  | node (segment : List Char)
  | queue
  deriving DecidableEq

def bare (target : List Char) : List Char :=
  target.takeWhile fun char => char ≠ '?' ∧ char ≠ '#'

def isSchemeLetter (char : Char) : Bool := char.isAlphanum || "+-.~".toList.contains char

/-- What stands behind the host, if a target begins with a scheme and a host. -/
def behindHost? (target : List Char) : Option (List Char) :=
  match target.dropWhile isSchemeLetter with
  | ':' :: '/' :: '/' :: rest =>
      some (rest.dropWhile fun char => char ≠ '/' ∧ char ≠ '?' ∧ char ≠ '#')
  | _ => none

/-- The path of a target cut at its slashes, whichever host it is asked of. -/
def segments (target : List Char) : List String :=
  (Pieces.split '/' (bare ((behindHost? target).getD target))).map String.ofList

def Resource.ofTarget? (target : List Char) : Option Resource :=
  match segments target with
  | ["", "api", "status"] => some .status
  | ["", "api", "nodes"] => some .nodes
  | ["", "api", "nodes", segment] => if segment = "" then none else some (.node segment.toList)
  | ["", "api", "queue"] => some .queue
  | _ => none

inductive Body
  | empty
  | json (value : Json)
  | text (value : String)

structure Answer where
  code : Nat
  body : Body

def statusJson (view : StatusView) : Json :=
  .object
    [ ("address", .string view.address.text), ("role", .string view.role.name),
      ("sequence", .ofNat view.sequence.toNat), ("uptime_secs", .ofNat view.uptimeSecs),
      ("known_nodes", .strings (view.knownNodes.map Address.text)),
      ("queue_depth", .ofNat view.entries.length), ("relay", view.tally.toJson) ]

def nodesJson (view : StatusView) : Json :=
  .object [("nodes", .array (view.nodes.listing.map NodeStatus.toJson))]

def entryJson (entry : Entry) : Json :=
  .object
    [ ("id", .ofNat entry.id), ("src", .string entry.src.text),
      ("dest", .string entry.dest.text), ("data", .string entry.data.hex),
      ("received_at", .ofNat entry.receivedAt) ]

def queueJson (view : StatusView) : Json :=
  .object
    [("depth", .ofNat view.entries.length), ("entries", .array (view.entries.map entryJson))]

/-- The row of one node, by the address as it stands in the path. -/
def nodeAnswer (view : StatusView) (segment : List Char) : Answer :=
  match Utf8.toString? (Percent.decode (Utf8.encode segment)) with
  | none => { code := 400, body := .text "Invalid URL: Invalid UTF-8 in `address`" }
  | some text =>
      match Address.ofString? text with
      | none => { code := 400, body := .text ("invalid node address: " ++ Quoted.quote text) }
      | some address =>
          match view.nodes.get? address with
          | some status => { code := 200, body := .json status.toJson }
          | none => { code := 404, body := .text ("node " ++ address.text ++ " not tracked") }

def read (view : StatusView) : Resource → Answer
  | .status => { code := 200, body := .json view.statusJson }
  | .nodes => { code := 200, body := .json view.nodesJson }
  | .node segment => view.nodeAnswer segment
  | .queue => { code := 200, body := .json view.queueJson }

/-- What is answered to a request for a target. -/
structure Reply where
  code : Nat
  /-- Shown by its type even if the content is withheld. -/
  body : Body
  withheld : Bool := false
  /-- Whether the methods of the resource are listed. -/
  listsMethods : Bool := false
  /-- Whether a browser is told that it may use any method. -/
  grantsMethods : Bool := false

def methods : String := "GET,HEAD"

def anything : String := "*"

/-- A question about what is allowed is answered for any target; other methods
than reading are refused where there is something to read. -/
def reply (view : StatusView) (method : String) (target : String) : Reply :=
  let resource := Resource.ofTarget? target.toList
  if method = "OPTIONS" then
    { code := 200, body := .empty, listsMethods := resource.isSome, grantsMethods := true }
  else
    match resource with
    | none => { code := 404, body := .empty }
    | some resource =>
        let answer := view.read resource
        if method = "GET" then { code := answer.code, body := answer.body }
        else if method = "HEAD" then
          { code := answer.code, body := answer.body, withheld := true }
        else { code := 405, body := .empty, listsMethods := true }

def Body.contentType? : Body → Option String
  | .empty => none
  | .json _ => some "application/json"
  | .text _ => some "text/plain; charset=utf-8"

def Reply.headers (reply : Reply) : List (String × String) :=
  (reply.body.contentType?.map fun value => ("content-type", value)).toList ++
    (if reply.listsMethods then [("allow", methods)] else []) ++
    [("access-control-allow-origin", anything)] ++
    (if reply.grantsMethods then [("access-control-allow-methods", anything)] else [])

def Reply.content (reply : Reply) : Body := if reply.withheld then .empty else reply.body

end StatusView

end FloodMesh
