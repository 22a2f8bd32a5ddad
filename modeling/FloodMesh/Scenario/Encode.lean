/-
Values of the library as the answers of a scenario show them.
-/

import FloodMesh.Field
import FloodMesh.Scenario.Failure

namespace FloodMesh.Scenario

abbrev Members := List (String × Json)

def hexText (data : Bytes) : Json := .string data.hexText

def addressText (address : Address) : Json := .string address.text

def digits (fingerprint : Fingerprint) : Json := .string fingerprint.hex

def number (byte : UInt8) : Json := .ofNat byte.toNat

def list {α : Type} (encode : α → Json) (values : List α) : Json := .array (values.map encode)

def packetJson (packet : Packet) : Json :=
  .object
    ([ ("kind", .string packet.kind.name), ("dest", addressText packet.dest),
       ("src", addressText packet.src), ("ttl", number packet.hops),
       ("fingerprint", digits packet.fingerprint) ] ++
      match packet.content with
      | .request meshSize => [("num_nodes", number meshSize)]
      | .reading data => [("data", .string data.hex)]
      | .fault code => [("err_code", number code)])

def entryJson (entry : Entry) : Json :=
  .object
    [ ("id", .ofNat entry.id), ("dest", addressText entry.dest), ("src", addressText entry.src),
      ("data", .string entry.data.hex) ]

def entriesJson (entries : List Entry) : Json := list entryJson entries

def ringJson (ring : Ring) : Json :=
  .object
    [ ("capacity", .ofNat ring.capacity), ("len", .ofNat ring.count),
      ("empty", .bool (ring.count = 0)), ("entries", list digits ring.entries) ]

def handledMembers : Handled → Members
  | .queued src id =>
      [("dispatched", .string "Queued"), ("src", addressText src), ("id", .ofNat id)]
  | .faultReported src code =>
      [ ("dispatched", .string "ErrorReported"), ("src", addressText src),
        ("err_code", number code) ]
  | .replied dest kind fingerprint =>
      [ ("dispatched", .string "Replied"), ("to", addressText dest),
        ("kind", .string kind.name), ("fingerprint", digits fingerprint) ]
  | .ignored kind => [("dispatched", .string "Ignored"), ("kind", .string kind.name)]

def dropName : DropReason → String
  | .short => "Short"
  | .corrupt => "Corrupt"
  | .malformed => "Malformed"
  | .expired => "Expired"
  | .duplicate => "Duplicate"

def outcomeJson : Outcome → Json
  | .dropped reason =>
      .object [("outcome", .string "Dropped"), ("reason", .string (dropName reason))]
  | .delivered handled => .object (("outcome", .string "Delivered") :: handledMembers handled)
  | .forwarded kind hops =>
      .object
        [("outcome", .string "Forwarded"), ("kind", .string kind.name), ("ttl", number hops)]
  | .forwardFailed kind fault => (Failure.forward kind fault).toJson
  | .replyFailed failure => (Failure.reply failure).toJson

def sentJson (effects : List Effect) : Json :=
  .array
    (effects.filterMap fun effect =>
      match effect with
      | .sent frame => some (hexText frame)
      | _ => none)

def notifiedJson (effects : List Effect) : Json :=
  .array
    (effects.filterMap fun effect =>
      match effect with
      | .notified node notice =>
          some
            (.object
              [ ("node", addressText node), ("reason", notice.toJson),
                ("text", .string notice.text) ])
      | _ => none)

/-- Rows that tell only whether there was a reply, not when. -/
def timelessRows (table : StatusTable) : Json :=
  list
    (fun status =>
      match status.toJson with
      | .object members =>
          .object
            (members.map fun (name, value) =>
              if name = "last_reply_at" then (name, .bool status.lastReplyAt.isSome)
              else (name, value))
      | other => other)
    table.listing

def reportJson (report : PollReport) : Json :=
  .object
    [ ("answered", list addressText report.answered),
      ("timed_out", list addressText report.timedOut),
      ("send_failed", list addressText report.sendFailed), ("polled", .ofNat report.polled) ]

def polledJson : Polled → Json
  | .answered entry => .object [("poll", .string "Answered"), ("entry", entryJson entry)]
  | .timedOut => .object [("poll", .string "TimedOut")]
  | .sendFailed fault =>
      ((Failure.radio fault).detailed [("poll", .string "SendFailed")]).toJson

def jobJson : Option Job → Json
  | some (.polled result) => polledJson result
  | some (.reported report) => reportJson report
  | _ => .null

/-- What one node of a field did, from the field's log. -/
def doneBy (index : Nat) (log : List (Nat × Effect)) : List Effect :=
  log.filterMap fun item => if item.1 = index then some item.2 else none

def workMembers (node : Node) (effects : List Effect) : Members :=
  [ ("sent", sentJson effects), ("sequence", number node.sequence),
    ("queue", entriesJson node.queue.entries), ("notified", notifiedJson effects) ]

def stationMembers (medium : Medium) (index : Nat) (node : Node) (effects : List Effect) :
    Members :=
  workMembers node effects ++
    [ ("stats", node.tally.toJson), ("waiting", .bool (medium.hasWaiting index)),
      ("status", timelessRows node.status) ]

end FloodMesh.Scenario
