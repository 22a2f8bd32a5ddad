/-
Answers without what no two runs have in common: the time of day, and what a
made-up probe has read.
-/

import FloodMesh.Scenario.Encode
import FloodMesh.StatusView

namespace FloodMesh.Scenario

def timeNames : List String := ["uptime_secs", "received_at", "last_reply_at"]

mutual

def timeless : Json → Json
  | .array items => .array (timelessItems items)
  | .object members => .object (timelessMembers members)
  | other => other

def timelessItems : List Json → List Json
  | [] => []
  | item :: rest => timeless item :: timelessItems rest

def timelessMembers : List (String × Json) → List (String × Json)
  | [] => []
  | (name, .number value) :: rest =>
      (name, if timeNames.contains name then .ofNat 0 else .number value) ::
        timelessMembers rest
  | (name, value) :: rest => (name, timeless value) :: timelessMembers rest

end

def timeLabel : List Char := "\"received_at\":".toList

/-- Text with zero for the times in it. What was read stands backwards in
`before`; while `dropping`, digits are left out. -/
def timelessFrom (before : List Char) (dropping : Bool) : List Char → List Char
  | [] => []
  | char :: rest =>
      let seen := char :: before
      if dropping ∧ char.isDigit then timelessFrom before true rest
      else if timeLabel.reverse.isPrefixOf seen ∧ (rest.head?.map Char.isDigit).getD false then
        char :: '0' :: timelessFrom [] true rest
      else char :: timelessFrom seen false rest

def timelessText (text : String) : String := String.ofList (timelessFrom [] false text.toList)

/-- A frame, or what is certain of an answer that the station itself gave. -/
def maskedFrame (own : Address) (frame : Bytes) : Json :=
  match Packet.decode frame with
  | .error _ => hexText frame
  | .ok packet =>
      if packet.src = own ∧ packet.kind ≠ .request then
        .object
          [ ("reply_to", addressText packet.dest), ("src", addressText packet.src),
            ("ttl", number packet.hops), ("fingerprint", digits packet.fingerprint),
            ("crc_ok", .bool (Checksum.isSealed frame)) ]
      else hexText frame

def bodyJson : StatusView.Body → Json
  | .empty => .string ""
  | .json value => value
  | .text value => .string value

def replyMembers (reply : StatusView.Reply) : Members :=
  [("status", .ofNat reply.code), ("body", bodyJson reply.content)]

def replyJson (reply : StatusView.Reply) : Json :=
  .object
    (replyMembers reply ++
      [("headers", .object (reply.headers.map fun (name, value) => (name, .string value)))])

end FloodMesh.Scenario
