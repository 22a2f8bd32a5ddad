/-
A running node at a console.

A line is a frame on the air, a question to the status server, the wish to
reload the settings, or the wish to stop. What the node sends meanwhile is
shown as it would be typed.
-/

import FloodMesh.Daemon

namespace FloodMesh.Console

inductive Command
  | hear (frame : Bytes)
  | get (target : String)
  | reload
  | stop

/-- A word and what stands behind the first blank after it. -/
def split (line : List Char) : List Char × List Char :=
  (line.takeWhile (· ≠ ' '), (line.dropWhile (· ≠ ' ')).drop 1)

def Command.ofLine? (line : String) : Option Command :=
  let (word, rest) := split (Blank.trim line.toList)
  match String.ofList word with
  | "hear" => (Bytes.ofHex? rest).map .hear
  | "get" => some (.get (String.ofList rest))
  | "reload" => some .reload
  | "stop" => some .stop
  | _ => none

def bodyText : StatusView.Body → String
  | .empty => ""
  | .json value => value.line
  | .text value => value

def perform (daemon : Daemon) : Command → List String × Daemon
  | .hear frame => ([], (daemon.hear frame).settle)
  | .get target =>
      match daemon.view? with
      | none => ([], daemon)
      | some view =>
          let reply := view.reply "GET" target
          ([toString reply.code ++ " " ++ bodyText reply.content], daemon)
  | .reload =>
      match daemon.reload with
      | .ok reloaded => ([], reloaded.settle)
      | .error error => ([error.message], daemon)
  | .stop => ([], daemon.stop)

/-- The lines for what the node has sent, and a node that has told it. -/
def sentLines (daemon : Daemon) : List String × Daemon :=
  let (frames, daemon) := daemon.takeSent
  (frames.map fun frame => "sent " ++ frame.hexText, daemon)

end FloodMesh.Console
