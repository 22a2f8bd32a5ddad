/-
What a controller knows about each node: how often it was polled, when it last
answered and with what, its last fault since then, and what went wrong lately.

A row is made by the first event of its node or by tracking, and only tracking
drops rows. Rows stand in order of creation; a listing sorts them by address.

Counts have no bound here. A controller keeps them in 64 bits, and timeouts in a
row in 32, so what is said of them holds of rows with fewer events than that.
-/

import FloodMesh.Notice
import FloodMesh.Queue

namespace FloodMesh

structure NodeStatus where
  address : Address
  pollsSent : Nat := 0
  lastReplyAt : Option Nat := none
  lastData : Option Reading := none
  /-- The code of the last fault since the last reading. -/
  lastError : Option UInt8 := none
  consecutiveTimeouts : Nat := 0
  sendFailures : Nat := 0
  deriving DecidableEq

structure StatusTable where
  rows : List NodeStatus := []
  deriving DecidableEq

namespace StatusTable

def get? (table : StatusTable) (address : Address) : Option NodeStatus :=
  table.rows.find? fun row => row.address = address

def ensure (table : StatusTable) (address : Address) : StatusTable :=
  if (table.get? address).isSome then table
  else { rows := table.rows ++ [{ address }] }

def change (table : StatusTable) (address : Address) (edit : NodeStatus → NodeStatus) :
    StatusTable :=
  { rows := (table.ensure address).rows.map fun row =>
      if row.address = address then edit row else row }

/-- Keeps the rows of listed nodes and gives each other listed node one. -/
def track (table : StatusTable) (addresses : List Address) : StatusTable :=
  addresses.foldl ensure
    { rows := table.rows.filter fun row => addresses.contains row.address }

def recordPoll (table : StatusTable) (address : Address) : StatusTable :=
  table.change address fun row => { row with pollsSent := row.pollsSent + 1 }

def recordReply (table : StatusTable) (entry : Entry) : StatusTable :=
  table.change entry.src fun row =>
    { row with
      lastReplyAt := some entry.receivedAt
      lastData := some entry.data
      lastError := none
      consecutiveTimeouts := 0 }

def note (table : StatusTable) (address : Address) (notice : Notice) : StatusTable :=
  table.change address fun row =>
    match notice with
    | .noResponse => { row with consecutiveTimeouts := row.consecutiveTimeouts + 1 }
    | .faultReported code => { row with lastError := some code }
    | .sendFailed => { row with sendFailures := row.sendFailures + 1 }

def listing (table : StatusTable) : List NodeStatus :=
  table.rows.mergeSort fun first second => first.address.precedes second.address

end StatusTable

def NodeStatus.toJson (status : NodeStatus) : Json :=
  .object
    [ ("address", .string status.address.text),
      ("polls_sent", .ofNat status.pollsSent),
      ("last_reply_at", .ofOption .ofNat status.lastReplyAt),
      ("last_data", .ofOption (fun data => .string data.hex) status.lastData),
      ("last_error", .ofOption (fun code => .ofNat code.toNat) status.lastError),
      ("consecutive_timeouts", .ofNat status.consecutiveTimeouts),
      ("send_failures", .ofNat status.sendFailures) ]

end FloodMesh
