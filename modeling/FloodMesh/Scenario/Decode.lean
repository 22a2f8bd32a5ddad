/-
Values of the library as a scenario writes them.

Bytes are hexadecimal text, addresses are their text, a fingerprint is its
digits or a number below 256 that stands for that byte throughout. A member
that is missing or of another type makes the scenario bad input; a text that is
no address is a failure of its own.
-/

import FloodMesh.Scenario.Failure
import FloodMesh.WaitRoom

namespace FloodMesh.Scenario

/-- A value read from a scenario, or why there is none. -/
abbrev Read := Except Failure

variable {α : Type}

def bad (what : String) : Read α := .error (.badInput what)

def need (what : String) : Option α → Read α
  | some value => .ok value
  | none => bad ("no " ++ what)

def member (name : String) (input : Json) : Read Json := need name (input.get? name)

def member? (name : String) (input : Json) : Option Json :=
  match input.get? name with
  | some .null => none
  | other => other

def optional (read : String → Json → Read α) (name : String) (input : Json) :
    Read (Option α) :=
  match member? name input with
  | none => .ok none
  | some _ => some <$> read name input

def orElse (read : String → Json → Read α) (fallback : α) (name : String) (input : Json) :
    Read α :=
  (·.getD fallback) <$> optional read name input

def text (name : String) (input : Json) : Read String := do
  need name (← member name input).text?

def nat (name : String) (input : Json) : Read Nat := do need name (← member name input).nat?

def byte (name : String) (input : Json) : Read UInt8 := do
  let value ← nat name input
  if value < 256 then pure (UInt8.ofNat value) else bad name

def flag (name : String) (input : Json) : Bool :=
  ((input.get? name).bind Json.bool?).getD false

def items (name : String) (input : Json) : Read (List Json) := do
  need name (← member name input).items?

def itemsOr (name : String) (input : Json) : Read (List Json) := orElse items [] name input

def asHex (value : Json) : Read Bytes := do
  need "hex" (Bytes.ofHex? (← need "text" value.text?).toList)

def hex (name : String) (input : Json) : Read Bytes := do asHex (← member name input)

def ofFrame : Except FrameError α → Read α
  | .ok value => .ok value
  | .error error => .error (.frame error)

def asAddress (value : Json) : Read Address := do
  ofFrame (Address.ofString (← need "text" value.text?))

def address (name : String) (input : Json) : Read Address := do
  asAddress (← member name input)

def addresses (name : String) (input : Json) : Read (List Address) := do
  (← items name input).mapM asAddress

def asFingerprint (value : Json) : Read Fingerprint :=
  match value with
  | .string text => need "fingerprint" (Fingerprint.ofHex? text)
  | other => do
      let number ← need "fingerprint" other.nat?
      need "fingerprint" (Fingerprint.ofBytes? (List.replicate 32 (UInt8.ofNat number)))

def fingerprint (name : String) (input : Json) : Read Fingerprint := do
  asFingerprint (← member name input)

def asReading (value : Json) : Read Reading := do
  need "reading" (Reading.ofBytes? (← asHex value))

def reading (name : String) (input : Json) : Read Reading := do asReading (← member name input)

/-- A reading and the two nodes it went between. -/
structure Parcel where
  dest : Address
  src : Address
  data : Reading

def parcel (input : Json) : Read Parcel := do
  let dest ← address "dest" input
  let src ← address "src" input
  pure { dest, src, data := ← reading "data" input }

def entry (input : Json) : Read Entry := do
  let { dest, src, data } ← parcel input
  let receivedAt ← orElse nat 0 "received_at" input
  pure { id := ← orElse nat 0 "id" input, dest, src, data, receivedAt }

def packet (input : Json) : Read Packet := do
  let kind ← text "kind" input
  let dest ← address "dest" input
  let src ← address "src" input
  let hops ← byte "ttl" input
  let fingerprint ← fingerprint "fingerprint" input
  let content ← match kind with
    | "Request" => Content.request <$> byte "num_nodes" input
    | "SuccessResponse" => Content.reading <$> reading "data" input
    | "ErrorResponse" => Content.fault <$> byte "err_code" input
    | _ => bad "kind"
  pure { dest, src, content, hops, fingerprint }

def notice (input : Json) : Read Notice := do
  match ← text "reason" input with
  | "no_response" => pure .noResponse
  | "send_failed" => pure .sendFailed
  | "error_response" => .faultReported <$> byte "code" input
  | _ => bad "reason"

def verdict (name : String) (input : Json) : Read Verdict := do
  match ← member name input with
  | .string "ok" => pure none
  | .string "busy" => pure (some .busy)
  | other => some <$> .driver <$> text "driver" other

def probeAnswer (value : Json) : Read ProbeAnswer :=
  match value with
  | .string _ => .ok <$> asReading value
  | other => (fun code => .error (ProbeFault.ofCode code)) <$> byte "fault" other

def duty (input : Json) : Read Duty := do
  match ← text "role" input with
  | "controller" => pure .controller
  | "sensor" => do
      let answers ← (← itemsOr "readings" input).mapM probeAnswer
      pure (.sensor (Probe.ofList answers))
  | _ => bad "role"

def node (queueCapacity capacity : Nat) (input : Json) : Read Node := do
  let address ← address "address" input
  let duty ← duty input
  let sequence ← orElse byte 0 "seq" input
  let queue ← orElse nat queueCapacity "queue_capacity" input
  pure { address, duty, ring := Ring.empty capacity, sequence, queue := Queue.new queue }

def snapshot (name : String) (input : Json) : Read Snapshot := do
  match Snapshot.ofJson? (← member name input) with
  | some snapshot => pure snapshot
  | none => .error (.store .encoding)

def queueEvent (input : Json) : Read QueueEvent := do
  match ← text "do" input with
  | "pop" => pure .pop
  | "push" => do
      let { dest, src, data } ← parcel input
      pure (.push dest src data)
  | "push_pop" => do
      let { dest, src, data } ← parcel input
      pure (.pushPop dest src data)
  | _ => bad "event"

end FloodMesh.Scenario
