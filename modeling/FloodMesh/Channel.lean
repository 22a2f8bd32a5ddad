/-
A channel that every radio on a host's link shares.

A datagram reaches all radios, its sender's too, and each radio passes over
those from its own endpoint. What it keeps lies in a limited inbox.
-/

import FloodMesh.Inbox
import FloodMesh.Interface

namespace FloodMesh

structure Endpoint where
  host : Nat
  port : Nat
  deriving DecidableEq

structure Receiver where
  own : Endpoint
  inbox : Inbox
  deriving DecidableEq

namespace Receiver

/-- Sixty-four frames of up to fifty-six bytes. -/
def limits : Inbox.Limits := { frames := 64, length := Inbox.bufferLength }

def opened (own : Endpoint) : Receiver := { own, inbox := { limits := some limits } }

def hear (receiver : Receiver) (origin : Endpoint) (datagram : Bytes) : Receiver :=
  if origin = receiver.own then receiver
  else { receiver with inbox := receiver.inbox.arrive datagram }

end Receiver

structure Channel where
  receivers : List Receiver := []
  /-- Datagrams put on the air, in order. -/
  air : List Bytes := []
  nextPort : Nat := 1

namespace Channel

def host : Nat := 0

def openRadio (channel : Channel) (present : List String) (interface : String) :
    Except InterfaceError Channel := do
  let _ ← Interface.find present interface
  let receiver := Receiver.opened { host, port := channel.nextPort }
  pure
    { channel with
      receivers := channel.receivers ++ [receiver], nextPort := channel.nextPort + 1 }

def openRadios (channel : Channel) (present : List String) (interface : String) :
    Nat → Except InterfaceError Channel
  | 0 => .ok channel
  | count + 1 => do (← channel.openRadio present interface).openRadios present interface count

def transmit (channel : Channel) (origin : Endpoint) (datagram : Bytes) : Channel :=
  { channel with
    receivers := channel.receivers.map fun receiver => receiver.hear origin datagram
    air := channel.air ++ [datagram] }

/-- Where a station that is none of the radios sends from. -/
def elsewhere : Endpoint := { host, port := 0 }

def send? (channel : Channel) (index : Nat) (datagram : Bytes) : Option Channel :=
  (channel.receivers[index]?).map fun receiver => channel.transmit receiver.own datagram

/-- A radio's oldest frame is taken into a buffer of this length. -/
def take? (channel : Channel) (index length : Nat) : Option (Bytes × Channel) := do
  let receiver ← channel.receivers[index]?
  let (frame, inbox) ← receiver.inbox.take? length
  pure
    (frame, { channel with receivers := channel.receivers.set index { receiver with inbox } })

def takeAll (channel : Channel) (index : Nat) : List Bytes × Channel :=
  match channel.receivers[index]? with
  | none => ([], channel)
  | some receiver =>
      let emptied := { receiver with inbox := { receiver.inbox with frames := [] } }
      (receiver.inbox.frames,
        { channel with receivers := channel.receivers.set index emptied })

def close (channel : Channel) (index : Nat) : Channel :=
  { channel with receivers := channel.receivers.eraseIdx index }

/-- The datagrams that went over the air so far, and a channel that has
forgotten them. -/
def takeAir (channel : Channel) : List Bytes × Channel :=
  (channel.air, { channel with air := [] })

end Channel

end FloodMesh
