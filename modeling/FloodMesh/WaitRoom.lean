/-
A queue with those who wait at it.

Appending an entry and telling the waiters are two moments; in between, other
tasks may run. What is arranged for later happens at its time whether anyone
waits or not.
-/

import FloodMesh.Timeline
import FloodMesh.Waiter

namespace FloodMesh

inductive QueueEvent
  | push (dest src : Address) (data : Reading)
  | pop
  /-- An arrival whose telling comes after the oldest entry was taken. -/
  | pushPop (dest src : Address) (data : Reading)

namespace Waiter

inductive Wait
  | waiting (waiter : Waiter)
  | found (entry : Entry) (time : Nat)
  | expired (time : Nat)

end Waiter

structure WaitRoom where
  now : Nat := 0
  queue : Queue
  waits : List Waiter.Wait := []
  agenda : Agenda QueueEvent := {}

namespace WaitRoom

def append (room : WaitRoom) (dest src : Address) (data : Reading) : Entry × WaitRoom :=
  let (entry, queue) := room.queue.push dest src data 0
  (entry, { room with queue })

def tell (room : WaitRoom) : WaitRoom :=
  { room with
    waits := room.waits.map fun wait =>
      match wait with
      | .waiting waiter => .waiting waiter.tell
      | other => other }

def push (room : WaitRoom) (dest src : Address) (data : Reading) : Entry × WaitRoom :=
  let (entry, room) := room.append dest src data
  (entry, room.tell)

def pop (room : WaitRoom) : Option Entry × WaitRoom :=
  let (entry, queue) := room.queue.pop
  (entry, { room with queue })

def drain (room : WaitRoom) : List Entry × WaitRoom :=
  let (entries, queue) := room.queue.drain
  (entries, { room with queue })

def happen (room : WaitRoom) : QueueEvent → WaitRoom
  | .push dest src data => (room.push dest src data).2
  | .pop => room.pop.2
  | .pushPop dest src data => (room.append dest src data).2.pop.2.tell

def arrange (room : WaitRoom) (delay : Nat) (event : QueueEvent) : WaitRoom :=
  { room with agenda := room.agenda.add (room.now + Timeline.pause delay) event }

/-- Another waiter comes, to stay no longer than `timeout`; its position comes
back too. -/
def enter (room : WaitRoom) (dest src : Address) (timeout : Nat) : Nat × WaitRoom :=
  (room.waits.length,
    { room with
      waits := room.waits ++ [.waiting { dest, src, deadline := room.now + timeout }] })

def waitDone (position : Nat) (room : WaitRoom) : Bool :=
  match room.waits[position]? with
  | some (.waiting _) => false
  | _ => true

def turn? (room : WaitRoom) (index : Nat) : Option WaitRoom :=
  match room.waits[index]? with
  | some (.waiting waiter) =>
      match waiter.turn room.queue room.now with
      | .goesOn later => some { room with waits := room.waits.set index (.waiting later) }
      | .found entry => some { room with waits := room.waits.set index (.found entry room.now) }
      | .expired => some { room with waits := room.waits.set index (.expired room.now) }
      | .sleeps => none
  | _ => none

def step? (room : WaitRoom) : Option WaitRoom :=
  match (List.range room.waits.length).findSome? room.turn? with
  | some later => some later
  | none =>
      (room.agenda.take? room.now).map fun due => happen { room with agenda := due.2 } due.1

def due? (room : WaitRoom) : Option Nat :=
  room.waits.foldl
    (fun due wait =>
      match wait with
      | .waiting waiter => earlier? due (some waiter.deadline)
      | _ => due)
    room.agenda.due?

instance : Timed WaitRoom where
  now room := room.now
  setNow now room := { room with now }
  step? := step?
  due? := due?

/-- Waits for an entry between two nodes, no longer than `timeout`. -/
def waitFor (room : WaitRoom) (dest src : Address) (timeout : Nat) : Option Entry × WaitRoom :=
  let (position, entered) := room.enter dest src timeout
  let final := Timeline.complete (waitDone position) entered
  match final.waits[position]? with
  | some (.found entry _) => (some entry, final)
  | _ => (none, final)

end WaitRoom

end FloodMesh
