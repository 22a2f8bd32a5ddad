/-
Running tasks on a clock that jumps.

A world of tasks either has a step that some task can take at once, or waits
for a time at which one becomes able to go on. Time passes only when no task
can step, and then at once up to the next such time. Milliseconds count from
the start.

`Agenda` holds what is to happen at given times, earliest first and, at equal
times, in the order in which it was arranged.
-/

namespace FloodMesh

class Timed (World : Type) where
  now : World → Nat
  setNow : Nat → World → World
  /-- A step that needs no time to pass. -/
  step? : World → Option World
  /-- The next time at which a waiting task can go on. -/
  due? : World → Option Nat

namespace Timeline

variable {World : Type} [Timed World]

/-- One step, or else a jump to the next due time up to `limit`, if there is one. -/
def next? (limit : Option Nat) (world : World) : Option World :=
  match Timed.step? world with
  | some stepped => some stepped
  | none =>
      match Timed.due? world with
      | none => none
      | some due =>
          if Timed.now world < due ∧ limit.all (due ≤ ·) then some (Timed.setNow due world)
          else none

/-- Goes on until `done` holds or nothing can happen by `limit`. -/
def runUntil (done : World → Bool) (limit : Option Nat) : Nat → World → World
  | 0, world => world
  | allowance + 1, world =>
      if done world then world
      else
        match next? limit world with
        | none => world
        | some later => runUntil done limit allowance later

def ample : Nat := 1000000000

def longestPause : Nat := 30 * 365 * 24 * 3600000

/-- How long a pause of `span` takes. A task cannot be put to sleep for longer than
the longest pause; deadlines know no such bound. -/
def pause (span : Nat) : Nat := min span longestPause

def settle (world : World) : World :=
  runUntil (fun _ => false) (some (Timed.now world)) ample world

/-- Lets time pass by a pause of `span`. What falls due only at its end has yet to
happen. -/
def pass (span : Nat) (world : World) : World :=
  if span = 0 then world
  else
    let final := Timed.now world + pause span
    Timed.setNow final (runUntil (fun _ => false) (some (final - 1)) ample world)

def await (done : World → Bool) (span : Nat) (world : World) : World :=
  runUntil done (some (Timed.now world + span)) ample world

def complete (done : World → Bool) (world : World) : World := runUntil done none ample world

end Timeline

structure Agenda (α : Type) where
  pending : List (Nat × α) := []

namespace Agenda

variable {α : Type}

def insert (due : Nat) (what : α) : List (Nat × α) → List (Nat × α)
  | [] => [(due, what)]
  | first :: rest =>
      if due < first.1 then (due, what) :: first :: rest else first :: insert due what rest

def add (agenda : Agenda α) (due : Nat) (what : α) : Agenda α :=
  { pending := insert due what agenda.pending }

def due? (agenda : Agenda α) : Option Nat := agenda.pending.head?.map (·.1)

def take? (agenda : Agenda α) (now : Nat) : Option (α × Agenda α) :=
  match agenda.pending with
  | [] => none
  | (due, what) :: rest => if due ≤ now then some (what, { pending := rest }) else none

end Agenda

def earlier? : Option Nat → Option Nat → Option Nat
  | none, second => second
  | first, none => first
  | some first, some second => some (min first second)

end FloodMesh
