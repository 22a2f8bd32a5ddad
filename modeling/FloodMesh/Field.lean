/-
A mesh whose nodes run their own tasks on a common clock.

Each node may run a relay task, any number of polling jobs and a forwarder.
Tasks step one at a time; between steps the clock jumps to the next time at
which one can go on. A job that has begun something goes on before all others
until it waits; otherwise jobs go on after the relays, when the air is silent.
The effects of all steps are logged in order.
-/

import FloodMesh.Forwarder
import FloodMesh.Mesh
import FloodMesh.Poll.Cycle
import FloodMesh.RelayLoop
import FloodMesh.WaitRoom

namespace FloodMesh

inductive Job
  | poll (poller : Poller) (poll : Poll)
  | cycle (poller : Poller) (cycle : PollCycle)
  | loop (loop : PollLoop)
  | polled (result : Polled)
  | reported (report : PollReport)
  | ended

namespace Job

inductive Turn
  | goesOn (job : Job) (node : Node) (effects : List Effect)
  | sleeps

def turn (known : List Address) (moment : Poll.Moment) (node : Node) : Job → Turn
  | .poll poller running =>
      match running.turn poller moment node with
      | .goesOn later node effects => .goesOn (.poll poller later) node effects
      | .ends result node effects => .goesOn (.polled result) node effects
      | .sleeps => .sleeps
  | .cycle poller running =>
      match running.turn poller moment node with
      | .goesOn later node effects => .goesOn (.cycle poller later) node effects
      | .ends report node => .goesOn (.reported report) node []
      | .sleeps => .sleeps
  | .loop running =>
      match running.turn known moment node with
      | .goesOn later node effects => .goesOn (.loop later) node effects
      | .ends => .goesOn .ended node []
      | .sleeps => .sleeps
  | _ => .sleeps

def tell : Job → Job
  | .poll poller running => .poll poller running.tell
  | .cycle poller running => .cycle poller running.tell
  | .loop running => .loop running.tell
  | done => done

/-- Whether a job has something to do before it waits for others. -/
def isBusy : Job → Bool
  | .poll _ running => running.isBusy
  | .cycle _ running => running.isBusy
  | .loop running => running.isBusy
  | _ => false

def due? : Job → Option Nat
  | .poll _ running => running.due?
  | .cycle _ running => running.due?
  | .loop running => running.due?
  | _ => none

def isDone : Job → Bool
  | .polled _ => true
  | .reported _ => true
  | .ended => true
  | _ => false

def signalStop : Job → Job
  | .loop running => .loop { running with stopping := true }
  | other => other

end Job

structure Tasks where
  relay : Option RelayLoop := none
  jobs : List Job := []
  forwarder : Option Forwarder := none

/-- What is arranged to happen to a field. -/
inductive Happening
  | queue (index : Nat) (event : QueueEvent)
  | radio (index : Nat) (verdict : Verdict)
  | known (addresses : List Address)

structure Field where
  /-- Milliseconds since the start. -/
  now : Nat := 0
  /-- Seconds since the epoch at the start. -/
  epoch : Nat := 0
  mesh : Mesh := {}
  tasks : List Tasks := []
  known : Watch (List Address)
  agenda : Agenda Happening := {}
  log : List (Nat × Effect) := []
  /-- How many tasks have ended after a shutdown. -/
  ended : Nat := 0

def Effect.isArrival : Effect → Bool
  | .queued _ => true
  | _ => false

namespace Field

def join (field : Field) (node : Node) (tasks : Tasks) : Field :=
  { field with mesh := field.mesh.join node, tasks := field.tasks ++ [tasks] }

/-- Seconds since the epoch. -/
def wall (field : Field) : Nat := field.epoch + field.now / 1000

def changeTasks (field : Field) (index : Nat) (edit : Tasks → Tasks) : Field :=
  { field with tasks := field.tasks.modify index edit }

def changeNode (field : Field) (index : Nat) (edit : Node → Node) : Field :=
  { field with mesh := { field.mesh with nodes := field.mesh.nodes.modify index edit } }

/-- The jobs of a node are told of an arrival in its queue. -/
def tell (field : Field) (index : Nat) : Field :=
  field.changeTasks index fun tasks => { tasks with jobs := tasks.jobs.map Job.tell }

/-- Logs what a node did and tells its jobs of arrivals. -/
def note (field : Field) (index : Nat) (effects : List Effect) : Field :=
  let logged := { field with log := field.log ++ effects.map fun effect => (index, effect) }
  if effects.any Effect.isArrival then logged.tell index else logged

def commit (field : Field) (index : Nat) (node : Node) (effects : List Effect) : Field :=
  { field with mesh := field.mesh.commit index node effects }.note index effects

def relayTurn? (field : Field) (index : Nat) : Option Field := do
  let tasks ← field.tasks[index]?
  let loop ← tasks.relay
  let node ← field.mesh.nodes[index]?
  let station ← field.mesh.medium.stations[index]?
  let settled := fun (place : RelayLoop.Place) (relay : Option RelayLoop) =>
    let medium := field.mesh.medium.change index fun _ => place.station
    changeTasks { field with mesh := { field.mesh with medium } } index
      fun tasks => { tasks with relay }
  match RelayLoop.turn field.known field.wall { loop, node, station } with
  | .sleeps => none
  | .ends place => some { settled place none with ended := field.ended + 1 }
  | .goesOn place effects =>
      some ((settled place (some place.loop)).commit index place.node effects)

def jobTurn? (field : Field) (index job : Nat) : Option Field := do
  let tasks ← field.tasks[index]?
  let running ← tasks.jobs[job]?
  let node ← field.mesh.nodes[index]?
  let moment : Poll.Moment :=
    { verdict := field.mesh.medium.verdictOf index, clock := field.now }
  match running.turn field.known.value moment node with
  | .sleeps => none
  | .goesOn later node effects =>
      let moved :=
        field.changeTasks index fun tasks => { tasks with jobs := tasks.jobs.set job later }
      let counted :=
        match later with
        | .ended => { moved with ended := field.ended + 1 }
        | _ => moved
      some (counted.commit index node effects)

def flush (field : Field) (index : Nat) : Field :=
  match field.mesh.nodes[index]? with
  | none => field
  | some node =>
      let (batch, queue) := node.queue.flush
      let effects :=
        match batch with
        | some entries => [Effect.delivered entries]
        | none => []
      field.commit index { node with queue } effects

def forwarderTurn? (field : Field) (index : Nat) : Option Field := do
  let tasks ← field.tasks[index]?
  let forwarder ← tasks.forwarder
  match forwarder.turn field.now with
  | .sleeps => none
  | .flushes later =>
      some ((field.changeTasks index fun tasks => { tasks with forwarder := some later }).flush
        index)
  | .ends =>
      let flushed := (field.changeTasks index fun tasks => { tasks with forwarder := none }).flush
        index
      some { flushed with ended := field.ended + 1 }

/-- The turn of the first job of a node that is busy, or of the first that is not. -/
def jobsTurn? (field : Field) (busy : Bool) (index : Nat) : Option Field :=
  let jobs := ((field.tasks[index]?).map Tasks.jobs).getD []
  jobs.zipIdx.findSome? fun (job, position) =>
    if job.isBusy = busy then field.jobTurn? index position else none

/-- The turn of some task: a busy job, then relays, other jobs and forwarders, each
in the order of the nodes. -/
def turn? (field : Field) : Option Field :=
  let nodes := List.range field.tasks.length
  nodes.findSome? (field.jobsTurn? true)
    <|> nodes.findSome? field.relayTurn?
    <|> nodes.findSome? (field.jobsTurn? false)
    <|> nodes.findSome? field.forwarderTurn?

/-- A reading comes to lie in a node's queue, without the waiters being told. -/
def append (field : Field) (index : Nat) (dest src : Address) (data : Reading) :
    Option Entry × Field :=
  match field.mesh.nodes[index]? with
  | none => (none, field)
  | some node =>
      let (entry, queue) := node.queue.push dest src data field.wall
      (some entry, field.changeNode index fun node => { node with queue })

def push (field : Field) (index : Nat) (dest src : Address) (data : Reading) :
    Option Entry × Field :=
  let (entry, field) := field.append index dest src data
  (entry, field.tell index)

def pop (field : Field) (index : Nat) : Option Entry × Field :=
  match field.mesh.nodes[index]? with
  | none => (none, field)
  | some node =>
      let (entry, queue) := node.queue.pop
      (entry, field.changeNode index fun node => { node with queue })

def drain (field : Field) (index : Nat) : List Entry × Field :=
  match field.mesh.nodes[index]? with
  | none => ([], field)
  | some node =>
      let (entries, queue) := node.queue.drain
      (entries, field.changeNode index fun node => { node with queue })

def changeMedium (field : Field) (edit : Medium → Medium) : Field :=
  { field with mesh := { field.mesh with medium := edit field.mesh.medium } }

def publish (field : Field) (addresses : List Address) : Field :=
  { field with known := field.known.publish addresses }

def happen (field : Field) : Happening → Field
  | .queue index (.push dest src data) => (field.push index dest src data).2
  | .queue index .pop => (field.pop index).2
  | .queue index (.pushPop dest src data) =>
      ((field.append index dest src data).2.pop index).2.tell index
  | .radio index verdict => field.changeMedium fun medium => medium.setVerdict index verdict
  | .known addresses => field.publish addresses

def arrange (field : Field) (delay : Nat) (happening : Happening) : Field :=
  { field with agenda := field.agenda.add (field.now + Timeline.pause delay) happening }

def step? (field : Field) : Option Field :=
  field.turn?
    <|> (field.agenda.take? field.now).map fun due => happen { field with agenda := due.2 } due.1

def Tasks.due? (tasks : Tasks) : Option Nat :=
  tasks.jobs.foldl (fun due job => earlier? due job.due?) (tasks.forwarder.map Forwarder.due)

def due? (field : Field) : Option Nat :=
  field.tasks.foldl (fun due tasks => earlier? due (Tasks.due? tasks)) field.agenda.due?

instance : Timed Field where
  now field := field.now
  setNow now field := { field with now }
  step? := step?
  due? := due?

/-- Starts a job; its position among the node's jobs comes back too. -/
def launch (field : Field) (index : Nat) (job : Job) : Nat × Field :=
  let position := ((field.tasks[index]?).map fun tasks => tasks.jobs.length).getD 0
  (position,
    field.changeTasks index fun tasks => { tasks with jobs := tasks.jobs ++ [job] })

def job? (field : Field) (index position : Nat) : Option Job :=
  (field.tasks[index]?).bind fun tasks => tasks.jobs[position]?

def jobDone (index position : Nat) (field : Field) : Bool :=
  ((field.job? index position).map Job.isDone).getD true

/-- Runs a job to its end, with everything else that happens meanwhile. -/
def perform (field : Field) (index : Nat) (job : Job) : Option Job × Field :=
  let (position, launched) := field.launch index job
  let final := Timeline.complete (jobDone index position) launched
  (final.job? index position, final)

def signalStop (field : Field) : Field :=
  { field with
    tasks := field.tasks.map fun tasks =>
      { relay := tasks.relay.map fun loop => { loop with stopping := true }
        jobs := tasks.jobs.map Job.signalStop
        forwarder := tasks.forwarder.map fun forwarder => { forwarder with stopping := true } } }

def allEnded (field : Field) : Bool :=
  field.tasks.all fun tasks =>
    tasks.relay.isNone && tasks.forwarder.isNone &&
      tasks.jobs.all fun job =>
        match job with
        | .loop _ => false
        | _ => true

def shutdown (field : Field) : Nat × Field :=
  let final := Timeline.complete allEnded field.signalStop
  (final.ended - field.ended, final)

/-- A field with an empty log, and what the log held. -/
def takeLog (field : Field) : List (Nat × Effect) × Field :=
  (field.log, { field with log := [] })

end Field

end FloodMesh
