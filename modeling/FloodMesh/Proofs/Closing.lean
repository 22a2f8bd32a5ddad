/-
Shutdown is signalled to a running poller.

A wait in progress goes on until the reading that it waits for is queued or its time
is over, and nothing goes out meanwhile. The signal is minded between cycles only. So
the nodes that the cycle has yet to ask are asked all the same, one after the other,
and the poller returns after the last of them; nothing goes out if none is left. A
further cycle begins only at a tick that is due and is minded before the signal.

The other tasks may do with the node what they like, at any time.
-/

import FloodMesh.Proofs.Accounting
import Mathlib

namespace FloodMesh

/-! ### Who is yet to be asked -/

/-- The node of a poll, until the radio is handed the request. -/
def Poll.unasked (poll : Poll) : List Address :=
  match poll.stage with
  | .sending .starting => [poll.dest]
  | .sending (.composed request) => [request.dest]
  | _ => []

def Poll.handed? (poll : Poll) : Option Packet :=
  match poll.stage with
  | .sending (.composed request) => some request
  | _ => none

def Poll.waiter? (poll : Poll) : Option Waiter :=
  match poll.stage with
  | .waiting waiter => some waiter
  | _ => none

def PollCycle.unasked (cycle : PollCycle) : List Address :=
  cycle.current.toList.flatMap Poll.unasked ++ cycle.remaining

def PollCycle.handed? (cycle : PollCycle) : Option Packet := cycle.current.bind Poll.handed?

def PollCycle.waiter? (cycle : PollCycle) : Option Waiter := cycle.current.bind Poll.waiter?

def PollLoop.tick (loop : PollLoop) (clock : Nat) (own : Address) (known : List Address) :
    PollLoop :=
  { loop with due := loop.nextDue clock, cycle := some (PollCycle.start own known) }

def airedOf (asked : List (Packet × Verdict)) : List Bytes :=
  asked.filterMap fun exchange =>
    match exchange.2 with
    | none => some exchange.1.frame
    | some _ => none

def destsOf (asked : List (Packet × Verdict)) : List Address :=
  asked.map fun exchange => exchange.1.dest

private theorem airedOf_append (first second : List (Packet × Verdict)) :
    airedOf (first ++ second) = airedOf first ++ airedOf second := List.filterMap_append

private theorem destsOf_append (first second : List (Packet × Verdict)) :
    destsOf (first ++ second) = destsOf first ++ destsOf second := List.map_append

private theorem sentFrames_append (first second : List Effect) :
    sentFrames (first ++ second) = sentFrames first ++ sentFrames second :=
  List.filterMap_append

/-! ### Turns -/

structure Asks (before after : List Address) (handed : Option Packet) (verdict : Verdict)
    (effects : List Effect) : Prop where
  unasked_eq : handed.toList.map Packet.dest ++ after = before
  aired_eq : sentFrames effects = airedOf (handed.toList.map fun request => (request, verdict))

private theorem asks_nothing (unasked : List Address) (verdict : Verdict) :
    Asks unasked unasked none verdict [] := ⟨rfl, rfl⟩

private theorem Asks.append {before after : List Address} {handed : Option Packet}
    {verdict : Verdict}
    {effects : List Effect} (asks : Asks before after handed verdict effects)
    (rest : List Address) : Asks (before ++ rest) (after ++ rest) handed verdict effects where
  unasked_eq := by rw [← asks.unasked_eq, List.append_assoc]
  aired_eq := asks.aired_eq

def Waiter.IsOver (waiter : Waiter) (queue : Queue) (now : Nat) : Prop :=
  (∃ entry ∈ queue.entries, entry.isFor waiter.dest waiter.src = true) ∨ waiter.deadline ≤ now

def Waiter.Same (waiter other : Waiter) : Prop :=
  other.dest = waiter.dest ∧ other.src = waiter.src ∧ other.deadline = waiter.deadline

private theorem Waiter.Same.trans {waiter other third : Waiter} (same : waiter.Same other)
    (next : other.Same third) : waiter.Same third :=
  ⟨next.1.trans same.1, next.2.1.trans same.2.1, next.2.2.trans same.2.2⟩

private theorem Waiter.Same.isOver {waiter other : Waiter} {queue : Queue} {now : Nat}
    (same : waiter.Same other) (ended : other.IsOver queue now) : waiter.IsOver queue now := by
  obtain ⟨dest_eq, src_eq, deadline_eq⟩ := same
  unfold IsOver at ended ⊢
  rwa [dest_eq, src_eq, deadline_eq] at ended

private theorem Waiter.same_tell (waiter : Waiter) : waiter.Same waiter.tell := by
  unfold tell
  split <;> exact ⟨rfl, rfl, rfl⟩

namespace Poll

variable {poller : Poller} {moment : Moment} {node later : Node} {poll next : Poll}
  {result : Polled} {effects : List Effect} {waiter : Waiter}

private theorem asks_of_goesOn (went : poll.turn poller moment node = .goesOn next later effects) :
    Asks poll.unasked next.unasked poll.handed? moment.verdict effects := by
  cases stage : poll.stage with
  | sending sending =>
      simp only [turn, stage] at went
      cases sending with
      | starting =>
          simp only [Sending.turn] at went
          cases went
          simp only [unasked, handed?, stage]
          exact ⟨rfl, rfl⟩
      | composed request =>
          simp only [Sending.turn, Node.vet_frame] at went
          cases verdict : moment.verdict with
          | none =>
              rw [verdict] at went
              cases went
              simp only [unasked, handed?, stage]
              exact ⟨rfl, rfl⟩
          | some fault =>
              rw [verdict] at went
              cases went
      | accepted request =>
          simp only [Sending.turn] at went
          cases went
          simp only [unasked, handed?, stage]
          exact asks_nothing _ _
      | numbered request =>
          simp only [Sending.turn] at went
          cases went
          simp only [unasked, handed?, stage]
          exact asks_nothing _ _
  | sent =>
      simp only [turn, stage] at went
      cases went
      simp only [unasked, handed?, stage]
      exact asks_nothing _ _
  | waiting waiter =>
      simp only [turn, stage] at went
      split at went <;> cases went
      simp only [unasked, handed?, stage]
      exact asks_nothing _ _

private theorem asks_of_ends (went : poll.turn poller moment node = .ends result later effects) :
    Asks poll.unasked [] poll.handed? moment.verdict effects := by
  cases stage : poll.stage with
  | sending sending =>
      simp only [turn, stage] at went
      cases sending with
      | composed request =>
          simp only [Sending.turn, Node.vet_frame] at went
          cases verdict : moment.verdict with
          | none =>
              rw [verdict] at went
              cases went
          | some fault =>
              rw [verdict] at went
              cases went
              simp only [unasked, handed?, stage]
              exact ⟨rfl, rfl⟩
      | starting | accepted | numbered =>
          simp only [Sending.turn] at went
          cases went
  | sent =>
      simp only [turn, stage] at went
      cases went
  | waiting waiter =>
      simp only [turn, stage] at went
      split at went
      · cases went
      · cases went
        simp only [unasked, handed?, stage]
        exact asks_nothing _ _
      · cases went
        simp only [unasked, handed?, stage]
        exact ⟨rfl, rfl⟩
      · cases went

private theorem waiter?_eq_some_iff :
    poll.waiter? = some waiter ↔ poll.stage = .waiting waiter := by
  unfold waiter?
  cases poll.stage <;> simp

private theorem waits_of_goesOn (waits : poll.waiter? = some waiter)
    (went : poll.turn poller moment node = .goesOn next later effects) :
    (∃ present, next.waiter? = some present ∧ waiter.Same present) ∧ effects = [] := by
  simp only [turn, waiter?_eq_some_iff.mp waits] at went
  cases turned : waiter.turn node.queue moment.clock with
  | goesOn present =>
      rw [turned] at went
      cases went
      exact ⟨⟨present, rfl, (Waiter.becomes_of_goesOn turned).same⟩, rfl⟩
  | found | expired | sleeps =>
      rw [turned] at went
      cases went

private theorem over_of_ends (waits : poll.waiter? = some waiter)
    (went : poll.turn poller moment node = .ends result later effects) :
    waiter.IsOver node.queue moment.clock := by
  simp only [turn, waiter?_eq_some_iff.mp waits] at went
  cases turned : waiter.turn node.queue moment.clock with
  | found entry =>
      have becomes : waiter.Becomes node.queue moment.clock (.found entry moment.clock) :=
        Waiter.wait?_turn_eq_some_iff.mp (by rw [turned]; rfl)
      cases becomes with
      | finds phase oldest =>
          obtain ⟨wanted, older, newer, split, _⟩ := oldest
          exact .inl ⟨entry, by rw [split]; simp, wanted⟩
  | expired => exact .inr (Waiter.late_of_expired turned)
  | goesOn | sleeps =>
      rw [turned] at went
      cases went

private theorem unasked_tell (poll : Poll) : poll.tell.unasked = poll.unasked := by
  unfold tell
  cases stage : poll.stage <;> simp [unasked, stage]

private theorem waiter?_tell (poll : Poll) : poll.tell.waiter? = poll.waiter?.map Waiter.tell := by
  unfold tell
  cases stage : poll.stage <;> simp [waiter?, stage]

end Poll

namespace PollCycle

variable {poller : Poller} {moment : Poll.Moment} {node later : Node} {cycle next : PollCycle}
  {report : PollReport} {effects : List Effect} {waiter : Waiter}

private theorem asks_of_goesOn (went : cycle.turn poller moment node = .goesOn next later effects) :
    Asks cycle.unasked next.unasked cycle.handed? moment.verdict effects := by
  cases current : cycle.current with
  | some poll =>
      simp only [turn, current] at went
      cases turned : poll.turn poller moment node with
      | goesOn after middle seen =>
          rw [turned] at went
          cases went
          simpa [unasked, handed?, current] using (Poll.asks_of_goesOn turned).append _
      | ends result middle seen =>
          rw [turned] at went
          cases went
          simpa [unasked, handed?, current] using (Poll.asks_of_ends turned).append _
      | sleeps =>
          rw [turned] at went
          cases went
  | none =>
      cases remaining : cycle.remaining with
      | nil =>
          simp only [turn, current, remaining] at went
          cases went
      | cons dest rest =>
          simp only [turn, current, remaining] at went
          cases went
          simp only [unasked, handed?, current, remaining]
          exact asks_nothing _ _

private theorem unasked_of_ends (went : cycle.turn poller moment node = .ends report later) :
    cycle.unasked = [] ∧ cycle.handed? = none ∧ cycle.waiter? = none := by
  cases current : cycle.current with
  | some poll =>
      simp only [turn, current] at went
      split at went <;> cases went
  | none =>
      cases remaining : cycle.remaining with
      | nil => simp [unasked, handed?, waiter?, current, remaining]
      | cons dest rest =>
          simp only [turn, current, remaining] at went
          cases went

/-- The wait goes on, and nothing is seen of it, or it is over. -/
theorem waits_of_goesOn (waits : cycle.waiter? = some waiter)
    (went : cycle.turn poller moment node = .goesOn next later effects) :
    ((∃ present, next.waiter? = some present ∧ waiter.Same present) ∧ effects = []) ∨
      waiter.IsOver node.queue moment.clock := by
  obtain ⟨poll, current, pollWaits⟩ := Option.bind_eq_some_iff.mp waits
  simp only [turn, current] at went
  cases turned : poll.turn poller moment node with
  | goesOn after middle seen =>
      rw [turned] at went
      cases went
      exact .inl (Poll.waits_of_goesOn pollWaits turned)
  | ends result middle seen =>
      rw [turned] at went
      cases went
      exact .inr (Poll.over_of_ends pollWaits turned)
  | sleeps =>
      rw [turned] at went
      cases went

private theorem unasked_tell (cycle : PollCycle) : cycle.tell.unasked = cycle.unasked := by
  unfold tell unasked
  cases cycle.current with
  | none => rfl
  | some poll => simp [Poll.unasked_tell]

private theorem waiter?_tell (cycle : PollCycle) :
    cycle.tell.waiter? = cycle.waiter?.map Waiter.tell := by
  unfold tell waiter?
  cases cycle.current with
  | none => rfl
  | some poll => exact Poll.waiter?_tell poll

end PollCycle

/-! ### The poller among the other tasks -/

structure Patrol where
  /-- None once the poller has returned. -/
  loop : Option PollLoop
  node : Node
  known : List Address
  now : Nat := 0
  begun : Nat := 0
  /-- Each request that the radio was handed, and its answer. -/
  asked : List (Packet × Verdict) := []
  log : List Effect := []

namespace Patrol

inductive Move
  /-- The poller takes its turn; this is the radio's answer if it is asked. -/
  | works (verdict : Verdict)
  /-- A tick that is due is minded, signal or not. -/
  | ticks
  /-- The other tasks leave the node like this. -/
  | meddles (node : Node)
  | tells
  | publishes (known : List Address)
  | passes (span : Nat)
  | signals

def Move.isTick : Move → Bool
  | .ticks => true
  | _ => false

def Move.isAlone : Move → Bool
  | .works _ => true
  | .passes _ => true
  | _ => false

def cycle? (patrol : Patrol) : Option PollCycle := patrol.loop.bind PollLoop.cycle

def unasked (patrol : Patrol) : List Address := patrol.cycle?.toList.flatMap PollCycle.unasked

def handed? (patrol : Patrol) : Option Packet := patrol.cycle?.bind PollCycle.handed?

def waiter? (patrol : Patrol) : Option Waiter := patrol.cycle?.bind PollCycle.waiter?

def moment (patrol : Patrol) (verdict : Verdict) : Poll.Moment := { verdict, clock := patrol.now }

def signalled (patrol : Patrol) : Patrol :=
  { patrol with loop := patrol.loop.map fun loop => { loop with stopping := true } }

def after (patrol : Patrol) (verdict : Verdict) (loop : PollLoop) (node : Node)
    (effects : List Effect) : Patrol :=
  { patrol with
    loop := some loop
    node
    begun := patrol.begun + if patrol.cycle?.isNone then 1 else 0
    asked := patrol.asked ++ patrol.handed?.toList.map fun request => (request, verdict)
    log := patrol.log ++ effects }

def step? (patrol : Patrol) : Move → Option Patrol
  | .works verdict =>
      patrol.loop.bind fun loop =>
        match loop.turn patrol.known (patrol.moment verdict) patrol.node with
        | .goesOn loop node effects => some (patrol.after verdict loop node effects)
        | .ends => some { patrol with loop := none }
        | .sleeps => none
  | .ticks =>
      patrol.loop.bind fun loop =>
        if loop.cycle.isNone ∧ loop.due ≤ patrol.now then
          some
            { patrol with
              loop := some (loop.tick patrol.now patrol.node.address patrol.known)
              begun := patrol.begun + 1 }
        else none
  | .meddles node => some { patrol with node }
  | .tells => some { patrol with loop := patrol.loop.map PollLoop.tell }
  | .publishes known => some { patrol with known }
  | .passes span => some { patrol with now := patrol.now + span }
  | .signals => some patrol.signalled

def follow? (patrol : Patrol) : List Move → Option Patrol
  | [] => some patrol
  | move :: rest => (patrol.step? move).bind fun later => later.follow? rest

private theorem unasked_signalled (patrol : Patrol) :
    patrol.signalled.unasked = patrol.unasked := by
  cases running : patrol.loop <;> simp [unasked, cycle?, signalled, running]

private theorem waiter?_signalled (patrol : Patrol) :
    patrol.signalled.waiter? = patrol.waiter? := by
  cases running : patrol.loop <;> simp [waiter?, cycle?, signalled, running]

/-! ### What the poller does in its turn -/

inductive Worked (patrol : Patrol) (verdict : Verdict) : Patrol → Prop
  | goesOn {loop : PollLoop} {cycle next : PollCycle} {node : Node} {effects : List Effect}
      (running : patrol.loop = some loop) (current : loop.cycle = some cycle)
      (went : cycle.turn loop.poller (patrol.moment verdict) patrol.node =
        .goesOn next node effects) :
      Worked patrol verdict (patrol.after verdict { loop with cycle := some next } node effects)
  | reports {loop : PollLoop} {cycle : PollCycle} {report : PollReport} {node : Node}
      (running : patrol.loop = some loop) (current : loop.cycle = some cycle)
      (went : cycle.turn loop.poller (patrol.moment verdict) patrol.node = .ends report node) :
      Worked patrol verdict (patrol.after verdict { loop with cycle := none } node [])
  | begins {loop : PollLoop} (running : patrol.loop = some loop) (idle : loop.cycle = none)
      (unsignalled : loop.stopping = false) (due : loop.due ≤ patrol.now) :
      Worked patrol verdict
        (patrol.after verdict (loop.tick patrol.now patrol.node.address patrol.known)
          patrol.node [])
  | returns {loop : PollLoop} (running : patrol.loop = some loop) (idle : loop.cycle = none)
      (signalled : loop.stopping = true) : Worked patrol verdict { patrol with loop := none }

variable {patrol later : Patrol} {verdict : Verdict} {move : Move} {moves : List Move}
  {waiter : Waiter}

private theorem step?_works_eq_some_iff :
    patrol.step? (.works verdict) = some later ↔ patrol.Worked verdict later := by
  constructor
  · intro stepped
    obtain ⟨loop, running, turned⟩ := Option.bind_eq_some_iff.mp stepped
    cases current : loop.cycle with
    | some cycle =>
        simp only [PollLoop.turn, current] at turned
        cases went : cycle.turn loop.poller (patrol.moment verdict) patrol.node with
        | goesOn next node effects =>
            rw [went] at turned
            cases turned
            exact .goesOn running current went
        | ends report node =>
            rw [went] at turned
            cases turned
            exact .reports running current went
        | sleeps =>
            rw [went] at turned
            cases turned
    | none =>
        simp only [PollLoop.turn, current] at turned
        cases signalled : loop.stopping with
        | true =>
            simp only [signalled, if_true] at turned
            cases turned
            exact .returns running current signalled
        | false =>
            rw [if_neg (Bool.eq_false_iff.mp signalled)] at turned
            by_cases due : loop.due ≤ (patrol.moment verdict).clock
            · rw [if_pos due] at turned
              cases turned
              exact .begins running current signalled due
            · rw [if_neg due] at turned
              cases turned
  · intro worked
    cases worked with
    | goesOn running current went =>
        simp only [step?, running, Option.bind_some, PollLoop.turn, current, went]
    | reports running current went =>
        simp only [step?, running, Option.bind_some, PollLoop.turn, current, went]
    | @begins loop running idle unsignalled due =>
        have dueNow : loop.due ≤ (patrol.moment verdict).clock := due
        simp only [step?, running, Option.bind_some, PollLoop.turn, idle,
          if_neg (Bool.eq_false_iff.mp unsignalled), if_pos dueNow]
        rfl
    | returns running idle signalled =>
        simp only [step?, running, Option.bind_some, PollLoop.turn, idle, signalled, if_true]

/-- The poller rests between cycles and in a wait that is not over, and nowhere else. -/
theorem resting_of_stuck {loop : PollLoop} (running : patrol.loop = some loop)
    (stuck : patrol.step? (.works verdict) = none) :
    (∃ waiter, patrol.waiter? = some waiter ∧ patrol.now < waiter.deadline) ∨
      (loop.cycle = none ∧ loop.stopping = false) := by
  simp only [step?, running, Option.bind_some, PollLoop.turn] at stuck
  cases current : loop.cycle with
  | some cycle =>
      simp only [current] at stuck
      cases went : cycle.turn loop.poller (patrol.moment verdict) patrol.node with
      | sleeps =>
          obtain ⟨poll, waiter, polling, stage, sleeps⟩ := PollCycle.sleeping_of_sleeps went
          refine .inl ⟨waiter, ?_, Waiter.early_of_sleeps sleeps⟩
          simp only [waiter?, cycle?, running, current, Option.bind_some, PollCycle.waiter?,
            polling, Poll.waiter?_eq_some_iff.mpr stage]
      | goesOn | ends =>
          rw [went] at stuck
          cases stuck
  | none =>
      cases signalled : loop.stopping with
      | false => exact .inr ⟨rfl, rfl⟩
      | true => simp [current, signalled] at stuck

/-! ### From the signal on -/

def Stopping (patrol : Patrol) : Prop := ∀ loop, patrol.loop = some loop → loop.stopping = true

private theorem stopping_signalled (patrol : Patrol) : patrol.signalled.Stopping := by
  intro loop running
  obtain ⟨before, _, rfl⟩ := Option.map_eq_some_iff.mp running
  rfl

private theorem Stopping.step (stopping : patrol.Stopping)
    (stepped : patrol.step? move = some later) :
    later.Stopping := by
  cases move with
  | works verdict =>
      cases step?_works_eq_some_iff.mp stepped with
      | goesOn running current went | reports running current went =>
          intro loop after
          cases after
          exact (stopping _ running :)
      | begins running idle unsignalled due =>
          rw [stopping _ running] at unsignalled
          cases unsignalled
      | returns running idle signalled =>
          intro loop impossible
          cases impossible
  | ticks =>
      obtain ⟨before, running, ticked⟩ := Option.bind_eq_some_iff.mp stepped
      split at ticked
      · cases ticked
        intro loop after
        cases after
        exact (stopping _ running :)
      · cases ticked
  | tells =>
      cases stepped
      intro loop after
      obtain ⟨before, running, rfl⟩ := Option.map_eq_some_iff.mp after
      exact (stopping _ running :)
  | signals =>
      cases stepped
      exact stopping_signalled patrol
  | meddles | publishes | passes =>
      cases stepped
      exact stopping

structure Leads (patrol later : Patrol) (asked : List (Packet × Verdict)) : Prop where
  asked_eq : later.asked = patrol.asked ++ asked
  aired_eq : sentFrames later.log = sentFrames patrol.log ++ airedOf asked
  now_le : patrol.now ≤ later.now
  begun_le : patrol.begun ≤ later.begun
  unasked_eq : later.begun = patrol.begun → destsOf asked ++ later.unasked = patrol.unasked
  due_eq : later.begun = patrol.begun → ∀ after, later.loop = some after →
    ∃ before, patrol.loop = some before ∧ after.due = before.due
  ticked : later.begun ≠ patrol.begun →
    ∃ before, patrol.loop = some before ∧ before.due ≤ later.now

private theorem leads_refl (patrol : Patrol) : patrol.Leads patrol [] where
  asked_eq := (List.append_nil _).symm
  aired_eq := (List.append_nil _).symm
  now_le := Nat.le_refl _
  begun_le := Nat.le_refl _
  unasked_eq _ := rfl
  due_eq _ after running := ⟨after, running, rfl⟩
  ticked differs := absurd rfl differs

private theorem Leads.trans {middle : Patrol} {asked more : List (Packet × Verdict)}
    (first : patrol.Leads middle asked) (second : middle.Leads later more) :
    patrol.Leads later (asked ++ more) where
  asked_eq := by rw [second.asked_eq, first.asked_eq, List.append_assoc]
  aired_eq := by rw [second.aired_eq, first.aired_eq, airedOf_append, List.append_assoc]
  now_le := Nat.le_trans first.now_le second.now_le
  begun_le := Nat.le_trans first.begun_le second.begun_le
  unasked_eq same := by
    have := first.begun_le
    have := second.begun_le
    rw [destsOf_append, List.append_assoc, second.unasked_eq (by omega),
      first.unasked_eq (by omega)]
  due_eq same after running := by
    have := first.begun_le
    have := second.begun_le
    obtain ⟨between, runningThen, dueThen⟩ := second.due_eq (by omega) after running
    obtain ⟨before, runningBefore, dueBefore⟩ := first.due_eq (by omega) between runningThen
    exact ⟨before, runningBefore, dueThen.trans dueBefore⟩
  ticked differs := by
    by_cases same : middle.begun = patrol.begun
    · obtain ⟨between, runningThen, dueThen⟩ := second.ticked (by omega)
      obtain ⟨before, runningBefore, dueBefore⟩ := first.due_eq same between runningThen
      exact ⟨before, runningBefore, dueBefore ▸ dueThen⟩
    · obtain ⟨before, runningBefore, dueBefore⟩ := first.ticked same
      exact ⟨before, runningBefore, Nat.le_trans dueBefore second.now_le⟩

/-- A step that asks nobody and leaves the cycle where it was. -/
theorem leads_of_quiet (asked_eq : later.asked = patrol.asked) (log_eq : later.log = patrol.log)
    (now_le : patrol.now ≤ later.now) (begun_eq : later.begun = patrol.begun)
    (unasked_eq : later.unasked = patrol.unasked)
    (due_eq : ∀ after, later.loop = some after →
      ∃ before, patrol.loop = some before ∧ after.due = before.due) :
    patrol.Leads later [] where
  asked_eq := by rw [asked_eq, List.append_nil]
  aired_eq := by
    rw [log_eq]
    exact (List.append_nil _).symm
  now_le := now_le
  begun_le := Nat.le_of_eq begun_eq.symm
  unasked_eq _ := unasked_eq
  due_eq _ := due_eq
  ticked differs := absurd begun_eq differs

private theorem Worked.leads (stopping : patrol.Stopping) (worked : patrol.Worked verdict later) :
    ∃ asked, patrol.Leads later asked := by
  cases worked with
  | @goesOn loop cycle next node effects running current went =>
      have asks := PollCycle.asks_of_goesOn went
      have present : patrol.cycle? = some cycle := by
        simp only [cycle?, running, Option.bind_some, current]
      have handed : patrol.handed? = cycle.handed? := by
        simp only [handed?, present, Option.bind_some]
      have begun_eq : patrol.begun + (if patrol.cycle?.isNone then 1 else 0) = patrol.begun := by
        simp [present]
      refine ⟨cycle.handed?.toList.map fun request => (request, verdict),
        ?_, ?_, Nat.le_refl _, Nat.le_of_eq begun_eq.symm, ?_, ?_, ?_⟩
      · simp only [after, handed]
      · simp only [after, sentFrames_append, asks.aired_eq, moment]
      · intro _
        have before : patrol.unasked = cycle.unasked := by simp [unasked, present]
        rw [before, ← asks.unasked_eq, destsOf, List.map_map]
        simp [unasked, cycle?, after, Function.comp_def]
      · intro _ later running'
        cases running'
        exact ⟨_, running, rfl⟩
      · intro differs
        exact absurd begun_eq differs
  | @reports loop cycle report node running current went =>
      obtain ⟨unasked_nil, handed_none, _⟩ := PollCycle.unasked_of_ends went
      have present : patrol.cycle? = some cycle := by
        simp only [cycle?, running, Option.bind_some, current]
      refine ⟨[], leads_of_quiet ?_ ?_ (Nat.le_refl _) ?_ ?_ ?_⟩
      · simp [after, handed?, present, handed_none]
      · exact List.append_nil _
      · simp [after, present]
      · simp [unasked, cycle?, after, running, current, unasked_nil]
      · intro later running'
        cases running'
        exact ⟨_, running, rfl⟩
  | begins running idle unsignalled due =>
      rw [stopping _ running] at unsignalled
      cases unsignalled
  | returns running idle signalled =>
      refine ⟨[], leads_of_quiet rfl rfl (Nat.le_refl _) rfl ?_ ?_⟩
      · simp [unasked, cycle?, running, idle]
      · intro later impossible
        cases impossible

private theorem leads_step (stopping : patrol.Stopping) (stepped : patrol.step? move = some later) :
    ∃ asked, patrol.Leads later asked := by
  cases move with
  | works verdict => exact (step?_works_eq_some_iff.mp stepped).leads stopping
  | ticks =>
      obtain ⟨loop, running, ticked⟩ := Option.bind_eq_some_iff.mp stepped
      split at ticked
      · rename_i due
        cases ticked
        refine ⟨[], (List.append_nil _).symm, (List.append_nil _).symm, Nat.le_refl _,
          Nat.le_succ _, ?_, ?_, ?_⟩
        · intro same
          exact absurd same (Nat.succ_ne_self _)
        · intro same
          exact absurd same (Nat.succ_ne_self _)
        · intro _
          exact ⟨loop, running, due.2⟩
      · cases ticked
  | tells =>
      cases stepped
      refine ⟨[], leads_of_quiet rfl rfl (Nat.le_refl _) rfl ?_ ?_⟩
      · cases running : patrol.loop with
        | none => simp [unasked, cycle?, running]
        | some loop =>
            cases current : loop.cycle <;>
              simp [unasked, cycle?, running, current, PollLoop.tell, PollCycle.unasked_tell]
      · intro later running
        obtain ⟨before, runningBefore, rfl⟩ := Option.map_eq_some_iff.mp running
        exact ⟨before, runningBefore, rfl⟩
  | signals =>
      cases stepped
      refine ⟨[], leads_of_quiet rfl rfl (Nat.le_refl _) rfl (unasked_signalled patrol) ?_⟩
      intro later running
      obtain ⟨before, runningBefore, rfl⟩ := Option.map_eq_some_iff.mp running
      exact ⟨before, runningBefore, rfl⟩
  | meddles | publishes | passes =>
      cases stepped
      refine ⟨[], leads_of_quiet rfl rfl (by simp) rfl rfl ?_⟩
      intro later running
      exact ⟨later, running, rfl⟩

private theorem leads_follow (stopping : patrol.Stopping)
    (followed : patrol.follow? moves = some later) :
    ∃ asked, patrol.Leads later asked := by
  induction moves generalizing patrol with
  | nil =>
      cases followed
      exact ⟨[], leads_refl _⟩
  | cons move rest ih =>
      obtain ⟨middle, stepped, remaining⟩ := Option.bind_eq_some_iff.mp followed
      obtain ⟨asked, first⟩ := leads_step stopping stepped
      obtain ⟨more, second⟩ := ih (stopping.step stepped) remaining
      exact ⟨asked ++ more, first.trans second⟩

private theorem Stopping.follow (stopping : patrol.Stopping)
    (followed : patrol.follow? moves = some later) : later.Stopping := by
  induction moves generalizing patrol with
  | nil =>
      cases followed
      exact stopping
  | cons move rest ih =>
      obtain ⟨middle, stepped, remaining⟩ := Option.bind_eq_some_iff.mp followed
      exact ih (stopping.step stepped) remaining

/-- Without a tick no cycle begins. -/
theorem begun_step (stopping : patrol.Stopping) (stepped : patrol.step? move = some later)
    (unticked : move.isTick = false) : later.begun = patrol.begun := by
  cases move with
  | works verdict =>
      cases step?_works_eq_some_iff.mp stepped with
      | goesOn running current went | reports running current went =>
          simp [after, cycle?, running, current]
      | begins running idle unsignalled due =>
          rw [stopping _ running] at unsignalled
          cases unsignalled
      | returns running idle signalled => rfl
  | ticks => cases unticked
  | meddles | tells | publishes | passes | signals =>
      cases stepped
      rfl

private theorem begun_follow (stopping : patrol.Stopping)
    (followed : patrol.follow? moves = some later)
    (unticked : ∀ move ∈ moves, move.isTick = false) : later.begun = patrol.begun := by
  induction moves generalizing patrol with
  | nil =>
      cases followed
      rfl
  | cons move rest ih =>
      obtain ⟨middle, stepped, remaining⟩ := Option.bind_eq_some_iff.mp followed
      have same := begun_step stopping stepped (unticked move List.mem_cons_self)
      rw [← same]
      exact ih (stopping.step stepped) remaining fun other member =>
        unticked other (List.mem_cons_of_mem _ member)

/-! ### A wait in progress -/

structure StillWaits (patrol later : Patrol) (waiter : Waiter) : Prop where
  waits : ∃ present, later.waiter? = some present ∧ waiter.Same present
  asked_eq : later.asked = patrol.asked
  log_eq : later.log = patrol.log

private theorem waiter?_eq_some_iff :
    patrol.waiter? = some waiter ↔ ∃ loop cycle, patrol.loop = some loop ∧
      loop.cycle = some cycle ∧ cycle.waiter? = some waiter := by
  unfold waiter? cycle?
  simp only [Option.bind_eq_some_iff]
  constructor
  · rintro ⟨cycle, ⟨loop, running, current⟩, waits⟩
    exact ⟨loop, cycle, running, current, waits⟩
  · rintro ⟨loop, cycle, running, current, waits⟩
    exact ⟨cycle, ⟨loop, running, current⟩, waits⟩

private theorem stillWaits_step (waits : patrol.waiter? = some waiter)
    (stepped : patrol.step? move = some later) :
    patrol.StillWaits later waiter ∨
      (∃ verdict, move = .works verdict) ∧ waiter.IsOver patrol.node.queue patrol.now := by
  obtain ⟨loop, cycle, running, current, cycleWaits⟩ := waiter?_eq_some_iff.mp waits
  cases move with
  | works verdict =>
      cases step?_works_eq_some_iff.mp stepped with
      | goesOn running' current' went =>
          cases running.symm.trans running'
          cases current.symm.trans current'
          rcases PollCycle.waits_of_goesOn cycleWaits went with ⟨still, silent⟩ | ended
          · obtain ⟨present, presentWaits, same⟩ := still
            refine .inl ⟨⟨present, waiter?_eq_some_iff.mpr ⟨_, _, rfl, rfl, presentWaits⟩, same⟩,
              ?_, ?_⟩
            · obtain ⟨poll, polling, pollWaits⟩ := Option.bind_eq_some_iff.mp cycleWaits
              simp [after, handed?, cycle?, running, current, PollCycle.handed?, polling,
                Poll.handed?, Poll.waiter?_eq_some_iff.mp pollWaits]
            · simp [after, silent]
          · exact .inr ⟨⟨verdict, rfl⟩, ended⟩
      | reports running' current' went =>
          cases running.symm.trans running'
          cases current.symm.trans current'
          rw [(PollCycle.unasked_of_ends went).2.2] at cycleWaits
          cases cycleWaits
      | begins running' idle unsignalled due | returns running' idle signalled =>
          cases running.symm.trans running'
          rw [idle] at current
          cases current
  | ticks =>
      obtain ⟨other, running', ticked⟩ := Option.bind_eq_some_iff.mp stepped
      cases running.symm.trans running'
      simp [current] at ticked
  | tells =>
      cases stepped
      refine .inl ⟨⟨waiter.tell, waiter?_eq_some_iff.mpr ⟨loop.tell, cycle.tell, ?_, ?_, ?_⟩,
        waiter.same_tell⟩, rfl, rfl⟩
      · simp [running]
      · simp [PollLoop.tell, current]
      · simp [PollCycle.waiter?_tell, cycleWaits]
  | signals =>
      cases stepped
      exact .inl
        ⟨⟨waiter, by rw [waiter?_signalled, waits], rfl, rfl, rfl⟩, rfl, rfl⟩
  | meddles | publishes | passes =>
      cases stepped
      exact .inl ⟨⟨waiter, waits, rfl, rfl, rfl⟩, rfl, rfl⟩

structure WaitEnds (patrol middle : Patrol) (waiter : Waiter) : Prop where
  still : patrol.StillWaits middle waiter
  isOver : waiter.IsOver middle.node.queue middle.now

private theorem stillWaits_follow {start : Patrol} (still : start.StillWaits patrol waiter)
    (followed : patrol.follow? moves = some later) :
    start.StillWaits later waiter ∨
      ∃ before verdict rest middle, moves = before ++ .works verdict :: rest ∧
        patrol.follow? before = some middle ∧ start.WaitEnds middle waiter := by
  induction moves generalizing patrol with
  | nil =>
      cases followed
      exact .inl still
  | cons move rest ih =>
      obtain ⟨next, stepped, remaining⟩ := Option.bind_eq_some_iff.mp followed
      obtain ⟨present, waits, same⟩ := still.waits
      rcases stillWaits_step waits stepped with goes | ⟨⟨verdict, rfl⟩, ended⟩
      · obtain ⟨further, waitsNext, sameNext⟩ := goes.waits
        have stillNext : start.StillWaits next waiter :=
          ⟨⟨further, waitsNext, same.trans sameNext⟩, goes.asked_eq.trans still.asked_eq,
            goes.log_eq.trans still.log_eq⟩
        rcases ih stillNext remaining with always | ⟨before, verdict, others, middle, split, led,
            ends⟩
        · exact .inl always
        · refine .inr ⟨move :: before, verdict, others, middle, ?_, ?_, ends⟩
          · rw [split, List.cons_append]
          · rw [follow?, stepped]
            exact led
      · exact .inr ⟨[], verdict, rest, patrol, rfl, rfl, still, same.isOver ended⟩

/-! ### The poller returns -/

structure Runs (patrol : Patrol) (loop : PollLoop) (round : Round) : Prop where
  loop_eq : patrol.loop = some { loop with cycle := some round.cycle }
  poller_eq : loop.poller = round.office.poller
  node_eq : patrol.node = round.office.node
  now_eq : patrol.now = round.office.now

private theorem Runs.turn_eq {loop : PollLoop} {round : Round} (runs : patrol.Runs loop round)
    (verdict : Verdict) :
    round.cycle.turn loop.poller (patrol.moment verdict) patrol.node = round.turn verdict := by
  rw [Round.turn, moment, runs.poller_eq, runs.node_eq, runs.now_eq]

private theorem Runs.step {loop : PollLoop} {round next : Round} {action : Round.Move}
    (runs : patrol.Runs loop round) (alone : action.isAlone = true)
    (stepped : round.step? action = some next) :
    ∃ move later, move.isAlone = true ∧ patrol.step? move = some later ∧ later.Runs loop next := by
  cases action with
  | works verdict =>
      obtain ⟨cycle, node, effects, went, rfl⟩ := Round.step?_works_eq_some_iff.mp stepped
      rw [← runs.turn_eq] at went
      refine ⟨.works verdict, _, rfl, step?_works_eq_some_iff.mpr (.goesOn runs.loop_eq rfl went),
        ?_⟩
      exact ⟨rfl, runs.poller_eq, rfl, runs.now_eq⟩
  | passes time =>
      obtain ⟨_, ⟨_, _, forward, _⟩, rfl⟩ := Round.step?_passes_eq_some_iff.mp stepped
      refine ⟨.passes (time - patrol.now), _, rfl, rfl, runs.loop_eq, runs.poller_eq,
        runs.node_eq, ?_⟩
      rw [← runs.now_eq] at forward
      simp only
      omega
  | appends | tells | pops | drains | publishes => cases alone

private theorem Runs.follow {loop : PollLoop} {round last : Round} {actions : List Round.Move}
    (runs : patrol.Runs loop round) (alone : ∀ action ∈ actions, action.isAlone = true)
    (followed : round.follow? actions = some last) :
    ∃ moves later, (∀ move ∈ moves, move.isAlone = true) ∧ patrol.follow? moves = some later ∧
      later.Runs loop last := by
  induction actions generalizing patrol round with
  | nil =>
      cases followed
      exact ⟨[], patrol, by simp, rfl, runs⟩
  | cons action rest ih =>
      obtain ⟨middle, stepped, remaining⟩ := Option.bind_eq_some_iff.mp followed
      obtain ⟨aloneFirst, aloneRest⟩ := List.forall_mem_cons.mp alone
      obtain ⟨move, next, aloneMove, moved, runsNext⟩ := runs.step aloneFirst stepped
      obtain ⟨moves, later, aloneMoves, led, runsLater⟩ := ih runsNext aloneRest remaining
      refine ⟨move :: moves, later, List.forall_mem_cons.mpr ⟨aloneMove, aloneMoves⟩, ?_,
        runsLater⟩
      rw [follow?, moved]
      exact led

/-- Left to itself, the poller asks whom it has yet to ask, and returns. -/
def Returns (patrol : Patrol) : Prop :=
  ∃ moves final asked, (∀ move ∈ moves, move.isAlone = true) ∧
    patrol.follow? moves = some final ∧ final.loop = none ∧
    final.asked = patrol.asked ++ asked ∧ destsOf asked = patrol.unasked

private theorem follow?_append {first second : List Move} {middle : Patrol}
    (led : patrol.follow? first = some middle) (followed : middle.follow? second = some later) :
    patrol.follow? (first ++ second) = some later := by
  induction first generalizing patrol with
  | nil =>
      cases led
      exact followed
  | cons move rest ih =>
      obtain ⟨next, stepped, remaining⟩ := Option.bind_eq_some_iff.mp led
      rw [List.cons_append, follow?, stepped]
      exact ih remaining

private theorem follow?_of_idle {loop : PollLoop} (running : patrol.loop = some loop)
    (idle : loop.cycle = none) (signalled : loop.stopping = true) :
    patrol.follow? [.works none] = some { patrol with loop := none } := by
  rw [follow?, step?_works_eq_some_iff.mpr (.returns running idle signalled)]
  rfl

/-- It comes to its end somehow; whom it asks on the way follows from that. -/
theorem Stopping.ends (stopping : patrol.Stopping) :
    ∃ moves final, (∀ move ∈ moves, move.isAlone = true) ∧
      patrol.follow? moves = some final ∧ final.loop = none := by
  cases running : patrol.loop with
  | none => exact ⟨[], patrol, by simp, rfl, running⟩
  | some loop =>
      cases current : loop.cycle with
      | none =>
          exact ⟨[.works none], _, by simp [Move.isAlone],
            follow?_of_idle running current (stopping _ running), rfl⟩
      | some cycle =>
          let office : Office :=
            { poller := loop.poller, node := patrol.node, known := patrol.known, now := patrol.now }
          have runs : patrol.Runs loop { office, cycle } :=
            ⟨by rw [running, ← current], rfl, rfl, rfl⟩
          obtain ⟨actions, round, alone, followed, reported⟩ := Round.ends { office, cycle }
          obtain ⟨moves, later, aloneMoves, led, runsLater⟩ := runs.follow alone followed
          obtain ⟨report, reportIs⟩ := Option.isSome_iff_exists.mp reported
          cases went : round.turn none with
          | ends finalReport node =>
              rw [← runsLater.turn_eq] at went
              have reports := step?_works_eq_some_iff.mpr (.reports runsLater.loop_eq rfl went)
              have ending :
                  (later.after none { loop with cycle := none } node []).follow? [.works none] =
                    some _ :=
                follow?_of_idle rfl rfl (stopping _ running :)
              refine ⟨moves ++ .works none :: [.works none], _, ?_,
                follow?_append led (by rw [follow?, reports]; exact ending), rfl⟩
              intro move member
              rcases List.mem_append.mp member with early | late
              · exact aloneMoves move early
              · simp only [List.mem_cons, List.not_mem_nil, or_false, or_self] at late
                rw [late]
                rfl
          | goesOn | sleeps => simp [Round.report?, went] at reportIs

private theorem Stopping.returns (stopping : patrol.Stopping) : patrol.Returns := by
  obtain ⟨moves, final, alone, followed, returned⟩ := stopping.ends
  obtain ⟨asked, leads⟩ := leads_follow stopping followed
  have begun_eq := begun_follow stopping followed fun move member => by
    have aloneMove := alone move member
    cases move <;> first | rfl | cases aloneMove
  have nobody : final.unasked = [] := by simp [unasked, cycle?, returned]
  refine ⟨moves, final, asked, alone, followed, returned, leads.asked_eq, ?_⟩
  have unasked_eq := leads.unasked_eq begun_eq
  rwa [nobody, List.append_nil] at unasked_eq

/-- After the signal, whatever the other tasks and the radio do:

* if no node was left to be asked, and no tick is minded before the signal, nothing
  goes out;
* otherwise the nodes that were left are asked in order, and nobody else, unless a tick
  that was due begins another cycle;
* a wait goes on, and nothing goes out meanwhile, until its reading is queued or its
  time is over;
* the poller rests in a wait that is not over, and nowhere else;
* left to itself, it asks the nodes that are left and returns. -/
theorem run_after_signal (followed : patrol.signalled.follow? moves = some later) :
    (patrol.unasked = [] → (∀ move ∈ moves, move.isTick = false) →
        later.asked = patrol.asked ∧ sentFrames later.log = sentFrames patrol.log) ∧
      (∃ asked, later.asked = patrol.asked ++ asked ∧
        sentFrames later.log = sentFrames patrol.log ++ airedOf asked ∧
        (later.begun = patrol.begun → destsOf asked ++ later.unasked = patrol.unasked)) ∧
      (later.begun ≠ patrol.begun → (∃ move ∈ moves, move.isTick = true) ∧
        ∃ loop, patrol.loop = some loop ∧ loop.due ≤ later.now) ∧
      (∀ waiter, patrol.waiter? = some waiter →
        patrol.StillWaits later waiter ∨
          ∃ before verdict rest middle, moves = before ++ .works verdict :: rest ∧
            patrol.signalled.follow? before = some middle ∧ patrol.WaitEnds middle waiter) ∧
      (∀ verdict, later.loop.isSome = true → later.step? (.works verdict) = none →
        ∃ waiter, later.waiter? = some waiter ∧ later.now < waiter.deadline) ∧
      later.Returns := by
  have stopping := stopping_signalled patrol
  have stoppingLater := stopping.follow followed
  obtain ⟨asked, leads⟩ := leads_follow stopping followed
  have asked_eq : later.asked = patrol.asked ++ asked := leads.asked_eq
  have aired_eq : sentFrames later.log = sentFrames patrol.log ++ airedOf asked := leads.aired_eq
  have unasked_eq : later.begun = patrol.begun → destsOf asked ++ later.unasked = patrol.unasked :=
    unasked_signalled patrol ▸ leads.unasked_eq
  have begun_eq : (∀ move ∈ moves, move.isTick = false) → later.begun = patrol.begun :=
    (begun_follow stopping followed :)
  refine ⟨?_, ⟨asked, asked_eq, aired_eq, unasked_eq⟩, ?_, ?_, ?_, stoppingLater.returns⟩
  · intro nobody unticked
    have all := unasked_eq (begun_eq unticked)
    rw [nobody] at all
    have none_asked : asked = [] := List.map_eq_nil_iff.mp (List.append_eq_nil_iff.mp all).1
    rw [asked_eq, aired_eq, none_asked]
    exact ⟨List.append_nil _, List.append_nil _⟩
  · intro differs
    constructor
    · by_contra unticked
      apply differs
      apply begun_eq
      intro move member
      by_contra ticks
      exact unticked ⟨move, member, Bool.eq_true_of_not_eq_false ticks⟩
    · obtain ⟨before, running, due⟩ := leads.ticked differs
      obtain ⟨loop, was, rfl⟩ := Option.map_eq_some_iff.mp running
      exact ⟨loop, was, due⟩
  · intro waiter waits
    have still : patrol.StillWaits patrol.signalled waiter :=
      ⟨⟨waiter, by rw [waiter?_signalled, waits], rfl, rfl, rfl⟩, rfl, rfl⟩
    exact stillWaits_follow still followed
  · intro verdict present stuck
    obtain ⟨loop, running⟩ := Option.isSome_iff_exists.mp present
    rcases resting_of_stuck running stuck with waits | ⟨_, unsignalled⟩
    · exact waits
    · rw [stoppingLater _ running] at unsignalled
      cases unsignalled

def smallPatrol : Patrol where
  loop := some (PollLoop.start { hops := 3, timeout := 5 } 100 0)
  node :=
    { address := .numbered 0
      duty := .controller
      ring := Ring.empty 4
      queue := Queue.new 4 }
  known := [.numbered 1, .numbered 2]

def turns (count : Nat) : List Move := List.replicate count (.works none)

def toFirstWait : List Move := turns 9

def pastWait (count : Nat) : List Move := .passes 5 :: turns count

/-- The signal comes while the poller waits for the first node. The wait ends, and a
request goes out to the other node all the same. -/
theorem request_after_signal :
    ∃ patrol later, smallPatrol.follow? toFirstWait = some patrol ∧ patrol.waiter?.isSome = true ∧
      patrol.signalled.follow? (pastWait 4) = some later ∧
      sentFrames later.log ≠ sentFrames patrol.log := by
  have went : ((smallPatrol.follow? toFirstWait).bind fun patrol =>
      (patrol.signalled.follow? (pastWait 4)).map fun later =>
        (patrol.waiter?.isSome, (sentFrames patrol.log).length, (sentFrames later.log).length)) =
      some (true, 1, 2) := by decide +kernel
  obtain ⟨patrol, begun, went⟩ := Option.bind_eq_some_iff.mp went
  obtain ⟨later, followed, counts⟩ := Option.map_eq_some_iff.mp went
  obtain ⟨waits, sentBefore, sentLater⟩ := by simpa only [Prod.mk.injEq] using counts
  refine ⟨patrol, later, begun, waits, followed, ?_⟩
  intro same
  rw [same, sentBefore] at sentLater
  cases sentLater

/-- The signal comes while the poller waits for the last node. -/
theorem run_after_signal_lastWait :
    ∃ patrol later, smallPatrol.follow? (toFirstWait ++ pastWait 9) = some patrol ∧
      patrol.waiter?.isSome = true ∧ patrol.signalled.follow? (pastWait 3) = some later ∧
      later.loop.isNone = true ∧ sentFrames later.log = sentFrames patrol.log := by
  have went : ((smallPatrol.follow? (toFirstWait ++ pastWait 9)).bind fun patrol =>
      (patrol.signalled.follow? (pastWait 3)).map fun later =>
        (patrol.waiter?.isSome, patrol.unasked, later.loop.isNone)) =
      some (true, [], true) := by decide +kernel
  obtain ⟨patrol, begun, went⟩ := Option.bind_eq_some_iff.mp went
  obtain ⟨later, followed, standing⟩ := Option.map_eq_some_iff.mp went
  obtain ⟨waits, nobody, returned⟩ := by simpa only [Prod.mk.injEq] using standing
  have unticked : ∀ move ∈ pastWait 3, move.isTick = false := by decide
  exact ⟨patrol, later, begun, waits, followed, returned,
    ((run_after_signal followed).1 nobody unticked).2⟩

end Patrol

end FloodMesh
