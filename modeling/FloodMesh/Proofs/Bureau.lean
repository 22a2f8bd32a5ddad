/-
A controller with all its tasks.

The relay handles frames: it queues readings and reports faults. The poller takes its
turns, the forwarder takes readings away, and a reload tracks the new nodes first and
publishes them afterwards. The tasks move in any order. What each move means to queue
and status table is reported, so the table can be told from the reports.
-/

import FloodMesh.Forwarder
import FloodMesh.Poll.Cycle
import FloodMesh.Proofs.Accounting
import FloodMesh.Proofs.Life
import FloodMesh.Proofs.Rows
import FloodMesh.Watch

namespace FloodMesh

structure Bureau where
  node : Node
  known : Watch (List Address)
  loop : PollLoop
  clock : Nat := 0
  /-- A reload has tracked these nodes and not published them yet. -/
  reloading : Option (List Address) := none
  /-- The version of the list that the last cycle took. -/
  taken : Nat := 0

inductive Report
  | queued (entry : Entry)
  | faulted (src : Address) (code : UInt8)
  /-- The poller updates a row, in a cycle that took this version of the list. -/
  | polled (version : Nat) (update : NodeStatus.Update)
  | tracked (addresses : List Address)
  deriving DecidableEq

def Report.event? : Report → Option StatusTable.Event
  | .queued _ => none
  | .faulted src code => some (.updates (.noticed src (.faultReported code)))
  | .polled _ update => some (.updates update)
  | .tracked addresses => some (.tracks addresses)

/-- What the work on a frame means to queue and status table. -/
def Effect.report? : Effect → Option Report
  | .queued entry => some (.queued entry)
  | .notified src (.faultReported code) => some (.faulted src code)
  | _ => none

def reportsOf (effects : List Effect) : List Report := effects.filterMap Effect.report?

def StatusTable.told (table : StatusTable) (reports : List Report) : StatusTable :=
  (reports.filterMap Report.event?).foldl StatusTable.take table

/-! ### What a poll writes -/

def Polled.update? (poller : Poller) (dest : Address) : Polled → Option NodeStatus.Update
  | .answered entry => if poller.records then some (.replied entry) else none
  | .timedOut => some (.noticed dest .noResponse)
  | .sendFailed _ => some (.noticed dest .sendFailed)

def Poll.written? (poller : Poller) (poll : Poll) : Poll.Turn → Option NodeStatus.Update
  | .ends result _ _ => result.update? poller poll.dest
  | .goesOn _ _ _ =>
      if poll.stage = .sent ∧ poller.records then some (.polled poll.dest) else none
  | .sleeps => none

def PollLoop.update? (moment : Poll.Moment) (node : Node) (loop : PollLoop) :
    Option NodeStatus.Update :=
  (loop.cycle.bind PollCycle.current).bind fun poll =>
    poll.written? loop.poller (poll.turn loop.poller moment node)

/-! ### Moves -/

namespace Bureau

inductive Move
  | hears (surroundings : Surroundings) (frame : Bytes)
  | fits
  /-- The poller takes its turn; this is the radio's answer if it is asked. -/
  | polls (verdict : Verdict)
  /-- Whoever waits at the queue is told of an arrival. -/
  | tells
  | flushes
  /-- The first half of a reload. -/
  | tracks (addresses : List Address)
  /-- The other half. -/
  | publishes
  | passes (span : Nat)
  | signals

def opened (fresh : Node) (capacity : Nat) (known : List Address) (poller : Poller)
    (period : Nat) : Bureau where
  node := { fresh with queue := Queue.new capacity, status := StatusTable.track {} known }
  known := { value := known }
  loop := PollLoop.start poller period 0

def step? (bureau : Bureau) : Move → Option (List Report × Bureau)
  | .hears surroundings frame =>
      let reaction := bureau.node.process surroundings frame
      some (reportsOf reaction.effects, { bureau with node := reaction.node })
  | .fits =>
      some
        ([], { bureau with node := (bureau.node.setKnownCount bureau.known.value.length).1 })
  | .polls verdict =>
      let moment : Poll.Moment := { verdict, clock := bureau.clock }
      match bureau.loop.turn bureau.known.value moment bureau.node with
      | .goesOn loop node _ =>
          some
            ((bureau.loop.update? moment bureau.node).toList.map (.polled bureau.taken),
              { bureau with
                loop
                node
                taken :=
                  if bureau.loop.cycle.isSome then bureau.taken else bureau.known.version })
      | _ => none
  | .tells => some ([], { bureau with loop := bureau.loop.tell })
  | .flushes =>
      some ([], { bureau with node := { bureau.node with queue := bureau.node.queue.flush.2 } })
  | .tracks addresses =>
      match bureau.reloading with
      | some _ => none
      | none =>
          some
            ([.tracked addresses],
              { bureau with
                node := { bureau.node with status := bureau.node.status.track addresses }
                reloading := some addresses })
  | .publishes =>
      bureau.reloading.map fun addresses =>
        ([], { bureau with known := bureau.known.publish addresses, reloading := none })
  | .passes span => some ([], { bureau with clock := bureau.clock + span })
  | .signals => some ([], { bureau with loop := { bureau.loop with stopping := true } })

def follow? (bureau : Bureau) : List Move → Option (List Report × Bureau)
  | [] => some ([], bureau)
  | move :: rest =>
      (bureau.step? move).bind fun stepped =>
        (stepped.2.follow? rest).map fun followed =>
          (stepped.1 ++ followed.1, followed.2)

end Bureau

/-! ### Telling the table from the reports -/

namespace StatusTable

@[simp] theorem told_append (table : StatusTable) (first second : List Report) :
    table.told (first ++ second) = (table.told first).told second := by
  unfold told
  rw [List.filterMap_append, List.foldl_append]

theorem get?_told (table : StatusTable) (reports : List Report) (address : Address) :
    (table.told reports).get? address =
      (reports.filterMap Report.event?).foldl (NodeStatus.rowAfter address)
        (table.get? address) :=
  get?_foldl_take _ _ _

end StatusTable

theorem Report.tracks_mem_iff {reports : List Report} {addresses : List Address} :
    .tracks addresses ∈ reports.filterMap Report.event? ↔ .tracked addresses ∈ reports := by
  rw [List.mem_filterMap]
  constructor
  · rintro ⟨report, member, event⟩
    cases report with
    | tracked others =>
        cases event
        exact member
    | queued | faulted | polled => cases event
  · exact fun member => ⟨_, member, rfl⟩

theorem Report.updates_mem_iff {reports : List Report} {update : NodeStatus.Update} :
    .updates update ∈ reports.filterMap Report.event? ↔
      (∃ src code, .faulted src code ∈ reports ∧ update = .noticed src (.faultReported code)) ∨
        ∃ version, .polled version update ∈ reports := by
  rw [List.mem_filterMap]
  constructor
  · rintro ⟨report, member, event⟩
    cases report with
    | faulted src code =>
        cases event
        exact .inl ⟨src, code, member, rfl⟩
    | polled version written =>
        cases event
        exact .inr ⟨version, member⟩
    | queued | tracked => cases event
  · rintro (⟨src, code, member, rfl⟩ | ⟨version, member⟩)
    · exact ⟨_, member, rfl⟩
    · exact ⟨_, member, rfl⟩

/-- The relay tells of readings and faults only. -/
theorem Report.of_mem_reportsOf {report : Report} {effects : List Effect}
    (member : report ∈ reportsOf effects) :
    (∃ entry, report = .queued entry) ∨ ∃ src code, report = .faulted src code := by
  obtain ⟨effect, _, told⟩ := List.mem_filterMap.mp member
  cases effect with
  | queued entry =>
      cases told
      exact .inl ⟨entry, rfl⟩
  | notified src notice =>
      cases notice with
      | faultReported code =>
          cases told
          exact .inr ⟨src, code, rfl⟩
      | noResponse | sendFailed => cases told
  | saved | sent | probed | delivered => cases told

private theorem reportsOf_deeds (effects : List Effect) :
    reportsOf (deeds effects) = reportsOf effects := by
  unfold reportsOf deeds
  rw [List.filterMap_filter]
  congr 1
  funext effect
  cases effect <;> rfl

namespace Node

/-- The work on a packet writes into the status table what it reports. -/
theorem status_handle (node : Node) (surroundings : Surroundings) (packet : Packet) :
    (node.handle surroundings packet).node.status =
      node.status.told (reportsOf (deeds (node.handle surroundings packet).effects)) := by
  have handled := node.handles surroundings packet
  generalize node.handle surroundings packet = reaction at handled ⊢
  cases handled with
  | forwards | failsToForward | queues | reports | ignores | failsToReply => rfl
  | replies own duty asked replyEq saved =>
      rw [saved, deeds_append, deeds_remember, List.append_nil]
      rfl

private theorem status_process (node : Node) (surroundings : Surroundings) (frame : Bytes) :
    (node.process surroundings frame).node.status =
      node.status.told (reportsOf (node.process surroundings frame).effects) := by
  rw [← reportsOf_deeds]
  cases examined : examine node.absorbedRing frame with
  | error reason =>
      rw [process_of_refused surroundings examined]
      simp only [deeds_absorb]
      rfl
  | ok packet =>
      obtain ⟨_, nodeEq, deedsEq⟩ := @deeds_process node surroundings frame packet examined
      rw [nodeEq, deedsEq]
      exact node.status_handle surroundings packet

end Node

/-! ### What a turn of the poller leaves of the node -/

structure Wrote (node after : Node) (update? : Option NodeStatus.Update) : Prop where
  status_eq : after.status = update?.toList.foldl StatusTable.update node.status
  queue_eq : after.queue = node.queue

private theorem wrote_nothing (node : Node) : Wrote node node none := ⟨rfl, rfl⟩

namespace Sending

def Turn.node : Turn → Node
  | .goesOn _ node _ => node
  | .ends _ node => node

private theorem wrote_turn (errand : Errand) (verdict : Verdict) (node : Node) (sending : Sending) :
    Wrote node (sending.turn errand verdict node).node none := by
  cases sending with
  | starting => exact ⟨rfl, rfl⟩
  | composed request =>
      simp only [turn, Node.vet_frame]
      cases verdict <;> exact ⟨rfl, rfl⟩
  | accepted request => exact ⟨rfl, rfl⟩
  | numbered request =>
      simp only [turn, Turn.node]
      split <;> exact ⟨rfl, rfl⟩

end Sending

private theorem Waiter.mem_of_found {waiter : Waiter} {queue : Queue} {now : Nat} {entry : Entry}
    (went : waiter.turn queue now = .found entry) : entry ∈ queue.entries := by
  have becomes : waiter.Becomes queue now (.found entry now) :=
    wait?_turn_eq_some_iff.mp (by rw [went]; rfl)
  cases becomes with
  | finds phase oldest =>
      obtain ⟨_, older, newer, split, _⟩ := oldest
      rw [split]
      simp

namespace Poll

inductive Went (poller : Poller) (node : Node) (poll : Poll) : Turn → Prop
  | prepares {stage : Stage} {after : Node} {effects : List Effect}
      (unsent : poll.stage ≠ .sent) (wrote : Wrote node after none)
      (busy : ∀ waiter, stage ≠ .waiting waiter) :
      Went poller node poll (.goesOn { poll with stage } after effects)
  | counts {waiter : Waiter} {after : Node} (sent : poll.stage = .sent)
      (own : waiter.src = poll.dest)
      (wrote : Wrote node after (if poller.records then some (.polled poll.dest) else none)) :
      Went poller node poll (.goesOn { poll with stage := .waiting waiter } after [])
  | waits {waiter later : Waiter} (stage : poll.stage = .waiting waiter)
      (same : later.src = waiter.src) :
      Went poller node poll (.goesOn { poll with stage := .waiting later } node [])
  | answered {waiter : Waiter} {entry : Entry} {after : Node}
      (stage : poll.stage = .waiting waiter) (own : entry.src = waiter.src)
      (lies : entry ∈ node.queue.entries)
      (wrote : Wrote node after (Polled.update? poller poll.dest (.answered entry))) :
      Went poller node poll (.ends (.answered entry) after [])
  | fails {result : Polled} {after : Node} {effects : List Effect}
      (unanswered : ∀ entry, result ≠ .answered entry)
      (wrote : Wrote node after (result.update? poller poll.dest)) :
      Went poller node poll (.ends result after effects)
  | sleeps : Went poller node poll .sleeps

theorem went_turn (poller : Poller) (moment : Moment) (node : Node) (poll : Poll) :
    poll.Went poller node (poll.turn poller moment node) := by
  cases stage : poll.stage with
  | sending sending =>
      have wrote := Sending.wrote_turn (errand poller poll) moment.verdict node sending
      have unsent : poll.stage ≠ .sent := by simp [stage]
      simp only [turn, stage]
      cases turned : sending.turn (errand poller poll) moment.verdict node with
      | goesOn next after effects =>
          rw [turned] at wrote
          exact .prepares unsent wrote fun waiter impossible => by cases impossible
      | ends result after =>
          rw [turned] at wrote
          cases result with
          | ok fingerprint =>
              exact .prepares unsent wrote fun waiter impossible => by cases impossible
          | error fault =>
              exact .fails (fun entry impossible => by cases impossible)
                ⟨congrArg (StatusTable.note · poll.dest .sendFailed) wrote.status_eq,
                  wrote.queue_eq⟩
  | sent =>
      simp only [turn, stage]
      refine .counts stage rfl ?_
      cases poller.records <;> exact ⟨rfl, rfl⟩
  | waiting waiter =>
      simp only [turn, stage]
      cases turned : waiter.turn node.queue moment.clock with
      | goesOn later => exact .waits stage (Waiter.becomes_of_goesOn turned).same.2.1
      | found entry =>
          have wanted := Waiter.isFor_of_found turned
          refine .answered stage ?_ (Waiter.mem_of_found turned) ?_
          · simpa [Entry.isFor] using (Bool.and_eq_true_iff.mp wanted).2
          · simp only [Polled.update?]
            cases poller.records <;> exact ⟨rfl, rfl⟩
      | expired => exact .fails (fun entry impossible => by cases impossible) ⟨rfl, rfl⟩
      | sleeps => exact .sleeps

variable {poller : Poller} {node after : Node} {poll next : Poll} {effects : List Effect}
  {result : Polled} {update : NodeStatus.Update} {turn : Turn}

private theorem Went.wrote_of_goesOn (went : poll.Went poller node (.goesOn next after effects)) :
    Wrote node after (poll.written? poller (.goesOn next after effects)) := by
  cases went with
  | prepares unsent wrote busy => simpa [written?, unsent] using wrote
  | counts sent own wrote => simpa [written?, sent] using wrote
  | waits stage same => simpa [written?, stage] using wrote_nothing node

private theorem Went.wrote_of_ends (went : poll.Went poller node (.ends result after effects)) :
    Wrote node after (poll.written? poller (.ends result after effects)) := by
  cases went with
  | answered stage own lies wrote => exact wrote
  | fails unanswered wrote => exact wrote

/-- No poll writes of a fault, and a reply that it writes lies in the queue. -/
theorem Went.of_written? (went : poll.Went poller node turn)
    (writes : poll.written? poller turn = some update) :
    (∀ address code, update ≠ .noticed address (.faultReported code)) ∧
      ∀ entry, update = .replied entry → entry ∈ node.queue.entries := by
  cases went with
  | prepares unsent wrote busy => simp [written?, unsent] at writes
  | counts sent own wrote =>
      obtain ⟨_, rfl⟩ := by simpa [written?, sent] using writes
      simp
  | waits stage same => simp [written?, stage] at writes
  | answered stage own lies wrote =>
      obtain ⟨_, rfl⟩ := by simpa [written?, Polled.update?] using writes
      simpa using lies
  | @fails result after effects unanswered wrote =>
      cases result with
      | answered entry => exact absurd rfl (unanswered entry)
      | timedOut =>
          obtain rfl := by simpa [written?, Polled.update?] using writes
          simp
      | sendFailed fault =>
          obtain rfl := by simpa [written?, Polled.update?] using writes
          simp
  | sleeps => cases writes

def Sound (poll : Poll) : Prop := ∀ waiter, poll.stage = .waiting waiter → waiter.src = poll.dest

theorem Sound.goesOn (sound : poll.Sound)
    (went : poll.Went poller node (.goesOn next after effects)) :
    next.Sound ∧ next.dest = poll.dest := by
  cases went with
  | prepares unsent wrote busy => exact ⟨fun waiter waits => absurd waits (busy waiter), rfl⟩
  | counts sent own wrote =>
      refine ⟨fun waiter waits => ?_, rfl⟩
      cases waits
      exact own
  | waits stage same =>
      refine ⟨fun waiter waits => ?_, rfl⟩
      cases waits
      exact same.trans (sound _ stage)

theorem Sound.address_of_written? (sound : poll.Sound) (went : poll.Went poller node turn)
    (writes : poll.written? poller turn = some update) : update.address = poll.dest := by
  cases went with
  | prepares unsent wrote busy => simp [written?, unsent] at writes
  | counts sent own wrote =>
      obtain ⟨_, rfl⟩ := by simpa [written?, sent] using writes
      rfl
  | waits stage same => simp [written?, stage] at writes
  | answered stage own lies wrote =>
      obtain ⟨_, rfl⟩ := by simpa [written?, Polled.update?] using writes
      exact own.trans (sound _ stage)
  | @fails result after effects unanswered wrote =>
      cases result with
      | answered entry => exact absurd rfl (unanswered entry)
      | timedOut =>
          obtain rfl := by simpa [written?, Polled.update?] using writes
          rfl
      | sendFailed fault =>
          obtain rfl := by simpa [written?, Polled.update?] using writes
          rfl
  | sleeps => cases writes

end Poll

namespace PollLoop

inductive Went (known : List Address) (moment : Poll.Moment) (node : Node) (loop : PollLoop) :
    PollLoop → Node → Prop
  | polls {cycle : PollCycle} {poll next : Poll} {after : Node} {effects : List Effect}
      (running : loop.cycle = some cycle) (current : cycle.current = some poll)
      (turned : poll.turn loop.poller moment node = .goesOn next after effects) :
      Went known moment node loop
        { loop with cycle := some { cycle with current := some next } } after
  | concludes {cycle : PollCycle} {poll : Poll} {result : Polled} {after : Node}
      {effects : List Effect} (running : loop.cycle = some cycle)
      (current : cycle.current = some poll)
      (turned : poll.turn loop.poller moment node = .ends result after effects) :
      Went known moment node loop
        { loop with
          cycle := some
            { cycle with current := none, report := cycle.report.add poll.dest result } }
        after
  | takesUp {cycle : PollCycle} {dest : Address} {rest : List Address}
      (running : loop.cycle = some cycle) (idle : cycle.current = none)
      (remaining : cycle.remaining = dest :: rest) :
      Went known moment node loop
        { loop with
          cycle := some
            { cycle with remaining := rest, current := some { dest, meshSize := cycle.meshSize } } }
        node
  | ends {cycle : PollCycle} (running : loop.cycle = some cycle) (idle : cycle.current = none) :
      Went known moment node loop { loop with cycle := none } node
  | starts (idle : loop.cycle = none) (due : Nat) :
      Went known moment node loop
        { loop with due, cycle := some (PollCycle.start node.address known) } node

variable {known : List Address} {moment : Poll.Moment} {node after : Node}
  {loop later : PollLoop} {effects : List Effect}

private theorem went_of_goesOn
    (turned : loop.turn known moment node = .goesOn later after effects) :
    loop.Went known moment node later after := by
  cases running : loop.cycle with
  | none =>
      simp only [turn, running] at turned
      split at turned
      · cases turned
      · split at turned
        · cases turned
          exact .starts running _
        · cases turned
  | some cycle =>
      simp only [turn, running] at turned
      cases current : cycle.current with
      | none =>
          cases remaining : cycle.remaining with
          | nil =>
              simp only [PollCycle.turn, current, remaining] at turned
              cases turned
              exact .ends running current
          | cons dest rest =>
              simp only [PollCycle.turn, current, remaining] at turned
              cases turned
              exact .takesUp running current remaining
      | some poll =>
          cases polled : poll.turn loop.poller moment node with
          | goesOn next middle sent =>
              simp only [PollCycle.turn, current, polled] at turned
              cases turned
              exact .polls running current polled
          | ends result middle sent =>
              simp only [PollCycle.turn, current, polled] at turned
              cases turned
              exact .concludes running current polled
          | sleeps =>
              simp only [PollCycle.turn, current, polled] at turned
              cases turned

private theorem update?_of_current {cycle : PollCycle} {poll : Poll}
    (running : loop.cycle = some cycle)
    (current : cycle.current = some poll) :
    loop.update? moment node = poll.written? loop.poller (poll.turn loop.poller moment node) := by
  unfold update?
  rw [running, Option.bind_some, current, Option.bind_some]

private theorem update?_of_idle (idle : loop.cycle.bind PollCycle.current = none) :
    loop.update? moment node = none := by
  unfold update?
  rw [idle, Option.bind_none]

private theorem Went.wrote (went : loop.Went known moment node later after) :
    Wrote node after (loop.update? moment node) := by
  cases went with
  | polls running current turned =>
      rw [update?_of_current running current, turned]
      exact Poll.Went.wrote_of_goesOn (turned ▸ Poll.went_turn loop.poller moment node _)
  | concludes running current turned =>
      rw [update?_of_current running current, turned]
      exact Poll.Went.wrote_of_ends (turned ▸ Poll.went_turn loop.poller moment node _)
  | takesUp running idle remaining =>
      rw [update?_of_idle (by rw [running]; exact idle)]
      exact wrote_nothing _
  | ends running idle =>
      rw [update?_of_idle (by rw [running]; exact idle)]
      exact wrote_nothing _
  | starts idle due =>
      rw [update?_of_idle (by rw [idle]; rfl)]
      exact wrote_nothing _

theorem update?_eq_some {update : NodeStatus.Update}
    (writes : loop.update? moment node = some update) :
    ∃ cycle poll, loop.cycle = some cycle ∧ cycle.current = some poll ∧
      poll.written? loop.poller (poll.turn loop.poller moment node) = some update := by
  obtain ⟨poll, running, written⟩ := Option.bind_eq_some_iff.mp writes
  obtain ⟨cycle, cycleEq, current⟩ := Option.bind_eq_some_iff.mp running
  exact ⟨cycle, poll, cycleEq, current, written⟩

end PollLoop

namespace Bureau

variable {bureau later : Bureau} {move : Move} {moves : List Move} {reports : List Report}

theorem step?_polls_eq_some {verdict : Verdict}
    (stepped : bureau.step? (.polls verdict) = some (reports, later)) :
    ∃ loop node,
      bureau.loop.Went bureau.known.value { verdict, clock := bureau.clock } bureau.node loop node ∧
        reports = (bureau.loop.update? { verdict, clock := bureau.clock } bureau.node).toList.map
          (.polled bureau.taken) ∧
        later =
          { bureau with
            loop
            node
            taken := if bureau.loop.cycle.isSome then bureau.taken else bureau.known.version } := by
  simp only [step?] at stepped
  split at stepped
  · rename_i turned
    cases stepped
    exact ⟨_, _, PollLoop.went_of_goesOn turned, rfl, rfl⟩
  · cases stepped

/-- What the poller reports is what it writes in its turn. -/
theorem polled_of_step? {version : Nat} {update : NodeStatus.Update}
    (stepped : bureau.step? move = some (reports, later))
    (reported : .polled version update ∈ reports) :
    ∃ verdict, move = .polls verdict ∧ version = bureau.taken ∧
      bureau.loop.update? { verdict, clock := bureau.clock } bureau.node = some update := by
  cases move with
  | hears surroundings frame =>
      cases stepped
      rcases Report.of_mem_reportsOf reported with ⟨_, impossible⟩ | ⟨_, _, impossible⟩ <;>
        cases impossible
  | polls verdict =>
      obtain ⟨loop, node, _, rfl, _⟩ := step?_polls_eq_some stepped
      obtain ⟨written, writes, same⟩ := List.mem_map.mp reported
      cases same
      exact ⟨verdict, rfl, rfl, Option.mem_toList.mp writes⟩
  | fits | tells | flushes | passes | signals =>
      cases stepped
      cases reported
  | tracks addresses =>
      simp only [step?] at stepped
      split at stepped
      · cases stepped
      · cases stepped
        simp at reported
  | publishes =>
      obtain ⟨addresses, _, same⟩ := Option.map_eq_some_iff.mp stepped
      cases same
      cases reported

/-- The poller writes of no fault, and a reply that it writes lies in the queue. -/
theorem written_of_step? {version : Nat} {update : NodeStatus.Update}
    (stepped : bureau.step? move = some (reports, later))
    (reported : .polled version update ∈ reports) :
    (∀ address code, update ≠ .noticed address (.faultReported code)) ∧
      ∀ entry, update = .replied entry → entry ∈ bureau.node.queue.entries := by
  obtain ⟨verdict, _, _, writes⟩ := polled_of_step? stepped reported
  obtain ⟨cycle, poll, _, _, written⟩ := PollLoop.update?_eq_some writes
  exact (Poll.went_turn bureau.loop.poller _ bureau.node poll).of_written? written

/-- The reports tell what becomes of the table. -/
theorem status_step? (stepped : bureau.step? move = some (reports, later)) :
    later.node.status = bureau.node.status.told reports := by
  cases move with
  | hears surroundings frame =>
      cases stepped
      exact Node.status_process bureau.node surroundings frame
  | fits =>
      cases stepped
      rw [setKnownCount_eq]
      rfl
  | polls verdict =>
      obtain ⟨loop, node, went, rfl, rfl⟩ := step?_polls_eq_some stepped
      rw [went.wrote.status_eq]
      cases bureau.loop.update? { verdict, clock := bureau.clock } bureau.node <;> rfl
  | tells | flushes | passes | signals =>
      cases stepped
      rfl
  | tracks addresses =>
      simp only [step?] at stepped
      split at stepped
      · cases stepped
      · cases stepped
        rfl
  | publishes =>
      obtain ⟨addresses, _, same⟩ := Option.map_eq_some_iff.mp stepped
      cases same
      rfl

/-- Whatever lies in the queue lay there before, or it is reported. -/
theorem queue_step? (stepped : bureau.step? move = some (reports, later)) {entry : Entry}
    (lies : entry ∈ later.node.queue.entries) :
    entry ∈ bureau.node.queue.entries ∨ .queued entry ∈ reports := by
  cases move with
  | hears surroundings frame =>
      cases stepped
      rcases (Node.worked_process bureau.node surroundings frame).queue entry lies with
        before | done
      · exact .inl before
      · exact .inr (List.mem_filterMap.mpr ⟨_, mem_of_mem_deeds done, rfl⟩)
  | fits =>
      cases stepped
      rw [setKnownCount_eq] at lies
      exact .inl lies
  | polls verdict =>
      obtain ⟨loop, node, went, rfl, rfl⟩ := step?_polls_eq_some stepped
      rw [went.wrote.queue_eq] at lies
      exact .inl lies
  | flushes =>
      cases stepped
      cases lies
  | tells | passes | signals =>
      cases stepped
      exact .inl lies
  | tracks addresses =>
      simp only [step?] at stepped
      split at stepped
      · cases stepped
      · cases stepped
        exact .inl lies
  | publishes =>
      obtain ⟨addresses, _, same⟩ := Option.map_eq_some_iff.mp stepped
      cases same
      exact .inl lies

/-- A run is a step and a run. -/
theorem follow?_cons_eq_some {rest : List Move}
    (followed : bureau.follow? (move :: rest) = some (reports, later)) :
    ∃ first middle others, bureau.step? move = some (first, middle) ∧
      middle.follow? rest = some (others, later) ∧ reports = first ++ others := by
  obtain ⟨⟨first, middle⟩, stepped, mapped⟩ := Option.bind_eq_some_iff.mp followed
  obtain ⟨⟨others, last⟩, followedRest, same⟩ := Option.map_eq_some_iff.mp mapped
  cases same
  exact ⟨first, middle, others, stepped, followedRest, rfl⟩

theorem status_follow? (followed : bureau.follow? moves = some (reports, later)) :
    later.node.status = bureau.node.status.told reports := by
  induction moves generalizing bureau reports with
  | nil =>
      cases followed
      rfl
  | cons move rest ih =>
      obtain ⟨first, middle, others, stepped, followedRest, rfl⟩ := follow?_cons_eq_some followed
      rw [ih followedRest, status_step? stepped, StatusTable.told_append]

theorem written_of_follow? (followed : bureau.follow? moves = some (reports, later))
    {version : Nat} {update : NodeStatus.Update} (reported : .polled version update ∈ reports) :
    (∀ address code, update ≠ .noticed address (.faultReported code)) ∧
      ∀ entry, update = .replied entry →
        entry ∈ bureau.node.queue.entries ∨ .queued entry ∈ reports := by
  induction moves generalizing bureau reports with
  | nil =>
      cases followed
      cases reported
  | cons move rest ih =>
      obtain ⟨first, middle, others, stepped, followedRest, rfl⟩ := follow?_cons_eq_some followed
      rcases List.mem_append.mp reported with now | thereafter
      · obtain ⟨faultless, lies⟩ := written_of_step? stepped now
        exact ⟨faultless, fun entry same => .inl (lies entry same)⟩
      · obtain ⟨faultless, lies⟩ := ih followedRest thereafter
        refine ⟨faultless, fun entry same => ?_⟩
        rcases lies entry same with there | new
        · rcases queue_step? stepped there with before | new
          · exact .inl before
          · exact .inr (List.mem_append_left _ new)
        · exact .inr (List.mem_append_right _ new)

/-! ### A small controller -/

def small (known : List Address) : Bureau :=
  let fresh : Node :=
    { address := .numbered 1, duty := .controller, ring := Ring.empty 2, queue := Queue.new 1 }
  opened fresh 4 known { hops := 3, timeout := 1000 } 60000

def response (src : Address) (content : Content) : Packet :=
  { dest := .numbered 1, src, content, hops := 2, fingerprint := .blank }

end Bureau

end FloodMesh
