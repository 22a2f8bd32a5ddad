/-
Which nodes have a row in the status table.

A reload tracks exactly its nodes. But rows are made by others, too: a fault makes one
for whoever sent it, and a poll for whomever it asks. A cycle keeps to the list that it
took when it began, so only a cycle from before the reload asks anyone who is not
listed now. Apart from these two the rows are those of the listed nodes.
-/

import FloodMesh.Proofs.Bureau

namespace FloodMesh

/-! ### Cycles that keep to a list -/

structure PollCycle.Within (addresses : List Address) (cycle : PollCycle) : Prop where
  current : ∀ poll, cycle.current = some poll → poll.dest ∈ addresses
  remaining : ∀ dest ∈ cycle.remaining, dest ∈ addresses

private theorem PollCycle.within_start (own : Address) (known : List Address) :
    (PollCycle.start own known).Within known where
  current poll impossible := by cases impossible
  remaining dest among := (List.mem_filter.mp among).1

namespace PollLoop

def Within (addresses : List Address) (loop : PollLoop) : Prop :=
  ∀ cycle, loop.cycle = some cycle → cycle.Within addresses

def Sound (loop : PollLoop) : Prop :=
  ∀ cycle poll, loop.cycle = some cycle → cycle.current = some poll → poll.Sound

variable {known addresses : List Address} {moment : Poll.Moment} {node after : Node}
  {loop later : PollLoop}

private theorem Went.sound (went : loop.Went known moment node later after) (sound : loop.Sound) :
    later.Sound := by
  intro cycle poll running current
  cases went with
  | polls wasRunning wasCurrent turned =>
      cases running
      cases current
      exact ((sound _ _ wasRunning wasCurrent).goesOn
        (turned ▸ Poll.went_turn loop.poller moment node _)).1
  | concludes wasRunning wasCurrent turned =>
      cases running
      cases current
  | takesUp wasRunning idle remaining =>
      cases running
      cases current
      exact fun waiter impossible => by cases impossible
  | ends wasRunning idle => cases running
  | starts idle due =>
      cases running
      cases current

private theorem Went.within (went : loop.Went known moment node later after) (sound : loop.Sound)
    (inside : loop.Within addresses) (fresh : loop.cycle = none → known = addresses) :
    later.Within addresses := by
  intro cycle running
  cases went with
  | polls wasRunning wasCurrent turned =>
      cases running
      refine ⟨fun poll current => ?_, (inside _ wasRunning).remaining⟩
      cases current
      rw [((sound _ _ wasRunning wasCurrent).goesOn
        (turned ▸ Poll.went_turn loop.poller moment node _)).2]
      exact (inside _ wasRunning).current _ wasCurrent
  | concludes wasRunning wasCurrent turned =>
      cases running
      exact ⟨fun poll impossible => (by cases impossible), (inside _ wasRunning).remaining⟩
  | takesUp wasRunning idle remaining =>
      cases running
      have listed := (inside _ wasRunning).remaining
      rw [remaining] at listed
      refine ⟨fun poll current => ?_, fun dest among => listed dest (List.mem_cons_of_mem _ among)⟩
      cases current
      exact listed _ List.mem_cons_self
  | ends wasRunning idle => cases running
  | starts idle due =>
      cases running
      cases fresh idle
      exact PollCycle.within_start node.address known

private theorem address_of_update? (sound : loop.Sound) (inside : loop.Within addresses)
    {update : NodeStatus.Update} (writes : loop.update? moment node = some update) :
    update.address ∈ addresses := by
  obtain ⟨cycle, poll, running, current, written⟩ := update?_eq_some writes
  rw [(sound cycle poll running current).address_of_written?
    (Poll.went_turn loop.poller moment node poll) written]
  exact (inside cycle running).current poll current

private theorem tell_cycle {cycle : PollCycle} (running : loop.tell.cycle = some cycle) :
    ∃ before, loop.cycle = some before ∧ cycle = before.tell := by
  obtain ⟨before, wasRunning, rfl⟩ := Option.map_eq_some_iff.mp running
  exact ⟨before, wasRunning, rfl⟩

end PollLoop

private theorem Poll.dest_tell (poll : Poll) : poll.tell.dest = poll.dest := by
  unfold Poll.tell
  split <;> rfl

private theorem Poll.Sound.tell {poll : Poll} (sound : poll.Sound) : poll.tell.Sound := by
  intro waiter waits
  unfold Poll.tell at waits ⊢
  split at waits
  · rename_i before stage
    cases waits
    have same : before.tell.src = before.src := by
      unfold Waiter.tell
      split <;> rfl
    exact same.trans (sound before stage)
  · rename_i other
    exact absurd waits (other waiter)

private theorem PollLoop.Sound.tell {loop : PollLoop} (sound : loop.Sound) : loop.tell.Sound := by
  intro cycle poll running current
  obtain ⟨before, wasRunning, rfl⟩ := tell_cycle running
  obtain ⟨earlier, wasCurrent, rfl⟩ := Option.map_eq_some_iff.mp current
  exact (sound before earlier wasRunning wasCurrent).tell

private theorem PollLoop.Within.tell {addresses : List Address} {loop : PollLoop}
    (inside : loop.Within addresses) : loop.tell.Within addresses := by
  intro cycle running
  obtain ⟨before, wasRunning, rfl⟩ := tell_cycle running
  refine ⟨fun poll current => ?_, (inside before wasRunning).remaining⟩
  obtain ⟨earlier, wasCurrent, rfl⟩ := Option.map_eq_some_iff.mp current
  rw [earlier.dest_tell]
  exact (inside before wasRunning).current earlier wasCurrent

namespace Bureau

/-- The last list that was tracked is in force, or about to be. Whatever the poller wrote
in a cycle of the list in force, it wrote for a listed node. -/
structure Orderly (history : List Report) (bureau : Bureau) : Prop where
  running : bureau.known.closed = false
  sound : bureau.loop.Sound
  taken_le : bureau.taken ≤ bureau.known.version
  within : bureau.taken = bureau.known.version → bureau.loop.Within bureau.known.value
  polled : ∀ version update, .polled version update ∈ history →
    version ≤ bureau.known.version ∧
      (version = bureau.known.version → update.address ∈ bureau.known.value)
  tracked : ∃ before after,
    history = before ++ .tracked (bureau.reloading.getD bureau.known.value) :: after ∧
      ∀ addresses, .tracked addresses ∉ after
  status_eq : bureau.node.status = StatusTable.told {} history

variable {bureau later : Bureau} {move : Move} {moves : List Move}
  {history reports : List Report}

private theorem orderly_opened (fresh : Node) (capacity : Nat) (known : List Address)
    (poller : Poller)
    (period : Nat) : (opened fresh capacity known poller period).Orderly [.tracked known] where
  running := rfl
  sound cycle poll impossible := by cases impossible
  taken_le := Nat.le_refl 0
  within same cycle impossible := by cases impossible
  polled version update among := by simp at among
  tracked := ⟨[], [], rfl, fun addresses => List.not_mem_nil⟩
  status_eq := rfl

/-- A move that leaves the lists alone. -/
theorem Orderly.keeps (orderly : bureau.Orderly history)
    (status_eq : later.node.status = bureau.node.status.told reports)
    (known_eq : later.known = bureau.known) (reloading_eq : later.reloading = bureau.reloading)
    (sound : later.loop.Sound) (taken_le : later.taken ≤ bureau.known.version)
    (within : later.taken = bureau.known.version → later.loop.Within bureau.known.value)
    (untracked : ∀ addresses, .tracked addresses ∉ reports)
    (polled : ∀ version update, .polled version update ∈ reports →
      version ≤ bureau.known.version ∧
        (version = bureau.known.version → update.address ∈ bureau.known.value)) :
    later.Orderly (history ++ reports) where
  running := known_eq ▸ orderly.running
  sound := sound
  taken_le := known_eq ▸ taken_le
  within := by
    rw [known_eq]
    exact within
  polled version update among := by
    rw [known_eq]
    rcases List.mem_append.mp among with before | now
    · exact orderly.polled version update before
    · exact polled version update now
  tracked := by
    obtain ⟨before, after, split, newest⟩ := orderly.tracked
    refine ⟨before, after ++ reports, ?_, ?_⟩
    · rw [split, known_eq, reloading_eq]
      simp
    · intro addresses among
      rcases List.mem_append.mp among with inAfter | now
      · exact newest addresses inAfter
      · exact untracked addresses now
  status_eq := by
    rw [status_eq, orderly.status_eq, StatusTable.told_append]

private theorem Orderly.polls (orderly : bureau.Orderly history) {verdict : Verdict}
    (stepped : bureau.step? (.polls verdict) = some (reports, later)) :
    later.Orderly (history ++ reports) := by
  have status := status_step? stepped
  obtain ⟨loop, node, went, rfl, rfl⟩ := step?_polls_eq_some stepped
  apply orderly.keeps status rfl rfl
  · exact went.sound orderly.sound
  · simp only
    split
    · exact orderly.taken_le
    · exact le_rfl
  · intro current
    cases running : bureau.loop.cycle with
    | none =>
        apply went.within orderly.sound _ fun _ => rfl
        intro cycle impossible
        rw [running] at impossible
        cases impossible
    | some cycle =>
        simp only [running, Option.isSome_some, if_true] at current
        exact went.within orderly.sound (orderly.within current) fun _ => rfl
  · intro addresses among
    simp at among
  · intro version update among
    obtain ⟨written, writes, same⟩ := List.mem_map.mp among
    cases same
    refine ⟨orderly.taken_le, fun current => ?_⟩
    exact PollLoop.address_of_update? orderly.sound (orderly.within current)
      (Option.mem_toList.mp writes)

/-- No cycle of the new list runs yet. -/
theorem Orderly.publishes (orderly : bureau.Orderly history)
    (stepped : bureau.step? .publishes = some (reports, later)) :
    reports = [] ∧ later.Orderly history := by
  obtain ⟨addresses, reloading, same⟩ := Option.map_eq_some_iff.mp stepped
  cases same
  have publishedEq : bureau.known.publish addresses =
      { bureau.known with value := addresses, version := bureau.known.version + 1 } := by
    exact if_neg (by simp [orderly.running])
  have older := orderly.taken_le
  refine ⟨rfl, ?_⟩
  simp only [publishedEq]
  refine ⟨orderly.running, orderly.sound, ?_, ?_, ?_, ?_, orderly.status_eq⟩
  · simp only
    omega
  · intro same
    simp only at same
    omega
  · intro version update among
    have before := (orderly.polled version update among).1
    simp only
    omega
  · obtain ⟨before, after, split, newest⟩ := orderly.tracked
    rw [reloading] at split
    exact ⟨before, after, split, newest⟩

private theorem Orderly.step (orderly : bureau.Orderly history)
    (stepped : bureau.step? move = some (reports, later)) :
    later.Orderly (history ++ reports) := by
  have status := status_step? stepped
  cases move with
  | polls verdict => exact orderly.polls stepped
  | hears surroundings frame =>
      cases stepped
      refine orderly.keeps status rfl rfl orderly.sound orderly.taken_le orderly.within ?_ ?_
      · intro addresses among
        rcases Report.of_mem_reportsOf among with ⟨_, impossible⟩ | ⟨_, _, impossible⟩ <;>
          cases impossible
      · intro version update among
        rcases Report.of_mem_reportsOf among with ⟨_, impossible⟩ | ⟨_, _, impossible⟩ <;>
          cases impossible
  | fits | flushes | passes | signals =>
      cases stepped
      exact orderly.keeps status rfl rfl orderly.sound orderly.taken_le orderly.within
        (fun addresses => List.not_mem_nil) (fun version update none => by cases none)
  | tells =>
      cases stepped
      exact orderly.keeps status rfl rfl orderly.sound.tell orderly.taken_le
        (fun current => (orderly.within current).tell) (fun addresses => List.not_mem_nil)
        (fun version update none => by cases none)
  | tracks addresses =>
      simp only [step?] at stepped
      split at stepped
      · cases stepped
      · cases stepped
        exact
          { orderly with
            polled := fun version update among =>
              orderly.polled version update (by simpa using among)
            tracked := ⟨history, [], rfl, fun other => List.not_mem_nil⟩
            status_eq := by rw [status, orderly.status_eq, StatusTable.told_append] }
  | publishes =>
      obtain ⟨rfl, published⟩ := orderly.publishes stepped
      rw [List.append_nil]
      exact published

private theorem Orderly.follow (orderly : bureau.Orderly history)
    (followed : bureau.follow? moves = some (reports, later)) :
    later.Orderly (history ++ reports) := by
  induction moves generalizing bureau history reports with
  | nil =>
      cases followed
      rw [List.append_nil]
      exact orderly
  | cons move rest ih =>
      obtain ⟨first, middle, others, stepped, followedRest, rfl⟩ := follow?_cons_eq_some followed
      rw [← List.append_assoc]
      exact ih (orderly.step stepped) followedRest

/-- Between reloads, these have a row: the listed nodes, whoever sent a fault since they
were tracked, and whomever a cycle of an older list asked since. -/
theorem rows_between_reloads {fresh : Node} {capacity : Nat} {known : List Address}
    {poller : Poller} {period : Nat}
    (followed : (opened fresh capacity known poller period).follow? moves =
      some (reports, later))
    (settled : later.reloading = none) :
    ∃ before after,
      .tracked known :: reports = before ++ .tracked later.known.value :: after ∧
        (∀ addresses, .tracked addresses ∉ after) ∧
        ∀ address, (later.node.status.get? address).isSome ↔
          address ∈ later.known.value ∨ (∃ code, .faulted address code ∈ after) ∨
            ∃ version update, version < later.known.version ∧
              .polled version update ∈ after ∧ update.address = address := by
  have orderly := (orderly_opened fresh capacity known poller period).follow followed
  obtain ⟨before, after, split, newest⟩ := orderly.tracked
  rw [settled, Option.getD_none] at split
  refine ⟨before, after, split, newest, fun address => ?_⟩
  have untracked : ∀ addresses, .tracks addresses ∉ after.filterMap Report.event? :=
    fun addresses among => newest addresses (Report.tracks_mem_iff.mp among)
  have startIff (row : Option NodeStatus) :
      (NodeStatus.rowAfter address row (.tracks later.known.value)).isSome ↔
        address ∈ later.known.value := by
    simp only [NodeStatus.rowAfter]
    split <;> simp [*]
  have events : (.tracked later.known.value :: after).filterMap Report.event? =
      .tracks later.known.value :: after.filterMap Report.event? := rfl
  rw [orderly.status_eq, split, StatusTable.told_append, StatusTable.get?_told, events,
    List.foldl_cons, NodeStatus.isSome_foldl_rowAfter_iff untracked, startIff]
  constructor
  · rintro (listed | ⟨update, among, own⟩)
    · exact .inl listed
    · rcases Report.updates_mem_iff.mp among with ⟨src, code, member, rfl⟩ | ⟨version, member⟩
      · cases own
        exact .inr (.inl ⟨code, member⟩)
      · obtain ⟨older, listed⟩ := orderly.polled version update (by rw [split]; simp [member])
        by_cases current : version = later.known.version
        · exact .inl (own ▸ listed current)
        · exact .inr (.inr ⟨version, update, by omega, member, own⟩)
  · rintro (listed | ⟨code, member⟩ | ⟨version, update, _, member, own⟩)
    · exact .inl listed
    · exact .inr ⟨_, Report.updates_mem_iff.mpr (.inl ⟨address, code, member, rfl⟩), rfl⟩
    · exact .inr ⟨update, Report.updates_mem_iff.mpr (.inr ⟨version, member⟩), own⟩

/-! ### Strangers, and nodes that come back -/

def outline (bureau : Bureau) :
    Option (List Address) × List Address × Nat × List Address :=
  (bureau.reloading, bureau.known.value, bureau.known.version,
    bureau.node.status.rows.map NodeStatus.address)

private theorem exists_of_outline {start : Bureau} {reloading : Option (List Address)}
    {known rows : List Address} {version : Nat}
    (run : (start.follow? moves).map (Prod.map id outline) =
      some (reports, reloading, known, version, rows)) :
    ∃ later, start.follow? moves = some (reports, later) ∧ later.reloading = reloading ∧
      later.known.value = known ∧ later.known.version = version ∧
        later.node.status.rows.map NodeStatus.address = rows := by
  obtain ⟨⟨_, later⟩, followed, same⟩ := Option.map_eq_some_iff.mp run
  cases same
  exact ⟨later, followed, rfl, rfl, rfl, rfl⟩

def busyTurns (count : Nat) : List Move := List.replicate count (.polls (some .busy))

def strangeFault : List Move :=
  [.hears { verdict := none, now := 0 } (response (.numbered 9) (.fault 10)).frame]

def reloadInCycle : List Move :=
  busyTurns 2 ++ [.tracks [.numbered 2], .publishes] ++ busyTurns 5

/-- The stranger has a row, and the dropped node has one again once the cycle polls it. -/
theorem rows_of_unlisted_nodes :
    (∃ later, (small [.numbered 2]).follow? strangeFault =
        some ([.faulted (.numbered 9) 10], later) ∧
      later.reloading = none ∧ later.known.value = [.numbered 2] ∧
        later.node.status.rows.map NodeStatus.address = [.numbered 2, .numbered 9]) ∧
    ∃ later, (small [.numbered 2, .numbered 3]).follow? reloadInCycle =
        some ([.tracked [.numbered 2], .polled 0 (.noticed (.numbered 2) .sendFailed),
          .polled 0 (.noticed (.numbered 3) .sendFailed)], later) ∧
      later.reloading = none ∧ later.known.value = [.numbered 2] ∧
        later.node.status.rows.map NodeStatus.address = [.numbered 2, .numbered 3] := by
  have strange : ((small [.numbered 2]).follow? strangeFault).map (Prod.map id outline) =
      some ([.faulted (.numbered 9) 10], none, [.numbered 2], 0,
        [.numbered 2, .numbered 9]) := by
    decide +kernel
  have reload : ((small [.numbered 2, .numbered 3]).follow? reloadInCycle).map
      (Prod.map id outline) =
        some ([.tracked [.numbered 2], .polled 0 (.noticed (.numbered 2) .sendFailed),
          .polled 0 (.noticed (.numbered 3) .sendFailed)], none, [.numbered 2], 1,
          [.numbered 2, .numbered 3]) := by
    decide +kernel
  obtain ⟨first, firstRun, firstSettled, firstKnown, _, firstRows⟩ := exists_of_outline strange
  obtain ⟨second, secondRun, secondSettled, secondKnown, _, secondRows⟩ :=
    exists_of_outline reload
  exact ⟨⟨first, firstRun, firstSettled, firstKnown, firstRows⟩,
    ⟨second, secondRun, secondSettled, secondKnown, secondRows⟩⟩

def calmReload : List Move := [.tracks [.numbered 2], .publishes] ++ busyTurns 4

theorem rows_between_reloads_calmReload :
    ∃ reports later,
      (small [.numbered 2, .numbered 3]).follow? calmReload = some (reports, later) ∧
        later.reloading = none ∧
          ∀ address, (later.node.status.get? address).isSome ↔ address = .numbered 2 := by
  have run : ((small [.numbered 2, .numbered 3]).follow? calmReload).map
      (Prod.map id outline) =
        some ([.tracked [.numbered 2], .polled 1 (.noticed (.numbered 2) .sendFailed)], none,
          [.numbered 2], 1, [.numbered 2]) := by
    decide +kernel
  obtain ⟨later, followed, settled, known, version, _⟩ := exists_of_outline run
  obtain ⟨before, after, split, _, rows⟩ := rows_between_reloads followed settled
  have among : ∀ report ∈ after, report ∈ before ++ .tracked later.known.value :: after :=
    fun report member => List.mem_append_right _ (List.mem_cons_of_mem _ member)
  rw [← split] at among
  refine ⟨_, later, followed, settled, fun address => ?_⟩
  rw [rows, known, version]
  constructor
  · rintro (listed | ⟨code, member⟩ | ⟨older, update, before, member, _⟩)
    · exact List.mem_singleton.mp listed
    · simpa using among _ member
    · have current := among _ member
      simp only [List.mem_cons, reduceCtorEq, Report.polled.injEq, List.not_mem_nil, or_false,
        false_or] at current
      omega
  · exact fun same => .inl (List.mem_singleton.mpr same)

end Bureau

end FloodMesh
