/-
No frame is lost between the radio and the relay.

An arrival takes two moments: the frame comes to lie in the inbox, and then the bell
is rung. A ring that finds nobody listening is remembered, but only once, so several
arrivals may share it. Between any two moments the task may take a turn, and if several
things are due it may mind any of them first; a turn that goes to the known nodes drops
the wait for a frame. The task starts to listen before it looks into the inbox and sleeps
only after it found nothing there, so what lies there while it sleeps came later, and its
ring was heard or is still to come. A frame is taken and processed in one step: the wait
cannot be dropped between the two, and an arrival between them touches only the inbox and
the bell, as it would after them.
-/

import FloodMesh.Proofs.Codec
import FloodMesh.RelayLoop
import Mathlib.Tactic.Common

namespace FloodMesh

/-! ### Rings -/

namespace Bell

private theorem ear_ring {bell : Bell} (present : bell.ear ≠ .away) :
    bell.ring.ear ≠ .away ∧ bell.ring.heard = true := by
  unfold ring heard
  cases ear : bell.ear with
  | away => exact absurd ear present
  | listening => exact ⟨by simp, rfl⟩
  | rung => exact ⟨by simp, by simp⟩
  | answered => exact ⟨by simp, by simp⟩

private theorem ear_listen (bell : Bell) : bell.listen.ear ≠ .away := by
  unfold listen
  split <;> simp

end Bell

namespace RelayLoop

/-! ### Turns -/

/-- The task that minds what is due in a fixed order does nothing else. -/
theorem exists_branch (known : Watch (List Address)) (now : Nat) (place : Place) :
    ∃ branch : Branch, turn known now place = branch.turn known now place := by
  unfold turn
  by_cases stopping : place.loop.stopping = true
  · exact ⟨.shutdown, by rw [if_pos stopping, Branch.turn, if_pos stopping]⟩
  · by_cases minded : minds known place.loop = true
    · exact ⟨.known, by rw [if_neg stopping, if_pos minded, Branch.turn, if_pos minded]⟩
    · exact ⟨.frame, by rw [if_neg stopping, if_neg minded, Branch.turn]⟩

inductive Work
  | processed (surroundings : Surroundings) (frame : Bytes)
  | resized (count : Nat)
  /-- Other tasks have made this of it. -/
  | tended (edit : Node → Node)

namespace Work

def frame? : Work → Option Bytes
  | .processed _ frame => some frame
  | _ => none

def apply (node : Node) : Work → Node × List Effect
  | .processed surroundings frame =>
      let reaction := node.process surroundings frame
      (reaction.node, reaction.effects)
  | .resized count => node.setKnownCount count
  | .tended edit => (edit node, [])

end Work

def replay (node : Node) : List Work → Node × List Effect
  | [] => (node, [])
  | work :: rest =>
      let (later, effects) := work.apply node
      let (final, more) := replay later rest
      (final, effects ++ more)

private theorem replay_append (node : Node) (first second : List Work) :
    replay node (first ++ second) =
      ((replay (replay node first).1 second).1,
        (replay node first).2 ++ (replay (replay node first).1 second).2) := by
  induction first generalizing node with
  | nil => rfl
  | cons work rest ih => simp only [List.cons_append, replay, ih, List.append_assoc]

private theorem replay_singleton (node : Node) (work : Work) :
    replay node [work] = work.apply node := by
  simp only [replay, List.append_nil]

def Branch.work? (known : Watch (List Address)) (now : Nat) (place : Place) :
    Branch → Option Work
  | .shutdown => none
  | .known =>
      if place.loop.seen.any known.changedSince then some (.resized known.value.length)
      else none
  | .frame =>
      if place.loop.phase = .listening then
        (place.station.inbox.take? Inbox.bufferLength).map fun taken =>
          .processed { verdict := place.station.verdict, now } taken.1
      else none

inductive Goes (now : Nat) (place : Place) : Option Work → Place → List Effect → Prop
  | listens (ready : place.loop.phase = .ready) :
      Goes now place none
        { place with
          loop := { place.loop with phase := .listening }
          station := { place.station with bell := place.station.bell.listen } }
        []
  | rests (listening : place.loop.phase = .listening)
      (nothing : place.station.inbox.frames = []) :
      Goes now place none { place with loop := { place.loop with phase := .asleep } } []
  | wakes (asleep : place.loop.phase = .asleep) (heard : place.station.bell.heard = true) :
      Goes now place none
        { place with
          loop := { place.loop with phase := .ready }
          station := { place.station with bell := place.station.bell.finish } }
        []
  | processes {frame : Bytes} {rest : List Bytes} {work : Work}
      (waits : place.station.inbox.frames = frame :: rest)
      (taken : work.frame? = some (frame.take Inbox.bufferLength)) :
      Goes now place (some work)
        { loop := { place.loop with phase := .ready }
          node := (work.apply place.node).1
          station :=
            { place.station with
              inbox := { place.station.inbox with frames := rest }
              bell := place.station.bell.leave } }
        (work.apply place.node).2
  | fits (count : Nat) (seen : Option Nat) :
      Goes now place (some (.resized count))
        { interrupt place with
          node := (place.node.setKnownCount count).1
          loop := { place.loop with phase := .ready, seen } }
        (place.node.setKnownCount count).2
  /-- No change of the known nodes can come any more. -/
  | unwatches :
      Goes now place none
        { interrupt place with loop := { place.loop with phase := .ready, seen := none } } []

private theorem goes_of_receive {now : Nat} {place later : Place} {effects : List Effect}
    (known : Watch (List Address)) (received : receive now place = .goesOn later effects) :
    Goes now place (Branch.work? known now place .frame) later effects := by
  unfold receive at received
  unfold Branch.work?
  cases phase : place.loop.phase with
  | ready =>
      simp only [phase] at received
      cases received
      exact .listens phase
  | listening =>
      simp only [phase, Inbox.take?] at received
      simp only [if_true, Inbox.take?]
      cases waits : place.station.inbox.frames with
      | nil =>
          simp only [waits] at received
          cases received
          exact .rests phase waits
      | cons frame rest =>
          simp only [waits] at received
          cases received
          exact .processes waits rfl
  | asleep =>
      simp only [phase] at received
      split at received
      · rename_i heard
        cases received
        exact .wakes phase heard
      · cases received

private theorem goes_of_update {now : Nat} {place later : Place} {effects : List Effect}
    {known : Watch (List Address)} (updated : update known place = .goesOn later effects) :
    Goes now place (Branch.work? known now place .known) later effects := by
  unfold update at updated
  unfold Branch.work?
  have kept : (interrupt place).loop.seen = place.loop.seen := rfl
  cases seen : place.loop.seen with
  | none =>
      simp only [kept, seen] at updated
      cases updated
  | some version =>
      simp only [kept, seen] at updated
      rw [Option.any_some]
      split at updated
      · rename_i changed
        cases updated
        rw [if_pos changed]
        exact .fits known.value.length (some known.version)
      · rename_i unchanged
        rw [if_neg unchanged]
        split at updated
        · cases updated
          exact .unwatches
        · cases updated

private theorem goes_of_turn {known : Watch (List Address)} {now : Nat} {place later : Place}
    {effects : List Effect} {branch : Branch}
    (turned : branch.turn known now place = .goesOn later effects) :
    Goes now place (branch.work? known now place) later effects := by
  cases branch with
  | shutdown =>
      rw [Branch.turn] at turned
      split at turned <;> cases turned
  | known =>
      rw [Branch.turn] at turned
      split at turned
      · exact goes_of_update turned
      · cases turned
  | frame => exact goes_of_receive known turned

/-- A turn takes at most the oldest frame out of the inbox, and if it does then the node
processes what fits into the buffer. -/
theorem Goes.accounts {now : Nat} {place later : Place} {work : Option Work}
    {effects : List Effect} (goes : Goes now place work later effects) :
    later.station.inbox.limits = place.station.inbox.limits ∧
      (∃ gone, place.station.inbox.frames = gone ++ later.station.inbox.frames ∧
        work.toList.filterMap Work.frame? =
          gone.map fun frame => frame.take Inbox.bufferLength) ∧
      replay place.node work.toList = (later.node, effects) := by
  cases goes with
  | listens | rests | wakes | unwatches => exact ⟨rfl, ⟨[], rfl, rfl⟩, rfl⟩
  | processes waits taken =>
      refine ⟨rfl, ⟨[_], waits, ?_⟩, replay_singleton _ _⟩
      rw [Option.toList_some, List.filterMap_cons_some taken]
      rfl
  | fits count seen => exact ⟨rfl, ⟨[], rfl, rfl⟩, replay_singleton _ _⟩

theorem ends_of_turn {known : Watch (List Address)} {now : Nat} {place later : Place}
    {branch : Branch} (turned : branch.turn known now place = .ends later) :
    later = interrupt place := by
  cases branch with
  | shutdown =>
      rw [Branch.turn] at turned
      split at turned
      · cases turned
        rfl
      · cases turned
  | known =>
      simp only [Branch.turn, update] at turned
      repeat' split at turned
      all_goals cases turned
  | frame =>
      simp only [Branch.turn, receive] at turned
      repeat' split at turned
      all_goals cases turned

/-! ### Interleavings -/

structure Post where
  place : Place
  known : Watch (List Address)
  /-- How many arrivals have yet to ring. -/
  ringing : Nat := 0
  ended : Bool := false
  effects : List Effect := []
  works : List Work := []

namespace Post

inductive Move
  /-- The first moment of an arrival. -/
  | stores (frame : Bytes)
  /-- The second. -/
  | rings
  | runs (branch : Branch) (now : Nat)
  | signals
  | publishes (known : List Address)
  | abandons
  | tunes (verdict : Verdict)
  | tends (edit : Node → Node)

def Move.stored? : Move → Option Bytes
  | .stores frame => some frame
  | _ => none

def stored (moves : List Move) : List Bytes := moves.filterMap Move.stored?

/-- A task that has yet to take its first turn. Frames may wait already, with or
without a ring that is remembered. -/
def opened (node : Node) (station : Station) (seen : Option Nat)
    (known : Watch (List Address)) : Post where
  place :=
    { loop := { seen }
      node
      station :=
        { station with
          inbox := { station.inbox with limits := none }
          bell := { station.bell with ear := .away } } }
  known

def waiting (post : Post) : List Bytes := post.place.station.inbox.frames

def processed (post : Post) : List Bytes := post.works.filterMap Work.frame?

def atStation (post : Post) (edit : Station → Station) : Post :=
  { post with place := { post.place with station := edit post.place.station } }

def goOn (post : Post) (work : Option Work) (place : Place) (effects : List Effect) : Post :=
  { post with
    place
    effects := post.effects ++ effects
    works := post.works ++ work.toList }

def step? (post : Post) : Move → Option Post
  | .stores frame =>
      some
        { post.atStation fun station => station.store frame with
          ringing := post.ringing + 1 }
  | .rings =>
      if 0 < post.ringing then
        some { post.atStation Station.ring with ringing := post.ringing - 1 }
      else none
  | .runs branch now =>
      if post.ended then none
      else
        match branch.turn post.known now post.place with
        | .goesOn place effects =>
            some (post.goOn (branch.work? post.known now post.place) place effects)
        | .ends place => some { post with place, ended := true }
        | .sleeps => none
  | .signals =>
      some
        { post with
          place := { post.place with loop := { post.place.loop with stopping := true } } }
  | .publishes known => some { post with known := post.known.publish known }
  | .abandons => some { post with known := post.known.close }
  | .tunes verdict => some (post.atStation fun station => { station with verdict })
  | .tends edit =>
      some
        { post with
          place := { post.place with node := edit post.place.node }
          works := post.works ++ [.tended edit] }

def follow? (post : Post) : List Move → Option Post
  | [] => some post
  | move :: rest => (post.step? move).bind fun later => later.follow? rest

/-- A turn of the task, or its last one. -/
theorem goes_or_ends {post later : Post} {branch : Branch} {now : Nat}
    (stepped : post.step? (.runs branch now) = some later) :
    (∃ work place effects, Goes now post.place work place effects ∧
      later = post.goOn work place effects) ∨
      later = { post with place := interrupt post.place, ended := true } := by
  simp only [step?] at stepped
  split at stepped
  · cases stepped
  · split at stepped
    · rename_i place effects turned
      cases stepped
      exact .inl ⟨_, place, effects, goes_of_turn turned, rfl⟩
    · rename_i place turned
      cases stepped
      rw [ends_of_turn turned]
      exact .inr rfl
    · cases stepped

/-! ### Nothing is slept through -/

/-- While the task waits for a frame it can hear the bell, and while it sleeps beside a
waiting frame the bell was rung or is about to be. -/
structure Alert (post : Post) : Prop where
  attentive : post.place.loop.phase ≠ .ready → post.place.station.bell.ear ≠ .away
  roused : post.place.loop.phase = .asleep →
    post.waiting = [] ∨ post.place.station.bell.heard = true ∨ 0 < post.ringing

variable {post later : Post}

private theorem alert_opened (node : Node) (station : Station) (seen : Option Nat)
    (known : Watch (List Address)) : (opened node station seen known).Alert where
  attentive waits := absurd rfl waits
  roused asleep := by cases asleep

namespace Alert

private theorem stores (alert : post.Alert) (frame : Bytes) :
    Alert
      { post.atStation fun station => station.store frame with
        ringing := post.ringing + 1 } where
  attentive := alert.attentive
  roused _ := .inr (.inr (Nat.succ_pos _))

/-- A ring reaches whoever listens. -/
theorem rings (alert : post.Alert) :
    Alert { post.atStation Station.ring with ringing := post.ringing - 1 } where
  attentive waits := (Bell.ear_ring (alert.attentive waits)).1
  roused asleep := by
    have waits : post.place.loop.phase ≠ .ready := by
      intro ready
      rw [show post.place.loop.phase = .asleep from asleep] at ready
      cases ready
    exact .inr (.inl (Bell.ear_ring (alert.attentive waits)).2)

private theorem goes (alert : post.Alert) {now : Nat} {work : Option Work} {place : Place}
    {effects : List Effect} (goes : Goes now post.place work place effects) :
    (post.goOn work place effects).Alert := by
  cases goes with
  | listens ready => exact ⟨fun _ => Bell.ear_listen _, fun asleep => by cases asleep⟩
  | rests listening nothing =>
      refine ⟨fun _ => alert.attentive ?_, fun _ => .inl nothing⟩
      rw [listening]
      exact fun ready => by cases ready
  | wakes | processes | fits | unwatches =>
      exact ⟨fun waits => absurd rfl waits, fun asleep => by cases asleep⟩

private theorem step (alert : post.Alert) {move : Move} (stepped : post.step? move = some later) :
    later.Alert := by
  cases move with
  | stores frame =>
      cases stepped
      exact alert.stores frame
  | rings =>
      simp only [step?] at stepped
      split at stepped
      · cases stepped
        exact alert.rings
      · cases stepped
  | runs branch now =>
      rcases goes_or_ends stepped with ⟨work, place, effects, goes, rfl⟩ | rfl
      · exact alert.goes goes
      · exact ⟨fun waits => absurd rfl waits, fun asleep => by cases asleep⟩
  | signals | publishes | abandons | tunes | tends =>
      cases stepped
      exact ⟨alert.attentive, alert.roused⟩

end Alert

/-! ### Nothing is skipped -/

/-- What was processed and what waits is what arrived, in order, and what was done to the
node is on record. -/
structure Recorded (node : Node) (arrived : List Bytes) (post : Post) : Prop where
  unlimited : post.place.station.inbox.limits = none
  accounted : ∃ taken, arrived = taken ++ post.waiting ∧
    post.processed = taken.map fun frame => frame.take Inbox.bufferLength
  replayed : replay node post.works = (post.place.node, post.effects)

private theorem recorded_opened (node : Node) (station : Station) (seen : Option Nat)
    (known : Watch (List Address)) :
    (opened node station seen known).Recorded node station.inbox.frames where
  unlimited := rfl
  accounted := ⟨[], rfl, rfl⟩
  replayed := rfl

namespace Recorded

variable {node : Node} {arrived : List Bytes}

private theorem stores (recorded : post.Recorded node arrived) (frame : Bytes) :
    Recorded node (arrived ++ [frame])
      { post.atStation fun station => station.store frame with
        ringing := post.ringing + 1 } where
  unlimited := recorded.unlimited
  accounted := by
    obtain ⟨taken, split, processed⟩ := recorded.accounted
    refine ⟨taken, ?_, processed⟩
    have unlimited := recorded.unlimited
    simp only [waiting, atStation, Station.store, Inbox.arrive, Inbox.keptForArrival,
      Inbox.cut, unlimited]
    rw [split, List.append_assoc]
    rfl
  replayed := recorded.replayed

private theorem goes (recorded : post.Recorded node arrived) {now : Nat} {work : Option Work}
    {place : Place} {effects : List Effect} (goes : Goes now post.place work place effects) :
    (post.goOn work place effects).Recorded node arrived := by
  obtain ⟨limits, ⟨gone, frames, heard⟩, replayed⟩ := goes.accounts
  obtain ⟨taken, split, processed⟩ := recorded.accounted
  refine ⟨limits.trans recorded.unlimited, ⟨taken ++ gone, ?_, ?_⟩, ?_⟩
  · rw [split, List.append_assoc]
    exact congrArg (taken ++ ·) frames
  · simp only [Post.processed, goOn, List.filterMap_append, List.map_append, heard]
    exact congrArg (· ++ _) processed
  · simp only [goOn, replay_append, recorded.replayed, replayed]

private theorem tends (recorded : post.Recorded node arrived) (edit : Node → Node) :
    Recorded node arrived
      { post with
        place := { post.place with node := edit post.place.node }
        works := post.works ++ [.tended edit] } where
  unlimited := recorded.unlimited
  accounted := by
    obtain ⟨taken, split, processed⟩ := recorded.accounted
    refine ⟨taken, split, ?_⟩
    rw [← processed, Post.processed, List.filterMap_append]
    exact List.append_nil _
  replayed := by
    simp only [replay_append, recorded.replayed, replay_singleton, Work.apply, List.append_nil]

private theorem step (recorded : post.Recorded node arrived) {move : Move}
    (stepped : post.step? move = some later) :
    later.Recorded node (arrived ++ move.stored?.toList) := by
  cases move with
  | stores frame =>
      cases stepped
      exact recorded.stores frame
  | rings =>
      simp only [step?] at stepped
      simp only [Move.stored?, Option.toList_none, List.append_nil]
      split at stepped
      · cases stepped
        exact ⟨recorded.unlimited, recorded.accounted, recorded.replayed⟩
      · cases stepped
  | runs branch now =>
      simp only [Move.stored?, Option.toList_none, List.append_nil]
      rcases goes_or_ends stepped with ⟨work, place, effects, goes, rfl⟩ | rfl
      · exact recorded.goes goes
      · exact ⟨recorded.unlimited, recorded.accounted, recorded.replayed⟩
  | signals | publishes | abandons | tunes =>
      cases stepped
      simp only [Move.stored?, Option.toList_none, List.append_nil]
      exact ⟨recorded.unlimited, recorded.accounted, recorded.replayed⟩
  | tends edit =>
      cases stepped
      simp only [Move.stored?, Option.toList_none, List.append_nil]
      exact recorded.tends edit

private theorem exact (recorded : post.Recorded node arrived) :
    post.processed =
        (arrived.take post.processed.length).map (fun frame => frame.take Inbox.bufferLength) ∧
      post.waiting = arrived.drop post.processed.length := by
  obtain ⟨taken, rfl, processed⟩ := recorded.accounted
  have length : post.processed.length = taken.length := by
    rw [processed, List.length_map]
  rw [length, List.take_left, List.drop_left]
  exact ⟨processed, rfl⟩

end Recorded

structure Sound (node : Node) (arrived : List Bytes) (post : Post) : Prop where
  recorded : post.Recorded node arrived
  alert : post.Alert

private theorem Sound.follow {node : Node} {arrived : List Bytes} (sound : post.Sound node arrived)
    {moves : List Move} (followed : post.follow? moves = some later) :
    later.Sound node (arrived ++ stored moves) := by
  induction moves generalizing post arrived with
  | nil =>
      cases followed
      rw [stored, List.filterMap_nil, List.append_nil]
      exact sound
  | cons move rest ih =>
      obtain ⟨next, stepped, followed⟩ := Option.bind_eq_some_iff.mp followed
      have all := ih ⟨sound.recorded.step stepped, sound.alert.step stepped⟩ followed
      rw [List.append_assoc] at all
      have arrivals : stored (move :: rest) = move.stored?.toList ++ stored rest := by
        cases move <;> rfl
      rw [arrivals]
      exact all

/-! ### What waits is taken -/

/-- If the task takes turns and nothing else happens, then nothing waits any more. -/
def Drains (now : Nat) (post : Post) : Prop :=
  ∃ turns final, post.follow? (List.replicate turns (.runs .frame now)) = some final ∧
    final.waiting = []

variable {now : Nat}

private theorem drains_of_step (stepped : post.step? (.runs .frame now) = some later)
    (drains : later.Drains now) : post.Drains now := by
  obtain ⟨turns, final, followed, emptied⟩ := drains
  refine ⟨turns + 1, final, ?_, emptied⟩
  rw [List.replicate_succ, follow?, stepped]
  exact followed

section Running

variable (running : post.ended = false)
include running

private theorem listens (ready : post.place.loop.phase = .ready) :
    ∃ later, post.step? (.runs .frame now) = some later ∧ later.ended = false ∧
      later.place.loop.phase = .listening ∧ later.waiting = post.waiting := by
  simp only [step?, running, Bool.false_eq_true, if_false, Branch.turn, receive, ready]
  exact ⟨_, rfl, running, rfl, rfl⟩

private theorem takes (listening : post.place.loop.phase = .listening) {frame : Bytes}
    {rest : List Bytes} (waits : post.waiting = frame :: rest) :
    ∃ later, post.step? (.runs .frame now) = some later ∧ later.ended = false ∧
      later.place.loop.phase = .ready ∧ later.waiting = rest := by
  unfold waiting at waits
  simp only [step?, running, Bool.false_eq_true, if_false, Branch.turn, receive, listening,
    Inbox.take?, waits]
  exact ⟨_, rfl, running, rfl, rfl⟩

private theorem wakes (asleep : post.place.loop.phase = .asleep)
    (heard : post.place.station.bell.heard = true) :
    ∃ later, post.step? (.runs .frame now) = some later ∧ later.ended = false ∧
      later.place.loop.phase = .ready ∧ later.waiting = post.waiting := by
  simp only [step?, running, Bool.false_eq_true, if_false, Branch.turn, receive, asleep, heard,
    if_true]
  exact ⟨_, rfl, running, rfl, rfl⟩

private theorem drains_of_ready (ready : post.place.loop.phase = .ready) : post.Drains now := by
  induction waits : post.waiting generalizing post with
  | nil => exact ⟨0, post, rfl, waits⟩
  | cons frame rest ih =>
      obtain ⟨ear, listened, running, listening, same⟩ := listens running ready
      obtain ⟨later, took, running, ready, left⟩ :=
        takes running listening (same.trans waits)
      exact drains_of_step listened (drains_of_step took (ih running ready left))

private theorem drains_of_listening (listening : post.place.loop.phase = .listening) :
    post.Drains now := by
  cases waits : post.waiting with
  | nil => exact ⟨0, post, rfl, waits⟩
  | cons frame rest =>
      obtain ⟨later, took, running, ready, _⟩ := takes running listening waits
      exact drains_of_step took (drains_of_ready running ready)

private theorem drains (alert : post.Alert) (rung : post.ringing = 0) : post.Drains now := by
  cases phase : post.place.loop.phase with
  | ready => exact drains_of_ready running phase
  | listening => exact drains_of_listening running phase
  | asleep =>
      rcases alert.roused phase with nothing | heard | impossible
      · exact ⟨0, post, rfl, nothing⟩
      · obtain ⟨later, woke, running, ready, _⟩ := wakes running phase heard
        exact drains_of_step woke (drains_of_ready running ready)
      · omega

end Running

private theorem stored_replicate (turns : Nat) (branch : Branch) (now : Nat) :
    stored (List.replicate turns (.runs branch now)) = [] := by
  refine List.filterMap_eq_nil_iff.mpr fun move member => ?_
  rw [List.eq_of_mem_replicate member]
  rfl

/-- No frame is lost, whatever arrives and whenever, whichever branch the task minds
first, however often its wait is dropped and whatever others do meanwhile. The frames that
were processed, as far as they fit into the buffer, and then those that wait are what has
arrived, in order, and nothing else was done to the node than what is on record. The task
does not sleep beside a waiting frame unless a ring was heard or is about to come, and
once every arrival has rung it needs only its own turns to process them all. -/
theorem no_frame_lost {node : Node} {station : Station} {seen : Option Nat}
    {known : Watch (List Address)} {moves : List Move} {post : Post}
    (followed : (opened node station seen known).follow? moves = some post) :
    let arrived := station.inbox.frames ++ stored moves
    let count := post.processed.length
    (post.processed =
        (arrived.take count).map (fun frame => frame.take Inbox.bufferLength) ∧
      post.waiting = arrived.drop count) ∧
      replay node post.works = (post.place.node, post.effects) ∧
      (post.place.loop.phase = .asleep → post.waiting ≠ [] →
        post.place.station.bell.heard = true ∨ 0 < post.ringing) ∧
      (post.ended = false → post.ringing = 0 → ∀ now, ∃ turns final,
        post.follow? (List.replicate turns (.runs .frame now)) = some final ∧
          final.waiting = [] ∧
          final.processed = arrived.map fun frame => frame.take Inbox.bufferLength) := by
  intro arrived count
  have sound : post.Sound node arrived :=
    Sound.follow ⟨recorded_opened node station seen known, alert_opened node station seen known⟩
      followed
  refine ⟨sound.recorded.exact, sound.recorded.replayed, ?_, ?_⟩
  · intro asleep waits
    exact (sound.alert.roused asleep).resolve_left waits
  · intro running rung now
    have drains : post.Drains now := drains running sound.alert rung
    obtain ⟨turns, final, drained, emptied⟩ := drains
    refine ⟨turns, final, drained, emptied, ?_⟩
    obtain ⟨taken, split, processed⟩ := (sound.follow drained).recorded.accounted
    rw [stored_replicate, List.append_nil, emptied, List.append_nil] at split
    rw [split, processed]

def loneController : Node where
  address := .numbered 1
  duty := .controller
  ring := Ring.empty 2
  queue := Queue.new 1

/-- Two frames arrive while the task sleeps, and so far the bell was rung once. -/
def arriving : List Move :=
  [.runs .frame 0, .runs .frame 0, .stores [1], .stores [2], .rings]

/-- The task drops its wait before it has noticed, and both rings become one. -/
def distracted : List Move :=
  arriving ++ [.publishes [.numbered 2, .numbered 3], .runs .known 0, .rings]

theorem no_frame_lost_distracted :
    ∃ asleep interrupted : Post,
      (opened loneController {} (some 0) { value := [] }).follow? arriving = some asleep ∧
        asleep.place.loop.phase = .asleep ∧
        (asleep.place.station.bell.heard = true ∨ 0 < asleep.ringing) ∧
      (opened loneController {} (some 0) { value := [] }).follow? distracted =
          some interrupted ∧
        ∃ turns final,
          interrupted.follow? (List.replicate turns (.runs .frame 1)) = some final ∧
            final.waiting = [] ∧ final.processed = [[1], [2]] := by
  obtain ⟨asleep, slept⟩ : ∃ asleep,
      (opened loneController {} (some 0) { value := [] }).follow? arriving = some asleep :=
    ⟨_, rfl⟩
  obtain ⟨interrupted, dropped⟩ : ∃ interrupted,
      (opened loneController {} (some 0) { value := [] }).follow? distracted =
        some interrupted := ⟨_, rfl⟩
  have guarded := (no_frame_lost slept).2.2.1
  have drained := (no_frame_lost dropped).2.2.2
  cases slept
  cases dropped
  exact ⟨_, _, rfl, rfl, guarded rfl (List.cons_ne_nil _ _), rfl, drained rfl rfl 1⟩

end Post

end RelayLoop

end FloodMesh
