/-
No arrival is slept through.

A push takes two moments: the entry is appended, and then the waiters are told.
Between any two moments other tasks may run, waiters and pushers as well as those
who take entries away. A waiter that sleeps and was not told has seen the queue
without a match, so a match that lies there now came later, and its pusher is
still about to tell. Time passes only while no waiter can run, and not beyond a
deadline.
-/

import FloodMesh.Proofs.Codec
import FloodMesh.WaitRoom
import Mathlib.Tactic.Common

namespace FloodMesh

/-! ### The oldest match -/

namespace Queue

def Lacks (queue : Queue) (dest src : Address) : Prop :=
  ∀ entry ∈ queue.entries, entry.isFor dest src = false

def Oldest (queue : Queue) (dest src : Address) (entry : Entry) : Prop :=
  entry.isFor dest src = true ∧ ∃ older newer, queue.entries = older ++ entry :: newer ∧
    ∀ other ∈ older, other.isFor dest src = false

variable {queue : Queue} {dest src : Address}

theorem find?_eq_some_iff {entry : Entry} :
    queue.find? dest src = some entry ↔ queue.Oldest dest src entry := by
  unfold find? Oldest
  rw [List.find?_eq_some_iff_append]
  simp only [Bool.not_eq_true']

private theorem find?_eq_none_iff : queue.find? dest src = none ↔ queue.Lacks dest src := by
  unfold find? Lacks
  rw [List.find?_eq_none]
  simp only [Bool.not_eq_true]

private theorem Lacks.pop (lacks : queue.Lacks dest src) : queue.pop.2.Lacks dest src := by
  intro entry left
  exact lacks entry (List.mem_of_mem_drop left)

private theorem lacks_drain (queue : Queue) (dest src : Address) :
    queue.drain.2.Lacks dest src := by
  intro entry impossible
  cases impossible

end Queue

/-! ### One turn of a waiter -/

namespace Waiter

def Unaware (waiter : Waiter) : Prop := waiter.phase = .asleep ∧ waiter.told = false

inductive Becomes (queue : Queue) (now : Nat) (waiter : Waiter) : Wait → Prop
  | asks (phase : waiter.phase = .asking) :
      Becomes queue now waiter (.waiting { waiter with phase := .looking, told := false })
  | finds {entry : Entry} (phase : waiter.phase = .looking)
      (oldest : queue.Oldest waiter.dest waiter.src entry) :
      Becomes queue now waiter (.found entry now)
  | rests (phase : waiter.phase = .looking)
      (lacks : queue.Lacks waiter.dest waiter.src) :
      Becomes queue now waiter (.waiting { waiter with phase := .asleep })
  | wakes (phase : waiter.phase = .asleep) (told : waiter.told = true) :
      Becomes queue now waiter (.waiting { waiter with phase := .asking, told := false })
  | expires (unaware : waiter.Unaware) (late : waiter.deadline ≤ now) :
      Becomes queue now waiter (.expired now)

/-- How the wait stands after a turn, if the waiter can run. -/
def Turn.wait? (now : Nat) : Turn → Option Wait
  | .goesOn waiter => some (.waiting waiter)
  | .found entry => some (.found entry now)
  | .expired => some (.expired now)
  | .sleeps => none

theorem wait?_turn_eq_some_iff {waiter : Waiter} {queue : Queue} {now : Nat} {wait : Wait} :
    (waiter.turn queue now).wait? now = some wait ↔ waiter.Becomes queue now wait := by
  unfold turn
  constructor
  · intro ran
    cases phase : waiter.phase with
    | asking =>
        simp only [phase] at ran
        cases ran
        exact .asks phase
    | looking =>
        cases seen : queue.find? waiter.dest waiter.src with
        | some entry =>
            simp only [phase, seen] at ran
            cases ran
            exact .finds phase (Queue.find?_eq_some_iff.mp seen)
        | none =>
            simp only [phase, seen] at ran
            cases ran
            exact .rests phase (Queue.find?_eq_none_iff.mp seen)
    | asleep =>
        cases told : waiter.told with
        | true =>
            simp only [phase, told, if_true] at ran
            cases ran
            exact .wakes phase told
        | false =>
            by_cases late : waiter.deadline ≤ now
            · simp only [phase, told, Bool.false_eq_true, if_false, if_pos late] at ran
              cases ran
              exact .expires ⟨phase, told⟩ late
            · simp only [phase, told, Bool.false_eq_true, if_false, if_neg late] at ran
              cases ran
  · intro becomes
    cases becomes with
    | asks phase => simp only [phase, Turn.wait?]
    | finds phase oldest => simp only [phase, Queue.find?_eq_some_iff.mpr oldest, Turn.wait?]
    | rests phase lacks => simp only [phase, Queue.find?_eq_none_iff.mpr lacks, Turn.wait?]
    | wakes phase told => simp only [phase, told, if_true, Turn.wait?]
    | expires unaware late =>
        simp only [unaware.1, unaware.2, Bool.false_eq_true, if_false, if_pos late, Turn.wait?]

end Waiter

namespace WaitRoom

private theorem turn?_eq_map {room : WaitRoom} {position : Nat} {waiter : Waiter}
    (present : room.waits[position]? = some (.waiting waiter)) :
    room.turn? position =
      ((waiter.turn room.queue room.now).wait? room.now).map fun wait =>
        { room with waits := room.waits.set position wait } := by
  unfold turn?
  simp only [present]
  cases waiter.turn room.queue room.now <;> rfl

/-- A turn changes the one who takes it, and nothing else in the room. -/
theorem turn?_eq_some_iff {room later : WaitRoom} {position : Nat} :
    room.turn? position = some later ↔
      ∃ waiter wait, room.waits[position]? = some (.waiting waiter) ∧
        waiter.Becomes room.queue room.now wait ∧
        later = { room with waits := room.waits.set position wait } := by
  constructor
  · intro ran
    have waiting : ∃ waiter, room.waits[position]? = some (.waiting waiter) := by
      unfold turn? at ran
      split at ran
      · exact ⟨_, by assumption⟩
      · cases ran
    obtain ⟨waiter, present⟩ := waiting
    rw [turn?_eq_map present] at ran
    obtain ⟨wait, becomes, rfl⟩ := Option.map_eq_some_iff.mp ran
    exact ⟨waiter, wait, present, Waiter.wait?_turn_eq_some_iff.mp becomes, rfl⟩
  · intro ⟨waiter, wait, present, becomes, laterEq⟩
    rw [turn?_eq_map present, Waiter.wait?_turn_eq_some_iff.mpr becomes, laterEq]
    rfl

end WaitRoom

/-! ### Interleavings -/

structure Stay where
  dest : Address
  src : Address
  came : Nat
  deadline : Nat
  looked : List Queue := []

def Stay.see (queue : Queue) (stay : Stay) : Stay :=
  { stay with looked := stay.looked ++ [queue] }

structure Lobby where
  room : WaitRoom
  /-- How many pushers have appended an entry and have yet to tell. -/
  telling : Nat := 0
  /-- One for each waiter, in the order in which they came. -/
  stays : List Stay := []

namespace Lobby

inductive Move
  | enters (dest src : Address) (timeout : Nat)
  | runs (position : Nat)
  | appends (dest src : Address) (data : Reading)
  | tells
  | pops
  | drains
  | passes (time : Nat)

def opened (queue : Queue) (now : Nat) : Lobby := { room := { now, queue } }

def looks (room : WaitRoom) (position : Nat) : Bool :=
  match room.waits[position]? with
  | some (.waiting waiter) => waiter.phase = .looking
  | _ => false

def lets (now time : Nat) : Waiter.Wait → Bool
  | .waiting waiter => !waiter.canRun now && time ≤ waiter.deadline
  | _ => true

def step? (lobby : Lobby) : Move → Option Lobby
  | .enters dest src timeout =>
      let room := lobby.room
      some
        { lobby with
          room := (room.enter dest src timeout).2
          stays :=
            lobby.stays ++
              [{ dest, src, came := room.now, deadline := room.now + timeout }] }
  | .runs position =>
      (lobby.room.turn? position).map fun room =>
        { lobby with
          room
          stays :=
            if looks lobby.room position then
              lobby.stays.modify position (Stay.see lobby.room.queue)
            else lobby.stays }
  | .appends dest src data =>
      some
        { lobby with
          room := (lobby.room.append dest src data).2
          telling := lobby.telling + 1 }
  | .tells =>
      if 0 < lobby.telling then
        some { lobby with room := lobby.room.tell, telling := lobby.telling - 1 }
      else none
  | .pops => some { lobby with room := lobby.room.pop.2 }
  | .drains => some { lobby with room := lobby.room.drain.2 }
  | .passes time =>
      if lobby.room.now ≤ time ∧ lobby.room.waits.all (lets lobby.room.now time) then
        some { lobby with room := { lobby.room with now := time } }
      else none

def follow? (lobby : Lobby) : List Move → Option Lobby
  | [] => some lobby
  | move :: rest => (lobby.step? move).bind fun later => later.follow? rest

/-! ### What holds all the time -/

/-- How a wait stands, given what its waiter came for and has seen. -/
def Stands (now : Nat) (stay : Stay) : Waiter.Wait → Prop
  | .waiting waiter =>
      (waiter.dest = stay.dest ∧ waiter.src = stay.src ∧ waiter.deadline = stay.deadline) ∧
        (stay.came ≤ now ∧ now ≤ stay.deadline) ∧
        ∀ queue ∈ stay.looked, queue.Lacks stay.dest stay.src
  | .found entry time =>
      (stay.came ≤ time ∧ time ≤ stay.deadline) ∧
        ∃ earlier last, stay.looked = earlier ++ [last] ∧
          last.Oldest stay.dest stay.src entry ∧
          ∀ queue ∈ earlier, queue.Lacks stay.dest stay.src
  | .expired time =>
      time = stay.deadline ∧ ∀ queue ∈ stay.looked, queue.Lacks stay.dest stay.src

/-- A sleeper that nobody told has no match to see, unless a pusher is about to
tell it. -/
def Noticed (queue : Queue) (telling : Nat) : Waiter.Wait → Prop
  | .waiting waiter => waiter.Unaware → queue.Lacks waiter.dest waiter.src ∨ 0 < telling
  | _ => True

structure Sound (lobby : Lobby) : Prop where
  aligned : lobby.stays.length = lobby.room.waits.length
  stands : ∀ (position : Nat) (stay : Stay) (wait : Waiter.Wait),
    lobby.stays[position]? = some stay → lobby.room.waits[position]? = some wait →
      Stands lobby.room.now stay wait
  noticed : ∀ wait ∈ lobby.room.waits, Noticed lobby.room.queue lobby.telling wait

private theorem sound_opened (queue : Queue) (now : Nat) : (opened queue now).Sound where
  aligned := rfl
  stands position stay wait here := by cases here
  noticed wait here := by cases here

section Steps

variable {lobby later : Lobby}

private theorem Sound.entered (sound : lobby.Sound) (dest src : Address) (timeout : Nat) :
    Sound
      { lobby with
        room := (lobby.room.enter dest src timeout).2
        stays := lobby.stays ++
          [{ dest, src, came := lobby.room.now, deadline := lobby.room.now + timeout }] } := by
  have aligned := sound.aligned
  constructor
  · simp only [WaitRoom.enter, List.length_append, List.length_singleton, aligned]
  · intro position stay wait staying waiting
    simp only [WaitRoom.enter, List.getElem?_append, aligned] at staying waiting ⊢
    by_cases earlier : position < lobby.room.waits.length
    · rw [if_pos earlier] at staying waiting
      exact sound.stands position stay wait staying waiting
    · rw [if_neg earlier, List.getElem?_singleton] at staying waiting
      split at staying
      · rename_i last
        rw [if_pos last] at waiting
        cases staying
        cases waiting
        refine ⟨⟨rfl, rfl, rfl⟩, ⟨Nat.le_refl _, Nat.le_add_right _ _⟩, ?_⟩
        intro queue impossible
        cases impossible
      · cases staying
  · intro wait member
    simp only [WaitRoom.enter] at member ⊢
    rcases List.mem_append.mp member with earlier | last
    · exact sound.noticed wait earlier
    · rw [List.mem_singleton.mp last]
      intro unaware
      cases unaware.1

/-- Others change the queue; the waits stay as they are. -/
theorem Sound.of_queue (sound : lobby.Sound) {queue : Queue} {telling : Nat}
    (noticed : ∀ wait ∈ lobby.room.waits,
      Noticed lobby.room.queue lobby.telling wait → Noticed queue telling wait) :
    Sound { lobby with room := { lobby.room with queue }, telling } where
  aligned := sound.aligned
  stands := sound.stands
  noticed wait member := noticed wait member (sound.noticed wait member)

private theorem Sound.appended (sound : lobby.Sound) (dest src : Address) (data : Reading) :
    Sound
      { lobby with
        room := (lobby.room.append dest src data).2, telling := lobby.telling + 1 } := by
  refine sound.of_queue ?_
  intro wait member _
  cases wait with
  | waiting waiter => exact fun unaware => .inr (Nat.succ_pos _)
  | found entry time => trivial
  | expired time => trivial

private theorem Sound.popped (sound : lobby.Sound) :
    Sound { lobby with room := lobby.room.pop.2 } := by
  refine sound.of_queue ?_
  intro wait member noticed
  cases wait with
  | waiting waiter => exact fun unaware => (noticed unaware).imp_left Queue.Lacks.pop
  | found entry time => trivial
  | expired time => trivial

private theorem Sound.drained (sound : lobby.Sound) :
    Sound { lobby with room := lobby.room.drain.2 } := by
  refine sound.of_queue ?_
  intro wait member _
  cases wait with
  | waiting waiter => exact fun unaware => .inl (Queue.lacks_drain _ _ _)
  | found entry time => trivial
  | expired time => trivial

private theorem not_unaware_tell (waiter : Waiter) : ¬ waiter.tell.Unaware := by
  intro unaware
  unfold Waiter.tell at unaware
  cases phase : waiter.phase with
  | asking =>
      simp only [phase] at unaware
      exact absurd (phase.symm.trans unaware.1) (by decide)
  | looking =>
      simp only [phase] at unaware
      cases unaware.2
  | asleep =>
      simp only [phase] at unaware
      cases unaware.2

private theorem stands_tell {now : Nat} {stay : Stay} {waiter : Waiter}
    (stands : Stands now stay (.waiting waiter)) :
    Stands now stay (.waiting waiter.tell) := by
  unfold Waiter.tell
  cases waiter.phase with
  | asking => exact stands
  | looking => exact stands
  | asleep => exact stands

private theorem Sound.told (sound : lobby.Sound) (telling : Nat) :
    Sound { lobby with room := lobby.room.tell, telling } := by
  constructor
  · simp only [WaitRoom.tell, List.length_map, sound.aligned]
  · intro position stay wait staying waiting
    simp only [WaitRoom.tell, List.getElem?_map] at waiting ⊢
    obtain ⟨before, present, rfl⟩ := Option.map_eq_some_iff.mp waiting
    have stands := sound.stands position stay before staying present
    cases before with
    | waiting waiter => exact stands_tell stands
    | found entry time => exact stands
    | expired time => exact stands
  · intro wait member
    simp only [WaitRoom.tell] at member ⊢
    obtain ⟨before, _, rfl⟩ := List.mem_map.mp member
    cases before with
    | waiting waiter => exact fun unaware => absurd unaware (not_unaware_tell waiter)
    | found entry time => trivial
    | expired time => trivial

private theorem Sound.passed (sound : lobby.Sound) {time : Nat} (forward : lobby.room.now ≤ time)
    (lets : lobby.room.waits.all (lets lobby.room.now time) = true) :
    Sound { lobby with room := { lobby.room with now := time } } := by
  refine ⟨sound.aligned, ?_, sound.noticed⟩
  intro position stay wait staying waiting
  have stands := sound.stands position stay wait staying waiting
  have letsHere := List.all_eq_true.mp lets wait (List.mem_of_getElem? waiting)
  cases wait with
  | waiting waiter =>
      obtain ⟨same, within, seen⟩ := stands
      simp only [Lobby.lets, Bool.and_eq_true, decide_eq_true_eq] at letsHere
      have timely : time ≤ stay.deadline := same.2.2 ▸ letsHere.2
      exact ⟨same, ⟨Nat.le_trans within.1 forward, timely⟩, seen⟩
  | found entry time => exact stands
  | expired time => exact stands

private theorem stands_becomes {queue : Queue} {now : Nat} {stay : Stay} {waiter : Waiter}
    {wait : Waiter.Wait} (stands : Stands now stay (.waiting waiter))
    (becomes : waiter.Becomes queue now wait) :
    Stands now
      (if waiter.phase = .looking then stay.see queue else stay) wait := by
  obtain ⟨⟨destEq, srcEq, deadlineEq⟩, within, seen⟩ := stands
  cases becomes with
  | asks phase =>
      rw [if_neg (by rw [phase]; decide)]
      exact ⟨⟨destEq, srcEq, deadlineEq⟩, within, seen⟩
  | finds phase oldest =>
      rw [if_pos phase]
      rw [destEq, srcEq] at oldest
      exact ⟨within, stay.looked, queue, rfl, oldest, seen⟩
  | rests phase lacks =>
      rw [if_pos phase]
      rw [destEq, srcEq] at lacks
      refine ⟨⟨destEq, srcEq, deadlineEq⟩, within, ?_⟩
      intro other looked
      rcases List.mem_append.mp looked with earlier | last
      · exact seen other earlier
      · rw [List.mem_singleton.mp last]
        exact lacks
  | wakes phase told =>
      rw [if_neg (by rw [phase]; decide)]
      exact ⟨⟨destEq, srcEq, deadlineEq⟩, within, seen⟩
  | expires unaware late =>
      rw [if_neg (by rw [unaware.1]; decide)]
      have timely := within.2
      refine ⟨?_, seen⟩
      omega

private theorem noticed_becomes {queue : Queue} {now telling : Nat} {waiter : Waiter}
    {wait : Waiter.Wait} (becomes : waiter.Becomes queue now wait) :
    Noticed queue telling wait := by
  cases becomes with
  | asks phase => exact fun unaware => by cases unaware.1
  | finds phase oldest => trivial
  | rests phase lacks => exact fun unaware => .inl lacks
  | wakes phase told => exact fun unaware => by cases unaware.1
  | expires unaware late => trivial

private theorem getElem?_stays {stays : List Stay} {position place : Nat} {looking : Prop}
    [Decidable looking] {queue : Queue} :
    (if looking then stays.modify position (Stay.see queue) else stays)[place]? =
      stays[place]?.map fun stay =>
        if place = position ∧ looking then stay.see queue else stay := by
  by_cases looked : looking
  · rw [if_pos looked, List.getElem?_modify]
    simp only [looked, and_true, eq_comm]
    rfl
  · rw [if_neg looked]
    simp only [looked, and_false, if_false]
    exact Option.map_id'.symm

private theorem Sound.ran (sound : lobby.Sound) {position : Nat}
    (stepped : lobby.step? (.runs position) = some later) : later.Sound := by
  obtain ⟨room, turned, rfl⟩ := Option.map_eq_some_iff.mp stepped
  obtain ⟨waiter, wait, present, becomes, rfl⟩ := WaitRoom.turn?_eq_some_iff.mp turned
  have looksEq : looks lobby.room position = decide (waiter.phase = .looking) := by
    unfold looks
    rw [present]
  constructor
  · simp only [List.length_set]
    split
    · rw [List.length_modify]
      exact sound.aligned
    · exact sound.aligned
  · intro place after other staying waiting
    simp only [looksEq, decide_eq_true_eq, getElem?_stays] at staying waiting ⊢
    obtain ⟨stay, before, rfl⟩ := Option.map_eq_some_iff.mp staying
    by_cases here : place = position
    · subst here
      rw [List.getElem?_set_self (List.getElem?_eq_some_iff.mp present).1] at waiting
      cases waiting
      simp only [true_and]
      exact stands_becomes (sound.stands place stay _ before present) becomes
    · rw [List.getElem?_set_ne (fun same => here same.symm)] at waiting
      simp only [here, false_and, if_false]
      exact sound.stands place stay other before waiting
  · intro other member
    rcases List.mem_or_eq_of_mem_set member with old | new
    · exact sound.noticed other old
    · rw [new]
      exact noticed_becomes becomes

private theorem Sound.step (sound : lobby.Sound) {move : Move}
    (stepped : lobby.step? move = some later) :
    later.Sound := by
  cases move with
  | enters dest src timeout =>
      cases stepped
      exact sound.entered dest src timeout
  | runs position => exact sound.ran stepped
  | appends dest src data =>
      cases stepped
      exact sound.appended dest src data
  | tells =>
      simp only [step?] at stepped
      split at stepped
      · cases stepped
        exact sound.told _
      · cases stepped
  | pops =>
      cases stepped
      exact sound.popped
  | drains =>
      cases stepped
      exact sound.drained
  | passes time =>
      simp only [step?] at stepped
      split at stepped
      · rename_i possible
        cases stepped
        exact sound.passed possible.1 possible.2
      · cases stepped

private theorem Sound.follow (sound : lobby.Sound) {moves : List Move}
    (followed : lobby.follow? moves = some later) : later.Sound := by
  induction moves generalizing lobby with
  | nil =>
      cases followed
      exact sound
  | cons move rest ih =>
      obtain ⟨middle, stepped, remaining⟩ := Option.bind_eq_some_iff.mp followed
      exact ih (sound.step stepped) remaining

/-! ### A waiter that runs alone -/

/-- Left to itself, and with no time passing, the waiter comes to this end. -/
def LeadsTo (lobby : Lobby) (position : Nat) (wait : Waiter.Wait) : Prop :=
  ∃ count later, lobby.follow? (List.replicate count (.runs position)) = some later ∧
    later.room.waits[position]? = some wait

private theorem leadsTo_of_present {position : Nat} {wait : Waiter.Wait}
    (present : lobby.room.waits[position]? = some wait) : lobby.LeadsTo position wait :=
  ⟨0, lobby, rfl, present⟩

private theorem leadsTo_of_turn {position : Nat} {waiter : Waiter} {middle wait : Waiter.Wait}
    (present : lobby.room.waits[position]? = some (.waiting waiter))
    (becomes : waiter.Becomes lobby.room.queue lobby.room.now middle)
    (leads : ∀ next : Lobby, next.room.waits[position]? = some middle →
      next.room.queue = lobby.room.queue → next.room.now = lobby.room.now →
        next.LeadsTo position wait) : lobby.LeadsTo position wait := by
  have turned := WaitRoom.turn?_eq_some_iff.mpr ⟨waiter, middle, present, becomes, rfl⟩
  obtain ⟨next, stepped, roomEq⟩ : ∃ next, lobby.step? (.runs position) = some next ∧
      next.room = { lobby.room with waits := lobby.room.waits.set position middle } := by
    simp only [step?, turned, Option.map_some]
    exact ⟨_, rfl, rfl⟩
  have here : next.room.waits[position]? = some middle := by
    rw [roomEq]
    exact List.getElem?_set_self (List.getElem?_eq_some_iff.mp present).1
  obtain ⟨count, later, followed, ends⟩ :=
    leads next here (by rw [roomEq]) (by rw [roomEq])
  refine ⟨count + 1, later, ?_, ends⟩
  rw [List.replicate_succ, follow?, stepped]
  exact followed

private theorem leadsTo_found_of_looking {position : Nat} {waiter : Waiter} {entry : Entry}
    (present : lobby.room.waits[position]? = some (.waiting waiter))
    (phase : waiter.phase = .looking)
    (oldest : lobby.room.queue.Oldest waiter.dest waiter.src entry) :
    lobby.LeadsTo position (.found entry lobby.room.now) := by
  apply leadsTo_of_turn present (.finds phase oldest)
  intro next here _ _
  exact leadsTo_of_present here

private theorem leadsTo_found_of_asking {position : Nat} {waiter : Waiter} {entry : Entry}
    (present : lobby.room.waits[position]? = some (.waiting waiter))
    (phase : waiter.phase = .asking)
    (oldest : lobby.room.queue.Oldest waiter.dest waiter.src entry) :
    lobby.LeadsTo position (.found entry lobby.room.now) := by
  apply leadsTo_of_turn present (.asks phase)
  intro next here queueEq nowEq
  rw [← nowEq]
  exact leadsTo_found_of_looking here rfl (queueEq ▸ oldest)

/-- A waiter that has something to do finds the oldest match at once, whatever its
deadline. -/
theorem leadsTo_found {position : Nat} {waiter : Waiter} {entry : Entry}
    (present : lobby.room.waits[position]? = some (.waiting waiter))
    (aware : ¬ waiter.Unaware)
    (oldest : lobby.room.queue.Oldest waiter.dest waiter.src entry) :
    lobby.LeadsTo position (.found entry lobby.room.now) := by
  cases phase : waiter.phase with
  | asking => exact leadsTo_found_of_asking present phase oldest
  | looking => exact leadsTo_found_of_looking present phase oldest
  | asleep =>
      have told : waiter.told = true := by
        cases told : waiter.told with
        | true => rfl
        | false => exact absurd ⟨phase, told⟩ aware
      apply leadsTo_of_turn present (.wakes phase told)
      intro next here queueEq nowEq
      rw [← nowEq]
      exact leadsTo_found_of_asking here rfl (queueEq ▸ oldest)

private theorem leadsTo_expired_of_unaware {position : Nat} {waiter : Waiter}
    (present : lobby.room.waits[position]? = some (.waiting waiter))
    (unaware : waiter.Unaware) (late : waiter.deadline ≤ lobby.room.now) :
    lobby.LeadsTo position (.expired lobby.room.now) := by
  apply leadsTo_of_turn present (.expires unaware late)
  intro next here _ _
  exact leadsTo_of_present here

private theorem leadsTo_expired_of_asking {position : Nat} {waiter : Waiter}
    (present : lobby.room.waits[position]? = some (.waiting waiter))
    (phase : waiter.phase = .asking) (late : waiter.deadline ≤ lobby.room.now)
    (lacks : lobby.room.queue.Lacks waiter.dest waiter.src) :
    lobby.LeadsTo position (.expired lobby.room.now) := by
  apply leadsTo_of_turn present (.asks phase)
  intro second here queueEq nowEq
  rw [← queueEq] at lacks
  apply leadsTo_of_turn here (.rests rfl lacks)
  intro third there _ laterEq
  rw [← nowEq, ← laterEq]
  exact leadsTo_expired_of_unaware there ⟨rfl, rfl⟩ (by rw [laterEq, nowEq]; exact late)

private theorem leadsTo_expired_of_asleep {position : Nat} {waiter : Waiter}
    (present : lobby.room.waits[position]? = some (.waiting waiter))
    (phase : waiter.phase = .asleep) (late : waiter.deadline ≤ lobby.room.now)
    (lacks : lobby.room.queue.Lacks waiter.dest waiter.src) :
    lobby.LeadsTo position (.expired lobby.room.now) := by
  cases told : waiter.told with
  | false => exact leadsTo_expired_of_unaware present ⟨phase, told⟩ late
  | true =>
      apply leadsTo_of_turn present (.wakes phase told)
      intro next here queueEq nowEq
      rw [← nowEq]
      exact leadsTo_expired_of_asking here rfl (nowEq ▸ late) (queueEq ▸ lacks)

private theorem leadsTo_expired {position : Nat} {waiter : Waiter}
    (present : lobby.room.waits[position]? = some (.waiting waiter))
    (late : waiter.deadline ≤ lobby.room.now)
    (lacks : lobby.room.queue.Lacks waiter.dest waiter.src) :
    lobby.LeadsTo position (.expired lobby.room.now) := by
  cases phase : waiter.phase with
  | asking => exact leadsTo_expired_of_asking present phase late lacks
  | asleep => exact leadsTo_expired_of_asleep present phase late lacks
  | looking =>
      apply leadsTo_of_turn present (.rests phase lacks)
      intro next here queueEq nowEq
      rw [← nowEq]
      exact leadsTo_expired_of_asleep here rfl (nowEq ▸ late) (queueEq ▸ lacks)

private theorem queue_of_runs {position : Nat}
    (stepped : lobby.step? (.runs position) = some later) :
    later.room.queue = lobby.room.queue := by
  obtain ⟨room, turned, rfl⟩ := Option.map_eq_some_iff.mp stepped
  obtain ⟨_, _, _, _, rfl⟩ := WaitRoom.turn?_eq_some_iff.mp turned
  rfl

end Steps

/-- Whatever waiters, pushers, takers and the clock do, and in whatever order: a
waiter that sleeps untold while a match is queued is about to be told. One that
runs while a match is queued ends with the oldest, at once; one that runs at its
deadline while none is queued gives up. How each wait stands is told by the queues
it has seen: none of them had a match but the last, and that only if the wait has
ended with it. No waiter changes the queue. -/
theorem no_arrival_slept_through {queue : Queue} {now : Nat} {moves : List Move}
    {lobby : Lobby} (followed : (opened queue now).follow? moves = some lobby) :
    (∀ (position : Nat) waiter, lobby.room.waits[position]? = some (.waiting waiter) →
        waiter.Unaware → ¬ lobby.room.queue.Lacks waiter.dest waiter.src →
          0 < lobby.telling) ∧
      (∀ (position : Nat) waiter entry,
        lobby.room.waits[position]? = some (.waiting waiter) →
        lobby.room.queue.Oldest waiter.dest waiter.src entry →
        (lobby.telling = 0 ∨ ¬ waiter.Unaware) →
          lobby.LeadsTo position (.found entry lobby.room.now)) ∧
      (∀ (position : Nat) waiter, lobby.room.waits[position]? = some (.waiting waiter) →
        lobby.room.queue.Lacks waiter.dest waiter.src →
        waiter.deadline ≤ lobby.room.now →
          lobby.LeadsTo position (.expired lobby.room.now)) ∧
      (∀ (position : Nat) stay, lobby.stays[position]? = some stay →
        ∃ wait, lobby.room.waits[position]? = some wait ∧
          Stands lobby.room.now stay wait) ∧
      ∀ position later, lobby.step? (.runs position) = some later →
        later.room.queue = lobby.room.queue := by
  have sound := (sound_opened queue now).follow followed
  have noticed : ∀ (position : Nat) waiter,
      lobby.room.waits[position]? = some (.waiting waiter) → waiter.Unaware →
        ¬ lobby.room.queue.Lacks waiter.dest waiter.src → 0 < lobby.telling := by
    intro position waiter present unaware queued
    have known := sound.noticed _ (List.mem_of_getElem? present) unaware
    exact known.resolve_left queued
  refine ⟨noticed, ?_, ?_, ?_, ?_⟩
  · intro position waiter entry present oldest free
    apply leadsTo_found present _ oldest
    intro unaware
    have queued : ¬ lobby.room.queue.Lacks waiter.dest waiter.src := by
      intro lacks
      obtain ⟨isFor, older, newer, split, _⟩ := oldest
      have unfit := lacks entry (by rw [split]; simp)
      rw [isFor] at unfit
      cases unfit
    have pushing := noticed position waiter present unaware queued
    rcases free with none | aware
    · omega
    · exact aware unaware
  · intro position waiter present lacks late
    exact leadsTo_expired present late lacks
  · intro position stay staying
    have inRange : position < lobby.room.waits.length := by
      rw [← sound.aligned]
      exact (List.getElem?_eq_some_iff.mp staying).1
    have waiting := List.getElem?_eq_getElem inRange
    exact ⟨_, waiting, sound.stands position stay _ staying waiting⟩
  · intro position later stepped
    exact queue_of_runs stepped

/-- Two waiters for the same entry. The first sleeps and the second has yet to look
when the entry is appended. -/
def vigil : List Move :=
  [.enters (.numbered 1) (.numbered 2) 5, .enters (.numbered 1) (.numbered 2) 0,
    .runs 0, .runs 0, .runs 1, .appends (.numbered 1) (.numbered 2) .zero]

def awaited : Entry :=
  { id := 1, dest := .numbered 1, src := .numbered 2, data := .zero, receivedAt := 0 }

theorem no_arrival_slept_through_vigil :
    ∃ between told : Lobby,
      (opened (.new 1) 7).follow? vigil = some between ∧ 0 < between.telling ∧
        between.LeadsTo 1 (.found awaited 7) ∧
        (opened (.new 1) 7).follow? (vigil ++ [.tells]) = some told ∧
        told.LeadsTo 0 (.found awaited 7) := by
  obtain ⟨between, arrived⟩ : ∃ between, (opened (.new 1) 7).follow? vigil = some between :=
    ⟨_, rfl⟩
  obtain ⟨told, announced⟩ :
      ∃ told, (opened (.new 1) 7).follow? (vigil ++ [.tells]) = some told := ⟨_, rfl⟩
  have oldest : ∀ queue : Queue, queue.entries = [awaited] →
      queue.Oldest (.numbered 1) (.numbered 2) awaited := by
    intro queue alone
    refine ⟨by decide, [], [], alone, ?_⟩
    intro other member
    cases member
  have slept := no_arrival_slept_through arrived
  have woken := no_arrival_slept_through announced
  cases arrived
  cases announced
  refine ⟨_, _, rfl, ?_, ?_, rfl, ?_⟩
  · apply slept.1 0 _ rfl ⟨rfl, rfl⟩
    intro lacks
    cases lacks awaited (List.mem_singleton_self _)
  · exact slept.2.1 1 _ awaited rfl (oldest _ rfl) (.inr fun unaware => by cases unaware.1)
  · exact woken.2.1 0 _ awaited rfl (oldest _ rfl) (.inl rfl)

end Lobby

end FloodMesh
