/-
What waits at a radio on a channel is the newest that nobody has taken.

Datagrams of any length come from anywhere, and between them the relay takes frames. A
record beside the radio knows no inbox: it numbers what comes from elsewhere, notes which
numbers were taken, and lets a datagram wait until it is taken or sixty-four others have
come after it. The relay of the radio is given the same frames as the reader of the record,
so the inbox loses nothing but its oldest frame, and this only when one more arrives than it
can hold.
-/

import FloodMesh.Channel

namespace FloodMesh

namespace Receiver

inductive Event
  | hears (origin : Endpoint) (datagram : Bytes)
  /-- The relay takes a frame into a buffer of this length. -/
  | takes (room : Nat)

def Event.foreign? (own : Endpoint) : Event → Option Bytes
  | .hears origin datagram => if origin = own then none else some datagram
  | .takes _ => none

private theorem Event.foreign?_own (own : Endpoint) (datagram : Bytes) :
    (hears own datagram).foreign? own = none := if_pos rfl

private theorem Event.foreign?_of_ne {own origin : Endpoint} (foreign : origin ≠ own)
    (datagram : Bytes) : (hears origin datagram).foreign? own = some datagram := if_neg foreign

def perform (receiver : Receiver) : Event → Option Bytes × Receiver
  | .hears origin datagram => (none, receiver.hear origin datagram)
  | .takes room =>
      match receiver.inbox.take? room with
      | none => (none, receiver)
      | some (frame, inbox) => (some frame, { receiver with inbox })

/-- What the relay is given at each event, and what is left in the end. -/
def follow {σ : Type} (step : σ → Event → Option Bytes × σ) :
    σ → List Event → List (Option Bytes) × σ
  | state, [] => ([], state)
  | state, event :: rest =>
      let (given, later) := step state event
      let (others, last) := follow step later rest
      (given :: others, last)

structure Record where
  heard : List Bytes := []
  taken : List Nat := []

namespace Record

def numbered (record : Record) : List (Bytes × Nat) := record.heard.zipIdx

def Outrun (record : Record) (number : Nat) : Prop := number + 64 < record.heard.length

instance (record : Record) (number : Nat) : Decidable (record.Outrun number) :=
  inferInstanceAs (Decidable (_ < _))

def waiting (record : Record) : List (Bytes × Nat) :=
  record.numbered.filter fun (_, number) => number ∉ record.taken ∧ ¬ record.Outrun number

def lost (record : Record) : List (Bytes × Nat) :=
  record.numbered.filter fun (_, number) => number ∉ record.taken ∧ record.Outrun number

def hear (record : Record) (datagram : Bytes) : Record :=
  { record with heard := record.heard ++ [datagram] }

def take (record : Record) (number : Nat) : Record :=
  { record with taken := record.taken ++ [number] }

/-- The oldest that waits is taken, as far as it was kept and there is room for it. -/
def perform (own : Endpoint) (record : Record) : Event → Option Bytes × Record
  | .hears origin datagram => (none, if origin = own then record else record.hear datagram)
  | .takes room =>
      match record.waiting with
      | [] => (none, record)
      | (datagram, number) :: _ => (some ((datagram.take 56).take room), record.take number)

section Steps

variable {own origin : Endpoint} {record : Record}

private theorem perform_own (own : Endpoint) (record : Record) (datagram : Bytes) :
    record.perform own (.hears own datagram) = (none, record) := by
  simp only [perform, if_true]

private theorem perform_foreign (foreign : origin ≠ own) (datagram : Bytes) :
    record.perform own (.hears origin datagram) = (none, record.hear datagram) := by
  simp only [perform, if_neg foreign]

private theorem perform_takes_of_nil (idle : record.waiting = []) (room : Nat) :
    record.perform own (.takes room) = (none, record) := by
  simp only [perform, idle]

private theorem perform_takes_of_cons {datagram : Bytes} {number : Nat} {later : List (Bytes × Nat)}
    (waits : record.waiting = (datagram, number) :: later) (room : Nat) :
    record.perform own (.takes room) =
      (some ((datagram.take 56).take room), record.take number) := by
  simp only [perform, waits]

private theorem heard_perform (own : Endpoint) (record : Record) (event : Event) :
    (record.perform own event).2.heard = record.heard ++ (event.foreign? own).toList := by
  cases event with
  | hears origin datagram =>
      by_cases sameEnd : origin = own
      · rw [sameEnd, perform_own, Event.foreign?_own]
        exact (List.append_nil _).symm
      · rw [perform_foreign sameEnd, Event.foreign?_of_ne sameEnd]
        rfl
  | takes room =>
      cases waits : record.waiting with
      | nil =>
          rw [perform_takes_of_nil waits]
          exact (List.append_nil _).symm
      | cons first later =>
          rw [perform_takes_of_cons waits]
          exact (List.append_nil _).symm

private theorem heard_follow (own : Endpoint) (record : Record) (events : List Event) :
    (follow (perform own) record events).2.heard =
      record.heard ++ events.filterMap (Event.foreign? own) := by
  induction events generalizing record with
  | nil => exact (List.append_nil _).symm
  | cons event rest ih =>
      have later := ih (record.perform own event).2
      rw [heard_perform, List.append_assoc] at later
      rw [List.filterMap_cons]
      cases known : event.foreign? own <;> rw [known] at later <;> exact later

end Steps

/-! ### The oldest go first -/

/-- What was heard is in two parts: of the first, all is taken or outrun, and of the
second, nothing is. -/
structure Parted (record : Record) (gone queued : List Bytes) : Prop where
  heard : record.heard = gone ++ queued
  fits : queued.length ≤ 64
  ordered : record.taken.Sublist (List.range gone.length)
  passed : ∀ number, number < gone.length → number ∈ record.taken ∨ record.Outrun number

namespace Parted

variable {record : Record} {gone queued : List Bytes}

private theorem numbered (parted : record.Parted gone queued) :
    record.numbered = gone.zipIdx ++ queued.zipIdx gone.length := by
  rw [Record.numbered, parted.heard, List.zipIdx_append, Nat.zero_add]

private theorem taken_lt (parted : record.Parted gone queued) {number : Nat}
    (taken : number ∈ record.taken) : number < gone.length :=
  List.mem_range.mp (parted.ordered.subset taken)

/-- No datagram of the second part has been taken or outrun. -/
theorem queued_waits (parted : record.Parted gone queued) {number : Nat}
    (late : gone.length ≤ number) : number ∉ record.taken ∧ ¬ record.Outrun number := by
  constructor
  · intro taken
    have early := parted.taken_lt taken
    omega
  · intro outrun
    unfold Outrun at outrun
    rw [parted.heard, List.length_append] at outrun
    have fits := parted.fits
    omega

private theorem waiting (parted : record.Parted gone queued) :
    record.waiting = queued.zipIdx gone.length := by
  have nothing : gone.zipIdx.filter
      (fun (_, number) => number ∉ record.taken ∧ ¬ record.Outrun number) = [] := by
    apply List.filter_eq_nil_iff.mpr
    intro datagram member
    have early := List.snd_lt_of_mem_zipIdx member
    have passed := parted.passed datagram.2 (by omega)
    simp only [decide_eq_true_eq, not_and]
    exact fun untaken waits => waits (passed.resolve_left untaken)
  have all : (queued.zipIdx gone.length).filter
      (fun (_, number) => number ∉ record.taken ∧ ¬ record.Outrun number) =
        queued.zipIdx gone.length := by
    apply List.filter_eq_self.mpr
    intro datagram member
    exact decide_eq_true (parted.queued_waits (List.le_snd_of_mem_zipIdx member))
  rw [Record.waiting, parted.numbered, List.filter_append, nothing, all, List.nil_append]

private theorem lost (parted : record.Parted gone queued) :
    record.lost = gone.zipIdx.filter fun (_, number) => number ∉ record.taken := by
  have nothing : (queued.zipIdx gone.length).filter
      (fun (_, number) => number ∉ record.taken ∧ record.Outrun number) = [] := by
    apply List.filter_eq_nil_iff.mpr
    intro datagram member
    have waits := parted.queued_waits (List.le_snd_of_mem_zipIdx member)
    simp only [decide_eq_true_eq, not_and]
    exact fun _ => waits.2
  rw [Record.lost, parted.numbered, List.filter_append, nothing, List.append_nil]
  apply List.filter_congr
  intro datagram member
  have early := List.snd_lt_of_mem_zipIdx member
  have passed := parted.passed datagram.2 (by omega)
  simp only [decide_eq_decide]
  exact ⟨fun both => both.1, fun untaken => ⟨untaken, passed.resolve_left untaken⟩⟩

/-- What was passed stays so when one more datagram comes. -/
theorem passed_hear (parted : record.Parted gone queued) (datagram : Bytes) :
    ∀ number, number < gone.length →
      number ∈ (record.hear datagram).taken ∨ (record.hear datagram).Outrun number := by
  intro number early
  rcases parted.passed number early with taken | outrun
  · exact .inl taken
  · right
    unfold Outrun Record.hear at *
    rw [List.length_append]
    omega

private theorem forall_lt_concat {holds : Nat → Prop} {oldest : Bytes}
    (earlier : ∀ number, number < gone.length → holds number) (last : holds gone.length) :
    ∀ number, number < (gone ++ [oldest]).length → holds number := by
  intro number early
  rw [List.length_append, List.length_singleton] at early
  rcases Nat.lt_or_eq_of_le (Nat.le_of_lt_succ early) with before | same
  · exact earlier number before
  · rw [same]
    exact last

/-- One more datagram comes while there is room. -/
theorem hears (parted : record.Parted gone queued) (room : queued.length < 64)
    (datagram : Bytes) : (record.hear datagram).Parted gone (queued ++ [datagram]) where
  heard := by
    rw [Record.hear, parted.heard, List.append_assoc]
  fits := by
    rw [List.length_append, List.length_singleton]
    omega
  ordered := parted.ordered
  passed := parted.passed_hear datagram

/-- One more datagram comes and outruns the oldest that waits. -/
theorem hears_full {oldest : Bytes} (parted : record.Parted gone (oldest :: queued))
    (full : queued.length + 1 = 64) (datagram : Bytes) :
    (record.hear datagram).Parted (gone ++ [oldest]) (queued ++ [datagram]) where
  heard := by
    rw [Record.hear, parted.heard]
    simp only [List.append_assoc, List.cons_append, List.nil_append]
  fits := by
    rw [List.length_append, List.length_singleton]
    omega
  ordered := by
    rw [List.length_append, List.length_singleton, List.range_succ]
    exact parted.ordered.trans (List.sublist_append_left _ _)
  passed := by
    apply forall_lt_concat (parted.passed_hear datagram)
    right
    unfold Outrun Record.hear
    rw [parted.heard]
    simp only [List.length_append, List.length_cons, List.length_nil]
    omega

/-- The oldest that waits is taken. -/
theorem takes {oldest : Bytes} (parted : record.Parted gone (oldest :: queued)) :
    (record.take gone.length).Parted (gone ++ [oldest]) queued where
  heard := by
    rw [Record.take, parted.heard, List.append_assoc]
    rfl
  fits := by
    have fits := parted.fits
    rw [List.length_cons] at fits
    omega
  ordered := by
    rw [List.length_append, List.length_singleton, List.range_succ]
    exact parted.ordered.append (List.Sublist.refl _)
  passed := by
    apply forall_lt_concat
    · intro number early
      exact (parted.passed number early).imp_left (List.mem_append_left _)
    · exact .inl (List.mem_append_right _ (List.mem_singleton.mpr rfl))

private theorem lost_hears (parted : record.Parted gone queued) (room : queued.length < 64)
    (datagram : Bytes) : (record.hear datagram).lost = record.lost := by
  rw [(parted.hears room datagram).lost, parted.lost]
  rfl

private theorem lost_hears_full {oldest : Bytes} (parted : record.Parted gone (oldest :: queued))
    (full : queued.length + 1 = 64) (datagram : Bytes) :
    (record.hear datagram).lost = record.lost ++ [(oldest, gone.length)] := by
  have untaken : gone.length ∉ record.taken := (parted.queued_waits (Nat.le_refl _)).1
  rw [(parted.hears_full full datagram).lost, parted.lost, List.zipIdx_append,
    List.filter_append]
  have kept : ([oldest].zipIdx (0 + gone.length)).filter
      (fun (_, number) => number ∉ (record.hear datagram).taken) = [(oldest, gone.length)] := by
    rw [Nat.zero_add, List.zipIdx_singleton]
    exact List.filter_cons_of_pos (decide_eq_true untaken)
  exact congrArg _ kept

private theorem lost_takes {oldest : Bytes} (parted : record.Parted gone (oldest :: queued)) :
    (record.take gone.length).lost = record.lost := by
  have nothing : ([oldest].zipIdx (0 + gone.length)).filter
      (fun (_, number) => number ∉ (record.take gone.length).taken) = [] := by
    rw [Nat.zero_add, List.zipIdx_singleton]
    apply List.filter_cons_of_neg
    intro untaken
    exact of_decide_eq_true untaken (List.mem_append_right _ (List.mem_singleton.mpr rfl))
  rw [parted.takes.lost, parted.lost, List.zipIdx_append, List.filter_append, nothing,
    List.append_nil]
  apply List.filter_congr
  intro datagram member
  have early := List.snd_lt_of_mem_zipIdx member
  have apart : datagram.2 ≠ gone.length := by omega
  simp [Record.take, apart]

private theorem perform_takes_none (parted : record.Parted gone []) (own : Endpoint) (room : Nat) :
    record.perform own (.takes room) = (none, record) :=
  perform_takes_of_nil parted.waiting room

private theorem perform_takes {oldest : Bytes} (parted : record.Parted gone (oldest :: queued))
    (own : Endpoint) (room : Nat) :
    record.perform own (.takes room) =
      (some ((oldest.take 56).take room), record.take gone.length) :=
  perform_takes_of_cons parted.waiting room

end Parted

end Record

/-! ### The radio and the record -/

structure Tracks (own : Endpoint) (record : Record) (receiver : Receiver) : Prop where
  own : receiver.own = own
  limits : receiver.inbox.limits = some limits
  frames : ∃ gone queued, record.Parted gone queued ∧
    receiver.inbox.frames = queued.map fun datagram => datagram.take 56

namespace Tracks

variable {own : Endpoint} {record : Record} {receiver : Receiver}

private theorem opened (own : Endpoint) : Tracks own {} (Receiver.opened own) where
  own := rfl
  limits := rfl
  frames := by
    refine ⟨[], [], ?_, rfl⟩
    exact
      { heard := rfl
        fits := Nat.zero_le _
        ordered := List.Sublist.refl _
        passed := fun number early => absurd early (Nat.not_lt_zero number) }

private theorem unheard (tracks : Tracks own record receiver) (datagram : Bytes) :
    receiver.hear own datagram = receiver := if_pos tracks.own.symm

private theorem length_frames_le (tracks : Tracks own record receiver) :
    receiver.inbox.frames.length ≤ 64 := by
  obtain ⟨gone, queued, parted, frames⟩ := tracks.frames
  rw [frames, List.length_map]
  exact parted.fits

private theorem frames_hear (tracks : Tracks own record receiver) {origin : Endpoint}
    (foreign : origin ≠ own) (datagram : Bytes) :
    (receiver.hear origin datagram).inbox.frames =
      (if receiver.inbox.frames.length = 64 then receiver.inbox.frames.drop 1
        else receiver.inbox.frames) ++ [datagram.take 56] := by
  have full : 64 ≤ receiver.inbox.frames.length ↔ receiver.inbox.frames.length = 64 := by
    have fits := tracks.length_frames_le
    omega
  rw [← tracks.own] at foreign
  rw [Receiver.hear, if_neg foreign]
  simp only [Inbox.arrive, Inbox.keptForArrival, Inbox.cut, tracks.limits, ← full]
  rfl

private theorem hears (tracks : Tracks own record receiver) {origin : Endpoint}
    (foreign : origin ≠ own)
    (datagram : Bytes) : Tracks own (record.hear datagram) (receiver.hear origin datagram) := by
  have arrived := tracks.frames_hear foreign datagram
  obtain ⟨rfl, limited, gone, queued, parted, frames⟩ := tracks
  rw [frames, List.length_map] at arrived
  have heard : receiver.hear origin datagram =
      { receiver with inbox := receiver.inbox.arrive datagram } := if_neg foreign
  rw [heard] at arrived ⊢
  refine ⟨rfl, limited, ?_⟩
  have fits := parted.fits
  rcases Nat.lt_or_ge queued.length 64 with room | full
  · refine ⟨gone, queued ++ [datagram], parted.hears room datagram, ?_⟩
    rw [arrived, if_neg (by omega), List.map_append]
    rfl
  · cases queued with
    | nil => cases full
    | cons oldest rest =>
        have exactly : (oldest :: rest).length = 64 := by omega
        refine ⟨gone ++ [oldest], rest ++ [datagram],
          parted.hears_full exactly datagram, ?_⟩
        rw [arrived, if_pos exactly, List.map_append]
        rfl

private theorem perform (tracks : Tracks own record receiver) (event : Event) :
    (receiver.perform event).1 = (record.perform own event).1 ∧
      Tracks own (record.perform own event).2 (receiver.perform event).2 := by
  cases event with
  | hears origin datagram =>
      by_cases sameEnd : origin = own
      · rw [Receiver.perform, sameEnd, tracks.unheard, Record.perform_own]
        exact ⟨rfl, tracks⟩
      · rw [Record.perform_foreign sameEnd]
        exact ⟨rfl, tracks.hears sameEnd datagram⟩
  | takes room =>
      obtain ⟨ownEq, limited, gone, queued, parted, frames⟩ := tracks
      cases queued with
      | nil =>
          have empty : receiver.inbox.take? room = none := by
            rw [Inbox.take?, frames]
            rfl
          simp only [Receiver.perform, empty, parted.perform_takes_none]
          exact ⟨trivial, ownEq, limited, gone, [], parted, frames⟩
      | cons oldest rest =>
          have taken : receiver.inbox.take? room =
              some ((oldest.take 56).take room,
                { receiver.inbox with frames := rest.map fun datagram => datagram.take 56 }) := by
            rw [Inbox.take?, frames]
            rfl
          simp only [Receiver.perform, taken, parted.perform_takes]
          exact ⟨trivial, ownEq, limited, gone ++ [oldest], rest, parted.takes, rfl⟩

private theorem follow (tracks : Tracks own record receiver) (events : List Event) :
    (Receiver.follow Receiver.perform receiver events).1 =
        (Receiver.follow (Record.perform own) record events).1 ∧
      Tracks own (Receiver.follow (Record.perform own) record events).2
        (Receiver.follow Receiver.perform receiver events).2 := by
  induction events generalizing record receiver with
  | nil => exact ⟨rfl, tracks⟩
  | cons event rest ih =>
      obtain ⟨sameGiven, tracked⟩ := tracks.perform event
      obtain ⟨sameOthers, kept⟩ := ih tracked
      refine ⟨?_, kept⟩
      simp only [Receiver.follow]
      rw [sameGiven, sameOthers]

/-- The inbox holds the waiting datagrams as far as they are kept, and they are the last
of all. -/
theorem frames_eq (tracks : Tracks own record receiver) :
    receiver.inbox.frames = record.waiting.map (fun (datagram, _) => datagram.take 56) ∧
      receiver.inbox.frames <:+ record.heard.map (fun datagram => datagram.take 56) := by
  obtain ⟨gone, queued, parted, frames⟩ := tracks.frames
  constructor
  · rw [parted.waiting, frames]
    conv => lhs; rw [← List.zipIdx_map_fst gone.length queued, List.map_map]
    rfl
  · rw [parted.heard, frames, List.map_append]
    exact List.suffix_append _ _

private theorem ordered (tracks : Tracks own record receiver) :
    record.taken.Sublist (List.range record.heard.length) := by
  obtain ⟨gone, queued, parted, _⟩ := tracks.frames
  apply parted.ordered.trans
  rw [parted.heard, List.length_append]
  exact List.range_sublist.mpr (Nat.le_add_right _ _)

/-- Only an arrival at a full inbox loses something, and this is the oldest. -/
theorem lost_perform (tracks : Tracks own record receiver) (event : Event) :
    (record.perform own event).2.lost =
      record.lost ++
        if (event.foreign? own).isSome ∧ receiver.inbox.frames.length = 64 then
          record.waiting.take 1
        else [] := by
  obtain ⟨gone, queued, parted, frames⟩ := tracks.frames
  have fits := parted.fits
  rw [frames, List.length_map]
  cases event with
  | hears origin datagram =>
      by_cases sameEnd : origin = own
      · rw [sameEnd, Record.perform_own, Event.foreign?_own, if_neg (by simp), List.append_nil]
      · rw [Record.perform_foreign sameEnd, Event.foreign?_of_ne sameEnd]
        rcases Nat.lt_or_ge queued.length 64 with room | full
        · rw [if_neg (by omega), List.append_nil]
          exact parted.lost_hears room datagram
        · cases queued with
          | nil => cases full
          | cons oldest rest =>
              have exactly : (oldest :: rest).length = 64 := by omega
              rw [if_pos ⟨rfl, exactly⟩, parted.waiting]
              exact parted.lost_hears_full exactly datagram
  | takes room =>
      rw [if_neg (by simp [Event.foreign?]), List.append_nil]
      cases queued with
      | nil => rw [parted.perform_takes_none]
      | cons oldest rest =>
          rw [parted.perform_takes]
          exact parted.lost_takes

end Tracks

private theorem send?_leaves {channel : Channel} {index : Nat} {receiver : Receiver}
    (stands : channel.receivers[index]? = some receiver) (datagram : Bytes) :
    ∃ later, channel.send? index datagram = some later ∧
      later.receivers[index]? = some receiver := by
  refine ⟨channel.transmit receiver.own datagram, ?_, ?_⟩
  · rw [Channel.send?, stands, Option.map_some]
  · have unheard : receiver.hear receiver.own datagram = receiver := if_pos rfl
    rw [Channel.transmit, List.getElem?_map, stands, Option.map_some, unheard]

/-- Whatever comes in between whatever is taken: the relay is given what the record says,
which is told only of datagrams from elsewhere and of all of them, each at most once and in
their order. The inbox holds what by the record waits, each cut to its first bytes. These
are the last that came, no more than sixty-four, and one is lost only when it is the oldest
of so many and one more comes from elsewhere. Each datagram from elsewhere joins the others
at the end; one from the radio itself changes nothing, so neither does what it sends on a
channel. -/
theorem newest_untaken_wait (own : Endpoint) (events : List Event) :
    let real := follow perform (opened own) events
    let plain := follow (Record.perform own) {} events
    let receiver := real.2
    let frames := receiver.inbox.frames
    let record := plain.2
    real.1 = plain.1 ∧
      record.heard = events.filterMap (Event.foreign? own) ∧
      record.taken.Sublist (List.range record.heard.length) ∧
      frames = record.waiting.map (fun (datagram, _) => datagram.take 56) ∧
      frames <:+ record.heard.map (fun datagram => datagram.take 56) ∧
      frames.length ≤ 64 ∧
      (∀ event,
        (record.perform own event).2.lost =
          record.lost ++
            if (event.foreign? own).isSome ∧ frames.length = 64 then record.waiting.take 1
            else []) ∧
      (∀ origin datagram, origin ≠ own →
        (receiver.hear origin datagram).inbox.frames =
          (if frames.length = 64 then frames.drop 1 else frames) ++ [datagram.take 56]) ∧
      (∀ datagram, receiver.hear own datagram = receiver) ∧
      ∀ (channel : Channel) (index : Nat) (datagram : Bytes),
        channel.receivers[index]? = some receiver →
          ∃ later, channel.send? index datagram = some later ∧
            later.receivers[index]? = some receiver := by
  intro real plain receiver frames record
  obtain ⟨sameGiven, tracks⟩ := (Tracks.opened own).follow events
  obtain ⟨waits, newest⟩ := tracks.frames_eq
  refine ⟨sameGiven, Record.heard_follow own {} events, tracks.ordered, waits, newest,
    tracks.length_frames_le, tracks.lost_perform, ?_, tracks.unheard, ?_⟩
  · intro origin datagram foreign
    exact tracks.frames_hear foreign datagram
  · intro channel index datagram stands
    exact send?_leaves stands datagram

def crowdedOut : Endpoint := { host := 0, port := 3 }

/-- Sixty-six datagrams from the other station, one of its own, and a look into the inbox. -/
def crowd : List Event :=
  (List.range 66).map (fun number => .hears Channel.elsewhere [UInt8.ofNat number, 7]) ++
    [.hears crowdedOut [1, 2, 3], .takes 1]

/-- Two datagrams were outrun, so the relay is given the third, as far as there is room. -/
theorem newest_untaken_wait_crowd :
    let radio := (follow perform (opened crowdedOut) crowd).2
    let channel : Channel := { receivers := [radio] }
    channel.receivers[0]? = some radio ∧
      (follow perform (opened crowdedOut) crowd).1.getLast? = some (some [2]) ∧
      (follow (Record.perform crowdedOut) {} crowd).1.getLast? = some (some [2]) ∧
      radio.inbox.frames.length = 63 ∧
      (Channel.elsewhere ≠ crowdedOut ∧
        (radio.hear Channel.elsewhere (List.replicate 60 9)).inbox.frames =
          radio.inbox.frames ++ [List.replicate 56 9]) ∧
      ∃ later, channel.send? 0 [5] = some later ∧ later.receivers[0]? = some radio := by
  intro radio channel
  obtain ⟨sameGiven, _, _, _, _, _, _, joins, _, leaves⟩ := newest_untaken_wait crowdedOut crowd
  have given : (follow perform (opened crowdedOut) crowd).1.getLast? = some (some [2]) := by
    decide +kernel
  have left : radio.inbox.frames.length = 63 := by decide +kernel
  have foreign : Channel.elsewhere ≠ crowdedOut := by decide
  have stands : channel.receivers[0]? = some radio := List.getElem?_cons_zero
  have cut : (List.replicate 60 9 : Bytes).take 56 = List.replicate 56 9 := by decide
  have tail := joins Channel.elsewhere (List.replicate 60 9) foreign
  have radioEq : (follow perform (opened crowdedOut) crowd).2 = radio := rfl
  rw [cut, radioEq, if_neg (by omega)] at tail
  have sent := leaves channel 0 [5] stands
  refine ⟨stands, given, ?_, left, ⟨foreign, tail⟩, sent⟩
  rw [← sameGiven]
  exact given

end Receiver

end FloodMesh
