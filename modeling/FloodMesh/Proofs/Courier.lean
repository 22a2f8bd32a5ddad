/-
Readings are handed on at most once and in order.

A forwarder empties the queue at its ticks and once more when it minds the shutdown.
It takes a batch out of the queue at one moment and offers it to the collector at
another, and others push whenever they like. If a tick and the shutdown are both due,
the forwarder may mind either first. A pushed reading is always in one place: it was
pushed out of the full queue, it was offered and taken or refused, it is about to be
offered, or it still waits.
-/

import FloodMesh.Forwarder
import FloodMesh.Proofs.Conservation
import Mathlib

namespace FloodMesh

structure Offer where
  batch : List Entry
  taken : Bool

structure Courier where
  now : Nat
  queue : Queue
  forwarder : Option Forwarder
  /-- Out of the queue and not yet offered. -/
  held : Option (List Entry) := none
  offers : List Offer := []
  /-- Pushed out of the full queue. -/
  evicted : List Entry := []
  counts : List Nat := []

namespace Courier

inductive Move
  | pushes (dest src : Address) (data : Reading) (receivedAt : Nat)
  | passes (time : Nat)
  | signals
  | ticks
  | closes
  | offers (taken : Bool)

def Move.operation? : Move → Option Queue.Operation
  | .pushes dest src data receivedAt => some (.push dest src data receivedAt)
  | .ticks => some .drain
  | .closes => some .drain
  | _ => none

def pushed (moves : List Move) : List Entry :=
  Queue.issuedFrom 0 (moves.filterMap Move.operation?)

def started (capacity period clock : Nat) : Courier where
  now := clock
  queue := .new capacity
  forwarder := some (.start period clock)

/-- The first half of a flush. It is all of the flush if nothing is queued. -/
def collect (courier : Courier) (forwarder : Option Forwarder) : Courier :=
  let (batch, queue) := courier.queue.flush
  { courier with
    forwarder
    queue
    held := batch
    counts :=
      if batch.isSome then courier.counts else courier.counts ++ [flushedCount none false] }

def conclude (courier : Courier) (batch : List Entry) (taken : Bool) : Courier :=
  { courier with
    held := none
    offers := courier.offers ++ [{ batch, taken }]
    counts := courier.counts ++ [flushedCount (some batch) taken] }

def step? (courier : Courier) : Move → Option Courier
  | .pushes dest src data receivedAt =>
      some
        { courier with
          queue := (courier.queue.push dest src data receivedAt).2
          evicted := courier.evicted ++ courier.queue.evicted }
  | .passes time => if courier.now ≤ time then some { courier with now := time } else none
  | .signals =>
      some
        { courier with
          forwarder := courier.forwarder.map fun forwarder =>
            { forwarder with stopping := true } }
  | .ticks =>
      match courier.held, courier.forwarder with
      | none, some forwarder =>
          match { forwarder with stopping := false }.turn courier.now with
          | .flushes later =>
              some (courier.collect (some { later with stopping := forwarder.stopping }))
          | _ => none
      | _, _ => none
  | .closes =>
      match courier.held, courier.forwarder with
      | none, some forwarder =>
          match forwarder.turn courier.now with
          | .ends => some (courier.collect none)
          | _ => none
      | _, _ => none
  | .offers taken => courier.held.map fun batch => courier.conclude batch taken

def follow? (courier : Courier) : List Move → Option Courier
  | [] => some courier
  | move :: rest => (courier.step? move).bind fun later => later.follow? rest

def delivered (courier : Courier) : List Entry :=
  (courier.offers.filter Offer.taken).flatMap Offer.batch

def drained (courier : Courier) : List Entry :=
  courier.offers.flatMap Offer.batch ++ courier.held.getD []

/-! ### What a move does -/

inductive Does (courier : Courier) : Move → Courier → Prop
  | pushes (dest src : Address) (data : Reading) (receivedAt : Nat) :
      Does courier (.pushes dest src data receivedAt)
        { courier with
          queue := (courier.queue.push dest src data receivedAt).2
          evicted := courier.evicted ++ courier.queue.evicted }
  | collects {move : Move} (drains : move.operation? = some .drain)
      (idle : courier.held = none) (forwarder : Option Forwarder) :
      Does courier move (courier.collect forwarder)
  | offers {batch : List Entry} (held : courier.held = some batch) (taken : Bool) :
      Does courier (.offers taken) (courier.conclude batch taken)
  /-- Neither the queue nor the batches are touched. -/
  | turns {move : Move} (quiet : move.operation? = none) (now : Nat)
      (forwarder : Option Forwarder) :
      Does courier move { courier with now, forwarder }

private theorem step?_closes {courier later : Courier}
    (stepped : courier.step? .closes = some later) :
    courier.held = none ∧ later = courier.collect none := by
  simp only [step?] at stepped
  split at stepped
  · rename_i idle _
    split at stepped
    · cases stepped
      exact ⟨idle, rfl⟩
    · cases stepped
  · cases stepped

private theorem does_of_step? {courier later : Courier} {move : Move}
    (stepped : courier.step? move = some later) : courier.Does move later := by
  cases move with
  | pushes dest src data receivedAt =>
      cases stepped
      exact .pushes dest src data receivedAt
  | passes time =>
      simp only [step?] at stepped
      split at stepped
      · cases stepped
        exact .turns rfl time courier.forwarder
      · cases stepped
  | signals =>
      cases stepped
      exact .turns rfl courier.now _
  | ticks =>
      simp only [step?] at stepped
      split at stepped
      · rename_i idle _
        split at stepped
        · cases stepped
          exact .collects rfl idle _
        · cases stepped
      · cases stepped
  | closes =>
      obtain ⟨idle, rfl⟩ := step?_closes stepped
      exact .collects rfl idle none
  | offers taken =>
      obtain ⟨batch, held, rfl⟩ := Option.map_eq_some_iff.mp stepped
      exact .offers held taken

/-! ### Batches -/

private theorem flush_fst (queue : Queue) :
    queue.flush.1 = if queue.entries = [] then none else some queue.entries := by
  unfold Queue.flush Queue.drain
  simp only [List.isEmpty_iff]

private theorem drained_collect {courier : Courier} (idle : courier.held = none)
    (forwarder : Option Forwarder) :
    (courier.collect forwarder).drained = courier.drained ++ courier.queue.entries := by
  have batch : courier.queue.flush.1.getD [] = courier.queue.entries := by
    rw [flush_fst]
    split
    · rename_i nothing
      exact nothing.symm
    · rfl
  simp only [drained, idle, Option.getD_none, List.append_nil]
  exact congrArg (courier.offers.flatMap Offer.batch ++ ·) batch

private theorem drained_conclude {courier : Courier} {batch : List Entry}
    (held : courier.held = some batch) (taken : Bool) :
    (courier.conclude batch taken).drained = courier.drained := by
  simp [drained, conclude, held]

private theorem delivered_conclude (courier : Courier) (batch : List Entry) (taken : Bool) :
    (courier.conclude batch taken).delivered =
      courier.delivered ++ if taken then batch else [] := by
  unfold delivered conclude
  rw [List.filter_append, List.flatMap_append]
  cases taken <;> simp

private theorem sum_counts_collect (courier : Courier) (forwarder : Option Forwarder) :
    (courier.collect forwarder).counts.sum = courier.counts.sum := by
  simp only [collect]
  split
  · rfl
  · rw [List.sum_append]
    rfl

private theorem holding_collect (courier : Courier) (forwarder : Option Forwarder) :
    (courier.collect forwarder).held ≠ some [] := by
  intro nothing
  change courier.queue.flush.1 = some [] at nothing
  rw [flush_fst] at nothing
  split at nothing
  · cases nothing
  · rename_i full
    exact full (Option.some.inj nothing)

/-- Nothing that has left the queue comes back. -/
theorem Does.grows {courier later : Courier} {move : Move} (does : courier.Does move later) :
    courier.evicted <+: later.evicted ∧ courier.drained <+: later.drained := by
  cases does with
  | pushes dest src data receivedAt => exact ⟨List.prefix_append _ _, List.prefix_rfl⟩
  | collects drains idle forwarder =>
      rw [drained_collect idle]
      exact ⟨List.prefix_rfl, List.prefix_append _ _⟩
  | offers held taken =>
      rw [drained_conclude held]
      exact ⟨List.prefix_rfl, List.prefix_rfl⟩
  | turns quiet now forwarder => exact ⟨List.prefix_rfl, List.prefix_rfl⟩

private theorem grows {courier later : Courier} {moves : List Move}
    (followed : courier.follow? moves = some later) :
    courier.evicted <+: later.evicted ∧ courier.drained <+: later.drained := by
  induction moves generalizing courier with
  | nil =>
      cases followed
      exact ⟨List.prefix_rfl, List.prefix_rfl⟩
  | cons move rest ih =>
      obtain ⟨next, stepped, followed⟩ := Option.bind_eq_some_iff.mp followed
      have first := (does_of_step? stepped).grows
      have others := ih followed
      exact ⟨first.1.trans others.1, first.2.trans others.2⟩

private theorem follow?_append (courier : Courier) (first second : List Move) :
    courier.follow? (first ++ second) =
      (courier.follow? first).bind fun later => later.follow? second := by
  induction first generalizing courier with
  | nil => rfl
  | cons move rest ih =>
      simp only [List.cons_append, follow?, ih]
      rw [Option.bind_assoc]

private theorem delivered_sublist (courier : Courier) : courier.delivered.Sublist courier.drained :=
  (List.filter_sublist.flatMap _).trans (List.sublist_append_left _ _)

/-! ### Where the entries are -/

/-- After these operations on the queue, `left` is what is no longer in it. All of that
was pushed out or is in a batch, and the batches have it in order. -/
structure Places (limit : Nat) (past : List Queue.Operation) (left : List Entry)
    (courier : Courier) : Prop where
  conserves : courier.queue.Conserves limit past left
  ordered : courier.drained.Sublist left
  shared : (courier.evicted ++ courier.drained).Perm left
  nonempty : ∀ offer ∈ courier.offers, offer.batch ≠ []
  holding : courier.held ≠ some []
  counted : courier.counts.sum = courier.delivered.length

private theorem places_started (capacity period clock : Nat) :
    (started capacity period clock).Places (max capacity 1) [] [] where
  conserves := Queue.conserves_new capacity
  ordered := List.Sublist.refl _
  shared := List.Perm.refl _
  nonempty offer none := absurd none List.not_mem_nil
  holding impossible := by cases impossible
  counted := rfl

namespace Places

variable {limit : Nat} {past : List Queue.Operation} {left : List Entry} {courier : Courier}

private theorem pushed (places : courier.Places limit past left) (dest src : Address)
    (data : Reading)
    (receivedAt : Nat) :
    Places limit (past ++ [.push dest src data receivedAt]) (left ++ courier.queue.evicted)
      { courier with
        queue := (courier.queue.push dest src data receivedAt).2
        evicted := courier.evicted ++ courier.queue.evicted } where
  conserves := places.conserves.perform (.push dest src data receivedAt)
  ordered := places.ordered.trans (List.sublist_append_left _ _)
  shared := by
    refine List.Perm.trans ?_ (places.shared.append_right courier.queue.evicted)
    rw [List.append_assoc, List.append_assoc]
    exact List.perm_append_comm.append_left _
  nonempty := places.nonempty
  holding := places.holding
  counted := places.counted

private theorem collected (places : courier.Places limit past left) (idle : courier.held = none)
    (forwarder : Option Forwarder) :
    Places limit (past ++ [.drain]) (left ++ courier.queue.entries)
      (courier.collect forwarder) where
  conserves := places.conserves.perform .drain
  ordered := by
    rw [drained_collect idle]
    exact places.ordered.append (List.Sublist.refl _)
  shared := by
    rw [drained_collect idle]
    change (courier.evicted ++ (courier.drained ++ courier.queue.entries)).Perm _
    rw [← List.append_assoc]
    exact places.shared.append_right _
  nonempty := places.nonempty
  holding := holding_collect courier forwarder
  counted := (sum_counts_collect courier forwarder).trans places.counted

private theorem concluded (places : courier.Places limit past left) {batch : List Entry}
    (held : courier.held = some batch) (taken : Bool) :
    Places limit past left (courier.conclude batch taken) where
  conserves := places.conserves
  ordered := by
    rw [drained_conclude held]
    exact places.ordered
  shared := by
    rw [drained_conclude held]
    exact places.shared
  nonempty := by
    intro offer member
    rcases List.mem_append.mp member with earlier | last
    · exact places.nonempty offer earlier
    · rw [List.mem_singleton.mp last]
      rintro rfl
      exact places.holding held
  holding impossible := by cases impossible
  counted := by
    rw [delivered_conclude, List.length_append, ← places.counted]
    simp only [conclude, List.sum_append, List.sum_singleton, flushedCount]
    cases taken <;> rfl

private theorem step (places : courier.Places limit past left) {later : Courier} {move : Move}
    (does : courier.Does move later) :
    ∃ leftNow, later.Places limit (past ++ move.operation?.toList) leftNow := by
  cases does with
  | pushes dest src data receivedAt => exact ⟨_, places.pushed dest src data receivedAt⟩
  | collects drains idle forwarder =>
      rw [drains]
      exact ⟨_, places.collected idle forwarder⟩
  | offers held taken =>
      change ∃ leftNow, Places limit (past ++ []) leftNow _
      rw [List.append_nil]
      exact ⟨_, places.concluded held taken⟩
  | turns quiet now forwarder =>
      rw [quiet, Option.toList_none, List.append_nil]
      exact
        ⟨left, places.conserves, places.ordered, places.shared, places.nonempty,
          places.holding, places.counted⟩

private theorem follow (places : courier.Places limit past left) {moves : List Move}
    {later : Courier} (followed : courier.follow? moves = some later) :
    ∃ leftNow, later.Places limit (past ++ moves.filterMap Move.operation?) leftNow := by
  induction moves generalizing courier past left with
  | nil =>
      cases followed
      rw [List.filterMap_nil, List.append_nil]
      exact ⟨left, places⟩
  | cons move rest ih =>
      obtain ⟨next, stepped, followed⟩ := Option.bind_eq_some_iff.mp followed
      obtain ⟨leftNext, placesNext⟩ := places.step (does_of_step? stepped)
      obtain ⟨leftNow, placesNow⟩ := ih placesNext followed
      refine ⟨leftNow, ?_⟩
      rw [List.append_assoc] at placesNow
      cases operation : move.operation? <;> simpa [operation] using placesNow

end Places

/-! ### The last flush -/

/-- When the forwarder minds the shutdown, nothing that was pushed stays behind. -/
theorem placed_of_closes {limit : Nat} {before after : List Move} {left : List Entry}
    {closing closed courier : Courier}
    (places : closing.Places limit (before.filterMap Move.operation?) left)
    (closes : closing.step? .closes = some closed)
    (followed : closed.follow? after = some courier)
    {entry : Entry} (issued : entry ∈ pushed before) :
    entry ∈ courier.evicted ∨ entry ∈ courier.drained := by
  obtain ⟨idle, rfl⟩ := step?_closes closes
  have later := grows followed
  rw [drained_collect idle] at later
  unfold pushed at issued
  rw [← places.conserves.conserved] at issued
  rcases List.mem_append.mp issued with gone | waiting
  · rcases List.mem_append.mp (places.shared.mem_iff.mpr gone) with dropped | taken
    · exact .inl (later.1.subset dropped)
    · exact .inr (later.2.subset (List.mem_append_left _ taken))
  · exact .inr (later.2.subset (List.mem_append_right _ waiting))

private theorem exists_idle (courier : Courier) :
    ∃ moves idle, courier.follow? moves = some idle ∧ idle.held = none ∧
      idle.forwarder = courier.forwarder ∧ idle.queue = courier.queue ∧
      moves.filterMap Move.operation? = [] := by
  cases held : courier.held with
  | none => exact ⟨[], courier, rfl, held, rfl, rfl, rfl⟩
  | some batch =>
      refine ⟨[.offers true], courier.conclude batch true, ?_, rfl, rfl, rfl, rfl⟩
      simp only [follow?, step?, held, Option.map_some, Option.bind_some]

/-- A running forwarder that is told to stop comes to its end by itself. -/
theorem shuts_down {courier : Courier} {forwarder : Forwarder}
    (running : courier.forwarder = some forwarder) :
    ∃ closing final, courier.follow? closing = some final ∧ pushed closing = [] ∧
      final.forwarder = none ∧ final.held = none ∧ final.queue.entries = [] := by
  obtain ⟨first, idle, settled, held, forwarderEq, _, quiet⟩ := courier.exists_idle
  rw [running] at forwarderEq
  let told : Courier := { idle with forwarder := some { forwarder with stopping := true } }
  have closes : idle.follow? [.signals, .closes] = some (told.collect none) := by
    simp only [follow?, step?, held, forwarderEq, Option.map_some, Option.bind_some,
      Forwarder.turn, if_true]
    rfl
  obtain ⟨last, final, ended, heldEnd, gone, emptied, quietEnd⟩ :=
    (told.collect none).exists_idle
  refine ⟨first ++ ([.signals, .closes] ++ last), final, ?_, ?_, gone, heldEnd, ?_⟩
  · rw [follow?_append, settled, Option.bind_some, follow?_append, closes, Option.bind_some]
    exact ended
  · rw [pushed, List.filterMap_append, quiet, List.filterMap_append, quietEnd]
    rfl
  · rw [emptied]
    rfl

/-- Readings are handed on at most once and in order, whenever they are pushed, whenever
the forwarder flushes and whatever the collector answers. Each pushed reading is in one
place. Once the last flush is over, one that was pushed before it and was not handed on
was pushed out of a full queue or was in a batch that was refused. The collector is never
called for nothing, and the flushes return how much it took. A running forwarder can
always come to its last flush, after which nothing is queued or about to be offered. -/
theorem readings_handed_on_once {capacity period clock : Nat} {moves : List Move}
    {courier : Courier}
    (followed : (started capacity period clock).follow? moves = some courier) :
    courier.delivered.Sublist (pushed moves) ∧ courier.delivered.Nodup ∧
      (courier.evicted ++ courier.drained ++ courier.queue.entries).Perm (pushed moves) ∧
      (∀ before after, moves = before ++ .closes :: after → courier.held = none →
        ∀ entry ∈ pushed before, entry ∉ courier.delivered →
          entry ∈ courier.evicted ∨
            ∃ offer ∈ courier.offers, offer.taken = false ∧ entry ∈ offer.batch) ∧
      (∀ offer ∈ courier.offers, offer.batch ≠ []) ∧
      courier.counts.sum = courier.delivered.length ∧
      (courier.forwarder ≠ none → ∃ closing final,
        courier.follow? closing = some final ∧ pushed closing = [] ∧
          final.forwarder = none ∧ final.held = none ∧ final.queue.entries = []) := by
  obtain ⟨left, places⟩ := (places_started capacity period clock).follow followed
  have inOrder : courier.delivered.Sublist (pushed moves) := by
    have all : courier.drained.Sublist (left ++ courier.queue.entries) :=
      places.ordered.trans (List.sublist_append_left _ _)
    rw [places.conserves.conserved] at all
    exact courier.delivered_sublist.trans all
  refine ⟨inOrder, inOrder.nodup (Queue.nodup_issuedFrom _ _), ?_, ?_, places.nonempty,
    places.counted, ?_⟩
  · have all := places.shared.append_right courier.queue.entries
    rw [places.conserves.conserved] at all
    exact all
  · rintro before after rfl idle entry issued missed
    have placed : entry ∈ courier.evicted ∨ entry ∈ courier.drained := by
      rw [follow?_append] at followed
      obtain ⟨closing, begun, followed⟩ := Option.bind_eq_some_iff.mp followed
      obtain ⟨closed, closes, followed⟩ := Option.bind_eq_some_iff.mp followed
      obtain ⟨leftThen, placesThen⟩ := (places_started capacity period clock).follow begun
      exact placed_of_closes placesThen closes followed issued
    refine placed.imp_right fun inBatch => ?_
    rw [drained, idle, Option.getD_none, List.append_nil] at inBatch
    obtain ⟨offer, member, inside⟩ := List.mem_flatMap.mp inBatch
    refine ⟨offer, member, ?_, inside⟩
    refine Bool.eq_false_iff.mpr fun taken => missed ?_
    exact List.mem_flatMap.mpr ⟨offer, List.mem_filter.mpr ⟨member, taken⟩, inside⟩
  · intro running
    obtain ⟨forwarder, present⟩ := Option.ne_none_iff_exists'.mp running
    exact shuts_down present

/-- The third push finds the queue full, the collector refuses the batch of the first
tick, and what comes later goes out with the shutdown. -/
def lossyDay : List Move :=
  [.pushes (.numbered 1) (.numbered 2) .zero 0, .pushes (.numbered 1) (.numbered 3) .zero 0,
    .pushes (.numbered 1) (.numbered 4) .zero 1, .passes 30, .ticks, .offers false,
    .pushes (.numbered 1) (.numbered 2) .zero 31, .signals]

theorem readings_handed_on_once_lossyDay :
    ∃ courier : Courier,
      (started 2 30 0).follow? (lossyDay ++ [.closes, .offers true]) = some courier ∧
        courier.delivered.map Entry.id = [4] ∧ courier.delivered.Nodup ∧
        courier.delivered.Sublist (pushed (lossyDay ++ [.closes, .offers true])) ∧
        courier.counts.sum = 1 ∧
        ∀ entry ∈ pushed lossyDay, entry.id ≠ 4 →
          entry ∈ courier.evicted ∨
            ∃ offer ∈ courier.offers, offer.taken = false ∧ entry ∈ offer.batch := by
  obtain ⟨courier, followed⟩ : ∃ courier,
      (started 2 30 0).follow? (lossyDay ++ [.closes, .offers true]) = some courier :=
    ⟨_, rfl⟩
  obtain ⟨inOrder, once, _, placed, _, counted, _⟩ := readings_handed_on_once followed
  cases followed
  refine ⟨_, rfl, rfl, once, inOrder, counted, ?_⟩
  intro entry issued other
  refine placed lossyDay [.offers true] rfl rfl entry issued fun handedOn => ?_
  rw [List.mem_singleton.mp handedOn] at other
  exact other rfl

end Courier

end FloodMesh
