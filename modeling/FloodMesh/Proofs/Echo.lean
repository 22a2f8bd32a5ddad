/-
The echo of a controller's own request.

A neighbour may send a request on as soon as the radio has it, but the controller
tells its relay of the request two turns later. An echo that is heard in between is
handled like any other frame. From the registration on, and from the first copy on
that was handled, every echo is dropped, for as long as the others that were
remembered since are fewer than the slots.
-/

import FloodMesh.Poll.Request
import FloodMesh.Proofs.Suppression

namespace FloodMesh

/-! ### What insertions leave in the memory -/

private theorem mem_othersInserted_iff {fingerprint item : Fingerprint} {records : List Record} :
    item ∈ othersInserted fingerprint records ↔
      (∃ record ∈ records, record.moment.inserted? = some item) ∧ item ≠ fingerprint := by
  unfold othersInserted
  rw [List.mem_toFinset, List.mem_filter, List.mem_filterMap]
  simp

private theorem othersInserted_append (fingerprint : Fingerprint) (first second : List Record) :
    othersInserted fingerprint (first ++ second) =
      othersInserted fingerprint first ∪ othersInserted fingerprint second := by
  unfold othersInserted
  rw [List.filterMap_append, List.filter_append, List.toFinset_append]

namespace Ring

variable {ring : Ring} {fingerprint : Fingerprint}

theorem not_mem_foldl_insert (unknown : fingerprint ∉ ring.entries)
    {fingerprints : List Fingerprint} (apart : fingerprint ∉ fingerprints) :
    fingerprint ∉ (fingerprints.foldl insert ring).entries := by
  induction fingerprints generalizing ring with
  | nil => exact unknown
  | cons first rest ih =>
      rw [List.mem_cons, not_or] at apart
      apply ih _ apart.2
      intro known
      rcases mem_of_mem_insert known with before | same
      · exact unknown before
      · exact apart.1 same

end Ring

private theorem othersInserted_rest_subset (fingerprint first : Fingerprint) (ring : Ring)
    (rest : List Fingerprint) (capacity : Nat) :
    othersInserted fingerprint (recorded capacity (insertions (ring.insert first) rest)) ⊆
      othersInserted fingerprint (recorded capacity (insertions ring (first :: rest))) := by
  rw [insertions]
  cases changed : ring.insert? first with
  | none =>
      rw [Ring.insert_eq_of_unchanged changed]
  | some later =>
      rw [Ring.insert_eq_of_changed changed]
      intro item member
      rw [mem_othersInserted_iff] at member ⊢
      obtain ⟨⟨record, inRest, inserted⟩, apart⟩ := member
      exact ⟨⟨record, List.mem_cons_of_mem _ inRest, inserted⟩, apart⟩

private theorem mem_othersInserted_first {fingerprint first : Fingerprint} {ring : Ring}
    (room : 0 < ring.capacity) (new : first ∉ ring.entries) (different : first ≠ fingerprint)
    (rest : List Fingerprint) (capacity : Nat) :
    first ∈ othersInserted fingerprint
      (recorded capacity (insertions ring (first :: rest))) := by
  rw [insertions, Ring.insert?_eq_some_iff.mpr ⟨room, new, rfl⟩, mem_othersInserted_iff]
  exact ⟨⟨_, List.mem_cons_self, rfl⟩, different⟩

namespace Holds

variable {fingerprint : Fingerprint} {others : Finset Fingerprint} {ring : Ring} {capacity : Nat}

private theorem insert (held : Holds fingerprint others ring.entries) {item : Fingerprint}
    (counted : item ∉ ring.entries → item ≠ fingerprint → item ∈ others)
    (few : others.card < ring.capacity) :
    Holds fingerprint others (ring.insert item).entries := by
  by_cases known : item ∈ ring.entries
  · rw [Ring.insert_of_mem known]
    exact held
  · have different : item ≠ fingerprint := by
      intro same
      rw [same] at known
      exact known held.mem
    rw [Ring.entries_insert_of_new known]
    exact (held.push known (counted known different)).newest few

private theorem insert_self (distinct : ring.entries.Nodup) (unknown : fingerprint ∉ ring.entries)
    (few : others.card < ring.capacity) :
    Holds fingerprint others (ring.insert fingerprint).entries := by
  rw [Ring.entries_insert_of_new unknown]
  exact ((Holds.last distinct unknown).mono (Finset.empty_subset others)).newest few

/-- Insertions do not push the fingerprint out while the others are fewer than the
slots. -/
theorem foldl_insert (held : Holds fingerprint others ring.entries)
    (items : List Fingerprint)
    (counted : othersInserted fingerprint (recorded capacity (insertions ring items)) ⊆ others)
    (few : others.card < ring.capacity) :
    Holds fingerprint others (items.foldl Ring.insert ring).entries := by
  induction items generalizing ring with
  | nil => exact held
  | cons first rest ih =>
      apply ih
      · apply held.insert _ few
        intro new different
        exact counted (mem_othersInserted_first (by omega) new different rest capacity)
      · exact (othersInserted_rest_subset fingerprint first ring rest capacity).trans counted
      · rw [Ring.capacity_insert]
        exact few

private theorem foldl_insert_self (distinct : ring.entries.Nodup)
    (unknown : fingerprint ∉ ring.entries)
    {items : List Fingerprint} (among : fingerprint ∈ items)
    (counted : othersInserted fingerprint (recorded capacity (insertions ring items)) ⊆ others)
    (few : others.card < ring.capacity) :
    Holds fingerprint others (items.foldl Ring.insert ring).entries := by
  induction items generalizing ring with
  | nil => cases among
  | cons first rest ih =>
      have restCounted :=
        (othersInserted_rest_subset fingerprint first ring rest capacity).trans counted
      have fewLater : others.card < (ring.insert first).capacity := by
        rw [Ring.capacity_insert]
        exact few
      by_cases same : first = fingerprint
      · subst same
        exact (insert_self distinct unknown few).foldl_insert rest restCounted fewLater
      · have inRest := (List.mem_cons.mp among).resolve_left (fun equal => same equal.symm)
        apply ih (Ring.nodup_insert distinct first) _ inRest restCounted fewLater
        intro known
        rcases Ring.mem_of_mem_insert known with before | equal
        · exact unknown before
        · exact same equal.symm

end Holds

/-! ### One frame at a controller -/

namespace Node

variable {node : Node} {surroundings : Surroundings} {frame : Bytes}

private theorem reply?_of_controller (controller : node.duty = .controller) {outcome : Outcome}
    {done : List Effect} {ring : Ring}
    (course : Course node surroundings frame outcome done ring) : outcome.reply? = none := by
  cases course with
  | replied admitted own duty asked accepted =>
      rw [controller] at duty
      cases duty
  | dropped | forwarded | forwardFailed | queued | reported | ignored | replyFailed => rfl

private theorem ring_of_controller (controller : node.duty = .controller) {outcome : Outcome}
    {done : List Effect} {ring : Ring}
    (course : Course node surroundings frame outcome done ring) :
    ((∃ reason, examine node.absorbedRing frame = .error reason) ∧ ring = node.absorbedRing) ∨
      ∃ packet, examine node.absorbedRing frame = .ok packet ∧
        ring = node.absorbedRing.insert packet.fingerprint := by
  cases course with
  | dropped refused => exact .inl ⟨⟨_, refused⟩, rfl⟩
  | replied admitted own duty asked accepted =>
      rw [controller] at duty
      cases duty
  | forwarded admitted => exact .inr ⟨_, admitted, rfl⟩
  | forwardFailed admitted => exact .inr ⟨_, admitted, rfl⟩
  | queued admitted => exact .inr ⟨_, admitted, rfl⟩
  | reported admitted => exact .inr ⟨_, admitted, rfl⟩
  | ignored admitted => exact .inr ⟨_, admitted, rfl⟩
  | replyFailed admitted => exact .inr ⟨_, admitted, rfl⟩

/-- A controller that hears a frame remembers what was announced, and then the
packet if it is admitted. -/
theorem moments_of_controller (controller : node.duty = .controller)
    (surroundings : Surroundings) (frame : Bytes) :
    let after := (node.process surroundings frame).node
    (node.moments surroundings frame = insertions node.ring node.announced ∧
        after.ring = node.absorbedRing) ∨
      ∃ (packet : Packet) (effects : List Effect),
        examine node.absorbedRing frame = .ok packet ∧
          node.moments surroundings frame =
            insertions node.ring node.announced ++
              (insertions node.absorbedRing [packet.fingerprint] ++
                .acts packet.fingerprint :: effects.map .does) ∧
          after.ring = node.absorbedRing.insert packet.fingerprint := by
  have course := course_process node surroundings frame
  have silent := reply?_of_controller controller course
  rcases ring_of_controller controller course with
    ⟨⟨reason, refused⟩, ringEq⟩ | ⟨packet, admitted, ringEq⟩
  · refine .inl ⟨?_, ringEq⟩
    unfold moments momentsOf
    rw [refused, List.append_nil]
  · refine .inr ⟨packet, deeds (node.process surroundings frame).effects, admitted, ?_, ringEq⟩
    unfold moments momentsOf
    rw [admitted, silent]
    simp only [Option.toList_none, insertions, List.append_nil]

/-- Registering what the memory still holds renews nothing: it is pushed out as if it
had not been registered. -/
theorem absorbedRing_announce_of_known {fingerprint : Fingerprint}
    (known : fingerprint ∈ node.absorbedRing.entries) :
    (node.announce fingerprint).absorbedRing = node.absorbedRing := by
  unfold absorbedRing announce
  rw [List.foldl_append]
  exact Ring.insert_of_mem known

theorem handled_iff : (∀ reason, (node.process surroundings frame).outcome ≠ .dropped reason) ↔
    ∃ packet, examine node.absorbedRing frame = .ok packet := by
  cases examined : examine node.absorbedRing frame with
  | error reason =>
      rw [process_of_refused surroundings examined]
      simp
  | ok packet =>
      have course := course_process node surroundings frame
      refine iff_of_true ?_ ⟨packet, rfl⟩
      intro reason dropped
      rw [course.refused dropped] at examined
      cases examined

end Node

/-! ### A poller beside its relay -/

structure Desk where
  node : Node
  sending : Option (Errand × Sending) := none

namespace Desk

inductive Move
  | begins (errand : Errand)
  /-- The poller takes its turn; this is the radio's answer if it is asked. -/
  | proceeds (verdict : Verdict)
  | hears (surroundings : Surroundings) (frame : Bytes)
  | resizes (count : Nat)

inductive Event
  | relays (record : Record)
  | registers (fingerprint : Fingerprint)

def relayed (capacity : Nat) (moments : List Moment) : List Event :=
  (recorded capacity moments).map .relays

def registered (errand : Errand) : Except RadioFault Fingerprint → List Fingerprint
  | .ok fingerprint => if errand.announces then [fingerprint] else []
  | .error _ => []

def step? (desk : Desk) : Move → Option (List Event × Desk)
  | .begins errand =>
      match desk.sending with
      | none => some ([], { desk with sending := some (errand, .starting) })
      | some _ => none
  | .proceeds verdict =>
      match desk.sending with
      | none => none
      | some (errand, sending) =>
          match sending.turn errand verdict desk.node with
          | .goesOn next node _ => some ([], { node, sending := some (errand, next) })
          | .ends result node => some ((registered errand result).map .registers, { node })
  | .hears surroundings frame =>
      some
        (relayed desk.node.ring.capacity (desk.node.moments surroundings frame),
          { desk with node := (desk.node.process surroundings frame).node })
  | .resizes count =>
      let capacity := Ring.capacityFor count
      some
        (relayed capacity (resizing desk.node.ring capacity),
          { desk with node := (desk.node.setKnownCount count).1 })

def follow? (desk : Desk) : List Move → Option (List Event × Desk)
  | [] => some ([], desk)
  | move :: rest =>
      (desk.step? move).bind fun stepped =>
        (stepped.2.follow? rest).map fun followed =>
          (stepped.1 ++ followed.1, followed.2)

def opened (fresh : Node) (capacity : Nat) (saved : Option Snapshot) : Desk where
  node := { fresh with ring := Ring.restore capacity saved }

/-! ### What is known of an aired request -/

def Event.record? : Event → Option Record
  | .relays record => some record
  | .registers _ => none

def others (fingerprint : Fingerprint) (history : List Event) : Finset Fingerprint :=
  othersInserted fingerprint (history.filterMap Event.record?)

def pending (desk : Desk) : List Event :=
  relayed desk.node.ring.capacity (insertions desk.node.ring desk.node.announced)

def Noted (fingerprint : Fingerprint) (history : List Event) : Prop :=
  .registers fingerprint ∈ history ∨
    ∃ capacity, .relays { moment := .acts fingerprint, capacity } ∈ history

structure Upright (desk : Desk) : Prop where
  controller : desk.node.duty = .controller
  distinct : desk.node.ring.entries.Nodup

/-- Since the radio took the request, the relay has it in its memory, or will have
it there with the next frame, exactly if it was noted. -/
structure Tracks (fingerprint : Fingerprint) (least : Nat) (history : List Event)
    (desk : Desk) : Prop where
  roomy : least ≤ desk.node.ring.capacity
  noted : Noted fingerprint history →
    Holds fingerprint (others fingerprint history) desk.node.ring.entries ∨
      fingerprint ∉ desk.node.ring.entries ∧ fingerprint ∈ desk.node.announced
  unnoted : ¬ Noted fingerprint history →
    fingerprint ∉ desk.node.ring.entries ∧ fingerprint ∉ desk.node.announced

section Facts

variable {fingerprint : Fingerprint} {history more : List Event} {capacity : Nat}
  {moments : List Moment}

private theorem others_append :
    others fingerprint (history ++ more) =
      others fingerprint history ∪ others fingerprint more := by
  unfold others
  rw [List.filterMap_append, othersInserted_append]

private theorem others_relayed :
    others fingerprint (relayed capacity moments) =
      othersInserted fingerprint (recorded capacity moments) := by
  unfold others relayed
  rw [List.filterMap_map]
  congr 1
  exact List.filterMap_some

private theorem noted_append :
    Noted fingerprint (history ++ more) ↔ Noted fingerprint history ∨ Noted fingerprint more := by
  unfold Noted
  simp only [List.mem_append, exists_or]
  exact or_or_or_comm

private theorem noted_relayed : Noted fingerprint (relayed capacity moments) ↔
    .acts fingerprint ∈ moments := by
  unfold Noted relayed recorded
  constructor
  · rintro (registered | ⟨size, acted⟩)
    · simp at registered
    · simp only [List.map_map, List.mem_map, Function.comp_apply, Event.relays.injEq,
        Record.mk.injEq] at acted
      obtain ⟨moment, member, rfl, _⟩ := acted
      exact member
  · intro acted
    refine .inr ⟨capacity, ?_⟩
    simp only [List.map_map, List.mem_map, Function.comp_apply]
    exact ⟨_, acted, rfl⟩

private theorem noted_insertions {ring : Ring} {items : List Fingerprint} :
    Noted fingerprint (history ++ relayed capacity (insertions ring items)) ↔
      Noted fingerprint history := by
  rw [noted_append, noted_relayed]
  exact or_iff_left (acts_not_mem_insertions ring items fingerprint)

private theorem not_noted_nil : ¬ Noted fingerprint [] := by
  rintro (registered | ⟨_, acted⟩)
  · cases registered
  · cases acted

private theorem others_registers {fingerprints : List Fingerprint} :
    others fingerprint (fingerprints.map .registers) = ∅ := by
  unfold others
  rw [List.filterMap_map]
  induction fingerprints with
  | nil => rfl
  | cons first rest ih => exact ih

private theorem noted_registers {fingerprints : List Fingerprint} :
    Noted fingerprint (fingerprints.map .registers) ↔ fingerprint ∈ fingerprints := by
  unfold Noted
  simp

end Facts

/-! ### One move -/

section Steps

variable {fingerprint : Fingerprint} {least : Nat} {history : List Event} {desk later : Desk}

/-- A turn that goes on touches the number only. -/
theorem goesOn_keeps {errand : Errand} {verdict : Verdict} {sending next : Sending}
    {node after : Node} {effects : List Effect}
    (went : sending.turn errand verdict node = .goesOn next after effects) :
    after.duty = node.duty ∧ after.ring = node.ring ∧ after.announced = node.announced := by
  cases sending with
  | starting =>
      cases went
      exact ⟨rfl, rfl, rfl⟩
  | composed request =>
      simp only [Sending.turn] at went
      split at went
      · cases went
      · cases went
        exact ⟨rfl, rfl, rfl⟩
  | accepted request =>
      cases went
      exact ⟨rfl, rfl, rfl⟩
  | numbered request => cases went

private theorem ends_keeps {errand : Errand} {verdict : Verdict} {sending : Sending}
    {node after : Node} {result : Except RadioFault Fingerprint}
    (went : sending.turn errand verdict node = .ends result after) :
    after.duty = node.duty ∧ after.ring = node.ring ∧
      after.announced = node.announced ++ registered errand result := by
  cases sending with
  | starting => cases went
  | composed request =>
      simp only [Sending.turn] at went
      split at went
      · cases went
        exact ⟨rfl, rfl, (List.append_nil _).symm⟩
      · cases went
  | accepted request => cases went
  | numbered request =>
      cases went
      unfold registered
      by_cases told : errand.announces = true
      · simp only [told, if_true]
        exact ⟨rfl, rfl, rfl⟩
      · simp only [told]
        exact ⟨rfl, rfl, (List.append_nil _).symm⟩

private theorem Upright.hears (upright : desk.Upright) (surroundings : Surroundings)
    (frame : Bytes) :
    Upright { desk with node := (desk.node.process surroundings frame).node } := by
  have absorbedDistinct : desk.node.absorbedRing.entries.Nodup :=
    Ring.nodup_foldl_insert upright.distinct _
  constructor
  · have duty := (Node.worked_process desk.node surroundings frame).duty
    rw [upright.controller] at duty
    exact duty
  · rcases Node.moments_of_controller upright.controller surroundings frame with
      ⟨_, ringEq⟩ | ⟨packet, _, _, _, ringEq⟩
    · rw [ringEq]
      exact absorbedDistinct
    · rw [ringEq]
      exact Ring.nodup_insert absorbedDistinct _

private theorem Upright.step (upright : desk.Upright) {move : Move} {events : List Event}
    (stepped : desk.step? move = some (events, later)) : later.Upright := by
  cases move with
  | begins errand =>
      simp only [step?] at stepped
      split at stepped
      · cases stepped
        exact ⟨upright.controller, upright.distinct⟩
      · cases stepped
  | proceeds verdict =>
      simp only [step?] at stepped
      split at stepped
      · cases stepped
      · split at stepped
        · rename_i went
          cases stepped
          obtain ⟨duty, ring, _⟩ := goesOn_keeps went
          exact ⟨duty.trans upright.controller, by rw [ring]; exact upright.distinct⟩
        · rename_i went
          cases stepped
          obtain ⟨duty, ring, _⟩ := ends_keeps went
          exact ⟨duty.trans upright.controller, by rw [ring]; exact upright.distinct⟩
  | hears surroundings frame =>
      cases stepped
      exact upright.hears surroundings frame
  | resizes count =>
      cases stepped
      rw [setKnownCount_eq]
      exact ⟨upright.controller, Ring.nodup_resize upright.distinct _⟩

private theorem Tracks.registers (tracks : Tracks fingerprint least history desk)
    {fingerprints : List Fingerprint} (ring : later.node.ring = desk.node.ring)
    (announced : later.node.announced = desk.node.announced ++ fingerprints) :
    Tracks fingerprint least (history ++ fingerprints.map .registers) later := by
  refine ⟨by rw [ring]; exact tracks.roomy, ?_, ?_⟩
  · intro noted
    rw [others_append, others_registers, Finset.union_empty, ring, announced, List.mem_append]
    by_cases before : Noted fingerprint history
    · rcases tracks.noted before with held | ⟨unknown, pending⟩
      · exact .inl held
      · exact .inr ⟨unknown, .inl pending⟩
    · obtain ⟨unknown, _⟩ := tracks.unnoted before
      rw [noted_append, noted_registers] at noted
      exact .inr ⟨unknown, .inr (noted.resolve_left before)⟩
  · intro unnoted
    rw [noted_append, noted_registers, not_or] at unnoted
    obtain ⟨unknown, unannounced⟩ := tracks.unnoted unnoted.1
    rw [ring, announced, List.mem_append, not_or]
    exact ⟨unknown, unannounced, unnoted.2⟩

private theorem Tracks.absorbs (tracks : Tracks fingerprint least history desk)
    (upright : desk.Upright) {capacity : Nat} (ring : later.node.ring = desk.node.absorbedRing)
    (emptied : later.node.announced = [])
    (few : (others fingerprint (history ++
      relayed capacity (insertions desk.node.ring desk.node.announced))).card < least) :
    Tracks fingerprint least
      (history ++ relayed capacity (insertions desk.node.ring desk.node.announced)) later := by
  have roomy := tracks.roomy
  refine ⟨?_, ?_, ?_⟩
  · rw [ring, Node.capacity_absorbedRing]
    exact roomy
  · intro noted
    rw [others_append, others_relayed] at few ⊢
    rw [ring]
    left
    rcases tracks.noted (noted_insertions.mp noted) with held | ⟨unknown, pending⟩
    · exact (held.mono Finset.subset_union_left).foldl_insert _ Finset.subset_union_right
        (Nat.lt_of_lt_of_le few roomy)
    · exact .foldl_insert_self upright.distinct unknown pending Finset.subset_union_right
        (Nat.lt_of_lt_of_le few roomy)
  · intro unnoted
    obtain ⟨unknown, unannounced⟩ :=
      tracks.unnoted fun noted => unnoted (noted_insertions.mpr noted)
    rw [ring, emptied]
    exact ⟨Ring.not_mem_foldl_insert unknown unannounced, List.not_mem_nil⟩

private theorem Tracks.acts (tracks : Tracks fingerprint least history desk)
    (upright : desk.Upright)
    (settled : desk.node.announced = []) {capacity : Nat} {acted : Fingerprint}
    {effects : List Effect} (new : acted ∉ desk.node.ring.entries)
    (ring : later.node.ring = desk.node.ring.insert acted)
    (emptied : later.node.announced = [])
    (few : (others fingerprint (history ++ relayed capacity
      (insertions desk.node.ring [acted] ++ .acts acted :: effects.map .does))).card < least) :
    Tracks fingerprint least
      (history ++ relayed capacity
        (insertions desk.node.ring [acted] ++ .acts acted :: effects.map .does)) later := by
  have roomy := tracks.roomy
  have noted_iff : Noted fingerprint (history ++ relayed capacity
      (insertions desk.node.ring [acted] ++ .acts acted :: effects.map .does)) ↔
        Noted fingerprint history ∨ acted = fingerprint := by
    rw [noted_append, noted_relayed]
    simp [acts_not_mem_insertions, eq_comm]
  refine ⟨?_, ?_, ?_⟩
  · rw [ring, Ring.capacity_insert]
    exact roomy
  · intro noted
    rw [others_append, others_relayed, recorded_append, othersInserted_append] at few ⊢
    have fewer := Nat.lt_of_lt_of_le few roomy
    rw [ring]
    left
    by_cases before : Noted fingerprint history
    · -- Nothing is announced any more, so it is in the memory.
      have held := (tracks.noted before).resolve_right (by simp [settled])
      apply (held.mono Finset.subset_union_left).insert _ fewer
      intro _ different
      apply Finset.mem_union_right
      apply Finset.mem_union_left
      exact mem_othersInserted_first (by omega) new different [] capacity
    · have same := (noted_iff.mp noted).resolve_left before
      subst same
      exact .insert_self upright.distinct new fewer
  · intro unnoted
    rw [noted_iff, not_or] at unnoted
    obtain ⟨unknown, _⟩ := tracks.unnoted unnoted.1
    rw [ring, emptied]
    refine ⟨?_, List.not_mem_nil⟩
    intro known
    rcases Ring.mem_of_mem_insert known with before | same
    · exact unknown before
    · exact unnoted.2 same.symm

private theorem relayed_append {capacity : Nat} {first second : List Moment} :
    relayed capacity (first ++ second) = relayed capacity first ++ relayed capacity second := by
  unfold relayed
  rw [recorded_append, List.map_append]

private theorem others_subset_append (fingerprint : Fingerprint) (history more : List Event) :
    others fingerprint history ⊆ others fingerprint (history ++ more) := by
  rw [others_append]
  exact Finset.subset_union_left

private theorem Tracks.hears (tracks : Tracks fingerprint least history desk)
    (upright : desk.Upright)
    {surroundings : Surroundings} {frame : Bytes}
    (few : (others fingerprint (history ++ relayed desk.node.ring.capacity
      (desk.node.moments surroundings frame))).card < least) :
    Tracks fingerprint least
      (history ++ relayed desk.node.ring.capacity (desk.node.moments surroundings frame))
      { desk with node := (desk.node.process surroundings frame).node } := by
  have emptied := (Node.process_keeps desk.node surroundings frame).2
  rcases Node.moments_of_controller upright.controller surroundings frame with
    ⟨momentsEq, ringEq⟩ | ⟨packet, effects, admitted, momentsEq, ringEq⟩
  · rw [momentsEq] at few ⊢
    exact tracks.absorbs upright ringEq emptied few
  · -- Two changes in a row: what was announced, then the packet.
    rw [momentsEq, relayed_append, ← List.append_assoc] at few ⊢
    let absorbed : Desk := { node := desk.node.received }
    have absorbedTracks : Tracks fingerprint least (history ++ relayed desk.node.ring.capacity
        (insertions desk.node.ring desk.node.announced)) absorbed := by
      apply tracks.absorbs upright rfl rfl
      exact Nat.lt_of_le_of_lt
        (Finset.card_le_card (others_subset_append fingerprint _ _)) few
    have absorbedUpright : absorbed.Upright :=
      ⟨upright.controller, Ring.nodup_foldl_insert upright.distinct _⟩
    have new : packet.fingerprint ∉ desk.node.absorbedRing.entries :=
      Ring.contains_eq_false_iff.mp (Node.examine_eq_ok_iff.mp admitted).2.2.2.2
    exact absorbedTracks.acts absorbedUpright rfl new ringEq emptied few

private theorem resizing_quiet (ring : Ring) (capacity : Nat) :
    others fingerprint (relayed capacity (resizing ring capacity)) = ∅ ∧
      ¬ Noted fingerprint (relayed capacity (resizing ring capacity)) := by
  rw [others_relayed, noted_relayed]
  unfold resizing
  cases ring.resize? capacity with
  | none => exact ⟨rfl, List.not_mem_nil⟩
  | some later =>
      refine ⟨rfl, ?_⟩
      simp

private theorem Tracks.resizes (tracks : Tracks fingerprint least history desk)
    (upright : desk.Upright)
    {count : Nat} (roomy : least ≤ Ring.capacityFor count)
    (few : (others fingerprint history).card < least) :
    Tracks fingerprint least
      (history ++ relayed (Ring.capacityFor count)
        (resizing desk.node.ring (Ring.capacityFor count)))
      { desk with node := (desk.node.setKnownCount count).1 } := by
  obtain ⟨none, unremarked⟩ := @resizing_quiet fingerprint desk.node.ring (Ring.capacityFor count)
  have noted_iff : Noted fingerprint (history ++ relayed (Ring.capacityFor count)
      (resizing desk.node.ring (Ring.capacityFor count))) ↔ Noted fingerprint history := by
    rw [noted_append]
    exact or_iff_left unremarked
  have ringEntries := Ring.entries_resize upright.distinct (Ring.capacityFor count)
  have behind := newest_suffix (Ring.capacityFor count) desk.node.ring.entries
  rw [setKnownCount_eq]
  refine ⟨?_, ?_, ?_⟩
  · simp only [Ring.capacity_resize]
    exact roomy
  · intro noted
    rw [others_append, none, Finset.union_empty]
    rcases tracks.noted (noted_iff.mp noted) with held | ⟨unknown, pending⟩
    · left
      simp only [ringEntries]
      exact held.newest (Nat.lt_of_lt_of_le few roomy)
    · right
      simp only [ringEntries]
      exact ⟨fun known => unknown (behind.subset known), pending⟩
  · intro unnoted
    obtain ⟨unknown, unannounced⟩ :=
      tracks.unnoted fun noted => unnoted (noted_iff.mpr noted)
    simp only [ringEntries]
    exact ⟨fun known => unknown (behind.subset known), unannounced⟩

private theorem Tracks.step (tracks : Tracks fingerprint least history desk)
    (upright : desk.Upright)
    {move : Move} {events : List Event} (stepped : desk.step? move = some (events, later))
    (roomy : ∀ count, move = .resizes count → least ≤ Ring.capacityFor count)
    (few : (others fingerprint (history ++ events)).card < least) :
    Tracks fingerprint least (history ++ events) later := by
  cases move with
  | begins errand =>
      simp only [step?] at stepped
      split at stepped
      · cases stepped
        rw [List.append_nil]
        exact ⟨tracks.roomy, tracks.noted, tracks.unnoted⟩
      · cases stepped
  | proceeds verdict =>
      simp only [step?] at stepped
      split at stepped
      · cases stepped
      · split at stepped
        · rename_i went
          cases stepped
          obtain ⟨_, ring, announced⟩ := goesOn_keeps went
          rw [← List.append_nil (desk.node.announced)] at announced
          change Tracks fingerprint least (history ++ ([] : List Fingerprint).map .registers) _
          exact tracks.registers ring announced
        · rename_i went
          cases stepped
          obtain ⟨_, ring, announced⟩ := ends_keeps went
          exact tracks.registers ring announced
  | hears surroundings frame =>
      cases stepped
      exact tracks.hears upright few
  | resizes count =>
      cases stepped
      apply tracks.resizes upright (roomy count rfl)
      exact Nat.lt_of_le_of_lt
        (Finset.card_le_card (others_subset_append fingerprint _ _)) few

private theorem follow?_cons_eq_some_iff {move : Move} {rest : List Move} {events : List Event} :
    desk.follow? (move :: rest) = some (events, later) ↔
      ∃ first middle more, desk.step? move = some (first, middle) ∧
        middle.follow? rest = some (more, later) ∧ events = first ++ more := by
  rw [follow?, Option.bind_eq_some_iff]
  constructor
  · rintro ⟨⟨first, middle⟩, stepped, followed⟩
    obtain ⟨⟨more, last⟩, remaining, pairEq⟩ := Option.map_eq_some_iff.mp followed
    cases pairEq
    exact ⟨first, middle, more, stepped, remaining, rfl⟩
  · rintro ⟨first, middle, more, stepped, followed, rfl⟩
    refine ⟨(first, middle), stepped, ?_⟩
    rw [followed]
    rfl

private theorem Upright.follow (upright : desk.Upright) {moves : List Move} {events : List Event}
    (followed : desk.follow? moves = some (events, later)) : later.Upright := by
  induction moves generalizing desk events with
  | nil =>
      cases followed
      exact upright
  | cons move rest ih =>
      obtain ⟨_, _, _, stepped, remaining, _⟩ := follow?_cons_eq_some_iff.mp followed
      exact ih (upright.step stepped) remaining

private theorem Tracks.follow (tracks : Tracks fingerprint least history desk)
    (upright : desk.Upright)
    {moves : List Move} {events : List Event}
    (followed : desk.follow? moves = some (events, later))
    (roomy : ∀ count, .resizes count ∈ moves → least ≤ Ring.capacityFor count)
    (few : (others fingerprint (history ++ events)).card < least) :
    Tracks fingerprint least (history ++ events) later := by
  induction moves generalizing desk history events with
  | nil =>
      cases followed
      rw [List.append_nil]
      exact tracks
  | cons move rest ih =>
      obtain ⟨first, middle, more, stepped, remaining, rfl⟩ :=
        follow?_cons_eq_some_iff.mp followed
      rw [← List.append_assoc] at few ⊢
      have fewFirst := Nat.lt_of_le_of_lt
        (Finset.card_le_card (others_subset_append fingerprint (history ++ first) more)) few
      have tracksMiddle := tracks.step upright stepped
        (fun count same => roomy count (by rw [same]; exact List.mem_cons_self)) fewFirst
      exact ih tracksMiddle (upright.step stepped) remaining
        (fun count member => roomy count (List.mem_cons_of_mem _ member)) few

/-! ### The end of a sending -/

def Unregistered (errand : Errand) (request : Packet) (desk : Desk) : Prop :=
  desk.sending = some (errand, .accepted request) ∨
    desk.sending = some (errand, .numbered request)

variable {errand : Errand} {request : Packet}

private theorem Unregistered.step (open_ : desk.Unregistered errand request)
    (announces : errand.announces = true) {move : Move} {events : List Event}
    (stepped : desk.step? move = some (events, later)) :
    .registers request.fingerprint ∈ events ∨ later.Unregistered errand request := by
  cases move with
  | begins other =>
      simp only [step?] at stepped
      rcases open_ with sending | sending <;> rw [sending] at stepped <;> cases stepped
  | proceeds verdict =>
      simp only [step?] at stepped
      rcases open_ with sending | sending
      · simp only [sending, Sending.turn] at stepped
        cases stepped
        exact .inr (.inr rfl)
      · simp only [sending, Sending.turn, registered, announces, if_true] at stepped
        cases stepped
        exact .inl (List.mem_singleton_self _)
  | hears surroundings frame =>
      cases stepped
      exact .inr open_
  | resizes count =>
      cases stepped
      exact .inr open_

private theorem Unregistered.follow (open_ : desk.Unregistered errand request)
    (announces : errand.announces = true) {moves : List Move} {events : List Event}
    (followed : desk.follow? moves = some (events, later)) :
    .registers request.fingerprint ∈ events ∨ later.Unregistered errand request := by
  induction moves generalizing desk events with
  | nil =>
      cases followed
      exact .inr open_
  | cons move rest ih =>
      obtain ⟨first, middle, more, stepped, remaining, rfl⟩ :=
        follow?_cons_eq_some_iff.mp followed
      rcases open_.step announces stepped with told | stillOpen
      · exact .inl (List.mem_append_left _ told)
      · rcases ih stillOpen remaining with told | stillOpen
        · exact .inl (List.mem_append_right _ told)
        · exact .inr stillOpen

end Steps

private theorem upright_opened {fresh : Node} (controller : fresh.duty = .controller)
    (capacity : Nat)
    (saved : Option Snapshot) : (opened fresh capacity saved).Upright :=
  ⟨controller, Ring.nodup_restore capacity saved⟩

private theorem Tracks.known_iff {fingerprint : Fingerprint} {least : Nat} {history : List Event}
    {desk : Desk} (tracks : Tracks fingerprint least history desk) (upright : desk.Upright)
    (few : (others fingerprint (history ++ desk.pending)).card < least) :
    fingerprint ∈ desk.node.absorbedRing.entries ↔ Noted fingerprint history := by
  have absorbed : Tracks fingerprint least (history ++ desk.pending)
      { node := desk.node.received } := tracks.absorbs upright rfl rfl few
  constructor
  · intro known
    by_contra unnoted
    exact (absorbed.unnoted fun noted => unnoted (noted_insertions.mp noted)).1 known
  · intro noted
    rcases absorbed.noted (noted_insertions.mpr noted) with held | ⟨_, still⟩
    · exact held.mem
    · cases still

/-- The radio of a controller has taken a request that the relay has not heard of.
Whatever comes next, the request is registered when its sending ends. An echo is
handled exactly if it is sound, the request is not registered yet and no copy was
handled, for as long as the others that were inserted since are fewer than the
slots. -/
theorem echo_handled_until_noted {fresh : Node} {capacity : Nat} {saved : Option Snapshot}
    {before after : List Move} {past history : List Event} {desk later : Desk}
    {errand : Errand} {request echo : Packet} {frame : Bytes} {least : Nat}
    (controller : fresh.duty = .controller)
    (reached : (opened fresh capacity saved).follow? before = some (past, desk))
    (aired : desk.sending = some (errand, .accepted request))
    (unknown : request.fingerprint ∉ desk.node.ring.entries)
    (unannounced : request.fingerprint ∉ desk.node.announced)
    (followed : desk.follow? after = some (history, later))
    (roomy : least ≤ desk.node.ring.capacity)
    (roomyAfter : ∀ count, .resizes count ∈ after → least ≤ Ring.capacityFor count)
    (few : (others request.fingerprint (history ++ later.pending)).card < least)
    (reads : Packet.decode frame = .ok echo)
    (same : echo.fingerprint = request.fingerprint) (surroundings : Surroundings) :
    (errand.announces = true →
        .registers request.fingerprint ∈ history ∨ later.Unregistered errand request) ∧
      ((∀ reason, (later.node.process surroundings frame).outcome ≠ .dropped reason) ↔
        (shortestFrame ≤ frame.length ∧ Checksum.isSealed frame = true ∧ echo.hops ≠ 0) ∧
          .registers request.fingerprint ∉ history ∧
          ∀ size, .relays { moment := .acts request.fingerprint, capacity := size } ∉
            history) := by
  have upright := (upright_opened controller capacity saved).follow reached
  have open_ : desk.Unregistered errand request := .inl aired
  refine ⟨fun announces => open_.follow announces followed, ?_⟩
  have start : Tracks request.fingerprint least [] desk :=
    ⟨roomy, fun noted => absurd noted not_noted_nil, fun _ => ⟨unknown, unannounced⟩⟩
  have fewHistory := Nat.lt_of_le_of_lt
    (Finset.card_le_card (others_subset_append request.fingerprint history later.pending)) few
  have tracks := start.follow upright followed roomyAfter fewHistory
  rw [List.nil_append] at tracks
  have known_iff := tracks.known_iff (upright.follow followed) few
  rw [Node.handled_iff]
  constructor
  · rintro ⟨packet, admitted⟩
    obtain ⟨long, closes, readsPacket, alive, new⟩ := Node.examine_eq_ok_iff.mp admitted
    cases reads.symm.trans readsPacket
    rw [Ring.contains_eq_false_iff, same, known_iff] at new
    exact ⟨⟨long, closes, alive⟩, fun told => new (.inl told),
      fun size acted => new (.inr ⟨size, acted⟩)⟩
  · rintro ⟨⟨long, closes, alive⟩, untold, unacted⟩
    refine ⟨echo, Node.examine_eq_ok_iff.mpr ⟨long, closes, reads, alive, ?_⟩⟩
    rw [Ring.contains_eq_false_iff, same, known_iff]
    rintro (told | ⟨size, acted⟩)
    · exact untold told
    · exact unacted size acted

/-! ### A quick neighbour -/

def quietController : Node where
  address := .numbered 1
  duty := .controller
  ring := Ring.empty 2
  queue := Queue.new 1

def plainErrand : Errand := { dest := .numbered 2, meshSize := 1, hops := 3 }

def plainRequest : Packet := Sending.compose plainErrand quietController

def justAired : List Move := [.begins plainErrand, .proceeds none, .proceeds none]

def airedDesk : Desk where
  node := (opened quietController 2 none).node
  sending := some (plainErrand, .accepted plainRequest)

private theorem airedDesk_reached :
    (opened quietController 2 none).follow? justAired = some ([], airedDesk) := by
  simp only [justAired, follow?, step?, opened, Sending.turn, Node.vet_frame]
  rfl

def calm : Surroundings := { verdict := none, now := 0 }

/-- A neighbour passes the request on at once, and the controller sends the echo on
once more, though the memory has slots and nothing else was inserted. -/
theorem echo_sent_on :
    (opened quietController 2 none).follow? justAired = some ([], airedDesk) ∧
      airedDesk.sending = some (plainErrand, .accepted plainRequest) ∧
      airedDesk.node.ring.capacity = 2 ∧
      others plainRequest.fingerprint airedDesk.pending = ∅ ∧
      Packet.decode plainRequest.passedOn.frame = .ok plainRequest.passedOn ∧
      plainRequest.passedOn.fingerprint = plainRequest.fingerprint ∧
      (airedDesk.node.process calm plainRequest.passedOn.frame).outcome =
        .forwarded .request 1 :=
  ⟨airedDesk_reached, rfl, by decide, rfl, Packet.decode_frame _, rfl, by decide +kernel⟩

/-- The same echo is handled before the registration and dropped after it. -/
theorem echo_handled_until_noted_airedDesk :
    ∃ later, airedDesk.follow? [.proceeds none, .proceeds none] =
        some ([.registers plainRequest.fingerprint], later) ∧
      (∀ reason, (airedDesk.node.process calm plainRequest.passedOn.frame).outcome ≠
        .dropped reason) ∧
      ∃ reason, (later.node.process calm plainRequest.passedOn.frame).outcome =
        .dropped reason := by
  obtain ⟨later, followed, pendingEq⟩ : ∃ later, airedDesk.follow?
      [.proceeds none, .proceeds none] = some ([.registers plainRequest.fingerprint], later) ∧
        others plainRequest.fingerprint later.pending = ∅ := ⟨_, rfl, by decide +kernel⟩
  have reads := Packet.decode_frame plainRequest.passedOn
  have roomy : 1 ≤ airedDesk.node.ring.capacity := by decide
  have still : airedDesk.follow? [] = some ([], airedDesk) := rfl
  have early := (echo_handled_until_noted rfl airedDesk_reached rfl (by decide) (by decide)
    still roomy (by simp) (by decide) reads rfl calm).2
  have late := (echo_handled_until_noted rfl airedDesk_reached rfl (by decide) (by decide)
    followed roomy (by simp) (by rw [others_append, pendingEq]; decide) reads rfl calm).2
  refine ⟨later, followed, early.mpr ⟨⟨?_, ?_, ?_⟩, ?_, ?_⟩, ?_⟩
  · decide +kernel
  · exact Packet.isSealed_frame _
  · decide
  · exact List.not_mem_nil
  · exact fun size => List.not_mem_nil
  · by_contra never
    push Not at never
    exact (late.mp never).2.1 (List.mem_singleton_self _)

end Desk

end FloodMesh
