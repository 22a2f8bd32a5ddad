/-
The chain of guards, and what a node has done when its radio fails it.

Each guard can be asked alone whether it objects to a frame. The first that does decides
what becomes of the frame, and a frame that is let go leaves nothing behind but a count.
A packet that no guard objects to is remembered, and the memory saved, before the node
does anything that others could see. So when the radio then refuses the frame, that one
entry is all that is left of it: no reading is queued, nobody is told, no number is used.
-/

import FloodMesh.Proofs.Counting

namespace FloodMesh

/-! ### Guards one by one -/

namespace DropReason

def rank : DropReason → Nat
  | .short => 0
  | .corrupt => 1
  | .malformed => 2
  | .expired => 3
  | .duplicate => 4

def Objects (ring : Ring) (frame : Bytes) : DropReason → Prop
  | .short => frame.length < 49
  | .corrupt => Checksum.isSealed frame = false
  | .malformed => ∀ packet, Packet.decode frame ≠ .ok packet
  | .expired => ∃ packet, Packet.decode frame = .ok packet ∧ packet.hops = 0
  | .duplicate =>
      ∃ packet, Packet.decode frame = .ok packet ∧ packet.fingerprint ∈ ring.entries

structure IsFirst (ring : Ring) (frame : Bytes) (reason : DropReason) : Prop where
  objects : reason.Objects ring frame
  earlier : ∀ other : DropReason, other.rank < reason.rank → ¬ other.Objects ring frame

private theorem rank_injective {first second : DropReason} (same : first.rank = second.rank) :
    first = second := by
  cases first <;> cases second <;> first | rfl | cases same

private theorem IsFirst.unique {ring : Ring} {frame : Bytes} {first second : DropReason}
    (isFirst : first.IsFirst ring frame) (isSecond : second.IsFirst ring frame) :
    first = second := by
  rcases Nat.lt_trichotomy first.rank second.rank with before | same | behind
  · exact absurd isFirst.objects (isSecond.earlier first before)
  · exact rank_injective same
  · exact absurd isSecond.objects (isFirst.earlier second behind)

end DropReason

namespace Node

variable {ring : Ring} {frame : Bytes}

/-- A packet passes exactly if the frame reads as it and no guard objects. -/
theorem examine_eq_ok_iff_of_objects {packet : Packet} :
    examine ring frame = .ok packet ↔
      Packet.decode frame = .ok packet ∧ ∀ reason : DropReason, ¬ reason.Objects ring frame := by
  rw [examine_eq_ok_iff]
  constructor
  · rintro ⟨longEnough, closes, reads, alive, new⟩
    refine ⟨reads, fun reason objects => ?_⟩
    cases reason with
    | short => exact Nat.not_lt.mpr longEnough objects
    | corrupt => exact Bool.noConfusion (closes.symm.trans objects)
    | malformed => exact objects packet reads
    | expired =>
        obtain ⟨other, otherReads, spent⟩ := objects
        cases reads.symm.trans otherReads
        exact alive spent
    | duplicate =>
        obtain ⟨other, otherReads, known⟩ := objects
        cases reads.symm.trans otherReads
        exact Ring.contains_eq_false_iff.mp new known
  · rintro ⟨reads, unopposed⟩
    refine ⟨Nat.not_lt.mp (unopposed .short), ?_, reads, ?_, ?_⟩
    · exact eq_true_of_ne_false (unopposed .corrupt)
    · exact fun spent => unopposed .expired ⟨packet, reads, spent⟩
    · exact Ring.contains_eq_false_iff.mpr fun known =>
        unopposed .duplicate ⟨packet, reads, known⟩

private theorem isFirst_of_examine {reason : DropReason}
    (refused : examine ring frame = .error reason) :
    reason.IsFirst ring frame := by
  unfold examine at refused
  split at refused
  · rename_i short
    cases refused
    exact ⟨short, fun other before => absurd before (Nat.not_lt_zero _)⟩
  · rename_i longEnough
    have unshort : ¬ DropReason.short.Objects ring frame := longEnough
    split at refused
    · rename_i gaping
      cases refused
      refine ⟨eq_false_of_ne_true gaping, fun other before => ?_⟩
      cases other <;> simp [DropReason.rank] at before
      exact unshort
    · rename_i closes
      have uncorrupt : ¬ DropReason.corrupt.Objects ring frame :=
        fun gaping => closes (ne_true_of_eq_false gaping)
      cases reads : Packet.decode frame with
      | error failure =>
          rw [reads] at refused
          cases refused
          refine ⟨fun packet other => ?_, fun other before => ?_⟩
          · rw [reads] at other
            cases other
          · cases other <;> simp [DropReason.rank] at before <;> assumption
      | ok packet =>
          have unmalformed : ¬ DropReason.malformed.Objects ring frame :=
            fun unreadable => unreadable packet reads
          simp only [reads] at refused
          split at refused
          · rename_i spent
            cases refused
            refine ⟨⟨packet, reads, spent⟩, fun other before => ?_⟩
            cases other <;> simp [DropReason.rank] at before <;> assumption
          · rename_i alive
            have unexpired : ¬ DropReason.expired.Objects ring frame := by
              rintro ⟨read, otherReads, spent⟩
              cases reads.symm.trans otherReads
              exact alive spent
            split at refused
            · rename_i known
              cases refused
              refine ⟨⟨packet, reads, Ring.contains_eq_true_iff.mp known⟩,
                fun other before => ?_⟩
              cases other <;> simp [DropReason.rank] at before <;> assumption
            · cases refused

/-- What the chain refuses, it refuses for the first guard that objects. -/
theorem examine_eq_error_iff {reason : DropReason} :
    examine ring frame = .error reason ↔ reason.IsFirst ring frame := by
  refine ⟨isFirst_of_examine, fun isFirst => ?_⟩
  cases examined : examine ring frame with
  | error other => rw [(isFirst_of_examine examined).unique isFirst]
  | ok packet =>
      exact absurd isFirst.objects ((examine_eq_ok_iff_of_objects.mp examined).2 reason)

/-- A frame that an empty memory would admit is a duplicate exactly if it is remembered. -/
theorem examine_of_admitted {ring : Ring} {frame : Bytes} {packet : Packet}
    (admitted : examine (Ring.empty 0) frame = .ok packet) :
    examine ring frame =
      if packet.fingerprint ∈ ring.entries then .error .duplicate else .ok packet := by
  obtain ⟨longEnough, closes, reads, alive, _⟩ := examine_eq_ok_iff.mp admitted
  by_cases known : packet.fingerprint ∈ ring.entries
  · have unopposed := (examine_eq_ok_iff_of_objects.mp admitted).2
    rw [if_pos known, examine_eq_error_iff]
    refine ⟨⟨packet, reads, known⟩, fun other before => ?_⟩
    cases other with
    | short => exact unopposed .short
    | corrupt => exact unopposed .corrupt
    | malformed => exact unopposed .malformed
    | expired => exact unopposed .expired
    | duplicate => exact absurd before (Nat.lt_irrefl _)
  · rw [if_neg known]
    exact examine_eq_ok_iff.mpr
      ⟨longEnough, closes, reads, alive, Ring.contains_eq_false_iff.mpr known⟩

/-! ### What is done before the radio is asked -/

private theorem isSave_remember (node : Node) (fingerprint : Fingerprint) :
    ∀ effect ∈ (node.remember fingerprint).2, effect.isSave = true := by
  unfold remember
  cases node.ring.insert? fingerprint with
  | none => exact fun effect impossible => absurd impossible List.not_mem_nil
  | some later =>
      intro effect member
      rw [List.mem_singleton.mp member]
      rfl

/-- What is new to a memory with room is saved at once. -/
theorem effects_remember_of_new {node : Node} {fingerprint : Fingerprint}
    (roomy : 0 < node.ring.capacity) (new : fingerprint ∉ node.ring.entries) :
    (node.remember fingerprint).2 = [.saved (node.ring.insert fingerprint).snapshot] := by
  have changed := Ring.insert?_eq_some_iff.mpr ⟨roomy, new, rfl⟩
  unfold remember
  rw [Ring.insert_eq_of_changed changed, changed]

private theorem isSave_absorb (node : Node) : ∀ effect ∈ node.absorb.2, effect.isSave = true := by
  intro effect member
  by_contra visible
  have kept : effect ∈ deeds node.absorb.2 := List.mem_filter.mpr ⟨member, by simpa using visible⟩
  rw [deeds_absorb] at kept
  exact List.not_mem_nil kept

/-! ### What is left when the radio refuses -/

end Node

def Outcome.isSendFailure (outcome : Outcome) : Bool :=
  outcome.isForwardFailure || outcome.isReplyFailure

namespace Node

/-- What a failed send leaves of a node: everything but its probe and its counters. -/
def Spares (before : Node) (reaction : Reaction) : Prop :=
  (∃ duty tally, reaction.node = { before with duty, tally }) ∧
    ∀ effect ∈ reaction.effects, effect.isRead = true

private theorem spares_handle {node : Node} {surroundings : Surroundings} {packet : Packet}
    (failed : (node.handle surroundings packet).outcome.isSendFailure = true) :
    (node.acting packet).Spares (node.handle surroundings packet) := by
  have handled := node.handles surroundings packet
  generalize node.handle surroundings packet = reaction at handled failed ⊢
  cases handled with
  | forwards | queues | reports | ignores | replies => cases failed
  | failsToForward =>
      exact ⟨⟨node.duty, _, rfl⟩, fun effect impossible => absurd impossible List.not_mem_nil⟩
  | failsToReply =>
      refine ⟨⟨_, _, rfl⟩, fun effect member => ?_⟩
      rw [List.mem_singleton.mp member]
      rfl

/-! ### The chain -/

/-- What comes of a packet that no guard objects to. -/
structure Heeds (node : Node) (surroundings : Surroundings) (packet : Packet)
    (reaction : Reaction) : Prop where
  handled : ∃ work : Reaction, (node.acting packet).Handles surroundings packet work ∧
    reaction.outcome = work.outcome ∧ reaction.node = work.node ∧
      deeds reaction.effects = deeds work.effects
  dispatched : packet.dest = node.address → reaction.outcome.isDispatch = true
  passedOn : packet.dest ≠ node.address →
    match surroundings.verdict with
    | none =>
        reaction.outcome = .forwarded packet.kind (packet.hops - 1) ∧
          sentFrames reaction.effects = [packet.passedOn.frame]
    | some fault => reaction.outcome = .forwardFailed packet.kind fault
  /-- Nothing is remembered but the packet and an answer that was sent. -/
  ring_eq :
    reaction.node.ring =
      match reaction.outcome with
      | .delivered (.replied _ _ answer) =>
          (node.absorbedRing.insert packet.fingerprint).insert answer
      | _ => node.absorbedRing.insert packet.fingerprint
  known : 0 < node.ring.capacity → reaction.outcome.isReply = false →
    packet.fingerprint ∈ reaction.node.ring.entries
  /-- Nothing stands before the save but other saves. -/
  saved : 0 < node.ring.capacity →
    ∃ earlier snapshot later,
      reaction.effects = earlier ++ .saved snapshot :: later ∧
        (∀ effect ∈ earlier, effect.isSave = true) ∧
        snapshot = (node.absorbedRing.insert packet.fingerprint).snapshot ∧
        packet.fingerprint ∈ snapshot.fingerprints
  spared : reaction.outcome.isSendFailure = true →
    (∃ duty tally,
      reaction.node =
        { node with
          announced := []
          ring := node.absorbedRing.insert packet.fingerprint
          duty
          tally }) ∧
      ∀ effect ∈ reaction.effects, effect.isSave = true ∨ effect.isRead = true

variable {node : Node} {surroundings : Surroundings} {frame : Bytes} {packet : Packet}

private theorem isDispatch_handle (own : packet.dest = node.address) :
    (node.handle surroundings packet).outcome.isDispatch = true := by
  have handled := node.handles surroundings packet
  generalize node.handle surroundings packet = reaction at handled ⊢
  cases handled with
  | forwards foreign | failsToForward foreign => exact absurd own foreign
  | queues | reports | ignores | replies | failsToReply => rfl

private theorem ring_of_handles {work : Reaction}
    (handled : (node.acting packet).Handles surroundings packet work) :
    work.node.ring =
      match work.outcome with
      | .delivered (.replied _ _ answer) =>
          (node.absorbedRing.insert packet.fingerprint).insert answer
      | _ => node.absorbedRing.insert packet.fingerprint := by
  cases handled with
  | forwards | failsToForward | queues | reports | ignores | replies | failsToReply => rfl

theorem heeds_process (admitted : examine node.absorbedRing frame = .ok packet) :
    node.Heeds surroundings packet (node.process surroundings frame) := by
  have handles := node.handles surroundings packet
  have ringEq := ring_of_handles handles
  obtain ⟨outcomeEq, nodeEq, deedsEq⟩ := @deeds_process node surroundings frame packet admitted
  rw [← nodeEq, ← outcomeEq] at ringEq
  have room (roomy : 0 < node.ring.capacity) : 0 < node.absorbedRing.capacity :=
    node.capacity_absorbedRing ▸ roomy
  refine
    { handled := ⟨_, handles, outcomeEq, nodeEq, deedsEq⟩
      dispatched := fun own => outcomeEq ▸ isDispatch_handle own
      passedOn := fun foreign => ?_
      ring_eq := ringEq
      known := fun roomy unanswered => ?_
      saved := fun roomy => ?_
      spared := fun failed => ?_ }
  · have sent := @process_of_foreign node surroundings frame packet admitted foreign
    cases verdict : surroundings.verdict with
    | none =>
        rw [verdict] at sent
        exact sent
    | some fault =>
        rw [verdict] at sent
        exact sent.1
  · rw [ringEq]
    split
    · rename_i replied
      rw [replied] at unanswered
      cases unanswered
    · exact Ring.mem_insert_self (room roomy) _
  · have new : packet.fingerprint ∉ node.received.ring.entries :=
      Ring.contains_eq_false_iff.mp (examine_eq_ok_iff.mp admitted).2.2.2.2
    refine ⟨node.absorb.2, _, (node.handle surroundings packet).effects, ?_,
      isSave_absorb node, rfl, ?_⟩
    · rw [process_eq_handle admitted, effects_remember_of_new (room roomy) new]
      rfl
    · rw [Ring.fingerprints_snapshot]
      exact Ring.mem_insert_self (room roomy) _
  · rw [process_eq_handle admitted] at failed ⊢
    obtain ⟨kept, reads⟩ := spares_handle failed
    refine ⟨kept, fun effect member => ?_⟩
    rcases List.mem_append.mp member with absorbed | member
    · exact .inl (isSave_absorb node effect absorbed)
    · rcases List.mem_append.mp member with remembered | handled
      · exact .inl (isSave_remember _ _ effect remembered)
      · exact .inr (reads effect handled)

/-- The first guard that objects decides, and what it lets go leaves the node as it was
once all that was announced is remembered, but for the counters. If none objects the
frame reads as a packet, which is dispatched or sent on, and what `Heeds` says comes of
it. -/
theorem guard_chain (node : Node) (surroundings : Surroundings) (frame : Bytes) :
    let reaction := node.process surroundings frame
    (∀ reason, reaction.outcome = .dropped reason ↔ reason.IsFirst node.absorbedRing frame) ∧
      (∀ reason, reaction.outcome = .dropped reason →
        (∃ tally,
          reaction.node = { node with announced := [], ring := node.absorbedRing, tally }) ∧
          reaction.effects = node.absorb.2 ∧
          ∀ effect ∈ reaction.effects, effect.isSave = true) ∧
      ((∀ reason : DropReason, ¬ reason.Objects node.absorbedRing frame) →
        ∃ packet, Packet.decode frame = .ok packet ∧
          node.Heeds surroundings packet reaction) := by
  intro reaction
  cases examined : examine node.absorbedRing frame with
  | error reason =>
      have isFirst := examine_eq_error_iff.mp examined
      have dropped : reaction = _ := process_of_refused surroundings examined
      refine ⟨fun other => ?_, fun other _ => ?_, fun unopposed => ?_⟩
      · rw [dropped, Outcome.dropped.injEq]
        exact ⟨fun same => same ▸ isFirst, fun otherFirst => isFirst.unique otherFirst⟩
      · rw [dropped]
        exact ⟨⟨_, rfl⟩, rfl, isSave_absorb node⟩
      · exact absurd isFirst.objects (unopposed reason)
  | ok packet =>
      obtain ⟨reads, unopposed⟩ := examine_eq_ok_iff_of_objects.mp examined
      have heeds : node.Heeds surroundings packet reaction := heeds_process examined
      have acted : ∀ reason, reaction.outcome ≠ .dropped reason := by
        intro reason dropped
        by_cases own : packet.dest = node.address
        · have dispatched := heeds.dispatched own
          rw [dropped] at dispatched
          cases dispatched
        · have passedOn := heeds.passedOn own
          rw [dropped] at passedOn
          cases verdict : surroundings.verdict with
          | none =>
              rw [verdict] at passedOn
              cases passedOn.1
          | some fault =>
              rw [verdict] at passedOn
              cases passedOn
      refine ⟨fun reason => ?_, fun reason dropped => ?_, fun _ => ⟨packet, reads, heeds⟩⟩
      · exact iff_of_false (acted reason) fun isFirst => unopposed reason isFirst.objects
      · exact absurd dropped (acted reason)

/-- A sensor with room for one fingerprint, which it has just originated. -/
def crampedSensor : Node where
  address := .numbered 1
  duty := .sensor (.ofList [.ok .zero])
  ring := Ring.empty 1
  announced := [.generate (.numbered 1) 0]
  sequence := 1
  queue := Queue.new 1

def crampedQuestion : Packet where
  dest := .numbered 1
  src := .numbered 2
  content := .request 1
  hops := 2
  fingerprint := .blank

/-- The radio refuses the answer, and all that is left of the question is its entry. -/
theorem guard_chain_crampedSensor :
    let reaction := crampedSensor.process { verdict := some .busy, now := 0 } crampedQuestion.frame
    (¬ DropReason.duplicate.IsFirst crampedSensor.absorbedRing crampedQuestion.frame ∧
      reaction.outcome.isReplyFailure = true) ∧
      (∃ earlier later,
        reaction.effects =
          earlier ++ .saved { capacity := 1, entries := [Fingerprint.blank.hex] } :: later) ∧
      ∃ duty tally,
        reaction.node =
          { crampedSensor with
            announced := []
            ring := crampedSensor.absorbedRing.insert .blank
            duty
            tally } := by
  intro reaction
  have chain := guard_chain crampedSensor { verdict := some .busy, now := 0 } crampedQuestion.frame
  have admitted : examine crampedSensor.absorbedRing crampedQuestion.frame = .ok crampedQuestion :=
    examine_eq_ok_iff.mpr ⟨Packet.shortestFrame_le _, Packet.isSealed_frame _,
      Packet.decode_frame _, by decide, by decide +kernel⟩
  have failed : reaction.outcome.isReplyFailure = true := by decide +kernel
  obtain ⟨reads, unopposed⟩ := examine_eq_ok_iff_of_objects.mp admitted
  obtain ⟨packet, otherReads, heeds⟩ := chain.2.2 unopposed
  cases reads.symm.trans otherReads
  obtain ⟨earlier, _, later, effects, _, rfl, _⟩ := heeds.saved (by decide)
  have saved : (crampedSensor.absorbedRing.insert crampedQuestion.fingerprint).snapshot =
      { capacity := 1, entries := [Fingerprint.blank.hex] } := by decide +kernel
  rw [saved] at effects
  have sendFailed : reaction.outcome.isSendFailure = true := by
    simp [Outcome.isSendFailure, failed]
  exact ⟨⟨fun isFirst => unopposed _ isFirst.objects, failed⟩, ⟨earlier, later, effects⟩,
    (heeds.spared sendFailed).1⟩

end Node

end FloodMesh
