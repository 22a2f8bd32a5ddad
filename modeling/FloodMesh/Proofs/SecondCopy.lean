/-
The second copy of a packet.

A node remembers a packet before it does anything with it. The only fingerprint it puts
behind that one in the same step is the one of its own reply. So a copy that comes next
meets a memory that knows it and is dropped without a trace, unless the memory has a single
slot and the reply has taken it: then the copy is handled like the first.
-/

import FloodMesh.Proofs.Guards

namespace FloodMesh

namespace Ring

variable {ring : Ring} {fingerprint other : Fingerprint}

/-- A memory of one slot holds what was put there last and nothing else. -/
theorem entries_insert_of_single (single : ring.capacity = 1) (new : fingerprint ∉ ring.entries) :
    (ring.insert fingerprint).entries = [fingerprint] := by
  rw [entries_insert_of_new new, single, newest_append_of_le (Nat.le_refl 1)]
  have none : newest (1 - [fingerprint].length) ring.entries = [] := by
    rw [← List.length_eq_zero_iff, length_newest]
    exact Nat.min_eq_right (Nat.zero_le _)
  rw [none, List.nil_append]

/-- What was put in last stands one more insert, given a second slot. -/
theorem mem_insert_insert (roomy : 2 ≤ ring.capacity) (new : fingerprint ∉ ring.entries) :
    fingerprint ∈ ((ring.insert fingerprint).insert other).entries := by
  have held : fingerprint ∈ (ring.insert fingerprint).entries :=
    mem_insert_self (by omega) fingerprint
  by_cases known : other ∈ (ring.insert fingerprint).entries
  · rw [insert_of_mem known]
    exact held
  · rw [entries_insert_of_new known, capacity_insert, entries_insert_of_new new,
      newest_newest_append, List.append_assoc,
      newest_append_of_le (by simpa using roomy)]
    simp

end Ring

/-- The reply has taken the only slot from the packet that asked for it. -/
def Outcome.crowdsOut (capacity : Nat) (fingerprint : Fingerprint) : Outcome → Bool
  | .delivered (.replied _ _ reply) => capacity == 1 && reply != fingerprint
  | _ => false

/-- Once a packet was acted on it is known, unless its reply crowds it out. -/
theorem Course.mem_iff {node : Node} {surroundings : Surroundings} {frame : Bytes}
    {outcome : Outcome} {done : List Effect} {ring : Ring} {packet : Packet}
    (course : Course node surroundings frame outcome done ring)
    (admitted : Node.examine node.absorbedRing frame = .ok packet)
    (room : 1 ≤ node.ring.capacity) :
    packet.fingerprint ∈ ring.entries ↔
      outcome.crowdsOut node.ring.capacity packet.fingerprint = false := by
  have absorbedRoom : 1 ≤ node.absorbedRing.capacity := by
    rw [node.capacity_absorbedRing]
    exact room
  have held : packet.fingerprint ∈ (node.absorbedRing.insert packet.fingerprint).entries :=
    Ring.mem_insert_self absorbedRoom _
  have new : packet.fingerprint ∉ node.absorbedRing.entries :=
    Ring.contains_eq_false_iff.mp (Node.examine_eq_ok_iff.mp admitted).2.2.2.2
  cases course with
  | dropped refused =>
      rw [refused] at admitted
      cases admitted
  | forwarded also | forwardFailed also | queued also | reported also | ignored also
  | replyFailed also =>
      cases also.symm.trans admitted
      exact iff_of_true held rfl
  | @replied asked probe also own duty asks accepted =>
      -- Only here is anything put behind the packet, and only a single slot is too few for both.
      cases also.symm.trans admitted
      generalize (node.reply packet probe.read.1).fingerprint = reply
      simp only [Outcome.crowdsOut, Bool.and_eq_false_iff, beq_eq_false_iff_ne, ne_eq,
        bne_eq_false_iff_eq]
      by_cases same : reply = packet.fingerprint
      · rw [same, Ring.insert_of_mem held]
        exact iff_of_true held (.inr rfl)
      · by_cases single : node.ring.capacity = 1
        · have taken : ((node.absorbedRing.insert packet.fingerprint).insert reply).entries =
              [reply] := by
            have alone : (node.absorbedRing.insert packet.fingerprint).entries =
                [packet.fingerprint] :=
              Ring.entries_insert_of_single (node.capacity_absorbedRing.trans single) new
            refine Ring.entries_insert_of_single ?_ ?_
            · rw [Ring.capacity_insert, node.capacity_absorbedRing, single]
            · rw [alone, List.mem_singleton]
              exact same
          rw [taken, List.mem_singleton]
          exact iff_of_false (fun known => same known.symm)
            (fun spare => spare.elim (absurd single) same)
        · have roomy : 2 ≤ node.absorbedRing.capacity := by
            rw [node.capacity_absorbedRing]
            omega
          exact iff_of_true (Ring.mem_insert_insert roomy new) (.inl single)

namespace Node

variable {node : Node} {surroundings again : Surroundings} {first second : Bytes}
  {packet : Packet} {hops : UInt8}

private theorem admitted_of_acted (reads : Packet.decode first = .ok packet)
    (acted : ∀ reason, (node.process surroundings first).outcome ≠ .dropped reason) :
    examine node.absorbedRing first = .ok packet := by
  cases examined : examine node.absorbedRing first with
  | error reason =>
      have dropped := process_of_refused surroundings examined
      exact absurd (congrArg Reaction.outcome dropped) (acted reason)
  | ok other =>
      cases reads.symm.trans (examine_eq_ok_iff.mp examined).2.2.1
      rfl

/-- A valid frame with hops left, as a blank memory sees it. -/
theorem examine_empty_of_valid (closes : Checksum.isSealed second = true)
    (reads : Packet.decode second = .ok packet) (alive : packet.hops ≠ 0) :
    examine (Ring.empty 0) second = .ok packet := by
  have long : shortestFrame ≤ second.length := by
    rw [(Packet.shape_of_decode reads).2, ← Packet.length_frame]
    exact Packet.shortestFrame_le packet
  exact examine_eq_ok_iff.mpr
    ⟨long, closes, reads, alive, Ring.contains_eq_false_iff.mpr (by simp)⟩

private theorem absorb_of_unannounced (unannounced : node.announced = []) :
    node.absorbedRing = node.ring ∧ node.absorb.2 = [] ∧
      node.received = { node with tally := node.tally.meet } := by
  cases node
  cases unannounced
  exact ⟨rfl, rfl, rfl⟩

/-- A reply that crowds the packet out was a sensor's, and the packet a request to it. -/
theorem Heeds.of_crowdsOut {reaction : Reaction} {capacity : Nat}
    (heeds : node.Heeds surroundings packet reaction)
    (crowded : reaction.outcome.crowdsOut capacity packet.fingerprint = true) :
    ∃ probe, node.duty = .sensor probe ∧ packet.dest = node.address ∧ packet.kind = .request ∧
      reaction.node.duty = .sensor probe.read.2 ∧
      reaction.node.sequence = node.sequence + 1 := by
  obtain ⟨work, handled, outcomeEq, nodeEq, -⟩ := heeds.handled
  rw [outcomeEq] at crowded
  rw [nodeEq]
  cases handled with
  | forwards | failsToForward | queues | reports | ignores | failsToReply => cases crowded
  | replies own duty asked => exact ⟨_, duty, own, asked, rfl, rfl⟩

/-- A sensor reads its probe for every request it heeds, and the radio has the answer. -/
theorem Heeds.answers {reaction : Reaction} {probe : Probe}
    (heeds : node.Heeds surroundings packet reaction) (duty : node.duty = .sensor probe)
    (own : packet.dest = node.address) (asked : packet.kind = .request) :
    let answer := node.reply packet probe.read.1
    match surroundings.verdict with
    | none =>
        reaction.outcome = .delivered (.replied packet.src answer.kind answer.fingerprint) ∧
          deeds reaction.effects = [.probed probe.read.1, .sent answer.frame]
    | some fault =>
        reaction.outcome =
            .replyFailed { dest := packet.src, fingerprint := answer.fingerprint, fault } ∧
          deeds reaction.effects = [.probed probe.read.1] := by
  intro answer
  obtain ⟨work, handled, outcomeEq, -, deedsEq⟩ := heeds.handled
  rw [outcomeEq, deedsEq]
  cases handled with
  | forwards foreign | failsToForward foreign => exact absurd own foreign
  | queues _ controls | reports _ controls => cases controls.symm.trans duty
  | ignores _ idle => cases (idle.mpr asked).symm.trans duty
  | replies _ sensor _ replyEq saved accepted =>
      cases sensor.symm.trans duty
      subst replyEq saved
      rw [accepted, deeds_append, deeds_remember]
      exact ⟨rfl, rfl⟩
  | failsToReply _ sensor _ replyEq refused =>
      cases sensor.symm.trans duty
      subst replyEq
      rw [refused]
      exact ⟨rfl, rfl⟩

/-- After any work on a packet a copy of it with any hops left, if it comes next, is dropped
as a duplicate and nothing is done about it. Only if the node has a single slot and its
reply has taken that is the copy dispatched once more: the sensor reads its probe again and
hands the radio a second answer, which has the next number. -/
theorem second_copy (room : 1 ≤ node.ring.capacity) (reads : Packet.decode first = .ok packet)
    (acted : ∀ reason, (node.process surroundings first).outcome ≠ .dropped reason)
    (closes : Checksum.isSealed second = true)
    (copies : Packet.decode second = .ok { packet with hops }) (alive : hops ≠ 0) :
    let reaction := node.process surroundings first
    let copy := reaction.node.process again second
    (reaction.outcome.crowdsOut node.ring.capacity packet.fingerprint = false →
        copy.outcome = .dropped .duplicate ∧ copy.effects = [] ∧
          ∃ tally, copy.node = { reaction.node with tally }) ∧
      (reaction.outcome.crowdsOut node.ring.capacity packet.fingerprint = true →
        copy.outcome.isDispatch = true ∧
          ∃ probe, node.duty = .sensor probe ∧ reaction.node.duty = .sensor probe.read.2 ∧
            reaction.node.sequence = node.sequence + 1 ∧
            let answer := reaction.node.reply { packet with hops } probe.read.2.read.1
            match again.verdict with
            | none =>
                copy.outcome =
                    .delivered (.replied packet.src answer.kind answer.fingerprint) ∧
                  deeds copy.effects = [.probed probe.read.2.read.1, .sent answer.frame]
            | some fault =>
                copy.outcome =
                    .replyFailed { dest := packet.src, fingerprint := answer.fingerprint, fault } ∧
                  deeds copy.effects = [.probed probe.read.2.read.1]) := by
  intro reaction copy
  have admitted := admitted_of_acted reads acted
  have course := course_process node surroundings first
  have known := course.mem_iff admitted room
  obtain ⟨addressEq, unannounced⟩ := process_keeps node surroundings first
  obtain ⟨ringEq, unsaved, receivedEq⟩ := absorb_of_unannounced unannounced
  have examined : examine reaction.node.ring second = _ :=
    examine_of_admitted (examine_empty_of_valid closes copies alive)
  constructor
  · intro spare
    rw [if_pos (known.mpr spare), ← ringEq] at examined
    have dropped : copy = _ := process_of_refused again examined
    rw [dropped]
    refine ⟨rfl, unsaved, reaction.node.tally.meet.drop .duplicate, ?_⟩
    rw [show reaction.node.received = _ from receivedEq]
  · intro crowded
    have unknown : packet.fingerprint ∉ reaction.node.ring.entries := fun member =>
      Bool.noConfusion (crowded.symm.trans (known.mp member))
    rw [if_neg unknown, ← ringEq] at examined
    have first : node.Heeds surroundings packet reaction := heeds_process admitted
    have second : reaction.node.Heeds again { packet with hops } copy := heeds_process examined
    obtain ⟨probe, duty, own, asked, laterDuty, sequenceEq⟩ := first.of_crowdsOut crowded
    have stillOwn : packet.dest = reaction.node.address := own.trans addressEq.symm
    exact ⟨second.dispatched stillOwn, probe, duty, laterDuty, sequenceEq,
      second.answers laterDuty stillOwn asked⟩

def freshSensor (capacity : Nat) : Node where
  address := .numbered 1
  duty := .sensor (.ofList [.ok .zero])
  ring := Ring.empty capacity
  queue := Queue.new 1

def inquiry (hops : UInt8) : Packet where
  dest := .numbered 1
  src := .numbered 2
  content := .request 1
  hops := hops
  fingerprint := .blank

def calm : Surroundings := { verdict := none, now := 0 }

/-- With a single slot the sensor forgets the question over its answer, and answers the very
same frame once more. -/
theorem second_copy_answered :
    let first := (freshSensor 1).process calm (inquiry 2).frame
    let copy := first.node.process calm (inquiry 2).frame
    ((freshSensor 1).ring.capacity = 1 ∧ first.outcome.isReply = true ∧
        first.node.announced = []) ∧
      (Checksum.isSealed (inquiry 2).frame = true ∧
        Packet.decode (inquiry 2).frame = .ok (inquiry 2) ∧ (inquiry 2).hops ≠ 0) ∧
      copy.outcome ≠ .dropped .duplicate ∧ copy.outcome.isReply = true ∧
      readsIn copy.effects = 1 ∧ (sentFrames copy.effects).length = 1 := by
  decide +kernel

/-- With a second slot the question outlasts the answer. -/
theorem second_copy_freshSensor :
    let reaction := (freshSensor 2).process calm (inquiry 2).frame
    let copy := reaction.node.process calm (inquiry 1).frame
    reaction.outcome.isReply = true ∧ copy.outcome = .dropped .duplicate ∧ copy.effects = [] := by
  have replied : ((freshSensor 2).process calm (inquiry 2).frame).outcome.isReply = true := by
    decide +kernel
  have acted : ∀ reason,
      ((freshSensor 2).process calm (inquiry 2).frame).outcome ≠ .dropped reason := by
    intro reason dropped
    rw [dropped] at replied
    cases replied
  have spare :
      ((freshSensor 2).process calm (inquiry 2).frame).outcome.crowdsOut
        (freshSensor 2).ring.capacity (inquiry 2).fingerprint = false := by
    decide +kernel
  have copied := @second_copy (freshSensor 2) calm calm (inquiry 2).frame (inquiry 1).frame
    (inquiry 2) 1 (by decide) (Packet.decode_frame (inquiry 2)) acted
    (Packet.isSealed_frame (inquiry 1)) (Packet.decode_frame (inquiry 1)) (by decide)
  obtain ⟨dropped, idle, _⟩ := copied.1 spare
  exact ⟨replied, dropped, idle⟩

end Node

end FloodMesh
