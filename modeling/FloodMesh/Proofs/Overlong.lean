/-
The buffer of the receiving task cuts long frames, and nothing comes of it.

The buffer is one byte longer than any packet, so a frame that was cut is still too long
to read as one. Whole or cut, a frame that does not fit is let go by the second or the
third guard, whatever sums stand in it, and leaves nothing but counts. Counts decide
nothing, so whatever comes after it comes out the same as well.
-/

import FloodMesh.Proofs.Course
import FloodMesh.Proofs.Listening

namespace FloodMesh

/-! ### Too long for a packet -/

namespace Node

/-- Why a frame that is too long for any packet is let go. -/
def overlongReason (frame : Bytes) : DropReason :=
  if Checksum.isSealed frame then .malformed else .corrupt

private theorem examine_of_overlong (ring : Ring) {frame : Bytes}
    (overlong : longestFrame < frame.length) :
    examine ring frame = .error (overlongReason frame) := by
  have long : ¬ frame.length < shortestFrame := by
    unfold longestFrame at overlong
    unfold shortestFrame
    omega
  unfold examine overlongReason
  rw [if_neg long]
  cases closes : Checksum.isSealed frame with
  | false => rfl
  | true =>
      cases reads : Packet.decode frame with
      | error failure => rfl
      | ok packet => exact absurd (Packet.length_le_of_decode reads) (by omega)

private theorem process_of_overlong (node : Node) (surroundings : Surroundings) {frame : Bytes}
    (overlong : longestFrame < frame.length) :
    node.process surroundings frame =
      { outcome := .dropped (overlongReason frame)
        node := { node.received with tally := node.received.tally.drop (overlongReason frame) }
        effects := node.absorb.2 } :=
  process_of_refused surroundings (examine_of_overlong node.absorbedRing overlong)

/-! ### Counters decide nothing -/

def Alike (first second : Node) : Prop := ∃ tally, first = { second with tally }

end Node

structure Reaction.Alike (first second : Reaction) : Prop where
  outcome : first.outcome = second.outcome
  node : first.node.Alike second.node
  effects : first.effects = second.effects

namespace Node

variable {node : Node} {tally : Tally} {surroundings : Surroundings}

/-- The counters are no part of what decides between the kinds of work. -/
theorem Handles.alike {packet : Packet} {first second : Reaction}
    (handled : Handles { node with tally } surroundings packet first)
    (other : node.Handles surroundings packet second) : first.Alike second := by
  cases handled with
  | forwards foreign accepted =>
      cases other with
      | forwards => exact ⟨rfl, ⟨_, rfl⟩, rfl⟩
      | failsToForward | queues | reports | ignores | replies | failsToReply => simp_all
  | failsToForward foreign refused =>
      cases other with
      | failsToForward _ otherRefused =>
          cases refused.symm.trans otherRefused
          exact ⟨rfl, ⟨_, rfl⟩, rfl⟩
      | forwards | queues | reports | ignores | replies | failsToReply => simp_all
  | queues own duty content pushed =>
      cases other with
      | queues _ _ otherContent otherPushed =>
          cases content.symm.trans otherContent
          cases pushed.symm.trans otherPushed
          exact ⟨rfl, ⟨_, rfl⟩, rfl⟩
      | forwards | failsToForward | reports | ignores | replies | failsToReply =>
          simp_all [Packet.kind, Content.kind]
  | reports own duty content =>
      cases other with
      | reports _ _ otherContent =>
          cases content.symm.trans otherContent
          exact ⟨rfl, ⟨_, rfl⟩, rfl⟩
      | forwards | failsToForward | queues | ignores | replies | failsToReply =>
          simp_all [Packet.kind, Content.kind]
  | ignores own idle =>
      cases other with
      | ignores => exact ⟨rfl, ⟨_, rfl⟩, rfl⟩
      | forwards | failsToForward | queues | reports | replies | failsToReply =>
          simp_all [Packet.kind, Content.kind]
  | replies own duty asked replyEq saved accepted =>
      cases other with
      | replies _ otherDuty _ otherReply otherSaved =>
          cases duty.symm.trans otherDuty
          subst replyEq saved otherReply otherSaved
          refine ⟨rfl, ⟨_, rfl⟩, ?_⟩
          exact congrArg (List.append _) (@saves_of_ring_eq { node with tally } node rfl _)
      | forwards | failsToForward | queues | reports | ignores | failsToReply =>
          simp_all [Packet.kind, Content.kind]
  | failsToReply own duty asked replyEq refused =>
      cases other with
      | failsToReply _ otherDuty _ otherReply otherRefused =>
          cases duty.symm.trans otherDuty
          cases refused.symm.trans otherRefused
          subst replyEq otherReply
          exact ⟨rfl, ⟨_, rfl⟩, rfl⟩
      | forwards | failsToForward | queues | reports | ignores | replies =>
          simp_all [Packet.kind, Content.kind]

private theorem saves_rememberAll_of_ring_eq {first second : Node} (same : first.ring = second.ring)
    (fingerprints : List Fingerprint) :
    (first.rememberAll fingerprints).2 = (second.rememberAll fingerprints).2 := by
  induction fingerprints generalizing first second with
  | nil => rfl
  | cons fingerprint rest ih =>
      have rings : (first.remember fingerprint).1.ring = (second.remember fingerprint).1.ring := by
        rw [remember_node, remember_node, same]
      simp only [rememberAll]
      rw [ih rings, saves_of_ring_eq same]

private theorem saves_absorb (node : Node) (tally : Tally) :
    { node with tally }.absorb.2 = node.absorb.2 :=
  @saves_rememberAll_of_ring_eq { node with tally, announced := [] }
    { node with announced := [] } rfl node.announced

private theorem alike_process (node : Node) (tally : Tally) (surroundings : Surroundings)
    (frame : Bytes) :
    Reaction.Alike ({ node with tally }.process surroundings frame)
      (node.process surroundings frame) := by
  cases examined : examine node.absorbedRing frame with
  | error reason =>
      have other : examine { node with tally }.absorbedRing frame = .error reason := examined
      rw [process_of_refused surroundings examined, process_of_refused surroundings other]
      exact ⟨rfl, ⟨_, rfl⟩, saves_absorb node tally⟩
  | ok packet =>
      have other : examine { node with tally }.absorbedRing frame = .ok packet := examined
      have handled := handles { node with tally } surroundings packet
      have alike := handled.alike (handles node surroundings packet)
      rw [process_eq_handle examined, process_eq_handle other]
      refine ⟨alike.outcome, alike.node, ?_⟩
      have remembered := @saves_of_ring_eq { node with tally }.received node.received rfl
      simp only [saves_absorb, remembered, alike.effects]

end Node

/-! ### A life with the buffer and without -/

namespace RelayLoop

/-- The same work on as much of a frame as the buffer holds. -/
def Work.cut : Work → Work
  | .processed surroundings frame => .processed surroundings (frame.take Inbox.bufferLength)
  | work => work

def Work.Blind : Work → Prop
  | .tended edit => ∀ node tally, edit { node with tally } = { edit node with tally }
  | _ => True

private theorem alike_cut_apply {first second : Node} {work : Work} (alike : first.Alike second)
    (blind : work.Blind) :
    (work.cut.apply first).1.Alike (work.apply second).1 ∧
      (work.cut.apply first).2 = (work.apply second).2 := by
  obtain ⟨tally, rfl⟩ := alike
  cases work with
  | processed surroundings frame =>
      simp only [Work.cut, Work.apply]
      by_cases fits : frame.length ≤ Inbox.bufferLength
      · rw [List.take_of_length_le fits]
        have same := second.alike_process tally surroundings frame
        exact ⟨same.node, same.effects⟩
      · have cutStays : longestFrame < (frame.take Inbox.bufferLength).length := by
          rw [List.length_take_of_le (by omega)]
          exact Nat.lt_succ_self longestFrame
        have wholeIs : longestFrame < frame.length := by
          have atMost := List.length_take_le' Inbox.bufferLength frame
          omega
        rw [Node.process_of_overlong _ _ cutStays, Node.process_of_overlong _ _ wholeIs]
        exact ⟨⟨_, rfl⟩, second.saves_absorb tally⟩
  | resized count =>
      simp only [Work.cut, Work.apply, Node.setKnownCount]
      cases second.ring.resize? (Ring.capacityFor count) with
      | none => exact ⟨⟨tally, rfl⟩, rfl⟩
      | some ring => exact ⟨⟨tally, rfl⟩, rfl⟩
  | tended edit =>
      refine ⟨⟨tally, ?_⟩, rfl⟩
      exact blind second tally

/-- Frames that are cut, and counters that differ, never show in anything else. -/
theorem alike_replay_cut {works : List Work} {first second : Node}
    (alike : first.Alike second) (blind : ∀ work ∈ works, work.Blind) :
    (replay first (works.map Work.cut)).1.Alike (replay second works).1 ∧
      (replay first (works.map Work.cut)).2 = (replay second works).2 := by
  induction works generalizing first second with
  | nil => exact ⟨alike, rfl⟩
  | cons work rest ih =>
      obtain ⟨blindNow, blindLater⟩ := List.forall_mem_cons.mp blind
      obtain ⟨alikeNow, sameNow⟩ := alike_cut_apply alike blindNow
      obtain ⟨alikeLater, sameLater⟩ := ih alikeNow blindLater
      simp only [List.map_cons, replay]
      exact ⟨alikeLater, by rw [sameNow, sameLater]⟩

/-- What the task takes out of its inbox, and what it makes of it. -/
theorem receive_of_waiting {now : Nat} {place : Place} {frame : Bytes} {rest : List Bytes}
    (listening : place.loop.phase = .listening)
    (waits : place.station.inbox.frames = frame :: rest) :
    let reaction := place.node.process { verdict := place.station.verdict, now }
      (frame.take Inbox.bufferLength)
    ∃ later, receive now place = .goesOn later reaction.effects ∧
      later.node = reaction.node ∧ later.station.inbox.frames = rest := by
  simp only [receive, listening, Inbox.take?, waits]
  exact ⟨_, rfl, rfl, rfl⟩

/-- The oldest waiting frame comes through a buffer of 56 bytes. The node is left as if it
had been given all of the frame, but for its counters, and does the same. A frame that fits
comes to the same end, and one that does not is let go as corrupt or malformed, cut or not,
whatever its bytes are. Nor does a difference show in anything that comes later. -/
theorem buffer_changes_nothing {now : Nat} {place : Place} {frame : Bytes} {rest : List Bytes}
    (listening : place.loop.phase = .listening)
    (waits : place.station.inbox.frames = frame :: rest) :
    let surroundings : Surroundings := { verdict := place.station.verdict, now }
    let cut := place.node.process surroundings (frame.take 56)
    let whole := place.node.process surroundings frame
    (∃ later, receive now place = .goesOn later cut.effects ∧ later.node = cut.node ∧
      later.station.inbox.frames = rest) ∧
      cut.node.Alike whole.node ∧ cut.effects = whole.effects ∧
      (frame.length ≤ 56 → cut = whole) ∧
      (56 < frame.length →
        cut.outcome = .dropped (Node.overlongReason (frame.take 56)) ∧
          whole.outcome = .dropped (Node.overlongReason frame)) ∧
      ∀ works : List Work, (∀ work ∈ works, work.Blind) →
        (replay cut.node (works.map Work.cut)).1.Alike (replay whole.node works).1 ∧
          (replay cut.node (works.map Work.cut)).2 = (replay whole.node works).2 := by
  intro surroundings cut whole
  have own : place.node.Alike place.node := ⟨place.node.tally, rfl⟩
  obtain ⟨alike, effects⟩ := @alike_cut_apply _ _ (.processed surroundings frame) own trivial
  refine ⟨receive_of_waiting listening waits, alike, effects, fun fits => ?_, fun overlong => ?_,
    fun works blind => alike_replay_cut alike blind⟩
  · exact congrArg (place.node.process surroundings) (List.take_of_length_le fits)
  · have cutStays : longestFrame < (frame.take 56).length := by
      rw [List.length_take_of_le (by omega)]
      decide
    have wholeIs : longestFrame < frame.length := Nat.lt_trans (by decide) overlong
    exact ⟨congrArg Reaction.outcome (Node.process_of_overlong _ _ cutStays),
      congrArg Reaction.outcome (Node.process_of_overlong _ _ wholeIs)⟩

/-- A reading for the controller, with two bytes behind it. The first leaves the sum in
order, so the frame is still sealed where the buffer cuts it. -/
def trailing : Bytes :=
  Packet.frame
      { dest := .numbered 1
        src := .numbered 2
        content := .reading .zero
        hops := 1
        fingerprint := .blank } ++
    [0, 7]

def besetPlace : Place where
  loop := { phase := .listening }
  node := Post.loneController
  station := { inbox := { frames := [trailing, [1]] } }

theorem buffer_changes_nothing_trailing :
    Checksum.isSealed (trailing.take 55) = true ∧ Checksum.isSealed (trailing.take 56) = true ∧
      ∃ later, receive 0 besetPlace = .goesOn later [] ∧ later.station.inbox.frames = [[1]] ∧
        later.node.queue.entries = [] ∧ later.node.tally.malformed = 1 ∧
        (besetPlace.node.process { verdict := none, now := 0 } trailing).outcome =
          .dropped .corrupt := by
  obtain ⟨⟨later, took, node, left⟩, -, effects, -, dropped, -⟩ :=
    @buffer_changes_nothing 0 besetPlace trailing [[1]] rfl rfl
  have whole : (besetPlace.node.process { verdict := none, now := 0 } trailing).outcome =
      .dropped .corrupt := (dropped (by decide +kernel)).2.trans (by decide +kernel)
  refine ⟨by decide +kernel, by decide +kernel, later, ?_, left, ?_, ?_, whole⟩
  · have silent :
        (besetPlace.node.process { verdict := none, now := 0 } (trailing.take 56)).effects = [] :=
      List.isEmpty_iff.mp (by decide +kernel)
    rw [← silent]
    exact took
  · rw [node]
    decide +kernel
  · rw [node]
    decide +kernel

end RelayLoop

end FloodMesh
