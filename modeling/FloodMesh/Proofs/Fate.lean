/-
The fate of a packet at a node whose memory has room and whose radio is fine.

A node with a slot for every fingerprint there is knows what it has acted on. It
drops what it knows and what is spent. Of anything else it remembers the
fingerprint, and it relays the packet, answers it, queues its reading or merely
takes note of it.
-/

import FloodMesh.Proofs.Punctual

namespace FloodMesh

open Traffic

namespace Node

/-- The node remembers the fingerprint, or will once it takes in what is announced. -/
def Knows (node : Node) (fingerprint : Fingerprint) : Prop :=
  fingerprint ∈ node.ring.entries ∨ fingerprint ∈ node.announced

structure Roomy (all : List Fingerprint) (node : Node) : Prop where
  fits : node.ring.Fits all
  announced : node.announced ⊆ all

/-- What becomes of a packet: whether the node's duty handled it, what was sent,
which readings were queued, and which fingerprints the node learnt. -/
inductive Fate (node : Node) (packet : Packet) :
    Bool → Option Packet → List Entry → List Fingerprint → Prop
  | dropped (idle : packet.hops = 0 ∨ node.Knows packet.fingerprint) :
      Fate node packet false none [] []
  | relayed (alive : packet.hops ≠ 0) (new : ¬ node.Knows packet.fingerprint)
      (foreign : packet.dest ≠ node.address) :
      Fate node packet false (some packet.passedOn) [] [packet.fingerprint]
  | answered {probe : Probe} (alive : packet.hops ≠ 0) (new : ¬ node.Knows packet.fingerprint)
      (own : packet.dest = node.address) (duty : node.duty = .sensor probe)
      (asks : packet.kind = .request) :
      Fate node packet true (some (node.reply packet probe.read.1)) []
        [packet.fingerprint, (node.reply packet probe.read.1).fingerprint]
  | queued {data : Reading} {entry : Entry} (alive : packet.hops ≠ 0)
      (new : ¬ node.Knows packet.fingerprint) (own : packet.dest = node.address)
      (duty : node.duty = .controller) (content : packet.content = .reading data)
      (dest : entry.dest = packet.dest) (src : entry.src = packet.src)
      (dataEq : entry.data = data) :
      Fate node packet true none [entry] [packet.fingerprint]
  | noted (alive : packet.hops ≠ 0) (new : ¬ node.Knows packet.fingerprint)
      (own : packet.dest = node.address)
      (unqueued : node.duty = .controller → packet.kind ≠ .reading)
      (unanswered : node.duty ≠ .controller → packet.kind ≠ .request) :
      Fate node packet true none [] [packet.fingerprint]

private theorem Roomy.absorbed {all : List Fingerprint} {node : Node} (roomy : node.Roomy all) :
    node.absorbedRing.Fits all ∧
      ∀ fingerprint, fingerprint ∈ node.absorbedRing.entries ↔ node.Knows fingerprint :=
  roomy.fits.foldl fun _ member => roomy.announced member

end Node

/-- A frame is refused for being spent or known only. -/
theorem Node.refused_frame {ring : Ring} {packet : Packet} {reason : DropReason}
    (refused : Node.examine ring packet.frame = .error reason) :
    packet.hops = 0 ∨ packet.fingerprint ∈ ring.entries := by
  by_contra fine
  obtain ⟨alive, new⟩ := not_or.mp fine
  have passed : Node.examine ring packet.frame = .ok packet :=
    Node.examine_eq_ok_iff.mpr ⟨Packet.shortestFrame_le packet, Packet.isSealed_frame packet,
      Packet.decode_frame packet, alive, Ring.contains_eq_false_iff.mpr new⟩
  rw [passed] at refused
  cases refused

private theorem Node.admitted_frame {ring : Ring} {packet read : Packet}
    (admitted : Node.examine ring packet.frame = .ok read) :
    read = packet ∧ packet.hops ≠ 0 ∧ packet.fingerprint ∉ ring.entries := by
  obtain ⟨_, _, reads, alive, new⟩ := Node.examine_eq_ok_iff.mp admitted
  rw [Packet.decode_frame] at reads
  cases reads
  exact ⟨rfl, alive, Ring.contains_eq_false_iff.mp new⟩

private theorem Course.fate {node : Node} {packet : Packet} {now : Nat} {outcome : Outcome}
    {done : List Effect} {ring : Ring} {all : List Fingerprint}
    (course : Course node { verdict := none, now } packet.frame outcome done ring)
    (roomy : node.Roomy all) (member : packet.fingerprint ∈ all)
    (reply : packet.dest = node.address → packet.kind = .request →
      ¬ node.Knows packet.fingerprint →
        Fingerprint.generate node.address node.sequence ∈ all) :
    ∃ sent queued learnt, node.Fate packet outcome.isDispatch sent queued learnt ∧
      sentFrames done = framesOf sent ∧ entriesOf done = queued ∧ ring.Fits all ∧
        ∀ fingerprint,
          fingerprint ∈ ring.entries ↔ node.Knows fingerprint ∨ fingerprint ∈ learnt := by
  obtain ⟨absorbedFits, absorbedIff⟩ := roomy.absorbed
  obtain ⟨insertedFits, insertedIff⟩ := absorbedFits.insert member
  have passed {read : Packet}
      (admitted : Node.examine node.absorbedRing packet.frame = .ok read) :
      read = packet ∧ packet.hops ≠ 0 ∧ ¬ node.Knows packet.fingerprint := by
    obtain ⟨same, alive, new⟩ := Node.admitted_frame admitted
    exact ⟨same, alive, fun known => new ((absorbedIff _).mpr known)⟩
  have learns : ∀ fingerprint,
      fingerprint ∈ (node.absorbedRing.insert packet.fingerprint).entries ↔
        node.Knows fingerprint ∨ fingerprint ∈ [packet.fingerprint] := by
    intro fingerprint
    rw [insertedIff, absorbedIff, List.mem_singleton]
  cases course with
  | dropped refused =>
      have idle := (Node.refused_frame refused).imp id (absorbedIff _).mp
      exact ⟨none, [], [], .dropped idle, rfl, rfl, absorbedFits, by simpa using absorbedIff⟩
  | forwarded admitted foreign accepted =>
      obtain ⟨rfl, alive, new⟩ := passed admitted
      exact ⟨_, _, _, .relayed alive new foreign, rfl, rfl, insertedFits, learns⟩
  | forwardFailed admitted foreign refused => cases refused
  | @queued read data entry admitted own duty content entryEq =>
      obtain ⟨rfl, alive, new⟩ := passed admitted
      refine ⟨_, _, _, .queued alive new own duty content ?_ ?_ ?_, rfl, rfl, insertedFits,
        learns⟩
      · rw [entryEq]
        rfl
      · rw [entryEq]
        rfl
      · rw [entryEq]
        rfl
  | @reported read code admitted own duty content =>
      obtain ⟨rfl, alive, new⟩ := passed admitted
      have kindEq : read.kind = .fault := by
        rw [Packet.kind, content]
        rfl
      refine ⟨_, _, _, .noted alive new own ?_ ?_, rfl, rfl, insertedFits, learns⟩
      · intro _ same
        rw [kindEq] at same
        cases same
      · exact fun other => absurd duty other
  | @ignored read admitted own idle =>
      obtain ⟨rfl, alive, new⟩ := passed admitted
      refine ⟨_, _, _, .noted alive new own ?_ ?_, rfl, rfl, insertedFits, learns⟩
      · intro duty same
        rw [idle.mp duty] at same
        cases same
      · exact fun other asks => other (idle.mpr asks)
  | @replied read probe admitted own duty asked accepted =>
      obtain ⟨rfl, alive, new⟩ := passed admitted
      have replyMember : (node.reply read probe.read.1).fingerprint ∈ all := reply own asked new
      obtain ⟨fits, memberIff⟩ := insertedFits.insert replyMember
      refine ⟨_, _, _, .answered alive new own duty asked, rfl, rfl, fits, ?_⟩
      intro fingerprint
      rw [memberIff, learns, List.mem_singleton, List.mem_pair, or_assoc]
  | replyFailed admitted own duty asked refused => cases refused

structure Node.Meets (all : List Fingerprint) (node : Node) (packet : Packet) (after : Node)
    (outcome : Outcome) (effects : List Effect) (sent : Option Packet)
    (learnt : List Fingerprint) : Prop where
  fate : node.Fate packet outcome.isDispatch sent (entriesOf effects) learnt
  sent : sentFrames effects = framesOf sent
  roomy : after.Roomy all
  knows : ∀ fingerprint, after.Knows fingerprint ↔
    node.Knows fingerprint ∨ fingerprint ∈ learnt
  address : after.address = node.address
  controls : node.duty = .controller → after.duty = .controller
  idle : outcome.isDispatch = false →
    after.duty = node.duty ∧ after.sequence = node.sequence

theorem Node.meets {node after : Node} {packet : Packet} {now : Nat} {outcome : Outcome}
    {effects : List Effect} {all : List Fingerprint}
    (processed : node.process { verdict := none, now } packet.frame =
      { outcome, node := after, effects })
    (roomy : node.Roomy all) (member : packet.fingerprint ∈ all)
    (reply : packet.dest = node.address → packet.kind = .request →
      ¬ node.Knows packet.fingerprint →
        Fingerprint.generate node.address node.sequence ∈ all) :
    ∃ sent learnt, node.Meets all packet after outcome effects sent learnt := by
  have course := course_process node { verdict := none, now } packet.frame
  have worked := node.worked_process { verdict := none, now } packet.frame
  have kept := node.process_keeps { verdict := none, now } packet.frame
  rw [processed] at course worked kept
  obtain ⟨sent, queued, learnt, fate, sentEq, queuedEq, fits, knows⟩ :=
    course.fate roomy member reply
  rw [sentFrames_deeds] at sentEq
  rw [entriesOf_deeds] at queuedEq
  subst queuedEq
  have empty : after.announced = [] := kept.2
  refine ⟨sent, learnt, fate, sentEq, ⟨fits, ?_⟩, ?_, kept.1, ?_, worked.idle⟩
  · rw [empty]
    exact List.nil_subset _
  · intro fingerprint
    have unannounced : fingerprint ∉ after.announced := by
      rw [empty]
      exact List.not_mem_nil
    exact (or_iff_left unannounced).trans (knows fingerprint)
  · intro duty
    have later := worked.duty
    rw [duty] at later
    exact later

end FloodMesh
