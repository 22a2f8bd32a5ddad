/-
Where every frame on the air comes from.

A ledger is kept beside a run. It tells for each frame that waits or was sent
which origination it is a copy of and how often the copy was sent on. That a
frame agrees with its entry is an invariant of every move: relays change
nothing but the hops, one at a time, and so a copy never gets farther from its
originator than it was sent on, nor farther than its hops allow.
-/

import FloodMesh.Proofs.Traffic
import Mathlib

namespace FloodMesh

open Traffic

/-! ### The ledger -/

/-- A packet as a station put it on the air. -/
structure Origin where
  station : Nat
  packet : Packet

/-- A copy of an origination and how often it was sent on. -/
structure Copy where
  origin : Origin
  relays : Nat

def Origin.read? (station : Nat) (frame : Bytes) : Option Origin :=
  match Packet.decode frame with
  | .ok packet => some { station, packet }
  | .error _ => none

def Origin.first (origin : Origin) : Copy := { origin, relays := 0 }

def Copy.next (copy : Copy) : Copy := { copy with relays := copy.relays + 1 }

def Mesh.Event.origins (event : Mesh.Event) : List Origin :=
  match event.outcome with
  | .delivered (.replied _ _ _) => (sentFrames event.effects).filterMap (Origin.read? event.index)
  | _ => []

def Traffic.Occurrence.origins : Occurrence → List Origin
  | .requested station frame => (Origin.read? station frame).toList
  | .heard _ event => event.origins

def Traffic.Occurrence.heard? : Occurrence → Option (Bytes × Mesh.Event)
  | .requested _ _ => none
  | .heard frame event => some (frame, event)

/-- What was put on the air for the first time, in order. -/
def originated (past : List Occurrence) : List Origin := past.flatMap Occurrence.origins

structure Ledger where
  /-- One entry for each frame that waits at a station, in order. -/
  waiting : Nat → List Copy := fun _ => []
  /-- One entry for each frame that a station has sent, in order. -/
  sent : Nat → List Copy := fun _ => []
  /-- One entry for each frame that was taken, in order. -/
  taken : List Copy := []

namespace Ledger

def leftAt (ledger : Ledger) (taker : Option Nat) (index : Nat) : List Copy :=
  if taker = some index then (ledger.waiting index).tail else ledger.waiting index

/-- A copy may have been taken, and copies were put on the air. -/
def move (ledger : Ledger) (medium : Medium) (taker : Option Nat) (sender : Nat)
    (copies : List Copy) : Ledger :=
  { ledger with
    waiting := fun index =>
      ledger.leftAt taker index ++ if medium.reaches sender index then copies else []
    sent := fun index => ledger.sent index ++ if index = sender then copies else [] }

/-- What was put on the air because of the oldest copy that waits. -/
def copies (ledger : Ledger) (event : Mesh.Event) : List Copy :=
  match event.outcome with
  | .forwarded _ _ => (ledger.waiting event.index).head?.toList.map Copy.next
  | _ => event.origins.map Origin.first

def note (medium : Medium) (ledger : Ledger) : Occurrence → Ledger
  | .requested station frame =>
      ledger.move medium none station ((Origin.read? station frame).toList.map Origin.first)
  | .heard _ event =>
      { ledger.move medium (some event.index) event.index (ledger.copies event) with
        taken := ledger.taken ++ (ledger.waiting event.index).head?.toList }

def ofRun (medium : Medium) (past : List Occurrence) : Ledger := past.foldl (note medium) {}

end Ledger

/-- A frame is a copy of an origination: it differs in the hops only, and these
are fewer by as many as the copy was sent on. -/
structure Genuine (origins : List Origin) (frame : Bytes) (copy : Copy) : Prop where
  sealed : Checksum.isSealed frame = true
  origin : copy.origin ∈ origins
  within : copy.relays ≤ copy.origin.packet.hops.toNat
  reads : ∃ packet, Packet.decode frame = .ok packet ∧
    packet = { copy.origin.packet with hops := packet.hops } ∧
    packet.hops.toNat = copy.origin.packet.hops.toNat - copy.relays

def Medium.graph (medium : Medium) : SimpleGraph Nat :=
  SimpleGraph.fromRel fun first second =>
    first < medium.stations.length ∧ second < medium.stations.length ∧
      medium.linked first second = true

/-- How far from the originator a station is that takes a copy, and one that
dispatches it, sends it on or fails to send it on. -/
structure Met (medium : Medium) (event : Mesh.Event) (copy : Copy) : Prop where
  near : medium.graph.edist copy.origin.station event.index ≤ copy.relays + 1
  acted : (∀ reason, event.outcome ≠ .dropped reason) →
    medium.graph.edist copy.origin.station event.index ≤ copy.origin.packet.hops.toNat

structure Traffic.Quiet (traffic : Traffic) : Prop where
  unlimited : traffic.mesh.medium.Unlimited
  waiting : ∀ index, traffic.mesh.medium.waitingAt index = []
  sent : ∀ index, traffic.mesh.medium.transmissions index = []

/-! ### Copies -/

def Copy.packet (copy : Copy) : Packet :=
  { copy.origin.packet with
    hops := UInt8.ofNat (copy.origin.packet.hops.toNat - copy.relays) }

structure Bears (origins : List Origin) (frame : Bytes) (copy : Copy) : Prop where
  origin : copy.origin ∈ origins
  within : copy.relays ≤ copy.origin.packet.hops.toNat
  frame : frame = copy.packet.frame

private theorem Copy.toNat_hops (copy : Copy) :
    copy.packet.hops.toNat = copy.origin.packet.hops.toNat - copy.relays := by
  have bounded := copy.origin.packet.hops.toNat_lt
  unfold Copy.packet
  rw [UInt8.toNat_ofNat_of_lt']
  exact Nat.lt_of_le_of_lt (Nat.sub_le _ _) bounded

private theorem Bears.genuine {origins : List Origin} {frame : Bytes} {copy : Copy}
    (bears : Bears origins frame copy) : Genuine origins frame copy := by
  have frameEq := bears.frame
  subst frameEq
  refine ⟨Packet.isSealed_frame _, bears.origin, bears.within, copy.packet,
    Packet.decode_frame _, rfl, copy.toNat_hops⟩

private theorem Bears.mono {origins more : List Origin} {frame : Bytes} {copy : Copy}
    (bears : Bears origins frame copy) (kept : origins ⊆ more) : Bears more frame copy :=
  ⟨kept bears.origin, bears.within, bears.frame⟩

/-- The originator's own frame is the first copy. -/
theorem bears_first {origins : List Origin} {origin : Origin} (member : origin ∈ origins) :
    Bears origins origin.packet.frame origin.first := by
  refine ⟨member, Nat.zero_le _, ?_⟩
  unfold Copy.packet Origin.first
  simp

/-- A copy sent on is the next copy. -/
theorem bears_next {origins : List Origin} {copy : Copy} (member : copy.origin ∈ origins)
    (alive : copy.packet.hops ≠ 0) :
    copy.relays + 1 ≤ copy.origin.packet.hops.toNat ∧
      Bears origins copy.packet.passedOn.frame copy.next := by
  have left : copy.packet.hops.toNat ≠ 0 := by
    intro spent
    exact alive (UInt8.toNat_inj.mp spent)
  have budget := copy.toNat_hops
  have room : copy.relays + 1 ≤ copy.origin.packet.hops.toNat := by omega
  refine ⟨room, member, room, ?_⟩
  have hopsEq : copy.packet.hops - 1 = copy.next.packet.hops := by
    apply UInt8.toNat_inj.mp
    rw [UInt8.toNat_sub_of_le, copy.next.toNat_hops, budget]
    · exact (Nat.sub_sub _ _ _)
    · rw [UInt8.le_iff_toNat_le]
      exact Nat.one_le_iff_ne_zero.mpr left
  unfold Packet.passedOn
  rw [hopsEq]
  rfl

theorem Origin.read?_frame (station : Nat) (packet : Packet) :
    Origin.read? station packet.frame = some { station, packet } := by
  unfold Origin.read?
  rw [Packet.decode_frame]

/-! ### What comes of a copy -/

/-- A copy is admitted as the packet it is. -/
theorem Copy.eq_of_admitted {copy : Copy} {ring : Ring} {packet : Packet}
    (admitted : Node.examine ring copy.packet.frame = .ok packet) :
    packet = copy.packet ∧ copy.packet.hops ≠ 0 := by
  obtain ⟨_, _, reads, alive, _⟩ := Node.examine_eq_ok_iff.mp admitted
  rw [Packet.decode_frame] at reads
  cases reads
  exact ⟨rfl, alive⟩

structure Outgrowth (origins : List Origin) (copy : Copy) (index : Nat) (outcome : Outcome)
    (frames : List Bytes) (copies : List Copy) : Prop where
  bears : List.Forall₂ (Bears origins) frames copies
  near : ∀ sent ∈ copies, sent = copy.next ∨ sent.origin.station = index
  room : (∀ reason, outcome ≠ .dropped reason) →
    copy.relays + 1 ≤ copy.origin.packet.hops.toNat

private theorem Course.outgrowth {node : Node} {surroundings : Surroundings} {copy : Copy}
    {outcome : Outcome} {done effects : List Effect} {ring : Ring}
    (course : Course node surroundings copy.packet.frame outcome done ring)
    (sentEq : sentFrames effects = sentFrames done) {origins : List Origin}
    (member : copy.origin ∈ origins) {ledger : Ledger} {index : Nat} {others : List Copy}
    (waits : ledger.waiting index = copy :: others) :
    Outgrowth (origins ++ Mesh.Event.origins { index, outcome, effects }) copy index outcome
      (sentFrames effects) (ledger.copies { index, outcome, effects }) := by
  have silent {ring : Ring} {packet : Packet} (result : Outcome)
      (admitted : Node.examine ring copy.packet.frame = .ok packet) :
      Outgrowth (origins ++ []) copy index result [] [] := by
    obtain ⟨_, alive⟩ := Copy.eq_of_admitted admitted
    have room := (bears_next member alive).1
    exact ⟨.nil, fun sent impossible => (by cases impossible), fun _ => room⟩
  rw [sentEq]
  simp only [Mesh.Event.origins, Ledger.copies, waits, List.head?_cons, Option.toList_some,
    List.map_cons, List.map_nil, sentEq]
  cases course with
  | @dropped reason refused =>
      exact ⟨.nil, fun sent impossible => (by cases impossible),
        fun kept => absurd rfl (kept reason)⟩
  | @forwarded packet admitted foreign accepted =>
      obtain ⟨rfl, alive⟩ := Copy.eq_of_admitted admitted
      obtain ⟨room, bears⟩ := bears_next member alive
      refine ⟨.cons (bears.mono (List.subset_append_left _ _)) .nil, ?_, fun _ => room⟩
      intro sent present
      exact .inl (List.mem_singleton.mp present)
  | forwardFailed admitted foreign refused => exact silent _ admitted
  | queued admitted own duty content entryEq => exact silent _ admitted
  | reported admitted own duty content => exact silent _ admitted
  | ignored admitted own idle => exact silent _ admitted
  | @replied packet probe admitted own duty asked accepted =>
      obtain ⟨_, alive⟩ := Copy.eq_of_admitted admitted
      have room := (bears_next member alive).1
      have read := Origin.read?_frame index (node.reply packet probe.read.1)
      simp only [sentFrames, List.filterMap_cons, List.filterMap_nil, Effect.frame?, read]
      have reply : { station := index, packet := node.reply packet probe.read.1 } ∈
          origins ++ [{ station := index, packet := node.reply packet probe.read.1 }] := by simp
      refine ⟨.cons (bears_first reply) .nil, ?_, fun _ => room⟩
      intro sent present
      rw [List.map_singleton, List.mem_singleton] at present
      rw [present]
      exact .inr rfl
  | replyFailed admitted own duty asked refused => exact silent _ admitted

/-! ### The invariant -/

structure Accounts (start : Medium) (past : List Occurrence) (traffic : Traffic) : Prop where
  linked : traffic.mesh.medium.linked = start.linked
  length : traffic.mesh.medium.stations.length = start.stations.length
  unlimited : traffic.mesh.medium.Unlimited
  waiting : ∀ index < start.stations.length,
    List.Forall₂ (Bears (originated past)) (traffic.mesh.medium.waitingAt index)
      ((Ledger.ofRun start past).waiting index)
  sent : ∀ index,
    List.Forall₂ (Bears (originated past)) (traffic.mesh.medium.transmissions index)
      ((Ledger.ofRun start past).sent index)
  near : ∀ index < start.stations.length, ∀ copy ∈ (Ledger.ofRun start past).waiting index,
    start.graph.edist copy.origin.station index ≤ copy.relays + 1
  taken : List.Forall₂
    (fun taken copy => Bears (originated past) taken.1 copy ∧ Met start taken.2 copy)
    (past.filterMap Occurrence.heard?) (Ledger.ofRun start past).taken

theorem originated_append (past more : List Occurrence) :
    originated (past ++ more) = originated past ++ originated more :=
  List.flatMap_append

private theorem originated_subset (past more : List Occurrence) :
    originated past ⊆ originated (past ++ more) := by
  rw [originated_append]
  exact List.subset_append_left _ _

private theorem originated_snoc (past : List Occurrence) (occurrence : Occurrence) :
    originated (past ++ [occurrence]) = originated past ++ occurrence.origins := by
  rw [originated_append]
  simp [originated]

private theorem Ledger.move_nothing (ledger : Ledger) (medium : Medium) (sender : Nat) :
    ledger.move medium none sender [] = ledger := by
  simp [Ledger.move, Ledger.leftAt]

private theorem accounts_start {traffic : Traffic} (quiet : traffic.Quiet) :
    Accounts traffic.mesh.medium [] traffic where
  linked := rfl
  length := rfl
  unlimited := quiet.unlimited
  waiting index _ := by
    rw [quiet.waiting index]
    exact .nil
  sent index := by
    rw [quiet.sent index]
    exact .nil
  near index _ copy impossible := by cases impossible
  taken := .nil

/-- A frame reaches only stations one hop away. -/
theorem edist_of_reaches {medium : Medium} {sender index : Nat}
    (sending : sender < medium.stations.length) (within : index < medium.stations.length)
    (reached : medium.reaches sender index = true) : medium.graph.edist sender index ≤ 1 := by
  have apart : index ≠ sender ∧ medium.linked sender index = true := by
    simpa [Medium.reaches] using reached
  rw [SimpleGraph.edist_le_one_iff_adj_or_eq]
  left
  unfold Medium.graph
  rw [SimpleGraph.fromRel_adj]
  exact ⟨fun same => apart.1 same.symm, .inl ⟨sending, within, apart.2⟩⟩

theorem exists_of_forall₂ {α β : Type} {relation : α → β → Prop} {first : List α}
    {second : List β} (agree : List.Forall₂ relation first second) {item : α}
    (member : item ∈ first) : ∃ other ∈ second, relation item other := by
  induction agree with
  | nil => cases member
  | @cons head other rest others related _ ih =>
      rcases List.mem_cons.mp member with same | inRest
      · rw [same]
        exact ⟨other, List.mem_cons_self, related⟩
      · obtain ⟨found, present, agrees⟩ := ih inRest
        exact ⟨found, List.mem_cons_of_mem _ present, agrees⟩

/-- If what one move puts on the air agrees with its copies, the ledger goes on
to agree. -/
theorem Accounts.move {start medium : Medium} {past more : List Occurrence}
    {traffic : Traffic} (accounts : Accounts start past traffic) {nodes : List Node}
    {senders : List Sender} {taker : Option Nat} {sender : Nat} {frames : List Bytes}
    {copies taken : List Copy}
    (moved : Medium.Moved traffic.mesh.medium medium taker sender frames)
    (ledgerEq : Ledger.ofRun start (past ++ more) =
      { (Ledger.ofRun start past).move start taker sender copies with
        taken := (Ledger.ofRun start past).taken ++ taken })
    (bears : List.Forall₂ (Bears (originated (past ++ more))) frames copies)
    (near : ∀ copy ∈ copies, sender < start.stations.length ∧
      start.graph.edist copy.origin.station sender ≤ copy.relays)
    (met : List.Forall₂
      (fun taken copy => Bears (originated past) taken.1 copy ∧ Met start taken.2 copy)
      (more.filterMap Occurrence.heard?) taken) :
    Accounts start (past ++ more) { mesh := { medium, nodes }, senders } := by
  have kept := originated_subset past more
  have sameReach : traffic.mesh.medium.reaches = start.reaches := by
    funext first second
    simp only [Medium.reaches, accounts.linked]
  constructor
  · exact moved.linked.trans accounts.linked
  · exact moved.length.trans accounts.length
  · exact moved.unlimited
  · intro index within
    have before := accounts.waiting index within
    have left : List.Forall₂ (Bears (originated past))
        (traffic.mesh.medium.leftAt taker index)
        ((Ledger.ofRun start past).leftAt taker index) := by
      unfold Medium.leftAt Ledger.leftAt
      by_cases taken : taker = some index
      · rw [if_pos taken, if_pos taken]
        rw [← List.drop_one, ← List.drop_one]
        exact List.forall₂_drop 1 before
      · rw [if_neg taken, if_neg taken]
        exact before
    rw [ledgerEq, moved.waitingAt index (by rwa [accounts.length]), sameReach]
    apply List.rel_append (left.imp fun _ _ earlier => earlier.mono kept)
    by_cases reached : start.reaches sender index = true
    · rw [if_pos reached, if_pos reached]
      exact bears
    · rw [if_neg reached, if_neg reached]
      exact .nil
  · intro index
    have before := (accounts.sent index).imp fun _ _ earlier => Bears.mono earlier kept
    rw [ledgerEq, moved.transmissions index]
    apply List.rel_append before
    by_cases own : index = sender
    · rw [if_pos own, if_pos own]
      exact bears
    · rw [if_neg own, if_neg own]
      exact .nil
  · intro index within copy member
    rw [ledgerEq] at member
    rcases List.mem_append.mp member with waited | arrived
    · apply accounts.near index within copy
      unfold Ledger.leftAt at waited
      by_cases taken : taker = some index
      · rw [if_pos taken] at waited
        exact List.mem_of_mem_tail waited
      · rw [if_neg taken] at waited
        exact waited
    · by_cases reached : start.reaches sender index = true
      · rw [if_pos reached] at arrived
        obtain ⟨sending, close⟩ := near copy arrived
        calc start.graph.edist copy.origin.station index
            ≤ start.graph.edist copy.origin.station sender + start.graph.edist sender index :=
              SimpleGraph.edist_triangle
          _ ≤ copy.relays + 1 := add_le_add close (edist_of_reaches sending within reached)
      · rw [if_neg reached] at arrived
        cases arrived
  · rw [ledgerEq, List.filterMap_append]
    apply List.rel_append
    · exact accounts.taken.imp fun _ _ earlier => ⟨earlier.1.mono kept, earlier.2⟩
    · exact met.imp fun _ _ new => ⟨new.1.mono kept, new.2⟩

/-- A sender's turn that puts nothing on the air is not on record. -/
theorem Accounts.idle {start medium : Medium} {past : List Occurrence} {traffic : Traffic}
    (accounts : Accounts start past traffic) {nodes : List Node} {senders : List Sender}
    {sender : Nat} (moved : Medium.Moved traffic.mesh.medium medium none sender []) :
    Accounts start (past ++ []) { mesh := { medium, nodes }, senders } := by
  have ledgerEq : Ledger.ofRun start (past ++ []) =
      { (Ledger.ofRun start past).move start none sender [] with
        taken := (Ledger.ofRun start past).taken ++ [] } := by
    rw [List.append_nil, List.append_nil, Ledger.move_nothing]
  apply accounts.move moved ledgerEq .nil _ .nil
  intro copy impossible
  cases impossible

/-- A request on the air is an origination of its own. -/
theorem Accounts.requested {start medium : Medium} {past : List Occurrence} {traffic : Traffic}
    (accounts : Accounts start past traffic) {nodes : List Node} {senders : List Sender}
    {station : Nat} {request : Packet}
    (attached : station < traffic.mesh.medium.stations.length)
    (moved : Medium.Moved traffic.mesh.medium medium none station [request.frame]) :
    Accounts start (past ++ [.requested station request.frame])
      { mesh := { medium, nodes }, senders } := by
  have read := Origin.read?_frame station request
  have member : { station, packet := request } ∈
      originated (past ++ [.requested station request.frame]) := by
    rw [originated_snoc]
    simp [Occurrence.origins, read]
  have ledgerEq : Ledger.ofRun start (past ++ [.requested station request.frame]) =
      { (Ledger.ofRun start past).move start none station
          [Origin.first { station, packet := request }] with
        taken := (Ledger.ofRun start past).taken ++ [] } := by
    rw [Ledger.ofRun, List.foldl_append, List.append_nil]
    simp only [List.foldl_cons, List.foldl_nil, Ledger.note, read, Option.toList_some,
      List.map_cons, List.map_nil]
    rfl
  apply accounts.move moved ledgerEq (.cons (bears_first member) .nil) _ .nil
  intro copy present
  rw [List.mem_singleton.mp present]
  refine ⟨by rwa [← accounts.length], ?_⟩
  rw [Origin.first, SimpleGraph.edist_self]
  exact zero_le

/-- The oldest waiting frame is a copy, and the node gets it whole. -/
theorem Accounts.oldest {start : Medium} {past : List Occurrence} {traffic : Traffic}
    (accounts : Accounts start past traffic) {index : Nat} {first : Bytes} {rest : List Bytes}
    (waits : traffic.mesh.medium.waitingAt index = first :: rest)
    (within : index < start.stations.length) :
    ∃ copy others, Bears (originated past) first copy ∧
      (Ledger.ofRun start past).waiting index = copy :: others ∧
      first.take Inbox.bufferLength = copy.packet.frame := by
  have agree := accounts.waiting index within
  rw [waits] at agree
  obtain ⟨copy, others, bears, _, ledgerWaits⟩ := List.forall₂_cons_left_iff.mp agree
  have short := Packet.frameLength_le copy.packet
  refine ⟨copy, others, bears, ledgerWaits, ?_⟩
  rw [bears.frame]
  apply List.take_of_length_le
  unfold Inbox.bufferLength
  omega

/-- A frame that is taken is a copy, and so is what comes of it. -/
theorem Accounts.heard {start medium : Medium} {past : List Occurrence} {traffic : Traffic}
    (accounts : Accounts start past traffic) {nodes : List Node} {senders : List Sender}
    {reception : Mesh.Reception} {node : Node} {first : Bytes} {rest : List Bytes}
    (waits : traffic.mesh.medium.waitingAt reception.index = first :: rest)
    (attached : reception.index < traffic.mesh.medium.stations.length)
    (moved : Medium.Moved traffic.mesh.medium medium (some reception.index) reception.index
      (sentFrames (reception.reaction node first).effects)) :
    Accounts start (past ++ [.heard first (reception.event node first)])
      { mesh := { medium, nodes }, senders } := by
  have within : reception.index < start.stations.length := by rwa [← accounts.length]
  obtain ⟨copy, others, bears, ledgerWaits, whole⟩ := accounts.oldest waits within
  have course := course_process node reception.surroundings copy.packet.frame
  have outgrowth := course.outgrowth (sentFrames_deeds _).symm bears.origin ledgerWaits
  have close := accounts.near reception.index within copy (by rw [ledgerWaits]; simp)
  rw [← whole] at outgrowth
  have ledgerEq : Ledger.ofRun start (past ++ [.heard first (reception.event node first)]) =
      { (Ledger.ofRun start past).move start (some reception.index) reception.index
          ((Ledger.ofRun start past).copies (reception.event node first)) with
        taken := (Ledger.ofRun start past).taken ++ [copy] } := by
    rw [Ledger.ofRun, List.foldl_append]
    simp only [List.foldl_cons, List.foldl_nil, Ledger.note]
    rw [show (reception.event node first).index = reception.index from rfl]
    unfold Ledger.ofRun at ledgerWaits
    rw [ledgerWaits]
    rfl
  apply accounts.move moved ledgerEq
  · rw [originated_snoc]
    exact outgrowth.bears
  · intro sent present
    refine ⟨within, ?_⟩
    rcases outgrowth.near sent present with relayed | ownReply
    · rw [relayed]
      exact_mod_cast close
    · rw [ownReply, SimpleGraph.edist_self]
      exact zero_le
  · have met : Met start (reception.event node first) copy := by
      refine ⟨close, fun kept => close.trans ?_⟩
      exact_mod_cast outgrowth.room kept
    exact .cons ⟨bears, met⟩ .nil

/-- Every move keeps the ledger in agreement with the air. -/
theorem Accounts.advance {start : Medium} {past more : List Occurrence}
    {traffic later : Traffic} {move : Move} (accounts : Accounts start past traffic)
    (advance : Advance traffic move more later) : Accounts start (past ++ more) later := by
  cases advance with
  | began station errand =>
      rw [List.append_nil]
      exact { accounts with }
  | @turned which verdict sender node after frames next medium present found turn possible moved =>
      generalize sender.sending = sending at turn
      cases turn with
      | composed => exact accounts.idle moved
      | refused request => exact accounts.idle moved
      | aired request =>
          rcases possible with silent | attached
          · cases silent
          · exact accounts.requested attached moved
      | numbered request => exact accounts.idle moved
      | announced request announces => exact accounts.idle moved
      | unannounced request silent => exact accounts.idle moved
  | heard found waits attached moved => exact accounts.heard waits attached moved
  | tended station node =>
      rw [List.append_nil]
      exact { accounts with }

/-- The ledger of a whole run agrees with the air at its end. -/
theorem Traffic.Run.accounts {allowed : Traffic → Move → Prop} {start later : Traffic}
    {past : List Occurrence} (run : Run allowed start past later) (quiet : start.Quiet) :
    Accounts start.mesh.medium past later := by
  induction run with
  | start => exact accounts_start quiet
  | step run permitted stepped ih => exact ih.advance (advance_of_step ih.unlimited stepped)

/-- Whatever moves a run makes, and whatever becomes of the nodes, every frame
that waits or was sent is a copy of an origination, a station that takes a copy
is at most one hop farther from the originator than the copy was sent on, and
one that acts on it is no farther than the hops it set out with. -/
theorem Traffic.Run.provenance {allowed : Traffic → Move → Prop} {start later : Traffic}
    {past : List Occurrence} (run : Run allowed start past later) (quiet : start.Quiet) :
    (∀ index < later.mesh.medium.stations.length,
      List.Forall₂ (Genuine (originated past)) (later.mesh.medium.waitingAt index)
          ((Ledger.ofRun start.mesh.medium past).waiting index) ∧
        List.Forall₂ (Genuine (originated past)) (later.mesh.medium.transmissions index)
          ((Ledger.ofRun start.mesh.medium past).sent index) ∧
        ∀ copy ∈ (Ledger.ofRun start.mesh.medium past).waiting index,
          start.mesh.medium.graph.edist copy.origin.station index ≤ copy.relays + 1) ∧
      List.Forall₂
        (fun taken copy =>
          Genuine (originated past) taken.1 copy ∧ Met start.mesh.medium taken.2 copy)
        (past.filterMap Occurrence.heard?) (Ledger.ofRun start.mesh.medium past).taken := by
  have accounts := run.accounts quiet
  constructor
  · intro index within
    rw [accounts.length] at within
    refine ⟨?_, ?_, accounts.near index within⟩
    · exact (accounts.waiting index within).imp fun _ _ bears => bears.genuine
    · exact (accounts.sent index).imp fun _ _ bears => bears.genuine
  · exact accounts.taken.imp fun _ _ met => ⟨met.1.genuine, met.2⟩

/-! ### One poll over a relay -/

/-- A controller, a relay and a sensor in a row, and nothing on the air. -/
def pollChain : Traffic :=
  let node (digit : Nat) (duty : Duty) : Node :=
    { address := .numbered digit, duty, ring := Ring.empty 2, queue := Queue.new 1 }
  { mesh :=
      { medium := (Medium.ofCount 3).chain [0, 1, 2]
        nodes :=
          [node 0 .controller, node 1 (.sensor (.ofList [])), node 2 (.sensor (.ofList []))] } }

/-- The controller polls the sensor. The request and the reply go over the relay. -/
def pollMoves : List Move :=
  let hears (index : Nat) : Move := .hears { index, verdict := none, now := 0 }
  [ .begins 0 { dest := .numbered 2, meshSize := 3, hops := 3 },
    .proceeds 0 none, .proceeds 0 none, .proceeds 0 none, .proceeds 0 none,
    hears 1, hears 2, hears 1, hears 0, hears 0 ]

/-- Fresh stations are quiet. -/
theorem Traffic.quiet_of_stations {traffic : Traffic}
    (unused : ∀ station ∈ traffic.mesh.medium.stations,
      station.inbox = {} ∧ station.sent = []) : traffic.Quiet := by
  constructor
  · intro station present
    rw [(unused station present).1]
  · intro index
    unfold Medium.waitingAt
    cases found : traffic.mesh.medium.stations[index]? with
    | none => rfl
    | some station =>
        rw [Option.map_some, (unused station (List.mem_of_getElem? found)).1]
        rfl
  · intro index
    unfold Medium.transmissions
    cases found : traffic.mesh.medium.stations[index]? with
    | none => rfl
    | some station =>
        rw [Option.map_some, (unused station (List.mem_of_getElem? found)).2]
        rfl

theorem quiet_pollChain : pollChain.Quiet := Traffic.quiet_of_stations (by decide)

/-- The request is taken by the relay and the sensor, the reply by the relay, and
then the controller takes its own request and the reply. -/
theorem Traffic.Run.provenance_pollChain :
    ∃ past later, pollChain.follow? (fun _ _ => true) pollMoves = some (past, later) ∧
      (Ledger.ofRun pollChain.mesh.medium past).taken.map Copy.relays = [0, 1, 0, 1, 1] ∧
      List.Forall₂
        (fun taken copy =>
          Genuine (originated past) taken.1 copy ∧ Met pollChain.mesh.medium taken.2 copy)
        (past.filterMap Occurrence.heard?) (Ledger.ofRun pollChain.mesh.medium past).taken := by
  have ran : (pollChain.follow? (fun _ _ => true) pollMoves).isSome = true := by decide +kernel
  obtain ⟨⟨past, later⟩, followed⟩ := Option.isSome_iff_exists.mp ran
  have relayed : (pollChain.follow? (fun _ _ => true) pollMoves).map (fun result =>
      (Ledger.ofRun pollChain.mesh.medium result.1).taken.map Copy.relays) =
        some [0, 1, 0, 1, 1] := by decide +kernel
  rw [followed] at relayed
  have run := Run.start.follow followed
  exact ⟨past, later, followed, Option.some.inj relayed, (run.provenance quiet_pollChain).2⟩

end FloodMesh
