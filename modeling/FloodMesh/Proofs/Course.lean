/-
The courses that a heard frame can take.

A node's work on a frame has one of eight courses. Each fixes the outcome, the
deeds of the node (its effects but for saves of its memory) and the memory
afterwards. The work on an admitted packet is opened once, in `Node.handles`,
which also says what becomes of the node. What later modules say about one step
of a node is read off these two; none of them opens `Node.process` again.
-/

import FloodMesh.Node
import FloodMesh.Proofs.Codec
import FloodMesh.Proofs.Memory

namespace FloodMesh

/-! ### Deeds and sent frames -/

def Effect.isSave : Effect → Bool
  | .saved _ => true
  | _ => false

/-- The effects that reach beyond the node's own memory. -/
def deeds (effects : List Effect) : List Effect := effects.filter fun effect => !effect.isSave

def Effect.frame? : Effect → Option Bytes
  | .sent frame => some frame
  | _ => none

def sentFrames (effects : List Effect) : List Bytes := effects.filterMap Effect.frame?

def Effect.entry? : Effect → Option Entry
  | .queued entry => some entry
  | _ => none

def entriesOf (effects : List Effect) : List Entry := effects.filterMap Effect.entry?

@[simp] theorem deeds_append (first second : List Effect) :
    deeds (first ++ second) = deeds first ++ deeds second := by
  simp [deeds]

theorem sentFrames_deeds (effects : List Effect) :
    sentFrames (deeds effects) = sentFrames effects := by
  unfold sentFrames deeds
  rw [List.filterMap_filter]
  congr 1
  funext effect
  cases effect <;> rfl

theorem entriesOf_deeds (effects : List Effect) :
    entriesOf (deeds effects) = entriesOf effects := by
  unfold entriesOf deeds
  rw [List.filterMap_filter]
  congr 1
  funext effect
  cases effect <;> rfl

theorem mem_of_mem_deeds {effects : List Effect} {effect : Effect}
    (done : effect ∈ deeds effects) : effect ∈ effects :=
  (List.mem_filter.mp done).1

theorem ProbeAnswer.kind_content (answer : ProbeAnswer) : answer.content.kind ≠ .request := by
  cases answer <;> exact fun same => by cases same

def Outcome.isDispatch : Outcome → Bool
  | .delivered _ => true
  | .replyFailed _ => true
  | _ => false

def Outcome.isReply : Outcome → Bool
  | .delivered (.replied _ _ _) => true
  | _ => false

def Packet.passedOn (packet : Packet) : Packet := { packet with hops := packet.hops - 1 }

namespace Node

/-! ### Remembering -/

theorem remember_node (node : Node) (fingerprint : Fingerprint) :
    (node.remember fingerprint).1 = { node with ring := node.ring.insert fingerprint } := by
  unfold remember Ring.insert
  cases node.ring.insert? fingerprint <;> rfl

@[simp] theorem deeds_remember (node : Node) (fingerprint : Fingerprint) :
    deeds (node.remember fingerprint).2 = [] := by
  unfold remember
  cases node.ring.insert? fingerprint <;> rfl

private theorem rememberAll_node (node : Node) (fingerprints : List Fingerprint) :
    (node.rememberAll fingerprints).1 =
      { node with ring := fingerprints.foldl Ring.insert node.ring } := by
  induction fingerprints generalizing node with
  | nil => rfl
  | cons fingerprint rest ih =>
      simp only [rememberAll, List.foldl_cons]
      rw [ih, remember_node]

@[simp] theorem deeds_rememberAll (node : Node) (fingerprints : List Fingerprint) :
    deeds (node.rememberAll fingerprints).2 = [] := by
  induction fingerprints generalizing node with
  | nil => rfl
  | cons fingerprint rest ih =>
      simp only [rememberAll, deeds_append, deeds_remember, List.nil_append]
      exact ih _

/-- The memory once everything announced is in it. -/
def absorbedRing (node : Node) : Ring := node.announced.foldl Ring.insert node.ring

private theorem absorb_node (node : Node) :
    node.absorb.1 = { node with announced := [], ring := node.absorbedRing } :=
  rememberAll_node _ _

@[simp] theorem deeds_absorb (node : Node) : deeds node.absorb.2 = [] :=
  deeds_rememberAll _ _

/-! ### Sending on -/

private theorem framed_eq (packet : Packet) : framed packet = .ok packet.frame := by
  unfold framed
  rw [Packet.writeTo_longest, Except.map, List.take_left]

theorem vet_frame (verdict : Verdict) (packet : Packet) : verdict.vet packet.frame = verdict := by
  have roomy := Packet.frameLength_le packet
  unfold Verdict.vet
  rw [if_neg (by omega)]

end Node

/-! ### The courses -/

/-- What can become of a frame: the outcome, the deeds and the memory after it. -/
inductive Course (node : Node) (surroundings : Surroundings) (frame : Bytes) :
    Outcome → List Effect → Ring → Prop
  | dropped {reason : DropReason}
      (refused : Node.examine node.absorbedRing frame = .error reason) :
      Course node surroundings frame (.dropped reason) [] node.absorbedRing
  | forwarded {packet : Packet}
      (admitted : Node.examine node.absorbedRing frame = .ok packet)
      (foreign : packet.dest ≠ node.address) (accepted : surroundings.verdict = none) :
      Course node surroundings frame (.forwarded packet.kind (packet.hops - 1))
        [.sent packet.passedOn.frame] (node.absorbedRing.insert packet.fingerprint)
  | forwardFailed {packet : Packet} {fault : RadioFault}
      (admitted : Node.examine node.absorbedRing frame = .ok packet)
      (foreign : packet.dest ≠ node.address) (refused : surroundings.verdict = some fault) :
      Course node surroundings frame (.forwardFailed packet.kind fault) []
        (node.absorbedRing.insert packet.fingerprint)
  | queued {packet : Packet} {data : Reading} {entry : Entry}
      (admitted : Node.examine node.absorbedRing frame = .ok packet)
      (own : packet.dest = node.address) (duty : node.duty = .controller)
      (content : packet.content = .reading data)
      (entryEq : entry =
        (node.queue.push packet.dest packet.src data surroundings.now).1) :
      Course node surroundings frame (.delivered (.queued packet.src entry.id))
        [.queued entry] (node.absorbedRing.insert packet.fingerprint)
  | reported {packet : Packet} {code : UInt8}
      (admitted : Node.examine node.absorbedRing frame = .ok packet)
      (own : packet.dest = node.address) (duty : node.duty = .controller)
      (content : packet.content = .fault code) :
      Course node surroundings frame (.delivered (.faultReported packet.src code))
        [.notified packet.src (.faultReported code)]
        (node.absorbedRing.insert packet.fingerprint)
  | ignored {packet : Packet}
      (admitted : Node.examine node.absorbedRing frame = .ok packet)
      (own : packet.dest = node.address)
      (idle : node.duty = .controller ↔ packet.kind = .request) :
      Course node surroundings frame (.delivered (.ignored packet.kind)) []
        (node.absorbedRing.insert packet.fingerprint)
  | replied {packet : Packet} {probe : Probe}
      (admitted : Node.examine node.absorbedRing frame = .ok packet)
      (own : packet.dest = node.address) (duty : node.duty = .sensor probe)
      (asked : packet.kind = .request) (accepted : surroundings.verdict = none) :
      Course node surroundings frame
        (.delivered
          (.replied packet.src (node.reply packet probe.read.1).kind
            (node.reply packet probe.read.1).fingerprint))
        [.probed probe.read.1, .sent (node.reply packet probe.read.1).frame]
        ((node.absorbedRing.insert packet.fingerprint).insert
          (node.reply packet probe.read.1).fingerprint)
  | replyFailed {packet : Packet} {probe : Probe} {fault : RadioFault}
      (admitted : Node.examine node.absorbedRing frame = .ok packet)
      (own : packet.dest = node.address) (duty : node.duty = .sensor probe)
      (asked : packet.kind = .request) (refused : surroundings.verdict = some fault) :
      Course node surroundings frame
        (.replyFailed
          { dest := packet.src
            fingerprint := (node.reply packet probe.read.1).fingerprint
            fault })
        [.probed probe.read.1] (node.absorbedRing.insert packet.fingerprint)

namespace Node

/-- The node once a frame is counted and everything announced is remembered. -/
def received (node : Node) : Node :=
  { node with
    announced := []
    ring := node.absorbedRing
    tally := { node.tally with received := node.tally.received + 1 } }

theorem process_of_refused {node : Node} {frame : Bytes} {reason : DropReason}
    (surroundings : Surroundings) (refused : examine node.absorbedRing frame = .error reason) :
    node.process surroundings frame =
      { outcome := .dropped reason
        node := { node.received with tally := node.received.tally.drop reason }
        effects := node.absorb.2 } := by
  have absorbed := absorb_node node
  unfold process
  rw [show node.absorb = (node.absorb.1, node.absorb.2) from rfl, absorbed]
  simp only [refused]
  rfl

def prepared (node : Node) (packet : Packet) : Node :=
  { node with ring := node.ring.insert packet.fingerprint }

def acting (node : Node) (packet : Packet) : Node := node.received.prepared packet

def handle (node : Node) (surroundings : Surroundings) (packet : Packet) : Reaction :=
  if packet.dest = node.address then (node.acting packet).deliver surroundings packet
  else (node.acting packet).forward surroundings packet

private theorem act_received (node : Node) (surroundings : Surroundings) (packet : Packet) :
    node.received.act surroundings packet =
      { node.handle surroundings packet with
        effects :=
          (node.received.remember packet.fingerprint).2 ++
            (node.handle surroundings packet).effects } := by
  have remembered := remember_node node.received packet.fingerprint
  unfold act
  rw [show node.received.remember packet.fingerprint =
    ((node.received.remember packet.fingerprint).1,
      (node.received.remember packet.fingerprint).2) from rfl, remembered]
  rfl

theorem process_eq_handle {node : Node} {surroundings : Surroundings} {frame : Bytes}
    {packet : Packet} (admitted : examine node.absorbedRing frame = .ok packet) :
    node.process surroundings frame =
      { node.handle surroundings packet with
        effects :=
          node.absorb.2 ++
            ((node.received.remember packet.fingerprint).2 ++
              (node.handle surroundings packet).effects) } := by
  have absorbed := absorb_node node
  have acted := node.act_received surroundings packet
  unfold process
  rw [show node.absorb = (node.absorb.1, node.absorb.2) from rfl, absorbed]
  simp only [admitted]
  exact congrArg (fun reaction : Reaction =>
    { reaction with effects := node.absorb.2 ++ reaction.effects }) acted

/-- Of the way to the work only that work is seen, but for saves. -/
theorem deeds_process {node : Node} {surroundings : Surroundings} {frame : Bytes}
    {packet : Packet} (admitted : examine node.absorbedRing frame = .ok packet) :
    (node.process surroundings frame).outcome = (node.handle surroundings packet).outcome ∧
      (node.process surroundings frame).node = (node.handle surroundings packet).node ∧
      deeds (node.process surroundings frame).effects =
        deeds (node.handle surroundings packet).effects := by
  rw [process_eq_handle admitted]
  refine ⟨rfl, rfl, ?_⟩
  simp only [deeds_append, deeds_absorb, deeds_remember, List.nil_append]

/-- Everything that the work on a packet can be, for a node that has just remembered it. -/
inductive Handles (node : Node) (surroundings : Surroundings) (packet : Packet) :
    Reaction → Prop
  | forwards (foreign : packet.dest ≠ node.address) (accepted : surroundings.verdict = none) :
      Handles node surroundings packet
        { outcome := .forwarded packet.kind (packet.hops - 1)
          node :=
            { node with tally := { node.tally with forwarded := node.tally.forwarded + 1 } }
          effects := [.sent packet.passedOn.frame] }
  | failsToForward {fault : RadioFault} (foreign : packet.dest ≠ node.address)
      (refused : surroundings.verdict = some fault) :
      Handles node surroundings packet
        { outcome := .forwardFailed packet.kind fault
          node :=
            { node with
              tally := { node.tally with sendFailures := node.tally.sendFailures + 1 } }
          effects := [] }
  | queues {data : Reading} {entry : Entry} {queue : Queue}
      (own : packet.dest = node.address) (duty : node.duty = .controller)
      (content : packet.content = .reading data)
      (pushed : node.queue.push packet.dest packet.src data surroundings.now =
        (entry, queue)) :
      Handles node surroundings packet
        { outcome := .delivered (.queued packet.src entry.id)
          node :=
            { node with
              queue
              tally := { node.tally with delivered := node.tally.delivered + 1 } }
          effects := [.queued entry] }
  | reports {code : UInt8} (own : packet.dest = node.address)
      (duty : node.duty = .controller) (content : packet.content = .fault code) :
      Handles node surroundings packet
        { outcome := .delivered (.faultReported packet.src code)
          node :=
            { node with
              status := node.status.note packet.src (.faultReported code)
              tally := { node.tally with delivered := node.tally.delivered + 1 } }
          effects := [.notified packet.src (.faultReported code)] }
  | ignores (own : packet.dest = node.address)
      (idle : node.duty = .controller ↔ packet.kind = .request) :
      Handles node surroundings packet
        { outcome := .delivered (.ignored packet.kind)
          node :=
            { node with tally := { node.tally with delivered := node.tally.delivered + 1 } }
          effects := [] }
  | replies {probe : Probe} {reply : Packet} {saves : List Effect}
      (own : packet.dest = node.address) (duty : node.duty = .sensor probe)
      (asked : packet.kind = .request) (replyEq : reply = node.reply packet probe.read.1)
      (saved : saves = (node.remember reply.fingerprint).2)
      (accepted : surroundings.verdict = none) :
      Handles node surroundings packet
        { outcome := .delivered (.replied packet.src reply.kind reply.fingerprint)
          node :=
            { node with
              duty := .sensor probe.read.2
              ring := node.ring.insert reply.fingerprint
              sequence := node.sequence + 1
              tally := { node.tally with delivered := node.tally.delivered + 1 } }
          effects := [.probed probe.read.1, .sent reply.frame] ++ saves }
  | failsToReply {probe : Probe} {reply : Packet} {fault : RadioFault}
      (own : packet.dest = node.address) (duty : node.duty = .sensor probe)
      (asked : packet.kind = .request) (replyEq : reply = node.reply packet probe.read.1)
      (refused : surroundings.verdict = some fault) :
      Handles node surroundings packet
        { outcome := .replyFailed { dest := packet.src, fingerprint := reply.fingerprint, fault }
          node :=
            { node with
              duty := .sensor probe.read.2
              tally :=
                { node.tally with
                  delivered := node.tally.delivered + 1
                  sendFailures := node.tally.sendFailures + 1 } }
          effects := [.probed probe.read.1] }

private theorem handles_forward {node : Node} {packet : Packet} (surroundings : Surroundings)
    (foreign : packet.dest ≠ node.address) :
    node.Handles surroundings packet (node.forward surroundings packet) := by
  cases verdict : surroundings.verdict with
  | none =>
      simp only [forward, framed_eq, vet_frame, verdict]
      exact .forwards foreign verdict
  | some fault =>
      simp only [forward, framed_eq, vet_frame, verdict]
      exact .failsToForward foreign verdict

/-- What is saved with a fingerprint depends on the memory alone. -/
theorem saves_of_ring_eq {first second : Node} (same : first.ring = second.ring)
    (fingerprint : Fingerprint) :
    (first.remember fingerprint).2 = (second.remember fingerprint).2 := by
  unfold remember
  rw [same]
  cases second.ring.insert? fingerprint <;> rfl

private theorem handles_deliver {node : Node} {packet : Packet} (surroundings : Surroundings)
    (own : packet.dest = node.address) :
    node.Handles surroundings packet (node.deliver surroundings packet) := by
  cases duty : node.duty with
  | controller =>
      cases content : packet.content with
      | request meshSize =>
          have kindEq : packet.kind = .request := by rw [Packet.kind, content]; rfl
          simp only [deliver, dispatch, duty, content]
          rw [← kindEq, ← duty]
          exact .ignores own (by simp [duty, kindEq])
      | reading data =>
          simp only [deliver, dispatch, duty, content]
          rw [← duty]
          exact .queues own duty content rfl
      | fault code =>
          simp only [deliver, dispatch, duty, content]
          rw [← duty]
          exact .reports own duty content
  | sensor probe =>
      cases content : packet.content with
      | request meshSize =>
          have kindEq : packet.kind = .request := by rw [Packet.kind, content]; rfl
          cases verdict : surroundings.verdict with
          | none =>
              simp only [deliver, dispatch, duty, content, answer, vet_frame, verdict]
              rw [remember_node]
              refine .replies own duty kindEq rfl ?_ verdict
              apply saves_of_ring_eq
              rfl
          | some fault =>
              simp only [deliver, dispatch, duty, content, answer, vet_frame, verdict]
              exact .failsToReply own duty kindEq rfl verdict
      | reading data =>
          have kindEq : packet.kind = .reading := by rw [Packet.kind, content]; rfl
          simp only [deliver, dispatch, duty, content]
          rw [← duty]
          exact .ignores own (by simp [duty, kindEq])
      | fault code =>
          have kindEq : packet.kind = .fault := by rw [Packet.kind, content]; rfl
          simp only [deliver, dispatch, duty, content]
          rw [← duty]
          exact .ignores own (by simp [duty, kindEq])

theorem handles (node : Node) (surroundings : Surroundings) (packet : Packet) :
    (node.acting packet).Handles surroundings packet (node.handle surroundings packet) := by
  unfold handle
  by_cases own : packet.dest = node.address
  · rw [if_pos own]
    exact handles_deliver surroundings own
  · rw [if_neg own]
    exact handles_forward surroundings own

/-! ### The guards -/

/-- A packet passes exactly if every guard lets it. -/
theorem examine_eq_ok_iff {ring : Ring} {frame : Bytes} {packet : Packet} :
    examine ring frame = .ok packet ↔
      shortestFrame ≤ frame.length ∧ Checksum.isSealed frame = true ∧
        Packet.decode frame = .ok packet ∧ packet.hops ≠ 0 ∧
        ring.contains packet.fingerprint = false := by
  unfold examine
  by_cases short : frame.length < shortestFrame
  · rw [if_pos short]
    refine ⟨fun passed => (by cases passed), fun ⟨longEnough, _⟩ => ?_⟩
    exact absurd short (by omega)
  · rw [if_neg short]
    have longEnough : shortestFrame ≤ frame.length := by omega
    cases closes : Checksum.isSealed frame with
    | false => simp
    | true =>
        simp only [not_true_eq_false, if_false, longEnough, true_and]
        cases reads : Packet.decode frame with
        | error failure => simp
        | ok heard =>
            by_cases spent : heard.hops = 0
            · simp only [if_pos spent]
              refine ⟨fun passed => (by cases passed), fun ⟨same, alive, _⟩ => ?_⟩
              cases same
              exact absurd spent alive
            · simp only [if_neg spent]
              cases known : ring.contains heard.fingerprint with
              | false =>
                  simp only [Bool.false_eq_true, if_false, Except.ok.injEq]
                  constructor
                  · intro same
                    subst same
                    exact ⟨rfl, spent, known⟩
                  · intro passed
                    exact passed.1
              | true =>
                  simp only [if_true]
                  refine ⟨fun passed => (by cases passed), fun ⟨same, _, fresh⟩ => ?_⟩
                  cases same
                  rw [known] at fresh
                  cases fresh

/-- What comes of a packet for others is up to the radio's verdict alone. -/
theorem process_of_foreign {node : Node} {surroundings : Surroundings} {heard : Bytes}
    {packet : Packet} (admitted : examine node.absorbedRing heard = .ok packet)
    (foreign : packet.dest ≠ node.address) :
    match surroundings.verdict with
    | none =>
        (node.process surroundings heard).outcome =
            .forwarded packet.kind (packet.hops - 1) ∧
          sentFrames (node.process surroundings heard).effects = [packet.passedOn.frame]
    | some fault =>
        (node.process surroundings heard).outcome = .forwardFailed packet.kind fault ∧
          sentFrames (node.process surroundings heard).effects = [] := by
  obtain ⟨outcomeEq, _, deedsEq⟩ := @deeds_process node surroundings heard packet admitted
  rw [outcomeEq, ← sentFrames_deeds, deedsEq, sentFrames_deeds]
  have handled := node.handles surroundings packet
  generalize node.handle surroundings packet = reaction at handled ⊢
  cases handled with
  | forwards _ accepted =>
      rw [accepted]
      exact ⟨rfl, rfl⟩
  | failsToForward _ refused =>
      rw [refused]
      exact ⟨rfl, rfl⟩
  | queues own | reports own | ignores own | replies own | failsToReply own =>
      exact absurd own foreign

end Node

private theorem course_of_admitted {node : Node} {frame : Bytes} {packet : Packet}
    (surroundings : Surroundings)
    (admitted : Node.examine node.absorbedRing frame = .ok packet) :
    Course node surroundings frame (node.handle surroundings packet).outcome
      (deeds (node.handle surroundings packet).effects)
      (node.handle surroundings packet).node.ring := by
  have handled := node.handles surroundings packet
  generalize node.handle surroundings packet = reaction at handled ⊢
  cases handled with
  | forwards foreign accepted => exact .forwarded admitted foreign accepted
  | failsToForward foreign refused => exact .forwardFailed admitted foreign refused
  | queues own duty content pushed =>
      exact .queued admitted own duty content (congrArg Prod.fst pushed).symm
  | reports own duty content => exact .reported admitted own duty content
  | ignores own idle => exact .ignored admitted own idle
  | replies own duty asked replyEq saved accepted =>
      subst replyEq saved
      rw [deeds_append, Node.deeds_remember]
      exact .replied admitted own duty asked accepted
  | failsToReply own duty asked replyEq refused =>
      subst replyEq
      exact .replyFailed admitted own duty asked refused

/-! ### What no course changes -/

namespace Node

private theorem handle_keeps (node : Node) (surroundings : Surroundings) (packet : Packet) :
    (node.handle surroundings packet).node.address = node.address ∧
      (node.handle surroundings packet).node.announced = [] := by
  have handled := node.handles surroundings packet
  generalize node.handle surroundings packet = reaction at handled ⊢
  cases handled with
  | forwards | failsToForward | queues | reports | ignores | replies | failsToReply =>
      exact ⟨rfl, rfl⟩

/-- The address stays, and nothing announced is left over. -/
theorem process_keeps (node : Node) (surroundings : Surroundings) (frame : Bytes) :
    (node.process surroundings frame).node.address = node.address ∧
      (node.process surroundings frame).node.announced = [] := by
  cases examined : examine node.absorbedRing frame with
  | error reason =>
      rw [process_of_refused surroundings examined]
      exact ⟨rfl, rfl⟩
  | ok packet =>
      rw [(deeds_process examined).2.1]
      exact node.handle_keeps surroundings packet

end Node

/-! ### The inversion -/

/-- Every frame takes one of the courses. -/
theorem course_process (node : Node) (surroundings : Surroundings) (frame : Bytes) :
    Course node surroundings frame (node.process surroundings frame).outcome
      (deeds (node.process surroundings frame).effects)
      (node.process surroundings frame).node.ring := by
  cases examined : Node.examine node.absorbedRing frame with
  | error reason =>
      rw [Node.process_of_refused surroundings examined]
      simp only [Node.deeds_absorb]
      exact .dropped examined
  | ok packet =>
      obtain ⟨outcomeEq, nodeEq, deedsEq⟩ :=
        @Node.deeds_process node surroundings frame packet examined
      rw [outcomeEq, nodeEq, deedsEq]
      exact course_of_admitted surroundings examined

/-- At most one frame goes out: the admitted packet with one hop less, or the
reply to it. -/
theorem Course.sent {node : Node} {surroundings : Surroundings} {frame : Bytes}
    {outcome : Outcome} {done : List Effect} {ring : Ring}
    (course : Course node surroundings frame outcome done ring) :
    sentFrames done = [] ∨
      ∃ packet, Node.examine node.absorbedRing frame = .ok packet ∧
        (sentFrames done = [packet.passedOn.frame] ∨
          packet.kind = .request ∧
            ∃ answer, sentFrames done = [(node.reply packet answer).frame]) := by
  cases course with
  | dropped refused => exact .inl rfl
  | @forwarded packet admitted foreign accepted => exact .inr ⟨packet, admitted, .inl rfl⟩
  | forwardFailed admitted foreign refused => exact .inl rfl
  | queued admitted own duty content entryEq => exact .inl rfl
  | reported admitted own duty content => exact .inl rfl
  | ignored admitted own idle => exact .inl rfl
  | @replied packet probe admitted own duty asked accepted =>
      exact .inr ⟨packet, admitted, .inr ⟨asked, probe.read.1, rfl⟩⟩
  | replyFailed admitted own duty asked refused => exact .inl rfl

/-- Only a refused frame is dropped. -/
theorem Course.refused {node : Node} {surroundings : Surroundings} {frame : Bytes}
    {outcome : Outcome} {done : List Effect} {ring : Ring} {reason : DropReason}
    (course : Course node surroundings frame outcome done ring)
    (dropped : outcome = .dropped reason) :
    Node.examine node.absorbedRing frame = .error reason := by
  cases course with
  | dropped refused =>
      cases dropped
      exact refused
  | forwarded | forwardFailed | queued | reported | ignored | replied | replyFailed =>
      cases dropped

/-! ### The memory after a frame -/

theorem Node.capacity_absorbedRing (node : Node) :
    node.absorbedRing.capacity = node.ring.capacity :=
  Ring.capacity_foldl_insert _ _

/-- Work on a frame does not change the capacity. -/
theorem Course.capacity {node : Node} {surroundings : Surroundings} {frame : Bytes}
    {outcome : Outcome} {done : List Effect} {ring : Ring}
    (course : Course node surroundings frame outcome done ring) :
    ring.capacity = node.ring.capacity := by
  cases course with
  | dropped => exact node.capacity_absorbedRing
  | forwarded | forwardFailed | queued | reported | ignored | replyFailed =>
      rw [Ring.capacity_insert, node.capacity_absorbedRing]
  | replied =>
      rw [Ring.capacity_insert, Ring.capacity_insert, node.capacity_absorbedRing]

/-! ### What work leaves of a node -/

def Effect.isRead : Effect → Bool
  | .probed _ => true
  | _ => false

/-- How often a probe was read. -/
def readsIn (effects : List Effect) : Nat := effects.countP Effect.isRead

theorem readsIn_deeds (effects : List Effect) : readsIn (deeds effects) = readsIn effects := by
  unfold readsIn deeds
  rw [List.countP_filter]
  congr 1
  funext effect
  cases effect <;> rfl

/-- A duty after its probe, if it has one, was read so often. -/
def Duty.readOn : Duty → Nat → Duty
  | .controller, _ => .controller
  | .sensor probe, reads => .sensor { probe with reads := probe.reads + reads }

@[simp] theorem Duty.readOn_zero (duty : Duty) : duty.readOn 0 = duty := by
  cases duty <;> rfl

theorem Duty.readOn_add (duty : Duty) (first second : Nat) :
    duty.readOn (first + second) = (duty.readOn first).readOn second := by
  cases duty with
  | controller => rfl
  | sensor probe =>
      simp only [readOn]
      rw [Nat.add_assoc]

theorem Duty.of_readOn_controller {duty : Duty} {reads : Nat}
    (later : duty.readOn reads = .controller) : duty = .controller := by
  cases duty with
  | controller => rfl
  | sensor probe => cases later

theorem Duty.of_readOn_sensor {duty : Duty} {reads : Nat} {probe : Probe}
    (later : duty.readOn reads = .sensor probe) :
    ∃ first, duty = .sensor first ∧ probe = { first with reads := first.reads + reads } := by
  cases duty with
  | controller => cases later
  | sensor first => exact ⟨first, rfl, (Duty.sensor.inj later).symm⟩

private theorem Queue.mem_of_push {queue pushedOnto : Queue} {dest src : Address} {data : Reading}
    {now : Nat} {entry new : Entry} (pushed : queue.push dest src data now = (new, pushedOnto))
    (lies : entry ∈ pushedOnto.entries) : entry ∈ queue.entries ∨ entry = new := by
  cases pushed
  rcases List.mem_append.mp lies with kept | last
  · left
    unfold Queue.keptForPush at kept
    split at kept
    · exact List.mem_of_mem_drop kept
    · exact kept
  · exact .inr (List.mem_singleton.mp last)

namespace Node

structure Worked (before after : Node) (outcome : Outcome) (effects : List Effect) : Prop where
  duty : after.duty = before.duty.readOn (readsIn (deeds effects))
  queue : ∀ entry ∈ after.queue.entries,
    entry ∈ before.queue.entries ∨ .queued entry ∈ deeds effects
  idle : outcome.isDispatch = false →
    after.duty = before.duty ∧ after.sequence = before.sequence

private theorem worked_handle (node : Node) (surroundings : Surroundings) (packet : Packet) :
    Worked node (node.handle surroundings packet).node
      (node.handle surroundings packet).outcome
      (node.handle surroundings packet).effects := by
  have handled := node.handles surroundings packet
  generalize node.handle surroundings packet = reaction at handled ⊢
  cases handled with
  | forwards | failsToForward =>
      exact ⟨(Duty.readOn_zero _).symm, fun _ lies => .inl lies, fun _ => ⟨rfl, rfl⟩⟩
  | reports | ignores =>
      exact ⟨(Duty.readOn_zero _).symm, fun _ lies => .inl lies,
        fun impossible => by cases impossible⟩
  | queues own duty content pushed =>
      refine ⟨(Duty.readOn_zero _).symm, fun entry lies => ?_,
        fun impossible => by cases impossible⟩
      rcases Queue.mem_of_push pushed lies with kept | new
      · exact .inl kept
      · rw [new]
        exact .inr (List.mem_singleton_self _)
  | replies own duty asked replyEq saved =>
      refine ⟨?_, fun _ lies => .inl lies, fun impossible => by cases impossible⟩
      rw [saved, deeds_append, deeds_remember, show node.duty = _ from duty]
      rfl
  | failsToReply own duty =>
      refine ⟨?_, fun _ lies => .inl lies, fun impossible => by cases impossible⟩
      rw [show node.duty = _ from duty]
      rfl

theorem worked_process (node : Node) (surroundings : Surroundings) (frame : Bytes) :
    Worked node (node.process surroundings frame).node
      (node.process surroundings frame).outcome
      (node.process surroundings frame).effects := by
  cases examined : examine node.absorbedRing frame with
  | error reason =>
      rw [process_of_refused surroundings examined]
      refine ⟨?_, fun entry lies => .inl lies, fun _ => ⟨rfl, rfl⟩⟩
      rw [deeds_absorb]
      exact (Duty.readOn_zero _).symm
  | ok packet =>
      obtain ⟨outcomeEq, nodeEq, deedsEq⟩ :=
        @deeds_process node surroundings frame packet examined
      obtain ⟨duty, queue, idle⟩ := node.worked_handle surroundings packet
      rw [← nodeEq, ← deedsEq] at duty queue
      rw [← nodeEq, ← outcomeEq] at idle
      exact ⟨duty, queue, idle⟩

end Node

end FloodMesh
